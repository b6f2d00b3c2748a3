import EntryPoints.Proofs.TypeTable.Change

/-! Arrays are interned: in every reached table the type made for an element type is its one array
type, and it is newer than its element.
-/

namespace EntryPoints.TypeTable

------------------------------------------------------------------------------------------
-- Arrays after an operation

/-- The array type of an element, as it is made. -/
def arraySymbol (table : TypeTable) (element : TypeId) : TypeSymbol where
  name := arrayName (table.displayName element)
  kind := .array element

/-- A known array is found, and the table stays as it is. -/
theorem arrayOf_of_known {table : TypeTable} {element array : TypeId}
    (known : table.arrayType? element = some array)
    : table.arrayOf element = (array, table) := by
  simp [arrayOf, known]

/-- An array that is not known yet is the next type, and known from then on. -/
theorem arrayOf_of_new {table : TypeTable} {element : TypeId}
    (new : table.arrayType? element = none)
    : table.arrayOf element
      = (⟨table.typeCount⟩,
        { (table.addType (table.arraySymbol element)).2 with
          arrays := (element, ⟨table.typeCount⟩) :: table.arrays }) := by
  simp [arrayOf, new, addType, typeCount, arraySymbol]

/-- Interning an array changes the symbol of a new array at most. -/
theorem symbol_arrayOf (table : TypeTable) (element type : TypeId)
    : (table.arrayOf element).2.symbol type
      = if table.arrayType? element = none ∧ type = ⟨table.typeCount⟩ then
          table.arraySymbol element
        else table.symbol type := by
  cases known : table.arrayType? element with
  | some array => simp [arrayOf_of_known known]
  | none =>
      rw [arrayOf_of_new known]
      simp only [true_and]
      exact symbol_addType table (table.arraySymbol element) type

/-- The array that was asked for is known afterwards, and so are those known before; by cases on
whether it was.
-/
@[simp]
theorem arrayType?_arrayOf (table : TypeTable) (element other : TypeId)
    : (table.arrayOf element).2.arrayType? other
      = if other = element then some (table.arrayOf element).1 else table.arrayType? other := by
  cases known : table.arrayType? element with
  | some array =>
      rw [arrayOf_of_known known]
      split
      · next same => rw [same, known]
      · rfl
  | none =>
      rw [arrayOf_of_new known, arrayType?, List.lookup_cons]
      by_cases same : other = element
      · simp [same]
      · simp [same, beq_eq_false_iff_ne.mpr same, arrayType?]

/-- Interning an array leaves the generic tasks alone. -/
theorem genericTasks_arrayOf (table : TypeTable) (element : TypeId)
    : (table.arrayOf element).2.genericTasks = table.genericTasks := by
  unfold arrayOf
  split <;> rfl

/-- An operation that leaves the arrays alone: it makes none, and changes none. -/
structure KeepsArrays (table later : TypeTable) : Prop where
  arrays : later.arrays = table.arrays
  kind
    : ∀ type element,
        (later.symbol type).kind = .array element ↔ (table.symbol type).kind = .array element

namespace KeepsArrays

/-- Nothing that is done keeps the arrays. -/
theorem refl (table : TypeTable) : KeepsArrays table table :=
  ⟨rfl, fun _ _ => .rfl⟩

/-- Two changes that keep the arrays do so one after the other. -/
theorem trans {first second third : TypeTable} (h : KeepsArrays first second)
    (h' : KeepsArrays second third)
    : KeepsArrays first third :=
  ⟨h'.arrays.trans h.arrays, fun type element => (h'.kind type element).trans (h.kind type element)⟩

/-- What a table remembers besides its arrays makes no difference. -/
theorem remember (table : TypeTable) (genericTasks : List (TypeId × TypeId))
    (task : Option TypeId)
    : KeepsArrays table { table with genericTasks, task } :=
  ⟨rfl, fun _ _ => .rfl⟩

/-- A new type that is no array keeps the arrays, since nothing with its id was an array before. -/
theorem addType (table : TypeTable) {symbol : TypeSymbol}
    (noArray : ∀ element, symbol.kind ≠ .array element)
    : KeepsArrays table (table.addType symbol).2 := by
  refine ⟨rfl, fun type element => ?_⟩
  rw [symbol_addType]
  split
  · next new =>
    have absent : ¬ table.Has type := by
      rw [new]
      exact Nat.lt_irrefl _
    refine iff_of_false (noArray element) (fun kind => absent (has_of_kind_ne_error ?_))
    simp [kind]
  · rfl

/-- A change of one type keeps the arrays if it makes none of it and none out of it. -/
theorem modifyType (table : TypeTable) (changed : TypeId) {change : TypeSymbol → TypeSymbol}
    (kind
      : ∀ symbol element, (change symbol).kind = .array element ↔ symbol.kind = .array element)
    : KeepsArrays table (table.modifyType changed change) := by
  refine ⟨rfl, fun type element => ?_⟩
  rw [symbol_modifyType]
  split
  · exact kind _ element
  · rfl

/-- Setting a base keeps the arrays, as only named types have one. -/
theorem setBase (table : TypeTable) (type base : TypeId)
    : KeepsArrays table (table.setBase type base) := by
  refine modifyType table type (fun symbol element => ?_)
  unfold TypeSymbol.withBase
  split <;> simp [*]

/-- Declaring a method keeps the arrays, since a member leaves the kind of its type alone. -/
theorem defineMethod (table : TypeTable) (containing : TypeId) (signature : MethodSignature)
    : KeepsArrays table (table.defineMethod containing signature).2 := by
  let extended := { table with methods := table.methods.push (signature.declaredOn containing) }
  have unchanged : KeepsArrays table extended := ⟨rfl, fun _ _ => .rfl⟩
  exact unchanged.trans (modifyType extended containing (fun _ _ => .rfl))

/-- Making the platform's future types keeps the arrays, change by change: both types are named
ones.
-/
theorem definePlatformTasks (table : TypeTable)
    : KeepsArrays table table.definePlatformTasks.2 := by
  unfold TypeTable.definePlatformTasks
  split
  · exact .refl table
  · refine trans ?_ (remember _ _ _)
    refine trans ?_ (defineMethod _ _ _)
    refine trans ?_ (addType _ (by simp))
    refine trans ?_ (defineMethod _ _ _)
    exact addType table (by simp)

/-- So does making a generic task, behind those. -/
theorem taskOf (table : TypeTable) (result : TypeId)
    : KeepsArrays table (table.taskOf result).2 := by
  unfold TypeTable.taskOf
  split
  · exact .refl table
  · refine trans ?_ (remember _ _ _)
    refine trans ?_ (defineMethod _ _ _)
    refine trans ?_ (addType _ (by simp))
    refine trans ?_ (defineMethod _ _ _)
    exact (definePlatformTasks table).trans (addType _ (by simp))

end KeepsArrays

/-- An operation interns one array or leaves the arrays alone.
By cases on the operation, since only the one that asks for an array makes any.
-/
theorem Operation.keepsArrays (table : TypeTable) (operation : Operation)
    : KeepsArrays table (operation.apply table)
      ∨ ∃ element, operation = .arrayOf element := by
  cases operation with
  | arrayOf element => exact Or.inr ⟨element, rfl⟩
  | defineType name kind base => exact Or.inl (.addType table (by simp))
  | setBase type base => exact Or.inl (.setBase table type base)
  | setUseSite type info => exact Or.inl (.modifyType table type (fun _ _ => .rfl))
  | defineMethod containing signature => exact Or.inl (.defineMethod table containing signature)
  | defineField containing name type =>
      exact Or.inl (.modifyType table containing (fun _ _ => .rfl))
  | registerTask type => exact Or.inl (.remember table _ _)
  | definePlatformTasks => exact Or.inl (.definePlatformTasks table)
  | taskOf result => exact Or.inl (.taskOf table result)

------------------------------------------------------------------------------------------
-- Interned arrays

/-- The arrays of a table: each element type has the one array that the table knows, which is
newer than the element, and the special types that a new table has arrays of keep theirs.
-/
structure ArraysInterned (table : TypeTable) : Prop where
  known
    : ∀ {element array : TypeId},
        table.arrayType? element = some array ↔ (table.symbol array).kind = .array element
  older
    : ∀ {element array : TypeId},
        (table.symbol array).kind = .array element → element.index < array.index
  special : ∀ special ∈ arrayElements, (table.arrayType? special.id).isSome

namespace ArraysInterned

/-- Interned arrays stay so under all that keeps the arrays. -/
theorem keep {table later : TypeTable} (interned : table.ArraysInterned)
    (keeps : KeepsArrays table later)
    : later.ArraysInterned := by
  refine ⟨fun {element array} => ?_, fun {element array} kind => ?_, ?_⟩
  · rw [keeps.kind, ← interned.known, arrayType?, keeps.arrays, arrayType?]
  · exact interned.older ((keeps.kind array element).mp kind)
  · simpa only [arrayType?, keeps.arrays] using interned.special

/-- A new array is the only one of its element, since the table knew none.
The cases are whether the type asked about is the new one, and whether the element is; in none of
them do two arrays have one element, as an id that is not given out is not that of an array.
-/
theorem arrayOf {table : TypeTable} (interned : table.ArraysInterned) {element : TypeId}
    (there : table.Has element)
    : (table.arrayOf element).2.ArraysInterned := by
  cases known : table.arrayType? element with
  | some array =>
      rw [arrayOf_of_known known]
      exact interned
  | none =>
      have made : (table.arrayOf element).1 = ⟨table.typeCount⟩ := by
        rw [arrayOf_of_new known]
      have absent {array : TypeId} {other : TypeId}
          (kind : (table.symbol array).kind = .array other)
          : array ≠ ⟨table.typeCount⟩ := by
        have there : table.Has array := has_of_kind_ne_error (by rw [kind]; nofun)
        rintro rfl
        exact Nat.lt_irrefl _ there
      refine ⟨fun {other array} => ?_, fun {other array} kind => ?_, fun special listed => ?_⟩
      · rw [arrayType?_arrayOf, symbol_arrayOf, made]
        by_cases new : array = ⟨table.typeCount⟩
        · subst new
          have unknown : table.arrayType? other ≠ some ⟨table.typeCount⟩ :=
            fun found => absent (interned.known.mp found) rfl
          by_cases same : other = element
          · simp [same, known, arraySymbol]
          · simp [same, unknown, known, arraySymbol, Ne.symm same]
        · by_cases same : other = element
          · subst same
            have lacks : (table.symbol array).kind ≠ .array other := fun kind => by
              simp [interned.known.mpr kind] at known
            simp [new, lacks, Ne.symm new]
          · simp [same, new, interned.known]
      · rw [symbol_arrayOf] at kind
        split at kind
        · next new =>
          obtain rfl : element = other := by simpa [arraySymbol] using kind
          rw [new.2]
          exact there
        · exact interned.older kind
      · rw [arrayType?_arrayOf]
        split
        · rfl
        · exact interned.special special listed

/-- The arrays of a new table are those of some special types, checked one by one.
Types of the new table are few, so that an array is known under its element is decided for each.
-/
theorem empty : empty.ArraysInterned := by
  have forward
      : ∀ pair ∈ TypeTable.empty.arrays, (TypeTable.empty.symbol pair.2).kind = .array pair.1 := by
    decide
  have backward
      : ∀ index < 11, ∀ element ∈ (TypeTable.empty.symbol ⟨index⟩).element?,
          TypeTable.empty.arrayType? element = some ⟨index⟩ ∧ element.index < index := by
    decide
  have kindKnown {element array : TypeId}
      (kind : (TypeTable.empty.symbol array).kind = .array element)
      : TypeTable.empty.arrayType? element = some array ∧ element.index < array.index := by
    have there : TypeTable.empty.Has array := has_of_kind_ne_error (by rw [kind]; nofun)
    exact backward array.index there element (by simp [TypeSymbol.element?, kind])
  refine ⟨fun {element array} => ⟨fun known => ?_, fun kind => (kindKnown kind).1⟩,
    fun kind => (kindKnown kind).2, by decide⟩
  obtain ⟨before, after, listed, _⟩ := List.lookup_eq_some_iff.mp known
  exact forward (element, array) (by rw [listed]; simp)

end ArraysInterned

/-- The arrays of every reached table are interned, by induction over its operations: each of them
makes one array or leaves them all alone.
-/
theorem Reached.arraysInterned {table : TypeTable} (reached : Reached table)
    : table.ArraysInterned := by
  refine reached.keeps .empty (fun earlier operation interned fits => ?_)
  rcases operation.keepsArrays earlier with keeps | ⟨element, rfl⟩
  · exact interned.keep keeps
  · exact interned.arrayOf (fits element (by simp [Operation.mentioned]))

------------------------------------------------------------------------------------------
-- Use-site diagnostics along the elements

/-- A walk that leads to ever smaller ids ends within as many steps as the first one counts, by
induction on the bound.
-/
theorem follow_succ_of_decreasing {next : TypeId → Option TypeId}
    (decreasing : ∀ type following, next type = some following → following.index < type.index)
    {start : TypeId} {limit : Nat} (enough : start.index ≤ limit)
    : follow next (limit + 1) start = follow next limit start := by
  induction limit generalizing start with
  | zero =>
      cases link : next start with
      | none => simp [follow, link]
      | some following =>
          have smaller := decreasing start following link
          omega
  | succ limit ih =>
      cases link : next start with
      | none => simp [follow, link]
      | some following =>
          have smaller := decreasing start following link
          have rest : follow next (limit + 1) following = follow next limit following :=
            ih (by omega)
          rw [follow, link]
          simp only [rest]
          rw [follow, link]

/-- The element of an array is older than the array, so a walk along elements leads to ever smaller
ids.
-/
theorem ArraysInterned.element?_lt {table : TypeTable} (interned : table.ArraysInterned)
    {type element : TypeId} (link : table.element? type = some element)
    : element.index < type.index := by
  refine interned.older ?_
  unfold TypeTable.element? TypeSymbol.element? at link
  split at link
  · next kind => rw [kind, Option.some.inj link]
  · cases link

/-- A type that is no array is alone on its element chain. -/
theorem elementChain_of_noArray {table : TypeTable} {type : TypeId}
    (noArray : table.element? type = none)
    : table.elementChain type = [type] := by
  unfold elementChain
  cases table.typeCount <;> simp [follow, noArray]

/-- The element chain of an array goes on with the whole chain of its element.
The bound of the walk leaves one step less for the element, which does not matter, as ids get
smaller along the chain.
-/
theorem ArraysInterned.elementChain_of_array {table : TypeTable} (interned : table.ArraysInterned)
    {type element : TypeId} (link : table.element? type = some element)
    : table.elementChain type = type :: table.elementChain element := by
  have decreasing (type element : TypeId) (link : table.element? type = some element)
      : element.index < type.index :=
    interned.element?_lt link
  have smaller := interned.element?_lt link
  have there : table.Has type := by
    refine has_of_kind_ne_error (fun kind => ?_)
    simp [TypeTable.element?, TypeSymbol.element?, kind] at link
  obtain ⟨limit, count⟩ : ∃ limit, table.typeCount = limit + 1 :=
    Nat.exists_eq_succ_of_ne_zero (Nat.ne_zero_of_lt there)
  have inside : type.index < limit + 1 := count ▸ there
  have bounded : follow table.element? (limit + 1) element = follow table.element? limit element :=
    follow_succ_of_decreasing decreasing (by omega)
  unfold elementChain
  rw [count, bounded]
  simp [follow, link]

/-- A type is reported on its use if it carries a diagnostic, and an array also if its element
type is.
-/
theorem ArraysInterned.useSite?_eq {table : TypeTable} (interned : table.ArraysInterned)
    (type : TypeId)
    : table.useSite? type
      = (table.symbol type).useSite.or ((table.element? type).bind table.useSite?) := by
  cases link : table.element? type with
  | none => simp [useSite?, elementChain_of_noArray link]
  | some element =>
      simp only [useSite?, interned.elementChain_of_array link, List.findSome?_cons,
        Option.bind_some]
      cases (table.symbol type).useSite <;> rfl

end EntryPoints.TypeTable
