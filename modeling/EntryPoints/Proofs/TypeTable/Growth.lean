import EntryPoints.Proofs.TypeTable.Arrays

/-! How a table relates to a later one: types outside a set and all methods are as they were, names
stay, and what was interned is found again.
-/

namespace EntryPoints.TypeTable

/-- The symbol of an id within the table is the entry at that place. -/
theorem symbol_of_lt {table : TypeTable} {index : Nat} (inside : index < table.types.size)
    : table.symbol ⟨index⟩ = table.types[index] := by
  simp [TypeTable.symbol, inside]

/-- A type is found by its name if it is the first of that name that is no error type.
The search goes through the types in the order of their ids.
-/
theorem typeByName?_eq_some_iff {table : TypeTable} {name : String} {type : TypeId}
    : table.typeByName? name = some type
      ↔ table.Has type
        ∧ ((table.symbol type).name = name ∧ (table.symbol type).isError = false)
        ∧ ∀ earlier < type.index,
            ¬ ((table.symbol ⟨earlier⟩).name = name
              ∧ (table.symbol ⟨earlier⟩).isError = false) := by
  obtain ⟨index⟩ := type
  simp only [typeByName?, Option.map_eq_some_iff, Array.findIdx?_eq_some_iff_getElem,
    TypeId.mk.injEq, exists_eq_right, Has, typeCount]
  constructor
  · rintro ⟨inside, found, first⟩
    refine ⟨inside, by simpa [symbol_of_lt inside] using found, fun earlier before => ?_⟩
    simpa [symbol_of_lt (Nat.lt_trans before inside)] using first earlier before
  · rintro ⟨inside, found, first⟩
    refine ⟨inside, by simpa [symbol_of_lt inside] using found, fun earlier before => ?_⟩
    simpa [symbol_of_lt (Nat.lt_trans before inside)] using first earlier before

/-- A type found by its name is found again if no type changes its name or turns into an error type,
since new types come behind it.
-/
theorem typeByName?_later {table later : TypeTable} (types : table.typeCount ≤ later.typeCount)
    (same
      : ∀ {type},
          table.Has type
          → (later.symbol type).name = (table.symbol type).name
            ∧ (later.symbol type).isError = (table.symbol type).isError)
    {name : String} {type : TypeId} (found : table.typeByName? name = some type)
    : later.typeByName? name = some type := by
  obtain ⟨there, named, first⟩ := typeByName?_eq_some_iff.mp found
  refine typeByName?_eq_some_iff.mpr
    ⟨Nat.lt_of_lt_of_le there types, ?_, fun earlier before => ?_⟩
  · rw [(same there).1, (same there).2]
    exact named
  · have inside : table.Has ⟨earlier⟩ := Nat.lt_trans before there
    rw [(same inside).1, (same inside).2]
    exact first earlier before

/-- The later table has all that the earlier one has. Only types in the given set may have changed,
and not in their names.
-/
structure Grows (touched : TypeId → Prop) (table later : TypeTable) : Prop where
  types : table.typeCount ≤ later.typeCount
  symbol
    : ∀ {type}, table.Has type → ¬ touched type → later.symbol type = table.symbol type
  name : ∀ {type}, table.Has type → (later.symbol type).name = (table.symbol type).name
  isError
    : ∀ {type}, table.Has type → (later.symbol type).isError = (table.symbol type).isError
  methods : table.methods.size ≤ later.methods.size
  method : ∀ {id}, id.index < table.methods.size → later.method id = table.method id
  arrays
    : ∀ {element array},
        table.arrayType? element = some array → later.arrayType? element = some array
  genericTasks
    : ∀ {result task},
        table.genericTasks.lookup result = some task
        → later.genericTasks.lookup result = some task
  task : later.task = table.task

/-- Nothing that was there has changed. -/
abbrev Extends : TypeTable → TypeTable → Prop :=
  Grows (fun _ => False)

/-- A growing table has all the types that it had. -/
theorem Grows.has {touched : TypeId → Prop} {table later : TypeTable}
    (grows : Grows touched table later) {type : TypeId} (there : table.Has type)
    : later.Has type :=
  Nat.lt_of_lt_of_le there grows.types

namespace Grows

/-- A table grows by nothing from itself, whatever may be touched. -/
theorem refl (touched : TypeId → Prop) (table : TypeTable) : Grows touched table table where
  types := Nat.le_refl _
  symbol _ _ := rfl
  name _ := rfl
  isError _ := rfl
  methods := Nat.le_refl _
  method _ := rfl
  arrays := id
  genericTasks := id
  task := rfl

/-- Growth goes on: what was not touched twice is the same in the end. -/
theorem trans {touched : TypeId → Prop} {first second third : TypeTable}
    (h : Grows touched first second) (h' : Grows touched second third)
    : Grows touched first third where
  types := Nat.le_trans h.types h'.types
  symbol there untouched :=
    (h'.symbol (h.has there) untouched).trans (h.symbol there untouched)
  name there := (h'.name (h.has there)).trans (h.name there)
  isError there := (h'.isError (h.has there)).trans (h.isError there)
  methods := Nat.le_trans h.methods h'.methods
  method there :=
    (h'.method (Nat.lt_of_lt_of_le there h.methods)).trans (h.method there)
  arrays known := h'.arrays (h.arrays known)
  genericTasks known := h'.genericTasks (h.genericTasks known)
  task := h'.task.trans h.task

/-- What is touched may be said less exactly, as far as the earlier table has it, since nothing is
said about the symbols of new types.
-/
theorem mono {touched wider : TypeId → Prop} {table later : TypeTable}
    (h : Grows touched table later) (wide : ∀ type, table.Has type → touched type → wider type)
    : Grows wider table later where
  types := h.types
  symbol {type} there untouched :=
    h.symbol there (fun touch => untouched (wide type there touch))
  name := h.name
  isError := h.isError
  methods := h.methods
  method := h.method
  arrays := h.arrays
  genericTasks := h.genericTasks
  task := h.task

/-- Changes of types that the earlier table does not have do not count. -/
theorem extends_of_new {touched : TypeId → Prop} {table later : TypeTable}
    (h : Grows touched table later) (new : ∀ type, table.Has type → ¬ touched type)
    : Extends table later :=
  h.mono new

/-- A new type changes nothing that was there, because its id was not given out before.
Names, kinds and members are all parts of the symbols, so it is enough that these are the old ones.
-/
theorem addType (table : TypeTable) (symbol : TypeSymbol)
    : Extends table (table.addType symbol).2 := by
  have old {type : TypeId} (there : table.Has type)
      : (table.addType symbol).2.symbol type = table.symbol type := by
    rw [symbol_addType, if_neg]
    rintro rfl
    exact Nat.lt_irrefl _ there
  exact {
    types := by simp [TypeTable.addType, typeCount]
    symbol := fun there _ => old there
    name := fun there => by rw [old there]
    isError := fun there => by rw [old there]
    methods := Nat.le_refl _
    method := fun _ => rfl
    arrays := id
    genericTasks := id
    task := rfl
  }

/-- A change of one type that keeps its name, and keeps it from becoming an error type, touches that
type only.
-/
theorem modifyType (table : TypeTable) (changed : TypeId) {change : TypeSymbol → TypeSymbol}
    (name : ∀ symbol, (change symbol).name = symbol.name)
    (isError : ∀ symbol, (change symbol).isError = symbol.isError)
    : Grows (· = changed) table (table.modifyType changed change) where
  types := by simp [TypeTable.modifyType, typeCount]
  symbol _ untouched := by rw [symbol_modifyType, if_neg (fun both => untouched both.1)]
  name _ := by
    rw [symbol_modifyType]
    split
    · exact name _
    · rfl
  isError _ := by
    rw [symbol_modifyType]
    split
    · exact isError _
    · rfl
  methods := Nat.le_refl _
  method _ := rfl
  arrays := id
  genericTasks := id
  task := rfl

/-- Setting a base touches the type that gets it: its name stays, and it is a named type before and
after.
-/
theorem setBase (table : TypeTable) (type base : TypeId)
    : Grows (· = type) table (table.setBase type base) := by
  refine modifyType table type (fun symbol => ?_) (fun symbol => ?_)
  · unfold TypeSymbol.withBase
    split <;> rfl
  · unfold TypeSymbol.withBase
    split <;> simp [TypeSymbol.isError, *]

/-- Attaching a diagnostic touches the type that gets it. -/
theorem setUseSite (table : TypeTable) (type : TypeId) (info : DiagnosticInfo)
    : Grows (· = type) table (table.setUseSite type info) :=
  modifyType table type (fun _ => rfl) (fun _ => rfl)

/-- Declaring a field touches the type that it is declared on. -/
theorem defineField (table : TypeTable) (containing : TypeId) (name : String) (type : TypeId)
    : Grows (· = containing) table (table.defineField containing name type) :=
  modifyType table containing (fun _ => rfl) (fun _ => rfl)

/-- Declaring a method touches the type that it is declared on, since the entry of the method comes
behind all others.
-/
theorem defineMethod (table : TypeTable) (containing : TypeId) (signature : MethodSignature)
    : Grows (· = containing) table (table.defineMethod containing signature).2 := by
  let extended := { table with methods := table.methods.push (signature.declaredOn containing) }
  have pushed : Grows (· = containing) table extended := {
    types := Nat.le_refl _
    symbol := fun _ _ => rfl
    name := fun _ => rfl
    isError := fun _ => rfl
    methods := by simp [extended]
    method := by
      intro id there
      simp [extended, TypeTable.method, Array.getElem?_push, Nat.ne_of_lt there]
    arrays := id
    genericTasks := id
    task := rfl
  }
  exact pushed.trans (modifyType extended containing (fun _ => rfl) (fun _ => rfl))

/-- Interning an array changes nothing that was there: it is found, or it is a new type.
What it adds to the known arrays is the one of an element that had none, so those known before are
still found.
-/
theorem arrayOf (table : TypeTable) (element : TypeId)
    : Extends table (table.arrayOf element).2 := by
  cases known : table.arrayType? element with
  | some array =>
      rw [arrayOf_of_known known]
      exact .refl _ table
  | none =>
      have added := addType table (table.arraySymbol element)
      have symbols : ∀ type,
          (table.arrayOf element).2.symbol type
            = (table.addType (table.arraySymbol element)).2.symbol type := by
        intro type
        rw [arrayOf_of_new known]
        rfl
      exact {
        types := by
          rw [arrayOf_of_new known]
          exact added.types
        symbol := fun there untouched => (symbols _).trans (added.symbol there untouched)
        name := fun there => by rw [symbols, added.name there]
        isError := fun there => by rw [symbols, added.isError there]
        methods := by
          rw [arrayOf_of_new known]
          exact added.methods
        method := fun there => by
          rw [arrayOf_of_new known]
          exact added.method there
        arrays := by
          intro other array found
          rw [arrayType?_arrayOf, if_neg, found]
          rintro rfl
          simp [known] at found
        genericTasks := fun found => by
          rw [arrayOf_of_new known]
          exact found
        task := by
          rw [arrayOf_of_new known]
          rfl
      }

/-- A type that is found by its name is found again when the table has grown, as names and error
types stay what they are.
-/
theorem typeByName? {touched : TypeId → Prop} {table later : TypeTable}
    (h : Grows touched table later) {name : String} {type : TypeId}
    (found : table.typeByName? name = some type)
    : later.typeByName? name = some type :=
  typeByName?_later h.types (fun there => ⟨h.name there, h.isError there⟩) found

end Grows

end EntryPoints.TypeTable
