import EntryPoints.Manifest.Build
import EntryPoints.Proofs.Manifest.Resolution

/-! The first phase of a build: every declared type gets a place in the table before any base or
member is looked at, and names that are declared twice end the build.
-/

namespace EntryPoints

open TypeTable

------------------------------------------------------------------------------------------
-- The tables that builds start from

/-- A table that knows the arrays of a new one has made each of them as an array of its element, if
it has done so for all of them.
-/
theorem symbol_of_initial_array {table : TypeTable}
    (arrays : table.arrays = TypeTable.empty.arrays)
    (made
      : ∀ pair ∈ TypeTable.empty.arrays, table.symbol pair.2 = table.arraySymbol pair.1)
    {element array : TypeId} (known : table.arrayType? element = some array)
    : table.symbol array = table.arraySymbol element := by
  rw [arrayType?, arrays] at known
  obtain ⟨before, after, listed, _⟩ := List.lookup_eq_some_iff.mp known
  exact made (element, array) (by rw [listed]; simp)

/-- The arrays of a new table are denoted in every table that knows them, by the array of a keyword.
-/
theorem denotes_initial_array {scope : Scope} {table : TypeTable}
    (arrays : table.arrays = TypeTable.empty.arrays) (special : SpecialType) {array : TypeId}
    (known : TypeTable.empty.arrayType? special.id = some array)
    : Denotes scope table (.array (.special special)) array := by
  refine .array (.special special) ?_
  rw [arrayType?, arrays]
  exact known

/-- Each type of a new table but one is denoted in every table that knows the same arrays.
By cases on the eleven types; the one is what stands for a future type that is missing.
-/
theorem denoted_of_lt_eleven {scope : Scope} {table : TypeTable}
    (arrays : table.arrays = TypeTable.empty.arrays) {index : Nat} (initial : index < 11)
    : (⟨index⟩ : TypeId) = missingTask
      ∨ ∃ expression, Denotes scope table expression ⟨index⟩ := by
  match index with
  | 0 => exact .inr ⟨_, .error⟩
  | 1 => exact .inr ⟨_, .special .void⟩
  | 2 => exact .inr ⟨_, .special .boolean⟩
  | 3 => exact .inr ⟨_, .special .int32⟩
  | 4 => exact .inr ⟨_, .special .string⟩
  | 5 => exact .inr ⟨_, .special .object⟩
  | 6 => exact .inr ⟨_, denotes_initial_array arrays .boolean rfl⟩
  | 7 => exact .inr ⟨_, denotes_initial_array arrays .int32 rfl⟩
  | 8 => exact .inr ⟨_, denotes_initial_array arrays .string rfl⟩
  | 9 => exact .inr ⟨_, denotes_initial_array arrays .object rfl⟩
  | 10 => exact .inl rfl

/-- A new table is furnished for a build without the platform's future types, and before anything is
declared.
-/
theorem furnished_empty : Furnished { platformTasks := false } TypeTable.empty where
  reached := ⟨[], trivial, rfl⟩
  initial := by decide
  error := rfl
  special := by
    intro special
    cases special <;> rfl
  array known := symbol_of_initial_array (by rfl) (by decide) known
  missing := rfl
  absent _ := rfl
  platform := nofun
  generic := nofun
  declared := nofun
  denoted := by
    intro type there
    exact denoted_of_lt_eleven rfl there

/-- A table with the platform's future types is furnished for a build with them.
Its two types more are the plain task and its awaiter, which are denoted by their names.
-/
theorem furnished_withPlatformTasks
    : Furnished { platformTasks := true } TypeTable.withPlatformTasks where
  reached := ⟨[.definePlatformTasks], by decide, rfl⟩
  initial := by decide
  error := rfl
  special := by
    intro special
    cases special <;> rfl
  array known := symbol_of_initial_array (by rfl) (by decide) known
  missing := rfl
  absent := nofun
  platform _ := ⟨⟨12⟩, ⟨11⟩, ⟨1⟩, ⟨0⟩, {
    registered := rfl
    holds := ⟨rfl, rfl, rfl, rfl, by decide, by decide⟩
    taskNamed := typeByName?_eq_some_iff.mpr ⟨by decide, by decide, by decide⟩
    awaiterNamed := typeByName?_eq_some_iff.mpr ⟨by decide, by decide, by decide⟩
    undeclared := nofun
  }⟩
  generic := nofun
  declared := nofun
  denoted := by
    rintro ⟨index⟩ there
    have count : index < 13 := there
    rcases Nat.lt_or_ge index 11 with initial | platform
    · exact denoted_of_lt_eleven (by rfl) initial
    · match index with
      | 11 =>
          have registered : TypeTable.withPlatformTasks.task = some ⟨12⟩ := rfl
          exact .inr ⟨.taskAwaiter, .taskAwaiter registered⟩
      | 12 => exact .inr ⟨.task, .task⟩

/-- The table that a build starts from is furnished, by cases on whether the manifest asks for the
platform's future types.
-/
theorem Manifest.furnished_startingTable (manifest : Manifest)
    : Furnished { platformTasks := manifest.platformTasks } manifest.startingTable := by
  cases tasks : manifest.platformTasks with
  | false => simpa [startingTable, tasks] using furnished_empty
  | true => simpa [startingTable, tasks] using furnished_withPlatformTasks

------------------------------------------------------------------------------------------
-- Declaring one type

/-- A declared type before its base and its members are known. -/
def TypeDecl.bareSymbol (declaration : TypeDecl) : TypeSymbol where
  name := declaration.name
  kind := .named declaration.kind none []
  useSite :=
    if declaration.bogus then
      some { code := .bogusType, arguments := [declaration.name] }
    else
      none

/-- Changing the last element of an array is as good as adding it changed. -/
theorem modify_push_size {α : Type} (elements : Array α) (last : α) (change : α → α)
    : (elements.push last).modify elements.size change = elements.push (change last) := by
  refine Array.ext (by simp) (fun index inside inside' => ?_)
  rw [Array.getElem_modify, Array.getElem_push, Array.getElem_push]
  by_cases isLast : elements.size = index
  · subst isLast
    simp
  · have before : index < elements.size := by
      simp only [Array.size_push] at inside'
      omega
    simp [isLast, before]

/-- Declaring a type adds it as it is declared: one that is marked as unusable gets its diagnostic
at once.
-/
theorem Manifest.declareType_eq (declaration : TypeDecl) (table : TypeTable)
    : declareType declaration table = table.addType declaration.bareSymbol := by
  cases bogus : declaration.bogus with
  | false => simp [declareType, defineType, addType, bogus, TypeDecl.bareSymbol]
  | true =>
      simp [declareType, defineType, addType, setUseSite, modifyType, bogus,
        modify_push_size, TypeSymbol.withUseSite, TypeDecl.bareSymbol]

/-- Declaring a type leads from a reached table to a reached one, as it defines the type and marks
it, if at all, when it is there.
-/
theorem Manifest.reached_declareType {table : TypeTable} (reached : table.Reached)
    (declaration : TypeDecl)
    : (declareType declaration table).2.Reached := by
  let define : Operation := .defineType declaration.name declaration.kind none
  have defined : (define.apply table).Reached :=
    reached.apply (by simp [define, Operation.Fits, Operation.mentioned])
  unfold declareType
  dsimp only
  split
  · let mark : Operation :=
      .setUseSite ⟨table.typeCount⟩ { code := .bogusType, arguments := [declaration.name] }
    have fits : mark.Fits (define.apply table) := by
      simp [mark, define, Operation.Fits, Operation.mentioned, Operation.apply, defineType, addType,
        Has, typeCount]
    exact defined.apply fits
  · exact defined

/-- A scope with one more declared type. -/
def Scope.declaring (scope : Scope) (name : String) (type : TypeId) : Scope :=
  { scope with declared := (name, type) :: scope.declared }

/-- A declared name stands for its type, and every other one for what it did before. -/
theorem Scope.find?_declaring (scope : Scope) (declared name : String) (type : TypeId)
    : (scope.declaring declared type).find? name
      = if name = declared then some type else scope.find? name := by
  rw [declaring, find?, List.lookup_cons]
  by_cases same : name = declared
  · simp [same]
  · simp [same, beq_eq_false_iff_ne.mpr same, find?]

/-- Names that are declared already keep their types, as the new one is none of them. -/
theorem Scope.find?_declaring_of_found {scope : Scope} {declared name : String} {type : TypeId}
    (new : scope.find? declared = none) (found : scope.find? name = some type) (added : TypeId)
    : (scope.declaring declared added).find? name = some type := by
  rw [find?_declaring, if_neg, found]
  rintro rfl
  cases new.symm.trans found

/-- Declaring a type of a new name leaves a furnished table.
Only that type is added. It is denoted by its name, and no declared name, array or task of the table
changes.
-/
theorem Furnished.declare {scope : Scope} {table : TypeTable} (furnished : Furnished scope table)
    {declaration : TypeDecl} (new : scope.find? declaration.name = none)
    : Furnished (scope.declaring declaration.name ⟨table.typeCount⟩)
        (table.addType declaration.bareSymbol).2 := by
  have grows := Grows.addType table declaration.bareSymbol
  have reached : (table.addType declaration.bareSymbol).2.Reached := by
    rw [← Manifest.declareType_eq]
    exact Manifest.reached_declareType furnished.reached declaration
  have made
      : Denotes (scope.declaring declaration.name ⟨table.typeCount⟩)
          (table.addType declaration.bareSymbol).2 (.declared declaration.name)
          ⟨table.typeCount⟩ :=
    .declared (by simp [Scope.find?_declaring])
  refine furnished.grow grows reached rfl
    (fun found => Scope.find?_declaring_of_found new found _) nofun ?_ ?_ .inl .inl ?_
  · intro name type found there
    rw [Scope.find?_declaring] at found
    split at found
    · obtain rfl := Option.some.inj found
      exact absurd there (Nat.lt_irrefl _)
    · exact ⟨name, found⟩
  · intro name type found
    rw [Scope.find?_declaring] at found
    rw [symbol_addType]
    split at found
    · next same =>
      obtain rfl := Option.some.inj found
      rw [if_pos rfl]
      exact ⟨same.symm, _, _, rfl⟩
    · have old : type ≠ ⟨table.typeCount⟩ := by
        rintro rfl
        exact Nat.lt_irrefl _ (furnished.declaredThere found)
      rw [if_neg old]
      exact furnished.declared found
  · intro type there
    by_cases last : type = ⟨table.typeCount⟩
    · subst last
      exact .inr ⟨_, made⟩
    · refine .inl ?_
      obtain ⟨index⟩ := type
      simp only [Has, addType, typeCount, Array.size_push, TypeId.mk.injEq] at there last ⊢
      omega

------------------------------------------------------------------------------------------
-- Declaring all types

/-- The types have been declared, each under a name of its own. -/
structure Declared (declarations : List TypeDecl) (scope : Scope) (table : TypeTable) : Prop where
  furnished : Furnished scope table
  bare
    : ∀ declaration ∈ declarations,
        ∃ type,
          scope.find? declaration.name = some type
          ∧ table.symbol type = declaration.bareSymbol
  only
    : ∀ {name type},
        scope.find? name = some type → name ∈ declarations.map TypeDecl.name
  distinct : (declarations.map TypeDecl.name).Nodup

/-- Behind declared types one more of a new name is declared with them.
The earlier types keep their symbols, as their ids are older than that of the new one. They keep
their names, and these are distinct still, because the scope had no type of the new name.
-/
theorem Declared.declare {declarations : List TypeDecl} {scope : Scope} {table : TypeTable}
    (declared : Declared declarations scope table) {declaration : TypeDecl}
    (new : scope.find? declaration.name = none)
    : Declared (declarations ++ [declaration])
        (scope.declaring declaration.name ⟨table.typeCount⟩)
        (table.addType declaration.bareSymbol).2 where
  furnished := declared.furnished.declare new
  bare := by
    intro other listed
    rw [Scope.find?_declaring]
    rcases List.mem_append.mp listed with earlier | last
    · obtain ⟨type, found, symbol⟩ := declared.bare other earlier
      have old : type ≠ ⟨table.typeCount⟩ := by
        rintro rfl
        exact Nat.lt_irrefl _ (declared.furnished.declaredThere found)
      have different : other.name ≠ declaration.name := by
        intro same
        rw [same, new] at found
        cases found
      exact ⟨type, by rw [if_neg different, found], by rw [symbol_addType, if_neg old, symbol]⟩
    · obtain rfl := List.mem_singleton.mp last
      exact ⟨_, if_pos rfl, by simp⟩
  only := by
    intro name type found
    rw [Scope.find?_declaring] at found
    split at found
    · next same => simp [same]
    · have earlier := declared.only found
      simp only [List.map_append, List.mem_append]
      exact .inl earlier
  distinct := by
    rw [List.map_append, List.nodup_append]
    refine ⟨declared.distinct, by simp, ?_⟩
    intro name listed other last same
    obtain rfl := List.mem_singleton.mp last
    obtain ⟨earlier, member, rfl⟩ := List.mem_map.mp listed
    obtain ⟨type, found, _⟩ := declared.bare earlier member
    rw [same, new] at found
    cases found

/-- A type of a new name is declared before those that are left, and is in scope when they come. -/
theorem Manifest.declareTypes_cons {scope : Scope} {declaration : TypeDecl}
    (new : scope.find? declaration.name = none) (table : TypeTable) (rest : List TypeDecl)
    : declareTypes scope table (declaration :: rest)
      = declareTypes (scope.declaring declaration.name ⟨table.typeCount⟩)
          (table.addType declaration.bareSymbol).2 rest := by
  simp [declareTypes, new, declareType_eq, Scope.declaring, addType, typeCount]

/-- The name is the first that repeats an earlier one. -/
def FirstRepeated (names : List String) (name : String) : Prop :=
  ∃ before after, names = before ++ name :: after ∧ before.Nodup ∧ name ∈ before

/-- Names of which one is repeated are not distinct. -/
theorem FirstRepeated.not_nodup {names : List String} {name : String}
    (repeated : FirstRepeated names name)
    : ¬ names.Nodup := by
  obtain ⟨before, after, rfl, _, twice⟩ := repeated
  rw [List.nodup_append]
  rintro ⟨_, _, apart⟩
  exact apart name twice name List.mem_cons_self rfl

/-- One name at most is the first to be repeated.
Of two ways to take the names apart, the one with more names in front would have repeated a name
among these.
-/
theorem FirstRepeated.unique {names : List String} {name other : String}
    (repeated : FirstRepeated names name) (repeated' : FirstRepeated names other)
    : name = other := by
  obtain ⟨before, after, whole, distinct, twice⟩ := repeated
  obtain ⟨before', after', whole', distinct', twice'⟩ := repeated'
  rw [whole] at whole'
  rcases List.append_eq_append_iff.mp whole' with ⟨between, rfl, rest⟩ | ⟨between, rfl, rest⟩
  · cases between with
    | nil => exact (List.cons.inj rest).1
    | cons first between =>
        obtain rfl := (List.cons.inj rest).1
        have earlier : FirstRepeated (before ++ name :: between) name :=
          ⟨before, between, rfl, distinct, twice⟩
        exact absurd distinct' earlier.not_nodup
  · cases between with
    | nil => exact (List.cons.inj rest).1.symm
    | cons first between =>
        obtain rfl := (List.cons.inj rest).1
        have earlier : FirstRepeated (before' ++ other :: between) other :=
          ⟨before', between, rfl, distinct', twice'⟩
        exact absurd distinct earlier.not_nodup

/-- Types are declared up to the first name that repeats an earlier one, by induction on those that
are left.
-/
theorem Manifest.declareTypes_outcome {earlier : List TypeDecl} {scope : Scope}
    {table : TypeTable} (declared : Declared earlier scope table) (rest : List TypeDecl)
    : (∃ scope' table',
        declareTypes scope table rest = .ok (scope', table')
        ∧ Declared (earlier ++ rest) scope' table'
        ∧ scope'.platformTasks = scope.platformTasks)
      ∨ (∃ name,
        declareTypes scope table rest = .error (.duplicateType name)
        ∧ FirstRepeated ((earlier ++ rest).map TypeDecl.name) name) := by
  induction rest generalizing earlier scope table with
  | nil => exact .inl ⟨scope, table, rfl, by simpa using declared, rfl⟩
  | cons declaration rest ih =>
      cases found : scope.find? declaration.name with
      | some type =>
          refine .inr ⟨declaration.name, by simp [declareTypes, found], ?_⟩
          exact ⟨earlier.map TypeDecl.name, rest.map TypeDecl.name, by simp, declared.distinct,
            declared.only found⟩
      | none =>
          rw [declareTypes_cons found, List.append_cons]
          exact ih (declared.declare found)

/-- Types get consecutive ids in the order of their declaration, and names that are declared before
keep theirs; by induction on those that are left.
-/
theorem Manifest.find?_of_declareTypes {scope later : Scope} {table bare : TypeTable}
    {types : List TypeDecl} (done : declareTypes scope table types = .ok (later, bare))
    : (∀ {position declaration},
        types[position]? = some declaration
        → later.find? declaration.name = some ⟨table.typeCount + position⟩)
      ∧ ∀ {name type}, scope.find? name = some type → later.find? name = some type := by
  induction types generalizing scope table with
  | nil =>
      obtain ⟨rfl, rfl⟩ := Prod.mk.inj (Except.ok.inj done)
      exact ⟨nofun, id⟩
  | cons first rest ih =>
      cases new : scope.find? first.name with
      | some type => simp [declareTypes, new] at done
      | none =>
          rw [declareTypes_cons new] at done
          obtain ⟨others, kept⟩ := ih done
          have count : (table.addType first.bareSymbol).2.typeCount = table.typeCount + 1 := by
            simp [addType, typeCount]
          refine ⟨?_, fun found => kept (Scope.find?_declaring_of_found new found _)⟩
          intro position declaration listed
          cases position with
          | zero =>
              obtain rfl := Option.some.inj listed
              exact kept (by rw [Scope.find?_declaring, if_pos rfl]; rfl)
          | succ position => rw [others listed, count, Nat.add_right_comm, Nat.add_assoc]

end EntryPoints
