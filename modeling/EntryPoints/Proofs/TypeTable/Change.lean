import EntryPoints.TypeTable.History
import Mathlib.Logic.Relation
import Mathlib.Tactic.ByContra

/-! Every operation on a table is a sequence of elementary changes, so an invariant of reached
tables is one case per change. Two invariants follow: a member method belongs to the type that
lists it, and the special types stay what they are.
-/

namespace EntryPoints.TypeTable

------------------------------------------------------------------------------------------
-- Symbols and methods after an elementary change

/-- Adding a type gives it the next id, and leaves all others as they are. -/
@[simp]
theorem symbol_addType (table : TypeTable) (symbol : TypeSymbol) (type : TypeId)
    : (table.addType symbol).2.symbol type
      = if type = ⟨table.typeCount⟩ then symbol else table.symbol type := by
  obtain ⟨index⟩ := type
  simp only [addType, TypeTable.symbol, typeCount, Array.getElem?_push, TypeId.mk.injEq]
  split <;> rfl

/-- Changing one type changes the symbol of that type, if the table has it, and of no other. -/
theorem symbol_modifyType (table : TypeTable) (changed : TypeId)
    (change : TypeSymbol → TypeSymbol) (type : TypeId)
    : (table.modifyType changed change).symbol type
      = if type = changed ∧ table.Has changed then change (table.symbol type)
        else table.symbol type := by
  obtain ⟨index⟩ := type
  obtain ⟨position⟩ := changed
  simp only [modifyType, TypeTable.symbol, Has, typeCount, Array.getElem?_modify,
    TypeId.mk.injEq]
  by_cases same : position = index
  · subst same
    by_cases inside : position < table.types.size
    · simp [inside]
    · simp [inside]
  · simp [same, Ne.symm same]

/-- A new method gets the next id, and all others stay as they are. -/
theorem method_defineMethod (table : TypeTable) (containing : TypeId)
    (signature : MethodSignature) (id : MethodId)
    : (table.defineMethod containing signature).2.method id
      = if id = ⟨table.methods.size⟩ then signature.declaredOn containing
        else table.method id := by
  obtain ⟨index⟩ := id
  change (table.methods.push (signature.declaredOn containing))[index]?.getD default = _
  simp only [TypeTable.method, Array.getElem?_push, MethodId.mk.injEq]
  split <;> rfl

/-- A new method is listed last on the type that it is declared on, and nowhere else. -/
theorem symbol_defineMethod (table : TypeTable) (containing : TypeId)
    (signature : MethodSignature) (type : TypeId)
    : (table.defineMethod containing signature).2.symbol type
      = if type = containing ∧ table.Has containing then
          (table.symbol type).addMember (.method ⟨table.methods.size⟩)
        else table.symbol type := by
  exact symbol_modifyType
    { table with methods := table.methods.push (signature.declaredOn containing) } containing
    (fun symbol => symbol.addMember (.method ⟨table.methods.size⟩)) type

/-- A type that is no error type is in the table, since any other id stands for an error type. -/
theorem has_of_kind_ne_error {table : TypeTable} {type : TypeId}
    (kind : (table.symbol type).kind ≠ .error)
    : table.Has type := by
  by_contra outside
  have absent : table.types[type.index]? = none :=
    Array.getElem?_eq_none (Nat.le_of_not_lt outside)
  exact kind (by simp [TypeTable.symbol, absent])

/-- A type with a base is in the table, since an id beyond it has none. -/
theorem has_of_base? {table : TypeTable} {type base : TypeId}
    (link : table.base? type = some base)
    : table.Has type := by
  refine has_of_kind_ne_error (fun kind => ?_)
  simp [TypeTable.base?, TypeSymbol.base?, kind] at link

/-- So is a type with members. -/
theorem has_of_mem_members {table : TypeTable} {type : TypeId} {member : Member}
    (listed : member ∈ (table.symbol type).members)
    : table.Has type := by
  by_contra outside
  have absent : table.types[type.index]? = none :=
    Array.getElem?_eq_none (Nat.le_of_not_lt outside)
  simp [TypeTable.symbol, absent] at listed

------------------------------------------------------------------------------------------
-- Operations as sequences of changes

/-- The elementary changes of a table. What a table remembers about arrays and tasks changes on
its own, since no type or method depends on it.
-/
inductive Change (table : TypeTable) : TypeTable → Prop where
  | addType (symbol : TypeSymbol) (bare : symbol.members = [])
    : Change table (table.addType symbol).2
  | setBase (type base : TypeId) : Change table (table.setBase type base)
  | setUseSite (type : TypeId) (info : DiagnosticInfo)
    : Change table (table.setUseSite type info)
  | defineMethod (containing : TypeId) (signature : MethodSignature)
    : Change table (table.defineMethod containing signature).2
  | defineField (containing : TypeId) (name : String) (type : TypeId)
    : Change table (table.defineField containing name type)
  | remember (arrays genericTasks : List (TypeId × TypeId)) (task : Option TypeId)
    : Change table { table with arrays, genericTasks, task }

/-- Any number of elementary changes, one after the other. -/
abbrev Changes : TypeTable → TypeTable → Prop :=
  Relation.ReflTransGen Change

/-- Interning an array adds a type and remembers it, or finds the array and changes nothing. -/
theorem arrayOf_changes (table : TypeTable) (element : TypeId)
    : Changes table (table.arrayOf element).2 := by
  unfold arrayOf
  split
  · exact .refl
  · exact .tail (.single (.addType _ rfl)) (.remember _ _ _)

/-- The platform's future types are two types with a method each, of which the second one is
registered.
-/
theorem definePlatformTasks_changes (table : TypeTable)
    : Changes table table.definePlatformTasks.2 := by
  unfold definePlatformTasks
  split
  · exact .refl
  · have awaiter : Changes table (table.defineType "TaskAwaiter" .structType none).2 :=
      .single (.addType _ rfl)
    exact .tail
      (.tail (.tail (.tail awaiter (.defineMethod _ _)) (.addType _ rfl)) (.defineMethod _ _))
      (.remember _ _ _)

/-- A new generic task is another such pair, behind that of the platform. -/
theorem taskOf_changes (table : TypeTable) (result : TypeId)
    : Changes table (table.taskOf result).2 := by
  unfold taskOf
  split
  · exact .refl
  · have platform := definePlatformTasks_changes table
    exact .tail
      (.tail (.tail (.tail (.tail platform (.addType _ rfl)) (.defineMethod _ _))
        (.addType _ rfl)) (.defineMethod _ _))
      (.remember _ _ _)

/-- Every operation is a sequence of elementary changes.
By cases on the operation: all but the three that intern types are one change each.
-/
theorem Operation.changes (table : TypeTable) (operation : Operation)
    : Changes table (operation.apply table) := by
  cases operation with
  | defineType name kind base => exact .single (.addType _ rfl)
  | setBase type base => exact .single (.setBase type base)
  | setUseSite type info => exact .single (.setUseSite type info)
  | defineMethod containing signature => exact .single (.defineMethod containing signature)
  | defineField containing name type => exact .single (.defineField containing name type)
  | arrayOf element => exact arrayOf_changes table element
  | registerTask type => exact .single (.remember _ _ _)
  | definePlatformTasks => exact definePlatformTasks_changes table
  | taskOf result => exact taskOf_changes table result

/-- What a new table has and every elementary change keeps, every reached table has.
By induction over the operations that lead there, and within each of them over its changes.
-/
theorem Reached.keeps_changes {keeps : TypeTable → Prop} {table : TypeTable}
    (reached : Reached table) (start : keeps empty)
    (step : ∀ {earlier later}, Change earlier later → keeps earlier → keeps later)
    : keeps table := by
  refine reached.keeps start ?_
  intro earlier operation kept _
  have changes := Operation.changes earlier operation
  generalize operation.apply earlier = later at changes ⊢
  induction changes with
  | refl => exact kept
  | tail _ change ih => exact step change ih

/-- Operations that fit one after the other still do with another one that fits behind them, by
induction on them.
-/
theorem fitAll_append {table : TypeTable} {operations : List Operation} {operation : Operation}
    (fits : FitAll table operations) (last : operation.Fits (performAll table operations))
    : FitAll table (operations ++ [operation]) := by
  induction operations generalizing table with
  | nil => exact ⟨last, trivial⟩
  | cons first rest ih => exact ⟨fits.1, ih fits.2 last⟩

/-- A fitting operation leads from a reached table to a reached one: it is put behind the operations
that lead to the first one.
-/
theorem Reached.apply {table : TypeTable} (reached : Reached table) {operation : Operation}
    (fits : operation.Fits table)
    : Reached (operation.apply table) := by
  obtain ⟨operations, fitAll, rfl⟩ := reached
  exact ⟨operations ++ [operation], fitAll_append fitAll fits, by simp [performAll]⟩

/-- So do any number of operations that fit one after the other. -/
theorem Reached.performAll {table : TypeTable} (reached : table.Reached)
    {operations : List Operation} (fits : FitAll table operations)
    : (table.performAll operations).Reached :=
  performAll_keeps (fun _ _ reached fits => reached.apply fits) reached fits

------------------------------------------------------------------------------------------
-- Members belong to the types that list them

/-- Each method that a type lists among its members is in the table and contained in the type. -/
def MembersContained (table : TypeTable) : Prop :=
  ∀ (type : TypeId) (id : MethodId),
    .method id ∈ (table.symbol type).members
    → id.index < table.methods.size ∧ (table.method id).containingType = type

/-- Members that were there before, or are no methods, stay contained, as their methods stay what
they are.
-/
theorem MembersContained.of_members {earlier later : TypeTable}
    (contained : earlier.MembersContained) (methods : later.methods = earlier.methods)
    (members
      : ∀ (type : TypeId) (id : MethodId),
          .method id ∈ (later.symbol type).members
          → .method id ∈ (earlier.symbol type).members)
    : later.MembersContained := by
  intro type id member
  obtain ⟨inside, containing⟩ := contained type id (members type id member)
  refine ⟨methods ▸ inside, ?_⟩
  simpa only [TypeTable.method, methods] using containing

/-- A change of one type that brings no method keeps the members contained: on that type only
methods are listed that were before.
-/
theorem MembersContained.modifyType {table : TypeTable} (contained : table.MembersContained)
    (changed : TypeId) (change : TypeSymbol → TypeSymbol)
    (members
      : ∀ (symbol : TypeSymbol) (id : MethodId),
          .method id ∈ (change symbol).members → .method id ∈ symbol.members)
    : (table.modifyType changed change).MembersContained := by
  refine contained.of_members rfl ?_
  intro type id member
  rw [symbol_modifyType] at member
  split at member
  · exact members _ id member
  · exact member

/-- A new method is contained in the type that it is declared on, and older ones stay in theirs.
An older method keeps its entry, since its id is a smaller one than that of the new method.
-/
theorem MembersContained.defineMethod {table : TypeTable} (contained : table.MembersContained)
    (containing : TypeId) (signature : MethodSignature)
    : (table.defineMethod containing signature).2.MembersContained := by
  have size
      : (table.defineMethod containing signature).2.methods.size = table.methods.size + 1 := by
    simp [TypeTable.defineMethod, TypeTable.modifyType]
  have old {type : TypeId} {id : MethodId} (member : .method id ∈ (table.symbol type).members)
      : id.index < table.methods.size + 1
        ∧ ((table.defineMethod containing signature).2.method id).containingType = type := by
    obtain ⟨inside, within⟩ := contained type id member
    refine ⟨Nat.lt_succ_of_lt inside, ?_⟩
    have different : id ≠ ⟨table.methods.size⟩ := by
      rintro rfl
      exact Nat.lt_irrefl _ inside
    rw [method_defineMethod, if_neg different, within]
  intro type id member
  rw [size]
  rw [symbol_defineMethod] at member
  split at member
  · next declared =>
    simp only [TypeSymbol.addMember, List.mem_append, List.mem_singleton,
      Member.method.injEq] at member
    rcases member with earlier | rfl
    · exact old earlier
    · refine ⟨Nat.lt_succ_self _, ?_⟩
      rw [method_defineMethod, if_pos rfl, declared.1]
      rfl
  · exact old member

/-- Every elementary change keeps the members contained, by cases on the change; only a new method
needs more than that no type gets one.
-/
theorem MembersContained.change {earlier later : TypeTable} (change : Change earlier later)
    (contained : earlier.MembersContained)
    : later.MembersContained := by
  cases change with
  | addType symbol bare =>
      refine contained.of_members rfl ?_
      intro type id member
      rw [symbol_addType] at member
      split at member
      · simp [bare] at member
      · exact member
  | setBase type base =>
      refine contained.modifyType type _ (fun symbol id member => ?_)
      unfold TypeSymbol.withBase at member
      split at member <;> exact member
  | setUseSite type info => exact contained.modifyType type _ (fun _ _ member => member)
  | defineMethod containing signature => exact contained.defineMethod containing signature
  | defineField containing name type =>
      refine contained.modifyType containing _ (fun symbol id member => ?_)
      simpa [TypeSymbol.addMember] using member
  | remember arrays genericTasks task => exact contained

/-- Every operation keeps the members contained, whether it fits or not, by induction over its
changes.
-/
theorem MembersContained.apply {table : TypeTable} (contained : table.MembersContained)
    (operation : Operation)
    : (operation.apply table).MembersContained := by
  have changes := operation.changes table
  generalize operation.apply table = later at changes ⊢
  induction changes with
  | refl => exact contained
  | tail _ change ih => exact ih.change change

/-- All members of a reached table are contained in the types that list them.
A new table has no members at all, and every change keeps them contained.
-/
theorem Reached.membersContained {table : TypeTable} (reached : Reached table)
    : table.MembersContained := by
  refine reached.keeps_changes ?_ MembersContained.change
  intro type id member
  have bare : ∀ symbol ∈ initialTypes, symbol.members = [] := by decide
  have none : (empty.symbol type).members = [] := by
    simp only [TypeTable.symbol, empty, List.getElem?_toArray]
    cases found : initialTypes[type.index]? with
    | none => rfl
    | some symbol => exact bare symbol (List.mem_of_getElem? found)
  simp [none] at member

------------------------------------------------------------------------------------------
-- Special types stay what they are

/-- The ids of the special types name the special types. -/
def SpecialsKept (table : TypeTable) : Prop :=
  ∀ special : SpecialType, (table.symbol special.id).kind = .special special

/-- Changing one type in a way that leaves special kinds alone keeps the special types. -/
theorem SpecialsKept.modifyType {table : TypeTable} (kept : table.SpecialsKept)
    (changed : TypeId) (change : TypeSymbol → TypeSymbol)
    (kind
      : ∀ (symbol : TypeSymbol) (special : SpecialType),
          symbol.kind = .special special → (change symbol).kind = .special special)
    : (table.modifyType changed change).SpecialsKept := by
  intro special
  rw [symbol_modifyType]
  split
  · exact kind _ special (kept special)
  · exact kept special

/-- Every elementary change keeps the special types, by cases on the change.
A new type is none of them, since its id is a new one, and a base is set on named types only.
-/
theorem SpecialsKept.change {earlier later : TypeTable} (change : Change earlier later)
    (kept : earlier.SpecialsKept)
    : later.SpecialsKept := by
  cases change with
  | addType symbol bare =>
      intro special
      have inside : earlier.Has special.id := has_of_kind_ne_error (by simp [kept special])
      have different : special.id ≠ ⟨earlier.typeCount⟩ := by
        intro same
        rw [same] at inside
        exact Nat.lt_irrefl _ inside
      rw [symbol_addType, if_neg different]
      exact kept special
  | setBase type base =>
      refine kept.modifyType type _ (fun symbol special kind => ?_)
      simp [TypeSymbol.withBase, kind]
  | setUseSite type info => exact kept.modifyType type _ (fun _ _ kind => kind)
  | defineMethod containing signature =>
      exact kept.modifyType containing _ (fun _ _ kind => kind)
  | defineField containing name type =>
      exact kept.modifyType containing _ (fun _ _ kind => kind)
  | remember arrays genericTasks task => exact kept

/-- In a reached table the special types are what they were in a new one. -/
theorem Reached.specialsKept {table : TypeTable} (reached : Reached table)
    : table.SpecialsKept := by
  refine reached.keeps_changes ?_ SpecialsKept.change
  intro special
  cases special <;> rfl

end EntryPoints.TypeTable
