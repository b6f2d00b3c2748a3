import EntryPoints.Proofs.TypeTable.Futures

/-! Operations on a table only append: types keep what they are, methods stay as they were declared,
and new members come behind the old ones. A base and a use-site diagnostic change only by the
operations that are made for it.
-/

namespace EntryPoints

/-- What kind of type it is, apart from its base. -/
def TypeKind.withoutBase : TypeKind → TypeKind
  | .named kind _ typeArguments => .named kind none typeArguments
  | kind => kind

/-- A type at a later time, when its base may have been set and its use-site diagnostic too. -/
structure TypeSymbol.Extends (rebased marked : Prop) (symbol later : TypeSymbol) : Prop where
  name : later.name = symbol.name
  kind : later.kind.withoutBase = symbol.kind.withoutBase
  members : symbol.members <+: later.members
  base : ¬ rebased → later.base? = symbol.base?
  useSite : ¬ marked → later.useSite = symbol.useSite

namespace TypeSymbol.Extends

variable {rebased marked : Prop}

/-- A symbol extends itself. -/
theorem refl (symbol : TypeSymbol) : Extends rebased marked symbol symbol :=
  ⟨rfl, rfl, List.prefix_rfl, fun _ => rfl, fun _ => rfl⟩

/-- Extending a symbol goes on, with the members of the second one behind those of the first. -/
theorem trans {first second third : TypeSymbol} (h : Extends rebased marked first second)
    (h' : Extends rebased marked second third)
    : Extends rebased marked first third where
  name := h'.name.trans h.name
  kind := h'.kind.trans h.kind
  members := h.members.trans h'.members
  base kept := (h'.base kept).trans (h.base kept)
  useSite kept := (h'.useSite kept).trans (h.useSite kept)

/-- A symbol with another member behind its own keeps the rest. -/
theorem addMember (symbol : TypeSymbol) (member : Member)
    : Extends rebased marked symbol (symbol.addMember member) where
  name := rfl
  kind := rfl
  members := List.prefix_append _ _
  base _ := rfl
  useSite _ := rfl

/-- A symbol with another base keeps the rest: its name, its members and all else of its kind. -/
theorem withBase (symbol : TypeSymbol) (base : TypeId) (isRebased : rebased)
    : Extends rebased marked symbol (symbol.withBase base) := by
  unfold TypeSymbol.withBase
  split
  · next kind old typeArguments named =>
    exact {
      name := rfl
      kind := by simp [TypeKind.withoutBase, named]
      members := List.prefix_rfl
      base := fun kept => absurd isRebased kept
      useSite := fun _ => rfl
    }
  · exact refl symbol

/-- A symbol with another diagnostic keeps the rest. -/
theorem withUseSite (symbol : TypeSymbol) (info : DiagnosticInfo) (isMarked : marked)
    : Extends rebased marked symbol (symbol.withUseSite info) where
  name := rfl
  kind := rfl
  members := List.prefix_rfl
  base _ := rfl
  useSite kept := absurd isMarked kept

end TypeSymbol.Extends

namespace TypeTable

------------------------------------------------------------------------------------------
-- What interning adds

/-- The later table has gained types and methods behind those that were there, and remembers more
arrays and generic tasks. A registered future type is still registered.
-/
structure OnlyGains (table later : TypeTable) : Prop where
  types : table.types.toList <+: later.types.toList
  methods : table.methods.toList <+: later.methods.toList
  arrays : table.arrays <:+ later.arrays
  genericTasks : table.genericTasks <:+ later.genericTasks
  task : ∀ {task}, table.task = some task → later.task = some task

/-- Where no type is touched the types of the earlier table are the first ones of the later one, id
by id.
-/
theorem Grows.types_prefix {table later : TypeTable} (grown : Extends table later)
    : table.types.toList <+: later.types.toList := by
  rw [List.prefix_iff_getElem?]
  intro index inside
  rw [Array.length_toList] at inside
  have inside' : index < later.types.size := Nat.lt_of_lt_of_le inside grown.types
  have same : later.symbol ⟨index⟩ = table.symbol ⟨index⟩ := grown.symbol inside id
  rw [symbol_of_lt inside, symbol_of_lt inside'] at same
  simp [inside', same]

/-- The methods of the earlier table always are, as no method is ever touched. -/
theorem Grows.methods_prefix {touched : TypeId → Prop} {table later : TypeTable}
    (grows : Grows touched table later)
    : table.methods.toList <+: later.methods.toList := by
  rw [List.prefix_iff_getElem?]
  intro index inside
  rw [Array.length_toList] at inside
  have inside' : index < later.methods.size := Nat.lt_of_lt_of_le inside grows.methods
  have same : later.method ⟨index⟩ = table.method ⟨index⟩ := grows.method inside
  simp only [TypeTable.method, inside, inside', getElem?_pos, Option.getD_some] at same
  simp [inside', same]

/-- The operation asks for an array or for a generic task. -/
def Operation.Interns (operation : Operation) : Prop :=
  (∃ element, operation = .arrayOf element) ∨ ∃ result, operation = .taskOf result

namespace OnlyGains

/-- A table gains nothing over itself. -/
theorem refl (table : TypeTable) : table.OnlyGains table :=
  ⟨List.prefix_rfl, List.prefix_rfl, List.suffix_rfl, List.suffix_rfl, id⟩

/-- The symbols that were there are the same: they are the first ones of those that are there later.
-/
theorem symbol {table later : TypeTable} (gains : table.OnlyGains later) {type : TypeId}
    (there : table.Has type)
    : later.symbol type = table.symbol type := by
  obtain ⟨added, split⟩ := gains.types
  have inside : type.index < table.types.toList.length := by simpa [Has, typeCount] using there
  unfold TypeTable.symbol
  rw [← Array.getElem?_toList, ← split, List.getElem?_append_left inside, Array.getElem?_toList]

/-- So are the methods. -/
theorem method {table later : TypeTable} (gains : table.OnlyGains later) {id : MethodId}
    (inside : id.index < table.methods.size)
    : later.method id = table.method id := by
  obtain ⟨added, split⟩ := gains.methods
  have inside' : id.index < table.methods.toList.length := by simpa using inside
  unfold TypeTable.method
  rw [← Array.getElem?_toList, ← split, List.getElem?_append_left inside', Array.getElem?_toList]

/-- What is gained in two steps is gained in one. -/
theorem trans {first second third : TypeTable} (h : first.OnlyGains second)
    (h' : second.OnlyGains third)
    : first.OnlyGains third where
  types := h.types.trans h'.types
  methods := h.methods.trans h'.methods
  arrays := h.arrays.trans h'.arrays
  genericTasks := h.genericTasks.trans h'.genericTasks
  task registered := h'.task (h.task registered)

/-- A table that grows without touching a type only gains, if what it remembers of arrays and tasks
is put in front of the rest.
-/
theorem of_extends {table later : TypeTable} (grown : Extends table later)
    (arrays : table.arrays <:+ later.arrays)
    (genericTasks : table.genericTasks <:+ later.genericTasks)
    : table.OnlyGains later :=
  ⟨grown.types_prefix, grown.methods_prefix, arrays, genericTasks, grown.task.trans⟩

/-- Adding a type gains that type. -/
theorem addType (table : TypeTable) (symbol : TypeSymbol)
    : table.OnlyGains (table.addType symbol).2 :=
  of_extends (Grows.addType table symbol) List.suffix_rfl List.suffix_rfl

/-- Interning an array gains the array, or nothing. -/
theorem arrayOf (table : TypeTable) (element : TypeId)
    : table.OnlyGains (table.arrayOf element).2 := by
  have grown := Grows.arrayOf table element
  cases known : table.arrayType? element with
  | some array =>
      rw [arrayOf_of_known known]
      exact refl table
  | none =>
      rw [arrayOf_of_new known] at grown ⊢
      exact of_extends grown (List.suffix_cons _ _) List.suffix_rfl

/-- Asking for the platform's future types gains the two, and the registration of the future; where
one is registered already nothing is gained.
-/
theorem definePlatformTasks (table : TypeTable)
    : table.OnlyGains table.definePlatformTasks.2 := by
  cases registered : table.task with
  | some task =>
      rw [definePlatformTasks_of_registered registered]
      exact refl table
  | none =>
      have made := makeFuture_extends table .plain
      rw [definePlatformTasks_of_absent registered]
      refine ⟨made.types_prefix, made.methods_prefix, List.suffix_rfl, List.suffix_rfl, ?_⟩
      intro task registered'
      cases registered.symm.trans registered'

/-- Asking for a generic task gains its pair, if it is new.
It comes behind the platform's future types, which may be new as well and are gained then.
-/
theorem taskOf (table : TypeTable) (result : TypeId)
    : table.OnlyGains (table.taskOf result).2 := by
  cases known : table.genericTasks.lookup result with
  | some generic =>
      rw [taskOf_of_known known]
      exact refl table
  | none =>
      have made :=
        makeFuture_extends table.definePlatformTasks.2
          (.generic table.definePlatformTasks.2 table.definePlatformTasks.1.task result)
      rw [taskOf_of_unknown known]
      exact (definePlatformTasks table).trans
        ⟨made.types_prefix, made.methods_prefix, List.suffix_rfl, List.suffix_cons _ _, id⟩

/-- Interning operations only gain, by induction over them, as each asks for an array or for a
generic task.
-/
theorem performAll {table : TypeTable} {operations : List Operation}
    (intern : ∀ operation ∈ operations, operation.Interns)
    : table.OnlyGains (table.performAll operations) := by
  induction operations generalizing table with
  | nil => exact refl table
  | cons operation rest ih =>
      have others
          : (operation.apply table).OnlyGains ((operation.apply table).performAll rest) :=
        ih (fun other listed => intern other (List.mem_cons_of_mem _ listed))
      rcases intern operation List.mem_cons_self with ⟨element, rfl⟩ | ⟨result, rfl⟩
      · exact (arrayOf table element).trans others
      · exact (taskOf table result).trans others

end OnlyGains

------------------------------------------------------------------------------------------
-- What any operation leaves

/-- A later table has all that the earlier one has, in the same places. -/
structure Appends (rebased marked : TypeId → Prop) (table later : TypeTable) : Prop where
  typeCount : table.typeCount ≤ later.typeCount
  symbol
    : ∀ {type},
        table.Has type
        → (table.symbol type).Extends (rebased type) (marked type) (later.symbol type)
  methods : table.methods.size ≤ later.methods.size
  method : ∀ {id}, id.index < table.methods.size → later.method id = table.method id

namespace Appends

variable {rebased marked : TypeId → Prop} {table later : TypeTable}

/-- A later table has all types of the earlier one. -/
theorem has (appends : Appends rebased marked table later) {type : TypeId}
    (there : table.Has type)
    : later.Has type :=
  Nat.lt_of_lt_of_le there appends.typeCount

/-- A table appends nothing to itself. -/
theorem refl (table : TypeTable) : Appends rebased marked table table :=
  ⟨Nat.le_refl _, fun _ => .refl _, Nat.le_refl _, fun _ => rfl⟩

/-- What is appended in two steps is appended in one: what the first step leaves alone, the second
one does too.
-/
theorem trans {first second third : TypeTable} (h : Appends rebased marked first second)
    (h' : Appends rebased marked second third)
    : Appends rebased marked first third where
  typeCount := Nat.le_trans h.typeCount h'.typeCount
  symbol there := (h.symbol there).trans (h'.symbol (h.has there))
  methods := Nat.le_trans h.methods h'.methods
  method there :=
    (h'.method (Nat.lt_of_lt_of_le there h.methods)).trans (h.method there)

/-- What was only added to is all there again, with the same symbols and methods. -/
theorem of_onlyGains (gains : table.OnlyGains later) : Appends rebased marked table later where
  typeCount := by simpa [TypeTable.typeCount] using gains.types.length_le
  symbol there := by
    rw [gains.symbol there]
    exact .refl _
  methods := by simpa using gains.methods.length_le
  method inside := gains.method inside

/-- A change of one type appends if it extends the symbol of that type. -/
theorem modifyType (table : TypeTable) (changed : TypeId) {change : TypeSymbol → TypeSymbol}
    (extended
      : ∀ symbol : TypeSymbol,
          symbol.Extends (rebased changed) (marked changed) (change symbol))
    : Appends rebased marked table (table.modifyType changed change) where
  typeCount := by simp [TypeTable.modifyType, TypeTable.typeCount]
  symbol {type} _ := by
    rw [symbol_modifyType]
    split
    · next here =>
      rw [here.1]
      exact extended _
    · exact .refl _
  methods := Nat.le_refl _
  method _ := rfl

/-- Declaring a method appends its entry to all methods, and to the members of one type. -/
theorem defineMethod (table : TypeTable) (containing : TypeId) (signature : MethodSignature)
    : Appends rebased marked table (table.defineMethod containing signature).2 := by
  have declared := Grows.defineMethod table containing signature
  refine ⟨declared.types, fun {type} _ => ?_, declared.methods, declared.method⟩
  rw [symbol_defineMethod]
  split
  · exact .addMember _ _
  · exact .refl _

/-- What a table remembers besides its types and methods makes no difference. -/
theorem remember (table : TypeTable) (arrays genericTasks : List (TypeId × TypeId))
    (task : Option TypeId)
    : Appends rebased marked table { table with arrays, genericTasks, task } :=
  ⟨Nat.le_refl _, fun _ => .refl _, Nat.le_refl _, fun _ => rfl⟩

end Appends

------------------------------------------------------------------------------------------
-- What each operation changes

/-- The operation sets the base of the type. -/
def Operation.Rebases : Operation → TypeId → Prop
  | .setBase changed _, type => type = changed
  | _, _ => False

/-- The operation attaches a use-site diagnostic to the type. -/
def Operation.Marks : Operation → TypeId → Prop
  | .setUseSite changed _, type => type = changed
  | _, _ => False

/-- Every operation appends, and changes nothing else than what it is made for; by cases on the
operation.
-/
theorem Operation.appends (table : TypeTable) (operation : Operation)
    : Appends operation.Rebases operation.Marks table (operation.apply table) := by
  cases operation with
  | defineType name kind base => exact .of_onlyGains (.addType table _)
  | setBase type base => exact .modifyType table type (fun symbol => .withBase symbol base rfl)
  | setUseSite type info =>
      exact .modifyType table type (fun symbol => .withUseSite symbol info rfl)
  | defineMethod containing signature => exact .defineMethod table containing signature
  | defineField containing name type =>
      exact .modifyType table containing (fun symbol => .addMember symbol _)
  | arrayOf element => exact .of_onlyGains (.arrayOf table element)
  | registerTask type => exact .remember table _ _ _
  | definePlatformTasks => exact .of_onlyGains (.definePlatformTasks table)
  | taskOf result => exact .of_onlyGains (.taskOf table result)

end TypeTable

end EntryPoints
