import EntryPoints.Proofs.TypeTable.Appending
import EntryPoints.Proofs.TypeTable.Members

/-! What no operation takes back, whether it fits or not: types keep their names and stay error
types or not, and arrays and generic tasks that were made once are found from then on.
-/

namespace EntryPoints

------------------------------------------------------------------------------------------
-- Types with other bases and diagnostics

/-- Whether a type is of some kind that is no named one stays the same.
Only named types have a base to be set, and the rest of a kind is not changed.
-/
theorem TypeSymbol.Extends.kind_beq {rebased marked : Prop} {symbol later : TypeSymbol}
    (extended : symbol.Extends rebased marked later) {fixed : TypeKind}
    (unnamed : ∀ kind base typeArguments, fixed ≠ .named kind base typeArguments)
    : (later.kind == fixed) = (symbol.kind == fixed) := by
  have same (kind : TypeKind) : (kind.withoutBase == fixed) = (kind == fixed) := by
    unfold TypeKind.withoutBase
    split
    · rw [beq_eq_false_iff_ne.mpr (unnamed _ _ _).symm,
        beq_eq_false_iff_ne.mpr (unnamed _ _ _).symm]
    · rfl
  calc
    (later.kind == fixed) = (later.kind.withoutBase == fixed) := (same _).symm
    _ = (symbol.kind.withoutBase == fixed) := by rw [extended.kind]
    _ = (symbol.kind == fixed) := same _

/-- So it stays an error type, or none. -/
theorem TypeSymbol.Extends.isError {rebased marked : Prop} {symbol later : TypeSymbol}
    (extended : symbol.Extends rebased marked later)
    : later.isError = symbol.isError :=
  extended.kind_beq nofun

/-- It stays the type of nothing, or another one. -/
theorem TypeSymbol.Extends.isVoid {rebased marked : Prop} {symbol later : TypeSymbol}
    (extended : symbol.Extends rebased marked later)
    : later.isVoid = symbol.isVoid :=
  extended.kind_beq nofun

/-- What may be set may be said less exactly. -/
theorem TypeSymbol.Extends.mono {rebased marked rebased' marked' : Prop}
    {symbol later : TypeSymbol} (extended : symbol.Extends rebased marked later)
    (rebases : rebased → rebased') (marks : marked → marked')
    : symbol.Extends rebased' marked' later where
  name := extended.name
  kind := extended.kind
  members := extended.members
  base kept := extended.base (fun rebased => kept (rebases rebased))
  useSite kept := extended.useSite (fun marked => kept (marks marked))

namespace TypeTable

------------------------------------------------------------------------------------------
-- What persists

/-- The later table has every type and every method of the earlier one, whatever bases were set and
diagnostics attached, and knows its arrays and its generic tasks.
-/
structure PersistsIn (table later : TypeTable) : Prop where
  appends : Appends (fun _ => True) (fun _ => True) table later
  arrays
    : ∀ {element array},
        table.arrayType? element = some array → later.arrayType? element = some array
  genericTasks
    : ∀ {result task},
        table.genericTasks.lookup result = some task
        → later.genericTasks.lookup result = some task

/-- Generic tasks stay known.
By cases on the operation: only a request for a generic task changes those that are known, and one
that is known already makes none.
-/
theorem Operation.keepsGenericTasks (table : TypeTable) (operation : Operation)
    {result task : TypeId} (known : table.genericTasks.lookup result = some task)
    : (operation.apply table).genericTasks.lookup result = some task := by
  cases operation with
  | arrayOf element => exact (Grows.arrayOf table element).genericTasks known
  | definePlatformTasks => simpa [Operation.apply] using known
  | taskOf other =>
      rw [Operation.apply, lookup_genericTasks_taskOf]
      split
      · next same =>
        subst same
        rw [taskOf_of_known known]
      · exact known
  | _ => exact known

namespace PersistsIn

variable {table later : TypeTable}

/-- A table persists in itself. -/
theorem refl (table : TypeTable) : table.PersistsIn table :=
  ⟨.refl table, id, id⟩

/-- What persists through two steps persists through both of them. -/
theorem trans {first second third : TypeTable} (h : first.PersistsIn second)
    (h' : second.PersistsIn third)
    : first.PersistsIn third :=
  ⟨h.appends.trans h'.appends, fun known => h'.arrays (h.arrays known),
    fun known => h'.genericTasks (h.genericTasks known)⟩

/-- Every operation leaves a table in which the earlier one persists: it appends, and keeps the
known arrays and generic tasks.
-/
theorem apply (table : TypeTable) (operation : Operation)
    : table.PersistsIn (operation.apply table) where
  appends := by
    have appends := operation.appends table
    exact ⟨appends.typeCount,
      fun there => (appends.symbol there).mono (fun _ => trivial) (fun _ => trivial),
      appends.methods, appends.method⟩
  arrays known := by
    rcases operation.keepsArrays table with keeps | ⟨element, rfl⟩
    · simpa only [arrayType?, keeps.arrays] using known
    · exact (Grows.arrayOf table element).arrays known
  genericTasks known := operation.keepsGenericTasks table known

/-- A table persists in all that any number of operations make of it, by induction over the
operations.
-/
theorem performAll (table : TypeTable) (operations : List Operation)
    : table.PersistsIn (table.performAll operations) := by
  induction operations generalizing table with
  | nil => exact refl table
  | cons operation rest ih => exact (apply table operation).trans (ih (operation.apply table))

/-- A later table has all the types of the earlier one. -/
theorem has (persists : table.PersistsIn later) {type : TypeId} (there : table.Has type)
    : later.Has type :=
  persists.appends.has there

/-- It calls them what they were called. -/
theorem displayName (persists : table.PersistsIn later) {type : TypeId}
    (there : table.Has type)
    : later.displayName type = table.displayName type :=
  (persists.appends.symbol there).name

/-- It has the same error types among them. -/
theorem isError (persists : table.PersistsIn later) {type : TypeId} (there : table.Has type)
    : (later.symbol type).isError = (table.symbol type).isError :=
  (persists.appends.symbol there).isError

/-- A type that is found by its name is found by it later, since names stay and new types come
behind.
-/
theorem typeByName? (persists : table.PersistsIn later) {name : String} {type : TypeId}
    (found : table.typeByName? name = some type)
    : later.typeByName? name = some type :=
  typeByName?_later persists.appends.typeCount
    (fun there => ⟨persists.displayName there, persists.isError there⟩) found

/-- An array that was asked for once is known later, so it is not made again. -/
theorem arrayOf_again {element : TypeId} (persists : (table.arrayOf element).2.PersistsIn later)
    : later.arrayOf element = ((table.arrayOf element).1, later) :=
  arrayOf_of_known (persists.arrays (by simp))

/-- Neither is a generic task that was asked for once. -/
theorem taskOf_again {result : TypeId} (persists : (table.taskOf result).2.PersistsIn later)
    : later.taskOf result = ((table.taskOf result).1, later) :=
  taskOf_of_known (persists.genericTasks (by rw [lookup_genericTasks_taskOf, if_pos rfl]))

/-- The first method of a name stays the first one, since new members come behind it.
The members that were there before are those whose methods have kept their names, as they are
contained in the earlier table.
-/
theorem methodByName? (persists : table.PersistsIn later) (contained : table.MembersContained)
    {type : TypeId} {name : String} {method : MethodId}
    (found : table.methodByName? type name = some method)
    : later.methodByName? type name = some method := by
  have there : table.Has type := has_of_mem_members (mem_members_of_methodByName? found)
  refine (persists.appends.symbol there).members.findSome?_eq_some (Eq.trans ?_ found)
  rw [TypeTable.methodByName?, ← List.head?_filterMap, ← List.head?_filterMap]
  refine congrArg List.head? (List.filterMap_congr (fun member listed => ?_))
  cases member with
  | field name type => rfl
  | method id => simp only [persists.appends.method (contained type id listed).1]

/-- What the first `GetAwaiter` of a type returns stays the awaiter of the type, since that method
stays the first one and returns what it did.
-/
theorem awaiterOf (persists : table.PersistsIn later) (contained : table.MembersContained)
    {type : TypeId} {method : MethodId}
    (found
      : table.methodByName? type WellKnownMember.getAwaiter.spelling = some method)
    : later.awaiterOf type = table.awaiterOf type := by
  have inside := (contained type method (mem_members_of_methodByName? found)).1
  simp [TypeTable.awaiterOf, found, persists.methodByName? contained found,
    persists.appends.method inside]

end PersistsIn

end TypeTable

end EntryPoints
