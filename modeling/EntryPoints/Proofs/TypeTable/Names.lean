import EntryPoints.Proofs.TypeTable.Appending
import EntryPoints.Proofs.TypeTable.Arrays
import EntryPoints.Proofs.TypeTable.Members
import EntryPoints.Proofs.TypeTable.Walk

/-! Names in reached tables: the special types and all arrays are called as a user would write them,
and a found method is called what it was looked up by.
-/

namespace EntryPoints.TypeTable

/-- The names that the language gives: of the special types and of arrays. -/
structure NamesKept (table : TypeTable) : Prop where
  special : ∀ special : SpecialType, table.displayName special.id = special.keyword
  array
    : ∀ {element array : TypeId},
        (table.symbol array).kind = .array element
        → table.displayName array = arrayName (table.displayName element)

/-- A new table has the names of the special types and of their arrays, type by type. -/
theorem NamesKept.empty : empty.NamesKept := by
  refine ⟨fun special => by cases special <;> rfl, fun {element array} kind => ?_⟩
  have named
      : ∀ index < 11, ∀ element ∈ (TypeTable.empty.symbol ⟨index⟩).element?,
          TypeTable.empty.displayName ⟨index⟩
            = arrayName (TypeTable.empty.displayName element) := by
    decide
  have there : TypeTable.empty.Has array := has_of_kind_ne_error (by rw [kind]; nofun)
  exact named array.index there element (by simp [TypeSymbol.element?, kind])

/-- An operation keeps the names.
Types that are there keep theirs, and an array is there with its element, which is older. A new
array is named after its element as it is interned.
-/
theorem NamesKept.apply {table : TypeTable} (reached : Reached table) (names : table.NamesKept)
    {operation : Operation} (fits : operation.Fits table)
    : (operation.apply table).NamesKept := by
  have same {type : TypeId} (there : table.Has type)
      : (operation.apply table).displayName type = table.displayName type :=
    ((operation.appends table).symbol there).name
  have old {element array : TypeId} (kind : (table.symbol array).kind = .array element)
      : (operation.apply table).displayName array
        = arrayName ((operation.apply table).displayName element) := by
    have there : table.Has array := has_of_kind_ne_error (by rw [kind]; nofun)
    have elementThere : table.Has element :=
      Nat.lt_trans (reached.arraysInterned.older kind) there
    rw [same there, same elementThere, names.array kind]
  refine ⟨fun special => ?_, fun {element array} kind => ?_⟩
  · have there : table.Has special.id :=
      has_of_kind_ne_error (by rw [reached.specialsKept special]; nofun)
    rw [same there, names.special]
  · rcases operation.keepsArrays table with keeps | ⟨made, rfl⟩
    · exact old ((keeps.kind array element).mp kind)
    · have elementThere : table.Has made := fits made (by simp [Operation.mentioned])
      have symbol := symbol_arrayOf table made array
      rw [Operation.apply, symbol] at kind
      split at kind
      · next new =>
        obtain rfl : made = element := by simpa [arraySymbol] using kind
        rw [same elementThere, displayName, Operation.apply, symbol, if_pos new]
        rfl
      · exact old kind

/-- Every reached table keeps the names, by induction over its operations; that each table on the
way is reached itself tells which of its arrays is whose.
-/
theorem Reached.namesKept {table : TypeTable} (reached : Reached table) : table.NamesKept := by
  let keeps (table : TypeTable) : Prop := table.Reached ∧ table.NamesKept
  have kept : keeps table :=
    reached.keeps ⟨⟨[], trivial, rfl⟩, .empty⟩
      (fun earlier operation kept fits => ⟨kept.1.apply fits, kept.2.apply kept.1 fits⟩)
  exact kept.2

/-- The array of a special type is called as a user would write it: its keyword, with brackets
behind it.
-/
theorem Reached.displayName_arrayType {table : TypeTable} (reached : Reached table)
    {special : SpecialType} {array : TypeId}
    (known : table.arrayType? special.id = some array)
    : table.displayName array = arrayName special.keyword := by
  rw [reached.namesKept.array (reached.arraysInterned.known.mp known),
    reached.namesKept.special]

/-- A method that can be used under a name is called so, since it was found among the members of
that name.
-/
theorem Usable.name {table : TypeTable} {type : TypeId} {name : String} {method : MethodId}
    (usable : table.Usable type name method)
    : (table.method method).name = name := by
  obtain ⟨owner, _, declared⟩ := usable.only
  have listed : .method method ∈ table.lookup owner name := by simp [declared]
  simpa [memberName] using (List.mem_filter.mp listed).2

/-- A name can be used in one way only, since the walk along the bases ends at one type, and there
only one member has the name.
-/
theorem Usable.unique {table : TypeTable} {type : TypeId} {name : String}
    {method other : MethodId} (h : table.Usable type name method)
    (h' : table.Usable type name other)
    : method = other := by
  obtain ⟨owner, walk, declared⟩ := h.only
  obtain ⟨owner', walk', declared'⟩ := h'.only
  obtain rfl : owner = owner' := Option.some.inj (walk.unique walk')
  simpa using declared.symm.trans declared'

end EntryPoints.TypeTable
