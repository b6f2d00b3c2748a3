import EntryPoints.Proofs.TypeTable.Hierarchy

/-! What lookups find is a member of a type on the base chain, so a found method is contained in
a type that the looked-up type derives from.
-/

namespace EntryPoints.TypeTable

/-- What is looked up by its name in a type is a member of that type. -/
theorem mem_members_of_mem_lookup {table : TypeTable} {type : TypeId} {name : String}
    {member : Member} (found : member ∈ table.lookup type name)
    : member ∈ (table.symbol type).members :=
  (List.mem_filter.mp found).1

/-- A lookup along the base chain ends at a base and finds all that the base declares under the
name.
-/
theorem of_lookupInHierarchy_eq_some {table : TypeTable} {type owner : TypeId} {name : String}
    {found : List Member} (h : table.lookupInHierarchy type name = some (owner, found))
    : table.isDerivedFrom type owner ∧ found = table.lookup owner name := by
  obtain ⟨nearest, first, same⟩ := Option.map_eq_some_iff.mp h
  obtain ⟨rfl, rfl⟩ := Prod.mk.injEq _ _ _ _ ▸ same
  exact ⟨List.contains_iff_mem.mpr (List.mem_of_find?_eq_some first), rfl⟩

/-- So is the first method of a name, where the search passes over fields. -/
theorem mem_members_of_methodByName? {table : TypeTable} {type : TypeId} {name : String}
    {id : MethodId} (found : table.methodByName? type name = some id)
    : .method id ∈ (table.symbol type).members := by
  obtain ⟨member, listed, picked⟩ := List.exists_of_findSome?_eq_some found
  cases member with
  | field name type => cases picked
  | method other =>
      simp only [Option.ite_none_right_eq_some, Option.some.injEq] at picked
      exact picked.2 ▸ listed

/-- A method of some kind that a type lists is a member of the type, and of that kind. -/
theorem of_mem_methodsOfKind {table : TypeTable} {type : TypeId} {kind : MethodKind}
    {id : MethodId} (h : id ∈ table.methodsOfKind type kind)
    : .method id ∈ (table.symbol type).members ∧ (table.method id).kind = kind := by
  obtain ⟨member, listed, picked⟩ := List.mem_filterMap.mp h
  cases member with
  | field name fieldType => simp at picked
  | method other =>
      simp only [Option.ite_none_right_eq_some, beq_iff_eq, Option.some.injEq] at picked
      obtain ⟨ofKind, rfl⟩ := picked
      exact ⟨listed, ofKind⟩

/-- The single method of a kind is the only one that is listed; with several of them there is none.
-/
theorem singleMethodOfKind?_eq_some_iff {table : TypeTable} {type : TypeId} {kind : MethodKind}
    {id : MethodId}
    : table.singleMethodOfKind? type kind = some id ↔ table.methodsOfKind type kind = [id] := by
  unfold singleMethodOfKind?
  split
  · next single found => simp [found]
  · next several =>
    simp only [reduceCtorEq, false_iff]
    exact several id

/-- The single method of a kind is a member of its type. -/
theorem mem_members_of_singleMethodOfKind? {table : TypeTable} {type : TypeId}
    {kind : MethodKind} {id : MethodId} (single : table.singleMethodOfKind? type kind = some id)
    : .method id ∈ (table.symbol type).members := by
  have only := singleMethodOfKind?_eq_some_iff.mp single
  exact (of_mem_methodsOfKind (only ▸ List.mem_singleton_self id)).1

end EntryPoints.TypeTable
