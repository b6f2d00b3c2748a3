import EntryPoints.Proofs.TypeTable.Hierarchy

/-! Walks along a base chain that nothing bounds. Where the chain ends the walk does, and the
bounded lookups find what it finds.
-/

namespace EntryPoints.TypeTable

/-- A walk from a type along its base chain ends: at the first type that stops it, or with none
behind a type without a base.
-/
inductive WalkEnds (table : TypeTable) (stops : TypeId → Bool)
    : TypeId → Option TypeId → Prop where
  | stopped {type : TypeId} (stop : stops type) : WalkEnds table stops type (some type)
  | root {type : TypeId} (pass : stops type = false) (base : table.base? type = none)
    : WalkEnds table stops type none
  | derived {type base : TypeId} {found : Option TypeId} (pass : stops type = false)
      (link : table.base? type = some base) (rest : WalkEnds table stops base found)
      : WalkEnds table stops type found

/-- A type declares a member of that name. -/
def declares (table : TypeTable) (name : String) (type : TypeId) : Bool :=
  !(table.lookup type name).isEmpty

section
variable {table : TypeTable} {stops : TypeId → Bool}

/-- A walk ends in one way only.
By induction along it: whether it stops at a type is decided there, and a type has at most one base
to go on with.
-/
theorem WalkEnds.unique {type : TypeId} {found other : Option TypeId}
    (h : table.WalkEnds stops type found) (h' : table.WalkEnds stops type other)
    : found = other := by
  induction h with
  | stopped stop =>
      cases h' with
      | stopped => rfl
      | root pass => simp [stop] at pass
      | derived pass => simp [stop] at pass
  | root pass base =>
      cases h' with
      | stopped stop => simp [pass] at stop
      | root => rfl
      | derived _ link => simp [base] at link
  | derived pass link _ ih =>
      cases h' with
      | stopped stop => simp [pass] at stop
      | root _ base => simp [base] at link
      | derived _ link' rest =>
          obtain rfl : _ = _ := Option.some.inj (link.symm.trans link')
          exact ih rest

/-- A walk meets what a bounded one does if the bound leaves room for all steps of the chain, by
induction along the chain.
-/
theorem EndsAfter.walkEnds {type : TypeId} {steps limit : Nat}
    (h : table.EndsAfter steps type) (enough : steps ≤ limit)
    : table.WalkEnds stops type ((follow table.base? limit type).find? stops) := by
  induction h generalizing limit with
  | @root type base =>
      have stays : follow table.base? limit type = [type] := by
        cases limit <;> simp [follow, base]
      rw [stays]
      cases stop : stops type with
      | true => simpa [stop] using WalkEnds.stopped stop
      | false => simpa [stop] using WalkEnds.root stop base
  | @derived steps type base link _ ih =>
      obtain ⟨limit, rfl⟩ : ∃ smaller, limit = smaller + 1 :=
        Nat.exists_eq_succ_of_ne_zero (by omega)
      have rest : table.WalkEnds stops base ((follow table.base? limit base).find? stops) :=
        ih (by omega)
      cases stop : stops type with
      | true => simpa [follow, link, stop] using WalkEnds.stopped stop
      | false => simpa [follow, link, stop] using WalkEnds.derived stop link rest

/-- Where the base chain ends, every walk along it does, with what the bounded walk finds.
The chain has no more steps than the table has types, so the bound leaves room for all of them.
-/
theorem ChainEnds.walkEnds {type : TypeId} (ends : table.ChainEnds type)
    (stops : TypeId → Bool)
    : table.WalkEnds stops type ((table.baseChain type).find? stops) := by
  obtain ⟨steps, after⟩ := ends.endsAfter
  exact after.walkEnds after.le_typeCount

/-- The bounded walk finds what the walk ends with, since that ends in one way only. -/
theorem ChainEnds.find?_baseChain_eq_iff {type : TypeId} (ends : table.ChainEnds type)
    {found : Option TypeId}
    : (table.baseChain type).find? stops = found ↔ table.WalkEnds stops type found := by
  constructor
  · rintro rfl
    exact ends.walkEnds stops
  · exact (ends.walkEnds stops).unique

end

/-- A lookup along the base chain finds the members of the first type that declares the name.
It is the walk that stops where the name is declared, with what is declared there.
-/
theorem ChainEnds.lookupInHierarchy_eq_some_iff {table : TypeTable} {type owner : TypeId}
    (ends : table.ChainEnds type) {name : String} {found : List Member}
    : table.lookupInHierarchy type name = some (owner, found)
      ↔ table.WalkEnds (table.declares name) type (some owner)
        ∧ found = table.lookup owner name := by
  rw [← ends.find?_baseChain_eq_iff, lookupInHierarchy, Option.map_eq_some_iff]
  constructor
  · rintro ⟨nearest, first, same⟩
    obtain ⟨rfl, rfl⟩ := Prod.mk.inj same
    exact ⟨first, rfl⟩
  · rintro ⟨first, rfl⟩
    exact ⟨owner, first, rfl⟩

/-- A member name can be used on a type: the nearest type of its base chain that declares the name
declares it once, as a method without parameters.
-/
structure Usable (table : TypeTable) (type : TypeId) (name : String) (method : MethodId)
    : Prop where
  only
    : ∃ owner,
        table.WalkEnds (table.declares name) type (some owner)
        ∧ table.lookup owner name = [.method method]
  parameterless : (table.method method).parameters = []

end EntryPoints.TypeTable
