import EntryPoints.Proofs.TypeTable.Change
import Mathlib.Data.List.FinRange
import Mathlib.Data.List.Perm.Subperm
import Mathlib.Tactic.Choose

/-! Base chains that end are never longer than the table, so the bounded walk along one meets
every base. Derivation is then reflexive and transitive.
-/

namespace EntryPoints.TypeTable

/-- A type inherits from itself and from all that its base inherits from. -/
def Inherits (table : TypeTable) : TypeId → TypeId → Prop :=
  Relation.ReflTransGen (fun type base => table.base? type = some base)

/-- The base chain of a type ends after that many steps. -/
inductive EndsAfter (table : TypeTable) : Nat → TypeId → Prop where
  | root {type : TypeId} (base : table.base? type = none) : EndsAfter table 0 type
  | derived {steps : Nat} {type base : TypeId} (link : table.base? type = some base)
      (rest : EndsAfter table steps base)
      : EndsAfter table (steps + 1) type

/-- A chain that ends does so after some number of steps, by induction along the chain. -/
theorem ChainEnds.endsAfter {table : TypeTable} {type : TypeId} (ends : table.ChainEnds type)
    : ∃ steps, table.EndsAfter steps type := by
  induction ends with
  | root base => exact ⟨0, .root base⟩
  | derived link _ ih =>
      obtain ⟨steps, rest⟩ := ih
      exact ⟨steps + 1, .derived link rest⟩

/-- A chain that ends after some number of steps ends, by induction along it. -/
theorem EndsAfter.chainEnds {table : TypeTable} {type : TypeId} {steps : Nat}
    (h : table.EndsAfter steps type)
    : table.ChainEnds type := by
  induction h with
  | root base => exact .root base
  | derived link _ ih => exact .derived link ih

/-- The number of steps is determined, since each type has at most one base; by induction along the
chain.
-/
theorem EndsAfter.unique {table : TypeTable} {type : TypeId} {steps other : Nat}
    (h : table.EndsAfter steps type) (h' : table.EndsAfter other type)
    : steps = other := by
  induction h generalizing other with
  | root base =>
      cases h' with
      | root => rfl
      | derived link => simp [base] at link
  | derived link _ ih =>
      cases h' with
      | root base => simp [base] at link
      | derived link' rest =>
          obtain rfl : _ = _ := Option.some.inj (link.symm.trans link')
          exact congrArg (· + 1) (ih rest)

/-- Along a chain of some length there is a type for each smaller number of steps left, by induction
along the chain.
-/
theorem EndsAfter.exists_shorter {table : TypeTable} {type : TypeId} {steps : Nat}
    (h : table.EndsAfter steps type) {left : Nat} (shorter : left < steps)
    : ∃ position, table.EndsAfter (left + 1) position := by
  induction h with
  | root => exact absurd shorter (Nat.not_lt_zero left)
  | @derived steps type base link rest ih =>
      rcases Nat.lt_succ_iff_lt_or_eq.mp shorter with earlier | rfl
      · exact ih earlier
      · exact ⟨type, .derived link rest⟩

/-- A chain is no longer than a list of all types that have more than some number of steps left, but
for that number: types with different numbers of steps left are different.
-/
theorem EndsAfter.le_length_add {table : TypeTable} {type : TypeId} {steps left : Nat}
    (h : table.EndsAfter steps type) {candidates : List TypeId}
    (listed : ∀ {other more}, table.EndsAfter (left + more + 1) other → other ∈ candidates)
    : steps ≤ candidates.length + left := by
  have further (more : Fin (steps - left)) : left + more < steps := by omega
  choose position ends using fun more => h.exists_shorter (further more)
  have injective : Function.Injective position := by
    intro more other same
    have again := ends other
    rw [← same] at again
    have equal := (ends more).unique again
    exact Fin.ext (by omega)
  have distinct : (List.ofFn position).Nodup := List.nodup_ofFn.mpr injective
  have within : List.ofFn position ⊆ candidates := by
    intro other member
    obtain ⟨more, rfl⟩ := List.mem_ofFn.mp member
    exact listed (ends more)
  have count := (List.subperm_of_subset distinct within).length_le
  rw [List.length_ofFn] at count
  omega

/-- A chain that ends has no more steps than the table has types.
Each type with steps left has a base, so it is one of the table's types, and no two of these have as
many steps left.
-/
theorem EndsAfter.le_typeCount {table : TypeTable} {type : TypeId} {steps : Nat}
    (h : table.EndsAfter steps type)
    : steps ≤ table.typeCount := by
  have listed {other : TypeId} {more : Nat} (further : table.EndsAfter (0 + more + 1) other)
      : other ∈ (List.range table.typeCount).map TypeId.mk := by
    cases further with
    | derived link _ =>
        exact List.mem_map.mpr ⟨other.index, List.mem_range.mpr (has_of_base? link), rfl⟩
  simpa using h.le_length_add listed

/-- A walk that may take all steps of a chain meets what the start inherits from and nothing
else, by induction along the chain.
-/
theorem EndsAfter.mem_follow_iff {table : TypeTable} {type found : TypeId} {steps limit : Nat}
    (h : table.EndsAfter steps type) (enough : steps ≤ limit)
    : found ∈ follow table.base? limit type ↔ table.Inherits type found := by
  induction h generalizing limit with
  | @root type base =>
      have stays : follow table.base? limit type = [type] := by
        cases limit <;> simp [follow, base]
      rw [stays, List.mem_singleton, Inherits, Relation.ReflTransGen.cases_head_iff]
      simp [base, eq_comm]
  | @derived steps type base link _ ih =>
      obtain ⟨limit, rfl⟩ : ∃ smaller, limit = smaller + 1 :=
        Nat.exists_eq_succ_of_ne_zero (by omega)
      have rest : found ∈ follow table.base? limit base ↔ table.Inherits base found :=
        ih (by omega)
      rw [Inherits, Relation.ReflTransGen.cases_head_iff]
      simp only [follow, link, List.mem_cons, rest, Option.some.injEq,
        exists_eq_left', Inherits]
      exact or_congr_left eq_comm

/-- The bounded walk meets what the type inherits from, and nothing else, if the chain ends. -/
theorem ChainEnds.mem_baseChain_iff {table : TypeTable} {type found : TypeId}
    (ends : table.ChainEnds type)
    : found ∈ table.baseChain type ↔ table.Inherits type found := by
  obtain ⟨steps, after⟩ := ends.endsAfter
  exact after.mem_follow_iff after.le_typeCount

/-- Derivation as it is checked is inheritance, where all chains end. -/
theorem isDerivedFrom_iff {table : TypeTable} (ends : table.ChainsEnd) {type base : TypeId}
    : table.isDerivedFrom type base ↔ table.Inherits type base := by
  rw [isDerivedFrom, List.contains_iff_mem]
  exact (ends type).mem_baseChain_iff

/-- Every type is derived from itself, as a walk starts with it whatever its bound. -/
@[simp]
theorem isDerivedFrom_self (table : TypeTable) (type : TypeId)
    : table.isDerivedFrom type type := by
  have start : type ∈ table.baseChain type := by
    unfold baseChain
    cases table.typeCount with
    | zero => simp [follow]
    | succ limit =>
        unfold follow
        split <;> simp
  simpa [isDerivedFrom] using start

/-- Derivation goes on along the bases, where all chains end. -/
theorem isDerivedFrom_trans {table : TypeTable} (ends : table.ChainsEnd)
    {type middle base : TypeId} (lower : table.isDerivedFrom type middle)
    (upper : table.isDerivedFrom middle base)
    : table.isDerivedFrom type base := by
  rw [isDerivedFrom_iff ends] at lower upper ⊢
  exact lower.trans upper

/-- All chains of a table end if each base was created before the types derived from it.
By strong induction on the number of a type, which is greater than that of its base.
-/
theorem chainsEnd_of_bases_before {table : TypeTable}
    (before
      : ∀ position < table.typeCount, ∀ base ∈ table.base? ⟨position⟩, base.index < position)
    : table.ChainsEnd := by
  rintro ⟨position⟩
  induction position using Nat.strong_induction_on with
  | _ position ih =>
      cases link : table.base? ⟨position⟩ with
      | none => exact .root link
      | some base =>
          exact .derived link (ih base.index (before position (has_of_base? link) base link))

end EntryPoints.TypeTable
