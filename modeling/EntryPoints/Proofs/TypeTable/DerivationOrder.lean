import EntryPoints.Proofs.TypeTable.Hierarchy

/-! Where base chains end, derivation orders the types of a table. A type has one base at most, so
all types that it derives from lie on one chain.
-/

namespace EntryPoints.TypeTable

section
variable {table : TypeTable}

/-- What a type inherits from has fewer steps left, unless it is the type itself; by induction along
the inheritance, from the type upwards.
-/
theorem EndsAfter.of_inherits {type base : TypeId} {steps : Nat}
    (ends : table.EndsAfter steps type) (inherits : table.Inherits type base)
    : ∃ left, table.EndsAfter left base ∧ (type = base ∨ left < steps) := by
  induction inherits using Relation.ReflTransGen.head_induction_on generalizing steps with
  | refl => exact ⟨steps, ends, .inl rfl⟩
  | @head type next link _ ih =>
      cases ends with
      | root none => simp [none] at link
      | @derived more _ next' link' rest =>
          obtain rfl : next' = next := Option.some.inj (link'.symm.trans link)
          obtain ⟨left, baseEnds, same | fewer⟩ := ih rest
          · subst same
            have equal := baseEnds.unique rest
            exact ⟨left, baseEnds, .inr (by omega)⟩
          · exact ⟨left, baseEnds, .inr (by omega)⟩

/-- Two types do not inherit from each other, since each would have fewer steps left than the
other.
-/
theorem Inherits.antisymm {type base : TypeId} (ends : table.ChainEnds type)
    (upper : table.Inherits type base) (lower : table.Inherits base type)
    : type = base := by
  obtain ⟨steps, after⟩ := ends.endsAfter
  obtain ⟨left, baseEnds, same | fewer⟩ := after.of_inherits upper
  · exact same
  · obtain ⟨back, again, same | fewer'⟩ := baseEnds.of_inherits lower
    · exact same.symm
    · have equal := again.unique after
      omega

/-- Of two types that one type inherits from, one inherits from the other.
All that it inherits from lies on its chain, which does not branch, as each type has at most one
base.
-/
theorem Inherits.comparable {type first second : TypeId} (h : table.Inherits type first)
    (h' : table.Inherits type second)
    : table.Inherits first second ∨ table.Inherits second first := by
  refine Relation.ReflTransGen.total_of_right_unique ?_ h h'
  intro type base other link link'
  exact Option.some.inj (link.symm.trans link')

end

/-- Derivation is inheritance along the bases. It is a partial order, in which the types that one
type derives from are comparable.
-/
structure OrderedByDerivation (table : TypeTable) : Prop where
  inherits : ∀ {type base}, table.isDerivedFrom type base ↔ table.Inherits type base
  refl : ∀ type, table.isDerivedFrom type type
  trans
    : ∀ {type middle base},
        table.isDerivedFrom type middle
        → table.isDerivedFrom middle base
        → table.isDerivedFrom type base
  antisymm
    : ∀ {type base},
        table.isDerivedFrom type base → table.isDerivedFrom base type → type = base
  comparable
    : ∀ {type first second},
        table.isDerivedFrom type first
        → table.isDerivedFrom type second
        → table.isDerivedFrom first second ∨ table.isDerivedFrom second first

/-- Derivation orders the types of every table whose base chains end, whatever operations led to
it.
-/
theorem ChainsEnd.orderedByDerivation {table : TypeTable} (ends : table.ChainsEnd)
    : table.OrderedByDerivation where
  inherits := isDerivedFrom_iff ends
  refl := isDerivedFrom_self table
  trans lower upper := isDerivedFrom_trans ends lower upper
  antisymm {type base} upper lower := by
    rw [isDerivedFrom_iff ends] at upper lower
    exact upper.antisymm (ends type) lower
  comparable {type first second} h h' := by
    rw [isDerivedFrom_iff ends] at h h'
    rw [isDerivedFrom_iff ends, isDerivedFrom_iff ends]
    exact h.comparable h'

/-- Jobs of two kinds, and a build that gets its base behind its declaration. -/
def jobsOfTwoKinds : TypeTable :=
  .performAll .empty
    [
      .defineType "Job" .classType none,
      .defineType "Build" .classType (some ⟨11⟩),
      .defineType "Backup" .classType (some ⟨11⟩),
      .defineType "NightlyBuild" .classType none,
      .setBase ⟨14⟩ ⟨12⟩
    ]

/-- The types that the nightly build derives from are comparable, and the two kinds are not. -/
theorem jobsOfTwoKinds_ordered
    : jobsOfTwoKinds.Reached
      ∧ jobsOfTwoKinds.ChainsEnd
      ∧ jobsOfTwoKinds.OrderedByDerivation
      ∧ jobsOfTwoKinds.isDerivedFrom ⟨14⟩ ⟨12⟩
      ∧ jobsOfTwoKinds.isDerivedFrom ⟨14⟩ ⟨11⟩
      ∧ jobsOfTwoKinds.isDerivedFrom ⟨12⟩ ⟨11⟩
      ∧ ¬ jobsOfTwoKinds.isDerivedFrom ⟨12⟩ ⟨13⟩
      ∧ ¬ jobsOfTwoKinds.isDerivedFrom ⟨13⟩ ⟨12⟩ := by
  have ends : jobsOfTwoKinds.ChainsEnd := chainsEnd_of_bases_before (by decide)
  exact ⟨⟨_, by decide, rfl⟩, ends, ends.orderedByDerivation, by decide⟩

end EntryPoints.TypeTable
