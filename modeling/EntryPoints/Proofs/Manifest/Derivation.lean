import EntryPoints.Proofs.Manifest.Cycles
import EntryPoints.Proofs.Manifest.Identity
import Mathlib.Order.WellFounded

/-! Derivation between the declared types of a manifest, as their bases are spelled. A base chain
of the table never ends exactly if it never leaves the declared types, so endless types can be told
without a table.
-/

namespace EntryPoints.Manifest

open TypeTable

/-- The one declared type has the other one for its base. -/
structure HasBase (manifest : Manifest) (derived base : TypeDecl) : Prop where
  listed : base ∈ manifest.types
  named
    : ∃ spelling,
        derived.base = some spelling
        ∧ TypeExpression.read manifest.known spelling.toList = .ok (.declared base.name)

/-- From the declared type on, declared types derive from declared types without end. -/
def DerivesEndlessly (manifest : Manifest) (declaration : TypeDecl) : Prop :=
  ∃ chain : Nat → TypeDecl,
    chain 0 = declaration ∧ ∀ position, manifest.HasBase (chain position) (chain (position + 1))

section
variable {manifest : Manifest} {scope : Scope} {table : TypeTable}
  (contents : manifest.Contents scope table)
include contents

/-- A declared type is in scope under its name, and is what its declaration says. -/
theorem Contents.describes_typeOf {declaration : TypeDecl} (listed : declaration ∈ manifest.types)
    : scope.find? declaration.name = some (scope.typeOf declaration)
      ∧ declaration.Describes scope table (scope.typeOf declaration) := by
  obtain ⟨type, found, describes⟩ := contents.describes declaration listed
  have same : scope.typeOf declaration = type := by rw [Scope.typeOf, found, Option.getD_some]
  exact ⟨same ▸ found, same ▸ describes⟩

/-- A declared type has a declared base exactly if its base is spelled so.
The spelling of a base denotes one type, and a declared type is denoted by its name only, whatever
blanks are around it.
-/
theorem Contents.base?_eq_some_iff {derived base : TypeDecl} (listed : derived ∈ manifest.types)
    (listed' : base ∈ manifest.types)
    : table.base? (scope.typeOf derived) = some (scope.typeOf base)
      ↔ manifest.HasBase derived base := by
  obtain ⟨_, describes⟩ := contents.describes_typeOf listed
  obtain ⟨found, _⟩ := contents.describes_typeOf listed'
  have furnished := contents.furnished
  have based := describes.base
  constructor
  · intro link
    rw [link] at based
    cases spelled : derived.base with
    | none =>
        rw [spelled] at based
        cases based
    | some spelling =>
        rw [spelled] at based
        obtain ⟨⟨expression, reading, denotes⟩⟩ := based
        obtain rfl := furnished.expression_unique denotes (.declared found)
        rw [contents.known] at reading
        exact ⟨listed', spelling, spelled, reading⟩
  · rintro ⟨_, spelling, spelled, reading⟩
    rw [spelled] at based
    rw [← contents.known] at reading
    generalize table.base? (scope.typeOf derived) = link at based
    obtain ⟨⟨expression, reading', denotes⟩⟩ := based
    obtain rfl := Except.ok.inj (reading'.symm.trans reading)
    rw [denotes.unique (.declared found)]

/-- The chain of a declared type ends if it derives in finitely many steps, since a chain that
leaves the declared types ends as well; by induction on the derivation.
-/
theorem Contents.chainEnds_of_acc {declaration : TypeDecl}
    (listed : declaration ∈ manifest.types)
    (ends : Acc (fun base derived => manifest.HasBase derived base) declaration)
    : table.ChainEnds (scope.typeOf declaration) := by
  have furnished := contents.furnished
  induction ends with
  | intro declaration _ ih =>
      cases link : table.base? (scope.typeOf declaration) with
      | none => exact .root link
      | some base =>
          refine .derived link ?_
          cases next : table.base? base with
          | none => exact .root next
          | some further =>
              rcases furnished.declared_or_base_ends next with ⟨name, found⟩ | ends
              · obtain ⟨declared, listed', rfl, _⟩ := contents.declaration_of_find? found
                obtain ⟨found', _⟩ := contents.describes_typeOf listed'
                obtain rfl := Option.some.inj (found.symm.trans found')
                have based := (contents.base?_eq_some_iff listed listed').mp link
                exact ih declared based listed'
              · exact .derived next (.root ends)

/-- A declared type whose chain ends derives in finitely many steps.
By induction on the chain: a declared base is the next type on it.
-/
theorem Contents.acc_of_chainEnds {type : TypeId} (ends : table.ChainEnds type)
    {declaration : TypeDecl} (listed : declaration ∈ manifest.types)
    (same : scope.typeOf declaration = type)
    : Acc (fun base derived => manifest.HasBase derived base) declaration := by
  induction ends generalizing declaration with
  | root noBase =>
      refine .intro _ (fun base based => ?_)
      have link := (contents.base?_eq_some_iff listed based.listed).mpr based
      rw [same, noBase] at link
      cases link
  | derived link _ ih =>
      refine .intro _ (fun base based => ?_)
      have link' := (contents.base?_eq_some_iff listed based.listed).mpr based
      rw [same, link] at link'
      exact ih based.listed (Option.some.inj link').symm

/-- The endless types of a table are those that derive endlessly, where not to derive in finitely
many steps is to have an endless sequence of bases.
-/
theorem Contents.endless_iff {declaration : TypeDecl} (listed : declaration ∈ manifest.types)
    : Endless scope table declaration ↔ manifest.DerivesEndlessly declaration := by
  have ends_iff
      : Acc (fun base derived => manifest.HasBase derived base) declaration
        ↔ table.ChainEnds (scope.typeOf declaration) :=
    ⟨contents.chainEnds_of_acc listed, fun ends => contents.acc_of_chainEnds ends listed rfl⟩
  rw [Endless, ← ends_iff]
  exact not_acc_iff_exists_descending_chain

end

end EntryPoints.Manifest
