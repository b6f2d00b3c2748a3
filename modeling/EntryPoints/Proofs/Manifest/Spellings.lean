import EntryPoints.Proofs.Manifest.Moments
import EntryPoints.Proofs.Manifest.SpellingGrammar

/-! What a build makes of the spellings of types, if the declared names are plain. It accepts
exactly the grammar, names types as they are spelled, and keeps apart what is spelled apart.
-/

namespace EntryPoints

open TypeTable TypeExpression

/-- At a moment of a build, spellings are resolved exactly as the grammar says. -/
structure Scope.SpellsExactly (scope : Scope) (known : KnownNames) (table : TypeTable)
    : Prop where
  accepted
    : ∀ spelling,
        (∃ type later, scope.resolve spelling table = (.ok type, later))
        ↔ ∃ expression, Spelled known expression spelling
  /-- The name is the spelling without optional blanks, and the type keeps it. -/
  named
    : ∀ {spelling expression type later last},
        scope.resolve spelling table = (.ok type, later)
        → Proceeds scope later last
        → Spelled known expression spelling
        → last.displayName type = String.ofList expression.compact
  /-- Of two spellings, the second may be resolved at any later moment. -/
  identified
    : ∀ {first second type other later middle last},
        scope.resolve first table = (.ok type, later)
        → Proceeds scope later middle
        → scope.resolve second middle = (.ok other, last)
        → (type = other
          ↔ ∃ expression, Spelled known expression first ∧ Spelled known expression second)
  /-- A spelling that only lacks the platform's futures is reported with the outermost part that
  needs them. -/
  refused
    : ∀ {spelling expression},
        known.platformTasks = false
        → Spelled { known with platformTasks := true } expression spelling
        → (¬ ∃ expression, Spelled known expression spelling)
        → ∃ part,
            OutermostFuture known part spelling
            ∧ scope.resolve spelling table
              = (.error (.tasksDisabled (String.ofList part)), table)

/-- A text spells one expression at most, since it is read as that. -/
theorem TypeExpression.Spelled.unique {known : KnownNames}
    (plain : ∀ name, known.declared name → PlainName name) {expression other : TypeExpression}
    {text : List Char} (spelled : Spelled known expression text)
    (spelled' : Spelled known other text)
    : expression = other :=
  Except.ok.inj ((spelled.read_eq plain).symm.trans (spelled'.read_eq plain))

namespace Furnished

variable {scope : Scope} {table : TypeTable} (furnished : Furnished scope table)
include furnished

/-- What is resolved has been spelled, and the type is the one that its expression denotes.
The resolver follows the reader, which accepts nothing but spellings.
-/
theorem spelled_of_resolve {spelling : List Char} {type : TypeId} {later : TypeTable}
    (resolved : scope.resolve spelling table = (.ok type, later))
    : Furnished scope later
      ∧ ∃ expression,
          Spelled scope.known expression spelling ∧ Denotes scope later expression type := by
  have resolution := resolve_resolution furnished spelling
  rw [resolved] at resolution
  generalize reading : TypeExpression.read scope.known spelling = result at resolution
  cases resolution with
  | found furnished' _ denotes =>
      exact ⟨furnished', _, spelled_of_read spelling reading, denotes⟩

variable (plain : ∀ name, scope.known.declared name → PlainName name)
include plain

/-- What is spelled is resolved, as the reader accepts it and the resolver follows. -/
theorem resolve_of_spelled {spelling : List Char} {expression : TypeExpression}
    (spelled : Spelled scope.known expression spelling)
    : ∃ type later, scope.resolve spelling table = (.ok type, later) := by
  have resolution := resolve_resolution furnished spelling
  rw [spelled.read_eq plain] at resolution
  generalize scope.resolve spelling table = result at resolution
  cases resolution with
  | found _ _ _ => exact ⟨_, _, rfl⟩

/-- The expression that is spelled denotes what the spelling is resolved to, being the only one that
it spells.
-/
theorem denotes_of_resolve {spelling : List Char} {type : TypeId} {later : TypeTable}
    (resolved : scope.resolve spelling table = (.ok type, later)) {expression : TypeExpression}
    (spelled : Spelled scope.known expression spelling)
    : Denotes scope later expression type := by
  obtain ⟨_, other, spelled', denotes⟩ := furnished.spelled_of_resolve resolved
  rwa [spelled.unique plain spelled']

/-- Without the platform's future types, the outermost part of a spelling that needs them is
reported, and nothing is made.
-/
theorem resolve_of_outermostFuture (disabled : scope.platformTasks = false)
    {part spelling : List Char} (outermost : OutermostFuture scope.known part spelling)
    : scope.resolve spelling table
      = (.error (.tasksDisabled (String.ofList part)), table) := by
  have resolution := resolve_resolution furnished spelling
  rw [outermost.read_eq plain disabled] at resolution
  generalize scope.resolve spelling table = result at resolution
  cases resolution
  rfl

/-- Spellings are resolved exactly in any furnished table whose declared names are plain.
Everything is said of expressions: a spelling stands for one of them, which goes on denoting its
type, and two of them denote the same type only if they are the same.
-/
theorem spellsExactly : scope.SpellsExactly scope.known table where
  accepted spelling := by
    constructor
    · rintro ⟨type, later, resolved⟩
      obtain ⟨_, expression, spelled, _⟩ := furnished.spelled_of_resolve resolved
      exact ⟨expression, spelled⟩
    · rintro ⟨expression, spelled⟩
      exact furnished.resolve_of_spelled plain spelled
  named resolved proceeds spelled := by
    have ⟨furnished', _⟩ := furnished.spelled_of_resolve resolved
    have denotes := furnished.denotes_of_resolve plain resolved spelled
    have last := (proceeds.continues furnished').furnished
    have name := last.displayName_eq (denotes.proceed furnished' proceeds)
    exact name.trans spelled.name_eq
  identified resolved proceeds resolved' := by
    obtain ⟨furnished', expression, spelled, denotes⟩ := furnished.spelled_of_resolve resolved
    have middle := (proceeds.continues furnished').furnished
    obtain ⟨last, other, spelled', denotes'⟩ := middle.spelled_of_resolve resolved'
    have resolves : BuildStep scope _ _ := .resolve resolved'
    have kept := denotes.proceed furnished' (proceeds.tail resolves)
    constructor
    · rintro rfl
      have same := last.expression_unique kept denotes'
      exact ⟨expression, spelled, same ▸ spelled'⟩
    · rintro ⟨common, first, second⟩
      obtain rfl := first.unique plain spelled
      obtain rfl := second.unique plain spelled'
      exact kept.unique denotes'
  refused disabled spelled unspelled := by
    rcases spelled.of_withFutures with inner | ⟨part, outermost⟩
    · exact absurd ⟨_, inner⟩ unspelled
    · exact ⟨part, outermost, furnished.resolve_of_outermostFuture plain disabled outermost⟩

/-- From then on, the name of a type that was resolved spells it.
The name is the expression without blanks, which spells the same expression.
-/
theorem resolve_displayName {spelling : List Char} {type : TypeId} {later middle : TypeTable}
    (resolved : scope.resolve spelling table = (.ok type, later))
    (proceeds : Proceeds scope later middle)
    : ∃ last, scope.resolve (middle.displayName type).toList middle = (.ok type, last) := by
  have ⟨furnished', expression, spelled, _⟩ := furnished.spelled_of_resolve resolved
  have exactly := furnished.spellsExactly plain
  have name : (middle.displayName type).toList = expression.compact := by
    rw [exactly.named resolved proceeds spelled, String.toList_ofList]
  obtain ⟨other, last, resolved'⟩ :=
    (proceeds.continues furnished').furnished.resolve_of_spelled plain spelled.compact
  obtain rfl := (exactly.identified resolved proceeds resolved').mpr
    ⟨expression, spelled, spelled.compact⟩
  exact ⟨last, name ▸ resolved'⟩

end Furnished

/-- At every moment of a build whose declared names are plain, spellings are resolved exactly, as
the table is furnished and knows the names of the manifest.
-/
theorem Manifest.Moment.spellings_exact {manifest : Manifest} {scope : Scope} {table : TypeTable}
    (plain : ∀ name ∈ manifest.names, PlainName name) (moment : manifest.Moment scope table)
    : scope.SpellsExactly manifest.known table := by
  have declared (name : String) (known : scope.known.declared name) : PlainName name := by
    rw [moment.known] at known
    exact plain name (of_decide_eq_true known)
  rw [← moment.known]
  exact moment.furnished.spellsExactly declared

/-- A type that mentions the platform's futures, arrays and itself. -/
def nestedSpellings : Manifest where
  platformTasks := true
  types :=
    [
      {
        name := "Program",
        base := some "Task< Program[] >",
        members := [.field { name := "cache", type := " Task<string []>[] " }]
      }
    ]
  compilation := .regular none

/-- Spellings are resolved exactly once the members of that manifest are declared. -/
theorem nestedSpellings_exact
    : (∀ name ∈ nestedSpellings.names, PlainName name)
      ∧ ∃ scope table,
          nestedSpellings.Completes scope table
          ∧ nestedSpellings.Moment scope table
          ∧ scope.SpellsExactly nestedSpellings.known table := by
  have plain : ∀ name ∈ nestedSpellings.names, PlainName name := by decide
  obtain ⟨scope, table, completes⟩ :=
    nestedSpellings.exists_completes_iff.mpr ⟨by decide +kernel, by decide +kernel⟩
  have moment := completes.moment
  exact ⟨plain, scope, table, completes, moment, moment.spellings_exact plain⟩

end EntryPoints
