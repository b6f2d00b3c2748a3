import EntryPoints.Proofs.Manifest.Contents
import Mathlib.Logic.Relation

/-! The tables that a build goes through once all types are declared. Between them it resolves
spellings and gives declared types their bases and members, so that they stay furnished and what
spellings stand for stays the same.
-/

namespace EntryPoints

open TypeTable

/-- One thing that a build does to its table once all types are declared. -/
inductive BuildStep (scope : Scope) (table : TypeTable) : TypeTable → Prop where
  | resolve {spelling : List Char} {type : TypeId} {later : TypeTable}
      (resolved : scope.resolve spelling table = (.ok type, later))
    : BuildStep scope table later
  | base {name : String} {owner : TypeId} {base : Option String} {later : TypeTable}
      (found : scope.find? name = some owner)
      (declared : Manifest.declareBase scope owner table base = .ok later)
    : BuildStep scope table later
  | member {name : String} {owner : TypeId} {member : MemberDecl} {later : TypeTable}
      (found : scope.find? name = some owner)
      (declared : Manifest.declareMember scope name owner table member = .ok later)
    : BuildStep scope table later

/-- A build may come from the one table to the other. -/
def Proceeds (scope : Scope) : TypeTable → TypeTable → Prop :=
  Relation.ReflTransGen (BuildStep scope)

/-- A table that a build of the manifest may have once all types are declared. -/
def Manifest.Moment (manifest : Manifest) (scope : Scope) (table : TypeTable) : Prop :=
  ∃ bare,
    declareTypes { platformTasks := manifest.platformTasks } manifest.startingTable manifest.types
        = .ok (scope, bare)
    ∧ Proceeds scope bare table

------------------------------------------------------------------------------------------
-- What stays true

/-- A furnished table that has come from the earlier one by touching declared types only. -/
structure Continues (scope : Scope) (table later : TypeTable) : Prop where
  furnished : Furnished scope later
  grows : Grows (fun type => ∃ name, scope.find? name = some type) table later

/-- A declared type may be changed after types have only been added: in all, declared types only are
touched.
-/
theorem Continues.of_change {scope : Scope} {table middle later : TypeTable} {name : String}
    {owner : TypeId} (found : scope.find? name = some owner) (added : Extends table middle)
    (changed : Grows (· = owner) middle later) (furnished : Furnished scope later)
    : Continues scope table later where
  furnished := furnished
  grows :=
    (added.mono (fun _ _ touch => touch.elim)).trans
      (changed.mono (fun _ _ same => ⟨name, same ▸ found⟩))

section
variable {scope : Scope} {table later : TypeTable} (furnished : Furnished scope table)
include furnished

/-- What a build does leaves its table furnished, and touches declared types only.
By cases on what it does. A spelling is resolved by interning, and a base or a member is added to a
declared type after that.
-/
theorem BuildStep.continues (step : BuildStep scope table later)
    : Continues scope table later := by
  cases step with
  | @resolve spelling _ _ resolved =>
      have resolution := resolve_resolution furnished spelling
      rw [resolved] at resolution
      generalize TypeExpression.read scope.known spelling = reading at resolution
      cases resolution with
      | found furnished' grows _ => exact ⟨furnished', grows.mono (fun _ _ touch => touch.elim)⟩
  | @base _ owner base _ found declared =>
      cases base with
      | none =>
          obtain rfl := Except.ok.inj declared
          exact ⟨furnished, .refl _ table⟩
      | some spelling =>
          rcases Manifest.resolved_endsIn furnished spelling with
            ⟨_, _, failed⟩ | ⟨⟨base, middle⟩, _, done, resolves⟩
          · simp [Manifest.declareBase, failed] at declared
          · simp only [Manifest.declareBase, done, Except.ok.injEq] at declared
            obtain rfl := declared
            exact .of_change found resolves.grows (.setBase middle owner base)
              (resolves.furnished.setBase found (resolves.spells.has resolves.furnished))
  | @member name owner member _ found declared =>
      cases member with
      | method method =>
          rcases Manifest.signature_endsIn furnished name method with
            ⟨_, _, failed⟩ | ⟨⟨signature, middle⟩, _, done, resolves⟩
          · simp [Manifest.declareMember, failed] at declared
          · simp only [Manifest.declareMember, done, Except.ok.injEq] at declared
            obtain rfl := declared
            exact .of_change found resolves.grows (.defineMethod middle owner signature)
              (resolves.furnished.defineMethod found resolves.there)
      | field field =>
          rcases Manifest.resolved_endsIn furnished field.type with
            ⟨_, _, failed⟩ | ⟨⟨type, middle⟩, _, done, resolves⟩
          · simp [Manifest.declareMember, failed] at declared
          · simp only [Manifest.declareMember, done, Except.ok.injEq] at declared
            obtain rfl := declared
            exact .of_change found resolves.grows (.defineField middle owner field.name type)
              (resolves.furnished.defineField found (resolves.spells.has resolves.furnished)
                field.name)

/-- However far a build goes on, its table stays furnished; by induction on its steps. -/
theorem Proceeds.continues (proceeds : Proceeds scope table later)
    : Continues scope table later := by
  induction proceeds with
  | refl => exact ⟨furnished, .refl _ table⟩
  | tail _ step ih =>
      have last := step.continues ih.furnished
      exact ⟨last.furnished, ih.grows.trans last.grows⟩

/-- What an expression denotes it denotes from then on, since no step of a build touches what
denotes it.
-/
theorem Denotes.proceed (proceeds : Proceeds scope table later) {expression : TypeExpression}
    {type : TypeId} (denotes : Denotes scope table expression type)
    : Denotes scope later expression type :=
  denotes.grow furnished (proceeds.continues furnished).grows id id

end

namespace Manifest

variable {manifest : Manifest} {scope : Scope} {table later : TypeTable}

/-- Once all types are declared the scope has exactly those of the manifest.
The other outcome of declaring is an error.
-/
theorem declared_of_declareTypes
    (done
      : declareTypes { platformTasks := manifest.platformTasks } manifest.startingTable
            manifest.types
          = .ok (scope, table))
    : Declared manifest.types scope table ∧ scope.known = manifest.known := by
  rcases declareTypes_outcome manifest.declared_startingTable manifest.types with
    ⟨scope', table', done', declared, platformTasks⟩ | ⟨_, failed, _⟩
  · obtain ⟨rfl, rfl⟩ := Prod.mk.inj (Except.ok.inj (done.symm.trans done'))
    exact ⟨declared, known_of_declared declared platformTasks⟩
  · cases failed.symm.trans done

/-- At every moment the table is furnished, as it is when the types have been declared and stays so.
-/
theorem Moment.furnished (moment : manifest.Moment scope table)
    : Furnished scope table := by
  obtain ⟨bare, done, proceeds⟩ := moment
  obtain ⟨declared, _⟩ := declared_of_declareTypes done
  exact (proceeds.continues declared.furnished).furnished

/-- At every moment spellings may mention what the manifest declares. -/
theorem Moment.known (moment : manifest.Moment scope table)
    : scope.known = manifest.known := by
  obtain ⟨bare, done, _⟩ := moment
  exact (declared_of_declareTypes done).2

------------------------------------------------------------------------------------------
-- Every table of a build is one of a moment

/-- Members are declared step by step, by induction on them. -/
theorem proceeds_of_declareMembers {name : String} {owner : TypeId}
    (found : scope.find? name = some owner) {members : List MemberDecl}
    (declared : declareMembers scope name owner table members = .ok later)
    : Proceeds scope table later := by
  induction members generalizing table with
  | nil =>
      obtain rfl := Except.ok.inj declared
      exact .refl
  | cons member rest ih =>
      rw [declareMembers] at declared
      split at declared
      · cases declared
      · next middle first => exact .head (.member found first) (ih declared)

/-- Types are completed step by step: each gets its base first, and then its members.
By induction on the types, of which every one is found in the scope.
-/
theorem proceeds_of_completeTypes {types : List TypeDecl}
    (found : ∀ declaration ∈ types, ∃ type, scope.find? declaration.name = some type)
    (completed : completeTypes scope table types = .ok later)
    : Proceeds scope table later := by
  induction types generalizing table with
  | nil =>
      obtain rfl := Except.ok.inj completed
      exact .refl
  | cons declaration rest ih =>
      obtain ⟨owner, found'⟩ := found declaration List.mem_cons_self
      have others := fun other listed => found other (List.mem_cons_of_mem _ listed)
      rw [completeTypes_cons found', completeType] at completed
      split at completed
      · cases completed
      · next middle first =>
        split at first
        · cases first
        · next based base =>
          have members := proceeds_of_declareMembers found' first
          exact .head (.base found' base) (members.trans (ih others completed))

/-- Completing declared types leads from one moment to another. -/
theorem Moment.completeTypes {types : List TypeDecl} (moment : manifest.Moment scope table)
    (listed : ∀ declaration ∈ types, declaration ∈ manifest.types)
    (completed : completeTypes scope table types = .ok later)
    : manifest.Moment scope later := by
  obtain ⟨bare, done, before⟩ := moment
  obtain ⟨declared, _⟩ := declared_of_declareTypes done
  have found (declaration : TypeDecl) (member : declaration ∈ types)
      : ∃ type, scope.find? declaration.name = some type := by
    obtain ⟨type, found, _⟩ := declared.bare declaration (listed declaration member)
    exact ⟨type, found⟩
  exact ⟨bare, done, before.trans (proceeds_of_completeTypes found completed)⟩

/-- The table that a build checks for cycles is its last moment. -/
theorem Completes.moment (completes : manifest.Completes scope table)
    : manifest.Moment scope table := by
  obtain ⟨bare, done, completed⟩ := completes
  have first : manifest.Moment scope bare := ⟨bare, done, .refl⟩
  exact first.completeTypes (fun _ => id) completed

end Manifest

end EntryPoints
