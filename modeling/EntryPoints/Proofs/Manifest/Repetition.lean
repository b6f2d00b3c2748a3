import EntryPoints.Proofs.Manifest.Moments
import EntryPoints.Proofs.TypeTable.Persistence

/-! Resolving a spelling once more leads to the same type and makes nothing, whatever was done in
between, and a spelling that is not resolved leaves its table as it was.
-/

namespace EntryPoints

open TypeTable

------------------------------------------------------------------------------------------
-- Resolving, by the form of the spelling

namespace Scope

section
variable {scope : Scope} {table : TypeTable} {spelling : List Char}

/-- An array is resolved by its element, which is resolved before the array is asked for. -/
theorem resolve_of_element {element : List Char}
    (isArray : elementSpelling? (Text.trim spelling) = some element) {inner : TypeId}
    {later : TypeTable} (resolved : scope.resolve element table = (.ok inner, later))
    : scope.resolve spelling table = (.ok (later.arrayOf inner).1, (later.arrayOf inner).2) := by
  rw [resolve]
  split
  · next other isArray' =>
    obtain rfl := Option.some.inj (isArray.symm.trans isArray')
    rw [resolved]
  · next noArray => simp [isArray] at noArray

variable (noArray : elementSpelling? (Text.trim spelling) = none)
include noArray

/-- The keyword of a special type is resolved to that type, in any table. -/
theorem resolve_of_keyword {special : SpecialType}
    (keyword : SpecialType.ofKeyword? (String.ofList (Text.trim spelling)) = some special)
    : scope.resolve spelling table = (.ok special.id, table) := by
  rw [resolve]
  split
  · next isArray => simp [noArray] at isArray
  · rw [keyword]

variable (noKeyword : SpecialType.ofKeyword? (String.ofList (Text.trim spelling)) = none)
include noKeyword

/-- A declared name is resolved to its type. -/
theorem resolve_of_declared {type : TypeId}
    (declared : scope.find? (String.ofList (Text.trim spelling)) = some type)
    : scope.resolve spelling table = (.ok type, table) := by
  rw [resolve]
  split
  · next isArray => simp [noArray] at isArray
  · simp only [noKeyword, declared]

variable (undeclared : scope.find? (String.ofList (Text.trim spelling)) = none)
  (tasks : scope.platformTasks = true)
include undeclared tasks

/-- A generic task is resolved by its result, in the same way as an array by its element. -/
theorem resolve_of_result {result : List Char}
    (isTask : resultSpelling? (Text.trim spelling) = some result) {inner : TypeId}
    {later : TypeTable} (resolved : scope.resolve result table = (.ok inner, later))
    : scope.resolve spelling table = (.ok (later.taskOf inner).1, (later.taskOf inner).2) := by
  rw [resolve]
  split
  · next isArray => simp [noArray] at isArray
  · simp only [noKeyword, undeclared]
    split
    · next other isTask' =>
      obtain rfl := Option.some.inj (isTask.symm.trans isTask')
      rw [if_pos tasks, resolved]
    · next noTask => simp [isTask] at noTask

/-- The name of one of the platform's future types is resolved to the first type of that name. -/
theorem resolve_of_name (noTask : resultSpelling? (Text.trim spelling) = none)
    (reserved
      : String.ofList (Text.trim spelling) = "Task"
        ∨ String.ofList (Text.trim spelling) = "TaskAwaiter")
    {type : TypeId}
    (named : table.typeByName? (String.ofList (Text.trim spelling)) = some type)
    : scope.resolve spelling table = (.ok type, table) := by
  rw [resolve]
  split
  · next isArray => simp [noArray] at isArray
  · simp only [noKeyword, undeclared]
    split
    · next isTask => simp [noTask] at isTask
    · rw [if_pos reserved, if_pos tasks, named]

end

------------------------------------------------------------------------------------------
-- What resolving does

/-- How resolving ends in any table: it leaves the table alone, or it has only asked for arrays and
generic tasks.
-/
inductive Interning (table : TypeTable) : Except BuildError TypeId × TypeTable → Prop where
  | failed (error : BuildError) : Interning table (.error error, table)
  | made (type : TypeId) {operations : List Operation}
      (intern : ∀ operation ∈ operations, operation.Interns)
    : Interning table (.ok type, table.performAll operations)

namespace Interning

variable {table later : TypeTable} {type : TypeId}

/-- What is there already is found without interning anything. -/
theorem found (table : TypeTable) (type : TypeId) : Interning table (.ok type, table) := by
  have none : ∀ operation ∈ ([] : List Operation), operation.Interns := nofun
  exact .made type none

/-- An array or a generic task more may be interned behind those that were interned for what it is
made of.
-/
theorem andMade (interning : Interning table (.ok type, later)) (made : TypeId)
    {operation : Operation} (interns : operation.Interns)
    : Interning table (.ok made, operation.apply later) := by
  cases interning with
  | @made _ operations intern =>
      have all : ∀ other ∈ operations ++ [operation], other.Interns := by
        simpa [or_imp, forall_and] using ⟨intern, interns⟩
      have after : Interning table (.ok made, table.performAll (operations ++ [operation])) :=
        .made made all
      simpa [performAll] using after

end Interning

/-- Arrays and generic tasks are asked for once what they are made of is resolved, so a failure
comes before all of them; by induction on the spelling.
-/
theorem resolve_interning (scope : Scope) (spelling : List Char) (table : TypeTable)
    : Interning table (scope.resolve spelling table) := by
  fun_induction Scope.resolve scope spelling table with
  | case1 spelling _ _ isArray error later resolved ih =>
      rw [resolved] at ih
      cases ih
      exact .failed error
  | case2 spelling _ _ isArray id later resolved array extended made ih =>
      rw [resolved] at ih
      have result := ih.andMade (later.arrayOf id).1 (.inl ⟨id, rfl⟩)
      rwa [Operation.apply, made] at result
  | case5 spelling _ _ noArray noKeyword absent _ isTask tasks error later resolved ih =>
      rw [resolved] at ih
      cases ih
      exact .failed error
  | case6 spelling _ _ noArray noKeyword absent _ isTask tasks id later resolved task extended
      made ih =>
      rw [resolved] at ih
      have result := ih.andMade (later.taskOf id).1 (.inr ⟨id, rfl⟩)
      rwa [Operation.apply, made] at result
  | case3 | case4 | case8 => exact .found _ _
  | case7 | case9 | case10 | case11 => exact .failed _

/-- A table persists when a spelling is resolved in it, since all that happens to it is interning.
-/
theorem resolve_persistsIn {scope : Scope} {spelling : List Char} {table later : TypeTable}
    {type : TypeId} (resolved : scope.resolve spelling table = (.ok type, later))
    : table.PersistsIn later := by
  have interning := scope.resolve_interning spelling table
  rw [resolved] at interning
  cases interning
  exact .performAll table _

/-- What a spelling was resolved to is found again wherever the table persists: its parts are, and
then the array or the generic task that was made of them; by induction on the spelling.
-/
theorem resolve_repeats {scope : Scope} {spelling : List Char} {table last : TypeTable}
    : ∀ {type : TypeId} {later : TypeTable},
        scope.resolve spelling table = (.ok type, later)
        → later.PersistsIn last
        → scope.resolve spelling last = (.ok type, last) := by
  fun_induction Scope.resolve scope spelling table
  case case2 isArray id middle inner array extended made ih =>
    intro type later resolved persists
    cases resolved
    have made' : array = (middle.arrayOf id).1 ∧ extended = (middle.arrayOf id).2 := by
      simp [made]
    obtain ⟨rfl, rfl⟩ := made'
    have before : middle.PersistsIn last := .trans (.apply middle (.arrayOf id)) persists
    rw [resolve_of_element isArray (ih inner before), persists.arrayOf_again]
  case case3 noArray special keyword =>
    intro type later resolved persists
    cases resolved
    exact resolve_of_keyword noArray keyword
  case case4 noArray noKeyword id found =>
    intro type later resolved persists
    cases resolved
    exact resolve_of_declared noArray noKeyword found
  case case6 noArray noKeyword absent result isTask tasks id middle inner task extended made ih =>
    intro type later resolved persists
    cases resolved
    have made' : task = (middle.taskOf id).1 ∧ extended = (middle.taskOf id).2 := by
      simp [made]
    obtain ⟨rfl, rfl⟩ := made'
    have before : middle.PersistsIn last := .trans (.apply middle (.taskOf id)) persists
    rw [resolve_of_result noArray noKeyword absent tasks isTask (ih inner before),
      persists.taskOf_again]
  case case8 noArray noKeyword absent noTask reserved tasks id named =>
    intro type later resolved persists
    cases resolved
    exact resolve_of_name noArray noKeyword absent tasks noTask reserved
      (persists.typeByName? named)
  all_goals
    intro type later resolved
    cases resolved

end Scope

------------------------------------------------------------------------------------------
-- What a build does

section
variable {scope : Scope} {table later : TypeTable}

/-- It persists when the spelling of a declaration is resolved. -/
theorem Manifest.resolved_persistsIn {spelling : String} {type : TypeId}
    (done : resolved scope spelling table = .ok (type, later))
    : table.PersistsIn later := by
  unfold resolved at done
  split at done
  · cases done
  · next id extended resolved =>
    cases done
    exact Scope.resolve_persistsIn resolved

/-- The table persists when parameters are resolved one by one; by induction on them.
What resolving the first one leaves persists while the others are resolved.
-/
theorem Manifest.resolveParameters_persistsIn {declarations : List ParameterDecl}
    {parameters : List (String × TypeId)}
    (done : resolveParameters scope table declarations = .ok (parameters, later))
    : table.PersistsIn later := by
  induction declarations generalizing table parameters with
  | nil =>
      cases done
      exact .refl _
  | cons declaration rest ih =>
      rw [resolveParameters] at done
      split at done
      · cases done
      · next type middle first =>
        split at done
        · cases done
        · next others last remaining =>
          cases done
          exact (resolved_persistsIn first).trans (ih remaining)

/-- It persists when a signature is resolved: the return type first, and then the parameters. -/
theorem Manifest.signature_persistsIn {owner : String} {declaration : MethodDecl}
    {signature : MethodSignature}
    (done : Manifest.signature scope owner declaration table = .ok (signature, later))
    : table.PersistsIn later := by
  unfold Manifest.signature at done
  split at done
  · cases done
  · next returns middle result =>
    split at done
    · cases done
    · split at done
      · cases done
      · next parameters last remaining =>
        cases done
        exact (resolved_persistsIn result).trans (resolveParameters_persistsIn remaining)

/-- Whatever a build does to its table, the table persists.
By cases on what it does: it resolves spellings and performs at most one operation behind that.
-/
theorem BuildStep.persistsIn (step : BuildStep scope table later)
    : table.PersistsIn later := by
  cases step with
  | resolve resolved => exact Scope.resolve_persistsIn resolved
  | @base _ owner base _ found declared =>
      cases base with
      | none =>
          cases declared
          exact .refl table
      | some spelling =>
          rw [Manifest.declareBase] at declared
          split at declared
          · cases declared
          · next type middle done =>
            cases declared
            exact (Manifest.resolved_persistsIn done).trans (.apply middle (.setBase owner type))
  | @member name owner member _ found declared =>
      cases member with
      | method method =>
          rw [Manifest.declareMember] at declared
          split at declared
          · cases declared
          · next signature middle done =>
            cases declared
            exact (Manifest.signature_persistsIn done).trans
              (.apply middle (.defineMethod owner signature))
      | field field =>
          rw [Manifest.declareMember] at declared
          split at declared
          · cases declared
          · next type middle done =>
            cases declared
            exact (Manifest.resolved_persistsIn done).trans
              (.apply middle (.defineField owner field.name type))

/-- However far a build goes on, its table persists; by induction on its steps. -/
theorem Proceeds.persistsIn (proceeds : Proceeds scope table later)
    : table.PersistsIn later := by
  induction proceeds with
  | refl => exact .refl table
  | tail _ step ih => exact ih.trans step.persistsIn

end

------------------------------------------------------------------------------------------
-- Resolving once

/-- Resolving the spelling in the table does all or nothing, and all of it once: a failure leaves
the table as it was, and a success only adds to it, so that from then on the spelling is resolved to
the same type and nothing is added. That is so at every later moment of the build and after any
other operations.
-/
structure Scope.ResolvesOnce (scope : Scope) (spelling : List Char) (table : TypeTable)
    : Prop where
  atomic
    : ∀ {error later}, scope.resolve spelling table = (.error error, later) → later = table
  gains
    : ∀ {type later},
        scope.resolve spelling table = (.ok type, later) → table.OnlyGains later
  repeatsInBuild
    : ∀ {type later last},
        scope.resolve spelling table = (.ok type, later)
        → Proceeds scope later last
        → scope.resolve spelling last = (.ok type, last)
  repeats
    : ∀ {type later} {operations : List Operation},
        scope.resolve spelling table = (.ok type, later)
        → scope.resolve spelling (later.performAll operations)
          = (.ok type, later.performAll operations)

/-- Every spelling is resolved once, in any table and whatever names are declared.
Resolving interns what the spelling is made of and nothing else, and what was interned is found
again wherever the table persists.
-/
theorem Scope.resolvesOnce (scope : Scope) (spelling : List Char) (table : TypeTable)
    : scope.ResolvesOnce spelling table where
  atomic {error later} failed := by
    have interning := scope.resolve_interning spelling table
    rw [failed] at interning
    cases interning
    rfl
  gains {type later} resolved := by
    have interning := scope.resolve_interning spelling table
    rw [resolved] at interning
    cases interning with
    | made _ intern => exact .performAll intern
  repeatsInBuild resolved proceeds := resolve_repeats resolved proceeds.persistsIn
  repeats resolved := resolve_repeats resolved (.performAll _ _)

end EntryPoints
