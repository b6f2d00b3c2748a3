import EntryPoints.Proofs.Manifest.Derivation
import EntryPoints.Proofs.Manifest.Moments
import EntryPoints.Proofs.Manifest.SpellingGrammar

/-! The faults of manifests, told without a table, and the order in which a build comes to them. A
build fails with the first of them, and succeeds if there is none.
-/

namespace EntryPoints

open TypeTable

------------------------------------------------------------------------------------------
-- What declarations demand

/-- Something that a declaration needs: a type for a spelling, or a name for a method. -/
inductive Demand where
  | type (spelling : String)
  | name (owner : String) (given? : Option String)
  deriving DecidableEq, Repr

/-- Why a demand cannot be met, if it cannot. -/
def Demand.fault? (known : KnownNames) : Demand → Option BuildError
  | .type spelling => spellingProblem? known spelling
  | .name owner none => some (.unnamedMethod owner)
  | .name _ (some _) => none

/-- A method demands its result first, then its name, then its parameters. -/
def MethodDecl.demands (owner : String) (declaration : MethodDecl) : List Demand :=
  .type declaration.result
    :: .name owner declaration.memberName?
    :: declaration.parameters.map (fun parameter => .type parameter.type)

/-- A member demands what a method does, or the type of a field. -/
def MemberDecl.demands (owner : String) : MemberDecl → List Demand
  | .method declaration => declaration.demands owner
  | .field declaration => [.type declaration.type]

/-- A type demands its base first, then what its members do. -/
def TypeDecl.demands (declaration : TypeDecl) : List Demand :=
  (declaration.base.map Demand.type).toList
    ++ declaration.members.flatMap (MemberDecl.demands declaration.name)

/-- All that a manifest demands, in order. -/
def Manifest.demands (manifest : Manifest) : List Demand :=
  manifest.types.flatMap TypeDecl.demands

section
variable (known : KnownNames)

/-- The problem of a method's declaration is the first fault among its demands: what it returns,
then its name, then its parameters in order.
By cases on which of the first two is at fault; the parameters are checked one after another either
way.
-/
theorem MethodDecl.problem?_eq (owner : String) (declaration : MethodDecl)
    : declaration.problem? known owner
      = (declaration.demands owner).findSome? (Demand.fault? known) := by
  have parameters
      : declaration.parameters.findSome?
            (fun parameter => spellingProblem? known parameter.type)
          = (declaration.parameters.map (fun parameter => Demand.type parameter.type)).findSome?
              (Demand.fault? known) := by
    rw [List.findSome?_map]
    rfl
  rw [problem?, demands, parameters, List.findSome?_cons, List.findSome?_cons]
  cases declaration.memberName? <;>
    cases spelled : spellingProblem? known declaration.result <;>
      simp [Demand.fault?, spelled]

/-- The problem of a member's declaration is the first fault among its demands.
By cases on the member: a method has several demands, a field only the one for its type.
-/
theorem MemberDecl.problem?_eq (owner : String) (declaration : MemberDecl)
    : declaration.problem? known owner
      = (declaration.demands owner).findSome? (Demand.fault? known) := by
  cases declaration with
  | method declaration => exact declaration.problem?_eq known owner
  | field declaration =>
      rw [demands, List.findSome?_singleton]
      rfl

/-- The problem of a type's declaration is the first fault among its demands, of which the base
comes first and the members follow in order.
-/
theorem TypeDecl.problem?_eq (declaration : TypeDecl)
    : declaration.problem? known = declaration.demands.findSome? (Demand.fault? known) := by
  have members
      : declaration.members.findSome? (MemberDecl.problem? known declaration.name)
        = (declaration.members.flatMap (MemberDecl.demands declaration.name)).findSome?
            (Demand.fault? known) := by
    rw [findSome?_flatMap, ← funext (MemberDecl.problem?_eq known declaration.name)]
  rw [problem?, demands, members, List.findSome?_append]
  cases declaration.base <;> simp [Demand.fault?]

/-- The first problem of the declarations is the first fault among all demands of the manifest,
since the demands are those of the types in order.
-/
theorem Manifest.findSome?_problem?_eq (manifest : Manifest)
    : manifest.types.findSome? (TypeDecl.problem? known)
      = manifest.demands.findSome? (Demand.fault? known) := by
  rw [demands, findSome?_flatMap, ← funext (TypeDecl.problem?_eq known)]

end

/-- A spelling is refused for the sake of a part of it: either the part is an unknown type, or it
mentions futures where there are none.
By induction on how the spelling is read. An array and a generic task are refused for the sake of a
part of what is inside them, which is a part of the whole.
-/
theorem TypeExpression.exists_part_of_read_eq_error {known : KnownNames} {spelling : List Char}
    {error : BuildError} (refused : read known spelling = .error error)
    : ∃ part : String,
        part.toList <:+: spelling
        ∧ (error = .unknownType part
          ∨ known.platformTasks = false ∧ error = .tasksDisabled part) := by
  have named (text : List Char) : (String.ofList (Text.trim text)).toList <:+: text := by
    rw [String.toList_ofList]
    exact Text.trim_infix text
  fun_induction read known spelling with
  | case1 spelling trimmed element isArray ih =>
      obtain ⟨part, inside, reason⟩ := ih (eq_error_of_map_eq_error refused)
      have whole := elementSpelling?_eq_some_iff.mp isArray
      have inside' : element <:+: trimmed := ⟨[], "[]".toList, whole.symm⟩
      exact ⟨part, inside.trans (inside'.trans (Text.trim_infix spelling)), reason⟩
  | case4 spelling trimmed _ _ _ _ result isTask _ ih =>
      obtain ⟨part, inside, reason⟩ := ih (eq_error_of_map_eq_error refused)
      have whole := resultSpelling?_eq_some_iff.mp isTask
      have inside' : result <:+: trimmed := ⟨"Task<".toList, ">".toList, whole.symm⟩
      exact ⟨part, inside.trans (inside'.trans (Text.trim_infix spelling)), reason⟩
  | case5 spelling trimmed name _ _ _ _ _ noTasks =>
      obtain rfl := Except.error.inj refused
      exact ⟨name, named spelling, .inr ⟨Bool.not_eq_true _ ▸ noTasks, rfl⟩⟩
  | case7 spelling trimmed name _ _ _ _ _ noTasks =>
      obtain rfl := Except.error.inj refused
      exact ⟨name, named spelling, .inr ⟨Bool.not_eq_true _ ▸ noTasks, rfl⟩⟩
  | case8 spelling trimmed name _ _ _ _ _ =>
      obtain rfl := Except.error.inj refused
      exact ⟨name, named spelling, .inl rfl⟩
  | case2 | case3 | case6 => cases refused

/-- A spelling has a problem exactly if it cannot be read, and the problem is what reading it ends
with.
-/
theorem spellingProblem?_eq_some_iff {known : KnownNames} {spelling : String} {error : BuildError}
    : spellingProblem? known spelling = some error
      ↔ TypeExpression.read known spelling.toList = .error error := by
  unfold spellingProblem?
  cases TypeExpression.read known spelling.toList <;> simp

------------------------------------------------------------------------------------------
-- The first fault

namespace Manifest

/-- The manifest passes everything that a build checks. -/
structure Faultless (manifest : Manifest) : Prop where
  distinct : manifest.names.Nodup
  met : ∀ demand ∈ manifest.demands, demand.fault? manifest.known = none
  ends : ∀ declaration ∈ manifest.types, ¬ manifest.DerivesEndlessly declaration
  compiles : ∀ error, ¬ manifest.CompilationFault error

/-- The error reports the first fault of the manifest. Names come before demands, these before
endless types, and those before the compilation.
-/
inductive FirstFault (manifest : Manifest) : BuildError → Prop where
  | repeated {name : String} (first : FirstRepeated manifest.names name)
    : FirstFault manifest (.duplicateType name)
  | demand {before after : List Demand} {demand : Demand} {error : BuildError}
      (distinct : manifest.names.Nodup) (demands : manifest.demands = before ++ demand :: after)
      (fault : demand.fault? manifest.known = some error)
      (met : ∀ earlier ∈ before, earlier.fault? manifest.known = none)
    : FirstFault manifest error
  | endless {before after : List TypeDecl} {declaration : TypeDecl}
      (distinct : manifest.names.Nodup)
      (met : ∀ demand ∈ manifest.demands, demand.fault? manifest.known = none)
      (types : manifest.types = before ++ declaration :: after)
      (endless : manifest.DerivesEndlessly declaration)
      (ends : ∀ earlier ∈ before, ¬ manifest.DerivesEndlessly earlier)
    : FirstFault manifest (.cyclicBase declaration.name)
  | compilation {error : BuildError} (distinct : manifest.names.Nodup)
      (met : ∀ demand ∈ manifest.demands, demand.fault? manifest.known = none)
      (ends : ∀ declaration ∈ manifest.types, ¬ manifest.DerivesEndlessly declaration)
      (fault : manifest.CompilationFault error)
    : FirstFault manifest error

/-- A manifest passes the first phases of a build exactly if its names differ and all its demands
are met.
-/
theorem exists_completes_iff_met (manifest : Manifest)
    : (∃ scope table, manifest.Completes scope table)
      ↔ manifest.names.Nodup
        ∧ ∀ demand ∈ manifest.demands, demand.fault? manifest.known = none := by
  rw [exists_completes_iff, ← List.findSome?_eq_none_iff, ← List.findSome?_eq_none_iff,
    findSome?_problem?_eq]

section
variable {manifest : Manifest} {scope : Scope} {table : TypeTable}
  (contents : manifest.Contents scope table)
include contents

/-- The check for cycles passes exactly the manifests without endless types, type by type, since a
type is cyclic in the table exactly if it derives endlessly in the manifest.
-/
theorem Contents.firstCyclic?_eq_none_iff_ends
    : firstCyclic? scope table manifest.types = none
      ↔ ∀ declaration ∈ manifest.types, ¬ manifest.DerivesEndlessly declaration := by
  rw [contents.firstCyclic?_eq_none_iff]
  refine forall₂_congr (fun declaration listed => ?_)
  rw [contents.endless_iff listed]

/-- The check for cycles finds the first endless type: one that derives endlessly, with none in
front of it that does.
The manifest's order is the one in which the types are checked, so only the conditions on the single
types have to be translated.
-/
theorem Contents.firstEndless_iff {name : String}
    : FirstEndless scope table manifest.types name
      ↔ ∃ before declaration after,
          manifest.types = before ++ declaration :: after
          ∧ declaration.name = name
          ∧ manifest.DerivesEndlessly declaration
          ∧ ∀ earlier ∈ before, ¬ manifest.DerivesEndlessly earlier := by
  refine exists₃_congr (fun before declaration after => ?_)
  refine and_congr_right (fun types => and_congr_right (fun _ => ?_))
  refine and_congr (contents.endless_iff (by simp [types])) ?_
  refine forall₂_congr (fun earlier listed => ?_)
  rw [contents.endless_iff (by simp [types, listed])]

end

/-- Whatever ends a build is its first fault, namely that of the phase that the build has come to.
By cases on how far it comes. If all types are completed, then either the check for cycles fails or
the compilation is not found; otherwise a name is repeated or a demand is not met.
-/
theorem firstFault_of_build {manifest : Manifest} {error : BuildError}
    (failed : manifest.build = .error error)
    : manifest.FirstFault error := by
  rcases manifest.completes_or_stops with
    ⟨scope, table, completes, contents, fine⟩ | ⟨name, stops, repeated⟩
      | ⟨other, stops, distinct, problem⟩
  · rw [findSome?_problem?_eq, List.findSome?_eq_none_iff] at fine
    rw [completes.build_eq] at failed
    cases cyclic : firstCyclic? scope table manifest.types with
    | some declaration =>
        simp only [cyclic, Except.error.injEq] at failed
        have first := contents.firstCyclic?_eq_some_iff.mp ⟨declaration, cyclic, rfl⟩
        obtain ⟨before, found, after, types, named, endless, ends⟩ :=
          contents.firstEndless_iff.mp first
        rw [← failed, ← named]
        exact .endless contents.distinct fine types endless ends
    | none =>
        simp only [cyclic] at failed
        have ends := contents.firstCyclic?_eq_none_iff_ends.mp cyclic
        have fault := contents.fault_of_findCompilation (eq_error_of_map_eq_error failed)
        exact .compilation contents.distinct fine ends fault
  · obtain rfl := Except.error.inj (stops.build_eq.symm.trans failed)
    exact .repeated repeated
  · obtain rfl := Except.error.inj (stops.build_eq.symm.trans failed)
    rw [findSome?_problem?_eq, List.findSome?_eq_some_iff] at problem
    obtain ⟨before, demand, after, demands, fault, met⟩ := problem
    exact .demand distinct demands fault met

/-- The first fault ends the build. By cases on the fault, each of which excludes that an earlier
phase has failed and lets the phase that looks for it fail.
-/
theorem FirstFault.build_eq {manifest : Manifest} {error : BuildError}
    (first : manifest.FirstFault error)
    : manifest.build = .error error := by
  cases first with
  | repeated repeated =>
      rcases manifest.completes_or_stops with
        ⟨_, _, _, contents, _⟩ | ⟨other, stops, repeated'⟩ | ⟨_, _, distinct, _⟩
      · exact absurd contents.distinct repeated.not_nodup
      · rw [repeated.unique repeated']
        exact stops.build_eq
      · exact absurd distinct repeated.not_nodup
  | demand distinct demands fault met =>
      have problem : manifest.demands.findSome? (Demand.fault? manifest.known) = some error :=
        List.findSome?_eq_some_iff.mpr ⟨_, _, _, demands, fault, met⟩
      rw [← findSome?_problem?_eq] at problem
      rcases manifest.completes_or_stops with
        ⟨_, _, _, _, fine⟩ | ⟨_, _, repeated⟩ | ⟨other, stops, _, problem'⟩
      · cases fine.symm.trans problem
      · exact absurd distinct repeated.not_nodup
      · obtain rfl := Option.some.inj (problem.symm.trans problem')
        exact stops.build_eq
  | @endless before after declaration distinct met types endless ends =>
      obtain ⟨scope, table, completes⟩ := manifest.exists_completes_iff_met.mpr ⟨distinct, met⟩
      have contents := completes.contents
      have first := contents.firstEndless_iff.mpr
        ⟨before, declaration, after, types, rfl, endless, ends⟩
      obtain ⟨found, cyclic, named⟩ := contents.firstCyclic?_eq_some_iff.mpr first
      rw [completes.build_eq, cyclic, ← named]
  | compilation distinct met ends fault =>
      obtain ⟨scope, table, completes⟩ := manifest.exists_completes_iff_met.mpr ⟨distinct, met⟩
      have contents := completes.contents
      rw [completes.build_eq, contents.firstCyclic?_eq_none_iff_ends.mpr ends]
      simp only [contents.findCompilation_of_fault fault, Except.map]

/-- Exactly the manifests without a fault are built.
A build that succeeds has passed every phase, and one that fails has a first fault, which the
manifest does not have.
-/
theorem exists_build_iff_faultless (manifest : Manifest)
    : (∃ loaded, manifest.build = .ok loaded) ↔ manifest.Faultless := by
  constructor
  · rintro ⟨loaded, built⟩
    obtain ⟨scope, completes, acyclic, compiled⟩ := build_eq_ok_iff.mp built
    have contents := completes.contents
    obtain ⟨distinct, met⟩ := manifest.exists_completes_iff_met.mp ⟨scope, loaded.table, completes⟩
    refine ⟨distinct, met, contents.firstCyclic?_eq_none_iff_ends.mp acyclic, ?_⟩
    intro error fault
    cases (contents.findCompilation_of_fault fault).symm.trans compiled
  · rintro ⟨distinct, met, ends, compiles⟩
    cases built : manifest.build with
    | ok loaded => exact ⟨loaded, rfl⟩
    | error error =>
        cases firstFault_of_build built with
        | repeated repeated => exact absurd distinct repeated.not_nodup
        | demand _ demands fault _ =>
            rw [met _ (by simp [demands])] at fault
            cases fault
        | endless _ _ types endless _ => exact absurd endless (ends _ (by simp [types]))
        | compilation _ _ _ fault => exact absurd fault (compiles error)

/-- A build rejects exactly the manifests with a fault and reports the first. -/
structure ReportsFirstFault (manifest : Manifest) : Prop where
  accepted : (∃ loaded, manifest.build = .ok loaded) ↔ manifest.Faultless
  rejected : ∀ error, manifest.build = .error error ↔ manifest.FirstFault error
  /-- The fault of a spelling is what resolving it ends with, at every moment of the build. -/
  refused
    : ∀ {scope table spelling error},
        manifest.Moment scope table
        → ((scope.resolve spelling.toList table).1 = .error error
          ↔ (Demand.type spelling).fault? manifest.known = some error)
  /-- It is for the sake of a part of the spelling. -/
  part
    : ∀ {spelling error},
        (Demand.type spelling).fault? manifest.known = some error
        → ∃ part : String,
            part.toList <:+: spelling.toList
            ∧ (error = .unknownType part
              ∨ manifest.platformTasks = false ∧ error = .tasksDisabled part)
  /-- What derives endlessly has a base chain without an end once all types are completed. -/
  endless
    : ∀ {scope table declaration},
        manifest.Completes scope table
        → declaration ∈ manifest.types
        → (manifest.DerivesEndlessly declaration
          ↔ ¬ table.ChainEnds (scope.typeOf declaration))

/-- Every build reports the first fault: a repeated name, a demand that cannot be met, an endless
type or a compilation that is not there, in that order.
The faults of spellings are those of resolving them, whatever the moment of the build, because what
a spelling stands for depends on the declared names only.
-/
theorem build_reports_first (manifest : Manifest) : manifest.ReportsFirstFault where
  accepted := manifest.exists_build_iff_faultless
  rejected error := ⟨firstFault_of_build, FirstFault.build_eq⟩
  refused := by
    intro scope table spelling error moment
    have resolution := resolve_resolution moment.furnished spelling.toList
    rw [moment.known] at resolution
    rw [Demand.fault?, spellingProblem?_eq_some_iff]
    generalize TypeExpression.read manifest.known spelling.toList = reading at resolution ⊢
    generalize scope.resolve spelling.toList table = result at resolution ⊢
    cases resolution with
    | failed other => simp only [Except.error.injEq]
    | found _ _ _ _ => exact ⟨nofun, nofun⟩
  part fault :=
    TypeExpression.exists_part_of_read_eq_error (spellingProblem?_eq_some_iff.mp fault)
  endless completes listed := (completes.contents.endless_iff listed).symm

/-- A manifest with a fault of each kind but the first: a nameless method in front of a type that is
not declared, a cycle and a main that is none.
-/
def manifestOfFaults : Manifest where
  types :=
    [
      { name := "Left", base := some "Right", members := [.method { returns := some "int[]" }] },
      { name := "Right", base := some "Left", members := [.field { name := "", type := "Up" }] }
    ]
  compilation := .regular (some "Left.Main")

example : manifestOfFaults.build = .error (.unnamedMethod "Left") := by
  decide +kernel

end Manifest

end EntryPoints
