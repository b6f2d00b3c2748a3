import EntryPoints.Proofs.Manifest.Cycles
import EntryPoints.Proofs.Manifest.SpellingGrammar
import EntryPoints.Proofs.Synthesis.Outcome
import EntryPoints.Synthesis.Report
import Mathlib.Logic.ExistsUnique

/-! How synthesis can end for the compilation of a manifest. A build never puts an error type into a
signature, never alters the platform's future types and never marks `object[]`, so a needed entry
point is either rendered without a complaint or suppressed with exactly one.
-/

namespace EntryPoints

open TypeTable

------------------------------------------------------------------------------------------
-- What spellings cannot mention

/-- No spelling stands for the error type, and one for the platform's future type only if there is
one; by induction on the spelling.
-/
theorem TypeExpression.read_proper {known : KnownNames} {spelling : List Char}
    {expression : TypeExpression} (reading : read known spelling = .ok expression)
    : expression ≠ .error ∧ (expression = .task → known.platformTasks = true) := by
  have spelled := spelled_of_read spelling reading
  clear reading
  induction spelled with
  | special _ | declared _ | taskAwaiter _ _ | array _ _ | taskOf _ _ _ =>
      exact ⟨by simp, by simp⟩
  | task platformTasks _ => exact ⟨by simp, fun _ => platformTasks⟩
  | blanks _ _ _ ih => exact ih

namespace Furnished

variable {scope : Scope} {table : TypeTable}

/-- Whatever is spelled is a type that could be found.
By cases on what denotes it: the error type has no spelling, and the future types are only spelled
where the platform has them.
-/
theorem isError_of_spells (furnished : Furnished scope table) {spelling : String} {type : TypeId}
    (spells : Spells scope table spelling type)
    : (table.symbol type).isError = false := by
  obtain ⟨expression, reading, denotes⟩ := spells
  obtain ⟨notError, task⟩ := TypeExpression.read_proper reading
  cases denotes with
  | error => exact absurd rfl notError
  | special special => rw [furnished.special]; rfl
  | declared found =>
      obtain ⟨_, kind, base, named⟩ := furnished.declared found
      simp [TypeSymbol.isError, named]
  | array _ known => rw [furnished.array known]; rfl
  | task =>
      obtain ⟨_, _, _, _, platform⟩ := furnished.platform (task rfl)
      rw [wellKnownTask, platform.registered, Option.getD_some, platform.holds.futureSymbol]
      rfl
  | taskAwaiter registered =>
      obtain ⟨_, _, _, platform⟩ := furnished.platform_of_registered registered
      rw [platform.holds.awaiterOf, platform.holds.awaiterSymbol]
      rfl
  | taskOf _ known =>
      obtain ⟨_, _, _, _, _, _, holds⟩ := furnished.generic known
      rw [holds.futureSymbol]
      rfl
  | taskAwaiterOf _ known =>
      obtain ⟨_, _, _, _, _, _, holds⟩ := furnished.generic known
      rw [holds.awaiterOf, holds.awaiterSymbol]
      rfl

/-- Arrays of special types can be used, since neither the array nor its element carries a
diagnostic.
-/
theorem useSite?_specialArray (furnished : Furnished scope table) {special : SpecialType}
    {array : TypeId} (known : table.arrayType? special.id = some array)
    : table.useSite? array = none := by
  have interned := furnished.reached.arraysInterned
  have element : table.element? array = some special.id := by
    rw [TypeTable.element?, furnished.array known]
    rfl
  have root : table.element? special.id = none := by
    rw [TypeTable.element?, furnished.special]
    rfl
  rw [interned.useSite?_eq, element, Option.bind_some, interned.useSite?_eq, root,
    furnished.array known, furnished.special]
  rfl

/-- A type that is no array is reported on its use only if it carries a diagnostic itself. -/
theorem useSite?_of_not_array (furnished : Furnished scope table) {type : TypeId}
    (noArray : table.element? type = none)
    : table.useSite? type = (table.symbol type).useSite := by
  rw [furnished.reached.arraysInterned.useSite?_eq, noArray, Option.bind_none, Option.or_none]

end Furnished

/-- A future whose chain ends can be waited for: the future declares `GetAwaiter` and its awaiter
`GetResult`, each as its only member.
Both methods are found in the type itself, so of the chains only the ends are needed, and the
awaiter's ends at once because it has no base.
-/
theorem TypeTable.HoldsFuture.awaits {table : TypeTable} {shape : FutureShape}
    {future awaiter : TypeId} {getAwaiter getResult : MethodId}
    (holds : table.HoldsFuture shape future awaiter getAwaiter getResult)
    (ends : table.ChainEnds future)
    : table.Awaits future ⟨getAwaiter, getResult, awaiter, shape.result⟩ := by
  have declaresOnly {type : TypeId} {id : MethodId} {symbol : TypeSymbol} {name : String}
      {result containing : TypeId}
      (made : table.symbol type = symbol.addMember (.method id)) (bare : symbol.members = [])
      (method : table.method id = (MethodSignature.ordinary name result).declaredOn containing)
      : table.Usable type name id := by
    have only : table.lookup type name = [.method id] := by
      simp [TypeTable.lookup, made, TypeSymbol.addMember, bare, memberName, method,
        MethodSignature.declaredOn, MethodSignature.ordinary]
    refine ⟨⟨type, .stopped ?_, only⟩, ?_⟩
    · simp [TypeTable.declares, only]
    · rw [method]
      rfl
  have awaiterEnds : table.ChainEnds awaiter := by
    refine .root ?_
    rw [TypeTable.base?, holds.awaiterSymbol]
    rfl
  have first := declaresOnly holds.futureSymbol rfl holds.getAwaiterMethod
  have second := declaresOnly holds.awaiterSymbol rfl holds.getResultMethod
  exact {
    notError := by rw [holds.futureSymbol]; rfl
    getAwaiter := ends.requiredMethod?_eq_some_iff.mpr first
    awaiterType := by rw [holds.getAwaiterMethod]; rfl
    getResult := awaiterEnds.requiredMethod?_eq_some_iff.mpr second
    resultType := by rw [holds.getResultMethod]; rfl
  }

namespace Furnished

variable {scope : Scope} {table : TypeTable}

/-- With platform futures the plain one can be used and waited for, since it was made as one of a
pair and has no diagnostic.
-/
theorem wellKnownTask_present (furnished : Furnished scope table)
    (platformTasks : scope.platformTasks = true)
    : table.useSite? table.wellKnownTask = none
      ∧ ∃ protocol, table.Awaits table.wellKnownTask protocol := by
  obtain ⟨task, _, _, _, platform⟩ := furnished.platform platformTasks
  have known : table.wellKnownTask = task := by
    rw [wellKnownTask, platform.registered]
    rfl
  have noArray : table.element? task = none := by
    rw [TypeTable.element?, platform.holds.futureSymbol]
    rfl
  rw [known]
  refine ⟨?_, _, platform.holds.awaits (.root (furnished.base?_plainTask platform.registered))⟩
  rw [furnished.useSite?_of_not_array noArray, platform.holds.futureSymbol]
  rfl

/-- Without platform futures an error type stands in for the plain one, and using it is reported as
a predefined type that is not found.
-/
theorem wellKnownTask_missing (furnished : Furnished scope table)
    (platformTasks : scope.platformTasks = false)
    : (table.symbol table.wellKnownTask).isError
      ∧ table.useSite? table.wellKnownTask
        = some { code := .predefinedTypeNotFound, arguments := [taskMetadataName] } := by
  have known : table.wellKnownTask = missingTask := by
    rw [wellKnownTask, furnished.absent platformTasks]
    rfl
  have noArray : table.element? missingTask = none := by
    rw [TypeTable.element?, furnished.missing]
    rfl
  rw [known]
  refine ⟨by rw [furnished.missing]; rfl, ?_⟩
  rw [furnished.useSite?_of_not_array noArray, furnished.missing]
  rfl

end Furnished

------------------------------------------------------------------------------------------
-- Endings

/-- The ways in which the synthesis of a compilation can end. -/
inductive Ending where
  | failed
  | notNeeded
  | rendered
  /-- An entry point is needed, and a problem of the program does not allow it. -/
  | suppressed
  deriving DecidableEq, Repr

/-- A code that can suppress the entry point of a manifest. That of a submission never is. -/
def Manifest.SuppressedBy (manifest : Manifest) (code : DiagnosticCode) : Prop :=
  match manifest.compilation with
  | .regular _ => code = .missingPredefinedMember
  | .script _ => manifest.platformTasks = false ∧ code = .predefinedTypeNotFound
  | .submission _ => False

/-- What the result of synthesis looks like for each ending. -/
def Ending.Describes (manifest : Manifest) (result : Except EntryPointError SynthesisReport)
    : Ending → Prop
  | failed => ∃ error, result = .error error
  | notNeeded => result = .ok { needed := false, rendered := none, diagnostics := [] }
  | rendered =>
      ∃ text, result = .ok { needed := true, rendered := some text, diagnostics := [] }
  | suppressed =>
      ∃ diagnostic,
        result = .ok { needed := true, rendered := none, diagnostics := [diagnostic] }
        ∧ diagnostic.severity = .error
        ∧ diagnostic.location = .nowhere
        ∧ manifest.SuppressedBy diagnostic.code

/-- The ending that a result can have, if it has one. -/
def Ending.of : Except EntryPointError SynthesisReport → Ending
  | .error _ => failed
  | .ok report =>
      if report.needed then
        if report.rendered.isSome then rendered else suppressed
      else
        notNeeded

/-- An ending that describes a result is the one of that result, so a result has one ending at most.
By cases on the ending, each of which says what the result is.
-/
theorem Ending.Describes.eq_of {manifest : Manifest}
    {result : Except EntryPointError SynthesisReport} {ending : Ending}
    (h : ending.Describes manifest result)
    : ending = .of result := by
  cases ending with
  | failed =>
      obtain ⟨_, rfl⟩ := h
      rfl
  | notNeeded =>
      obtain rfl := h
      rfl
  | rendered =>
      obtain ⟨_, rfl⟩ := h
      rfl
  | suppressed =>
      obtain ⟨_, rfl, _⟩ := h
      rfl

/-- The report of a result that synthesis ends in: whether an entry point is needed, what is
rendered if there is an output, and the diagnostics of the bag.
-/
theorem LoadedCompilation.synthesize_eq {loaded : LoadedCompilation} {config : SynthesisConfig}
    {result : Except EntryPointError (Option EntryPointOutput)} {bag : DiagnosticBag}
    (ended
      : loaded.table.synthesize loaded.kind loaded.candidate config .empty = (result, bag))
    : loaded.synthesize config
      = result.map
          (fun output =>
            {
              needed := (loaded.table.selectStrategy loaded.kind loaded.candidate).isSome,
              rendered := output.map (fun output => output.render loaded.table),
              diagnostics := bag.toList
            }) := by
  cases result <;> simp [LoadedCompilation.synthesize, ended, Except.map]

/-- A script always needs an entry point, which starts from the script's class. -/
theorem LoadedCompilation.selectStrategy_of_script {loaded : LoadedCompilation} {type : TypeId}
    (kind : loaded.kind = .script type)
    : loaded.table.selectStrategy loaded.kind loaded.candidate
      = some (.scriptInitializer type) := by
  rw [kind]
  rfl

/-- A viable entry point is rendered without a complaint, or its body ends in an error; by cases on
the body.
-/
theorem Ending.exists_of_body {manifest : Manifest} {loaded : LoadedCompilation}
    {config : SynthesisConfig} {entryPoint : EntryPoint}
    {body : Except EntryPointError (Synthesized Block)}
    (needed : (loaded.table.selectStrategy loaded.kind loaded.candidate).isSome)
    (ended
      : loaded.table.synthesize loaded.kind loaded.candidate config .empty
        = (body.map (fun body => some { entryPoint, body }), .empty))
    : ∃ ending : Ending, ending.Describes manifest (loaded.synthesize config) := by
  rw [LoadedCompilation.synthesize_eq ended, needed]
  cases body with
  | error error => exact ⟨.failed, error, rfl⟩
  | ok body => exact ⟨.rendered, _, rfl⟩

section
variable {manifest : Manifest} {scope : Scope} {loaded : LoadedCompilation}
  (config : SynthesisConfig)

/-- Without platform futures the main of an admitted script is suppressed, since the missing future
is reported on its use.
-/
theorem Furnished.synthesize_of_missingTask (furnished : Furnished scope loaded.table)
    {type : TypeId} (kind : loaded.kind = .script type)
    (platformTasks : scope.platformTasks = false) {initializer : MethodId}
    (admits : ScriptMain.Admits loaded.table type initializer)
    : loaded.synthesize config
      = .ok
          {
            needed := true,
            rendered := none,
            diagnostics :=
              [{ code := .predefinedTypeNotFound, location := .nowhere,
                  arguments := [taskMetadataName] }]
          } := by
  have selected := LoadedCompilation.selectStrategy_of_script kind
  obtain ⟨error, reported⟩ := furnished.wellKnownTask_missing platformTasks
  have created := EntryPoint.create_of_script config (ScriptMain.create_of_admits admits .empty)
  rw [ScriptMain.reported, reportUseSite, reported, resolveAwait_of_isError error] at created
  rw [LoadedCompilation.synthesize_eq (synthesize_of_not_viable selected created rfl), selected]
  rfl

/-- A program with an async main ends in one of the ways, by cases on whether it can be forwarded to
and returns what can be waited for.
-/
theorem Ending.exists_of_async {path : Option String} {main : MethodId}
    (compilation : manifest.compilation = .regular path) (kind : loaded.kind = .regular)
    (candidate : loaded.candidate = some main)
    (returns : (loaded.table.symbol (loaded.table.method main).returnType).isError = false)
    (async : loaded.table.isAsyncCandidate main)
    : ∃ ending : Ending, ending.Describes manifest (loaded.synthesize config) := by
  have selected
      : loaded.table.selectStrategy loaded.kind loaded.candidate = some (.forwarder main) := by
    simp [selectStrategy, kind, candidate, async]
  cases checked : Forwarder.check loaded.table main with
  | error inconsistency =>
      have created :=
        EntryPoint.create_of_forwarder config (Forwarder.create_of_inconsistent checked .empty)
      rw [LoadedCompilation.synthesize_eq (synthesize_of_create_error selected created)]
      exact ⟨.failed, _, rfl⟩
  | ok _ =>
      by_cases awaited
        : ∃ protocol, loaded.table.Awaits (loaded.table.method main).returnType protocol
      · obtain ⟨protocol, awaits⟩ := awaited
        have created :=
          EntryPoint.create_of_forwarder config (Forwarder.create_of_awaits checked awaits .empty)
        exact Ending.exists_of_body (by rw [selected]; rfl)
          (synthesize_of_viable selected created rfl)
      · obtain ⟨lacking, member, unresolved⟩ :=
          resolveAwait_of_lacking returns (not_exists.mp awaited) .empty
        obtain ⟨forwarder, created, notViable⟩ :=
          Forwarder.create_of_unresolved checked unresolved
        have created' := EntryPoint.create_of_forwarder config created
        rw [LoadedCompilation.synthesize_eq
          (synthesize_of_not_viable selected created' notViable), selected]
        refine ⟨.suppressed, _, rfl, rfl, rfl, ?_⟩
        rw [Manifest.SuppressedBy, compilation]
        rfl

variable (contents : manifest.Contents scope loaded.table)
include contents

/-- A script ends in one of the ways, by cases on whether its class is admitted and there are
platform futures.
-/
theorem Ending.exists_of_script {className : String} {type : TypeId}
    (compilation : manifest.compilation = .script className) (kind : loaded.kind = .script type)
    : ∃ ending : Ending, ending.Describes manifest (loaded.synthesize config) := by
  have furnished := contents.furnished
  have selected := LoadedCompilation.selectStrategy_of_script kind
  by_cases admitted : ∃ initializer, ScriptMain.Admits loaded.table type initializer
  · obtain ⟨initializer, admits⟩ := admitted
    have created :=
      EntryPoint.create_of_script config (ScriptMain.create_of_admits admits .empty)
    cases platformTasks : scope.platformTasks with
    | true =>
        obtain ⟨usable, protocol, awaits⟩ := furnished.wellKnownTask_present platformTasks
        rw [ScriptMain.reported, reportUseSite, usable, awaits.resolveAwait] at created
        exact Ending.exists_of_body (by rw [selected]; rfl)
          (synthesize_of_viable selected created rfl)
    | false =>
        rw [furnished.synthesize_of_missingTask config kind platformTasks admits]
        refine ⟨.suppressed, _, rfl, rfl, rfl, ?_⟩
        rw [Manifest.SuppressedBy, compilation]
        exact ⟨contents.platformTasks.symm.trans platformTasks, rfl⟩
  · obtain ⟨error, created⟩ :=
      ScriptMain.create_of_not_admits (not_exists.mp admitted) .empty
    have created' := EntryPoint.create_of_script config created
    rw [LoadedCompilation.synthesize_eq (synthesize_of_create_error selected created')]
    exact ⟨.failed, _, rfl⟩

/-- A submission ends in one of the ways, and never suppressed, since arrays of objects can be
used.
-/
theorem Ending.exists_of_submission {type : TypeId} (kind : loaded.kind = .submission type)
    : ∃ ending : Ending, ending.Describes manifest (loaded.synthesize config) := by
  have selected
      : loaded.table.selectStrategy loaded.kind loaded.candidate
        = some (.submissionFactory type) := by
    simp [selectStrategy, kind]
  by_cases admitted
    : ∃ initializer array, SubmissionFactory.Admits loaded.table type initializer array
  · obtain ⟨initializer, array, admits⟩ := admitted
    have usable := contents.furnished.useSite?_specialArray admits.arrayType
    have created :=
      EntryPoint.create_of_submission config
        (SubmissionFactory.create_of_admits admits config .empty)
    rw [reportUseSite, usable] at created
    exact Ending.exists_of_body (by rw [selected]; rfl)
      (synthesize_of_viable selected created rfl)
  · obtain ⟨error, created⟩ :=
      SubmissionFactory.create_of_not_admits
        (fun initializer array admits => admitted ⟨initializer, array, admits⟩) config .empty
    have created' := EntryPoint.create_of_submission config created
    rw [LoadedCompilation.synthesize_eq (synthesize_of_create_error selected created')]
    exact ⟨.failed, _, rfl⟩

end

/-- Every manifest that builds ends in exactly one of the ways, whatever the configuration; by cases
on the compilation that it describes.
-/
theorem Manifest.synthesize_ending {manifest : Manifest} {loaded : LoadedCompilation}
    (built : manifest.build = .ok loaded) (config : SynthesisConfig)
    : ∃! ending : Ending, ending.Describes manifest (loaded.synthesize config) := by
  obtain ⟨scope, completes, _, found⟩ := build_eq_ok_iff.mp built
  have contents := completes.contents
  suffices exists_ending
      : ∃ ending : Ending, ending.Describes manifest (loaded.synthesize config) by
    obtain ⟨ending, describes⟩ := exists_ending
    exact ⟨ending, describes, fun other describes' => describes'.eq_of.trans describes.eq_of.symm⟩
  rw [findCompilation_eq_ok_iff] at found
  split at found
  · next compilation =>
    obtain ⟨kind, candidate⟩ := found
    have notNeeded : loaded.table.selectStrategy loaded.kind loaded.candidate = none := by
      simp [selectStrategy, kind, candidate]
    rw [LoadedCompilation.synthesize_eq (synthesize_of_not_selected notNeeded), notNeeded]
    exact ⟨.notNeeded, rfl⟩
  · next path compilation =>
    obtain ⟨kind, main, candidate, isMain⟩ := found
    obtain ⟨owner, method, described⟩ := contents.main_described isMain
    have returns := contents.furnished.isError_of_spells described.returnType
    cases async : loaded.table.isAsyncCandidate main with
    | true => exact Ending.exists_of_async config compilation kind candidate returns async
    | false =>
        have notNeeded : loaded.table.selectStrategy loaded.kind loaded.candidate = none := by
          simp [selectStrategy, kind, candidate, async, Option.filter]
        rw [LoadedCompilation.synthesize_eq (synthesize_of_not_selected notNeeded), notNeeded]
        exact ⟨.notNeeded, rfl⟩
  · next className compilation =>
    obtain ⟨_, type, kind, _⟩ := found
    exact Ending.exists_of_script config contents compilation kind
  · next className compilation =>
    obtain ⟨_, type, kind, _⟩ := found
    exact Ending.exists_of_submission config contents kind

/-- A script that could be run if there were platform futures. -/
def scriptWithoutTasks : Manifest where
  types :=
    [
      {
        name := "Script",
        kind := .scriptClass,
        members :=
          [
            .method { kind := .constructor },
            .method { kind := .initializer, returns := some "object" }
          ]
      }
    ]
  compilation := .script "Script"

/-- Its entry point is suppressed, with the diagnostic for the missing future.
Witness: a script class with a constructor and an initializer, in a manifest without platform tasks.
-/
theorem scriptWithoutTasks_suppressed
    : ∃ loaded,
        scriptWithoutTasks.build = .ok loaded
        ∧ Ending.suppressed.Describes scriptWithoutTasks (loaded.synthesize {}) := by
  have ended
      : scriptWithoutTasks.build.map (fun loaded => Ending.of (loaded.synthesize {}))
        = .ok .suppressed := by
    decide +kernel
  cases built : scriptWithoutTasks.build with
  | error error =>
      rw [built] at ended
      cases ended
  | ok loaded =>
      obtain ⟨ending, describes, _⟩ := Manifest.synthesize_ending built {}
      rw [built] at ended
      have suppressed := describes.eq_of.trans (Except.ok.inj ended)
      exact ⟨loaded, rfl, suppressed ▸ describes⟩

end EntryPoints
