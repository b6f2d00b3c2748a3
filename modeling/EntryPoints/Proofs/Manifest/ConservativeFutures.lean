import EntryPoints.Proofs.Manifest.Endings
import EntryPoints.Proofs.Manifest.FuturelessMatching

/-! The platform's futures are a conservative extension. A manifest that builds without them builds
with them, and is reported alike, since nothing in it derives from the future type. Only the main of
a script notices them: its initializer cannot return a future.
-/

namespace EntryPoints

open TypeTable

------------------------------------------------------------------------------------------
-- Scripts as they are declared

/-- The methods of one kind that a type declares. -/
def TypeDecl.methodsOfKind (declaration : TypeDecl) (kind : MethodKind) : List MethodDecl :=
  declaration.members.filterMap fun
    | .method method => if method.kind = kind then some method else none
    | .field _ => none

/-- The methods of a kind are the declared ones of that kind, in order, since each member is
declared as what it is.
-/
theorem TypeDecl.Describes.methodsOfKind_rel {scope : Scope} {table : TypeTable}
    {declaration : TypeDecl} {type : TypeId} (describes : declaration.Describes scope table type)
    (kind : MethodKind)
    : List.Forall₂ (fun method id => method.Describes scope table type (table.method id))
        (declaration.methodsOfKind kind) (table.methodsOfKind type kind) := by
  refine List.rel_filterMap ?_ describes.members
  intro declared member described
  cases described with
  | @method method id _ described =>
      simp only [described.kind, beq_iff_eq]
      split
      · exact .some described
      · exact .none
  | field _ => exact .none

/-- A described class starts a script exactly if it is declared as a script class with exactly one
initializer.
-/
theorem TypeDecl.Describes.starts_iff {scope : Scope} {table : TypeTable} {declaration : TypeDecl}
    {type : TypeId} (describes : declaration.Describes scope table type)
    : (∃ initializer, ScriptMain.Starts table type initializer)
      ↔ declaration.kind = .scriptClass
        ∧ ∃ initializer, declaration.methodsOfKind .initializer = [initializer] := by
  have kind : (table.symbol type).namedKind? = some declaration.kind := by
    rw [TypeSymbol.namedKind?, describes.kind]
  have single
      : (∃ initializer, table.scriptInitializer? type = some initializer)
        ↔ ∃ initializer, declaration.methodsOfKind .initializer = [initializer] := by
    simp only [scriptInitializer?, singleMethodOfKind?_eq_some_iff]
    rw [← List.length_eq_one_iff, ← List.length_eq_one_iff,
      (describes.methodsOfKind_rel .initializer).length_eq]
  rw [← single]
  constructor
  · intro ⟨initializer, starts⟩
    exact ⟨Option.some.inj (kind.symm.trans starts.isScript), initializer, starts.initializes⟩
  · intro ⟨isScript, initializer, initializes⟩
    exact ⟨initializer, by rw [kind, isScript], initializes⟩

namespace Manifest

/-- The class of the script is declared as one, with exactly one initializer. -/
def StartsScript (manifest : Manifest) (className : String) : Prop :=
  ∃ declaration ∈ manifest.types,
    declaration.name = className
    ∧ declaration.kind = .scriptClass
    ∧ ∃ initializer, declaration.methodsOfKind .initializer = [initializer]

/-- A class starts a script in a table exactly if it does in the manifest, where its name is
declared once.
-/
theorem Contents.startsScript_iff {manifest : Manifest} {scope : Scope} {table : TypeTable}
    (contents : manifest.Contents scope table) {className : String} {type : TypeId}
    (found : scope.find? className = some type)
    : manifest.StartsScript className
      ↔ ∃ initializer, ScriptMain.Starts table type initializer := by
  constructor
  · intro ⟨declaration, listed, named, starts⟩
    obtain ⟨other, found', describes⟩ := contents.describes declaration listed
    rw [named, found] at found'
    obtain rfl := Option.some.inj found'
    exact describes.starts_iff.mpr starts
  · intro starts
    obtain ⟨declaration, listed, named, describes⟩ := contents.declaration_of_find? found
    exact ⟨declaration, listed, named, describes.starts_iff.mp starts⟩

end Manifest

/-- The main of a script is not created if its initializer returns something else than a future; the
error names what it returns and what was expected.
-/
theorem ScriptMain.create_of_foreignResult {table : TypeTable} {scriptClass : TypeId}
    {initializer : MethodId} (starts : ScriptMain.Starts table scriptClass initializer)
    (present : (table.symbol table.wellKnownTask).isError = false)
    (foreign
      : table.isDerivedFrom (table.method initializer).returnType table.wellKnownTask = false)
    (bag : DiagnosticBag)
    : ScriptMain.create table scriptClass bag
      = (.error
          (.internalConsistency .script
            (.scriptInitializerReturns (table.displayName (table.method initializer).returnType)
              (table.displayName table.wellKnownTask))), bag) := by
  simp [ScriptMain.create, starts.isScript, starts.initializes, present, foreign]

------------------------------------------------------------------------------------------
-- Nothing derives from the future type

namespace Manifest

section
variable {manifest : Manifest} (off : manifest.platformTasks = false) {scope scope' : Scope}
  {table table' : TypeTable} (contents : manifest.Contents scope table)
  (contents' : manifest.withFutures.Contents scope' table') (ends : table.ChainsEnd)
include off contents contents' ends

/-- A type that is matched does not derive from the future type: all types of its chain are matched,
and the future type is not.
-/
theorem isDerivedFrom_wellKnownTask {left right : TypeId}
    (same : MatchesFutureless scope table scope' table' left right)
    : table'.isDerivedFrom right table'.wellKnownTask = false := by
  have corresponds := (contentsMatch_withFutures off contents contents').corresponds
  have chains := corresponds.baseChain_rel same (ends left)
  rw [isDerivedFrom, Bool.eq_false_iff]
  intro derived
  obtain ⟨base, _, same'⟩ := exists_of_mem_right chains (List.contains_iff_mem.mp derived)
  exact same'.ne_wellKnownTask contents'.furnished rfl

/-- Mains are async with the futures exactly if they are without them.
Without futures only the modifier counts, as the future type is missing; with them what the main
returns does not derive from it either.
-/
theorem isAsyncCandidate_withFutures {main main' : MethodId}
    (mains : MethodsAlike (MatchesFutureless scope table scope' table') table table' main main')
    : table.isAsyncCandidate main = table'.isAsyncCandidate main' := by
  have missing := (contents.furnished.wellKnownTask_missing (contents.platformTasks.trans off)).1
  have foreign := isDerivedFrom_wellKnownTask off contents contents' ends mains.returnType
  simp [isAsyncCandidate, mains.isAsync, missing, foreign]

end

------------------------------------------------------------------------------------------
-- Results

/-- How the result for a manifest without the platform's futures goes together with that for the
same manifest with them.
-/
def ResultsAgree (manifest : Manifest) (result extended : Except EntryPointError SynthesisReport)
    : Prop :=
  match manifest.compilation with
  | .regular _ | .submission _ => extended = result
  | .script className =>
      (manifest.StartsScript className
        → result
              = .ok
                  {
                    needed := true,
                    rendered := none,
                    diagnostics :=
                      [{ code := .predefinedTypeNotFound, location := .nowhere,
                          arguments := [taskMetadataName] }]
                  }
          ∧ ∃ returned,
              extended
              = .error
                  (.internalConsistency .script (.scriptInitializerReturns returned "Task")))
      ∧ (¬ manifest.StartsScript className
        → ∃ error, result = .error error ∧ extended = .error error)

section
variable {manifest : Manifest} (off : manifest.platformTasks = false) {scope scope' : Scope}
  {loaded extended : LoadedCompilation} (contents : manifest.Contents scope loaded.table)
  (contents' : manifest.withFutures.Contents scope' extended.table)
  (ends : loaded.table.ChainsEnd)
  (kinds
    : loaded.kind.Alike (MatchesFutureless scope loaded.table scope' extended.table)
        extended.kind)
include off contents contents' ends kinds

/-- Where no script is started, the compilations with and without futures select alike.
Mains are taken for async ones alike, and no initializer is compared with the future type.
-/
theorem selectsAlike_withFutures
    (candidates
      : Option.Rel
          (MethodsAlike (MatchesFutureless scope loaded.table scope' extended.table)
            loaded.table extended.table)
          loaded.candidate extended.candidate)
    (noScript
      : ∀ {scriptClass initializer},
          loaded.kind = .script scriptClass
          → ¬ ScriptMain.Starts loaded.table scriptClass initializer)
    : loaded.SelectsAlike (MatchesFutureless scope loaded.table scope' extended.table) extended where
  corresponds := (contentsMatch_withFutures off contents contents').corresponds
  ends := ends
  interned := contents.furnished.reached.arraysInterned
  interned' := contents'.furnished.reached.arraysInterned
  strategies :=
    selectStrategy_rel kinds candidates (isAsyncCandidate_withFutures off contents contents' ends)
  tasks selected starts := by
    cases kind : loaded.kind with
    | regular => simp [selectStrategy, kind] at selected
    | script scriptClass =>
        obtain rfl := Strategy.scriptInitializer.inj (Option.some.inj (kind ▸ selected))
        exact absurd starts (noScript kind)
    | submission => simp [selectStrategy, kind] at selected

/-- A script that is started without the futures is refused with them, since its initializer returns
a type that does not derive from the platform's future.
The class starts the script in the other table as well, so creating its main gets to the comparison.
-/
theorem synthesize_withFutures_of_starts {type : TypeId} (kind : loaded.kind = .script type)
    {initializer : MethodId} (starts : ScriptMain.Starts loaded.table type initializer)
    (config : SynthesisConfig)
    : ∃ returned,
        extended.synthesize config
        = .error (.internalConsistency .script (.scriptInitializerReturns returned "Task")) := by
  have corresponds := (contentsMatch_withFutures off contents contents').corresponds
  have present : scope'.platformTasks = true := contents'.platformTasks
  have furnished' := contents'.furnished
  obtain ⟨type', kind', same⟩
      : ∃ type',
          extended.kind = .script type'
          ∧ MatchesFutureless scope loaded.table scope' extended.table type type' := by
    generalize extended.kind = kind' at kinds
    rw [kind] at kinds
    cases kinds with
    | script same => exact ⟨_, rfl, same⟩
  obtain ⟨initializer', starts', alike⟩ := corresponds.exists_starts same starts
  obtain ⟨_, _, awaits⟩ := furnished'.wellKnownTask_present present
  have foreign := isDerivedFrom_wellKnownTask off contents contents' ends alike.returnType
  have created :=
    EntryPoint.create_of_script config
      (ScriptMain.create_of_foreignResult starts' awaits.notError foreign .empty)
  have selected := LoadedCompilation.selectStrategy_of_script kind'
  have named : extended.table.displayName extended.table.wellKnownTask = "Task" := by
    rw [furnished'.displayName_eq .task, present]
    rfl
  rw [LoadedCompilation.synthesize_eq (synthesize_of_create_error selected created), named]
  exact ⟨_, rfl⟩

end

/-- A script whose class does not start it is refused, with futures or without. -/
theorem synthesize_of_not_starts {loaded : LoadedCompilation} {type : TypeId}
    (kind : loaded.kind = .script type)
    (refused : ∀ initializer, ¬ ScriptMain.Starts loaded.table type initializer)
    (config : SynthesisConfig)
    : ∃ error, loaded.synthesize config = .error error := by
  have selected := LoadedCompilation.selectStrategy_of_script kind
  obtain ⟨error, created⟩ :=
    ScriptMain.create_of_not_admits
      (fun initializer admits => refused initializer ⟨admits.isScript, admits.initializes⟩) .empty
  rw [LoadedCompilation.synthesize_eq
    (synthesize_of_create_error selected (EntryPoint.create_of_script config created))]
  exact ⟨error, rfl⟩

/-- The platform's futures extend manifests conservatively: what builds without them builds with
them, and the results agree, whatever the configuration. By cases on the compilation.
-/
theorem conservative_withFutures {manifest : Manifest} (off : manifest.platformTasks = false)
    {loaded : LoadedCompilation} (built : manifest.build = .ok loaded)
    : ∃ extended,
        manifest.withFutures.build = .ok extended
        ∧ ∀ config,
            manifest.ResultsAgree (loaded.synthesize config) (extended.synthesize config) := by
  obtain ⟨scope, completes, _, found⟩ := build_eq_ok_iff.mp built
  obtain ⟨scope', table', completes'⟩ :=
    exists_completes_withFutures off ⟨scope, loaded.table, completes⟩
  have contents := completes.contents
  have contents' := completes'.contents
  have ends := chainsEnd_of_build built
  obtain ⟨extended, rfl, built', kinds, candidates⟩ :=
    (contentsMatch_withFutures off contents contents').exists_build built completes completes'
  refine ⟨extended, built', fun config => ?_⟩
  have same
      (noScript
        : ∀ {scriptClass initializer},
            loaded.kind = .script scriptClass
            → ¬ ScriptMain.Starts loaded.table scriptClass initializer) :=
    (selectsAlike_withFutures off contents contents' ends kinds candidates noScript).synthesize_eq
      config
  rw [findCompilation_eq_ok_iff] at found
  unfold ResultsAgree
  cases description : manifest.compilation with
  | regular path =>
      rw [description] at found
      have regular : loaded.kind = .regular := by cases path <;> exact found.1
      exact (same (by simp [regular])).symm
  | submission className =>
      rw [description] at found
      obtain ⟨_, type, submission, _⟩ := found
      exact (same (by simp [submission])).symm
  | script className =>
      rw [description] at found
      obtain ⟨_, type, script, declared⟩ := found
      have starts_iff := contents.startsScript_iff declared
      constructor
      · intro starts
        obtain ⟨initializer, starts⟩ := starts_iff.mp starts
        have platformTasks : scope.platformTasks = false := contents.platformTasks.trans off
        have missing := (contents.furnished.wellKnownTask_missing platformTasks).1
        have admits : ScriptMain.Admits loaded.table type initializer :=
          ⟨starts.isScript, starts.initializes, by simp [missing]⟩
        exact ⟨contents.furnished.synthesize_of_missingTask config script platformTasks admits,
          synthesize_withFutures_of_starts off contents contents' ends kinds script starts config⟩
      · intro refused
        have notStarts (initializer : MethodId)
            : ¬ ScriptMain.Starts loaded.table type initializer :=
          fun starts => refused (starts_iff.mpr ⟨initializer, starts⟩)
        obtain ⟨error, failed⟩ := synthesize_of_not_starts script notStarts config
        refine ⟨error, failed, (same ?_).symm.trans failed⟩
        intro scriptClass initializer other
        obtain rfl := CompilationKind.script.inj (script.symm.trans other)
        exact notStarts initializer

/-- A program with a future of its own, which has the name of the platform's. -/
def programWithOwnTask : Manifest where
  types :=
    [
      {
        name := "Awaiter",
        kind := .structType,
        members := [.method { name := some "GetResult", returns := some "int" }]
      },
      {
        name := "Task",
        members := [.method { name := some "GetAwaiter", returns := some "Awaiter" }]
      },
      {
        name := "Program",
        members :=
          [
            .method
              { name := some "Main", returns := some "Task", isStatic := true, isAsync := true }
          ]
      }
    ]
  compilation := .regular (some "Program.Main")

/-- A script that returns an object. -/
def scriptOfObject : Manifest where
  types :=
    [
      {
        name := "Script",
        kind := .scriptClass,
        members :=
          [
            .method { kind := .constructor },
            .method { kind := .initializer, returns := some "object" }
          ]
      }
    ]
  compilation := .script "Script"

/-- With the platform's futures the program is loaded into another table and rendered as before, and
the script is refused instead of suppressed.
-/
theorem programWithOwnTask_conservative
    : programWithOwnTask.platformTasks = false
      ∧ scriptOfObject.platformTasks = false
      ∧ scriptOfObject.StartsScript "Script"
      ∧ (∃ loaded extended,
          programWithOwnTask.build = .ok loaded
          ∧ programWithOwnTask.withFutures.build = .ok extended
          ∧ loaded ≠ extended
          ∧ (loaded.synthesize {}).map (fun report => report.rendered.isSome) = .ok true
          ∧ extended.synthesize {} = loaded.synthesize {})
      ∧ ∃ loaded extended,
          scriptOfObject.build = .ok loaded
          ∧ scriptOfObject.withFutures.build = .ok extended
          ∧ scriptOfObject.ResultsAgree (loaded.synthesize {}) (extended.synthesize {}) := by
  have program := @conservative_withFutures programWithOwnTask rfl
  have script := @conservative_withFutures scriptOfObject rfl
  have rendered
      : programWithOwnTask.build.map
          (fun loaded => (loaded.synthesize {}).map (fun report => report.rendered.isSome))
        = .ok (.ok true) := by
    decide +kernel
  have loads : scriptOfObject.build.toOption.isSome := by decide +kernel
  have different : programWithOwnTask.build ≠ programWithOwnTask.withFutures.build := by
    decide +kernel
  refine ⟨rfl, rfl, ⟨_, List.mem_singleton_self _, rfl, rfl, _, rfl⟩, ?_, ?_⟩
  · cases built : programWithOwnTask.build with
    | error error =>
        rw [built] at rendered
        cases rendered
    | ok loaded =>
        obtain ⟨extended, built', agree⟩ := program built
        rw [built] at rendered
        refine ⟨loaded, extended, rfl, built', ?_, Except.ok.inj rendered, agree {}⟩
        rintro rfl
        exact different (built.trans built'.symm)
  · cases built : scriptOfObject.build with
    | error error =>
        rw [built] at loads
        cases loads
    | ok loaded =>
        obtain ⟨extended, built', agree⟩ := script built
        exact ⟨loaded, extended, rfl, built', agree {}⟩

end Manifest

end EntryPoints
