import EntryPoints.Proofs.Synthesis.Creation
import EntryPoints.Synthesis.Output

/-! The outputs of synthesis are exactly those whose prerequisites a table meets, whatever has been
reported before.
-/

namespace EntryPoints

------------------------------------------------------------------------------------------
-- From an entry point to an outcome

section
variable {table : TypeTable} {bag later : DiagnosticBag} (config : SynthesisConfig)

/-- A forwarder goes into the class of the main, with the accessibility that is configured. -/
theorem EntryPoint.create_of_forwarder {userMain : MethodId}
    {result : Except EntryPointError Forwarder}
    (created : Forwarder.create table userMain bag = (result, later))
    : EntryPoint.create table (.forwarder userMain) config bag
      = (result.map
          (fun forwarder =>
            {
              containingType := (table.method userMain).containingType,
              accessibility := config.accessibility,
              shape := .forwarder forwarder
            }),
        later) := by
  simp [EntryPoint.create, created]

/-- The main of a script goes into the script's class, with the accessibility that is configured. -/
theorem EntryPoint.create_of_script {scriptClass : TypeId}
    {result : Except EntryPointError ScriptMain}
    (created : ScriptMain.create table scriptClass bag = (result, later))
    : EntryPoint.create table (.scriptInitializer scriptClass) config bag
      = (result.map
          (fun main =>
            {
              containingType := scriptClass,
              accessibility := config.accessibility,
              shape := .script main
            }),
        later) := by
  simp [EntryPoint.create, created]

/-- A factory goes into the submission's class, with the accessibility that is configured. -/
theorem EntryPoint.create_of_submission {submissionClass : TypeId}
    {result : Except EntryPointError SubmissionFactory}
    (created : SubmissionFactory.create table submissionClass config bag = (result, later))
    : EntryPoint.create table (.submissionFactory submissionClass) config bag
      = (result.map
          (fun factory =>
            {
              containingType := submissionClass,
              accessibility := config.accessibility,
              shape := .submission factory
            }),
        later) := by
  simp [EntryPoint.create, created]

end

namespace TypeTable

variable {table : TypeTable} {kind : CompilationKind} {candidate : Option MethodId}
  {config : SynthesisConfig} {strategy : Strategy} {bag later : DiagnosticBag}

/-- Where no entry point is needed, nothing is put out and nothing reported. -/
theorem synthesize_of_not_selected (notNeeded : table.selectStrategy kind candidate = none)
    : table.synthesize kind candidate config bag = (.ok none, bag) := by
  simp [synthesize, notNeeded]

/-- An entry point that cannot be created ends synthesis with the error. -/
theorem synthesize_of_create_error {error : EntryPointError}
    (selected : table.selectStrategy kind candidate = some strategy)
    (created : EntryPoint.create table strategy config bag = (.error error, later))
    : table.synthesize kind candidate config bag = (.error error, later) := by
  simp [synthesize, selected, created]

/-- An entry point that is not viable is dropped, and what has been reported stays. -/
theorem synthesize_of_not_viable {entryPoint : EntryPoint}
    (selected : table.selectStrategy kind candidate = some strategy)
    (created : EntryPoint.create table strategy config bag = (.ok entryPoint, later))
    (notViable : entryPoint.isViable = false)
    : table.synthesize kind candidate config bag = (.ok none, later) := by
  simp [synthesize, selected, created, notViable]

/-- A viable entry point is put out with its body, or ends in the error of its body. -/
theorem synthesize_of_viable {entryPoint : EntryPoint}
    (selected : table.selectStrategy kind candidate = some strategy)
    (created : EntryPoint.create table strategy config bag = (.ok entryPoint, later))
    (viable : entryPoint.isViable)
    : table.synthesize kind candidate config bag
      = ((entryPoint.body table).map (fun body => some { entryPoint, body }), later) := by
  cases built : entryPoint.body table <;>
    simp [synthesize, selected, created, viable, built, Except.map]

end TypeTable

------------------------------------------------------------------------------------------
-- Viable entry points

/-- The entry point that forwards to a main. -/
def EntryPoint.forwarding (table : TypeTable) (config : SynthesisConfig) (userMain : MethodId)
    (protocol : AwaitProtocol)
    : EntryPoint :=
  {
    containingType := (table.method userMain).containingType,
    accessibility := config.accessibility,
    shape := .forwarder (Forwarder.awaiting table userMain protocol)
  }

/-- The entry point that runs a script class. -/
def EntryPoint.running (config : SynthesisConfig) (scriptClass : TypeId)
    (initializer : MethodId) (protocol : AwaitProtocol)
    : EntryPoint :=
  {
    containingType := scriptClass,
    accessibility := config.accessibility,
    shape := .script (ScriptMain.running scriptClass initializer (some protocol))
  }

/-- The entry point that constructs a submission. -/
def EntryPoint.constructing (table : TypeTable) (config : SynthesisConfig)
    (submissionClass : TypeId) (initializer : MethodId) (array : TypeId)
    : EntryPoint :=
  {
    containingType := submissionClass,
    accessibility := config.accessibility,
    shape :=
      .submission
        (SubmissionFactory.constructing table config submissionClass initializer array false)
  }

/-- What each kind of compilation needs for a viable entry point. -/
inductive Viable (table : TypeTable) (config : SynthesisConfig)
    : CompilationKind → Option MethodId → EntryPoint → Prop where
  | forwarder {userMain : MethodId} {protocol : AwaitProtocol}
      (async : table.isAsyncCandidate userMain)
      (checked : Forwarder.check table userMain = .ok ())
      (awaits : table.Awaits (table.method userMain).returnType protocol)
      : Viable table config .regular (some userMain) (.forwarding table config userMain protocol)
  | script {scriptClass : TypeId} {candidate : Option MethodId} {initializer : MethodId}
      {protocol : AwaitProtocol} (admits : ScriptMain.Admits table scriptClass initializer)
      (awaits : table.Awaits table.wellKnownTask protocol)
      : Viable table config (.script scriptClass) candidate
          (.running config scriptClass initializer protocol)
  | submission {submissionClass array : TypeId} {candidate : Option MethodId}
      {initializer : MethodId}
      (admits : SubmissionFactory.Admits table submissionClass initializer array)
      (usable : table.useSite? array = none)
      : Viable table config (.submission submissionClass) candidate
          (.constructing table config submissionClass initializer array)

/-- A compilation has one viable entry point at most.
By cases on how it is viable: the protocol, the initializer and the array are all looked up in the
table, so there is one of each.
-/
theorem Viable.unique {table : TypeTable} {config : SynthesisConfig} {kind : CompilationKind}
    {candidate : Option MethodId} {entryPoint other : EntryPoint}
    (h : Viable table config kind candidate entryPoint)
    (h' : Viable table config kind candidate other)
    : entryPoint = other := by
  cases h with
  | forwarder async checked awaits =>
      cases h' with
      | forwarder _ _ awaits' => rw [awaits.unique awaits']
  | script admits awaits =>
      cases h' with
      | script admits' awaits' =>
          have initializer := Option.some.inj (admits.initializes.symm.trans admits'.initializes)
          rw [awaits.unique awaits', initializer]
  | submission admits usable =>
      cases h' with
      | submission admits' _ =>
          have initializer := Option.some.inj (admits.initializes.symm.trans admits'.initializes)
          have array := Option.some.inj (admits.arrayType.symm.trans admits'.arrayType)
          rw [initializer, array]

namespace TypeTable

/-- What has been reported when an entry point turns out to be viable: a script reports the use of
the platform's future type beforehand.
-/
def reportedFor (table : TypeTable) (bag : DiagnosticBag) : CompilationKind → DiagnosticBag
  | .regular | .submission _ => bag
  | .script _ => ScriptMain.reported table bag

/-- Synthesis builds the body of a viable entry point. Without one it ends with nothing, after it
may have reported errors, or with an error, before it has reported any.
-/
inductive Outcome (table : TypeTable) (kind : CompilationKind) (candidate : Option MethodId)
    (config : SynthesisConfig) (bag : DiagnosticBag)
    : Except EntryPointError (Option EntryPointOutput) × DiagnosticBag → Prop where
  | built {entryPoint : EntryPoint} (viable : Viable table config kind candidate entryPoint)
      : Outcome table kind candidate config bag
          ((entryPoint.body table).map (fun body => some { entryPoint, body }),
            table.reportedFor bag kind)
  | nothing {later : DiagnosticBag}
      (suppressed : ∀ entryPoint, ¬ Viable table config kind candidate entryPoint)
      (errors : bag.GrowsByErrors later)
      : Outcome table kind candidate config bag (.ok none, later)
  | failed {error : EntryPointError}
      (refused : ∀ entryPoint, ¬ Viable table config kind candidate entryPoint)
      : Outcome table kind candidate config bag (.error error, bag)

/-- An async main ends in one of the outcomes, by cases on its check and on the protocol of what
it returns.
-/
theorem synthesize_forwarder_outcome {table : TypeTable} {userMain : MethodId}
    (async : table.isAsyncCandidate userMain) (config : SynthesisConfig) (bag : DiagnosticBag)
    : table.Outcome .regular (some userMain) config bag
        (table.synthesize .regular (some userMain) config bag) := by
  have selected : table.selectStrategy .regular (some userMain) = some (.forwarder userMain) := by
    simp [selectStrategy, async]
  cases checked : Forwarder.check table userMain with
  | error inconsistency =>
      have created :=
        EntryPoint.create_of_forwarder config (Forwarder.create_of_inconsistent checked bag)
      rw [synthesize_of_create_error selected created]
      refine .failed (fun entryPoint viable => ?_)
      cases viable with
      | forwarder _ checked' => simp [checked] at checked'
  | ok _ =>
      by_cases awaited : ∃ protocol, table.Awaits (table.method userMain).returnType protocol
      · obtain ⟨protocol, awaits⟩ := awaited
        have created
            : EntryPoint.create table (.forwarder userMain) config bag
              = (.ok (.forwarding table config userMain protocol), bag) :=
          EntryPoint.create_of_forwarder config (Forwarder.create_of_awaits checked awaits bag)
        rw [synthesize_of_viable selected created rfl]
        exact .built (.forwarder async checked awaits)
      · have lacks := not_exists.mp awaited
        obtain ⟨forwarder, later, created, notViable, errors⟩ :=
          Forwarder.create_of_not_awaits checked lacks bag
        rw [synthesize_of_not_viable selected (EntryPoint.create_of_forwarder config created)
          notViable]
        refine .nothing (fun entryPoint viable => ?_) errors
        cases viable with
        | forwarder _ _ awaits => exact lacks _ awaits

/-- A regular compilation ends in one of the outcomes, by cases on its candidate: without an async
one it needs no entry point.
-/
theorem synthesize_regular_outcome (table : TypeTable) (candidate : Option MethodId)
    (config : SynthesisConfig) (bag : DiagnosticBag)
    : table.Outcome .regular candidate config bag
        (table.synthesize .regular candidate config bag) := by
  cases candidate with
  | none =>
      rw [synthesize_of_not_selected rfl]
      exact .nothing (fun _ viable => nomatch viable) (.refl bag)
  | some userMain =>
      by_cases async : table.isAsyncCandidate userMain
      · exact synthesize_forwarder_outcome async config bag
      · have notNeeded : table.selectStrategy .regular (some userMain) = none := by
          simp [selectStrategy, Option.filter, async]
        rw [synthesize_of_not_selected notNeeded]
        refine .nothing (fun entryPoint viable => ?_) (.refl bag)
        cases viable with
        | forwarder async' => exact async async'

/-- Reporting the use of a type changes nothing or adds an error. -/
theorem reportUseSite_growsByErrors (table : TypeTable) (type : TypeId) (bag : DiagnosticBag)
    : bag.GrowsByErrors (table.reportUseSite type bag).2 := by
  unfold reportUseSite
  split
  · exact .push_placed bag _ .nowhere
  · exact .refl bag

/-- A script ends in one of the outcomes, by cases on whether its class is admitted and on the
protocol of the platform's future type.
-/
theorem synthesize_script_outcome (table : TypeTable) (scriptClass : TypeId)
    (candidate : Option MethodId) (config : SynthesisConfig) (bag : DiagnosticBag)
    : table.Outcome (.script scriptClass) candidate config bag
        (table.synthesize (.script scriptClass) candidate config bag) := by
  by_cases admitted : ∃ initializer, ScriptMain.Admits table scriptClass initializer
  · obtain ⟨initializer, admits⟩ := admitted
    have created := EntryPoint.create_of_script config (ScriptMain.create_of_admits admits bag)
    by_cases awaited : ∃ protocol, table.Awaits table.wellKnownTask protocol
    · obtain ⟨protocol, awaits⟩ := awaited
      rw [awaits.resolveAwait] at created
      rw [synthesize_of_viable rfl created rfl]
      exact .built (.script admits awaits)
    · have lacks := not_exists.mp awaited
      obtain ⟨later, errors, resolved⟩ :=
        resolveAwait_of_not_awaits lacks (ScriptMain.reported table bag)
      rw [resolved] at created
      rw [synthesize_of_not_viable rfl created rfl]
      refine .nothing (fun entryPoint viable => ?_)
        ((reportUseSite_growsByErrors table _ bag).trans errors)
      cases viable with
      | script _ awaits => exact lacks _ awaits
  · have refused := not_exists.mp admitted
    obtain ⟨error, created⟩ := ScriptMain.create_of_not_admits refused bag
    rw [synthesize_of_create_error rfl (EntryPoint.create_of_script config created)]
    refine .failed (fun entryPoint viable => ?_)
    cases viable with
    | script admits => exact refused _ admits

/-- A submission ends in one of the outcomes, by cases on whether its class is admitted and on
what the use of `object[]` reports.
-/
theorem synthesize_submission_outcome (table : TypeTable) (submissionClass : TypeId)
    (candidate : Option MethodId) (config : SynthesisConfig) (bag : DiagnosticBag)
    : table.Outcome (.submission submissionClass) candidate config bag
        (table.synthesize (.submission submissionClass) candidate config bag) := by
  by_cases admitted
    : ∃ initializer array, SubmissionFactory.Admits table submissionClass initializer array
  · obtain ⟨initializer, array, admits⟩ := admitted
    have created :=
      EntryPoint.create_of_submission config
        (SubmissionFactory.create_of_admits admits config bag)
    cases usable : table.useSite? array with
    | none =>
        rw [usable, reportUseSite, usable] at created
        rw [synthesize_of_viable rfl created rfl]
        exact .built (.submission admits usable)
    | some info =>
        rw [usable] at created
        rw [synthesize_of_not_viable rfl created rfl]
        refine .nothing (fun entryPoint viable => ?_) (reportUseSite_growsByErrors table array bag)
        cases viable with
        | submission admits' usable' =>
            have same := Option.some.inj (admits.arrayType.symm.trans admits'.arrayType)
            rw [← same, usable] at usable'
            cases usable'
  · have refused := fun initializer array admits => admitted ⟨initializer, array, admits⟩
    obtain ⟨error, created⟩ := SubmissionFactory.create_of_not_admits refused config bag
    rw [synthesize_of_create_error rfl (EntryPoint.create_of_submission config created)]
    refine .failed (fun entryPoint viable => ?_)
    cases viable with
    | submission admits => exact refused _ _ admits

/-- Every compilation ends in one of the outcomes, by cases on its kind. -/
theorem synthesize_outcome (table : TypeTable) (kind : CompilationKind)
    (candidate : Option MethodId) (config : SynthesisConfig) (bag : DiagnosticBag)
    : table.Outcome kind candidate config bag
        (table.synthesize kind candidate config bag) := by
  cases kind with
  | regular => exact synthesize_regular_outcome table candidate config bag
  | script scriptClass => exact synthesize_script_outcome table scriptClass candidate config bag
  | submission submissionClass =>
      exact synthesize_submission_outcome table submissionClass candidate config bag

/-- An output is a viable entry point with a body that could be built, whatever has been reported
before.
-/
theorem synthesize_eq_some_iff {table : TypeTable} {kind : CompilationKind}
    {candidate : Option MethodId} {config : SynthesisConfig} {bag : DiagnosticBag}
    {output : EntryPointOutput}
    : (table.synthesize kind candidate config bag).1 = .ok (some output)
      ↔ Viable table config kind candidate output.entryPoint
        ∧ output.entryPoint.body table = .ok output.body := by
  have outcome := synthesize_outcome table kind candidate config bag
  generalize table.synthesize kind candidate config bag = result at outcome
  cases outcome with
  | @built entryPoint viable =>
      constructor
      · intro ended
        cases built : entryPoint.body table with
        | error error => simp [built, Except.map] at ended
        | ok body =>
            obtain rfl : { entryPoint, body } = output := by
              simpa [built, Except.map] using ended
            exact ⟨viable, built⟩
      · obtain ⟨other, body⟩ := output
        rintro ⟨viable', built⟩
        obtain rfl : entryPoint = other := viable.unique viable'
        simp [built, Except.map]
  | nothing suppressed => simpa using fun viable _ => suppressed _ viable
  | failed refused => simpa using fun viable _ => refused _ viable

end TypeTable

------------------------------------------------------------------------------------------
-- Outputs

/-- What each kind of compilation needs for an output, and the output that it gets. -/
inductive Produces (table : TypeTable) (config : SynthesisConfig)
    : CompilationKind → Option MethodId → EntryPointOutput → Prop where
  | forwarder {userMain : MethodId} {protocol : AwaitProtocol}
      (async : table.isAsyncCandidate userMain)
      (checked : Forwarder.check table userMain = .ok ())
      (awaits : table.Awaits (table.method userMain).returnType protocol)
      : Produces table config .regular (some userMain)
          {
            entryPoint := .forwarding table config userMain protocol,
            body :=
              ⟨Forwarder.block table
                (protocol.apply (Forwarder.awaiting table userMain protocol).invocation)⟩
          }
  | script {scriptClass : TypeId} {candidate : Option MethodId}
      {initializer constructor : MethodId} {protocol : AwaitProtocol}
      (admits : ScriptMain.Admits table scriptClass initializer)
      (awaits : table.Awaits table.wellKnownTask protocol)
      (constructs : table.scriptConstructor? scriptClass = some constructor)
      (bare : (table.method constructor).parameters = [])
      (parameterless : (table.method initializer).parameters = [])
      : Produces table config (.script scriptClass) candidate
          {
            entryPoint := .running config scriptClass initializer protocol,
            body := ⟨ScriptMain.block table scriptClass constructor initializer protocol⟩
          }
  | submission {submissionClass array : TypeId} {candidate : Option MethodId}
      {initializer constructor : MethodId}
      (admits : SubmissionFactory.Admits table submissionClass initializer array)
      (usable : table.useSite? array = none)
      (constructs : table.scriptConstructor? submissionClass = some constructor)
      (single : (table.method constructor).parameters.length = 1)
      (parameterless : (table.method initializer).parameters = [])
      : Produces table config (.submission submissionClass) candidate
          {
            entryPoint := .constructing table config submissionClass initializer array,
            body :=
              ⟨SubmissionFactory.block table
                (SubmissionFactory.constructing table config submissionClass initializer array
                  false)
                constructor⟩
          }

/-- An output is there exactly if its prerequisites are.
By cases on the viable entry point, of which the body is built exactly if the remaining ones are
there: the constructor, and methods that take what they are given.
-/
theorem TypeTable.synthesize_eq_some_iff_produces {table : TypeTable} {kind : CompilationKind}
    {candidate : Option MethodId} {config : SynthesisConfig} {bag : DiagnosticBag}
    {output : EntryPointOutput}
    : (table.synthesize kind candidate config bag).1 = .ok (some output)
      ↔ Produces table config kind candidate output := by
  rw [synthesize_eq_some_iff]
  constructor
  · obtain ⟨entryPoint, body⟩ := output
    rintro ⟨viable, built⟩
    cases viable with
    | forwarder async checked awaits =>
        obtain rfl := Except.ok.inj ((Forwarder.body_awaiting table _ _).symm.trans built)
        exact .forwarder async checked awaits
    | script admits awaits =>
        obtain ⟨constructor, constructs, bare, parameterless, rfl⟩ :=
          ScriptMain.body_running_eq_ok_iff.mp built
        exact .script admits awaits constructs bare parameterless
    | submission admits usable =>
        obtain ⟨constructor, constructs, single, parameterless, rfl⟩ :=
          SubmissionFactory.body_constructing_eq_ok_iff.mp built
        exact .submission admits usable constructs single parameterless
  · intro produces
    cases produces with
    | forwarder async checked awaits =>
        exact ⟨.forwarder async checked awaits, Forwarder.body_awaiting table _ _⟩
    | script admits awaits constructs bare parameterless =>
        exact ⟨.script admits awaits,
          ScriptMain.body_running_eq_ok_iff.mpr ⟨_, constructs, bare, parameterless, rfl⟩⟩
    | submission admits usable constructs single parameterless =>
        exact ⟨.submission admits usable,
          SubmissionFactory.body_constructing_eq_ok_iff.mpr
            ⟨_, constructs, single, parameterless, rfl⟩⟩

end EntryPoints
