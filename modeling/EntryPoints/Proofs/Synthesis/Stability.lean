import EntryPoints.Proofs.Synthesis.Agreement
import EntryPoints.Proofs.Synthesis.Outcome
import EntryPoints.Proofs.TypeTable.UnrelatedGrowth

/-! Synthesis does not see how a table grows elsewhere: over the types and methods that were there,
it has the same result after any operations that leave them alone.
-/

namespace EntryPoints

/-- The class that a compilation is for, if it is for one. -/
def CompilationKind.class? : CompilationKind → Option TypeId
  | .regular => none
  | .script scriptClass => some scriptClass
  | .submission submissionClass => some submissionClass

namespace TypeTable

/-- What synthesis is asked about is in the table. -/
structure Hosts (table : TypeTable) (kind : CompilationKind) (candidate : Option MethodId) : Prop
    where
  classThere : ∀ type ∈ kind.class?, table.Has type
  candidateThere : ∀ id ∈ candidate, id.index < table.methods.size

/-- The platform's future type is in every reached table, registered or as the type that stands in
for it.
-/
theorem Reached.wellKnownTask_there {table : TypeTable} (reached : table.Reached)
    : table.Has table.wellKnownTask := by
  cases registered : table.task with
  | some task =>
      simpa [wellKnownTask, registered]
        using reached.typesThere.remembered task (by simp [remembered, registered])
  | none =>
      simpa [wellKnownTask, registered]
        using reached.typesThere.remembered missingTask (by simp [remembered, fixedTypes])

/-- A compilation over a table is alike to the same compilation over any table that extends it, with
every type of the table matched by itself.
The extending table may have base chains without an end, as only those of the smaller table are
followed.
-/
theorem Reached.alike_extended {table later : TypeTable} (reached : table.Reached)
    (ends : table.ChainsEnd) (reached' : later.Reached) (grown : Extends table later)
    {kind : CompilationKind} {candidate : Option MethodId} (hosts : table.Hosts kind candidate)
    : LoadedCompilation.Alike table.Kept { table, kind, candidate }
        { table := later, kind, candidate } where
  corresponds := reached.corresponds_extended grown
  ends := ends
  interned := reached.arraysInterned
  interned' := reached'.arraysInterned
  tasks := ⟨by simp [wellKnownTask, grown.task], reached.wellKnownTask_there⟩
  kind := by
    cases kind with
    | regular => exact .regular
    | script scriptClass => exact .script ⟨rfl, hosts.classThere _ rfl⟩
    | submission submissionClass => exact .submission ⟨rfl, hosts.classThere _ rfl⟩
  candidate := by
    cases candidate with
    | none => exact .none
    | some id => exact .some (reached.isWellFormed.method_alike grown (hosts.candidateThere id rfl))

------------------------------------------------------------------------------------------
-- The same prerequisites

section
variable {table later : TypeTable} (reached : table.Reached) (ends : table.ChainsEnd)
  (grown : Extends table later) {type : TypeId} (there : table.Has type)
include reached ends grown there

/-- A required member that is found in a table is found in every table that extends it, and is a
method of the smaller one.
-/
theorem requiredMethod?_extended {member : WellKnownMember} {id : MethodId}
    (found : table.requiredMethod? type member = some id)
    : later.requiredMethod? type member = some id ∧ id.index < table.methods.size := by
  obtain ⟨⟨owner, only⟩, parameterless⟩ := requiredMethod?_eq_some_iff.mp found
  obtain ⟨declaring, listed⟩ := exists_mem_members_of_requiredMethod? found
  have inside := (reached.membersContained declaring id listed).1
  have only' := (lookupInHierarchy_extended reached grown there (ends type) _).trans only
  refine ⟨requiredMethod?_eq_some_iff.mpr ⟨⟨owner, only'⟩, ?_⟩, inside⟩
  rw [grown.method inside]
  exact parameterless

/-- A type that can be awaited goes on being awaited by the same methods.
What the methods return is in the smaller table, so the second lookup starts from a type that is
there.
-/
theorem Awaits.extended {protocol : AwaitProtocol} (awaits : table.Awaits type protocol)
    : later.Awaits type protocol ∧ table.Has protocol.resultType := by
  have returns {id : MethodId} (inside : id.index < table.methods.size)
      : table.Has (table.method id).returnType :=
    reached.typesThere.methods id inside _ (by simp [MethodSymbol.mentioned])
  obtain ⟨getAwaiter, inside⟩ := requiredMethod?_extended reached ends grown there awaits.getAwaiter
  have awaiterThere : table.Has protocol.awaiterType := awaits.awaiterType ▸ returns inside
  obtain ⟨getResult, inside'⟩ :=
    requiredMethod?_extended reached ends grown awaiterThere awaits.getResult
  refine ⟨⟨?_, getAwaiter, ?_, getResult, ?_⟩, awaits.resultType ▸ returns inside'⟩
  · rw [grown.symbol there id]
    exact awaits.notError
  · rw [grown.method inside]
    exact awaits.awaiterType
  · rw [grown.method inside']
    exact awaits.resultType

end

/-- The one method of a kind is still the only one, and still the same method, which returns a type
of the smaller table.
-/
theorem singleMethod_extended {table later : TypeTable} (reached : table.Reached)
    (grown : Extends table later) {type : TypeId} (there : table.Has type) {kind : MethodKind}
    {id : MethodId}
    (single : table.singleMethodOfKind? type kind = some id)
    : later.singleMethodOfKind? type kind = some id
      ∧ later.method id = table.method id
      ∧ table.Has (table.method id).returnType := by
  have listed := mem_members_of_singleMethodOfKind? single
  have inside := (reached.membersContained type id listed).1
  exact
    ⟨(singleMethodOfKind?_extended reached grown there kind).trans single, grown.method inside,
      reached.typesThere.methods id inside _ (by simp [MethodSymbol.mentioned])⟩

------------------------------------------------------------------------------------------
-- The same outputs

section
variable {table later : TypeTable} (reached : table.Reached) (ends : table.ChainsEnd)
  (reached' : later.Reached) (grown : Extends table later)

include reached reached' grown

/-- A submission that is constructed still is, by the same block.
Each prerequisite carries over, and the names and types that the block shows are those of the
smaller table.
-/
theorem produces_submission_extended {submissionClass array : TypeId}
    {candidate : Option MethodId} {initializer constructor : MethodId}
    {config : SynthesisConfig} (hosts : table.Hosts (.submission submissionClass) candidate)
    (admits : SubmissionFactory.Admits table submissionClass initializer array)
    (usable : table.useSite? array = none)
    (constructs : table.scriptConstructor? submissionClass = some constructor)
    (single : (table.method constructor).parameters.length = 1)
    (parameterless : (table.method initializer).parameters = [])
    : Produces later config (.submission submissionClass) candidate
        {
          entryPoint := .constructing table config submissionClass initializer array,
          body :=
            ⟨SubmissionFactory.block table
              (SubmissionFactory.constructing table config submissionClass initializer array false)
              constructor⟩
        } := by
  have corresponds := reached.corresponds_extended grown
  have there := hosts.classThere submissionClass rfl
  obtain ⟨initializes, same, returnThere⟩ :=
    singleMethod_extended reached grown there admits.initializes
  obtain ⟨constructs', same', _⟩ := singleMethod_extended reached grown there constructs
  have arrayThere : table.Has array :=
    has_of_kind_ne_error (by rw [reached.arraysInterned.known.mp admits.arrayType]; nofun)
  have usable' : later.useSite? array = none :=
    (corresponds.useSite?_eq ⟨rfl, arrayThere⟩ reached.arraysInterned
      reached'.arraysInterned).symm.trans usable
  have admits' : SubmissionFactory.Admits later submissionClass initializer array := by
    refine ⟨?_, initializes, ?_, grown.arrays admits.arrayType⟩
    · rw [grown.symbol there id]
      exact admits.isSubmission
    · rw [same, grown.symbol returnThere id]
      exact admits.returns
  have factory
      : SubmissionFactory.constructing later config submissionClass initializer array false
        = SubmissionFactory.constructing table config submissionClass initializer array false := by
    simp only [SubmissionFactory.constructing, same]
  have entryPoint
      : EntryPoint.constructing later config submissionClass initializer array
        = EntryPoint.constructing table config submissionClass initializer array := by
    simp only [EntryPoint.constructing, factory]
  have block (factory : SubmissionFactory) (runs : factory.initializer = initializer)
      : SubmissionFactory.block later factory constructor
        = SubmissionFactory.block table factory constructor := by
    simp only [SubmissionFactory.block, runs, same]
  have produced : Produces later config (.submission submissionClass) candidate _ :=
    .submission admits' usable' constructs' (same' ▸ single) (same ▸ parameterless)
  rwa [entryPoint, factory, block _ rfl] at produced

include ends

/-- A main that is forwarded to still is, by the same block.
The check and the protocol carry over, and whether the result is void does not change.
-/
theorem produces_forwarder_extended {userMain : MethodId} {protocol : AwaitProtocol}
    {config : SynthesisConfig} (hosts : table.Hosts .regular (some userMain))
    (async : table.isAsyncCandidate userMain)
    (checked : Forwarder.check table userMain = .ok ())
    (awaits : table.Awaits (table.method userMain).returnType protocol)
    : Produces later config .regular (some userMain)
        {
          entryPoint := .forwarding table config userMain protocol,
          body :=
            ⟨Forwarder.block table
              (protocol.apply (Forwarder.awaiting table userMain protocol).invocation)⟩
        } := by
  have alike := reached.alike_extended ends reached' grown hosts
  have inside := hosts.candidateThere userMain rfl
  have main := reached.isWellFormed.method_alike grown inside
  have same := grown.method inside
  have returnThere : table.Has (table.method userMain).returnType :=
    reached.typesThere.methods userMain inside _ (by simp [MethodSymbol.mentioned])
  obtain ⟨awaits', resultThere⟩ := awaits.extended reached ends grown returnThere
  have forwarder
      : Forwarder.awaiting later userMain protocol
        = Forwarder.awaiting table userMain protocol := by
    simp only [Forwarder.awaiting, same]
  have entryPoint
      : EntryPoint.forwarding later config userMain protocol
        = EntryPoint.forwarding table config userMain protocol := by
    simp only [EntryPoint.forwarding, same, forwarder]
  have block (invocation : Expression)
      : Forwarder.block later (protocol.apply invocation)
        = Forwarder.block table (protocol.apply invocation) := by
    have type : (protocol.apply invocation).type = protocol.resultType := rfl
    rw [Forwarder.block, Forwarder.block, type, grown.symbol resultThere id]
  have produced : Produces later config .regular (some userMain) _ :=
    .forwarder ((alike.isAsyncCandidate_eq main).symm.trans async)
      ((alike.corresponds.check_eq main).symm.trans checked) (same ▸ awaits')
  rwa [entryPoint, forwarder, block] at produced

/-- A script that is run still is, by the same block.
The class, its methods and the protocol carry over; the future type stays the registered one.
-/
theorem produces_script_extended {scriptClass : TypeId} {candidate : Option MethodId}
    {initializer constructor : MethodId} {protocol : AwaitProtocol} {config : SynthesisConfig}
    (hosts : table.Hosts (.script scriptClass) candidate)
    (admits : ScriptMain.Admits table scriptClass initializer)
    (awaits : table.Awaits table.wellKnownTask protocol)
    (constructs : table.scriptConstructor? scriptClass = some constructor)
    (bare : (table.method constructor).parameters = [])
    (parameterless : (table.method initializer).parameters = [])
    : Produces later config (.script scriptClass) candidate
        {
          entryPoint := .running config scriptClass initializer protocol,
          body := ⟨ScriptMain.block table scriptClass constructor initializer protocol⟩
        } := by
  have alike := reached.alike_extended ends reached' grown hosts
  have there := hosts.classThere scriptClass rfl
  have task : later.wellKnownTask = table.wellKnownTask := alike.tasks.1.symm
  obtain ⟨initializes, same, returnThere⟩ :=
    singleMethod_extended reached grown there admits.initializes
  obtain ⟨constructs', same', _⟩ := singleMethod_extended reached grown there constructs
  obtain ⟨awaits', _⟩ := awaits.extended reached ends grown reached.wellKnownTask_there
  have admits' : ScriptMain.Admits later scriptClass initializer := by
    refine ⟨?_, initializes, ?_⟩
    · rw [grown.symbol there id]
      exact admits.isScript
    · rw [task, grown.symbol reached.wellKnownTask_there id, same]
      intro usable
      exact (alike.corresponds.isDerivedFrom_eq ⟨rfl, returnThere⟩ (ends _)
        ⟨rfl, reached.wellKnownTask_there⟩).symm.trans (admits.future usable)
  have block
      : ScriptMain.block later scriptClass constructor initializer protocol
        = ScriptMain.block table scriptClass constructor initializer protocol := by
    simp only [ScriptMain.block, same]
  have produced : Produces later config (.script scriptClass) candidate _ :=
    .script admits' (task ▸ awaits') constructs' (same' ▸ bare) (same ▸ parameterless)
  rwa [block] at produced

/-- What a table allows, every table that extends it does: the same entry point with the same
body; by cases on the kind of compilation.
-/
theorem produces_extended {kind : CompilationKind} {candidate : Option MethodId}
    (hosts : table.Hosts kind candidate) {config : SynthesisConfig} {output : EntryPointOutput}
    (produces : Produces table config kind candidate output)
    : Produces later config kind candidate output := by
  cases produces with
  | forwarder async checked awaits =>
      exact produces_forwarder_extended reached ends reached' grown hosts async checked awaits
  | script admits awaits constructs bare parameterless =>
      exact produces_script_extended reached ends reached' grown hosts admits awaits constructs
        bare parameterless
  | submission admits usable constructs single parameterless =>
      exact produces_submission_extended reached reached' grown hosts admits usable constructs
        single parameterless

/-- Synthesis over a table has the same result over every table that extends it, where the output
also has the same text.
-/
theorem synthesize_extended {kind : CompilationKind} {candidate : Option MethodId}
    (hosts : table.Hosts kind candidate) (config : SynthesisConfig) (bag : DiagnosticBag)
    : later.synthesize kind candidate config bag = table.synthesize kind candidate config bag
      ∧ ∀ output,
          (table.synthesize kind candidate config bag).1 = .ok (some output)
          → output.render later = output.render table := by
  have results := (reached.alike_extended ends reached' grown hosts).synthesize_rel config bag
  dsimp only at results
  generalize first : table.synthesize kind candidate config bag = result at results ⊢
  generalize second : later.synthesize kind candidate config bag = result' at results ⊢
  cases results with
  | failed error _ => exact ⟨rfl, nofun⟩
  | @done output output' _ rendered =>
      cases output with
      | none =>
          obtain rfl : output' = none := by simpa using rendered.symm
          exact ⟨rfl, nofun⟩
      | some output =>
          have produces := synthesize_eq_some_iff_produces.mp (congrArg Prod.fst first)
          have again : (later.synthesize kind candidate config bag).1 = .ok (some output) :=
            synthesize_eq_some_iff_produces.mpr
              (produces_extended reached ends reached' grown hosts produces)
          obtain rfl : output' = some output :=
            Except.ok.inj ((congrArg Prod.fst second).symm.trans again)
          refine ⟨rfl, ?_⟩
          rintro _ ⟨⟩
          exact (Option.some.inj rendered).symm

end

/-- Synthesis is stable under unrelated growth. Once the future type is registered, operations that
leave the types of a table alone change neither the result of synthesis over it, nor what is
reported, nor the text of the output.
-/
theorem synthesize_performAll_eq {table : TypeTable} (reached : table.Reached)
    (ends : table.ChainsEnd) {task : TypeId} (registered : table.task = some task)
    {operations : List Operation} (fits : FitAll table operations)
    (spare : ∀ operation ∈ operations, operation.Spares table) {kind : CompilationKind}
    {candidate : Option MethodId} (hosts : table.Hosts kind candidate)
    (config : SynthesisConfig) (bag : DiagnosticBag)
    : (table.performAll operations).synthesize kind candidate config bag
        = table.synthesize kind candidate config bag
      ∧ ∀ output,
          (table.synthesize kind candidate config bag).1 = .ok (some output)
          → output.render (table.performAll operations) = output.render table :=
  synthesize_extended reached ends (reached.performAll fits)
    ((Grows.refl _ table).performAll registered spare) hosts config bag

/-- A script with an initializer that returns the platform's future type. -/
def scriptOfFuture : TypeTable :=
  .performAll .empty
    [
      .definePlatformTasks,
      .defineType "Script" .scriptClass none,
      .defineMethod ⟨13⟩ (.constructor SpecialType.void.id),
      .defineMethod ⟨13⟩ (.initializer ⟨12⟩)
    ]

/-- Growth around that script: a task of it, an array, and two classes that end up as each other's
base, one of them called like the future type and with a `GetAwaiter` of its own.
-/
def growthAround : List Operation :=
  [
    .taskOf ⟨13⟩,
    .definePlatformTasks,
    .arrayOf ⟨15⟩,
    .defineType "Task" .classType (some ⟨12⟩),
    .defineType "Other" .scriptClass (some ⟨17⟩),
    .setBase ⟨17⟩ ⟨18⟩,
    .defineMethod ⟨17⟩ (.ordinary "GetAwaiter" ⟨13⟩),
    .defineField ⟨18⟩ "script" ⟨13⟩,
    .setUseSite ⟨18⟩ { code := .bogusType, arguments := ["Other"] }
  ]

/-- The script is synthesized in the same way afterwards, though not all base chains end.
The operations fit and spare the table, which is checked one by one.
-/
theorem scriptOfFuture_stable
    : scriptOfFuture.Reached
      ∧ scriptOfFuture.ChainsEnd
      ∧ FitAll scriptOfFuture growthAround
      ∧ (∀ operation ∈ growthAround, operation.Spares scriptOfFuture)
      ∧ ∃ output,
          (scriptOfFuture.synthesize (.script ⟨13⟩) none {} .empty).1 = .ok (some output)
          ∧ (scriptOfFuture.performAll growthAround).synthesize (.script ⟨13⟩) none {} .empty
            = scriptOfFuture.synthesize (.script ⟨13⟩) none {} .empty
          ∧ output.render (scriptOfFuture.performAll growthAround)
            = output.render scriptOfFuture := by
  have reached : scriptOfFuture.Reached := ⟨_, by decide, rfl⟩
  have ends : scriptOfFuture.ChainsEnd := chainsEnd_of_bases_before (by decide)
  have fits : FitAll scriptOfFuture growthAround := by decide
  have spare : ∀ operation ∈ growthAround, operation.Spares scriptOfFuture := by decide
  have hosts : scriptOfFuture.Hosts (.script ⟨13⟩) none :=
    ⟨by rintro _ ⟨⟩; decide, nofun⟩
  obtain ⟨output, synthesized⟩
      : ∃ output,
          (scriptOfFuture.synthesize (.script ⟨13⟩) none {} .empty).1 = .ok (some output) :=
    ⟨_, rfl⟩
  obtain ⟨same, rendered⟩ := synthesize_performAll_eq reached ends rfl fits spare hosts {} .empty
  exact
    ⟨reached, ends, fits, spare, output, synthesized, same, rendered output synthesized⟩

end TypeTable

end EntryPoints
