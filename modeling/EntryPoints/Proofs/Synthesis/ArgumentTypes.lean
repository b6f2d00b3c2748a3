import EntryPoints.Proofs.Synthesis.Outcome
import EntryPoints.Proofs.TypeTable.Hierarchy
import Mathlib.Data.List.Forall2

/-! The types of arguments and of the parameters that they are passed for. The main and the
initializers always get what they declare. The constructor of a submission gets an `object[]`,
whatever it declares.
-/

namespace EntryPoints

------------------------------------------------------------------------------------------
-- Arguments of calls and constructions

/-- The arguments have, one by one, the types that the method declares for its parameters. -/
def TypeTable.Takes (table : TypeTable) (method : MethodId) (arguments : List Expression)
    : Prop :=
  List.Forall₂ (fun argument parameter => argument.type = parameter.type) arguments
    (table.method method).parameters

/-- A call or a construction passes arguments of the declared types; nothing else passes any. -/
def Expression.ArgumentsFit (table : TypeTable) : Expression → Prop
  | .parameter _ | .temporary _ | .assignment _ _ => True
  | .staticCall method arguments _ => table.Takes method arguments
  | .instanceCall _ method arguments _ => table.Takes method arguments
  | .creation constructor arguments _ => table.Takes constructor arguments

section
variable {table : TypeTable} {method : MethodId}

/-- A method takes no arguments exactly if it has no parameters. -/
theorem takes_nil_iff : table.Takes method [] ↔ (table.method method).parameters = [] :=
  List.forall₂_nil_left_iff

/-- A method takes its own parameters passed on, each being of its own type. -/
theorem takes_parameters (table : TypeTable) (method : MethodId)
    : table.Takes method ((table.method method).parameters.map Expression.parameter) := by
  rw [TypeTable.Takes, List.forall₂_map_left_iff, List.forall₂_same]
  exact fun _ _ => rfl

/-- A method with one parameter takes an argument exactly if that is of the parameter's type. -/
theorem takes_singleton_iff {argument : Expression} {parameter : Parameter}
    (single : (table.method method).parameters = [parameter])
    : table.Takes method [argument] ↔ argument.type = parameter.type := by
  simp [TypeTable.Takes, single]

/-- Waiting for an expression passes no arguments of its own, since both methods of a protocol have
no parameters.
-/
theorem apply_argumentsFit {type : TypeId} {protocol : AwaitProtocol}
    (awaits : table.Awaits type protocol) {awaited : Expression}
    (nodes : ∀ node ∈ awaited.nodes, node.ArgumentsFit table)
    : ∀ node ∈ (protocol.apply awaited).nodes, node.ArgumentsFit table := by
  obtain ⟨getAwaiter, getResult⟩ := awaits.parameterless
  exact forall_nodes_apply_iff.mpr
    ⟨takes_nil_iff.mpr getResult, takes_nil_iff.mpr getAwaiter, nodes⟩

/-- Running a parameterless initializer on a local passes no arguments. -/
theorem run_argumentsFit {initializer : MethodId} {temporary : Temporary} {type : TypeId}
    (parameterless : (table.method initializer).parameters = [])
    : ∀ node ∈ ((Expression.temporary temporary).parameterlessCall initializer type).nodes,
        node.ArgumentsFit table :=
  forall_nodes_run_iff.mpr ⟨takes_nil_iff.mpr parameterless, trivial⟩

end

------------------------------------------------------------------------------------------
-- The three outputs

section
variable {table : TypeTable}

/-- A forwarder's arguments fit: it passes its own parameters on, which are those of the main. -/
theorem forwarder_argumentsFit {userMain : MethodId} {protocol : AwaitProtocol}
    (awaits : table.Awaits (table.method userMain).returnType protocol)
    : ∀ node
        ∈ (Forwarder.block table
            (protocol.apply (Forwarder.awaiting table userMain protocol).invocation)).nodes,
        node.ArgumentsFit table := by
  rw [Forwarder.nodes_block]
  refine apply_argumentsFit awaits ?_
  have main := takes_parameters table userMain
  simp [Forwarder.awaiting, Expression.nodes, Expression.ArgumentsFit, main]

/-- The main of a script passes no arguments at all, so its arguments fit; neither constructor nor
initializer have parameters.
-/
theorem script_argumentsFit {scriptClass : TypeId} {initializer constructor : MethodId}
    {protocol : AwaitProtocol} (awaits : table.Awaits table.wellKnownTask protocol)
    (bare : (table.method constructor).parameters = [])
    (parameterless : (table.method initializer).parameters = [])
    : ∀ node ∈ (ScriptMain.block table scriptClass constructor initializer protocol).nodes,
        node.ArgumentsFit table := by
  refine ScriptMain.forall_nodes_block_iff.mpr ⟨?_, ?_⟩
  · refine forall_nodes_construct_iff.mpr ⟨trivial, trivial, takes_nil_iff.mpr bare, ?_⟩
    simp [Expression.nodesOfAll]
  · exact apply_argumentsFit awaits (run_argumentsFit parameterless)

/-- The one argument in a factory is the factory's own `object[]`, so all depends on what the
constructor declares.
-/
theorem submission_argumentsFit_iff {config : SynthesisConfig}
    {submissionClass array : TypeId} {initializer constructor : MethodId}
    {parameter : Parameter} (single : (table.method constructor).parameters = [parameter])
    (parameterless : (table.method initializer).parameters = [])
    : (∀ node
        ∈ (SubmissionFactory.block table
            (SubmissionFactory.constructing table config submissionClass initializer array
              false)
            constructor).nodes,
        node.ArgumentsFit table)
      ↔ array = parameter.type := by
  constructor
  · intro fits
    obtain ⟨construct, _⟩ := SubmissionFactory.forall_nodes_block_iff.mp fits
    obtain ⟨_, _, creation, _⟩ := forall_nodes_construct_iff.mp construct
    exact (takes_singleton_iff single).mp creation
  · intro same
    refine SubmissionFactory.forall_nodes_block_iff.mpr ⟨?_, run_argumentsFit parameterless⟩
    refine forall_nodes_construct_iff.mpr
      ⟨trivial, trivial, (takes_singleton_iff single).mpr same, ?_⟩
    simp [Expression.nodesOfAll, Expression.nodes, Expression.ArgumentsFit]

end

------------------------------------------------------------------------------------------
-- Every output

namespace TypeTable

/-- The constructor of a submission class takes anything but an `object[]`. -/
inductive ConstructorMisfits (table : TypeTable) : CompilationKind → Prop where
  | submission {submissionClass : TypeId} {constructor : MethodId} {parameter : Parameter}
      (constructs : table.scriptConstructor? submissionClass = some constructor)
      (single : (table.method constructor).parameters = [parameter])
      (other : table.arrayType? SpecialType.object.id ≠ some parameter.type)
      : ConstructorMisfits table (.submission submissionClass)

/-- Every argument in an output fits exactly if it is not the `object[]` of a submission whose
constructor takes something else; by cases on how the output is produced.
-/
theorem synthesize_argumentsFit_iff {table : TypeTable} {kind : CompilationKind}
    {candidate : Option MethodId} {config : SynthesisConfig} {bag : DiagnosticBag}
    {output : EntryPointOutput}
    (synthesized : (table.synthesize kind candidate config bag).1 = .ok (some output))
    : (∀ node ∈ output.body.node.nodes, node.ArgumentsFit table)
      ↔ ¬ table.ConstructorMisfits kind := by
  cases synthesize_eq_some_iff_produces.mp synthesized with
  | forwarder async checked awaits =>
      exact iff_of_true (forwarder_argumentsFit awaits) (fun misfits => nomatch misfits)
  | script admits awaits constructs bare parameterless =>
      exact iff_of_true (script_argumentsFit awaits bare parameterless)
        (fun misfits => nomatch misfits)
  | submission admits usable constructs single parameterless =>
      obtain ⟨parameter, declared⟩ := List.length_eq_one_iff.mp single
      rw [submission_argumentsFit_iff declared parameterless]
      constructor
      · rintro same ⟨constructs', declared', other⟩
        obtain rfl := Option.some.inj (constructs.symm.trans constructs')
        obtain rfl := List.singleton_inj.mp (declared.symm.trans declared')
        exact other (same ▸ admits.arrayType)
      · intro fits
        by_contra different
        refine fits (.submission constructs declared (fun same => different ?_))
        exact Option.some.inj (admits.arrayType.symm.trans same)

/-- A submission whose constructor takes one argument of a type. -/
def submissionTaking (type : TypeId) : TypeTable :=
  .performAll .empty
    [
      .defineType "Submission#0" .submissionClass none,
      .defineMethod ⟨11⟩
        { MethodSignature.constructor SpecialType.void.id with parameters := [("count", type)] },
      .defineMethod ⟨11⟩ (.initializer SpecialType.object.id)
    ]

/-- A constructor that takes an `object[]` gets what it declares.
The factory is synthesized, and the equivalence leaves only the type of the constructor's parameter
to compare.
-/
theorem submissionTaking_array_fits
    : (submissionTaking ⟨9⟩).Reached
      ∧ (submissionTaking ⟨9⟩).ChainsEnd
      ∧ ∃ output,
          ((submissionTaking ⟨9⟩).synthesize (.submission ⟨11⟩) none {} .empty).1
            = .ok (some output)
          ∧ ∀ node ∈ output.body.node.nodes, node.ArgumentsFit (submissionTaking ⟨9⟩) := by
  obtain ⟨output, synthesized⟩
      : ∃ output,
          ((submissionTaking ⟨9⟩).synthesize (.submission ⟨11⟩) none {} .empty).1
            = .ok (some output) :=
    ⟨_, rfl⟩
  refine ⟨⟨_, by decide, rfl⟩, chainsEnd_of_bases_before (by decide), output, synthesized, ?_⟩
  refine (synthesize_argumentsFit_iff synthesized).mpr ?_
  rintro ⟨constructs, single, other⟩
  obtain rfl := Option.some.inj constructs
  obtain rfl := List.singleton_inj.mp single
  exact other rfl

/-- A constructor that takes an `int` gets an `object[]`, which is not what it declares. -/
theorem submissionTaking_int32_misfits
    : (submissionTaking SpecialType.int32.id).Reached
      ∧ (submissionTaking SpecialType.int32.id).ChainsEnd
      ∧ ∃ output,
          ((submissionTaking SpecialType.int32.id).synthesize (.submission ⟨11⟩) none {}
            .empty).1
            = .ok (some output)
          ∧ ¬ ∀ node ∈ output.body.node.nodes,
                node.ArgumentsFit (submissionTaking SpecialType.int32.id) := by
  refine ⟨⟨_, by decide, rfl⟩, chainsEnd_of_bases_before (by decide), _, rfl, fun fits => ?_⟩
  have taken
      : (submissionTaking SpecialType.int32.id).Takes ⟨0⟩
          [.parameter ⟨({} : SynthesisConfig).submissionParameter, ⟨9⟩, 0⟩] :=
    fits (.creation ⟨0⟩ _ ⟨11⟩) (.tail _ (.tail _ (.head _)))
  obtain ⟨⟩ | ⟨same, _⟩ := taken
  cases same

end TypeTable

end EntryPoints
