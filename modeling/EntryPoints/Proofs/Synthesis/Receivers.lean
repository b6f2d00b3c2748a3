import EntryPoints.Proofs.Synthesis.Outcome
import EntryPoints.Proofs.TypeTable.Hierarchy

/-! Which calls have a receiver. Mains are checked to be static before they are called without one.
Initializers and the methods of a protocol are called on a receiver whether they are static or not.
-/

namespace EntryPoints

------------------------------------------------------------------------------------------
-- Calls on receivers

/-- A call has a receiver exactly if its method is an instance method. -/
def Expression.ReceiverFits (table : TypeTable) : Expression → Prop
  | .parameter _ | .temporary _ | .creation _ _ _ | .assignment _ _ => True
  | .staticCall method _ _ => (table.method method).isStatic = true
  | .instanceCall _ method _ _ => (table.method method).isStatic = false

/-- Both methods of a protocol are instance methods. -/
def AwaitProtocol.OnInstances (table : TypeTable) (protocol : AwaitProtocol) : Prop :=
  (table.method protocol.getAwaiter).isStatic = false
  ∧ (table.method protocol.getResult).isStatic = false

/-- The one initializer of a type, if it has one, is an instance method. -/
def TypeTable.InitializesInstances (table : TypeTable) (type : TypeId) : Prop :=
  ∀ initializer, table.scriptInitializer? type = some initializer
    → (table.method initializer).isStatic = false

/-- The protocol of a type, if it has one, consists of instance methods. -/
def TypeTable.AwaitsInstances (table : TypeTable) (type : TypeId) : Prop :=
  ∀ protocol, table.Awaits type protocol → protocol.OnInstances table

section
variable {table : TypeTable}

/-- Awaiting a type calls instance methods exactly if its protocol, the only one there is, consists
of them.
-/
theorem awaitsInstances_iff {type : TypeId} {protocol : AwaitProtocol}
    (awaits : table.Awaits type protocol)
    : table.AwaitsInstances type ↔ protocol.OnInstances table := by
  constructor
  · intro instances
    exact instances protocol awaits
  · intro instances other awaits'
    rwa [← awaits.unique awaits']

/-- A type is initialized by an instance method exactly if its initializer is one. -/
theorem initializesInstances_iff {type : TypeId} {initializer : MethodId}
    (initializes : table.scriptInitializer? type = some initializer)
    : table.InitializesInstances type ↔ (table.method initializer).isStatic = false := by
  simp [TypeTable.InitializesInstances, initializes]

/-- Receivers fit in a call that waits exactly if the protocol consists of instance methods and
receivers fit in what is awaited.
-/
theorem apply_receiversFit_iff {protocol : AwaitProtocol} {awaited : Expression}
    : (∀ node ∈ (protocol.apply awaited).nodes, node.ReceiverFits table)
      ↔ protocol.OnInstances table ∧ ∀ node ∈ awaited.nodes, node.ReceiverFits table := by
  rw [forall_nodes_apply_iff]
  constructor
  · rintro ⟨getResult, getAwaiter, nodes⟩
    exact ⟨⟨getAwaiter, getResult⟩, nodes⟩
  · rintro ⟨⟨getAwaiter, getResult⟩, nodes⟩
    exact ⟨getResult, getAwaiter, nodes⟩

/-- The receiver fits where an initializer is run on a local exactly if the initializer is an
instance method.
-/
theorem run_receiversFit_iff {temporary : Temporary} {initializer : MethodId} {type : TypeId}
    : (∀ node ∈ ((Expression.temporary temporary).parameterlessCall initializer type).nodes,
        node.ReceiverFits table)
      ↔ (table.method initializer).isStatic = false := by
  rw [forall_nodes_run_iff]
  exact and_iff_left trivial

------------------------------------------------------------------------------------------
-- The three outputs

/-- The call of a main without a receiver is right, since mains are static; so all depends on the
protocol.
-/
theorem forwarder_receiversFit_iff {userMain : MethodId} {protocol : AwaitProtocol}
    (static : (table.method userMain).isStatic)
    : (∀ node
        ∈ (Forwarder.block table
            (protocol.apply (Forwarder.awaiting table userMain protocol).invocation)).nodes,
        node.ReceiverFits table)
      ↔ protocol.OnInstances table := by
  rw [Forwarder.nodes_block, apply_receiversFit_iff]
  refine and_iff_left ?_
  simp [Forwarder.awaiting, Expression.nodes, Expression.ReceiverFits, static]

/-- In the main of a script all depends on the protocol and on the initializer, as a construction
has no receiver.
-/
theorem script_receiversFit_iff {scriptClass : TypeId} {initializer constructor : MethodId}
    {protocol : AwaitProtocol}
    : (∀ node ∈ (ScriptMain.block table scriptClass constructor initializer protocol).nodes,
        node.ReceiverFits table)
      ↔ protocol.OnInstances table ∧ (table.method initializer).isStatic = false := by
  rw [ScriptMain.forall_nodes_block_iff, apply_receiversFit_iff, run_receiversFit_iff]
  refine and_iff_right (forall_nodes_construct_iff.mpr ⟨trivial, trivial, trivial, ?_⟩)
  simp [Expression.nodesOfAll]

/-- In the body of a factory all depends on the initializer. -/
theorem submission_receiversFit_iff {factory : SubmissionFactory} {constructor : MethodId}
    : (∀ node ∈ (SubmissionFactory.block table factory constructor).nodes,
        node.ReceiverFits table)
      ↔ (table.method factory.initializer).isStatic = false := by
  rw [SubmissionFactory.forall_nodes_block_iff, run_receiversFit_iff]
  refine and_iff_right (forall_nodes_construct_iff.mpr ⟨trivial, trivial, trivial, ?_⟩)
  simp [Expression.nodesOfAll, Expression.nodes, Expression.ReceiverFits]

end

------------------------------------------------------------------------------------------
-- Every output

namespace TypeTable

/-- What a compilation calls on a receiver are instance methods. -/
def CallsInstances (table : TypeTable) : CompilationKind → Option MethodId → Prop
  | .regular, candidate =>
      ∀ userMain ∈ candidate, table.AwaitsInstances (table.method userMain).returnType
  | .script scriptClass, _ =>
      table.AwaitsInstances table.wellKnownTask ∧ table.InitializesInstances scriptClass
  | .submission submissionClass, _ => table.InitializesInstances submissionClass

/-- Every call in an output has a receiver just when its method is an instance method, exactly if
the protocol and the initializer that it uses are not static; by cases on how it is produced.
-/
theorem synthesize_receiversFit_iff {table : TypeTable} {kind : CompilationKind}
    {candidate : Option MethodId} {config : SynthesisConfig} {bag : DiagnosticBag}
    {output : EntryPointOutput}
    (synthesized : (table.synthesize kind candidate config bag).1 = .ok (some output))
    : (∀ node ∈ output.body.node.nodes, node.ReceiverFits table)
      ↔ table.CallsInstances kind candidate := by
  cases synthesize_eq_some_iff_produces.mp synthesized with
  | @forwarder userMain protocol async checked awaits =>
      have static := (Forwarder.check_eq_ok_iff.mp checked).1
      rw [forwarder_receiversFit_iff static, ← awaitsInstances_iff awaits]
      simp [CallsInstances]
  | script admits awaits constructs bare parameterless =>
      rw [script_receiversFit_iff, ← awaitsInstances_iff awaits,
        ← initializesInstances_iff admits.initializes, CallsInstances]
  | submission admits usable constructs single parameterless =>
      rw [submission_receiversFit_iff, CallsInstances,
        initializesInstances_iff admits.initializes]
      rfl

/-- An async main that returns a future whose `GetAwaiter` is static or not. -/
def mainOfFuture (staticAwaiter : Bool) : TypeTable :=
  .performAll .empty
    [
      .defineType "Awaiter" .structType none,
      .defineMethod ⟨11⟩ (.ordinary "GetResult" SpecialType.int32.id),
      .defineType "Future" .classType none,
      .defineMethod ⟨12⟩
        { MethodSignature.ordinary "GetAwaiter" ⟨11⟩ with isStatic := staticAwaiter },
      .defineType "Program" .classType none,
      .defineMethod ⟨13⟩
        { MethodSignature.ordinary "Main" ⟨12⟩ with isStatic := true, isAsync := true }
    ]

/-- With instance methods for a protocol, every call in the forwarder fits.
The forwarder is synthesized, and the equivalence leaves only the two methods to look at.
-/
theorem mainOfFuture_instance_fits
    : (mainOfFuture false).Reached
      ∧ (mainOfFuture false).ChainsEnd
      ∧ ∃ output,
          ((mainOfFuture false).synthesize .regular (some ⟨2⟩) {} .empty).1 = .ok (some output)
          ∧ ∀ node ∈ output.body.node.nodes, node.ReceiverFits (mainOfFuture false) := by
  obtain ⟨output, synthesized⟩
      : ∃ output,
          ((mainOfFuture false).synthesize .regular (some ⟨2⟩) {} .empty).1
            = .ok (some output) :=
    ⟨_, rfl⟩
  refine ⟨⟨_, by decide, rfl⟩, chainsEnd_of_bases_before (by decide), output, synthesized, ?_⟩
  refine (synthesize_receiversFit_iff synthesized).mpr ?_
  rintro _ ⟨⟩
  have awaits : (mainOfFuture false).Awaits ⟨12⟩ ⟨⟨1⟩, ⟨0⟩, ⟨11⟩, SpecialType.int32.id⟩ :=
    ⟨rfl, rfl, rfl, rfl, rfl⟩
  exact (awaitsInstances_iff awaits).mpr ⟨rfl, rfl⟩

/-- A static `GetAwaiter` is called on a receiver all the same; the call is the second node of the
body.
-/
theorem mainOfFuture_static_misfits
    : (mainOfFuture true).Reached
      ∧ (mainOfFuture true).ChainsEnd
      ∧ ∃ output,
          ((mainOfFuture true).synthesize .regular (some ⟨2⟩) {} .empty).1 = .ok (some output)
          ∧ ¬ ∀ node ∈ output.body.node.nodes, node.ReceiverFits (mainOfFuture true) := by
  refine ⟨⟨_, by decide, rfl⟩, chainsEnd_of_bases_before (by decide), _, rfl, fun fits => ?_⟩
  have getAwaiter : ((mainOfFuture true).method ⟨1⟩).isStatic = false :=
    fits (.instanceCall _ ⟨1⟩ [] ⟨11⟩) (.tail _ (.head _))
  cases getAwaiter

end TypeTable

end EntryPoints
