import EntryPoints.Proofs.Body.Nodes
import EntryPoints.Proofs.Synthesis.Protocol
import EntryPoints.Synthesis.EntryPoint

/-! What the three synthesizers need in order to create an entry point and its body, what they
report on the way and what they make of it.
-/

namespace EntryPoints

------------------------------------------------------------------------------------------
-- Forwarders

namespace Forwarder

/-- The forwarder to a main that is waited for by a protocol. -/
def awaiting (table : TypeTable) (userMain : MethodId) (protocol : AwaitProtocol)
    : Forwarder :=
  let main := table.method userMain
  let invocation : Expression :=
    .staticCall userMain (main.parameters.map Expression.parameter) main.returnType
  {
    userMain,
    parameters := main.parameters,
    invocation,
    getResultCall := some (protocol.apply invocation),
    returnType := protocol.resultType
  }

/-- A main is forwarded to exactly if it is static and takes nothing or one `string[]`.
By cases on the parameters, as the check goes through them.
-/
theorem check_eq_ok_iff {table : TypeTable} {userMain : MethodId}
    : check table userMain = .ok ()
      ↔ (table.method userMain).isStatic
        ∧ ((table.method userMain).parameters = []
          ∨ ∃ parameter,
              (table.method userMain).parameters = [parameter]
              ∧ table.arrayType? SpecialType.string.id = some parameter.type) := by
  match parameters : (table.method userMain).parameters with
  | [] =>
      by_cases static : (table.method userMain).isStatic <;> simp [check, parameters, static]
  | [parameter] =>
      by_cases array : table.arrayType? SpecialType.string.id = some parameter.type
      · by_cases static : (table.method userMain).isStatic <;>
          simp [check, parameters, array, static]
      · simp [check, parameters, array]
  | first :: second :: rest => simp [check, parameters]

/-- A main that does not pass the check is refused for the inconsistency found, without a report. -/
theorem create_of_inconsistent {table : TypeTable} {userMain : MethodId}
    {inconsistency : Inconsistency} (refused : check table userMain = .error inconsistency)
    (bag : DiagnosticBag)
    : create table userMain bag
      = (.error (.internalConsistency .forwarder inconsistency), bag) := by
  simp [create, refused]

/-- A main that passes the check and returns what can be waited for gets a forwarder that waits for
it, without a report.
-/
theorem create_of_awaits {table : TypeTable} {userMain : MethodId} {protocol : AwaitProtocol}
    (checked : check table userMain = .ok ())
    (awaits : table.Awaits (table.method userMain).returnType protocol) (bag : DiagnosticBag)
    : create table userMain bag = (.ok (awaiting table userMain protocol), bag) := by
  simp [create, checked, awaits.resolveAwait, awaiting, AwaitProtocol.apply,
    Expression.parameterlessCall, Expression.type]

/-- Without a protocol there is a forwarder that is not viable, and the reports are those of the
resolution.
-/
theorem create_of_unresolved {table : TypeTable} {userMain : MethodId} {bag later : DiagnosticBag}
    (checked : check table userMain = .ok ())
    (unresolved : table.resolveAwait (table.method userMain).returnType bag = (none, later))
    : ∃ forwarder,
        create table userMain bag = (.ok forwarder, later) ∧ forwarder.isViable = false :=
  ⟨_, by simp [create, checked, unresolved]; rfl, rfl⟩

/-- A main that returns what cannot be waited for gets a forwarder that is not viable, and only
errors are reported.
-/
theorem create_of_not_awaits {table : TypeTable} {userMain : MethodId}
    (checked : check table userMain = .ok ())
    (lacks : ∀ protocol, ¬ table.Awaits (table.method userMain).returnType protocol)
    (bag : DiagnosticBag)
    : ∃ forwarder later,
        create table userMain bag = (.ok forwarder, later)
        ∧ forwarder.isViable = false
        ∧ bag.GrowsByErrors later := by
  obtain ⟨later, errors, unresolved⟩ := TypeTable.resolveAwait_of_not_awaits lacks bag
  obtain ⟨forwarder, created, notViable⟩ := create_of_unresolved checked unresolved
  exact ⟨forwarder, later, created, notViable, errors⟩

/-- The block of a forwarder drops a result that is void and returns any other. -/
def block (table : TypeTable) (call : Expression) : Block :=
  if (table.symbol call.type).isVoid then
    { statements := [.evaluate call, .giveBack none] }
  else
    { statements := [.giveBack (some call)] }

/-- A forwarder's body has the nodes of its call, whether the call is returned or not. -/
theorem nodes_block (table : TypeTable) (call : Expression)
    : (block table call).nodes = call.nodes := by
  unfold block
  split <;> simp [Block.nodes, Statement.nodes]

/-- The body of a forwarder that waits is there, and waits for the call of the main. -/
theorem body_awaiting (table : TypeTable) (userMain : MethodId) (protocol : AwaitProtocol)
    : (awaiting table userMain protocol).body table
      = .ok ⟨block table (protocol.apply (awaiting table userMain protocol).invocation)⟩ := by
  simp only [Forwarder.body, awaiting, block]
  split <;> simp [*]

end Forwarder

------------------------------------------------------------------------------------------
-- Mains of scripts

namespace ScriptMain

/-- A script class whose one initializer returns a platform future, if there are such. -/
structure Admits (table : TypeTable) (scriptClass : TypeId) (initializer : MethodId)
    : Prop where
  isScript : (table.symbol scriptClass).namedKind? = some .scriptClass
  initializes : table.scriptInitializer? scriptClass = some initializer
  future
    : (table.symbol table.wellKnownTask).isError = false
      → table.isDerivedFrom (table.method initializer).returnType table.wellKnownTask

/-- The main of a script class, with the protocol that was found for it. -/
def running (scriptClass : TypeId) (initializer : MethodId)
    (protocol : Option AwaitProtocol)
    : ScriptMain :=
  { scriptClass, initializer, protocol, returnType := SpecialType.void.id }

/-- The bag after the use of the platform's future type has been reported. -/
def reported (table : TypeTable) (bag : DiagnosticBag) : DiagnosticBag :=
  (table.reportUseSite table.wellKnownTask bag).2

/-- A class that is not admitted as a script is refused, without a report.
Each check of the creation that passes is a condition for being admitted, so they cannot all pass.
-/
theorem create_of_not_admits {table : TypeTable} {scriptClass : TypeId}
    (refused : ∀ initializer, ¬ Admits table scriptClass initializer) (bag : DiagnosticBag)
    : ∃ error, create table scriptClass bag = (.error error, bag) := by
  unfold create
  split
  · exact ⟨_, rfl⟩
  · next isScript =>
    split
    · exact ⟨_, rfl⟩
    · next initializer initializes =>
      dsimp only
      split
      · exact ⟨_, rfl⟩
      · next future =>
        refine absurd ⟨by simpa using isScript, initializes, ?_⟩ (refused initializer)
        intro usable
        simpa [usable] using future

/-- A class that is admitted as a script gets its main, with the protocol of the future type if that
is resolved; reports are those on the use of the future type and of its resolution.
The comparison of what the initializer returns passes, since it is skipped for a future type that is
an error.
-/
theorem create_of_admits {table : TypeTable} {scriptClass : TypeId} {initializer : MethodId}
    (admits : Admits table scriptClass initializer) (bag : DiagnosticBag)
    : create table scriptClass bag
      = (.ok
          (running scriptClass initializer
            (table.resolveAwait table.wellKnownTask (reported table bag)).1),
        (table.resolveAwait table.wellKnownTask (reported table bag)).2) := by
  have future
      : (!(table.symbol table.wellKnownTask).isError
          && !table.isDerivedFrom (table.method initializer).returnType table.wellKnownTask)
        = false := by
    cases error : (table.symbol table.wellKnownTask).isError with
    | true => rfl
    | false => simp [admits.future error]
  simp [create, admits.isScript, admits.initializes, future, running, reported]

/-- The block of a script's main: construct, run to the end, return. -/
def block (table : TypeTable) (scriptClass : TypeId) (constructor initializer : MethodId)
    (protocol : AwaitProtocol)
    : Block :=
  let script : Temporary := ⟨0, scriptClass⟩
  let run : Expression :=
    (Expression.temporary script).parameterlessCall initializer
      (table.method initializer).returnType
  {
    locals := [script],
    statements :=
      [
        .evaluate (.assignment (.temporary script) (.creation constructor [] scriptClass)),
        .evaluate (protocol.apply run),
        .giveBack none
      ]
  }

/-- Something holds of all nodes of a script's main exactly if it does of those of the construction
and of those of the call that waits.
-/
theorem forall_nodes_block_iff {table : TypeTable} {scriptClass : TypeId}
    {constructor initializer : MethodId} {protocol : AwaitProtocol} {holds : Expression → Prop}
    : (∀ node ∈ (block table scriptClass constructor initializer protocol).nodes, holds node)
      ↔ (∀ node
          ∈ (Expression.assignment (.temporary ⟨0, scriptClass⟩)
              (.creation constructor [] scriptClass)).nodes,
          holds node)
        ∧ ∀ node
            ∈ (protocol.apply
                ((Expression.temporary ⟨0, scriptClass⟩).parameterlessCall initializer
                  (table.method initializer).returnType)).nodes,
            holds node := by
  rw [← List.forall_mem_append]
  simp [block, Block.nodes, Statement.nodes]

/-- A script is constructed with its one constructor, if that has no parameters. -/
theorem constructor?_eq_some_iff {table : TypeTable} {scriptClass : TypeId}
    {constructor : MethodId}
    : constructor? table scriptClass = some constructor
      ↔ table.scriptConstructor? scriptClass = some constructor
        ∧ (table.method constructor).parameters = [] := by
  rw [constructor?, Option.filter_eq_some_iff, List.isEmpty_iff]

/-- A script with a protocol has a body exactly if its one constructor and its initializer take
nothing.
By cases on whether there is such a constructor, which is asked for first.
-/
theorem body_running_eq_ok_iff {table : TypeTable} {scriptClass : TypeId}
    {initializer : MethodId} {protocol : AwaitProtocol} {body : Synthesized Block}
    : (running scriptClass initializer (some protocol)).body table = .ok body
      ↔ ∃ constructor,
          table.scriptConstructor? scriptClass = some constructor
          ∧ (table.method constructor).parameters = []
          ∧ (table.method initializer).parameters = []
          ∧ body = ⟨block table scriptClass constructor initializer protocol⟩ := by
  simp only [← and_assoc, ← constructor?_eq_some_iff]
  cases constructs : constructor? table scriptClass with
  | none => simp [ScriptMain.body, running, constructs]
  | some constructor =>
      by_cases parameterless : (table.method initializer).parameters = []
      · simp [ScriptMain.body, running, block, constructs, parameterless, eq_comm]
      · simp [ScriptMain.body, running, constructs, parameterless]

end ScriptMain

------------------------------------------------------------------------------------------
-- Submission factories

namespace SubmissionFactory

/-- A submission class whose one initializer returns something. -/
structure Admits (table : TypeTable) (submissionClass : TypeId) (initializer : MethodId)
    (array : TypeId)
    : Prop where
  isSubmission : (table.symbol submissionClass).namedKind? = some .submissionClass
  initializes : table.scriptInitializer? submissionClass = some initializer
  returns : (table.symbol (table.method initializer).returnType).isVoid = false
  arrayType : table.arrayType? SpecialType.object.id = some array

/-- The factory of a submission class whose parameter is of a type that can be used or not. -/
def constructing (table : TypeTable) (config : SynthesisConfig) (submissionClass : TypeId)
    (initializer : MethodId) (array : TypeId) (parameterTypeHasErrors : Bool)
    : SubmissionFactory :=
  {
    submissionClass,
    initializer,
    parameter := ⟨config.submissionParameter, array, 0⟩,
    returnType := (table.method initializer).returnType,
    parameterTypeHasErrors
  }

/-- A class that is not admitted as a submission is refused, without a report.
Each check of the creation that passes is a condition for being admitted, so they cannot all pass.
-/
theorem create_of_not_admits {table : TypeTable} {submissionClass : TypeId}
    (refused : ∀ initializer array, ¬ Admits table submissionClass initializer array)
    (config : SynthesisConfig) (bag : DiagnosticBag)
    : ∃ error, create table submissionClass config bag = (.error error, bag) := by
  unfold create
  split
  · exact ⟨_, rfl⟩
  · next isSubmission =>
    split
    · exact ⟨_, rfl⟩
    · next initializer initializes =>
      dsimp only
      split
      · exact ⟨_, rfl⟩
      · next returns =>
        split
        · exact ⟨_, rfl⟩
        · next array arrayType =>
          exact absurd
            ⟨by simpa using isSubmission, initializes, by simpa using returns, arrayType⟩
            (refused initializer array)

/-- A class that is admitted as a submission gets its factory, and what is reported is the use of
the parameter's type.
-/
theorem create_of_admits {table : TypeTable} {submissionClass array : TypeId}
    {initializer : MethodId} (admits : Admits table submissionClass initializer array)
    (config : SynthesisConfig) (bag : DiagnosticBag)
    : create table submissionClass config bag
      = (.ok
          (constructing table config submissionClass initializer array
            (table.useSite? array).isSome),
        (table.reportUseSite array bag).2) := by
  have errors : (table.reportUseSite array bag).1 = (table.useSite? array).isSome := by
    unfold TypeTable.reportUseSite
    split <;> simp [*]
  simp [create, admits.isSubmission, admits.initializes, admits.returns, admits.arrayType,
    constructing, errors]

/-- The block of a factory: construct from the earlier submissions, return what the initializer
returns.
-/
def block (table : TypeTable) (factory : SubmissionFactory) (constructor : MethodId) : Block :=
  let submission : Temporary := ⟨0, factory.submissionClass⟩
  let run : Expression :=
    (Expression.temporary submission).parameterlessCall factory.initializer
      (table.method factory.initializer).returnType
  {
    locals := [submission],
    statements :=
      [
        .evaluate
          (.assignment (.temporary submission)
            (.creation constructor [.parameter factory.parameter] factory.submissionClass)),
        .giveBack (some run)
      ]
  }

/-- Something holds of all nodes of a factory's body exactly if it does of those of the construction
and of those of the initializer's call.
-/
theorem forall_nodes_block_iff {table : TypeTable} {factory : SubmissionFactory}
    {constructor : MethodId} {holds : Expression → Prop}
    : (∀ node ∈ (block table factory constructor).nodes, holds node)
      ↔ (∀ node
          ∈ (Expression.assignment (.temporary ⟨0, factory.submissionClass⟩)
              (.creation constructor [.parameter factory.parameter]
                factory.submissionClass)).nodes,
          holds node)
        ∧ ∀ node
            ∈ ((Expression.temporary ⟨0, factory.submissionClass⟩).parameterlessCall
                factory.initializer (table.method factory.initializer).returnType).nodes,
            holds node := by
  rw [← List.forall_mem_append]
  simp [block, Block.nodes, Statement.nodes]

/-- A submission is constructed with its one constructor, if that has one parameter. -/
theorem constructor?_eq_some_iff {table : TypeTable} {submissionClass : TypeId}
    {constructor : MethodId}
    : constructor? table submissionClass = some constructor
      ↔ table.scriptConstructor? submissionClass = some constructor
        ∧ (table.method constructor).parameters.length = 1 := by
  rw [constructor?, Option.filter_eq_some_iff, beq_iff_eq]

/-- A submission has a body exactly if its one constructor takes one argument, of whatever type,
and its initializer takes none.
-/
theorem body_constructing_eq_ok_iff {table : TypeTable} {config : SynthesisConfig}
    {submissionClass array : TypeId} {initializer : MethodId} {body : Synthesized Block}
    : (constructing table config submissionClass initializer array false).body table
        = .ok body
      ↔ ∃ constructor,
          table.scriptConstructor? submissionClass = some constructor
          ∧ (table.method constructor).parameters.length = 1
          ∧ (table.method initializer).parameters = []
          ∧ body
            = ⟨block table (constructing table config submissionClass initializer array false)
                constructor⟩ := by
  simp only [← and_assoc, ← constructor?_eq_some_iff]
  cases constructs : constructor? table submissionClass with
  | none => simp [SubmissionFactory.body, constructing, constructs]
  | some constructor =>
      by_cases parameterless : (table.method initializer).parameters = []
      · simp [SubmissionFactory.body, constructing, block, constructs, parameterless, eq_comm]
      · simp [SubmissionFactory.body, constructing, constructs, parameterless]

end SubmissionFactory

end EntryPoints
