import EntryPoints.Proofs.Synthesis.Outcome
import EntryPoints.Proofs.TypeTable.Hierarchy

/-! What creation has resolved for an entry point and what its body asks for besides. Viability
tells of the former only: the constructor of a script or a submission is looked for by the body.
-/

namespace EntryPoints

------------------------------------------------------------------------------------------
-- What creation has resolved

/-- The shapes of entry points that creation leads to over a table, with what it has resolved. -/
inductive Created (table : TypeTable) (config : SynthesisConfig)
    : Strategy → EntryPointShape → Prop where
  | awaiting {userMain : MethodId} {protocol : AwaitProtocol}
      (awaits : table.Awaits (table.method userMain).returnType protocol)
    : Created table config (.forwarder userMain)
        (.forwarder (.awaiting table userMain protocol))
  | unresolved {userMain : MethodId} {forwarder : Forwarder}
      (unresolved : forwarder.getResultCall = none)
    : Created table config (.forwarder userMain) (.forwarder forwarder)
  | script {scriptClass : TypeId} {initializer : MethodId} {protocol : Option AwaitProtocol}
      (admits : ScriptMain.Admits table scriptClass initializer)
    : Created table config (.scriptInitializer scriptClass)
        (.script (.running scriptClass initializer protocol))
  | submission {submissionClass array : TypeId} {initializer : MethodId} {errors : Bool}
      (admits : SubmissionFactory.Admits table submissionClass initializer array)
    : Created table config (.submissionFactory submissionClass)
        (.submission (.constructing table config submissionClass initializer array errors))

section
variable {table : TypeTable} {config : SynthesisConfig} {strategy : Strategy}
  {entryPoint : EntryPoint} {bag later : DiagnosticBag}

/-- What creation returns is of one of those shapes, by cases on the strategy and on whether its
inputs are admitted.
-/
theorem EntryPoint.created
    (created : EntryPoint.create table strategy config bag = (.ok entryPoint, later))
    : Created table config strategy entryPoint.shape := by
  cases strategy with
  | forwarder userMain =>
      cases checked : Forwarder.check table userMain with
      | error inconsistency =>
          rw [create_of_forwarder config (Forwarder.create_of_inconsistent checked bag)] at created
          cases created
      | ok _ =>
          by_cases awaited : ∃ protocol, table.Awaits (table.method userMain).returnType protocol
          · obtain ⟨protocol, awaits⟩ := awaited
            rw [create_of_forwarder config (Forwarder.create_of_awaits checked awaits bag)]
              at created
            cases created
            exact .awaiting awaits
          · obtain ⟨forwarder, reported, made, notViable, _⟩ :=
              Forwarder.create_of_not_awaits checked (not_exists.mp awaited) bag
            rw [create_of_forwarder config made] at created
            cases created
            exact .unresolved (by simpa [Forwarder.isViable] using notViable)
  | scriptInitializer scriptClass =>
      by_cases admitted : ∃ initializer, ScriptMain.Admits table scriptClass initializer
      · obtain ⟨initializer, admits⟩ := admitted
        rw [create_of_script config (ScriptMain.create_of_admits admits bag)] at created
        cases created
        exact .script admits
      · obtain ⟨error, refused⟩ := ScriptMain.create_of_not_admits (not_exists.mp admitted) bag
        rw [create_of_script config refused] at created
        cases created
  | submissionFactory submissionClass =>
      by_cases admitted
        : ∃ initializer array,
            SubmissionFactory.Admits table submissionClass initializer array
      · obtain ⟨initializer, array, admits⟩ := admitted
        rw [create_of_submission config (SubmissionFactory.create_of_admits admits config bag)]
          at created
        cases created
        exact .submission admits
      · have refused initializer array
            : ¬ SubmissionFactory.Admits table submissionClass initializer array :=
          fun admits => admitted ⟨initializer, array, admits⟩
        obtain ⟨error, refused⟩ := SubmissionFactory.create_of_not_admits refused config bag
        rw [create_of_submission config refused] at created
        cases created

end

------------------------------------------------------------------------------------------
-- What the body asks for

/-- The body could not be built since something is missing that it needs. -/
def LacksPrerequisite (body : Except EntryPointError (Synthesized Block)) : Prop :=
  ∃ synthesizer prerequisite,
    body = .error (.missingPrerequisite synthesizer prerequisite)

section
variable {table : TypeTable}

/-- The body of a forwarder lacks a prerequisite exactly if the forwarder is not viable: the call
that waits is all that both ask for.
-/
theorem Forwarder.lacksPrerequisite_iff (forwarder : Forwarder)
    : LacksPrerequisite (forwarder.body table) ↔ forwarder.isViable = false := by
  cases call : forwarder.getResultCall with
  | none =>
      have lacks : LacksPrerequisite (forwarder.body table) :=
        ⟨.forwarder, .awaitProtocol, by simp [Forwarder.body, call]⟩
      exact iff_of_true lacks (by simp [isViable, call])
  | some call' =>
      refine iff_of_false ?_ (by simp [isViable, call])
      rintro ⟨synthesizer, prerequisite, failed⟩
      simp only [Forwarder.body, call] at failed
      split at failed <;> cases failed

/-- The body of a script's main lacks a prerequisite exactly if the main is not viable or the class
has no constructor without parameters, which viability does not ask for.
By cases on both, in the order in which the body asks for them.
-/
theorem ScriptMain.lacksPrerequisite_iff {main : ScriptMain}
    : LacksPrerequisite (main.body table)
      ↔ main.isViable = false ∨ constructor? table main.scriptClass = none := by
  cases protocol : main.protocol with
  | none =>
      have lacks : LacksPrerequisite (main.body table) :=
        ⟨.script, .awaitProtocol, by simp [ScriptMain.body, protocol]⟩
      exact iff_of_true lacks (.inl (by simp [isViable, protocol]))
  | some protocol' =>
      cases constructs : constructor? table main.scriptClass with
      | none =>
          have lacks : LacksPrerequisite (main.body table) :=
            ⟨.script, .scriptConstructor, by simp [ScriptMain.body, protocol, constructs]⟩
          exact iff_of_true lacks (.inr rfl)
      | some constructor =>
          refine iff_of_false ?_ (by simp [isViable, protocol])
          rintro ⟨synthesizer, prerequisite, failed⟩
          simp only [ScriptMain.body, protocol, constructs] at failed
          split at failed <;> cases failed

/-- The body of a factory lacks a prerequisite exactly if the factory is not viable or the class has
no constructor with one parameter, which viability does not ask for.
By cases on both, in the order in which the body asks for them.
-/
theorem SubmissionFactory.lacksPrerequisite_iff {factory : SubmissionFactory}
    : LacksPrerequisite (factory.body table)
      ↔ factory.isViable = false ∨ constructor? table factory.submissionClass = none := by
  cases errors : factory.parameterTypeHasErrors with
  | true =>
      have lacks : LacksPrerequisite (factory.body table) :=
        ⟨.submission, .usableObjectArray, by simp [SubmissionFactory.body, errors]⟩
      exact iff_of_true lacks (.inl (by simp [isViable, errors]))
  | false =>
      cases constructs : constructor? table factory.submissionClass with
      | none =>
          have lacks : LacksPrerequisite (factory.body table) :=
            ⟨.submission, .submissionConstructor,
              by simp [SubmissionFactory.body, errors, constructs]⟩
          exact iff_of_true lacks (.inr rfl)
      | some constructor =>
          refine iff_of_false ?_ (by simp [isViable, errors])
          rintro ⟨synthesizer, prerequisite, failed⟩
          simp only [SubmissionFactory.body, errors, constructs, Bool.false_eq_true, if_false]
            at failed
          split at failed
          · cases failed
          · split at failed <;> cases failed

end

/-- The class of a script or a submission has one constructor, and it takes as many arguments as the
entry point passes to it. A forwarder constructs nothing.
-/
def Strategy.Constructs (table : TypeTable) : Strategy → Prop
  | .forwarder _ => True
  | .scriptInitializer scriptClass =>
      ∃ constructor,
        table.scriptConstructor? scriptClass = some constructor
        ∧ (table.method constructor).parameters = []
  | .submissionFactory submissionClass =>
      ∃ constructor,
        table.scriptConstructor? submissionClass = some constructor
        ∧ (table.method constructor).parameters.length = 1

section
variable {table : TypeTable} {config : SynthesisConfig} {strategy : Strategy}
  {entryPoint : EntryPoint} {bag later : DiagnosticBag}

/-- A body lacks what was not resolved on creation or the constructor that it calls, by cases on the
shape.
-/
theorem Created.lacksPrerequisite_iff (created : Created table config strategy entryPoint.shape)
    : LacksPrerequisite (entryPoint.body table)
      ↔ entryPoint.isViable = false ∨ ¬ strategy.Constructs table := by
  obtain ⟨containing, accessibility, shape⟩ := entryPoint
  cases created with
  | @awaiting userMain protocol awaits =>
      simp only [Strategy.Constructs, not_true_eq_false, or_false]
      exact Forwarder.lacksPrerequisite_iff (.awaiting table userMain protocol)
  | @unresolved _ forwarder unresolved =>
      simp only [Strategy.Constructs, not_true_eq_false, or_false]
      exact forwarder.lacksPrerequisite_iff
  | script admits =>
      simp only [Strategy.Constructs, ← ScriptMain.constructor?_eq_some_iff,
        ← Option.isSome_iff_exists, Option.not_isSome_iff_eq_none]
      exact ScriptMain.lacksPrerequisite_iff
  | submission admits =>
      simp only [Strategy.Constructs, ← SubmissionFactory.constructor?_eq_some_iff,
        ← Option.isSome_iff_exists, Option.not_isSome_iff_eq_none]
      exact SubmissionFactory.lacksPrerequisite_iff

/-- The body of a created entry point lacks a prerequisite if the entry point is not viable or its
class cannot be constructed, and only then. So viability means that nothing is missing exactly for
those that can be constructed if they are viable.
-/
theorem EntryPoint.prerequisites_of_create
    (created : EntryPoint.create table strategy config bag = (.ok entryPoint, later))
    : (LacksPrerequisite (entryPoint.body table)
        ↔ entryPoint.isViable = false ∨ ¬ strategy.Constructs table)
      ∧ ((entryPoint.isViable ↔ ¬ LacksPrerequisite (entryPoint.body table))
        ↔ (entryPoint.isViable → strategy.Constructs table)) := by
  have lacks := (EntryPoint.created created).lacksPrerequisite_iff
  refine ⟨lacks, ?_⟩
  rw [lacks]
  cases entryPoint.isViable with
  | true => simp
  | false => simp

end

/-- A script with an initializer that returns the platform's future type, and no constructor. -/
def scriptWithoutConstructor : TypeTable :=
  .performAll .empty
    [
      .definePlatformTasks,
      .defineType "Script" .scriptClass none,
      .defineMethod ⟨13⟩ (.initializer ⟨12⟩)
    ]

/-- What its body lacks follows from what it is: its main is created, so the equivalence applies to
it.
-/
theorem scriptWithoutConstructor_prerequisites
    : ∃ entryPoint later,
        EntryPoint.create scriptWithoutConstructor (.scriptInitializer ⟨13⟩) {} .empty
          = (.ok entryPoint, later)
        ∧ (LacksPrerequisite (entryPoint.body scriptWithoutConstructor)
          ↔ entryPoint.isViable = false
            ∨ ¬ (Strategy.scriptInitializer ⟨13⟩).Constructs scriptWithoutConstructor) := by
  obtain ⟨entryPoint, later, created⟩
      : ∃ entryPoint later,
          EntryPoint.create scriptWithoutConstructor (.scriptInitializer ⟨13⟩) {} .empty
            = (.ok entryPoint, later) :=
    ⟨_, _, rfl⟩
  exact ⟨entryPoint, later, created, (EntryPoint.prerequisites_of_create created).1⟩

/-- It is viable, and its body still lacks the constructor; both by running the creation. -/
theorem scriptWithoutConstructor_viable
    : scriptWithoutConstructor.Reached
      ∧ scriptWithoutConstructor.ChainsEnd
      ∧ ∃ entryPoint later,
          EntryPoint.create scriptWithoutConstructor (.scriptInitializer ⟨13⟩) {} .empty
            = (.ok entryPoint, later)
          ∧ entryPoint.isViable
          ∧ LacksPrerequisite (entryPoint.body scriptWithoutConstructor) := by
  have reached : scriptWithoutConstructor.Reached := ⟨_, by decide, rfl⟩
  have ends : scriptWithoutConstructor.ChainsEnd :=
    TypeTable.chainsEnd_of_bases_before (by decide)
  exact ⟨reached, ends, _, _, rfl, rfl, .script, .scriptConstructor, rfl⟩

end EntryPoints
