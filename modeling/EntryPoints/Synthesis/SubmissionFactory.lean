import EntryPoints.Body.Block
import EntryPoints.Synthesis.Await
import EntryPoints.Synthesis.Config
import EntryPoints.Synthesis.Error

/-! The factory of a submission: it constructs the submission and returns what its initializer
returns, without waiting.
-/

namespace EntryPoints

structure SubmissionFactory where
  submissionClass : TypeId
  initializer : MethodId
  /-- The one parameter, an array of the earlier submissions. -/
  parameter : Parameter
  returnType : TypeId
  /-- The type of the parameter carried a diagnostic. -/
  parameterTypeHasErrors : Bool
  deriving DecidableEq, Repr, Inhabited

namespace SubmissionFactory

/-- The factory of a submission class, whose initializer has to return something. -/
def create (table : TypeTable) (submissionClass : TypeId) (config : SynthesisConfig)
    (bag : DiagnosticBag)
    : Except EntryPointError SubmissionFactory × DiagnosticBag :=
  if (table.symbol submissionClass).namedKind? ≠ some .submissionClass then
    (.error
      (.internalConsistency .submission
        (.notSubmissionClass (table.displayName submissionClass))), bag)
  else
    match table.scriptInitializer? submissionClass with
    | none => (.error (.missingPrerequisite .submission .submissionInitializer), bag)
    | some initializer =>
        let returnType := (table.method initializer).returnType
        if (table.symbol returnType).isVoid then
          (.error (.internalConsistency .submission .submissionInitializerReturnsVoid), bag)
        else
          match table.arrayType? SpecialType.object.id with
          | none => (.error (.missingPrerequisite .submission .objectArray), bag)
          | some array =>
              let (parameterTypeHasErrors, bag) := table.reportUseSite array bag
              let parameter : Parameter := ⟨config.submissionParameter, array, 0⟩
              (.ok
                { submissionClass, initializer, parameter, returnType, parameterTypeHasErrors },
                bag)

def isViable (factory : SubmissionFactory) : Bool :=
  !factory.parameterTypeHasErrors

/-- The submission's constructor, if there is one and it takes one parameter. -/
def constructor? (table : TypeTable) (submissionClass : TypeId) : Option MethodId :=
  (table.scriptConstructor? submissionClass).filter
    (fun id => (table.method id).parameters.length == 1)

/-- The body constructs the submission from the earlier ones and returns what its initializer
returns. -/
def body (table : TypeTable) (factory : SubmissionFactory)
    : Except EntryPointError (Synthesized Block) :=
  if factory.parameterTypeHasErrors then
    .error (.missingPrerequisite .submission .usableObjectArray)
  else
    match constructor? table factory.submissionClass with
    | none => .error (.missingPrerequisite .submission .submissionConstructor)
    | some constructor =>
        let initializer := table.method factory.initializer
        if !initializer.parameters.isEmpty then
          .error (.internalConsistency .submission .submissionInitializerParameters)
        else if initializer.returnType ≠ factory.returnType then
          .error
            (.internalConsistency .submission
              (.factoryReturns (table.displayName initializer.returnType)
                (table.displayName factory.returnType)))
        else
          let submission : Temporary := ⟨0, factory.submissionClass⟩
          let construct : Expression :=
            .assignment (.temporary submission)
              (.creation constructor [.parameter factory.parameter] factory.submissionClass)
          let run : Expression :=
            (Expression.temporary submission).parameterlessCall factory.initializer
              initializer.returnType
          .ok ⟨
            { locals := [submission],
              statements := [.evaluate construct, .giveBack (some run)] }⟩

end SubmissionFactory

end EntryPoints
