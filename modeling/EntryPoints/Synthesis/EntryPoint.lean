import EntryPoints.Synthesis.Forwarder
import EntryPoints.Synthesis.ScriptMain
import EntryPoints.Synthesis.Strategy
import EntryPoints.Synthesis.SubmissionFactory

/-! Entry points of all three shapes, from their creation to their bodies. -/

namespace EntryPoints

/-- The closed list of shapes that an entry point can have. -/
inductive EntryPointShape where
  | forwarder (forwarder : Forwarder)
  | script (main : ScriptMain)
  | submission (factory : SubmissionFactory)
  deriving Repr, Inhabited

structure EntryPoint where
  containingType : TypeId
  accessibility : Accessibility
  shape : EntryPointShape
  deriving Repr, Inhabited

namespace EntryPoint

/-- Resolves all that a strategy needs. Problems of the user's program are reported in the bag and
leave an entry point that is not viable. -/
def create (table : TypeTable) (strategy : Strategy) (config : SynthesisConfig)
    (bag : DiagnosticBag)
    : Except EntryPointError EntryPoint × DiagnosticBag :=
  let shaped (containingType : TypeId) (shape : EntryPointShape) : EntryPoint :=
    { containingType, accessibility := config.accessibility, shape }
  match strategy with
  | .forwarder userMain =>
      let (forwarder, bag) := Forwarder.create table userMain bag
      (forwarder.map
        (fun forwarder =>
          shaped (table.method userMain).containingType (.forwarder forwarder)), bag)
  | .scriptInitializer scriptClass =>
      let (main, bag) := ScriptMain.create table scriptClass bag
      (main.map (fun main => shaped scriptClass (.script main)), bag)
  | .submissionFactory submissionClass =>
      let (factory, bag) := SubmissionFactory.create table submissionClass config bag
      (factory.map (fun factory => shaped submissionClass (.submission factory)), bag)

/-- Everything that was to be resolved has been. -/
def isViable (entryPoint : EntryPoint) : Bool :=
  match entryPoint.shape with
  | .forwarder forwarder => forwarder.isViable
  | .script main => main.isViable
  | .submission factory => factory.isViable

def body (table : TypeTable) (entryPoint : EntryPoint)
    : Except EntryPointError (Synthesized Block) :=
  match entryPoint.shape with
  | .forwarder forwarder => forwarder.body table
  | .script main => main.body table
  | .submission factory => factory.body table

/-- Entry points have reserved names, which user code cannot declare. -/
def name (entryPoint : EntryPoint) : String :=
  match entryPoint.shape with
  | .submission _ => SyntheticName.factory.spelling
  | .forwarder _ | .script _ => SyntheticName.main.spelling

def parameters (entryPoint : EntryPoint) : List Parameter :=
  match entryPoint.shape with
  | .forwarder forwarder => forwarder.parameters
  | .script _ => []
  | .submission factory => [factory.parameter]

def returnType (entryPoint : EntryPoint) : TypeId :=
  match entryPoint.shape with
  | .forwarder forwarder => forwarder.returnType
  | .script main => main.returnType
  | .submission factory => factory.returnType

end EntryPoint

end EntryPoints
