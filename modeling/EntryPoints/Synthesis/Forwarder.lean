import EntryPoints.Body.Block
import EntryPoints.Synthesis.Await
import EntryPoints.Synthesis.Error

/-! The forwarder: a synchronous main that waits for the user's async main. -/

namespace EntryPoints

structure Forwarder where
  userMain : MethodId
  /-- The parameters of the user's main, which the forwarder takes over. -/
  parameters : List Parameter
  /-- The call of the user's main with those parameters. -/
  invocation : Expression
  /-- The invocation, waited for; none if what it returns cannot be awaited. -/
  getResultCall : Option Expression
  returnType : TypeId
  deriving Repr, Inhabited

namespace Forwarder

/-- A main that can be forwarded to is static and takes nothing or one `string[]`. -/
def check (table : TypeTable) (userMain : MethodId) : Except Inconsistency Unit :=
  let main := table.method userMain
  match main.parameters with
  | [] => if main.isStatic then .ok () else .error .mainNotStatic
  | [parameter] =>
      if table.arrayType? SpecialType.string.id ≠ some parameter.type then
        .error (.mainParameterType parameter.name (table.displayName parameter.type))
      else if main.isStatic then
        .ok ()
      else
        .error .mainNotStatic
  | parameters => .error (.mainParameterCount parameters.length)

/-- The forwarder to a main, with the await protocol of what the main returns. -/
def create (table : TypeTable) (userMain : MethodId) (bag : DiagnosticBag)
    : Except EntryPointError Forwarder × DiagnosticBag :=
  match check table userMain with
  | .error inconsistency => (.error (.internalConsistency .forwarder inconsistency), bag)
  | .ok () =>
      let main := table.method userMain
      let invocation : Expression :=
        .staticCall userMain (main.parameters.map Expression.parameter) main.returnType
      let (protocol, bag) := table.resolveAwait main.returnType bag
      let getResultCall := protocol.map (fun protocol => protocol.apply invocation)
      let returnType :=
        match getResultCall with
        | some call => call.type
        | none => TypeTable.errorType
      (.ok { userMain, parameters := main.parameters, invocation, getResultCall, returnType }, bag)

def isViable (forwarder : Forwarder) : Bool :=
  forwarder.getResultCall.isSome

/-- The body waits for the main and passes on its result, if it has one. -/
def body (table : TypeTable) (forwarder : Forwarder)
    : Except EntryPointError (Synthesized Block) :=
  match forwarder.getResultCall with
  | none => .error (.missingPrerequisite .forwarder .awaitProtocol)
  | some call =>
      if (table.symbol call.type).isVoid then
        .ok ⟨{ statements := [.evaluate call, .giveBack none] }⟩
      else
        .ok ⟨{ statements := [.giveBack (some call)] }⟩

end Forwarder

end EntryPoints
