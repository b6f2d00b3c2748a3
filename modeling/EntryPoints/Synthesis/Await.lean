import EntryPoints.Body.Expression
import EntryPoints.Diagnostic.Bag
import EntryPoints.TypeTable.Lookup

/-! The awaitable protocol: `GetAwaiter` on a future, then `GetResult` on its awaiter. -/

namespace EntryPoints

/-- The two methods of the protocol, with what they return. -/
structure AwaitProtocol where
  getAwaiter : MethodId
  getResult : MethodId
  awaiterType : TypeId
  resultType : TypeId
  deriving DecidableEq, Repr, Inhabited

/-- Waits for an awaited expression and takes its result. -/
def AwaitProtocol.apply (protocol : AwaitProtocol) (awaited : Expression) : Expression :=
  (awaited.parameterlessCall protocol.getAwaiter protocol.awaiterType).parameterlessCall
    protocol.getResult protocol.resultType

namespace TypeTable

/-- The required member, if the nearest type of the base chain that declares the name declares it
once, as a method without parameters. -/
def requiredMethod? (table : TypeTable) (type : TypeId) (member : WellKnownMember)
    : Option MethodId :=
  match table.lookupInHierarchy type member.spelling with
  | some (_, [.method id]) => if (table.method id).parameters.isEmpty then some id else none
  | _ => none

/-- The complaint that a type lacks a required member. -/
def missingMember (table : TypeTable) (type : TypeId) (member : WellKnownMember)
    : DiagnosticInfo where
  code := .missingPredefinedMember
  arguments := [table.displayName type, member.spelling]

/-- Finds the required member or reports that it is missing. -/
def requireMethod (table : TypeTable) (type : TypeId) (member : WellKnownMember)
    (location : Location) (bag : DiagnosticBag)
    : Option MethodId × DiagnosticBag :=
  match table.requiredMethod? type member with
  | some id => (some id, bag)
  | none => (none, bag.push ((table.missingMember type member).placed location))

/-- Resolves the protocol on a type. The first missing member is reported and ends the search; an
error type ends it in silence, since its problem was reported where it arose. -/
def resolveAwait (table : TypeTable) (type : TypeId) (bag : DiagnosticBag)
    : Option AwaitProtocol × DiagnosticBag :=
  if (table.symbol type).isError then
    (none, bag)
  else
    match table.requireMethod type .getAwaiter .nowhere bag with
    | (none, bag) => (none, bag)
    | (some getAwaiter, bag) =>
        let awaiterType := (table.method getAwaiter).returnType
        match table.requireMethod awaiterType .getResult .nowhere bag with
        | (none, bag) => (none, bag)
        | (some getResult, bag) =>
            let resultType := (table.method getResult).returnType
            (some { getAwaiter, getResult, awaiterType, resultType }, bag)

/-- Reports the diagnostic that a type carries, if any, and says whether there was one. -/
def reportUseSite (table : TypeTable) (type : TypeId) (bag : DiagnosticBag)
    : Bool × DiagnosticBag :=
  match table.useSite? type with
  | some info => (true, bag.push (info.placed .nowhere))
  | none => (false, bag)

end TypeTable

end EntryPoints
