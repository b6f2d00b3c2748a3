import EntryPoints.TypeTable.Lookup

/-! Which entry point a compilation needs. -/

namespace EntryPoints

inductive CompilationKind where
  /-- A program, in which the user may have declared a main. -/
  | regular
  /-- A script, compiled into one class. -/
  | script (scriptClass : TypeId)
  /-- One interactive submission, compiled into one class. -/
  | submission (submissionClass : TypeId)
  deriving DecidableEq, Repr, Inhabited

inductive Strategy where
  /-- A synchronous main forwards to the user's async main. -/
  | forwarder (userMain : MethodId)
  /-- A main runs the initializer of a script class. -/
  | scriptInitializer (scriptClass : TypeId)
  /-- A factory constructs a submission and runs its initializer. -/
  | submissionFactory (submissionClass : TypeId)
  deriving DecidableEq, Repr, Inhabited

def Strategy.name : Strategy → String
  | forwarder _ => "forwarder"
  | scriptInitializer _ => "script-initializer"
  | submissionFactory _ => "submission-factory"

namespace TypeTable

/-- A main needs a forwarder if it is declared async or returns a platform future. -/
def isAsyncCandidate (table : TypeTable) (method : MethodId) : Bool :=
  (table.method method).isAsync
    || (!(table.symbol table.wellKnownTask).isError
        && table.isDerivedFrom (table.method method).returnType table.wellKnownTask)

/-- A regular compilation needs no entry point of its own unless its main is async. -/
def selectStrategy (table : TypeTable) (kind : CompilationKind) (candidate : Option MethodId)
    : Option Strategy :=
  match kind with
  | .submission submissionClass => some (.submissionFactory submissionClass)
  | .script scriptClass => some (.scriptInitializer scriptClass)
  | .regular => (candidate.filter table.isAsyncCandidate).map Strategy.forwarder

end TypeTable

end EntryPoints
