import EntryPoints.Body.Block
import EntryPoints.Synthesis.Await
import EntryPoints.Synthesis.Error

/-! The main of a script: it constructs the script class and runs its initializer to the end. -/

namespace EntryPoints

structure ScriptMain where
  scriptClass : TypeId
  initializer : MethodId
  /-- The protocol of the platform's future type; none if that is missing or malformed. -/
  protocol : Option AwaitProtocol
  returnType : TypeId
  deriving DecidableEq, Repr, Inhabited

namespace ScriptMain

/-- The main of a script class. The initializer has to return a platform future, if there are
such; the protocol is that of the platform's future type, which its futures inherit. -/
def create (table : TypeTable) (scriptClass : TypeId) (bag : DiagnosticBag)
    : Except EntryPointError ScriptMain × DiagnosticBag :=
  if (table.symbol scriptClass).namedKind? ≠ some .scriptClass then
    (.error
      (.internalConsistency .script (.notScriptClass (table.displayName scriptClass))), bag)
  else
    match table.scriptInitializer? scriptClass with
    | none => (.error (.missingPrerequisite .script .scriptInitializer), bag)
    | some initializer =>
        let task := table.wellKnownTask
        let returned := (table.method initializer).returnType
        if !(table.symbol task).isError && !table.isDerivedFrom returned task then
          (.error
            (.internalConsistency .script
              (.scriptInitializerReturns (table.displayName returned) (table.displayName task))),
            bag)
        else
          let (_, bag) := table.reportUseSite task bag
          let (protocol, bag) := table.resolveAwait task bag
          (.ok { scriptClass, initializer, protocol, returnType := SpecialType.void.id }, bag)

def isViable (main : ScriptMain) : Bool :=
  main.protocol.isSome

/-- The script's constructor, if there is one and it takes no parameters. -/
def constructor? (table : TypeTable) (scriptClass : TypeId) : Option MethodId :=
  (table.scriptConstructor? scriptClass).filter
    (fun id => (table.method id).parameters.isEmpty)

/-- The body constructs the script, runs its initializer, waits for it and returns. -/
def body (table : TypeTable) (main : ScriptMain)
    : Except EntryPointError (Synthesized Block) :=
  match main.protocol with
  | none => .error (.missingPrerequisite .script .awaitProtocol)
  | some protocol =>
      match constructor? table main.scriptClass with
      | none => .error (.missingPrerequisite .script .scriptConstructor)
      | some constructor =>
          let initializer := table.method main.initializer
          if !initializer.parameters.isEmpty then
            .error (.internalConsistency .script .scriptInitializerParameters)
          else
            let script : Temporary := ⟨0, main.scriptClass⟩
            let construct : Expression :=
              .assignment (.temporary script) (.creation constructor [] main.scriptClass)
            let run : Expression :=
              (Expression.temporary script).parameterlessCall main.initializer
                initializer.returnType
            .ok ⟨
              { locals := [script],
                statements :=
                  [.evaluate construct, .evaluate (protocol.apply run),
                    .giveBack none] }⟩

end ScriptMain

end EntryPoints
