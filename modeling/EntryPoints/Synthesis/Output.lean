import EntryPoints.Body.Printer
import EntryPoints.Synthesis.MethodView

/-! Synthesis as a whole: from the kind of a compilation to an entry point with its body. -/

namespace EntryPoints

/-- The signature as a declaration would write it, without the braces that follow. -/
def MethodView.signature (table : TypeTable) (method : MethodView) : String :=
  let modifiers :=
    method.accessibility.keyword ++ (if method.isStatic then " static" else "")
      ++ (if method.isAsync then " async" else "")
  let parameters :=
    method.parameters.map
      (fun parameter => table.displayName parameter.type ++ " " ++ parameter.name)
  modifiers ++ " " ++ table.displayName method.returnType ++ " " ++ method.name ++ "("
    ++ commaSeparated parameters ++ ")"

/-- An entry point together with its body. -/
structure EntryPointOutput where
  entryPoint : EntryPoint
  body : Synthesized Block
  deriving Repr, Inhabited

/-- The signature on a line of its own, then the block. -/
def EntryPointOutput.render (table : TypeTable) (output : EntryPointOutput) : String :=
  (output.body.node.write table
    (BodyWriter.line {} (output.entryPoint.view.signature table))).text

namespace TypeTable

/-- Selects a strategy, resolves what it needs and builds the body. There is no output if no entry
point is needed, or if one is and the user's program does not allow it. -/
def synthesize (table : TypeTable) (kind : CompilationKind) (candidate : Option MethodId)
    (config : SynthesisConfig) (bag : DiagnosticBag)
    : Except EntryPointError (Option EntryPointOutput) × DiagnosticBag :=
  match table.selectStrategy kind candidate with
  | none => (.ok none, bag)
  | some strategy =>
      match EntryPoint.create table strategy config bag with
      | (.error error, bag) => (.error error, bag)
      | (.ok entryPoint, bag) =>
          if entryPoint.isViable then
            (match entryPoint.body table with
              | .error error => .error error
              | .ok body => .ok (some { entryPoint, body }), bag)
          else
            (.ok none, bag)

end TypeTable

end EntryPoints
