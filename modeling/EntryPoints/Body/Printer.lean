import EntryPoints.Body.Block
import EntryPoints.Body.Writer
import EntryPoints.TypeTable.Basic

/-! Bodies as text for people to read. -/

namespace EntryPoints

/-- Locals have no names of their own and are printed by their slots. -/
def Temporary.name (temporary : Temporary) : String :=
  "temp" ++ toString temporary.slot

def commaSeparated (parts : List String) : String :=
  ", ".intercalate parts

mutual
/-- A call without a receiver names the type that contains the method. -/
def Expression.render (table : TypeTable) : Expression → String
  | .parameter referenced => referenced.name
  | .temporary referenced => referenced.name
  | .staticCall method arguments _ =>
      table.displayName (table.method method).containingType ++ "."
        ++ (table.method method).name ++ "("
        ++ commaSeparated (Expression.renderAll table arguments) ++ ")"
  | .instanceCall receiver method arguments _ =>
      receiver.render table ++ "." ++ (table.method method).name ++ "("
        ++ commaSeparated (Expression.renderAll table arguments) ++ ")"
  | .creation _ arguments type =>
      "new " ++ table.displayName type ++ "("
        ++ commaSeparated (Expression.renderAll table arguments) ++ ")"
  | .assignment target value => target.render table ++ " = " ++ value.render table

def Expression.renderAll (table : TypeTable) : List Expression → List String
  | [] => []
  | expression :: rest => expression.render table :: Expression.renderAll table rest
end

def Statement.render (table : TypeTable) : Statement → String
  | .evaluate expression => expression.render table ++ ";"
  | .giveBack none => "return;"
  | .giveBack (some value) => "return " ++ value.render table ++ ";"

/-- The declaration of a local. -/
def Temporary.render (table : TypeTable) (temporary : Temporary) : String :=
  table.displayName temporary.type ++ " " ++ temporary.name ++ ";"

namespace Block

/-- The lines between the braces of a block: its locals, then its statements. -/
def lines (table : TypeTable) (block : Block) : List String :=
  block.locals.map (Temporary.render table) ++ block.statements.map (Statement.render table)

def write (table : TypeTable) (block : Block) (writer : BodyWriter) : BodyWriter :=
  writer.braced (fun inner => inner.lines (block.lines table))

/-- The block with its braces. -/
def render (table : TypeTable) (block : Block) : String :=
  (block.write table {}).text

end Block

end EntryPoints
