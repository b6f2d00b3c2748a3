import EntryPoints.Body.Expression

/-! Statements and the block that makes up a body. -/

namespace EntryPoints

inductive Statement where
  /-- Evaluates an expression and drops its value. -/
  | evaluate (expression : Expression)
  /-- Ends the body, with a value or without. -/
  | giveBack (value : Option Expression)
  deriving Repr, Inhabited

def Statement.isReturn : Statement → Bool
  | evaluate _ => false
  | giveBack _ => true

structure Block where
  locals : List Temporary := []
  statements : List Statement := []
  deriving Repr, Inhabited

namespace Block

def endsWithReturn (block : Block) : Bool :=
  match block.statements.getLast? with
  | some statement => statement.isReturn
  | none => false

def returnCount (block : Block) : Nat :=
  block.statements.countP Statement.isReturn

end Block

/-- Something that the compiler made rather than found in the source. -/
structure Synthesized (α : Type) where
  node : α
  deriving Repr, Inhabited

/-- Whatever is handed out as synthesized was made by the compiler. -/
def Synthesized.wasCompilerGenerated {α : Type} (_ : Synthesized α) : Bool :=
  true

end EntryPoints
