/-! A writer of indented lines, and the programs of steps that drive it. -/

namespace EntryPoints

structure BodyWriter where
  text : String := ""
  level : Nat := 0
  deriving DecidableEq, Repr, Inhabited

namespace BodyWriter

def indentation : String :=
  "    "

/-- A line as it is written at a level. -/
def indented (level : Nat) (line : String) : String :=
  String.join (List.replicate level indentation) ++ line ++ "\n"

def line (writer : BodyWriter) (line : String) : BodyWriter :=
  { writer with text := writer.text ++ indented writer.level line }

def indent (writer : BodyWriter) : BodyWriter :=
  { writer with level := writer.level + 1 }

/-- At the outermost level there is nothing to undo. -/
def dedent (writer : BodyWriter) : BodyWriter :=
  { writer with level := writer.level - 1 }

/-- Braces on lines of their own around contents that are one level deeper. -/
def braced (writer : BodyWriter) (contents : BodyWriter → BodyWriter) : BodyWriter :=
  (contents (writer.line "\x7b").indent).dedent.line "\x7d"

def lines (writer : BodyWriter) (lines : List String) : BodyWriter :=
  lines.foldl line writer

inductive Step where
  | line (line : String)
  | indent
  | dedent
  | braced (steps : List Step)
  deriving Repr, Inhabited

mutual
/-- Lets one step drive the writer. -/
def perform (writer : BodyWriter) : Step → BodyWriter
  | .line line => writer.line line
  | .indent => writer.indent
  | .dedent => writer.dedent
  | .braced steps => writer.braced (fun inner => inner.performAll steps)

/-- Lets the steps drive the writer in order. -/
def performAll (writer : BodyWriter) : List Step → BodyWriter
  | [] => writer
  | step :: rest => (writer.perform step).performAll rest
end

end BodyWriter

end EntryPoints
