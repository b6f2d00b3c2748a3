import EntryPoints.Diagnostic.Basic

/-! The diagnostics reported so far, in the order of their reporting. -/

namespace EntryPoints

structure DiagnosticBag where
  records : Array Diagnostic := #[]
  deriving DecidableEq, Repr, Inhabited

namespace DiagnosticBag

def empty : DiagnosticBag := {}

def size (bag : DiagnosticBag) : Nat :=
  bag.records.size

def isEmpty (bag : DiagnosticBag) : Bool :=
  bag.records.isEmpty

def toList (bag : DiagnosticBag) : List Diagnostic :=
  bag.records.toList

/-- A bag only ever grows at its end. -/
def push (bag : DiagnosticBag) (diagnostic : Diagnostic) : DiagnosticBag :=
  { records := bag.records.push diagnostic }

/-- Reports an error. -/
def add (bag : DiagnosticBag) (code : DiagnosticCode) (location : Location)
    (arguments : List String)
    : DiagnosticBag :=
  bag.push { code, location, arguments }

def hasErrors (bag : DiagnosticBag) : Bool :=
  bag.records.any Diagnostic.isError

@[simp]
theorem toList_empty : empty.toList = [] :=
  rfl

@[simp]
theorem toList_push (bag : DiagnosticBag) (diagnostic : Diagnostic)
    : (bag.push diagnostic).toList = bag.toList ++ [diagnostic] := by
  simp [toList, push]

end DiagnosticBag

end EntryPoints
