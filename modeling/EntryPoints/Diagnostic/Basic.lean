import EntryPoints.Vocabulary.DiagnosticCode

/-! Diagnostics: what is wrong, how bad it is and where. -/

namespace EntryPoints

/-- Where a diagnostic or a declaration stands in the source. -/
inductive Location where
  /-- Generated code has no place in the source. -/
  | nowhere
  /-- The bytes from `start` to `stop`. -/
  | span (start stop : Nat)
  deriving DecidableEq, Repr, Inhabited

/-- Severities in ascending order. -/
inductive Severity where
  | hidden
  | info
  | warning
  | error
  deriving DecidableEq, Repr, Inhabited, Ord

def Severity.name : Severity → String
  | hidden => "hidden"
  | info => "info"
  | warning => "warning"
  | error => "error"

/-- A diagnostic without a place; a type carries one to be reported wherever it is used. -/
structure DiagnosticInfo where
  code : DiagnosticCode
  arguments : List String
  deriving DecidableEq, Repr, Inhabited

structure Diagnostic where
  code : DiagnosticCode
  severity : Severity := .error
  location : Location
  arguments : List String
  deriving DecidableEq, Repr, Inhabited

/-- The diagnostic reported at a place, as an error. -/
def DiagnosticInfo.placed (info : DiagnosticInfo) (location : Location) : Diagnostic :=
  { code := info.code, location, arguments := info.arguments }

namespace Diagnostic

def message (diagnostic : Diagnostic) : String :=
  diagnostic.code.message diagnostic.arguments

def isError (diagnostic : Diagnostic) : Bool :=
  diagnostic.severity == .error

/-- One line for the user: severity, code, message and, if there is one, the place. -/
def text (diagnostic : Diagnostic) : String :=
  let line :=
    diagnostic.severity.name ++ " " ++ diagnostic.code.number ++ ": " ++ diagnostic.message
  match diagnostic.location with
  | .nowhere => line
  | .span start stop => line ++ " (at " ++ toString start ++ ".." ++ toString stop ++ ")"

end Diagnostic

end EntryPoints
