import EntryPoints.Text.Placeholder
import EntryPoints.Vocabulary.Item

/-! Codes of the diagnostics, with the templates of their messages. -/

namespace EntryPoints

inductive DiagnosticCode where
  /-- A member that the compiler needs is absent, ambiguous or of the wrong shape. -/
  | missingPredefinedMember
  /-- A platform type is not there. -/
  | predefinedTypeNotFound
  /-- A type is unusable wherever it is mentioned. -/
  | bogusType
  deriving DecidableEq, Repr, Inhabited

namespace DiagnosticCode

/-- What the registry records about a code. -/
structure Entry where
  item : Vocabulary.Item DiagnosticCode
  number : String
  template : String
  arity : Nat
  deriving DecidableEq, Repr

def all : List DiagnosticCode :=
  [missingPredefinedMember, predefinedTypeNotFound, bogusType]

def info : DiagnosticCode → Entry
  | missingPredefinedMember =>
      { item :=
          { id := missingPredefinedMember, canonical := "missing_predefined_member",
            description :=
              "A member the compiler needs to synthesize code is missing or ambiguous." },
        number := "E0656",
        template := "Missing compiler required member '\x7b0\x7d.\x7b1\x7d'",
        arity := 2 }
  | predefinedTypeNotFound =>
      { item :=
          { id := predefinedTypeNotFound, canonical := "predefined_type_not_found",
            description := "A platform type the compiler needs is not defined or imported." },
        number := "E0518",
        template := "Predefined type '\x7b0\x7d' is not defined or imported",
        arity := 1 }
  | bogusType =>
      { item :=
          { id := bogusType, canonical := "bogus_type",
            description := "A referenced type is not supported by the language." },
        number := "E0648",
        template := "'\x7b0\x7d' is a type not supported by the language",
        arity := 1 }

def number (code : DiagnosticCode) : String :=
  code.info.number

def ofNumber? (number : String) : Option DiagnosticCode :=
  all.find? (fun code => code.number == number)

/-- The message of a code about its arguments. -/
def message (code : DiagnosticCode) (arguments : List String) : String :=
  Text.fill code.info.template arguments

end DiagnosticCode

end EntryPoints
