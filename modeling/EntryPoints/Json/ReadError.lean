import EntryPoints.Json.Reading

/-! Why a text is not what its reader asks for. -/

namespace EntryPoints.Json

/-- What is wrong with data that is JSON. -/
inductive DataError where
  | missingField (name : String)
  | duplicateField (name : String)
  | unknownField (name : String) (expected : List String)
  | unknownVariant (name : String) (expected : List String)
  | invalidType
  | invalidValue
  | invalidLength
  deriving DecidableEq, Repr, Inhabited

inductive ReadError where
  | text (fault : Fault)
  | data (error : DataError)
  deriving DecidableEq, Repr, Inhabited

def quoted (name : String) : String :=
  "`" ++ name ++ "`"

/-- The names that would have been right. -/
def expectation : List String → String
  | [] => "there are no names"
  | [only] => "expected " ++ quoted only
  | [first, second] => "expected " ++ quoted first ++ " or " ++ quoted second
  | names => "expected one of " ++ ", ".intercalate (names.map quoted)

def DataError.message : DataError → String
  | missingField name => "missing field " ++ quoted name
  | duplicateField name => "duplicate field " ++ quoted name
  | unknownField name expected => "unknown field " ++ quoted name ++ ", " ++ expectation expected
  | unknownVariant name expected =>
      "unknown variant " ++ quoted name ++ ", " ++ expectation expected
  | invalidType => "invalid type"
  | invalidValue => "invalid value"
  | invalidLength => "invalid length"

def Fault.message : Fault → String
  | endOfText => "the text ends too soon"
  | malformed => "the text is malformed"

def ReadError.message : ReadError → String
  | text fault => fault.message
  | data error => error.message

end EntryPoints.Json
