import EntryPoints.Json.Record

/-! Data read from whole values, as far as JSON determines it. -/

namespace EntryPoints.Json.Value

def asString : Value → Except DataError String
  | .scalar (.string value) => .ok value
  | _ => .error .invalidType

def asBool : Value → Except DataError Bool
  | .scalar (.bool value) => .ok value
  | _ => .error .invalidType

/-- A null stands for an absent value. -/
def asOptional {α : Type} (read : Value → Except DataError α)
    : Value → Except DataError (Option α)
  | .scalar .null => .ok none
  | value => (read value).map some

/-- Reads the items of an array in order. -/
def asList {α : Type} (read : Value → Except DataError α) : Value → Except DataError (List α)
  | .array items => items.mapM read
  | _ => .error .invalidType

def asNatural : Value → Except DataError Nat
  | .scalar (.number (.natural value)) => .ok value
  | .scalar (.number (.negative _)) => .error .invalidValue
  | _ => .error .invalidType

/-- An array of two items; surplus ones are found after the first two have been read. -/
def asPair {α : Type} (read : Value → Except DataError α) : Value → Except DataError (α × α)
  | .array [] => .error .invalidLength
  | .array [first] =>
      match read first with
      | .error error => .error error
      | .ok _ => .error .invalidLength
  | .array (first :: second :: rest) =>
      match read first with
      | .error error => .error error
      | .ok first =>
          match read second with
          | .error error => .error error
          | .ok second => if rest.isEmpty then .ok (first, second) else .error .invalidLength
  | _ => .error .invalidType

def isNull : Value → Bool
  | .scalar .null => true
  | _ => false

/-- Nothing is written: a null, or an object without fields. -/
def isUnit : Value → Bool
  | .scalar .null => true
  | .object [] => true
  | _ => false

/-- A variant by its name, written as a string or as the one field of an object. The field holds
no data, which `isNothing` tells. -/
def asVariant {α : Type} (isNothing : Value → Bool) (variants : List (String × α))
    : Value → Except DataError α
  | .scalar (.string name) => variantNamed variants name
  | .object [(key, value)] =>
      match variantNamed variants key with
      | .error error => .error error
      | .ok variant => if isNothing value then .ok variant else .error .invalidType
  | .object _ => .error .invalidValue
  | _ => .error .invalidType

/-- A record in either of its forms. -/
def asRecord {φ : Type} (reader : RecordReader Value DataError φ)
    : Value → Except DataError (RecordForm × List φ)
  | .object fields => (reader.named [] fields).map (fun fields => (.named, fields))
  | .array items =>
      match reader.positional reader.names items with
      | .error error => .error error
      | .ok (fields, []) => .ok (.positional, fields)
      | .ok (_, _ :: _) => .error .invalidLength
  | .scalar _ => .error .invalidType

end EntryPoints.Json.Value
