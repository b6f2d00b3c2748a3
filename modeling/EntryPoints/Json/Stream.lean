import EntryPoints.Json.Record

/-! Data read from a text in the order of the text, so that the first problem in it is reported. -/

namespace EntryPoints.Json

/-- What is wrong with a value in place of the name of a variant. Only a string or an object is
looked into; whatever else begins there is malformed. -/
def Flaw.asNameFault : Flaw → Fault
  | .scalar _ => .malformed
  | flaw => flaw.fault

namespace Reading

/-- A value of another type than the one that is asked for. -/
def mismatch : Reading → ReadError
  | .flaw found => .text found.fault
  | _ => .data .invalidType

def asString : Reading → Except ReadError String
  | .scalar (.string value) => .ok value
  | reading => .error reading.mismatch

def asBool : Reading → Except ReadError Bool
  | .scalar (.bool value) => .ok value
  | reading => .error reading.mismatch

def asNull : Reading → Except ReadError Unit
  | .scalar .null => .ok ()
  | reading => .error reading.mismatch

/-- A null stands for an absent value. -/
def asOptional {α : Type} (read : Reading → Except ReadError α)
    : Reading → Except ReadError (Option α)
  | .scalar .null => .ok none
  | reading => (read reading).map some

/-- The fault at the end of a container counts after its parts. -/
def close {α : Type} (ending : Ending) (result : α) : Except ReadError α :=
  match ending.fault? with
  | none => .ok result
  | some fault => .error (.text fault)

/-- Reads the items of an array in order. -/
def asList {α : Type} (read : Reading → Except ReadError α)
    : Reading → Except ReadError (List α)
  | .array items ending =>
      match items.mapM read with
      | .error error => .error error
      | .ok values => close ending values
  | reading => .error reading.mismatch

/-- The whole value, uninterpreted. -/
def asValue (reading : Reading) : Except ReadError Value :=
  match reading.value with
  | .error fault => .error (.text fault)
  | .ok value => .ok value

def asVariantName {α : Type} (variants : List (String × α)) (name : String)
    : Except ReadError α :=
  (variantNamed variants name).mapError ReadError.data

/-- A variant by its name, written as a string or as the key of a null. -/
def asVariant {α : Type} (variants : List (String × α)) : Reading → Except ReadError α
  | .scalar (.string name) => asVariantName variants name
  | .object [] (.noKey found) => .error (.text found.fault)
  | .object ((key, reading) :: rest) ending =>
      match asVariantName variants key with
      | .error error => .error error
      | .ok variant =>
          match reading.asNull with
          | .error error => .error error
          | .ok () =>
              match rest, ending with
              | [], .closed => .ok variant
              | [], .unclosed => .error (.text .endOfText)
              | _, _ => .error (.text .malformed)
  | .flaw found => .error (.text found.asNameFault)
  | _ => .error (.text .malformed)

/-- A record in either of its forms. In an array nothing may follow the last field. -/
def asRecord {φ : Type} (reader : RecordReader Reading ReadError φ)
    : Reading → Except ReadError (RecordForm × List φ)
  | .object fields ending =>
      match reader.named [] fields with
      | .error error => .error error
      | .ok fields => close ending (.named, fields)
  | .array items ending =>
      match reader.positional reader.names items with
      | .error error => .error error
      | .ok (fields, []) => close ending (.positional, fields)
      | .ok (_, _ :: _) => .error (.text .malformed)
  | reading => .error reading.mismatch

/-- The fields of an object apart from its tag, which names one of the variants and is looked at
as soon as it is read. -/
def tagged {α : Type} (tag : String) (variants : List (String × α)) (found : Option α)
    : List (String × Reading) → Except ReadError (Option α × List (String × Value))
  | [] => .ok (found, [])
  | (key, reading) :: rest =>
      if key = tag then
        if found.isSome then
          .error (.data (.duplicateField tag))
        else
          match reading.asString with
          | .error error => .error error
          | .ok name =>
              match asVariantName variants name with
              | .error error => .error error
              | .ok variant => tagged tag variants (some variant) rest
      else
        match reading.asValue with
        | .error error => .error error
        | .ok value =>
            match tagged tag variants found rest with
            | .error error => .error error
            | .ok (variant, fields) => .ok (variant, (key, value) :: fields)

/-- A tagged variant, and the rest of its object or array as a whole value. In an array the tag
comes first. -/
def asTagged {α : Type} (tag : String) (variants : List (String × α))
    : Reading → Except ReadError (α × Value)
  | .object fields ending =>
      match tagged tag variants none fields with
      | .error error => .error error
      | .ok (variant, fields) =>
          match close ending () with
          | .error error => .error error
          | .ok () =>
              match variant with
              | some variant => .ok (variant, .object fields)
              | none => .error (.data (.missingField tag))
  | .array [] ending =>
      match close ending () with
      | .error error => .error error
      | .ok () => .error (.data (.missingField tag))
  | .array (first :: rest) ending =>
      match first.asString with
      | .error error => .error error
      | .ok name =>
          match asVariantName variants name with
          | .error error => .error error
          | .ok variant =>
              match (Reading.array rest ending).asValue with
              | .error error => .error error
              | .ok value => .ok (variant, value)
  | reading => .error reading.mismatch

end Reading

end EntryPoints.Json
