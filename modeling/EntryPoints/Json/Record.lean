import EntryPoints.Json.ReadError

/-! Records are read field by field, from an object or from an array of their values. -/

namespace EntryPoints.Json

/-- The two ways to write a record: with the names of its fields, or by their positions. -/
inductive RecordForm where
  | named
  | positional
  deriving DecidableEq, Repr, Inhabited

namespace RecordForm

/-- The complaint about a field that is not there. -/
def missing (name : String) : RecordForm → DataError
  | named => .missingField name
  | positional => .invalidLength

/-- A field that has to be written. -/
def require {α : Type} (form : RecordForm) (name : String) : Option α → Except DataError α
  | some value => .ok value
  | none => .error (form.missing name)

/-- A field that may be left out, but not from an array. -/
def optional {α : Type} (form : RecordForm) : Option (Option α) → Except DataError (Option α)
  | some value => .ok value
  | none =>
      match form with
      | named => .ok none
      | positional => .error .invalidLength

end RecordForm

/-- How a record with fields of type `φ` is read, from parts of type `ν` and with errors of type
`ε`. -/
structure RecordReader (ν ε φ : Type) where
  names : List String
  /-- Refuses fields with other names, which otherwise are passed over. -/
  strict : Bool
  read : String → ν → Except ε φ
  fail : DataError → ε

namespace RecordReader

variable {ν ε φ : Type}

/-- Reads the fields of an object in the order of the text. The name of a field is looked at
before its value. -/
def named (reader : RecordReader ν ε φ) (seen : List String)
    : List (String × ν) → Except ε (List φ)
  | [] => .ok []
  | (key, part) :: rest =>
      if reader.names.contains key then
        if seen.contains key then
          .error (reader.fail (.duplicateField key))
        else
          match reader.read key part with
          | .error error => .error error
          | .ok field =>
              match reader.named (key :: seen) rest with
              | .error error => .error error
              | .ok fields => .ok (field :: fields)
      else if reader.strict then
        .error (reader.fail (.unknownField key reader.names))
      else
        reader.named seen rest

/-- Reads the items of an array as the fields of those names, and gives the items left over. -/
def positional (reader : RecordReader ν ε φ)
    : List String → List ν → Except ε (List φ × List ν)
  | name :: names, part :: rest =>
      match reader.read name part with
      | .error error => .error error
      | .ok field =>
          match reader.positional names rest with
          | .error error => .error error
          | .ok (fields, surplus) => .ok (field :: fields, surplus)
  | _, parts => .ok ([], parts)

end RecordReader

/-- What one of the variants stands for, by its name. -/
def variantNamed {α : Type} (variants : List (String × α)) (name : String) : Except DataError α :=
  match variants.lookup name with
  | some variant => .ok variant
  | none => .error (.unknownVariant name (variants.map Prod.fst))

end EntryPoints.Json
