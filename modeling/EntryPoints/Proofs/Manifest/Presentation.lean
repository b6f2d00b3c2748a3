import EntryPoints.Manifest.Basic
import EntryPoints.Proofs.Json.Grammar
import EntryPoints.Proofs.Json.Records
import Mathlib.Data.List.Forall2

/-! The ways to write a manifest: fields in any order, defaults written or left out, and in members
and the compilation any other fields beside them.
-/

namespace EntryPoints

open Json

------------------------------------------------------------------------------------------
-- Parts

/-- A string is written as itself. -/
def WritesString (content : String) (value : Value) : Prop :=
  value = .scalar (.string content)

/-- A flag is written as itself. -/
def WritesBool (content : Bool) (value : Value) : Prop :=
  value = .scalar (.bool content)

/-- An absent part is written as a null. -/
inductive WritesOptional {α : Type} (writes : α → Value → Prop) : Option α → Value → Prop where
  | absent : WritesOptional writes none (.scalar .null)
  | present {content : α} {value : Value} (written : writes content value)
    : WritesOptional writes (some content) value

/-- A list is written as an array, item by item. -/
inductive WritesList {α : Type} (writes : α → Value → Prop) : List α → Value → Prop where
  | items {contents : List α} {values : List Value}
      (written : List.Forall₂ writes contents values)
      : WritesList writes contents (.array values)

/-- What has fields is written as an object of these fields. -/
inductive WritesObject {α : Type} (writes : α → List (String × Value) → Prop)
    : α → Value → Prop where
  | fields {content : α} {fields : List (String × Value)} (written : writes content fields)
    : WritesObject writes content (.object fields)

/-- A location is an array of its first and its last byte. -/
inductive WritesLocation : Nat × Nat → Value → Prop where
  | span (start stop : Nat)
    : WritesLocation (start, stop)
        (.array [.scalar (.number (.natural start)), .scalar (.number (.natural stop))])

------------------------------------------------------------------------------------------
-- Declarations

/-- The fields of a parameter, and no others. -/
structure ParameterDecl.WrittenAs (parameter : ParameterDecl)
    (fields : List (String × Value))
    : Prop where
  name
    : FieldWritten (some none) (WritesOptional WritesString) parameter.name
        (entries fields "name")
  type : FieldWritten none WritesString parameter.type (entries fields "type")
  known : ∀ field ∈ fields, field.1 ∈ ["name", "type"]

/-- Fields of other names may stand beside those of a method. -/
structure MethodDecl.WrittenAs (method : MethodDecl) (fields : List (String × Value))
    : Prop where
  name
    : FieldWritten (some none) (WritesOptional WritesString) method.name (entries fields "name")
  kind
    : FieldWritten (some .ordinary) (fun kind => WritesString kind.keyword) method.kind
        (entries fields "kind")
  returns
    : FieldWritten (some none) (WritesOptional WritesString) method.returns
        (entries fields "returns")
  parameters
    : FieldWritten (some []) (WritesList (WritesObject ParameterDecl.WrittenAs))
        method.parameters (entries fields "parameters")
  isStatic : FieldWritten (some false) WritesBool method.isStatic (entries fields "static")
  isAsync : FieldWritten (some false) WritesBool method.isAsync (entries fields "async")
  isVirtual : FieldWritten (some false) WritesBool method.isVirtual (entries fields "virtual")
  accessibility
    : FieldWritten (some none)
        (WritesOptional (fun accessibility => WritesString accessibility.keyword))
        method.accessibility (entries fields "accessibility")
  location
    : FieldWritten (some none) (WritesOptional WritesLocation) method.location
        (entries fields "location")

/-- Fields of other names may stand beside those of a field too. -/
structure FieldDecl.WrittenAs (field : FieldDecl) (fields : List (String × Value))
    : Prop where
  name : FieldWritten none WritesString field.name (entries fields "name")
  type : FieldWritten none WritesString field.type (entries fields "type")

/-- A member carries a tag among its other fields. -/
inductive MemberDecl.WrittenAs : MemberDecl → List (String × Value) → Prop where
  | method {method : MethodDecl} {fields : List (String × Value)}
      (tag : entries fields "member" = [.scalar (.string "method")])
      (written : method.WrittenAs fields)
      : WrittenAs (.method method) fields
  | field {field : FieldDecl} {fields : List (String × Value)}
      (tag : entries fields "member" = [.scalar (.string "field")])
      (written : field.WrittenAs fields)
      : WrittenAs (.field field) fields

/-- The fields of a type, and no others. -/
structure TypeDecl.WrittenAs (type : TypeDecl) (fields : List (String × Value)) : Prop where
  name : FieldWritten none WritesString type.name (entries fields "name")
  kind
    : FieldWritten (some .classType) (fun kind => WritesString kind.keyword) type.kind
        (entries fields "kind")
  base
    : FieldWritten (some none) (WritesOptional WritesString) type.base (entries fields "base")
  bogus : FieldWritten (some false) WritesBool type.bogus (entries fields "bogus")
  members
    : FieldWritten (some []) (WritesList (WritesObject MemberDecl.WrittenAs)) type.members
        (entries fields "members")
  known : ∀ field ∈ fields, field.1 ∈ ["name", "kind", "base", "bogus", "members"]

/-- The compilation carries a tag too. -/
inductive CompilationDecl.WrittenAs : CompilationDecl → List (String × Value) → Prop where
  | regular {main : Option String} {fields : List (String × Value)}
      (tag : entries fields "kind" = [.scalar (.string "regular")])
      (written
        : FieldWritten (some none) (WritesOptional WritesString) main (entries fields "main"))
      : WrittenAs (.regular main) fields
  | script {className : String} {fields : List (String × Value)}
      (tag : entries fields "kind" = [.scalar (.string "script")])
      (written : FieldWritten none WritesString className (entries fields "class"))
      : WrittenAs (.script className) fields
  | submission {className : String} {fields : List (String × Value)}
      (tag : entries fields "kind" = [.scalar (.string "submission")])
      (written : FieldWritten none WritesString className (entries fields "class"))
      : WrittenAs (.submission className) fields

/-- The fields of a manifest, and no others. -/
structure Manifest.WrittenAs (manifest : Manifest) (fields : List (String × Value))
    : Prop where
  platformTasks
    : FieldWritten (some false) WritesBool manifest.platformTasks
        (entries fields "platform_tasks")
  types
    : FieldWritten (some []) (WritesList (WritesObject TypeDecl.WrittenAs)) manifest.types
        (entries fields "types")
  compilation
    : FieldWritten none (WritesObject CompilationDecl.WrittenAs) manifest.compilation
        (entries fields "compilation")
  known : ∀ field ∈ fields, field.1 ∈ ["platform_tasks", "types", "compilation"]

------------------------------------------------------------------------------------------
-- Keys that do not belong

/-- An object gains one field, whose name is not among those. -/
inductive GainsField (names : List String) : Value → Value → Prop where
  | gains {before after : List (String × Value)} {key : String} {value : Value}
      (unknown : key ∉ names)
      : GainsField names (.object (before ++ after)) (.object (before ++ (key, value) :: after))

/-- An object is changed under one key. -/
inductive ChangesField (key : String) (changes : Value → Value → Prop)
    : Value → Value → Prop where
  | field {before after : List (String × Value)} {value changed : Value}
      (change : changes value changed)
      : ChangesField key changes (.object (before ++ (key, value) :: after))
          (.object (before ++ (key, changed) :: after))

/-- One item of an array is changed. -/
inductive ChangesItem (changes : Value → Value → Prop) : Value → Value → Prop where
  | item {before after : List Value} {value changed : Value} (change : changes value changed)
    : ChangesItem changes (.array (before ++ value :: after)) (.array (before ++ changed :: after))

/-- The object of a method is changed. -/
inductive ChangesMethod (changes : Value → Value → Prop) : Value → Value → Prop where
  | method {fields : List (String × Value)} {changed : Value}
      (tag : entries fields "member" = [.scalar (.string "method")])
      (change : changes (.object fields) changed)
      : ChangesMethod changes (.object fields) changed

/-- A parameter of a method gains a field that does not belong there. -/
def GainsParameterField : Value → Value → Prop :=
  ChangesField "parameters" (ChangesItem (GainsField ["name", "type"]))

/-- A manifest gains a field that does not belong there, in its own object, in that of a type or in
that of a parameter.
-/
inductive GainsUnknownField : Value → Value → Prop where
  | manifest {value gained : Value}
      (gains : GainsField ["platform_tasks", "types", "compilation"] value gained)
      : GainsUnknownField value gained
  | type {value gained : Value}
      (gains
        : ChangesField "types"
            (ChangesItem (GainsField ["name", "kind", "base", "bogus", "members"])) value
            gained)
      : GainsUnknownField value gained
  | parameter {value gained : Value}
      (gains
        : ChangesField "types"
            (ChangesItem
              (ChangesField "members" (ChangesItem (ChangesMethod GainsParameterField))))
            value gained)
      : GainsUnknownField value gained

end EntryPoints
