import EntryPoints.Json.Decode
import EntryPoints.Json.Scanner
import EntryPoints.Json.Stream
import EntryPoints.Manifest.Basic

/-! Manifests read from their text. Members and the compilation are read whole before they are
interpreted; everything else is interpreted in the order of the text.
-/

namespace EntryPoints

open Json

def NamedKind.variants : List (String × NamedKind) :=
  all.map (fun kind => (kind.keyword, kind))

def MethodKind.variants : List (String × MethodKind) :=
  all.map (fun kind => (kind.keyword, kind))

def Accessibility.variants : List (String × Accessibility) :=
  all.map (fun accessibility => (accessibility.keyword, accessibility))

/-- A keyword of its own, outside of any manifest. -/
def Accessibility.ofValue (value : Value) : Except DataError Accessibility :=
  value.asVariant Value.isNull variants

------------------------------------------------------------------------------------------
-- Parameters

inductive ParameterField where
  | name (value : Option String)
  | type (value : String)
  deriving Repr

def ParameterField.reader : RecordReader Value DataError ParameterField where
  names := ["name", "type"]
  strict := true
  fail := id
  read
    | "name", value => (value.asOptional Value.asString).map name
    | _, value => value.asString.map type

def ParameterDecl.ofFields (form : RecordForm) (fields : List ParameterField)
    : Except DataError ParameterDecl := do
  let name ← form.optional (fields.findSome? fun | .name value => some value | _ => none)
  let type ← form.require "type" (fields.findSome? fun | .type value => some value | _ => none)
  return { name, type }

def ParameterDecl.ofValue (value : Value) : Except DataError ParameterDecl := do
  let (form, fields) ← value.asRecord ParameterField.reader
  ofFields form fields

------------------------------------------------------------------------------------------
-- Members

inductive MethodField where
  | name (value : Option String)
  | kind (value : MethodKind)
  | returns (value : Option String)
  | parameters (value : List ParameterDecl)
  | isStatic (value : Bool)
  | isAsync (value : Bool)
  | isVirtual (value : Bool)
  | accessibility (value : Option Accessibility)
  | location (value : Option (Nat × Nat))
  deriving Repr

def MethodField.reader : RecordReader Value DataError MethodField where
  names :=
    ["name", "kind", "returns", "parameters", "static", "async", "virtual", "accessibility",
      "location"]
  strict := false
  fail := id
  read
    | "name", value => (value.asOptional Value.asString).map name
    | "kind", value =>
        (value.asVariant Value.isUnit MethodKind.variants).map kind
    | "returns", value => (value.asOptional Value.asString).map returns
    | "parameters", value => (value.asList ParameterDecl.ofValue).map parameters
    | "static", value => value.asBool.map isStatic
    | "async", value => value.asBool.map isAsync
    | "virtual", value => value.asBool.map isVirtual
    | "accessibility", value =>
        (value.asOptional (Value.asVariant Value.isUnit Accessibility.variants)).map
          accessibility
    | _, value =>
        (value.asOptional (Value.asPair Value.asNatural)).map location

def MethodDecl.ofFields (form : RecordForm) (fields : List MethodField)
    : Except DataError MethodDecl := do
  let name ← form.optional (fields.findSome? fun | .name value => some value | _ => none)
  let returns ← form.optional (fields.findSome? fun | .returns value => some value | _ => none)
  let accessibility ← form.optional
    (fields.findSome? fun | .accessibility value => some value | _ => none)
  let location ← form.optional
    (fields.findSome? fun | .location value => some value | _ => none)
  return {
    name, returns, accessibility, location
    kind := (fields.findSome? fun | .kind value => some value | _ => none).getD .ordinary
    parameters := (fields.findSome? fun | .parameters value => some value | _ => none).getD []
    isStatic := (fields.findSome? fun | .isStatic value => some value | _ => none).getD false
    isAsync := (fields.findSome? fun | .isAsync value => some value | _ => none).getD false
    isVirtual := (fields.findSome? fun | .isVirtual value => some value | _ => none).getD false }

def MethodDecl.ofValue (value : Value) : Except DataError MethodDecl := do
  let (form, fields) ← value.asRecord MethodField.reader
  ofFields form fields

inductive FieldField where
  | name (value : String)
  | type (value : String)
  deriving Repr

def FieldField.reader : RecordReader Value DataError FieldField where
  names := ["name", "type"]
  strict := false
  fail := id
  read
    | "name", value => value.asString.map name
    | _, value => value.asString.map type

def FieldDecl.ofFields (form : RecordForm) (fields : List FieldField)
    : Except DataError FieldDecl := do
  let name ← form.require "name" (fields.findSome? fun | .name value => some value | _ => none)
  let type ← form.require "type" (fields.findSome? fun | .type value => some value | _ => none)
  return { name, type }

def FieldDecl.ofValue (value : Value) : Except DataError FieldDecl := do
  let (form, fields) ← value.asRecord FieldField.reader
  ofFields form fields

/-- The variants of a member, which its tag names. -/
inductive MemberTag where
  | method
  | field
  deriving DecidableEq, Repr

def MemberTag.variants : List (String × MemberTag) :=
  [("method", .method), ("field", .field)]

def MemberDecl.ofReading (reading : Reading) : Except ReadError MemberDecl := do
  let (tag, value) ← reading.asTagged "member" MemberTag.variants
  match tag with
  | .method => ((MethodDecl.ofValue value).map .method).mapError .data
  | .field => ((FieldDecl.ofValue value).map .field).mapError .data

------------------------------------------------------------------------------------------
-- Types

inductive TypeField where
  | name (value : String)
  | kind (value : NamedKind)
  | base (value : Option String)
  | bogus (value : Bool)
  | members (value : List MemberDecl)
  deriving Repr

def TypeField.reader : RecordReader Reading ReadError TypeField where
  names := ["name", "kind", "base", "bogus", "members"]
  strict := true
  fail := .data
  read
    | "name", reading => reading.asString.map name
    | "kind", reading => (reading.asVariant NamedKind.variants).map kind
    | "base", reading => (reading.asOptional Reading.asString).map base
    | "bogus", reading => reading.asBool.map bogus
    | _, reading => (reading.asList MemberDecl.ofReading).map members

def TypeDecl.ofFields (form : RecordForm) (fields : List TypeField)
    : Except DataError TypeDecl := do
  let name ← form.require "name" (fields.findSome? fun | .name value => some value | _ => none)
  let base ← form.optional (fields.findSome? fun | .base value => some value | _ => none)
  return {
    name, base
    kind := (fields.findSome? fun | .kind value => some value | _ => none).getD .classType
    bogus := (fields.findSome? fun | .bogus value => some value | _ => none).getD false
    members := (fields.findSome? fun | .members value => some value | _ => none).getD [] }

def TypeDecl.ofReading (reading : Reading) : Except ReadError TypeDecl := do
  let (form, fields) ← reading.asRecord TypeField.reader
  (ofFields form fields).mapError .data

------------------------------------------------------------------------------------------
-- The compilation

/-- The kinds of a compilation, which its tag names. -/
inductive CompilationTag where
  | regular
  | script
  | submission
  deriving DecidableEq, Repr

def CompilationTag.variants : List (String × CompilationTag) :=
  [("regular", .regular), ("script", .script), ("submission", .submission)]

/-- The main of a program. -/
def CompilationDecl.mainReader : RecordReader Value DataError (Option String) where
  names := ["main"]
  strict := false
  fail := id
  read _ value := value.asOptional Value.asString

/-- The class of a script or submission. -/
def CompilationDecl.classReader : RecordReader Value DataError String where
  names := ["class"]
  strict := false
  fail := id
  read _ value := value.asString

def CompilationDecl.mainOf (value : Value) : Except DataError (Option String) := do
  let (form, fields) ← value.asRecord mainReader
  form.optional fields.head?

def CompilationDecl.classOf (value : Value) : Except DataError String := do
  let (form, fields) ← value.asRecord classReader
  form.require "class" fields.head?

def CompilationDecl.ofReading (reading : Reading) : Except ReadError CompilationDecl := do
  let (tag, value) ← reading.asTagged "kind" CompilationTag.variants
  match tag with
  | .regular => ((mainOf value).map .regular).mapError .data
  | .script => ((classOf value).map .script).mapError .data
  | .submission => ((classOf value).map .submission).mapError .data

------------------------------------------------------------------------------------------
-- The manifest

inductive ManifestField where
  | platformTasks (value : Bool)
  | types (value : List TypeDecl)
  | compilation (value : CompilationDecl)
  deriving Repr

def ManifestField.reader : RecordReader Reading ReadError ManifestField where
  names := ["platform_tasks", "types", "compilation"]
  strict := true
  fail := .data
  read
    | "platform_tasks", reading => reading.asBool.map platformTasks
    | "types", reading => (reading.asList TypeDecl.ofReading).map types
    | _, reading => (CompilationDecl.ofReading reading).map compilation

namespace Manifest

def ofFields (form : RecordForm) (fields : List ManifestField) : Except DataError Manifest := do
  let compilation ← form.require "compilation"
    (fields.findSome? fun | .compilation value => some value | _ => none)
  return {
    compilation
    platformTasks :=
      (fields.findSome? fun | .platformTasks value => some value | _ => none).getD false
    types := (fields.findSome? fun | .types value => some value | _ => none).getD [] }

def ofReading (reading : Reading) : Except ReadError Manifest := do
  let (form, fields) ← reading.asRecord ManifestField.reader
  (ofFields form fields).mapError .data

/-- The manifest that a text holds. Nothing but blanks may follow it. -/
def ofText (text : String) : Except ReadError Manifest := do
  let (reading, superfluous) := Json.read text
  let manifest ← ofReading reading
  if superfluous then throw (.text .malformed)
  return manifest

end Manifest

end EntryPoints
