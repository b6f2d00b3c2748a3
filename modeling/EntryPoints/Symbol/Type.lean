import EntryPoints.Diagnostic.Basic

/-! Types as the compiler sees them, and the members declared on them. -/

namespace EntryPoints

/-- A type, by its index in the table. -/
structure TypeId where
  index : Nat
  deriving DecidableEq, Repr, Inhabited

/-- A method, by its index in the table. -/
structure MethodId where
  index : Nat
  deriving DecidableEq, Repr, Inhabited

/-- The types that are built into the language. -/
inductive SpecialType where
  | void
  | boolean
  | int32
  | string
  | object
  deriving DecidableEq, Repr, Inhabited

namespace SpecialType

def all : List SpecialType :=
  [void, boolean, int32, string, object]

def keyword : SpecialType → String
  | void => "void"
  | boolean => "bool"
  | int32 => "int"
  | string => "string"
  | object => "object"

def ofKeyword? (name : String) : Option SpecialType :=
  all.find? (fun special => special.keyword == name)

end SpecialType

/-- The flavours of a declared type. -/
inductive NamedKind where
  | classType
  | structType
  /-- The implicit class around the top-level code of a script. -/
  | scriptClass
  /-- The implicit class around one interactive submission. -/
  | submissionClass
  deriving DecidableEq, Repr, Inhabited

namespace NamedKind

def all : List NamedKind :=
  [.classType, .structType, .scriptClass, .submissionClass]

def keyword : NamedKind → String
  | .classType => "class"
  | .structType => "struct"
  | .scriptClass => "script"
  | .submissionClass => "submission"

def ofKeyword? (name : String) : Option NamedKind :=
  all.find? (fun kind => kind.keyword == name)

end NamedKind

inductive TypeKind where
  | special (special : SpecialType)
  /-- One-dimensional arrays, indexed from zero. -/
  | array (element : TypeId)
  | named (kind : NamedKind) (base : Option TypeId) (typeArguments : List TypeId)
  /-- Stands for a type that could not be found; the problem was reported where it arose. -/
  | error
  deriving DecidableEq, Repr, Inhabited

inductive Member where
  | method (id : MethodId)
  | field (name : String) (type : TypeId)
  deriving DecidableEq, Repr, Inhabited

structure TypeSymbol where
  name : String
  kind : TypeKind
  /-- Members in the order of their declaration. -/
  members : List Member := []
  /-- Reported wherever the type is used. -/
  useSite : Option DiagnosticInfo := none
  deriving DecidableEq, Repr, Inhabited

namespace TypeSymbol

def isVoid (symbol : TypeSymbol) : Bool :=
  symbol.kind == .special .void

def isError (symbol : TypeSymbol) : Bool :=
  symbol.kind == .error

def namedKind? (symbol : TypeSymbol) : Option NamedKind :=
  match symbol.kind with
  | .named kind _ _ => some kind
  | _ => none

def base? (symbol : TypeSymbol) : Option TypeId :=
  match symbol.kind with
  | .named _ base _ => base
  | _ => none

def element? (symbol : TypeSymbol) : Option TypeId :=
  match symbol.kind with
  | .array element => some element
  | _ => none

/-- Only a declared type has a base to be set. -/
def withBase (symbol : TypeSymbol) (base : TypeId) : TypeSymbol :=
  match symbol.kind with
  | .named kind _ typeArguments =>
      { symbol with kind := .named kind (some base) typeArguments }
  | _ => symbol

def withUseSite (symbol : TypeSymbol) (info : DiagnosticInfo) : TypeSymbol :=
  { symbol with useSite := some info }

def addMember (symbol : TypeSymbol) (member : Member) : TypeSymbol :=
  { symbol with members := symbol.members ++ [member] }

end TypeSymbol

end EntryPoints
