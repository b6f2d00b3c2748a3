import EntryPoints.Symbol.Method

/-! Manifests describe a compilation: its types with their members, and what kind it is of. -/

namespace EntryPoints

structure ParameterDecl where
  name : Option String := none
  type : String
  deriving DecidableEq, Repr, Inhabited

structure MethodDecl where
  /-- Ordinary methods need a name; the others have reserved ones. -/
  name : Option String := none
  kind : MethodKind := .ordinary
  returns : Option String := none
  parameters : List ParameterDecl := []
  isStatic : Bool := false
  isAsync : Bool := false
  isVirtual : Bool := false
  accessibility : Option Accessibility := none
  /-- The first and the last byte of the declaration. -/
  location : Option (Nat × Nat) := none
  deriving DecidableEq, Repr, Inhabited

structure FieldDecl where
  name : String
  type : String
  deriving DecidableEq, Repr, Inhabited

inductive MemberDecl where
  | method (declaration : MethodDecl)
  | field (declaration : FieldDecl)
  deriving DecidableEq, Repr, Inhabited

structure TypeDecl where
  name : String
  kind : NamedKind := .classType
  base : Option String := none
  /-- The type is unusable wherever it is mentioned. -/
  bogus : Bool := false
  members : List MemberDecl := []
  deriving DecidableEq, Repr, Inhabited

inductive CompilationDecl where
  /-- A program; its main is given as type and method with a dot between. -/
  | regular (main : Option String)
  | script (className : String)
  | submission (className : String)
  deriving DecidableEq, Repr, Inhabited

structure Manifest where
  /-- The platform's future types are there. -/
  platformTasks : Bool := false
  types : List TypeDecl := []
  compilation : CompilationDecl
  deriving DecidableEq, Repr, Inhabited

end EntryPoints
