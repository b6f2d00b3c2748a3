import EntryPoints.Symbol.Type
import EntryPoints.Vocabulary.WellKnownMember

/-! Methods that the user declared, and the signatures that declare them. -/

namespace EntryPoints

inductive Accessibility where
  | privateAccess
  | internalAccess
  | protectedAccess
  | publicAccess
  deriving DecidableEq, Repr, Inhabited

namespace Accessibility

def all : List Accessibility :=
  [.privateAccess, .internalAccess, .protectedAccess, .publicAccess]

def keyword : Accessibility → String
  | .privateAccess => "private"
  | .internalAccess => "internal"
  | .protectedAccess => "protected"
  | .publicAccess => "public"

def ofKeyword? (name : String) : Option Accessibility :=
  all.find? (fun accessibility => accessibility.keyword == name)

end Accessibility

inductive MethodKind where
  | ordinary
  | constructor
  /-- Runs the top-level code of a script or submission class. -/
  | initializer
  deriving DecidableEq, Repr, Inhabited

namespace MethodKind

def all : List MethodKind :=
  [.ordinary, .constructor, .initializer]

def keyword : MethodKind → String
  | .ordinary => "ordinary"
  | .constructor => "constructor"
  | .initializer => "initializer"

def ofKeyword? (name : String) : Option MethodKind :=
  all.find? (fun kind => kind.keyword == name)

end MethodKind

structure Parameter where
  name : String
  type : TypeId
  /-- Position among the parameters of the method, from zero. -/
  ordinal : Nat
  deriving DecidableEq, Repr, Inhabited

structure MethodSymbol where
  name : String
  containingType : TypeId
  kind : MethodKind
  parameters : List Parameter
  returnType : TypeId
  accessibility : Accessibility
  isStatic : Bool
  isAsync : Bool
  isVirtual : Bool
  locations : List Location
  deriving DecidableEq, Repr, Inhabited

/-- What a declaration says about a method before the method has a place in a table. -/
structure MethodSignature where
  name : String
  kind : MethodKind := .ordinary
  parameters : List (String × TypeId) := []
  returnType : TypeId
  accessibility : Accessibility := .publicAccess
  isStatic : Bool := false
  isAsync : Bool := false
  isVirtual : Bool := false
  location : Option Location := none
  deriving DecidableEq, Repr, Inhabited

namespace MethodSignature

def ordinary (name : String) (returnType : TypeId) : MethodSignature :=
  { name, returnType }

/-- Constructors have a reserved name. -/
def constructor (returnType : TypeId) : MethodSignature :=
  { name := WellKnownMember.constructor.spelling, kind := .constructor, returnType }

/-- Initializers have a reserved name. -/
def initializer (returnType : TypeId) : MethodSignature :=
  { name := WellKnownMember.scriptInitializer.spelling, kind := .initializer, returnType }

/-- Parameters are numbered in the order of their declaration. -/
def numberedParameters (signature : MethodSignature) : List Parameter :=
  signature.parameters.zipIdx.map
    (fun ((name, type), ordinal) => { name, type, ordinal })

/-- The method that the signature declares on a type. -/
def declaredOn (signature : MethodSignature) (containingType : TypeId) : MethodSymbol where
  name := signature.name
  containingType := containingType
  kind := signature.kind
  parameters := signature.numberedParameters
  returnType := signature.returnType
  accessibility := signature.accessibility
  isStatic := signature.isStatic
  isAsync := signature.isAsync
  isVirtual := signature.isVirtual
  locations := signature.location.toList

end MethodSignature

end EntryPoints
