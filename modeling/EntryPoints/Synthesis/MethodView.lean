import EntryPoints.Synthesis.EntryPoint

/-! One view of methods for the later stages of a compiler, whether declared or synthesized. -/

namespace EntryPoints

inductive CallingConvention where
  | default
  | varargs
  deriving DecidableEq, Repr, Inhabited

/-- A modifier attached to a signature. -/
structure CustomModifier where
  modifier : TypeId
  isOptional : Bool
  deriving DecidableEq, Repr, Inhabited

/-- How a returned value is handed to unmanaged code. -/
structure MarshallingInfo where
  unmanagedType : String
  deriving DecidableEq, Repr, Inhabited

structure SecurityAttribute where
  action : String
  attributeName : String
  deriving DecidableEq, Repr, Inhabited

/-- What anything that behaves like a method can be asked. What no method of this language has is
filled in. -/
structure MethodView where
  name : String
  containingType : TypeId
  parameters : List Parameter
  returnType : TypeId
  accessibility : Accessibility
  kind : MethodKind
  isStatic : Bool
  isAsync : Bool
  isVirtual : Bool
  isImplicitlyDeclared : Bool
  locations : List Location
  isAbstract : Bool := false
  isOverride : Bool := false
  isExtern : Bool := false
  isSealed : Bool := false
  typeParameters : List TypeId := []
  returnTypeModifiers : List CustomModifier := []
  /-- Symbols on which calls of the method are conditional. -/
  conditionalSymbols : List String := []
  interfaceImplementations : List MethodId := []
  returnValueMarshalling : Option MarshallingInfo := none
  hasSpecialName : Bool
  /-- Whether a debugger may step through the body. -/
  generatesDebugInfo : Bool
  callingConvention : CallingConvention := .default
  /-- How far a position lies behind the start of the method in the source. -/
  syntaxOffset : Nat → Except EntryPointError Nat
  securityInformation : Except EntryPointError (List SecurityAttribute)

/-- How far into the location a position is, if it is within it; both ends are. -/
def Location.offset? (position : Nat) : Location → Option Nat
  | nowhere => none
  | span start stop =>
      if start ≤ position ∧ position ≤ stop then some (position - start) else none

/-- A declared method counts positions from its first location that contains them. -/
def MethodSymbol.view (method : MethodSymbol) : MethodView where
  name := method.name
  containingType := method.containingType
  parameters := method.parameters
  returnType := method.returnType
  accessibility := method.accessibility
  kind := method.kind
  isStatic := method.isStatic
  isAsync := method.isAsync
  isVirtual := method.isVirtual
  isImplicitlyDeclared := false
  locations := method.locations
  hasSpecialName := false
  generatesDebugInfo := true
  syntaxOffset position :=
    match method.locations.findSome? (Location.offset? position) with
    | some offset => .ok offset
    | none => .error (.unsupported .syntaxOffset)
  securityInformation := .ok []

/-- A synthesized method is static, has a special name and no place in the source. -/
def EntryPoint.view (entryPoint : EntryPoint) : MethodView where
  name := entryPoint.name
  containingType := entryPoint.containingType
  parameters := entryPoint.parameters
  returnType := entryPoint.returnType
  accessibility := entryPoint.accessibility
  kind := .ordinary
  isStatic := true
  isAsync := false
  isVirtual := false
  isImplicitlyDeclared := true
  locations := []
  hasSpecialName := true
  generatesDebugInfo := false
  syntaxOffset _ := .error (.unsupported .syntaxOffset)
  securityInformation := .error (.unsupported .securityInformation)

namespace MethodView

def parameterCount (method : MethodView) : Nat :=
  method.parameters.length

def returnsVoid (table : TypeTable) (method : MethodView) : Bool :=
  (table.symbol method.returnType).isVoid

def isVararg (method : MethodView) : Bool :=
  method.callingConvention == .varargs

def arity (method : MethodView) : Nat :=
  method.typeParameters.length

end MethodView

end EntryPoints
