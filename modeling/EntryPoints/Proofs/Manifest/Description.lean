import EntryPoints.Proofs.Manifest.Declaration
import EntryPoints.Proofs.Related

/-! What the declarations of a manifest say about the types and methods of a table, and what keeps
it true while the table grows.
-/

namespace EntryPoints

open TypeTable

------------------------------------------------------------------------------------------
-- What declarations say

/-- The parameter is the declared one at that position. Without a name it has the conventional
one. -/
structure ParameterDecl.Describes (scope : Scope) (table : TypeTable)
    (declaration : ParameterDecl × Nat) (parameter : Parameter)
    : Prop where
  name
    : parameter.name = declaration.1.name.getD SyntheticName.argsParameter.spelling
  type : Spells scope table declaration.1.type parameter.type
  ordinal : parameter.ordinal = declaration.2

/-- The name of the method as a member. Only an ordinary method may lack one. -/
def MethodDecl.memberName? (declaration : MethodDecl) : Option String :=
  match declaration.kind with
  | .ordinary => declaration.name
  | .constructor => some WellKnownMember.constructor.spelling
  | .initializer => some WellKnownMember.scriptInitializer.spelling

/-- The spelling of what the method returns. -/
def MethodDecl.result (declaration : MethodDecl) : String :=
  declaration.returns.getD SpecialType.void.keyword

/-- The method is the declared one, on the type that declares it. -/
structure MethodDecl.Describes (scope : Scope) (table : TypeTable) (declaration : MethodDecl)
    (owner : TypeId) (method : MethodSymbol)
    : Prop where
  name : declaration.memberName? = some method.name
  containingType : method.containingType = owner
  kind : method.kind = declaration.kind
  parameters
    : List.Forall₂ (ParameterDecl.Describes scope table) declaration.parameters.zipIdx
        method.parameters
  returnType : Spells scope table declaration.result method.returnType
  accessibility : method.accessibility = declaration.accessibility.getD .publicAccess
  isStatic : method.isStatic = declaration.isStatic
  isAsync : method.isAsync = declaration.isAsync
  isVirtual : method.isVirtual = declaration.isVirtual
  locations
    : method.locations
      = (declaration.location.map (fun (start, stop) => Location.span start stop)).toList

/-- The member is the declared one. -/
inductive MemberDecl.Describes (scope : Scope) (table : TypeTable) (owner : TypeId)
    : MemberDecl → Member → Prop where
  | method {declaration : MethodDecl} {id : MethodId} (there : id.index < table.methods.size)
      (describes : declaration.Describes scope table owner (table.method id))
    : MemberDecl.Describes scope table owner (.method declaration) (.method id)
  | field {declaration : FieldDecl} {type : TypeId}
      (spells : Spells scope table declaration.type type)
    : MemberDecl.Describes scope table owner (.field declaration) (.field declaration.name type)

/-- The type is the declared one, with its base and its members. -/
structure TypeDecl.Describes (scope : Scope) (table : TypeTable) (declaration : TypeDecl)
    (type : TypeId)
    : Prop where
  name : (table.symbol type).name = declaration.name
  kind : (table.symbol type).kind = .named declaration.kind (table.base? type) []
  base : Option.Rel (Spells scope table) declaration.base (table.base? type)
  members
    : List.Forall₂ (MemberDecl.Describes scope table type) declaration.members
        (table.symbol type).members
  useSite : (table.symbol type).useSite = declaration.bareSymbol.useSite

/-- A type that has only been declared is what its declaration says apart from the base and the
members, which are not there yet.
-/
theorem TypeDecl.describes_of_bare {scope : Scope} {table : TypeTable} {declaration : TypeDecl}
    {type : TypeId} (bare : table.symbol type = declaration.bareSymbol)
    : { declaration with base := none, members := [] }.Describes scope table type := by
  have noBase : table.base? type = none := by
    rw [TypeTable.base?, bare]
    rfl
  exact {
    name := by rw [bare]; rfl
    kind := by rw [bare, noBase]; rfl
    base := by rw [noBase]; exact .none
    members := by rw [bare]; exact .nil
    useSite := by rw [bare]; rfl
  }

------------------------------------------------------------------------------------------
-- Growing tables

section
variable {scope : Scope} {table later : TypeTable} {touched : TypeId → Prop}
  (furnished : Furnished scope table) (grows : Grows touched table later)
  (only : ∀ {type}, touched type → ∃ name, scope.find? name = some type)
include furnished grows only

/-- What a spelling stands for it still stands for when the table has grown. -/
theorem Spells.grow {spelling : String} {type : TypeId}
    (spells : Spells scope table spelling type)
    : Spells scope later spelling type := by
  obtain ⟨expression, reading, denotes⟩ := spells
  exact ⟨expression, reading, denotes.grow furnished grows id only⟩

/-- So a declared parameter is still what its declaration says. -/
theorem ParameterDecl.Describes.grow {declaration : ParameterDecl × Nat} {parameter : Parameter}
    (describes : ParameterDecl.Describes scope table declaration parameter)
    : ParameterDecl.Describes scope later declaration parameter :=
  { describes with type := describes.type.grow furnished grows only }

/-- So is a method, with the types of its signature. -/
theorem MethodDecl.Describes.grow {declaration : MethodDecl} {owner : TypeId}
    {method : MethodSymbol} (describes : declaration.Describes scope table owner method)
    : declaration.Describes scope later owner method :=
  { describes with
    parameters :=
      describes.parameters.imp (fun _ _ parameter => parameter.grow furnished grows only)
    returnType := describes.returnType.grow furnished grows only }

/-- So is any member; a method that is there keeps its entry. -/
theorem MemberDecl.Describes.grow {owner : TypeId} {declaration : MemberDecl} {member : Member}
    (describes : MemberDecl.Describes scope table owner declaration member)
    : MemberDecl.Describes scope later owner declaration member := by
  cases describes with
  | method there describes =>
      have same := grows.method there
      refine .method (Nat.lt_of_lt_of_le there grows.methods) ?_
      rw [same]
      exact describes.grow furnished grows only
  | field spells => exact .field (spells.grow furnished grows only)

/-- What describes a type goes on describing it if neither its symbol nor its base changes, since
the spellings of its base and of its members stand for the same types.
-/
theorem TypeDecl.Describes.grow_of_symbol {declaration : TypeDecl} {type : TypeId}
    (describes : declaration.Describes scope table type)
    (same : later.symbol type = table.symbol type)
    : declaration.Describes scope later type := by
  have base : later.base? type = table.base? type := by rw [TypeTable.base?, same]; rfl
  exact {
    name := by rw [same, describes.name]
    kind := by rw [same, base, describes.kind]
    base := by
      rw [base]
      exact optionRel_imp (fun _ _ spells => spells.grow furnished grows only) describes.base
    members := by
      rw [same]
      exact describes.members.imp (fun _ _ member => member.grow furnished grows only)
    useSite := by rw [same, describes.useSite]
  }

end

end EntryPoints
