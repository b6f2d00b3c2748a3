import EntryPoints.Manifest.Basic
import EntryPoints.Manifest.Spelling
import EntryPoints.Synthesis.Strategy
import EntryPoints.Vocabulary.SyntheticName

/-! Manifests turned into tables. All types are declared before any member, so that members and
bases may mention types that are declared later.
-/

namespace EntryPoints

/-- A table with what synthesis asks for besides. -/
structure LoadedCompilation where
  table : TypeTable
  kind : CompilationKind
  candidate : Option MethodId
  deriving DecidableEq, Repr, Inhabited

namespace Manifest

------------------------------------------------------------------------------------------
-- Declarations

/-- Adds a declared type to the table, without its base and members. -/
def declareType (declaration : TypeDecl) (table : TypeTable) : TypeId × TypeTable :=
  let (id, table) := table.defineType declaration.name declaration.kind none
  if declaration.bogus then
    (id, table.setUseSite id { code := .bogusType, arguments := [declaration.name] })
  else
    (id, table)

/-- Declares the types in order, as long as each has a name of its own. -/
def declareTypes (scope : Scope) (table : TypeTable)
    : List TypeDecl → Except BuildError (Scope × TypeTable)
  | [] => .ok (scope, table)
  | declaration :: rest =>
      if (scope.find? declaration.name).isSome then
        .error (.duplicateType declaration.name)
      else
        let (id, table) := declareType declaration table
        declareTypes { scope with declared := (declaration.name, id) :: scope.declared } table
          rest

/-- Resolves a spelling, or ends the build. -/
def resolved (scope : Scope) (spelling : String) (table : TypeTable)
    : Except BuildError (TypeId × TypeTable) :=
  match scope.resolve spelling.toList table with
  | (.error error, _) => .error error
  | (.ok id, table) => .ok (id, table)

/-- The parameters of a method. One without a name has the conventional one. -/
def resolveParameters (scope : Scope) (table : TypeTable)
    : List ParameterDecl → Except BuildError (List (String × TypeId) × TypeTable)
  | [] => .ok ([], table)
  | parameter :: rest =>
      match resolved scope parameter.type table with
      | .error error => .error error
      | .ok (type, table) =>
          match resolveParameters scope table rest with
          | .error error => .error error
          | .ok (parameters, table) =>
              let name := parameter.name.getD SyntheticName.argsParameter.spelling
              .ok ((name, type) :: parameters, table)

/-- The signature by kind and name alone. -/
def baseSignature (owner : String) (declaration : MethodDecl) (returns : TypeId)
    : Except BuildError MethodSignature :=
  match declaration.kind, declaration.name with
  | .ordinary, some name => .ok (.ordinary name returns)
  | .ordinary, none => .error (.unnamedMethod owner)
  | .constructor, _ => .ok (.constructor returns)
  | .initializer, _ => .ok (.initializer returns)

/-- The signature that a declaration describes: what it returns comes first, then a missing name,
then its parameters. -/
def signature (scope : Scope) (owner : String) (declaration : MethodDecl) (table : TypeTable)
    : Except BuildError (MethodSignature × TypeTable) :=
  match resolved scope (declaration.returns.getD SpecialType.void.keyword) table with
  | .error error => .error error
  | .ok (returns, table) =>
      match baseSignature owner declaration returns with
      | .error error => .error error
      | .ok signature =>
          match resolveParameters scope table declaration.parameters with
          | .error error => .error error
          | .ok (parameters, table) =>
              .ok (
                { signature with
                  parameters
                  accessibility := declaration.accessibility.getD signature.accessibility
                  isStatic := declaration.isStatic
                  isAsync := declaration.isAsync
                  isVirtual := declaration.isVirtual
                  location :=
                    declaration.location.map (fun (start, stop) => .span start stop) },
                table)

def declareMember (scope : Scope) (ownerName : String) (owner : TypeId) (table : TypeTable)
    : MemberDecl → Except BuildError TypeTable
  | .method declaration =>
      match signature scope ownerName declaration table with
      | .error error => .error error
      | .ok (signature, table) => .ok (table.defineMethod owner signature).2
  | .field declaration =>
      match resolved scope declaration.type table with
      | .error error => .error error
      | .ok (type, table) => .ok (table.defineField owner declaration.name type)

def declareMembers (scope : Scope) (ownerName : String) (owner : TypeId) (table : TypeTable)
    : List MemberDecl → Except BuildError TypeTable
  | [] => .ok table
  | member :: rest =>
      match declareMember scope ownerName owner table member with
      | .error error => .error error
      | .ok table => declareMembers scope ownerName owner table rest

/-- Sets the base that a type declares. -/
def declareBase (scope : Scope) (owner : TypeId) (table : TypeTable)
    : Option String → Except BuildError TypeTable
  | none => .ok table
  | some spelling =>
      match resolved scope spelling table with
      | .error error => .error error
      | .ok (base, table) => .ok (table.setBase owner base)

/-- Completes the declared types in order, each with its base and then its members. -/
def completeTypes (scope : Scope) (table : TypeTable)
    : List TypeDecl → Except BuildError TypeTable
  | [] => .ok table
  | declaration :: rest =>
      let owner := (scope.find? declaration.name).getD TypeTable.errorType
      match declareBase scope owner table declaration.base with
      | .error error => .error error
      | .ok table =>
          match declareMembers scope declaration.name owner table declaration.members with
          | .error error => .error error
          | .ok table => completeTypes scope table rest

------------------------------------------------------------------------------------------
-- Cycles

/-- Follows the base chain for as many types as a chain without a cycle can have, and says whether
it comes back to its start or goes on. -/
def isCyclic (table : TypeTable) (start : TypeId) : Nat → Option TypeId → Bool
  | _, none => false
  | 0, some _ => true
  | limit + 1, some id => id == start || isCyclic table start limit (table.base? id)

/-- The first declared type whose base chain never ends. Such a chain may leave the declared types
through a generic task and the platform's future type, of which it has at most one each. -/
def firstCyclic? (scope : Scope) (table : TypeTable) (types : List TypeDecl) : Option TypeDecl :=
  types.find? fun declaration =>
    let start := (scope.find? declaration.name).getD TypeTable.errorType
    isCyclic table start (types.length + 1) (table.base? start)

------------------------------------------------------------------------------------------
-- The compilation

/-- The text before the last dot and the text after it. -/
def splitAtLastDot? (path : String) : Option (String × String) :=
  let reversed := path.toList.reverse
  match reversed.dropWhile (· != '.') with
  | [] => none
  | _ :: owner =>
      some (String.ofList owner.reverse,
        String.ofList (reversed.takeWhile (· != '.')).reverse)

/-- A declared type by its exact name. -/
def declaredType (scope : Scope) (name : String) : Except BuildError TypeId :=
  match scope.find? name with
  | some id => .ok id
  | none => .error (.unknownType name)

/-- The method at a path. Only an ordinary method can be the main of a program. -/
def findMain (scope : Scope) (table : TypeTable) (path : String) : Except BuildError MethodId :=
  match splitAtLastDot? path with
  | none => .error (.unknownMethod path)
  | some (typeName, methodName) =>
      match declaredType scope typeName with
      | .error error => .error error
      | .ok owner =>
          match table.methodByName? owner methodName with
          | none => .error (.unknownMethod path)
          | some id =>
              if (table.method id).kind = .ordinary then .ok id
              else .error (.unknownMethod path)

/-- What kind of compilation it is, and the main that a program names. -/
def findCompilation (scope : Scope) (table : TypeTable)
    : CompilationDecl → Except BuildError (CompilationKind × Option MethodId)
  | .regular none => .ok (.regular, none)
  | .regular (some path) =>
      match findMain scope table path with
      | .error error => .error error
      | .ok main => .ok (.regular, some main)
  | .script className =>
      match declaredType scope className with
      | .error error => .error error
      | .ok id => .ok (.script id, none)
  | .submission className =>
      match declaredType scope className with
      | .error error => .error error
      | .ok id => .ok (.submission id, none)

/-- The table that a manifest starts from. -/
def startingTable (manifest : Manifest) : TypeTable :=
  if manifest.platformTasks then TypeTable.withPlatformTasks else TypeTable.empty

/-- Builds the compilation that a manifest describes, or finds the first thing wrong with it:
repeated names, then what types and members mention, then cycles, then the compilation. -/
def build (manifest : Manifest) : Except BuildError LoadedCompilation :=
  let scope : Scope := { platformTasks := manifest.platformTasks }
  match declareTypes scope manifest.startingTable manifest.types with
  | .error error => .error error
  | .ok (scope, table) =>
      match completeTypes scope table manifest.types with
      | .error error => .error error
      | .ok table =>
          match firstCyclic? scope table manifest.types with
          | some declaration => .error (.cyclicBase declaration.name)
          | none =>
              match findCompilation scope table manifest.compilation with
              | .error error => .error error
              | .ok (kind, candidate) => .ok { table, kind, candidate }

end Manifest

end EntryPoints
