import EntryPoints.TypeTable.Basic

/-! Lookups along the members, the base chain and the element chain of a type. -/

namespace EntryPoints.TypeTable

/-- The types met from `start` on when `next` is followed for at most `limit` steps. -/
def follow (next : TypeId → Option TypeId) : Nat → TypeId → List TypeId
  | 0, start => [start]
  | limit + 1, start =>
      match next start with
      | none => [start]
      | some following => start :: follow next limit following

def base? (table : TypeTable) (type : TypeId) : Option TypeId :=
  (table.symbol type).base?

def element? (table : TypeTable) (type : TypeId) : Option TypeId :=
  (table.symbol type).element?

/-- A type and its bases, nearest first. A chain that ends has no type twice, so it is no longer
than the table. -/
def baseChain (table : TypeTable) (type : TypeId) : List TypeId :=
  follow table.base? table.typeCount type

/-- A type, its element type, the element type of that, and so on. -/
def elementChain (table : TypeTable) (type : TypeId) : List TypeId :=
  follow table.element? table.typeCount type

/-- The members that a type itself declares under a name, in the order of declaration. -/
def lookup (table : TypeTable) (type : TypeId) (name : String) : List Member :=
  (table.symbol type).members.filter (fun member => table.memberName member == name)

/-- The nearest type of the base chain that declares the name, with what it declares under it. A
declaration on a derived type hides all those on its bases. -/
def lookupInHierarchy (table : TypeTable) (type : TypeId) (name : String)
    : Option (TypeId × List Member) :=
  ((table.baseChain type).find? (fun owner => !(table.lookup owner name).isEmpty)).map
    (fun owner => (owner, table.lookup owner name))

/-- A type derives from itself and from all of its bases. -/
def isDerivedFrom (table : TypeTable) (type base : TypeId) : Bool :=
  (table.baseChain type).contains base

/-- The diagnostic to report where a type is used: its own, or else that of its element type. -/
def useSite? (table : TypeTable) (type : TypeId) : Option DiagnosticInfo :=
  (table.elementChain type).findSome? (fun id => (table.symbol id).useSite)

/-- The methods of one kind that a type declares. -/
def methodsOfKind (table : TypeTable) (type : TypeId) (kind : MethodKind) : List MethodId :=
  (table.symbol type).members.filterMap fun
    | .method id => if (table.method id).kind == kind then some id else none
    | .field _ _ => none

/-- The one method of that kind; none if the type declares several. -/
def singleMethodOfKind? (table : TypeTable) (type : TypeId) (kind : MethodKind)
    : Option MethodId :=
  match table.methodsOfKind type kind with
  | [id] => some id
  | _ => none

/-- The one constructor of a script or submission class. -/
def scriptConstructor? (table : TypeTable) (type : TypeId) : Option MethodId :=
  table.singleMethodOfKind? type .constructor

/-- The one initializer of a script or submission class. -/
def scriptInitializer? (table : TypeTable) (type : TypeId) : Option MethodId :=
  table.singleMethodOfKind? type .initializer

/-- The first method of that name that the type declares. -/
def methodByName? (table : TypeTable) (containing : TypeId) (name : String) : Option MethodId :=
  (table.symbol containing).members.findSome? fun
    | .method id => if (table.method id).name == name then some id else none
    | .field _ _ => none

end EntryPoints.TypeTable
