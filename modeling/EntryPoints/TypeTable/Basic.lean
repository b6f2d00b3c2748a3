import EntryPoints.Symbol.Method

/-! The table of one compilation's types and methods, and the operations that extend it. -/

namespace EntryPoints

/-- Types and methods are numbered in the order of their creation. Arrays and generic tasks are
made once for each element or result type. -/
structure TypeTable where
  types : Array TypeSymbol
  methods : Array MethodSymbol := #[]
  /-- The array type made for an element type. -/
  arrays : List (TypeId × TypeId) := []
  /-- The generic task made for a result type. -/
  genericTasks : List (TypeId × TypeId) := []
  /-- The platform future type, once one is registered. -/
  task : Option TypeId := none
  deriving DecidableEq, Repr, Inhabited

/-- Where a new table holds each special type. -/
def SpecialType.id : SpecialType → TypeId
  | .void => ⟨1⟩
  | .boolean => ⟨2⟩
  | .int32 => ⟨3⟩
  | .string => ⟨4⟩
  | .object => ⟨5⟩

namespace TypeTable

/-- The name by which the platform knows its future type. -/
def taskMetadataName : String :=
  "System.Threading.Tasks.Task"

/-- The shared error type. -/
def errorType : TypeId :=
  ⟨0⟩

/-- The error type that stands in for the platform's future type while there is none. -/
def missingTask : TypeId :=
  ⟨10⟩

def arrayName (element : String) : String :=
  element ++ "[]"

def taskName (result : String) : String :=
  "Task<" ++ result ++ ">"

def taskAwaiterName (result : String) : String :=
  "TaskAwaiter<" ++ result ++ ">"

/-- The special types that a new table has arrays of. -/
def arrayElements : List SpecialType :=
  [.boolean, .int32, .string, .object]

/-- What stands in for the platform's future type carries a diagnostic to report on its use. -/
def missingTaskSymbol : TypeSymbol where
  name := taskMetadataName
  kind := .error
  useSite := some { code := .predefinedTypeNotFound, arguments := [taskMetadataName] }

def specialSymbol (special : SpecialType) : TypeSymbol where
  name := special.keyword
  kind := .special special

def specialArraySymbol (special : SpecialType) : TypeSymbol where
  name := arrayName special.keyword
  kind := .array special.id

/-- The types of a new table: the error type, the special types, their arrays and the stand-in
for the platform's future type. -/
def initialTypes : List TypeSymbol :=
  { name := "?", kind := .error } :: SpecialType.all.map specialSymbol
    ++ arrayElements.map specialArraySymbol ++ [missingTaskSymbol]

/-- A new table has no methods, and knows the arrays that it starts with. -/
def empty : TypeTable where
  types := initialTypes.toArray
  arrays := arrayElements.zipIdx.map (fun (special, position) => (special.id, ⟨6 + position⟩))

------------------------------------------------------------------------------------------
-- Queries by identity

/-- A table has the types that it was given; any other id stands for an error type. -/
def symbol (table : TypeTable) (type : TypeId) : TypeSymbol :=
  table.types[type.index]?.getD { name := "", kind := .error }

def method (table : TypeTable) (id : MethodId) : MethodSymbol :=
  table.methods[id.index]?.getD default

def typeCount (table : TypeTable) : Nat :=
  table.types.size

/-- The name of a type in messages and in rendered code. -/
def displayName (table : TypeTable) (type : TypeId) : String :=
  (table.symbol type).name

def memberName (table : TypeTable) : Member → String
  | .method id => (table.method id).name
  | .field name _ => name

def arrayType? (table : TypeTable) (element : TypeId) : Option TypeId :=
  table.arrays.lookup element

/-- The platform future type, or the error type in its place. -/
def wellKnownTask (table : TypeTable) : TypeId :=
  table.task.getD missingTask

/-- The first type of that name, error types apart. -/
def typeByName? (table : TypeTable) (name : String) : Option TypeId :=
  (table.types.findIdx? (fun symbol => symbol.name == name && !symbol.isError)).map TypeId.mk

------------------------------------------------------------------------------------------
-- Declarations

def addType (table : TypeTable) (symbol : TypeSymbol) : TypeId × TypeTable :=
  (⟨table.types.size⟩, { table with types := table.types.push symbol })

/-- Changes one type and leaves all others as they are. -/
def modifyType (table : TypeTable) (type : TypeId) (change : TypeSymbol → TypeSymbol)
    : TypeTable :=
  { table with types := table.types.modify type.index change }

def defineType (table : TypeTable) (name : String) (kind : NamedKind) (base : Option TypeId)
    : TypeId × TypeTable :=
  table.addType { name, kind := .named kind base [] }

def setBase (table : TypeTable) (type base : TypeId) : TypeTable :=
  table.modifyType type (fun symbol => symbol.withBase base)

def setUseSite (table : TypeTable) (type : TypeId) (info : DiagnosticInfo) : TypeTable :=
  table.modifyType type (fun symbol => symbol.withUseSite info)

/-- Declares a method and makes it the last member of its type. -/
def defineMethod (table : TypeTable) (containing : TypeId) (signature : MethodSignature)
    : MethodId × TypeTable :=
  let id : MethodId := ⟨table.methods.size⟩
  let extended := { table with methods := table.methods.push (signature.declaredOn containing) }
  (id, extended.modifyType containing (fun symbol => symbol.addMember (.method id)))

/-- Declares a field and makes it the last member of its type. -/
def defineField (table : TypeTable) (containing : TypeId) (name : String) (type : TypeId)
    : TypeTable :=
  table.modifyType containing (fun symbol => symbol.addMember (.field name type))

def registerTask (table : TypeTable) (type : TypeId) : TypeTable :=
  { table with task := some type }

end TypeTable

end EntryPoints
