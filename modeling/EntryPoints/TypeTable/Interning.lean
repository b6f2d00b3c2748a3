import EntryPoints.TypeTable.Lookup

/-! Arrays, the platform's future types and generic tasks are made once and then found again. -/

namespace EntryPoints

/-- The platform's future type and its awaiter. -/
structure TaskTypes where
  task : TypeId
  awaiter : TypeId
  deriving DecidableEq, Repr, Inhabited

namespace TypeTable

/-- The array type of an element type, made on first demand. -/
def arrayOf (table : TypeTable) (element : TypeId) : TypeId × TypeTable :=
  match table.arrayType? element with
  | some array => (array, table)
  | none =>
      let (array, extended) :=
        table.addType
          { name := arrayName (table.displayName element), kind := .array element }
      (array, { extended with arrays := (element, array) :: extended.arrays })

/-- What the first method called `GetAwaiter` on a type returns. -/
def awaiterOf (table : TypeTable) (type : TypeId) : TypeId :=
  match table.methodByName? type WellKnownMember.getAwaiter.spelling with
  | some id => (table.method id).returnType
  | none => errorType

/-- The platform's future types, defined on first demand: `GetAwaiter` on `Task` returns a
`TaskAwaiter`, on which `GetResult` returns nothing. -/
def definePlatformTasks (table : TypeTable) : TaskTypes × TypeTable :=
  match table.task with
  | some task => (⟨task, table.awaiterOf task⟩, table)
  | none =>
      let (awaiter, table) := table.defineType "TaskAwaiter" .structType none
      let (_, table) :=
        table.defineMethod awaiter
          (.ordinary WellKnownMember.getResult.spelling SpecialType.void.id)
      let (task, table) := table.defineType "Task" .classType none
      let (_, table) :=
        table.defineMethod task (.ordinary WellKnownMember.getAwaiter.spelling awaiter)
      (⟨task, awaiter⟩, table.registerTask task)

/-- The task with a result of that type, made on first demand. It derives from the platform's
future type and has an awaiter of its own, on which `GetResult` returns the result. -/
def taskOf (table : TypeTable) (result : TypeId) : TypeId × TypeTable :=
  match table.genericTasks.lookup result with
  | some task => (task, table)
  | none =>
      let (platform, table) := table.definePlatformTasks
      let resultName := table.displayName result
      let (awaiter, table) :=
        table.addType
          { name := taskAwaiterName resultName, kind := .named .structType none [result] }
      let (_, table) :=
        table.defineMethod awaiter (.ordinary WellKnownMember.getResult.spelling result)
      let (task, table) :=
        table.addType
          { name := taskName resultName, kind := .named .classType (some platform.task) [result] }
      let (_, table) :=
        table.defineMethod task (.ordinary WellKnownMember.getAwaiter.spelling awaiter)
      (task, { table with genericTasks := (result, task) :: table.genericTasks })

/-- A new table with the platform's future types. -/
def withPlatformTasks : TypeTable :=
  empty.definePlatformTasks.2

end TypeTable

end EntryPoints
