import EntryPoints.Proofs.TypeTable.Growth

/-! The platform's futures come in pairs: a future whose `GetAwaiter` returns its awaiter, and the
awaiter, whose `GetResult` returns the result. The plain task and every generic one are made in the
same way.
-/

namespace EntryPoints

/-- What tells one pair of future and awaiter from another. -/
structure FutureShape where
  name : String
  awaiterName : String
  base : Option TypeId
  typeArguments : List TypeId
  result : TypeId

namespace FutureShape

/-- The future of a pair, before it has members. -/
def futureSymbol (shape : FutureShape) : TypeSymbol where
  name := shape.name
  kind := .named .classType shape.base shape.typeArguments

/-- The awaiter of a pair, before it has members. -/
def awaiterSymbol (shape : FutureShape) : TypeSymbol where
  name := shape.awaiterName
  kind := .named .structType none shape.typeArguments

/-- The plain task, whose result is nothing. -/
def plain : FutureShape where
  name := "Task"
  awaiterName := "TaskAwaiter"
  base := none
  typeArguments := []
  result := SpecialType.void.id

/-- The task with a result, which derives from the plain one. -/
def generic (table : TypeTable) (plainTask result : TypeId) : FutureShape where
  name := TypeTable.taskName (table.displayName result)
  awaiterName := TypeTable.taskAwaiterName (table.displayName result)
  base := some plainTask
  typeArguments := [result]
  result := result

end FutureShape

namespace TypeTable

/-- The pair is in the table with nothing but its two methods. -/
structure HoldsFuture (table : TypeTable) (shape : FutureShape) (future awaiter : TypeId)
    (getAwaiter getResult : MethodId)
    : Prop where
  futureSymbol : table.symbol future = shape.futureSymbol.addMember (.method getAwaiter)
  awaiterSymbol : table.symbol awaiter = shape.awaiterSymbol.addMember (.method getResult)
  getAwaiterMethod
    : table.method getAwaiter
      = (MethodSignature.ordinary WellKnownMember.getAwaiter.spelling awaiter).declaredOn future
  getResultMethod
    : table.method getResult
      = (MethodSignature.ordinary WellKnownMember.getResult.spelling shape.result).declaredOn
          awaiter
  getAwaiterThere : getAwaiter.index < table.methods.size
  getResultThere : getResult.index < table.methods.size

------------------------------------------------------------------------------------------
-- A new type with one method

/-- Adds a type that declares one method. -/
def addTypeWith (table : TypeTable) (symbol : TypeSymbol) (signature : MethodSignature)
    : TypeTable :=
  ((table.addType symbol).2.defineMethod ⟨table.typeCount⟩ signature).2

section
variable (table : TypeTable) (symbol : TypeSymbol) (signature : MethodSignature)

/-- A type with a method is one type more. -/
@[simp]
theorem typeCount_addTypeWith
    : (table.addTypeWith symbol signature).typeCount = table.typeCount + 1 := by
  simp [addTypeWith, addType, defineMethod, modifyType, typeCount]

/-- It is one method more as well. -/
@[simp]
theorem size_methods_addTypeWith
    : (table.addTypeWith symbol signature).methods.size = table.methods.size + 1 := by
  simp [addTypeWith, addType, defineMethod, modifyType]

/-- The new type has the next id and lists the method, and all others stay as they are. -/
@[simp]
theorem symbol_addTypeWith (type : TypeId)
    : (table.addTypeWith symbol signature).symbol type
      = if type = ⟨table.typeCount⟩ then symbol.addMember (.method ⟨table.methods.size⟩)
        else table.symbol type := by
  have there : (table.addType symbol).2.Has ⟨table.typeCount⟩ := by
    simp [Has, addType, typeCount]
  rw [addTypeWith, symbol_defineMethod, symbol_addType]
  by_cases new : type = ⟨table.typeCount⟩
  · rw [if_pos ⟨new, there⟩, if_pos new, if_pos new]
    rfl
  · rw [if_neg (fun both => new both.1), if_neg new, if_neg new]

/-- The new method has the next id and is declared on the new type, and all others stay as they are.
-/
@[simp]
theorem method_addTypeWith (id : MethodId)
    : (table.addTypeWith symbol signature).method id
      = if id = ⟨table.methods.size⟩ then signature.declaredOn ⟨table.typeCount⟩
        else table.method id :=
  method_defineMethod (table.addType symbol).2 ⟨table.typeCount⟩ signature id

/-- Adding a type with a method touches the new type only: the method is declared on it. -/
theorem addTypeWith_extends : Extends table (table.addTypeWith symbol signature) := by
  have declared :=
    Grows.defineMethod (table.addType symbol).2 ⟨table.typeCount⟩ signature
  have added : Grows (· = ⟨table.typeCount⟩) table (table.addType symbol).2 :=
    (Grows.addType table symbol).mono nofun
  refine (added.trans declared).extends_of_new ?_
  rintro type there rfl
  exact Nat.lt_irrefl _ there

end

------------------------------------------------------------------------------------------
-- Making a pair

/-- Makes a pair: the awaiter, and then the future. -/
def makeFuture (table : TypeTable) (shape : FutureShape) : TaskTypes × TypeTable :=
  let awaiter : TypeId := ⟨table.typeCount⟩
  let task : TypeId := ⟨table.typeCount + 1⟩
  let getResult := .ordinary WellKnownMember.getResult.spelling shape.result
  let getAwaiter := .ordinary WellKnownMember.getAwaiter.spelling awaiter
  (⟨task, awaiter⟩,
    (table.addTypeWith shape.awaiterSymbol getResult).addTypeWith shape.futureSymbol getAwaiter)

/-- A registered future type is found, with what its first `GetAwaiter` returns, and the table stays
as it is.
-/
theorem definePlatformTasks_of_registered {table : TypeTable} {task : TypeId}
    (registered : table.task = some task)
    : table.definePlatformTasks = (⟨task, table.awaiterOf task⟩, table) := by
  simp [definePlatformTasks, registered]

/-- Where none is registered a plain pair of future and awaiter is made, and the future is
registered.
-/
theorem definePlatformTasks_of_absent {table : TypeTable} (absent : table.task = none)
    : table.definePlatformTasks
      = ((table.makeFuture .plain).1,
        (table.makeFuture .plain).2.registerTask (table.makeFuture .plain).1.task) := by
  simp [definePlatformTasks, absent, makeFuture, addTypeWith, defineType, addType, defineMethod,
    modifyType, typeCount, FutureShape.plain, FutureShape.awaiterSymbol,
    FutureShape.futureSymbol]

/-- A known generic task is found, and the table stays as it is. -/
theorem taskOf_of_known {table : TypeTable} {result task : TypeId}
    (known : table.genericTasks.lookup result = some task)
    : table.taskOf result = (task, table) := by
  simp [taskOf, known]

/-- A new generic task is made as a pair behind the platform's future types, which are made first if
they are missing, and is known from then on.
-/
theorem taskOf_of_unknown {table : TypeTable} {result : TypeId}
    (new : table.genericTasks.lookup result = none)
    : table.taskOf result
      = (⟨table.definePlatformTasks.2.typeCount + 1⟩,
        { (table.definePlatformTasks.2.makeFuture
            (.generic table.definePlatformTasks.2 table.definePlatformTasks.1.task result)).2 with
          genericTasks :=
            (result, ⟨table.definePlatformTasks.2.typeCount + 1⟩)
              :: table.definePlatformTasks.2.genericTasks }) := by
  simp [taskOf, new, makeFuture, addTypeWith, addType, defineMethod, modifyType, typeCount,
    FutureShape.generic, FutureShape.awaiterSymbol, FutureShape.futureSymbol]

/-- Where the platform's future type is registered, only the pair of the new generic task is made.
-/
theorem taskOf_of_new {table : TypeTable} {result task : TypeId}
    (new : table.genericTasks.lookup result = none) (registered : table.task = some task)
    : table.taskOf result
      = (⟨table.typeCount + 1⟩,
        { (table.makeFuture (.generic table task result)).2 with
          genericTasks := (result, ⟨table.typeCount + 1⟩) :: table.genericTasks }) := by
  rw [taskOf_of_unknown new, definePlatformTasks_of_registered registered]

section
variable (table : TypeTable) (shape : FutureShape)

/-- A pair is two types more. -/
@[simp]
theorem typeCount_makeFuture
    : (table.makeFuture shape).2.typeCount = table.typeCount + 2 := by
  simp [makeFuture]

/-- Making a pair changes nothing that was there, as adding each of its types does not. -/
theorem makeFuture_extends : Extends table (table.makeFuture shape).2 :=
  (addTypeWith_extends table _ _).trans (addTypeWith_extends _ _ _)

/-- The new pair has its two methods, which are the newest ones: the awaiter and its method are made
first.
-/
theorem makeFuture_holds
    : (table.makeFuture shape).2.HoldsFuture shape ⟨table.typeCount + 1⟩ ⟨table.typeCount⟩
        ⟨table.methods.size + 1⟩ ⟨table.methods.size⟩ where
  futureSymbol := by simp [makeFuture]
  awaiterSymbol := by simp [makeFuture]
  getAwaiterMethod := by simp [makeFuture]
  getResultMethod := by simp [makeFuture]
  getAwaiterThere := by simp [makeFuture]
  getResultThere := by
    simp only [makeFuture, size_methods_addTypeWith]
    omega

end

/-- A new generic task adds its pair, and nothing that was there changes.
By cases on whether it is known. The platform's future type is registered here, so it is not made as
well.
-/
theorem Grows.taskOf {table : TypeTable} {task : TypeId} (registered : table.task = some task)
    (result : TypeId)
    : Extends table (table.taskOf result).2 := by
  cases known : table.genericTasks.lookup result with
  | some generic =>
      rw [taskOf_of_known known]
      exact .refl _ table
  | none =>
      rw [taskOf_of_new known registered]
      have made := makeFuture_extends table (.generic table task result)
      exact {
        types := made.types
        symbol := made.symbol
        name := made.name
        isError := made.isError
        methods := made.methods
        method := made.method
        arrays := made.arrays
        genericTasks := by
          intro other generic found
          have different : other ≠ result := by
            rintro rfl
            simp [known] at found
          rw [List.lookup_cons, beq_eq_false_iff_ne.mpr different]
          exact found
        task := made.task
      }

/-- Making the platform's future types makes no generic task known. -/
@[simp]
theorem genericTasks_definePlatformTasks (table : TypeTable)
    : table.definePlatformTasks.2.genericTasks = table.genericTasks := by
  cases registered : table.task with
  | some task => rw [definePlatformTasks_of_registered registered]
  | none =>
      rw [definePlatformTasks_of_absent registered]
      rfl

/-- The generic task that was asked for is known afterwards, and so are those known before.
By cases on whether it was known, and if not, on whether the one looked for is the new one.
-/
theorem lookup_genericTasks_taskOf (table : TypeTable) (result other : TypeId)
    : (table.taskOf result).2.genericTasks.lookup other
      = if other = result then some (table.taskOf result).1
        else table.genericTasks.lookup other := by
  cases known : table.genericTasks.lookup result with
  | some generic =>
      rw [taskOf_of_known known]
      split
      · next same => rw [same, known]
      · rfl
  | none =>
      rw [taskOf_of_unknown known, genericTasks_definePlatformTasks, List.lookup_cons]
      by_cases same : other = result
      · simp [same]
      · simp [same, beq_eq_false_iff_ne.mpr same]

------------------------------------------------------------------------------------------
-- Pairs in later tables, and what they offer

section
variable {table later : TypeTable} {shape : FutureShape} {future awaiter : TypeId}
  {getAwaiter getResult : MethodId}

/-- The future of a pair is in the table, since it is a named type and not an error type. -/
theorem HoldsFuture.futureThere
    (holds : table.HoldsFuture shape future awaiter getAwaiter getResult)
    : table.Has future :=
  has_of_kind_ne_error (by rw [holds.futureSymbol]; nofun)

/-- So is its awaiter. -/
theorem HoldsFuture.awaiterThere
    (holds : table.HoldsFuture shape future awaiter getAwaiter getResult)
    : table.Has awaiter :=
  has_of_kind_ne_error (by rw [holds.awaiterSymbol]; nofun)

/-- A pair stays in later tables as long as neither of its types is touched, since its methods never
are.
-/
theorem HoldsFuture.grow {touched : TypeId → Prop}
    (holds : table.HoldsFuture shape future awaiter getAwaiter getResult)
    (grows : Grows touched table later) (futureKept : ¬ touched future)
    (awaiterKept : ¬ touched awaiter)
    : later.HoldsFuture shape future awaiter getAwaiter getResult where
  futureSymbol := (grows.symbol holds.futureThere futureKept).trans holds.futureSymbol
  awaiterSymbol := (grows.symbol holds.awaiterThere awaiterKept).trans holds.awaiterSymbol
  getAwaiterMethod := (grows.method holds.getAwaiterThere).trans holds.getAwaiterMethod
  getResultMethod := (grows.method holds.getResultThere).trans holds.getResultMethod
  getAwaiterThere := Nat.lt_of_lt_of_le holds.getAwaiterThere grows.methods
  getResultThere := Nat.lt_of_lt_of_le holds.getResultThere grows.methods

/-- The first `GetAwaiter` of a future is the one method that it has. -/
theorem HoldsFuture.methodByName?_getAwaiter
    (holds : table.HoldsFuture shape future awaiter getAwaiter getResult)
    : table.methodByName? future WellKnownMember.getAwaiter.spelling = some getAwaiter := by
  simp [methodByName?, holds.futureSymbol, TypeSymbol.addMember, FutureShape.futureSymbol,
    holds.getAwaiterMethod, MethodSignature.declaredOn, MethodSignature.ordinary]

/-- The awaiter of a future is what its only method returns. -/
theorem HoldsFuture.awaiterOf
    (holds : table.HoldsFuture shape future awaiter getAwaiter getResult)
    : table.awaiterOf future = awaiter := by
  simp [TypeTable.awaiterOf, holds.methodByName?_getAwaiter, holds.getAwaiterMethod,
    MethodSignature.declaredOn, MethodSignature.ordinary]

/-- What a table remembers besides its types and methods makes no difference. -/
theorem HoldsFuture.remember
    (holds : table.HoldsFuture shape future awaiter getAwaiter getResult)
    (arrays genericTasks : List (TypeId × TypeId)) (task : Option TypeId)
    : { table with arrays, genericTasks, task }.HoldsFuture shape future awaiter getAwaiter
        getResult :=
  ⟨holds.futureSymbol, holds.awaiterSymbol, holds.getAwaiterMethod, holds.getResultMethod,
    holds.getAwaiterThere, holds.getResultThere⟩

end

section
variable (table : TypeTable)

/-- The platform's future types, when they are made, are the newest types of their table, and have
the newest methods.
-/
theorem holdsFuture_definePlatformTasks_of_absent (absent : table.task = none)
    : table.definePlatformTasks.2.HoldsFuture .plain table.definePlatformTasks.1.task
        table.definePlatformTasks.1.awaiter ⟨table.methods.size + 1⟩ ⟨table.methods.size⟩ := by
  rw [definePlatformTasks_of_absent absent]
  exact (table.makeFuture_holds .plain).remember _ _ _

/-- The platform's future type is registered once it has been asked for; by cases on whether it was
before.
-/
@[simp]
theorem task_definePlatformTasks
    : table.definePlatformTasks.2.task = some table.definePlatformTasks.1.task := by
  cases registered : table.task with
  | some task =>
      rw [definePlatformTasks_of_registered registered]
      exact registered
  | none =>
      rw [definePlatformTasks_of_absent registered]
      rfl

/-- The platform's future types are made once: by their registration and the one method of the
future the pair is found again.
-/
theorem definePlatformTasks_again
    : table.definePlatformTasks.2.definePlatformTasks = table.definePlatformTasks := by
  rw [definePlatformTasks_of_registered (task_definePlatformTasks table)]
  cases registered : table.task with
  | some task => simp [definePlatformTasks_of_registered registered]
  | none => rw [(holdsFuture_definePlatformTasks_of_absent table registered).awaiterOf]

/-- A new generic task is made in the same way after the platform's future types were.
They are made only once, so asking for them beforehand leads to the same table.
-/
theorem taskOf_definePlatformTasks {result : TypeId}
    (unknown : table.genericTasks.lookup result = none)
    : table.definePlatformTasks.2.taskOf result = table.taskOf result := by
  rw [taskOf_of_unknown unknown, taskOf_of_unknown (by simpa using unknown),
    definePlatformTasks_again]

end

/-- A new generic task is the last type of its table, behind its awaiter, and derives from the
platform's future type.
-/
theorem holdsFuture_taskOf_of_unknown {table : TypeTable} {result : TypeId}
    (unknown : table.genericTasks.lookup result = none)
    : (table.taskOf result).2.HoldsFuture
        (.generic table.definePlatformTasks.2 table.definePlatformTasks.1.task result)
        (table.taskOf result).1 ⟨table.definePlatformTasks.2.typeCount⟩
        ⟨table.definePlatformTasks.2.methods.size + 1⟩
        ⟨table.definePlatformTasks.2.methods.size⟩ := by
  rw [taskOf_of_unknown unknown]
  exact (table.definePlatformTasks.2.makeFuture_holds _).remember _ _ _

/-- A new generic task leaves the platform's future type registered, which it derives from. -/
theorem task_taskOf_of_unknown {table : TypeTable} {result : TypeId}
    (unknown : table.genericTasks.lookup result = none)
    : (table.taskOf result).2.task = some table.definePlatformTasks.1.task := by
  rw [taskOf_of_unknown unknown]
  exact task_definePlatformTasks table

end TypeTable

end EntryPoints
