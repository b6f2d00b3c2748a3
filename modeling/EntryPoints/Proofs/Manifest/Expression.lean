import EntryPoints.Manifest.Spelling
import EntryPoints.Proofs.TypeTable.Futures

/-! Type expressions: what spellings stand for, apart from any table, and the types that they denote
in a table.
-/

namespace EntryPoints

/-- The types that spellings stand for, and those that come with them. -/
inductive TypeExpression where
  /-- The error type, which no spelling stands for. -/
  | error
  | special (special : SpecialType)
  | declared (name : String)
  | array (element : TypeExpression)
  /-- The platform's future type. -/
  | task
  | taskAwaiter
  | taskOf (result : TypeExpression)
  /-- The awaiter of a generic task, which no spelling stands for. -/
  | taskAwaiterOf (result : TypeExpression)
  deriving DecidableEq, Repr

/-- What the reading of a spelling depends on. -/
structure KnownNames where
  declared : String → Bool
  platformTasks : Bool

/-- What spellings may mention in a scope, apart from the types behind the names. -/
def Scope.known (scope : Scope) : KnownNames where
  declared name := (scope.find? name).isSome
  platformTasks := scope.platformTasks

namespace TypeExpression

/-- Reads a spelling without a table. -/
def read (known : KnownNames) (spelling : List Char) : Except BuildError TypeExpression :=
  let trimmed := Text.trim spelling
  let name := String.ofList trimmed
  match _isArray : Scope.elementSpelling? trimmed with
  | some element => (read known element).map array
  | none =>
      match SpecialType.ofKeyword? name with
      | some keyword => .ok (.special keyword)
      | none =>
          if known.declared name then
            .ok (.declared name)
          else
            match _isTask : Scope.resultSpelling? trimmed with
            | some result =>
                if known.platformTasks then
                  (read known result).map taskOf
                else
                  .error (.tasksDisabled name)
            | none =>
                if name = "Task" ∨ name = "TaskAwaiter" then
                  if known.platformTasks then
                    .ok (if name = "Task" then .task else .taskAwaiter)
                  else
                    .error (.tasksDisabled name)
                else
                  .error (.unknownType name)
termination_by spelling.length
decreasing_by
  · exact Nat.lt_of_lt_of_le (Scope.length_elementSpelling? _isArray)
      (Text.length_trim_le spelling)
  · exact Nat.lt_of_lt_of_le (Scope.length_resultSpelling? _isTask)
      (Text.length_trim_le spelling)

------------------------------------------------------------------------------------------
-- The readings of a spelling, by its form

section
variable {known : KnownNames} {spelling : List Char}

/-- A spelling that ends in brackets is read as the array of what stands before them, whatever that
is.
-/
theorem read_of_element {element : List Char}
    (isArray : Scope.elementSpelling? (Text.trim spelling) = some element)
    : read known spelling = (read known element).map array := by
  rw [read]
  split
  · next other isArray' =>
    rw [Option.some.inj (isArray.symm.trans isArray')]
  · next noArray => simp [isArray] at noArray

variable (noArray : Scope.elementSpelling? (Text.trim spelling) = none)
include noArray

/-- A spelling that is the keyword of a special type is read as that type, before any declared name
is looked at.
-/
theorem read_of_keyword {special : SpecialType}
    (keyword : SpecialType.ofKeyword? (String.ofList (Text.trim spelling)) = some special)
    : read known spelling = .ok (.special special) := by
  rw [read]
  split
  · next isArray => simp [noArray] at isArray
  · rw [keyword]

variable (noKeyword : SpecialType.ofKeyword? (String.ofList (Text.trim spelling)) = none)
include noKeyword

/-- A declared name is read as the type that was declared, even where the platform has a type of
that name.
-/
theorem read_of_declared (declared : known.declared (String.ofList (Text.trim spelling)) = true)
    : read known spelling = .ok (.declared (String.ofList (Text.trim spelling))) := by
  rw [read]
  split
  · next isArray => simp [noArray] at isArray
  · simp only [noKeyword, declared, if_true]

variable (undeclared : known.declared (String.ofList (Text.trim spelling)) = false)
include undeclared

/-- A spelling of a generic task is read as the task of what stands between the angle brackets, if
the platform's future types are there, and is refused otherwise.
-/
theorem read_of_result {result : List Char}
    (isTask : Scope.resultSpelling? (Text.trim spelling) = some result)
    : read known spelling
      = if known.platformTasks then (read known result).map taskOf
        else .error (.tasksDisabled (String.ofList (Text.trim spelling))) := by
  rw [read]
  split
  · next isArray => simp [noArray] at isArray
  · simp only [noKeyword, undeclared, Bool.false_eq_true, if_false]
    split
    · next other isTask' => rw [Option.some.inj (isTask.symm.trans isTask')]
    · next noTask => simp [isTask] at noTask

/-- Any other spelling is the name of one of the platform's future types, or unknown. -/
theorem read_of_name (noTask : Scope.resultSpelling? (Text.trim spelling) = none)
    : read known spelling
      = if String.ofList (Text.trim spelling) = "Task"
            ∨ String.ofList (Text.trim spelling) = "TaskAwaiter" then
          if known.platformTasks then
            .ok (if String.ofList (Text.trim spelling) = "Task" then .task else .taskAwaiter)
          else .error (.tasksDisabled (String.ofList (Text.trim spelling)))
        else .error (.unknownType (String.ofList (Text.trim spelling))) := by
  rw [read]
  split
  · next isArray => simp [noArray] at isArray
  · simp only [noKeyword, undeclared, Bool.false_eq_true, if_false]
    split
    · next isTask => simp [noTask] at isTask
    · rfl

end

end TypeExpression

------------------------------------------------------------------------------------------
-- Denotation

/-- The type that an expression denotes in a table. Arrays and generic tasks have to be there. -/
inductive Denotes (scope : Scope) (table : TypeTable) : TypeExpression → TypeId → Prop where
  | error : Denotes scope table .error TypeTable.errorType
  | special (special : SpecialType) : Denotes scope table (.special special) special.id
  | declared {name : String} {type : TypeId} (found : scope.find? name = some type)
    : Denotes scope table (.declared name) type
  | array {expression : TypeExpression} {element array : TypeId}
      (inner : Denotes scope table expression element)
      (known : table.arrayType? element = some array)
    : Denotes scope table (.array expression) array
  | task : Denotes scope table .task table.wellKnownTask
  | taskAwaiter {task : TypeId} (registered : table.task = some task)
    : Denotes scope table .taskAwaiter (table.awaiterOf task)
  | taskOf {expression : TypeExpression} {result task : TypeId}
      (inner : Denotes scope table expression result)
      (known : table.genericTasks.lookup result = some task)
    : Denotes scope table (.taskOf expression) task
  | taskAwaiterOf {expression : TypeExpression} {result task : TypeId}
      (inner : Denotes scope table expression result)
      (known : table.genericTasks.lookup result = some task)
    : Denotes scope table (.taskAwaiterOf expression) (table.awaiterOf task)

/-- A registered future type is what the expression for it denotes. -/
theorem Denotes.plainTask {scope : Scope} {table : TypeTable} {task : TypeId}
    (registered : table.task = some task)
    : Denotes scope table .task task := by
  have same : table.wellKnownTask = task := by
    rw [TypeTable.wellKnownTask, registered]
    rfl
  exact same ▸ .task

/-- The spelling stands for the type. -/
def Spells (scope : Scope) (table : TypeTable) (spelling : String) (type : TypeId) : Prop :=
  ∃ expression,
    TypeExpression.read scope.known spelling.toList = .ok expression
    ∧ Denotes scope table expression type

/-- An expression denotes one type at most.
By induction on it: the parts of an expression denote one type each, and a table knows one array of
an element and one task of a result.
-/
theorem Denotes.unique {scope : Scope} {table : TypeTable} {expression : TypeExpression}
    {type other : TypeId} (h : Denotes scope table expression type)
    (h' : Denotes scope table expression other)
    : type = other := by
  induction h generalizing other with
  | error =>
      cases h'
      rfl
  | special special =>
      cases h'
      rfl
  | declared found =>
      cases h' with
      | declared found' => exact Option.some.inj (found.symm.trans found')
  | array _ known ih =>
      cases h' with
      | array inner' known' =>
          obtain rfl := ih inner'
          exact Option.some.inj (known.symm.trans known')
  | task =>
      cases h'
      rfl
  | taskAwaiter registered =>
      cases h' with
      | taskAwaiter registered' =>
          rw [Option.some.inj (registered.symm.trans registered')]
  | taskOf _ known ih =>
      cases h' with
      | taskOf inner' known' =>
          obtain rfl := ih inner'
          exact Option.some.inj (known.symm.trans known')
  | taskAwaiterOf _ known ih =>
      cases h' with
      | taskAwaiterOf inner' known' =>
          obtain rfl := ih inner'
          rw [Option.some.inj (known.symm.trans known')]

end EntryPoints
