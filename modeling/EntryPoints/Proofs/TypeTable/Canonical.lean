import EntryPoints.Proofs.TypeTable.Names
import EntryPoints.Proofs.TypeTable.Persistence

/-! Interning over whole runs: an array, a generic task and the platform's pair of future types are
made once, and whatever is done in between, whoever asks again gets them and changes nothing.
-/

namespace EntryPoints.TypeTable

------------------------------------------------------------------------------------------
-- Generic tasks in reached tables

/-- The task is made for the result: so it is called, and the result is its type argument. -/
structure IsTaskOf (table : TypeTable) (result task : TypeId) : Prop where
  resultThere : table.Has result
  kind : (table.symbol task).kind.withoutBase = .named .classType none [result]
  name : table.displayName task = taskName (table.displayName result)

namespace IsTaskOf

variable {table later : TypeTable} {result task : TypeId}

/-- A generic task is in the table, since it is a named type. -/
theorem there (made : table.IsTaskOf result task) : table.Has task := by
  refine has_of_kind_ne_error (fun kind => ?_)
  simpa [kind, TypeKind.withoutBase] using made.kind

/-- A generic task stays one for its result: neither type changes its name, and no operation changes
the arguments of a type.
-/
theorem persist (made : table.IsTaskOf result task) (persists : table.PersistsIn later)
    : later.IsTaskOf result task where
  resultThere := persists.has made.resultThere
  kind := (persists.appends.symbol made.there).kind.trans made.kind
  name := by
    rw [persists.displayName made.there, persists.displayName made.resultThere, made.name]

/-- A task is made for one result only, which its kind tells: the result is its only argument. -/
theorem result_eq {other : TypeId} (made : table.IsTaskOf result task)
    (made' : table.IsTaskOf other task)
    : other = result := by
  simpa using made'.kind.symm.trans made.kind

/-- A generic task is a class with its result as its argument, whatever base it has got. -/
theorem kind_eq (made : table.IsTaskOf result task)
    : ∃ base, (table.symbol task).kind = .named .classType base [result] := by
  have kind := made.kind
  unfold TypeKind.withoutBase at kind
  split at kind
  · next kind' base typeArguments named =>
    cases kind
    exact ⟨base, named⟩
  · next unnamed => exact absurd kind (unnamed _ _ _)

/-- A generic task that is not known yet is made for its result.
Its pair is named after the result as that is called behind the platform's future types, which is as
it was called before them.
-/
theorem taskOf (unknown : table.genericTasks.lookup result = none) (there : table.Has result)
    : (table.taskOf result).2.IsTaskOf result (table.taskOf result).1 := by
  have holds := holdsFuture_taskOf_of_unknown unknown
  have platform : table.PersistsIn table.definePlatformTasks.2 :=
    .apply table .definePlatformTasks
  have persists : table.PersistsIn (table.taskOf result).2 := .apply table (.taskOf result)
  refine ⟨persists.has there, ?_, ?_⟩
  · rw [holds.futureSymbol]
    rfl
  · rw [persists.displayName there, ← platform.displayName there, displayName,
      holds.futureSymbol]
    rfl

end IsTaskOf

/-- The generic tasks of a table are made for their results, and only behind the platform's future
type.
-/
structure TasksInterned (table : TypeTable) : Prop where
  known
    : ∀ {result task},
        table.genericTasks.lookup result = some task → table.IsTaskOf result task
  platformFirst
    : ∀ {result}, table.task = none → table.genericTasks.lookup result = none

/-- A generic task that is known after an operation was known before, or it was just made; by cases
on the operation.
-/
theorem Operation.known_or_made (table : TypeTable) (operation : Operation)
    {result task : TypeId}
    (known : (operation.apply table).genericTasks.lookup result = some task)
    : table.genericTasks.lookup result = some task
      ∨ table.genericTasks.lookup result = none
        ∧ operation = .taskOf result
        ∧ task = (table.taskOf result).1 := by
  cases operation with
  | arrayOf element =>
      rw [Operation.apply, genericTasks_arrayOf] at known
      exact .inl known
  | definePlatformTasks =>
      rw [Operation.apply, genericTasks_definePlatformTasks] at known
      exact .inl known
  | taskOf other =>
      rw [Operation.apply, lookup_genericTasks_taskOf] at known
      split at known
      · next same =>
        subst same
        cases before : table.genericTasks.lookup result with
        | none => exact .inr ⟨rfl, rfl, (Option.some.inj known).symm⟩
        | some earlier =>
            rw [taskOf_of_known before] at known
            exact .inl known
      · exact .inl known
  | _ => exact .inl known

/-- Once a future type is registered, one always is, and the same one unless another is registered;
by cases on the operation.
-/
theorem Operation.task_apply (table : TypeTable) (operation : Operation) {task : TypeId}
    (registered : table.task = some task)
    : (operation.apply table).task = some task
      ∨ ∃ type, operation = .registerTask type ∧ (operation.apply table).task = some type := by
  cases operation with
  | arrayOf element => exact .inl ((Grows.arrayOf table element).task.trans registered)
  | registerTask type => exact .inr ⟨type, rfl, rfl⟩
  | definePlatformTasks =>
      rw [Operation.apply, definePlatformTasks_of_registered registered]
      exact .inl registered
  | taskOf result => exact .inl ((Grows.taskOf registered result).task.trans registered)
  | _ => exact .inl registered

namespace TasksInterned

/-- A new table knows no generic tasks. -/
theorem empty : empty.TasksInterned := by
  refine ⟨fun {result task} known => ?_, fun _ => rfl⟩
  simp [TypeTable.empty] at known

/-- An operation keeps the generic tasks interned.
Known tasks persist, and a new one is made for its result after the platform's future types. Where
none of these is registered afterwards none was registered before, so no task was known then, and
none was just made.
-/
theorem apply {table : TypeTable} (interned : table.TasksInterned) {operation : Operation}
    (fits : operation.Fits table)
    : (operation.apply table).TasksInterned where
  known {result task} known := by
    rcases operation.known_or_made table known with before | ⟨unknown, rfl, rfl⟩
    · exact (interned.known before).persist (.apply table operation)
    · exact .taskOf unknown (fits result (by simp [Operation.mentioned]))
  platformFirst {result} absent := by
    cases known : (operation.apply table).genericTasks.lookup result with
    | none => rfl
    | some generic =>
        exfalso
        rcases operation.known_or_made table known with before | ⟨unknown, rfl, -⟩
        · cases registered : table.task with
          | none => simp [interned.platformFirst registered] at before
          | some task =>
              rcases operation.task_apply table registered with kept | ⟨_, _, changed⟩
              · simp [kept] at absent
              · simp [changed] at absent
        · rw [Operation.apply, task_taskOf_of_unknown unknown] at absent
          cases absent

end TasksInterned

/-- The generic tasks of every reached table are interned, by induction over its operations. -/
theorem Reached.tasksInterned {table : TypeTable} (reached : table.Reached)
    : table.TasksInterned :=
  reached.keeps .empty (fun _ _ interned fits => interned.apply fits)

------------------------------------------------------------------------------------------
-- The platform's pair

/-- The pair is what a table finds as the platform's: a registered future type and what the first
`GetAwaiter` of it returns.
-/
structure FindsPlatform (table : TypeTable) (types : TaskTypes) : Prop where
  registered : table.task = some types.task
  getAwaiter
    : ∃ method,
        table.methodByName? types.task WellKnownMember.getAwaiter.spelling = some method
  awaiter : table.awaiterOf types.task = types.awaiter

namespace FindsPlatform

variable {table : TypeTable} {types : TaskTypes}

/-- A pair that is found is what a request for the platform's future types returns, and nothing
changes.
-/
theorem definePlatformTasks_eq (finds : table.FindsPlatform types)
    : table.definePlatformTasks = (types, table) := by
  rw [definePlatformTasks_of_registered finds.registered, finds.awaiter]

/-- Members that are added to the future come behind its first `GetAwaiter`, so no operation but a
registration makes a table find another pair.
-/
theorem apply (finds : table.FindsPlatform types) (contained : table.MembersContained)
    {operation : Operation} (noRegistration : ∀ type, operation ≠ .registerTask type)
    : (operation.apply table).FindsPlatform types := by
  have persists := PersistsIn.apply table operation
  obtain ⟨method, found⟩ := finds.getAwaiter
  refine ⟨?_, ⟨method, persists.methodByName? contained found⟩,
    (persists.awaiterOf contained found).trans finds.awaiter⟩
  rcases operation.task_apply table finds.registered with kept | ⟨type, registers, -⟩
  · exact kept
  · exact absurd registers (noRegistration type)

/-- The pair is found after any operations but registrations, by induction over them. -/
theorem performAll (finds : table.FindsPlatform types) (contained : table.MembersContained)
    {operations : List Operation} (noRegistration : ∀ type, .registerTask type ∉ operations)
    : (table.performAll operations).FindsPlatform types := by
  induction operations generalizing table with
  | nil => exact finds
  | cons operation rest ih =>
      have first : ∀ type, operation ≠ .registerTask type := by
        rintro type rfl
        exact noRegistration type List.mem_cons_self
      exact ih (finds.apply contained first) (contained.apply operation)
        (fun type listed => noRegistration type (List.mem_cons_of_mem _ listed))

/-- Where none is registered the pair is found once it has been made. -/
theorem definePlatformTasks (absent : table.task = none)
    : table.definePlatformTasks.2.FindsPlatform table.definePlatformTasks.1 := by
  have holds := holdsFuture_definePlatformTasks_of_absent table absent
  exact ⟨task_definePlatformTasks table, ⟨_, holds.methodByName?_getAwaiter⟩, holds.awaiterOf⟩

end FindsPlatform

/-- The operations that make the platform's future types in a table that has none. -/
def Operation.MakesPlatform (operation : Operation) : Prop :=
  operation = .definePlatformTasks ∨ ∃ result, operation = .taskOf result

/-- Who makes the platform's future types makes them first of all: a new generic task is made in the
table that a request for them leaves.
-/
theorem Operation.MakesPlatform.apply_eq {table : TypeTable} {operation : Operation}
    (makes : operation.MakesPlatform) (interned : table.TasksInterned)
    (absent : table.task = none)
    : operation.apply table.definePlatformTasks.2 = operation.apply table := by
  rcases makes with rfl | ⟨result, rfl⟩
  · exact congrArg Prod.snd (definePlatformTasks_again table)
  · exact congrArg Prod.snd
      (taskOf_definePlatformTasks table (interned.platformFirst absent))

/-- A request for the platform's future types, or for a generic task, registers no type of the one
who asks.
-/
theorem Operation.MakesPlatform.noRegistration {operation : Operation}
    (makes : operation.MakesPlatform) (type : TypeId)
    : operation ≠ .registerTask type := by
  rcases makes with rfl | ⟨result, rfl⟩ <;> nofun

------------------------------------------------------------------------------------------
-- Canonical interning

/-- The array is the one of the element: it is found and not made again, and no other element leads
to it.
-/
structure StaysArrayOf (table : TypeTable) (element array : TypeId) : Prop where
  again : table.arrayOf element = (array, table)
  reported : table.arrayType? element = some array
  kind : (table.symbol array).kind = .array element
  name : table.displayName array = arrayName (table.displayName element)
  only : ∀ {other}, (table.arrayOf other).1 = array → other = element

/-- The task is the one of the result: it is found and not made again, and no other result leads to
it.
-/
structure StaysTaskOf (table : TypeTable) (result task : TypeId) : Prop where
  again : table.taskOf result = (task, table)
  kind : ∃ base, (table.symbol task).kind = .named .classType base [result]
  name : table.displayName task = taskName (table.displayName result)
  only : ∀ {other}, (table.taskOf other).1 = task → other = result

/-- The pair is the platform's: it is found and not made again. -/
structure StaysPlatform (table : TypeTable) (types : TaskTypes) : Prop where
  again : table.definePlatformTasks = (types, table)
  taskNamed : table.displayName types.task = "Task"
  awaiterNamed : table.displayName types.awaiter = "TaskAwaiter"

/-- A known array is the one of its element.
If another element led to it, then either that array was known too and its kind tells the element,
or it would be a new type although it is there.
-/
theorem Reached.staysArrayOf {table : TypeTable} (reached : table.Reached)
    {element array : TypeId} (known : table.arrayType? element = some array)
    : table.StaysArrayOf element array := by
  have interned := reached.arraysInterned
  have kind := interned.known.mp known
  refine ⟨arrayOf_of_known known, known, kind, reached.namesKept.array kind, ?_⟩
  intro other same
  cases before : table.arrayType? other with
  | some earlier =>
      rw [arrayOf_of_known before] at same
      subst same
      simpa using (interned.known.mp before).symm.trans kind
  | none =>
      have there : table.Has array := has_of_kind_ne_error (by rw [kind]; nofun)
      rw [arrayOf_of_new before] at same
      subst same
      exact absurd there (Nat.lt_irrefl _)

/-- A known generic task is the one of its result.
As for arrays, another result that led to it would be told by its kind, or make a new type of it;
the new type would even come behind the platform's future types.
-/
theorem Reached.staysTaskOf {table : TypeTable} (reached : table.Reached)
    {result task : TypeId} (known : table.genericTasks.lookup result = some task)
    : table.StaysTaskOf result task := by
  have interned := reached.tasksInterned
  have made := interned.known known
  refine ⟨taskOf_of_known known, made.kind_eq, made.name, ?_⟩
  intro other same
  cases before : table.genericTasks.lookup other with
  | some earlier =>
      rw [taskOf_of_known before] at same
      subst same
      exact made.result_eq (interned.known before)
  | none =>
      have platform : table.PersistsIn table.definePlatformTasks.2 :=
        .apply table .definePlatformTasks
      have there : table.definePlatformTasks.2.Has task := platform.has made.there
      rw [taskOf_of_unknown before] at same
      subst same
      simp only [Has] at there
      omega

/-- The pair that was made for the platform is found again after whatever else is done, as long as
no other future type is registered.
-/
theorem Reached.staysPlatform {table : TypeTable} (reached : table.Reached)
    (absent : table.task = none) {operation : Operation} (makes : operation.MakesPlatform)
    {operations : List Operation} (noRegistration : ∀ type, .registerTask type ∉ operations)
    : ((operation.apply table).performAll operations).StaysPlatform
        table.definePlatformTasks.1 := by
  have holds := holdsFuture_definePlatformTasks_of_absent table absent
  have contained := reached.membersContained.apply .definePlatformTasks
  rw [← makes.apply_eq reached.tasksInterned absent]
  have finds :=
    ((FindsPlatform.definePlatformTasks absent).apply contained makes.noRegistration).performAll
      (contained.apply operation) noRegistration
  have persists :=
    (PersistsIn.apply table.definePlatformTasks.2 operation).trans (.performAll _ operations)
  refine ⟨finds.definePlatformTasks_eq, ?_, ?_⟩
  · rw [persists.displayName holds.futureThere, displayName, holds.futureSymbol]
    rfl
  · rw [persists.displayName holds.awaiterThere, displayName, holds.awaiterSymbol]
    rfl

/-- Operations that fit lead from the one table to the other. -/
def RunsTo (table later : TypeTable) : Prop :=
  ∃ operations, FitAll table operations ∧ table.performAll operations = later

/-- What a reached table runs to is reached. -/
theorem RunsTo.reached {table later : TypeTable} (runs : table.RunsTo later)
    (reached : table.Reached)
    : later.Reached := by
  obtain ⟨operations, fits, rfl⟩ := runs
  exact reached.performAll fits

/-- A table persists in what it runs to. -/
theorem RunsTo.persistsIn {table later : TypeTable} (runs : table.RunsTo later)
    : table.PersistsIn later := by
  obtain ⟨operations, -, rfl⟩ := runs
  exact .performAll table operations

/-- What a table interns is the same in all that it becomes: a type is an array of an element if it
is the one that a request returns and that is reported, an array or a generic task that was asked
for once stays the one of its element or result, and so does the platform's pair as long as no
other future type is registered.
-/
structure InternsCanonically (table : TypeTable) : Prop where
  array_iff
    : ∀ {type element},
        (table.symbol type).kind = .array element
        ↔ (table.arrayOf element).1 = type ∧ table.arrayType? element = some type
  array
    : ∀ {element later},
        table.Has element
        → (table.arrayOf element).2.RunsTo later
        → later.StaysArrayOf element (table.arrayOf element).1
  task
    : ∀ {result later},
        table.Has result
        → (table.taskOf result).2.RunsTo later
        → later.StaysTaskOf result (table.taskOf result).1
  platform
    : table.task = none
      → ∀ {operation : Operation} {operations : List Operation},
          operation.MakesPlatform
          → (∀ type, .registerTask type ∉ operations)
          → ((operation.apply table).performAll operations).StaysPlatform
              table.definePlatformTasks.1

/-- Interning is canonical from every reached table on, since known arrays and generic tasks stay
known and the platform's pair stays to be found.
-/
theorem Reached.internsCanonically {table : TypeTable} (reached : table.Reached)
    : table.InternsCanonically where
  array_iff {type element} := by
    rw [← reached.arraysInterned.known]
    constructor
    · intro known
      exact ⟨by rw [arrayOf_of_known known], known⟩
    · intro both
      exact both.2
  array {element later} there runs := by
    have fits : (Operation.arrayOf element).Fits table := by
      simpa [Operation.Fits, Operation.mentioned] using there
    have known
        : (table.arrayOf element).2.arrayType? element = some (table.arrayOf element).1 := by
      simp
    exact (runs.reached (reached.apply fits)).staysArrayOf (runs.persistsIn.arrays known)
  task {result later} there runs := by
    have fits : (Operation.taskOf result).Fits table := by
      simpa [Operation.Fits, Operation.mentioned] using there
    have known
        : (table.taskOf result).2.genericTasks.lookup result
          = some (table.taskOf result).1 := by
      simp [lookup_genericTasks_taskOf]
    exact (runs.reached (reached.apply fits)).staysTaskOf (runs.persistsIn.genericTasks known)
  platform absent _ _ makes noRegistration := reached.staysPlatform absent makes noRegistration

/-- A class and its array, in a table without the platform's future types. -/
def jobsWithoutTasks : TypeTable :=
  performAll empty [.defineType "Job" .classType none, .arrayOf ⟨11⟩]

/-- What is done once the class has a task: `Task` gets a field and a method that are called as its
first `GetAwaiter` is, and arrays and tasks are asked for, some of them again.
-/
def jobsOperations : List Operation :=
  [.defineField ⟨14⟩ "GetAwaiter" SpecialType.int32.id,
    .defineMethod ⟨14⟩ (.ordinary "GetAwaiter" SpecialType.string.id), .arrayOf ⟨16⟩,
    .taskOf ⟨12⟩, .arrayOf ⟨11⟩]

/-- The table with a task of the class, after those operations. -/
def laterJobs : TypeTable :=
  (jobsWithoutTasks.taskOf ⟨11⟩).2.performAll jobsOperations

/-- The later table has the array, the task and the platform's pair that were made first.
The pair is found although `Task` has got a field and a second method called `GetAwaiter` meanwhile.
-/
theorem jobsWithoutTasks_internsCanonically
    : jobsWithoutTasks.Reached
      ∧ laterJobs.StaysArrayOf ⟨11⟩ ⟨12⟩
      ∧ laterJobs.StaysTaskOf ⟨11⟩ ⟨16⟩
      ∧ laterJobs.StaysPlatform { task := ⟨14⟩, awaiter := ⟨13⟩ } := by
  have reached : jobsWithoutTasks.Reached := ⟨_, by decide, rfl⟩
  have there : jobsWithoutTasks.Has ⟨11⟩ := by decide
  have runsFromArray : (jobsWithoutTasks.arrayOf ⟨11⟩).2.RunsTo laterJobs :=
    ⟨.taskOf ⟨11⟩ :: jobsOperations, by decide, rfl⟩
  have runsFromTask : (jobsWithoutTasks.taskOf ⟨11⟩).2.RunsTo laterJobs :=
    ⟨jobsOperations, by decide, rfl⟩
  have noRegistration : ∀ type, .registerTask type ∉ jobsOperations := by simp [jobsOperations]
  exact ⟨reached, reached.internsCanonically.array there runsFromArray,
    reached.internsCanonically.task there runsFromTask,
    reached.internsCanonically.platform rfl (.inr ⟨⟨11⟩, rfl⟩) noRegistration⟩

end EntryPoints.TypeTable
