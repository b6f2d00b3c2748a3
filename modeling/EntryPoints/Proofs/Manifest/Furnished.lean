import EntryPoints.Proofs.Manifest.Expression

/-! What holds of a table at every moment of a build: the types that it starts with and those that
it interns are as they were made, and every type is denoted by an expression.
-/

namespace EntryPoints

open TypeTable

/-- The plain task is registered, found by its name, and no declared type; so is its awaiter. -/
structure PlatformThere (scope : Scope) (table : TypeTable) (task awaiter : TypeId)
    (getAwaiter getResult : MethodId)
    : Prop where
  registered : table.task = some task
  holds : table.HoldsFuture .plain task awaiter getAwaiter getResult
  taskNamed : table.typeByName? "Task" = some task
  awaiterNamed : table.typeByName? "TaskAwaiter" = some awaiter
  undeclared
    : ∀ {name type}, scope.find? name = some type → type ≠ task ∧ type ≠ awaiter

/-- A table in which a build may go on. -/
structure Furnished (scope : Scope) (table : TypeTable) : Prop where
  reached : table.Reached
  initial : 11 ≤ table.typeCount
  error : table.symbol errorType = { name := "?", kind := .error }
  special : ∀ special, table.symbol special.id = specialSymbol special
  array
    : ∀ {element array},
        table.arrayType? element = some array → table.symbol array = table.arraySymbol element
  missing : table.symbol missingTask = missingTaskSymbol
  absent : scope.platformTasks = false → table.task = none
  platform
    : scope.platformTasks = true
      → ∃ task awaiter getAwaiter getResult,
          PlatformThere scope table task awaiter getAwaiter getResult
  generic
    : ∀ {result task},
        table.genericTasks.lookup result = some task
        → table.Has result
          ∧ ∃ plainTask awaiter getAwaiter getResult,
              table.task = some plainTask
              ∧ table.HoldsFuture (.generic table plainTask result) task awaiter getAwaiter
                  getResult
  declared
    : ∀ {name type},
        scope.find? name = some type
        → (table.symbol type).name = name
          ∧ ∃ kind base, (table.symbol type).kind = .named kind base []
  denoted
    : ∀ {type},
        table.Has type → type = missingTask ∨ ∃ expression, Denotes scope table expression type

namespace Furnished

variable {scope : Scope} {table : TypeTable}

/-- A declared name stands for a type that is there, since it is a named one. -/
theorem declaredThere (furnished : Furnished scope table) {name : String} {type : TypeId}
    (found : scope.find? name = some type)
    : table.Has type := by
  obtain ⟨_, kind, base, named⟩ := furnished.declared found
  exact has_of_kind_ne_error (by rw [named]; nofun)

/-- A known array is there, and so is its element, which is older. -/
theorem arrayThere (furnished : Furnished scope table) {element array : TypeId}
    (known : table.arrayType? element = some array)
    : table.Has array ∧ table.Has element := by
  have made := furnished.array known
  have there : table.Has array := has_of_kind_ne_error (by rw [made]; nofun)
  have kind : (table.symbol array).kind = .array element := by
    rw [made]
    rfl
  have older := furnished.reached.arraysInterned.older kind
  exact ⟨there, Nat.lt_trans older there⟩

/-- Where the plain task is registered, the platform's future types are known: without them none is
registered.
-/
theorem platformTasks_of_registered (furnished : Furnished scope table) {task : TypeId}
    (registered : table.task = some task)
    : scope.platformTasks = true := by
  cases flag : scope.platformTasks with
  | true => rfl
  | false =>
      rw [furnished.absent flag] at registered
      cases registered

/-- A registered future type is the platform's, with all that belongs to it. -/
theorem platform_of_registered (furnished : Furnished scope table) {task : TypeId}
    (registered : table.task = some task)
    : ∃ awaiter getAwaiter getResult,
        PlatformThere scope table task awaiter getAwaiter getResult := by
  obtain ⟨other, awaiter, getAwaiter, getResult, there⟩ :=
    furnished.platform (furnished.platformTasks_of_registered registered)
  obtain rfl : other = task := Option.some.inj (there.registered.symm.trans registered)
  exact ⟨awaiter, getAwaiter, getResult, there⟩

/-- A declared type has no type arguments, so it is neither a generic task nor its awaiter. -/
theorem generic_undeclared (furnished : Furnished scope table) {plainTask result : TypeId}
    {task awaiter : TypeId} {getAwaiter getResult : MethodId}
    (holds
      : table.HoldsFuture (.generic table plainTask result) task awaiter getAwaiter getResult)
    {name : String} {type : TypeId} (found : scope.find? name = some type)
    : type ≠ task ∧ type ≠ awaiter := by
  obtain ⟨_, kind, base, named⟩ := furnished.declared found
  constructor
  · rintro rfl
    simp [holds.futureSymbol, TypeSymbol.addMember, FutureShape.futureSymbol,
      FutureShape.generic] at named
  · rintro rfl
    simp [holds.awaiterSymbol, TypeSymbol.addMember, FutureShape.awaiterSymbol,
      FutureShape.generic] at named

/-- Whatever an expression denotes is in the table.
By cases on the denotation: it is declared, known as an array or a task, or there from the start.
-/
theorem has_of_denotes (furnished : Furnished scope table) {expression : TypeExpression}
    {type : TypeId} (denotes : Denotes scope table expression type)
    : table.Has type := by
  cases denotes with
  | error => exact Nat.lt_of_lt_of_le (by decide) furnished.initial
  | special special =>
      exact has_of_kind_ne_error (by rw [furnished.special]; nofun)
  | declared found => exact furnished.declaredThere found
  | array _ known => exact (furnished.arrayThere known).1
  | task =>
      cases registered : table.task with
      | none =>
          rw [wellKnownTask, registered]
          exact Nat.lt_of_lt_of_le (by decide) furnished.initial
      | some task =>
          obtain ⟨_, _, _, there⟩ := furnished.platform_of_registered registered
          rw [wellKnownTask, registered]
          exact there.holds.futureThere
  | taskAwaiter registered =>
      obtain ⟨_, _, _, there⟩ := furnished.platform_of_registered registered
      rw [there.holds.awaiterOf]
      exact there.holds.awaiterThere
  | taskOf _ known =>
      obtain ⟨_, _, _, _, _, _, holds⟩ := furnished.generic known
      exact holds.futureThere
  | taskAwaiterOf _ known =>
      obtain ⟨_, _, _, _, _, _, holds⟩ := furnished.generic known
      rw [holds.awaiterOf]
      exact holds.awaiterThere

end Furnished

/-- Whatever a spelling stands for is in the table. -/
theorem Spells.has {scope : Scope} {table : TypeTable} {spelling : String} {type : TypeId}
    (spells : Spells scope table spelling type) (furnished : Furnished scope table)
    : table.Has type := by
  obtain ⟨_, _, denotes⟩ := spells
  exact furnished.has_of_denotes denotes

------------------------------------------------------------------------------------------
-- Generated types

/-- The shape of a future that the table knows: the registered plain task or a generic one. -/
inductive TypeTable.KnowsFuture (table : TypeTable) : FutureShape → TypeId → Prop where
  | plain {task : TypeId} (registered : table.task = some task) : KnowsFuture table .plain task
  | generic {plainTask result task : TypeId} (registered : table.task = some plainTask)
      (known : table.genericTasks.lookup result = some task)
    : KnowsFuture table (.generic table plainTask result) task

/-- A future of the platform or the awaiter that was made with it. Each has just its one method. -/
def TypeTable.Generated (table : TypeTable) (type : TypeId) : Prop :=
  ∃ shape future awaiter getAwaiter getResult,
    table.KnowsFuture shape future
    ∧ table.HoldsFuture shape future awaiter getAwaiter getResult
    ∧ (type = future ∨ type = awaiter)

namespace Furnished

variable {scope : Scope} {table : TypeTable}

/-- A type that is neither declared nor generated has no members and no base, by cases on what
denotes it.
-/
theorem declared_generated_or_bare (furnished : Furnished scope table) (type : TypeId)
    : (∃ name, scope.find? name = some type)
      ∨ table.Generated type
      ∨ (table.symbol type).members = [] ∧ table.base? type = none := by
  have bare {symbol : TypeSymbol} (same : table.symbol type = symbol)
      (members : symbol.members = []) (base : symbol.base? = none)
      : (table.symbol type).members = [] ∧ table.base? type = none := by
    rw [TypeTable.base?, same]
    exact ⟨members, base⟩
  by_cases there : table.Has type
  · rcases furnished.denoted there with rfl | ⟨expression, denotes⟩
    · exact .inr (.inr (bare furnished.missing rfl rfl))
    · cases denotes with
      | error => exact .inr (.inr (bare furnished.error rfl rfl))
      | special special => exact .inr (.inr (bare (furnished.special special) rfl rfl))
      | declared found => exact .inl ⟨_, found⟩
      | array _ known => exact .inr (.inr (bare (furnished.array known) rfl rfl))
      | task =>
          cases registered : table.task with
          | none =>
              have missing : table.wellKnownTask = missingTask := by
                rw [wellKnownTask, registered]
                rfl
              exact .inr (.inr (bare (missing ▸ furnished.missing) rfl rfl))
          | some task =>
              obtain ⟨_, _, _, platform⟩ := furnished.platform_of_registered registered
              have known : table.wellKnownTask = task := by
                rw [wellKnownTask, registered]
                rfl
              exact .inr (.inl ⟨_, _, _, _, _, .plain registered, platform.holds, .inl known⟩)
      | taskAwaiter registered =>
          obtain ⟨_, _, _, platform⟩ := furnished.platform_of_registered registered
          exact .inr (.inl
            ⟨_, _, _, _, _, .plain registered, platform.holds, .inr platform.holds.awaiterOf⟩)
      | taskOf _ known =>
          obtain ⟨_, _, _, _, _, registered, holds⟩ := furnished.generic known
          exact .inr (.inl ⟨_, _, _, _, _, .generic registered known, holds, .inl rfl⟩)
      | taskAwaiterOf _ known =>
          obtain ⟨_, _, _, _, _, registered, holds⟩ := furnished.generic known
          exact .inr (.inl
            ⟨_, _, _, _, _, .generic registered known, holds, .inr holds.awaiterOf⟩)
  · have absent : table.symbol type = { name := "", kind := .error } := by
      simp [TypeTable.symbol, Array.getElem?_eq_none (Nat.le_of_not_lt there)]
    exact .inr (.inr (bare absent rfl rfl))

end Furnished

------------------------------------------------------------------------------------------
-- Growth

section
variable {scope wider : Scope} {table later : TypeTable} {touched : TypeId → Prop}

/-- The shape of a generic task depends on the name of the result only, which stays as the table
grows.
-/
theorem FutureShape.generic_grow (grows : Grows touched table later) {plainTask result : TypeId}
    (there : table.Has result)
    : FutureShape.generic later plainTask result = .generic table plainTask result := by
  have name : later.displayName result = table.displayName result := grows.name there
  simp [FutureShape.generic, name]

/-- An expression goes on denoting its type as long as only declared types are touched and declared
names keep their types; by induction on the denotation.
-/
theorem Denotes.grow (furnished : Furnished scope table) (grows : Grows touched table later)
    (wide : ∀ {name type}, scope.find? name = some type → wider.find? name = some type)
    (only : ∀ {type}, touched type → ∃ name, scope.find? name = some type)
    {expression : TypeExpression} {type : TypeId}
    (denotes : Denotes scope table expression type)
    : Denotes wider later expression type := by
  induction denotes with
  | error => exact .error
  | special special => exact .special special
  | declared found => exact .declared (wide found)
  | array _ known ih => exact .array ih (grows.arrays known)
  | task =>
      have same : later.wellKnownTask = table.wellKnownTask := by
        rw [wellKnownTask, wellKnownTask, grows.task]
      exact same ▸ .task
  | taskAwaiter registered =>
      obtain ⟨_, _, _, there⟩ := furnished.platform_of_registered registered
      have kept := there.holds.grow grows
        (fun touch => (there.undeclared (only touch).choose_spec).1 rfl)
        (fun touch => (there.undeclared (only touch).choose_spec).2 rfl)
      rw [there.holds.awaiterOf, ← kept.awaiterOf]
      exact .taskAwaiter (grows.task.trans registered)
  | taskOf _ known ih => exact .taskOf ih (grows.genericTasks known)
  | taskAwaiterOf _ known ih =>
      obtain ⟨_, _, _, _, _, _, holds⟩ := furnished.generic known
      have kept := holds.grow grows
        (fun touch => (furnished.generic_undeclared holds (only touch).choose_spec).1 rfl)
        (fun touch => (furnished.generic_undeclared holds (only touch).choose_spec).2 rfl)
      rw [holds.awaiterOf, ← kept.awaiterOf]
      exact .taskAwaiterOf ih (grows.genericTasks known)

/-- A table stays furnished as it grows: only declared types are touched, and what is new is made as
it has to be.
-/
theorem Furnished.grow (furnished : Furnished scope table) (grows : Grows touched table later)
    (reached : later.Reached) (flag : wider.platformTasks = scope.platformTasks)
    (wide : ∀ {name type}, scope.find? name = some type → wider.find? name = some type)
    (only : ∀ {type}, touched type → ∃ name, scope.find? name = some type)
    (undeclared
      : ∀ {name type},
          wider.find? name = some type → table.Has type → ∃ name, scope.find? name = some type)
    (declared
      : ∀ {name type},
          wider.find? name = some type
          → (later.symbol type).name = name
            ∧ ∃ kind base, (later.symbol type).kind = .named kind base [])
    (arrays
      : ∀ {element array},
          later.arrayType? element = some array
          → table.arrayType? element = some array
            ∨ later.symbol array = later.arraySymbol element)
    (generics
      : ∀ {result task},
          later.genericTasks.lookup result = some task
          → table.genericTasks.lookup result = some task
            ∨ later.Has result
              ∧ ∃ plainTask awaiter getAwaiter getResult,
                  later.task = some plainTask
                  ∧ later.HoldsFuture (.generic later plainTask result) task awaiter getAwaiter
                      getResult)
    (denoted
      : ∀ {type},
          later.Has type → table.Has type ∨ ∃ expression, Denotes wider later expression type)
    : Furnished wider later := by
  have untouched {type : TypeId}
      (kind : ∀ kind base, (table.symbol type).kind ≠ .named kind base [])
      : ¬ touched type := by
    intro touch
    obtain ⟨name, found⟩ := only touch
    obtain ⟨_, namedKind, base, named⟩ := furnished.declared found
    exact kind namedKind base named
  have count := furnished.initial
  have errorThere : table.Has errorType := Nat.lt_of_lt_of_le (by decide) count
  have missingThere : table.Has missingTask := Nat.lt_of_lt_of_le (by decide) count
  have specialThere (special : SpecialType) : table.Has special.id :=
    furnished.has_of_denotes (.special special)
  exact {
    reached
    initial := Nat.le_trans count grows.types
    error :=
      (grows.symbol errorThere (untouched (by simp [furnished.error]))).trans furnished.error
    special := fun special =>
      (grows.symbol (specialThere special)
        (untouched (by simp [furnished.special, specialSymbol]))).trans
        (furnished.special special)
    array := by
      intro element array known
      rcases arrays known with known | made
      · have there := furnished.arrayThere known
        have made := furnished.array known
        have name : later.displayName element = table.displayName element :=
          grows.name there.2
        rw [grows.symbol there.1 (untouched (by simp [made, arraySymbol])), made, arraySymbol,
          arraySymbol, name]
      · exact made
    missing :=
      (grows.symbol missingThere (untouched (by simp [furnished.missing, missingTaskSymbol]))).trans
        furnished.missing
    absent := fun off => grows.task.trans (furnished.absent (flag ▸ off))
    platform := by
      intro on
      obtain ⟨task, awaiter, getAwaiter, getResult, there⟩ := furnished.platform (flag ▸ on)
      have taskKept : ¬ touched task := fun touch =>
        (there.undeclared (only touch).choose_spec).1 rfl
      have awaiterKept : ¬ touched awaiter := fun touch =>
        (there.undeclared (only touch).choose_spec).2 rfl
      refine ⟨task, awaiter, getAwaiter, getResult, {
        registered := grows.task.trans there.registered
        holds := there.holds.grow grows taskKept awaiterKept
        taskNamed := grows.typeByName? there.taskNamed
        awaiterNamed := grows.typeByName? there.awaiterNamed
        undeclared := ?_
      }⟩
      intro name type found
      constructor
      · rintro rfl
        obtain ⟨_, known⟩ := undeclared found there.holds.futureThere
        exact (there.undeclared known).1 rfl
      · rintro rfl
        obtain ⟨_, known⟩ := undeclared found there.holds.awaiterThere
        exact (there.undeclared known).2 rfl
    generic := by
      intro result task known
      rcases generics known with known | made
      · obtain ⟨there, plainTask, awaiter, getAwaiter, getResult, registered, holds⟩ :=
          furnished.generic known
        have kept := holds.grow grows
          (fun touch => (furnished.generic_undeclared holds (only touch).choose_spec).1 rfl)
          (fun touch => (furnished.generic_undeclared holds (only touch).choose_spec).2 rfl)
        rw [← FutureShape.generic_grow grows there] at kept
        exact ⟨grows.has there, plainTask, awaiter, getAwaiter, getResult,
          grows.task.trans registered, kept⟩
      · exact made
    declared := declared
    denoted := by
      intro type there
      rcases denoted there with before | made
      · rcases furnished.denoted before with missing | ⟨expression, denotes⟩
        · exact .inl missing
        · exact .inr ⟨expression, denotes.grow furnished grows wide only⟩
      · exact .inr made
  }

end

end EntryPoints
