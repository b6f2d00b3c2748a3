import EntryPoints.Proofs.Manifest.Furnished

/-! Resolving a spelling comes to the same as reading it and making what the reading mentions: the
table only gains types, and the result is what the reading denotes in it.
-/

namespace EntryPoints

open TypeTable

------------------------------------------------------------------------------------------
-- What interning adds

namespace TypeTable

/-- The one type that interning an array may add is the array, since a known array adds none. -/
theorem has_of_has_arrayOf {table : TypeTable} {element type : TypeId}
    (there : (table.arrayOf element).2.Has type)
    : table.Has type ∨ type = (table.arrayOf element).1 := by
  cases known : table.arrayType? element with
  | some array =>
      rw [arrayOf_of_known known] at there
      exact .inl there
  | none =>
      rw [arrayOf_of_new known] at there ⊢
      obtain ⟨index⟩ := type
      simp only [Has, TypeTable.addType, typeCount, Array.size_push, TypeId.mk.injEq] at there ⊢
      omega

/-- An array that is known after interning one was known before, or is the interned one, which has
the symbol of an array of its element.
-/
theorem symbol_of_arrayType?_arrayOf {table : TypeTable} {element other array : TypeId}
    (there : table.Has element)
    (known : (table.arrayOf element).2.arrayType? other = some array)
    : table.arrayType? other = some array
      ∨ (table.arrayOf element).2.symbol array = (table.arrayOf element).2.arraySymbol other := by
  rw [arrayType?_arrayOf] at known
  split at known
  · next same =>
    subst same
    cases before : table.arrayType? other with
    | some earlier =>
        rw [arrayOf_of_known before] at known
        exact .inl known
    | none =>
        rw [arrayOf_of_new before] at known
        obtain rfl := Option.some.inj known
        have name : (table.arrayOf other).2.displayName other = table.displayName other :=
          (Grows.arrayOf table other).name there
        refine .inr ?_
        rw [symbol_arrayOf, if_pos ⟨before, rfl⟩, arraySymbol, arraySymbol, name]
  · exact .inl known

/-- Making a generic task makes no array. -/
theorem arrays_taskOf (table : TypeTable) (result : TypeId)
    : (table.taskOf result).2.arrays = table.arrays :=
  (KeepsArrays.taskOf table result).arrays

section
variable {table : TypeTable} {task : TypeId} (registered : table.task = some task)
  {result : TypeId}
include registered

/-- A new generic task is two types more, with its awaiter. -/
theorem typeCount_taskOf_of_new (new : table.genericTasks.lookup result = none)
    : (table.taskOf result).2.typeCount = table.typeCount + 2 := by
  rw [taskOf_of_new new registered]
  exact typeCount_makeFuture table (.generic table task result)

/-- A new generic task is the last type of its table, and its awaiter comes before it. -/
theorem holdsFuture_taskOf_of_new (new : table.genericTasks.lookup result = none)
    : (table.taskOf result).2.HoldsFuture (.generic table task result) (table.taskOf result).1
        ⟨table.typeCount⟩ ⟨table.methods.size + 1⟩ ⟨table.methods.size⟩ := by
  have made := holdsFuture_taskOf_of_unknown new
  rw [definePlatformTasks_of_registered registered] at made
  exact made

/-- The types that a new generic task adds are itself and its awaiter, which is the type before it.
-/
theorem has_of_has_taskOf {type : TypeId} (there : (table.taskOf result).2.Has type)
    : table.Has type
      ∨ type = (table.taskOf result).1
      ∨ type = (table.taskOf result).2.awaiterOf (table.taskOf result).1 := by
  cases known : table.genericTasks.lookup result with
  | some generic =>
      rw [taskOf_of_known known] at there
      exact .inl there
  | none =>
      rw [(holdsFuture_taskOf_of_new registered known).awaiterOf, taskOf_of_new known registered]
      rw [Has, typeCount_taskOf_of_new registered known] at there
      obtain ⟨index⟩ := type
      simp only [Has, TypeId.mk.injEq] at there ⊢
      omega

end

end TypeTable

namespace Furnished

section
variable {scope : Scope} {table : TypeTable} {expression : TypeExpression} {inner : TypeId}
  (furnished : Furnished scope table) (denotes : Denotes scope table expression inner)
include furnished denotes

/-- Interning the array of a denoted type leaves a furnished table, in which it is denoted.
The expressions that denote the other types go on doing so, and the new one is denoted by the array
of the given expression.
-/
theorem arrayOf
    : Furnished scope (table.arrayOf inner).2
      ∧ Denotes scope (table.arrayOf inner).2 (.array expression) (table.arrayOf inner).1 := by
  have there := furnished.has_of_denotes denotes
  have grows := Grows.arrayOf table inner
  have fits : (Operation.arrayOf inner).Fits table := by
    simpa [Operation.Fits, Operation.mentioned] using there
  have made
      : Denotes scope (table.arrayOf inner).2 (.array expression) (table.arrayOf inner).1 :=
    .array (denotes.grow furnished grows id False.elim) (by simp)
  refine ⟨furnished.grow grows (furnished.reached.apply fits) rfl id False.elim
    (fun found _ => ⟨_, found⟩) ?_ (symbol_of_arrayType?_arrayOf there) ?_ ?_, made⟩
  · intro name type found
    rw [grows.symbol (furnished.declaredThere found) id]
    exact furnished.declared found
  · intro result task known
    rw [genericTasks_arrayOf] at known
    exact .inl known
  · intro type has
    rcases has_of_has_arrayOf has with before | rfl
    · exact .inl before
    · exact .inr ⟨_, made⟩

/-- Interning the generic task of a denoted type leaves a furnished table, in which it is
denoted. -/
theorem taskOf (platformTasks : scope.platformTasks = true)
    : Furnished scope (table.taskOf inner).2
      ∧ Denotes scope (table.taskOf inner).2 (.taskOf expression) (table.taskOf inner).1
      ∧ Extends table (table.taskOf inner).2 := by
  obtain ⟨task, _, _, _, platform⟩ := furnished.platform platformTasks
  have registered := platform.registered
  have there := furnished.has_of_denotes denotes
  have grows := Grows.taskOf registered inner
  have fits : (Operation.taskOf inner).Fits table := by
    simpa [Operation.Fits, Operation.mentioned] using there
  have denotes' : Denotes scope (table.taskOf inner).2 expression inner :=
    denotes.grow furnished grows id False.elim
  have known
      : (table.taskOf inner).2.genericTasks.lookup inner = some (table.taskOf inner).1 := by
    simp [lookup_genericTasks_taskOf]
  refine ⟨furnished.grow grows (furnished.reached.apply fits) rfl id False.elim
    (fun found _ => ⟨_, found⟩) ?_ ?_ ?_ ?_, .taskOf denotes' known, grows⟩
  · intro name type found
    rw [grows.symbol (furnished.declaredThere found) id]
    exact furnished.declared found
  · intro element array found
    rw [arrayType?, arrays_taskOf] at found
    exact .inl found
  · intro result generic found
    rw [lookup_genericTasks_taskOf] at found
    split at found
    · next same =>
      subst same
      obtain rfl := Option.some.inj found
      cases before : table.genericTasks.lookup result with
      | some earlier =>
          rw [taskOf_of_known before]
          exact .inl rfl
      | none =>
          have holds := holdsFuture_taskOf_of_new registered before
          rw [← FutureShape.generic_grow grows there] at holds
          exact .inr ⟨grows.has there, task, _, _, _, grows.task.trans registered, holds⟩
    · exact .inl found
  · intro type has
    rcases has_of_has_taskOf registered has with before | rfl | rfl
    · exact .inl before
    · exact .inr ⟨_, .taskOf denotes' known⟩
    · exact .inr ⟨_, .taskAwaiterOf denotes' known⟩

end

end Furnished

------------------------------------------------------------------------------------------
-- Resolving a spelling

/-- How resolving ends that follows a reading: an unreadable spelling leaves the table alone, and
any other denotes what it resolves to, in a table that has only gained types. If the reading was
denoted before, nothing is gained.
-/
inductive Resolution (scope : Scope) (table : TypeTable)
    : Except BuildError TypeExpression → Except BuildError TypeId × TypeTable → Prop where
  | failed (error : BuildError) : Resolution scope table (.error error) (.error error, table)
  | found {expression : TypeExpression} {type : TypeId} {later : TypeTable}
      (furnished : Furnished scope later) (grows : Extends table later)
      (denotes : Denotes scope later expression type)
      (idle : ∀ {earlier}, Denotes scope table expression earlier → later = table)
    : Resolution scope table (.ok expression) (.ok type, later)

namespace Resolution

variable {scope : Scope} {table later : TypeTable} {reading : Except BuildError TypeExpression}

/-- A spelling that fails within another one fails as a whole, with the same error. -/
theorem map_error {error : BuildError} (h : Resolution scope table reading (.error error, later))
    (wrap : TypeExpression → TypeExpression)
    : Resolution scope table (reading.map wrap) (.error error, later) := by
  cases h
  exact .failed error

/-- The array of what an inner spelling was resolved to is interned in the table that this left.
If the array was denoted from the start, so was its element, and then neither of the two makes
anything.
-/
theorem arrayOf {element : TypeId} (h : Resolution scope table reading (.ok element, later))
    : Resolution scope table (reading.map .array)
        (.ok (later.arrayOf element).1, (later.arrayOf element).2) := by
  cases h with
  | found furnished grows denotes idle =>
      obtain ⟨furnished', denotes'⟩ := furnished.arrayOf denotes
      refine .found furnished' (grows.trans (.arrayOf later element)) denotes' ?_
      intro earlier denoted
      cases denoted with
      | array inner known =>
          obtain rfl := idle inner
          obtain rfl := inner.unique denotes
          rw [arrayOf_of_known known]

/-- The generic task of what an inner spelling was resolved to is made in the same way, where the
platform's future types are there.
-/
theorem taskOf (platformTasks : scope.platformTasks = true) {result : TypeId}
    (h : Resolution scope table reading (.ok result, later))
    : Resolution scope table (reading.map .taskOf)
        (.ok (later.taskOf result).1, (later.taskOf result).2) := by
  cases h with
  | found furnished grows denotes idle =>
      obtain ⟨furnished', denotes', grows'⟩ := furnished.taskOf denotes platformTasks
      refine .found furnished' (grows.trans grows') denotes' ?_
      intro earlier denoted
      cases denoted with
      | taskOf inner known =>
          obtain rfl := idle inner
          obtain rfl := inner.unique denotes
          rw [taskOf_of_known known]

end Resolution

/-- The names of the platform's future types denote them.
They are the first types of a build that go by these names, so the search by name finds them.
-/
theorem Furnished.typeByName?_denoted {scope : Scope} {table : TypeTable}
    (furnished : Furnished scope table) (platformTasks : scope.platformTasks = true)
    {name : String} (reserved : name = "Task" ∨ name = "TaskAwaiter")
    : ∃ type,
        table.typeByName? name = some type
        ∧ Denotes scope table (if name = "Task" then .task else .taskAwaiter) type := by
  obtain ⟨task, awaiter, _, _, platform⟩ := furnished.platform platformTasks
  rcases reserved with rfl | rfl
  · refine ⟨task, platform.taskNamed, ?_⟩
    have known : table.wellKnownTask = task := by simp [wellKnownTask, platform.registered]
    exact known ▸ .task
  · refine ⟨awaiter, platform.awaiterNamed, ?_⟩
    have known := platform.holds.awaiterOf
    exact known ▸ .taskAwaiter platform.registered

/-- Resolving a spelling follows its reading: both fail, with the same error, or the type that is
found is the one that the expression denotes.
By induction on the spelling, with a case for each step of the resolver. The reader goes through the
same forms in the same order.
-/
theorem resolve_resolution {scope : Scope} {table : TypeTable}
    (furnished : Furnished scope table) (spelling : List Char)
    : Resolution scope table (TypeExpression.read scope.known spelling)
        (scope.resolve spelling table) := by
  have declared {name : String} {type : TypeId} (found : scope.find? name = some type)
      : scope.known.declared name = true := by
    simp [Scope.known, found]
  have undeclared {name : String} (absent : scope.find? name = none)
      : scope.known.declared name = false := by
    simp [Scope.known, absent]
  have flag : scope.known.platformTasks = scope.platformTasks := rfl
  fun_induction Scope.resolve scope spelling table with
  | case1 spelling _ element isArray error later resolved ih =>
      rw [resolved] at ih
      rw [TypeExpression.read_of_element isArray]
      exact ih.map_error _
  | case2 spelling _ element isArray id later resolved array extended made ih =>
      rw [resolved] at ih
      rw [TypeExpression.read_of_element isArray]
      have result := ih.arrayOf
      rwa [made] at result
  | case3 spelling _ _ noArray special keyword =>
      rw [TypeExpression.read_of_keyword noArray keyword]
      exact .found furnished (.refl _ table) (.special special) (fun _ => rfl)
  | case4 spelling _ _ noArray noKeyword id found =>
      rw [TypeExpression.read_of_declared noArray noKeyword (declared found)]
      exact .found furnished (.refl _ table) (.declared found) (fun _ => rfl)
  | case5 spelling _ _ noArray noKeyword absent result isTask tasks error later resolved ih =>
      rw [resolved] at ih
      rw [TypeExpression.read_of_result noArray noKeyword (undeclared absent) isTask,
        flag, if_pos tasks]
      exact ih.map_error _
  | case6 spelling _ _ noArray noKeyword absent result isTask tasks id later resolved task
      extended made ih =>
      rw [resolved] at ih
      rw [TypeExpression.read_of_result noArray noKeyword (undeclared absent) isTask,
        flag, if_pos tasks]
      have result := ih.taskOf tasks
      rwa [made] at result
  | case7 spelling _ _ noArray noKeyword absent result isTask noTasks =>
      rw [TypeExpression.read_of_result noArray noKeyword (undeclared absent) isTask,
        flag, if_neg noTasks]
      exact .failed _
  | case8 spelling _ _ noArray noKeyword absent noTask reserved tasks id named =>
      obtain ⟨type, named', denotes⟩ := furnished.typeByName?_denoted tasks reserved
      obtain rfl := Option.some.inj (named.symm.trans named')
      rw [TypeExpression.read_of_name noArray noKeyword (undeclared absent) noTask,
        if_pos reserved, flag, if_pos tasks]
      exact .found furnished (.refl _ table) denotes (fun _ => rfl)
  | case9 spelling _ _ noArray noKeyword absent noTask reserved tasks missing =>
      obtain ⟨type, named, _⟩ := furnished.typeByName?_denoted tasks reserved
      cases missing.symm.trans named
  | case10 spelling _ _ noArray noKeyword absent noTask reserved noTasks =>
      rw [TypeExpression.read_of_name noArray noKeyword (undeclared absent) noTask,
        if_pos reserved, flag, if_neg noTasks]
      exact .failed _
  | case11 spelling _ _ noArray noKeyword absent noTask unreserved =>
      rw [TypeExpression.read_of_name noArray noKeyword (undeclared absent) noTask,
        if_neg unreserved]
      exact .failed _

/-- Once a type is made, exactly its spellings are resolved to it, and resolving them makes
nothing. -/
theorem Furnished.spells_iff {scope : Scope} {table : TypeTable}
    (furnished : Furnished scope table) {spelling : String} {type : TypeId}
    : Spells scope table spelling type
      ↔ scope.resolve spelling.toList table = (.ok type, table) := by
  have resolution := resolve_resolution furnished spelling.toList
  constructor
  · rintro ⟨expression, reading, denotes⟩
    rw [reading] at resolution
    generalize scope.resolve spelling.toList table = result at resolution
    cases resolution with
    | found _ _ denotes' idle =>
        obtain rfl := idle denotes
        rw [denotes.unique denotes']
  · intro resolved
    rw [resolved] at resolution
    generalize reading : TypeExpression.read scope.known spelling.toList = result at resolution
    cases resolution with
    | found _ _ denotes _ => exact ⟨_, reading, denotes⟩

end EntryPoints
