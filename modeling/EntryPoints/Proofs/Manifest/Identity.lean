import EntryPoints.Proofs.Manifest.Furnished

/-! A type of a furnished table is denoted by one expression at most, which also gives it its name.
-/

namespace EntryPoints

open TypeTable

/-- The ways in which the types of a table come about. -/
inductive Former where
  | error
  | special
  | declared
  | array
  | task
  | taskAwaiter
  | taskOf
  | taskAwaiterOf
  deriving DecidableEq

namespace TypeExpression

/-- The way in which the type of an expression comes about. -/
def former : TypeExpression → Former
  | .error => .error
  | .special _ => .special
  | .declared _ => .declared
  | .array _ => .array
  | .task => .task
  | .taskAwaiter => .taskAwaiter
  | .taskOf _ => .taskOf
  | .taskAwaiterOf _ => .taskAwaiterOf

/-- The display name of what an expression denotes. The plain task has another name while it is
missing.
-/
def name (platformTasks : Bool) : TypeExpression → String
  | .error => "?"
  | .special named => named.keyword
  | .declared name => name
  | .array element => arrayName (element.name platformTasks)
  | .task => if platformTasks then "Task" else taskMetadataName
  | .taskAwaiter => "TaskAwaiter"
  | .taskOf result => taskName (result.name platformTasks)
  | .taskAwaiterOf result => taskAwaiterName (result.name platformTasks)

end TypeExpression

/-- How the type of a symbol came about, plain tasks and their awaiters apart. Generic tasks and
their awaiters are the only types with type arguments.
-/
def TypeSymbol.former (symbol : TypeSymbol) : Former :=
  match symbol.kind with
  | .error => .error
  | .special _ => .special
  | .array _ => .array
  | .named _ _ [] => .declared
  | .named .structType _ _ => .taskAwaiterOf
  | .named _ _ _ => .taskOf

/-- How a type of a table came about. -/
def TypeTable.former (table : TypeTable) (type : TypeId) : Former :=
  if type = table.wellKnownTask then .task
  else if table.task.map table.awaiterOf = some type then .taskAwaiter
  else (table.symbol type).former

namespace Furnished

variable {scope : Scope} {table : TypeTable} (furnished : Furnished scope table)
include furnished

/-- The symbol tells how a type came about that is neither the plain task nor its awaiter. -/
theorem former_eq_symbol {type : TypeId} (present : type ≠ missingTask)
    (apart
      : ∀ {task awaiter getAwaiter getResult},
          PlatformThere scope table task awaiter getAwaiter getResult
          → type ≠ task ∧ type ≠ awaiter)
    : table.former type = (table.symbol type).former := by
  cases registered : table.task with
  | none => simp [former, wellKnownTask, registered, present]
  | some task =>
      obtain ⟨awaiter, _, _, platform⟩ := furnished.platform_of_registered registered
      have different := apart platform
      simp [former, wellKnownTask, registered, platform.holds.awaiterOf, different.1,
        different.2.symm]

/-- A type that is in the table in another way than as an error is not the missing task. -/
theorem ne_missingTask {type : TypeId} (proper : (table.symbol type).former ≠ .error)
    : type ≠ missingTask := by
  rintro rfl
  exact proper (by rw [furnished.missing]; rfl)

/-- Types that are made in another way than by a declaration without type arguments differ from the
plain task and its awaiter.
-/
theorem former_eq_symbol_of_not_declared {type : TypeId} (present : type ≠ missingTask)
    (other : (table.symbol type).former ≠ .declared)
    : table.former type = (table.symbol type).former := by
  refine furnished.former_eq_symbol present (fun platform => ⟨?_, ?_⟩)
  · rintro rfl
    exact other (by rw [platform.holds.futureSymbol]; rfl)
  · rintro rfl
    exact other (by rw [platform.holds.awaiterSymbol]; rfl)

/-- A type came about as the expression says that denotes it.
By cases on the denotation. Symbols of declared types may look like those of the plain task and its
awaiter, so they are told apart by the scope, which has no name for these; all others are told apart
by their symbols.
-/
theorem former_eq {expression : TypeExpression} {type : TypeId}
    (denotes : Denotes scope table expression type)
    : table.former type = expression.former := by
  have made {type : TypeId} {symbol : TypeSymbol} {former : Former}
      (same : table.symbol type = symbol) (made : symbol.former = former)
      (other : former ≠ .error ∧ former ≠ .declared)
      : table.former type = former := by
    subst same made
    exact furnished.former_eq_symbol_of_not_declared (furnished.ne_missingTask other.1) other.2
  cases denotes with
  | error =>
      have symbol : (table.symbol errorType).former = .error := by
        rw [furnished.error]
        rfl
      have other : (table.symbol errorType).former ≠ .declared := by
        rw [symbol]
        decide
      exact (furnished.former_eq_symbol_of_not_declared (by decide) other).trans symbol
  | special special => exact made (furnished.special special) rfl (by simp [TypeExpression.former])
  | declared found =>
      obtain ⟨_, kind, base, named⟩ := furnished.declared found
      have symbol : (table.symbol type).former = .declared := by
        rw [TypeSymbol.former, named]
      have proper : (table.symbol type).former ≠ .error := by
        rw [symbol]
        decide
      have present := furnished.ne_missingTask proper
      exact (furnished.former_eq_symbol present
        (fun platform => platform.undeclared found)).trans symbol
  | array _ known => exact made (furnished.array known) rfl (by simp [TypeExpression.former])
  | task => exact if_pos rfl
  | @taskAwaiter task registered =>
      obtain ⟨_, _, _, platform⟩ := furnished.platform_of_registered registered
      have apart : table.awaiterOf task ≠ table.wellKnownTask := by
        rw [platform.holds.awaiterOf, wellKnownTask, registered, Option.getD_some]
        intro same
        have symbols := platform.holds.awaiterSymbol
        rw [same, platform.holds.futureSymbol] at symbols
        cases congrArg TypeSymbol.kind symbols
      rw [former, if_neg apart, registered, Option.map_some, if_pos rfl]
      rfl
  | taskOf _ known =>
      obtain ⟨_, _, _, _, _, _, holds⟩ := furnished.generic known
      exact made holds.futureSymbol rfl (by simp [TypeExpression.former])
  | taskAwaiterOf _ known =>
      obtain ⟨_, _, _, _, _, _, holds⟩ := furnished.generic known
      rw [holds.awaiterOf]
      exact made holds.awaiterSymbol rfl (by simp [TypeExpression.former])

/-- Expressions that denote one type agree on how it came about. -/
theorem former_unique {expression other : TypeExpression} {type : TypeId}
    (denotes : Denotes scope table expression type) (denotes' : Denotes scope table other type)
    : expression.former = other.former :=
  (furnished.former_eq denotes).symm.trans (furnished.former_eq denotes')

/-- The type argument of a generic task is its result. -/
theorem kind_of_taskOf {expression : TypeExpression} {type : TypeId}
    (denotes : Denotes scope table (.taskOf expression) type)
    : ∃ base result,
        Denotes scope table expression result
        ∧ (table.symbol type).kind = .named .classType base [result] := by
  cases denotes with
  | @taskOf _ result _ inner known =>
      obtain ⟨_, plainTask, _, _, _, _, holds⟩ := furnished.generic known
      exact ⟨some plainTask, result, inner, by rw [holds.futureSymbol]; rfl⟩

/-- The type argument of a generic task's awaiter is the result of the task. -/
theorem kind_of_taskAwaiterOf {expression : TypeExpression} {type : TypeId}
    (denotes : Denotes scope table (.taskAwaiterOf expression) type)
    : ∃ result,
        Denotes scope table expression result
        ∧ (table.symbol type).kind = .named .structType none [result] := by
  cases denotes with
  | @taskAwaiterOf _ result _ inner known =>
      obtain ⟨_, _, _, _, _, _, holds⟩ := furnished.generic known
      exact ⟨result, inner, by rw [holds.awaiterOf, holds.awaiterSymbol]; rfl⟩

/-- A type is denoted by one expression at most.
By induction on the expression, together with how the type came about, which leaves the other
expression only one shape. Elements and results are read off the symbol, and the induction
hypothesis applies to them.
-/
theorem expression_unique {expression other : TypeExpression} {type : TypeId}
    (denotes : Denotes scope table expression type) (denotes' : Denotes scope table other type)
    : expression = other := by
  have formers := furnished.former_unique denotes denotes'
  induction expression generalizing other type with
  | error =>
      cases other with
      | error => rfl
      | _ => cases formers
  | task =>
      cases other with
      | task => rfl
      | _ => cases formers
  | taskAwaiter =>
      cases other with
      | taskAwaiter => rfl
      | _ => cases formers
  | special first =>
      cases other with
      | special second =>
          have kind : (table.symbol type).kind = .special first := by
            cases denotes
            rw [furnished.special, specialSymbol]
          have kind' : (table.symbol type).kind = .special second := by
            cases denotes'
            rw [furnished.special, specialSymbol]
          rw [TypeKind.special.inj (kind.symm.trans kind')]
      | _ => cases formers
  | declared name =>
      cases other with
      | declared name' =>
          cases denotes with
          | declared found =>
              cases denotes' with
              | declared found' =>
                  rw [(furnished.declared found).1.symm.trans (furnished.declared found').1]
      | _ => cases formers
  | array inner ih =>
      cases other with
      | array inner' =>
          cases denotes with
          | array element known =>
              cases denotes' with
              | array element' known' =>
                  have symbols := (furnished.array known).symm.trans (furnished.array known')
                  obtain rfl := TypeKind.array.inj (congrArg TypeSymbol.kind symbols)
                  rw [ih element element' (furnished.former_unique element element')]
      | _ => cases formers
  | taskOf inner ih =>
      cases other with
      | taskOf inner' =>
          obtain ⟨base, result, named, kind⟩ := furnished.kind_of_taskOf denotes
          obtain ⟨base', result', named', kind'⟩ := furnished.kind_of_taskOf denotes'
          obtain ⟨_, _, arguments⟩ := TypeKind.named.inj (kind.symm.trans kind')
          obtain rfl := List.singleton_inj.mp arguments
          rw [ih named named' (furnished.former_unique named named')]
      | _ => cases formers
  | taskAwaiterOf inner ih =>
      cases other with
      | taskAwaiterOf inner' =>
          obtain ⟨result, named, kind⟩ := furnished.kind_of_taskAwaiterOf denotes
          obtain ⟨result', named', kind'⟩ := furnished.kind_of_taskAwaiterOf denotes'
          obtain ⟨_, _, arguments⟩ := TypeKind.named.inj (kind.symm.trans kind')
          obtain rfl := List.singleton_inj.mp arguments
          rw [ih named named' (furnished.former_unique named named')]
      | _ => cases formers

/-- A type is named as the expression says that denotes it.
By induction on the denotation, since arrays and generic tasks are named after what is inside them.
-/
theorem displayName_eq {expression : TypeExpression} {type : TypeId}
    (denotes : Denotes scope table expression type)
    : table.displayName type = expression.name scope.platformTasks := by
  induction denotes with
  | error =>
      rw [displayName, furnished.error]
      rfl
  | special special =>
      rw [displayName, furnished.special]
      rfl
  | declared found => exact (furnished.declared found).1
  | array _ known ih =>
      rw [displayName, furnished.array known, TypeExpression.name, ← ih]
      rfl
  | task =>
      cases flag : scope.platformTasks with
      | false =>
          rw [displayName, wellKnownTask, furnished.absent flag, Option.getD_none,
            furnished.missing]
          rfl
      | true =>
          obtain ⟨task, _, _, _, platform⟩ := furnished.platform flag
          rw [displayName, wellKnownTask, platform.registered, Option.getD_some,
            platform.holds.futureSymbol]
          rfl
  | taskAwaiter registered =>
      obtain ⟨_, _, _, platform⟩ := furnished.platform_of_registered registered
      rw [platform.holds.awaiterOf, displayName, platform.holds.awaiterSymbol]
      rfl
  | taskOf _ known ih =>
      obtain ⟨_, _, _, _, _, _, holds⟩ := furnished.generic known
      rw [displayName, holds.futureSymbol, TypeExpression.name, ← ih]
      rfl
  | taskAwaiterOf _ known ih =>
      obtain ⟨_, _, _, _, _, _, holds⟩ := furnished.generic known
      rw [holds.awaiterOf, displayName, holds.awaiterSymbol, TypeExpression.name, ← ih]
      rfl

end Furnished

end EntryPoints
