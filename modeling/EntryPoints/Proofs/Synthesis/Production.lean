import EntryPoints.Proofs.Synthesis.Outcome
import EntryPoints.Proofs.TypeTable.Arrays

/-! When an entry point is produced, said without the order in which synthesis looks things up:
what each kind of compilation has to declare, and what the platform has to offer.
-/

namespace EntryPoints

namespace TypeTable

------------------------------------------------------------------------------------------
-- What a compilation has to offer

/-- A value of the type can be waited for: `GetAwaiter` can be used on the type, and `GetResult` on
what that returns.
-/
def Awaitable (table : TypeTable) (type : TypeId) : Prop :=
  ∃ getAwaiter getResult,
    table.Usable type WellKnownMember.getAwaiter.spelling getAwaiter
    ∧ table.Usable (table.method getAwaiter).returnType WellKnownMember.getResult.spelling
        getResult

/-- There is a platform future, and the type derives from it. -/
def IsPlatformFuture (table : TypeTable) (type : TypeId) : Prop :=
  (table.symbol table.wellKnownTask).isError = false
  ∧ table.Inherits type table.wellKnownTask

/-- A main that is forwarded to. -/
structure Forwardable (table : TypeTable) (main : MethodId) : Prop where
  async
    : (table.method main).isAsync = true ∨ table.IsPlatformFuture (table.method main).returnType
  static : (table.method main).isStatic
  parameters
    : (table.method main).parameters = []
      ∨ ∃ parameter,
          (table.method main).parameters = [parameter]
          ∧ (table.symbol parameter.type).kind = .array SpecialType.string.id
  known : (table.symbol (table.method main).returnType).isError = false
  awaitable : table.Awaitable (table.method main).returnType

/-- A script class that can be run. -/
structure Runnable (table : TypeTable) (scriptClass : TypeId) : Prop where
  kind : (table.symbol scriptClass).namedKind? = some .scriptClass
  initializes
    : ∃ initializer,
        table.methodsOfKind scriptClass .initializer = [initializer]
        ∧ (table.method initializer).parameters = []
        ∧ table.IsPlatformFuture (table.method initializer).returnType
  constructs
    : ∃ constructor,
        table.methodsOfKind scriptClass .constructor = [constructor]
        ∧ (table.method constructor).parameters = []
  awaitable : table.Awaitable table.wellKnownTask

/-- A submission class that can be constructed and run. -/
structure Submittable (table : TypeTable) (submissionClass : TypeId) : Prop where
  kind : (table.symbol submissionClass).namedKind? = some .submissionClass
  initializes
    : ∃ initializer,
        table.methodsOfKind submissionClass .initializer = [initializer]
        ∧ (table.method initializer).parameters = []
        ∧ (table.symbol (table.method initializer).returnType).isVoid = false
  constructs
    : ∃ constructor,
        table.methodsOfKind submissionClass .constructor = [constructor]
        ∧ (table.method constructor).parameters.length = 1
  /-- Neither `object` nor `object[]` carries a diagnostic to report on its use. -/
  usable
    : ∀ type,
        type = SpecialType.object.id
          ∨ (table.symbol type).kind = .array SpecialType.object.id
        → (table.symbol type).useSite = none

/-- A compilation has what an entry point of its kind needs. -/
inductive Suffices (table : TypeTable) : CompilationKind → Option MethodId → Prop where
  | regular {main : MethodId} (forwardable : table.Forwardable main)
    : Suffices table .regular (some main)
  | script {scriptClass : TypeId} {candidate : Option MethodId}
      (runnable : table.Runnable scriptClass)
    : Suffices table (.script scriptClass) candidate
  | submission {submissionClass : TypeId} {candidate : Option MethodId}
      (submittable : table.Submittable submissionClass)
    : Suffices table (.submission submissionClass) candidate

------------------------------------------------------------------------------------------
-- The checks of synthesis, one by one

section
variable {table : TypeTable} (ends : table.ChainsEnd)
include ends

/-- A type has a protocol exactly if it is no error and both members can be used, where base chains
end.
The protocol is put together of the two methods and of what they return.
-/
theorem exists_awaits_iff {type : TypeId}
    : (∃ protocol, table.Awaits type protocol)
      ↔ (table.symbol type).isError = false ∧ table.Awaitable type := by
  constructor
  · rintro ⟨protocol, awaits⟩
    have getAwaiter := (ends type).requiredMethod?_eq_some_iff.mp awaits.getAwaiter
    have getResult := (ends _).requiredMethod?_eq_some_iff.mp awaits.getResult
    rw [awaits.awaiterType] at getResult
    exact ⟨awaits.notError, _, _, getAwaiter, getResult⟩
  · rintro ⟨notError, getAwaiter, getResult, first, second⟩
    let protocol : AwaitProtocol := {
      getAwaiter
      getResult
      awaiterType := (table.method getAwaiter).returnType
      resultType := (table.method getResult).returnType
    }
    exact ⟨protocol, {
      notError
      getAwaiter := (ends type).requiredMethod?_eq_some_iff.mpr first
      awaiterType := rfl
      getResult := (ends _).requiredMethod?_eq_some_iff.mpr second
      resultType := rfl
    }⟩

/-- A main is taken for an async one exactly if it is marked so or returns a platform future. -/
theorem isAsyncCandidate_iff {main : MethodId}
    : table.isAsyncCandidate main
      ↔ (table.method main).isAsync = true
        ∨ table.IsPlatformFuture (table.method main).returnType := by
  simp only [isAsyncCandidate, IsPlatformFuture, Bool.or_eq_true, Bool.and_eq_true,
    Bool.not_eq_true', isDerivedFrom_iff ends]

end

/-- The parameter type that a main may have is the one array of strings, so the check looks at what
the type is, not at which one.
-/
theorem ArraysInterned.check_eq_ok_iff {table : TypeTable} (interned : table.ArraysInterned)
    {main : MethodId}
    : Forwarder.check table main = .ok ()
      ↔ (table.method main).isStatic
        ∧ ((table.method main).parameters = []
          ∨ ∃ parameter,
              (table.method main).parameters = [parameter]
              ∧ (table.symbol parameter.type).kind = .array SpecialType.string.id) := by
  simp only [Forwarder.check_eq_ok_iff, interned.known]

/-- The array of objects that a factory takes can be used exactly if neither it nor `object` carries
a diagnostic.
-/
theorem ArraysInterned.objectArray_usable_iff {table : TypeTable}
    (interned : table.ArraysInterned) (specials : table.SpecialsKept) {array : TypeId}
    (known : table.arrayType? SpecialType.object.id = some array)
    : table.useSite? array = none
      ↔ ∀ type,
          type = SpecialType.object.id
            ∨ (table.symbol type).kind = .array SpecialType.object.id
          → (table.symbol type).useSite = none := by
  have kind := interned.known.mp known
  have element : table.element? array = some SpecialType.object.id := by
    simp [TypeTable.element?, TypeSymbol.element?, kind]
  have root : table.element? SpecialType.object.id = none := by
    simp [TypeTable.element?, TypeSymbol.element?, specials .object]
  have carried
      : table.useSite? array
        = (table.symbol array).useSite.or (table.symbol SpecialType.object.id).useSite := by
    rw [interned.useSite?_eq, element, Option.bind_some, interned.useSite?_eq, root]
    simp
  rw [carried, Option.or_eq_none_iff]
  constructor
  · rintro ⟨own, inherited⟩ type (rfl | isArray)
    · exact inherited
    · obtain rfl : array = type :=
        Option.some.inj (known.symm.trans (interned.known.mpr isArray))
      exact own
  · intro usable
    exact ⟨usable array (.inr kind), usable _ (.inl rfl)⟩

------------------------------------------------------------------------------------------
-- Exactly when there is an entry point

section
variable {table : TypeTable} {config : SynthesisConfig}

/-- A program has an output exactly if its main can be forwarded to.
Each condition is the one that a check of synthesis decides, restated without the check.
-/
theorem exists_produces_regular_iff (ends : table.ChainsEnd) (interned : table.ArraysInterned)
    {main : MethodId}
    : (∃ output, Produces table config .regular (some main) output)
      ↔ table.Forwardable main := by
  constructor
  · rintro ⟨output, produces⟩
    cases produces with
    | forwarder async checked awaits =>
        obtain ⟨static, parameters⟩ := interned.check_eq_ok_iff.mp checked
        obtain ⟨known, awaitable⟩ := (exists_awaits_iff ends).mp ⟨_, awaits⟩
        exact ⟨(isAsyncCandidate_iff ends).mp async, static, parameters, known, awaitable⟩
  · intro forwardable
    obtain ⟨protocol, awaits⟩ :=
      (exists_awaits_iff ends).mpr ⟨forwardable.known, forwardable.awaitable⟩
    have checked :=
      interned.check_eq_ok_iff.mpr ⟨forwardable.static, forwardable.parameters⟩
    exact ⟨_, .forwarder ((isAsyncCandidate_iff ends).mpr forwardable.async) checked awaits⟩

/-- A script has an output exactly if it can be run: each of the conditions is what one of the
checks decides, in both directions.
-/
theorem exists_produces_script_iff (ends : table.ChainsEnd) {scriptClass : TypeId}
    {candidate : Option MethodId}
    : (∃ output, Produces table config (.script scriptClass) candidate output)
      ↔ table.Runnable scriptClass := by
  constructor
  · rintro ⟨output, produces⟩
    cases produces with
    | script admits awaits constructs bare parameterless =>
        obtain ⟨usable, awaitable⟩ := (exists_awaits_iff ends).mp ⟨_, awaits⟩
        have derived := (isDerivedFrom_iff ends).mp (admits.future usable)
        exact {
          kind := admits.isScript
          initializes :=
            ⟨_, singleMethodOfKind?_eq_some_iff.mp admits.initializes, parameterless, usable,
              derived⟩
          constructs := ⟨_, singleMethodOfKind?_eq_some_iff.mp constructs, bare⟩
          awaitable
        }
  · intro runnable
    obtain ⟨initializer, initializes, parameterless, usable, derived⟩ := runnable.initializes
    obtain ⟨constructor, constructs, bare⟩ := runnable.constructs
    obtain ⟨protocol, awaits⟩ := (exists_awaits_iff ends).mpr ⟨usable, runnable.awaitable⟩
    have admits : ScriptMain.Admits table scriptClass initializer := {
      isScript := runnable.kind
      initializes := singleMethodOfKind?_eq_some_iff.mpr initializes
      future := fun _ => (isDerivedFrom_iff ends).mpr derived
    }
    exact ⟨_, .script admits awaits (singleMethodOfKind?_eq_some_iff.mpr constructs) bare
      parameterless⟩

/-- A submission has an output exactly if it can be submitted.
The array of objects is always there, so what remains of it is that it can be used.
-/
theorem exists_produces_submission_iff (interned : table.ArraysInterned)
    (specials : table.SpecialsKept) {submissionClass : TypeId} {candidate : Option MethodId}
    : (∃ output, Produces table config (.submission submissionClass) candidate output)
      ↔ table.Submittable submissionClass := by
  constructor
  · rintro ⟨output, produces⟩
    cases produces with
    | submission admits usable constructs single parameterless =>
        exact {
          kind := admits.isSubmission
          initializes :=
            ⟨_, singleMethodOfKind?_eq_some_iff.mp admits.initializes, parameterless,
              admits.returns⟩
          constructs := ⟨_, singleMethodOfKind?_eq_some_iff.mp constructs, single⟩
          usable := (interned.objectArray_usable_iff specials admits.arrayType).mp usable
        }
  · intro submittable
    obtain ⟨initializer, initializes, parameterless, returns⟩ := submittable.initializes
    obtain ⟨constructor, constructs, single⟩ := submittable.constructs
    obtain ⟨array, arrayType⟩ :=
      Option.isSome_iff_exists.mp (interned.special .object (by decide))
    have admits : SubmissionFactory.Admits table submissionClass initializer array := {
      isSubmission := submittable.kind
      initializes := singleMethodOfKind?_eq_some_iff.mpr initializes
      returns
      arrayType
    }
    have usable :=
      (interned.objectArray_usable_iff specials arrayType).mpr submittable.usable
    exact ⟨_, .submission admits usable (singleMethodOfKind?_eq_some_iff.mpr constructs) single
      parameterless⟩

end

/-- Synthesis produces an entry point exactly if the compilation has what one of its kind needs,
whatever the configuration and whatever has been reported; by cases on the kind.
-/
theorem synthesize_produces_iff {table : TypeTable} (reached : table.Reached)
    (ends : table.ChainsEnd) (kind : CompilationKind) (candidate : Option MethodId)
    (config : SynthesisConfig) (bag : DiagnosticBag)
    : (∃ output, (table.synthesize kind candidate config bag).1 = .ok (some output))
      ↔ table.Suffices kind candidate := by
  simp only [synthesize_eq_some_iff_produces]
  have interned := reached.arraysInterned
  cases kind with
  | regular =>
      cases candidate with
      | none => exact iff_of_false (fun ⟨_, produces⟩ => nomatch produces) (fun h => nomatch h)
      | some main =>
          rw [exists_produces_regular_iff ends interned]
          exact ⟨.regular, fun | .regular forwardable => forwardable⟩
  | script scriptClass =>
      rw [exists_produces_script_iff ends]
      exact ⟨.script, fun | .script runnable => runnable⟩
  | submission submissionClass =>
      rw [exists_produces_submission_iff interned reached.specialsKept]
      exact ⟨.submission, fun | .submission submittable => submittable⟩

/-- A main that takes its arguments and returns a future whose base declares `GetAwaiter`. -/
def mainOfDerivedFuture : TypeTable :=
  .performAll .empty
    [
      .defineType "Awaiter" .structType none,
      .defineMethod ⟨11⟩ (.ordinary "GetResult" SpecialType.int32.id),
      .defineType "Future" .classType none,
      .defineMethod ⟨12⟩ (.ordinary "GetAwaiter" ⟨11⟩),
      .defineType "Derived" .classType (some ⟨12⟩),
      .defineType "Program" .classType none,
      .defineMethod ⟨14⟩
        { MethodSignature.ordinary "Main" ⟨13⟩ with
          parameters := [("args", ⟨8⟩)],
          isStatic := true,
          isAsync := true }
    ]

/-- That main has what a forwarder needs, since a forwarder to it is produced. -/
theorem mainOfDerivedFuture_suffices
    : mainOfDerivedFuture.Reached
      ∧ mainOfDerivedFuture.ChainsEnd
      ∧ mainOfDerivedFuture.Suffices .regular (some ⟨2⟩) := by
  have reached : mainOfDerivedFuture.Reached := ⟨_, by decide, rfl⟩
  have ends : mainOfDerivedFuture.ChainsEnd := chainsEnd_of_bases_before (by decide)
  have produced
      : ∃ output,
          (mainOfDerivedFuture.synthesize .regular (some ⟨2⟩) {} .empty).1
            = .ok (some output) :=
    ⟨_, rfl⟩
  exact ⟨reached, ends, (synthesize_produces_iff reached ends _ _ _ _).mp produced⟩

end TypeTable

end EntryPoints
