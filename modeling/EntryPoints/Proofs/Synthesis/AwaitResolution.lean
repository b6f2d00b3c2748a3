import EntryPoints.Proofs.Synthesis.Protocol
import EntryPoints.Proofs.TypeTable.Names

/-! Resolution of the await protocol together with what it reports, told by the members that can be
used and without the lookups that find them.
-/

namespace EntryPoints.TypeTable

/-- What is reported where a type has no usable member of that name. -/
def lackingMember (table : TypeTable) (type : TypeId) (name : String) : Diagnostic where
  code := .missingPredefinedMember
  severity := .error
  location := .nowhere
  arguments := [table.displayName type, name]

/-- How resolution on a type ends: in silence on an error type, with one report at the first step
that fails, or with both methods and what they return.
-/
inductive AwaitResolution (table : TypeTable) (type : TypeId) (bag : DiagnosticBag)
    : Option AwaitProtocol × DiagnosticBag → Prop where
  | errorType (error : (table.symbol type).isError)
    : AwaitResolution table type bag (none, bag)
  | noAwaiter (notError : (table.symbol type).isError = false)
      (lacks : ∀ method, ¬ table.Usable type "GetAwaiter" method)
    : AwaitResolution table type bag
        (none, bag.push (table.lackingMember type "GetAwaiter"))
  | noResult {getAwaiter : MethodId} (notError : (table.symbol type).isError = false)
      (awaits : table.Usable type "GetAwaiter" getAwaiter)
      (lacks
        : ∀ method, ¬ table.Usable (table.method getAwaiter).returnType "GetResult" method)
    : AwaitResolution table type bag
        (none, bag.push (table.lackingMember (table.method getAwaiter).returnType "GetResult"))
  | resolved {getAwaiter getResult : MethodId}
      (notError : (table.symbol type).isError = false)
      (awaits : table.Usable type "GetAwaiter" getAwaiter)
      (results : table.Usable (table.method getAwaiter).returnType "GetResult" getResult)
    : AwaitResolution table type bag
        (some
          {
            getAwaiter,
            getResult,
            awaiterType := (table.method getAwaiter).returnType,
            resultType := (table.method getResult).returnType
          },
          bag)

/-- A required member is found in silence, or its lack is reported once, at no location.
Where the chain ends, the lookup finds a method exactly if one can be used, so these are all cases.
-/
theorem ChainEnds.requireMethod_cases {table : TypeTable} {type : TypeId}
    (ends : table.ChainEnds type) (member : WellKnownMember) (bag : DiagnosticBag)
    : (∃ method,
        table.Usable type member.spelling method
        ∧ table.requireMethod type member .nowhere bag = (some method, bag))
      ∨ ((∀ method, ¬ table.Usable type member.spelling method)
        ∧ table.requireMethod type member .nowhere bag
          = (none, bag.push (table.lackingMember type member.spelling))) := by
  cases found : table.requiredMethod? type member with
  | some method =>
      exact Or.inl ⟨method, ends.requiredMethod?_eq_some_iff.mp found,
        requireMethod_of_some found .nowhere bag⟩
  | none =>
      refine Or.inr ⟨fun method usable => ?_, ?_⟩
      · rw [ends.requiredMethod?_eq_some_iff.mpr usable] at found
        cases found
      · rw [requireMethod, found]
        rfl

/-- Resolution ends in one of the four ways, by cases on what its two steps find: the type is an
error, `GetAwaiter` is lacking, what it returns lacks `GetResult`, or both are found.
-/
theorem ChainsEnd.awaitResolution {table : TypeTable} (ends : table.ChainsEnd) (type : TypeId)
    (bag : DiagnosticBag)
    : AwaitResolution table type bag (table.resolveAwait type bag) := by
  cases error : (table.symbol type).isError with
  | true =>
      rw [resolveAwait_of_isError error]
      exact .errorType error
  | false =>
      rcases (ends type).requireMethod_cases .getAwaiter bag with
        ⟨getAwaiter, awaits, first⟩ | ⟨lacks, first⟩
      · rcases (ends (table.method getAwaiter).returnType).requireMethod_cases .getResult bag with
          ⟨getResult, results, second⟩ | ⟨lacks, second⟩
        · let protocol : AwaitProtocol :=
            {
              getAwaiter,
              getResult,
              awaiterType := (table.method getAwaiter).returnType,
              resultType := (table.method getResult).returnType
            }
          have resolved : table.resolveAwait type bag = (some protocol, bag) := by
            simp [resolveAwait, error, first, second, protocol]
          rw [resolved]
          exact .resolved error awaits results
        · have reported
              : table.resolveAwait type bag
                = (none, bag.push (table.lackingMember (table.method getAwaiter).returnType
                    WellKnownMember.getResult.spelling)) := by
            simp [resolveAwait, error, first, second]
          rw [reported]
          exact .noResult error awaits lacks
      · have reported
            : table.resolveAwait type bag
              = (none, bag.push (table.lackingMember type
                  WellKnownMember.getAwaiter.spelling)) := by
          simp [resolveAwait, error, first]
        rw [reported]
        exact .noAwaiter error lacks

/-- The ways exclude each other, by cases on both: a type lacks a name or has it, and at most one
method of a name can be used.
-/
theorem AwaitResolution.unique {table : TypeTable} {type : TypeId} {bag : DiagnosticBag}
    {found other : Option AwaitProtocol × DiagnosticBag}
    (h : AwaitResolution table type bag found) (h' : AwaitResolution table type bag other)
    : found = other := by
  cases h with
  | errorType error => cases h' <;> simp_all
  | noAwaiter notError lacks =>
      cases h' with
      | errorType error => simp [notError] at error
      | noAwaiter => rfl
      | noResult _ awaits => exact absurd awaits (lacks _)
      | resolved _ awaits => exact absurd awaits (lacks _)
  | noResult notError awaits lacks =>
      cases h' with
      | errorType error => simp [notError] at error
      | noAwaiter _ lacks' => exact absurd awaits (lacks' _)
      | noResult _ awaits' => rw [awaits.unique awaits']
      | resolved _ awaits' results =>
          rw [← awaits.unique awaits'] at results
          exact absurd results (lacks _)
  | resolved notError awaits results =>
      cases h' with
      | errorType error => simp [notError] at error
      | noAwaiter _ lacks => exact absurd awaits (lacks _)
      | noResult _ awaits' lacks =>
          rw [awaits.unique awaits'] at results
          exact absurd results (lacks _)
      | resolved _ awaits' results' =>
          obtain rfl := awaits.unique awaits'
          rw [results.unique results']

/-- Where base chains end, resolution finds a protocol exactly where both members can be used, and
reports exactly the first one that cannot.
-/
theorem ChainsEnd.resolveAwait_eq_iff {table : TypeTable} (ends : table.ChainsEnd)
    {type : TypeId} {bag : DiagnosticBag}
    {resolution : Option AwaitProtocol × DiagnosticBag}
    : table.resolveAwait type bag = resolution
      ↔ AwaitResolution table type bag resolution := by
  constructor
  · rintro rfl
    exact ends.awaitResolution type bag
  · exact (ends.awaitResolution type bag).unique

/-- A future that inherits its `GetAwaiter`. The awaiter declares a `GetResult` that wants an
argument, and so hides the one that it would inherit.
-/
def futureWithHiddenResult : TypeTable :=
  .performAll .empty
    [
      .defineType "Awaiter" .classType none,
      .defineMethod ⟨11⟩ (.ordinary "GetResult" SpecialType.int32.id),
      .defineType "TimedAwaiter" .classType (some ⟨11⟩),
      .defineMethod ⟨12⟩
        {
          MethodSignature.ordinary "GetResult" SpecialType.int32.id with
          parameters := [("timeout", SpecialType.int32.id)]
        },
      .defineType "Future" .classType none,
      .defineMethod ⟨13⟩ (.ordinary "GetAwaiter" ⟨12⟩),
      .defineType "TimedFuture" .classType (some ⟨13⟩)
    ]

/-- The awaiter is to blame, not the future, and its base does not help.
Witness: an awaiter that hides the `GetResult` of its base by one that wants an argument.
-/
theorem futureWithHiddenResult_lacks_getResult
    : futureWithHiddenResult.Reached
      ∧ futureWithHiddenResult.ChainsEnd
      ∧ AwaitResolution futureWithHiddenResult ⟨14⟩ .empty
          (none,
            DiagnosticBag.empty.push
              {
                code := .missingPredefinedMember,
                severity := .error,
                location := .nowhere,
                arguments := ["TimedAwaiter", "GetResult"]
              }) := by
  have ends : futureWithHiddenResult.ChainsEnd := chainsEnd_of_bases_before (by decide)
  exact ⟨⟨_, by decide, rfl⟩, ends, ends.resolveAwait_eq_iff.mp rfl⟩

end EntryPoints.TypeTable
