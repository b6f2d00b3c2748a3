import EntryPoints.Proofs.Diagnostic.Growth
import EntryPoints.Proofs.TypeTable.Members
import EntryPoints.Proofs.TypeTable.Walk
import EntryPoints.Synthesis.Await

/-! Resolution of the await protocol, apart from what it reports: which protocol it finds, and
that it reports only errors, and none if it finds a protocol.
-/

namespace EntryPoints

namespace TypeTable

------------------------------------------------------------------------------------------
-- The protocol that resolution finds

/-- A required member is the only declaration of its name on the nearest type that has one, and
takes nothing.
-/
theorem requiredMethod?_eq_some_iff {table : TypeTable} {type : TypeId}
    {member : WellKnownMember} {id : MethodId}
    : table.requiredMethod? type member = some id
      ↔ (∃ owner, table.lookupInHierarchy type member.spelling = some (owner, [.method id]))
        ∧ (table.method id).parameters = [] := by
  constructor
  · intro h
    unfold requiredMethod? at h
    split at h
    · next owner other found =>
      split at h
      · next parameterless =>
        obtain rfl : other = id := Option.some.inj h
        exact ⟨⟨owner, found⟩, List.isEmpty_iff.mp parameterless⟩
      · cases h
    · cases h
  · rintro ⟨⟨owner, found⟩, parameterless⟩
    simp [requiredMethod?, found, parameterless]

/-- A required member is a member of the type that it was found on. -/
theorem exists_mem_members_of_requiredMethod? {table : TypeTable} {type : TypeId}
    {member : WellKnownMember} {id : MethodId}
    (found : table.requiredMethod? type member = some id)
    : ∃ owner, .method id ∈ (table.symbol owner).members := by
  obtain ⟨⟨owner, only⟩, _⟩ := requiredMethod?_eq_some_iff.mp found
  obtain ⟨_, declared⟩ := of_lookupInHierarchy_eq_some only
  exact ⟨owner, mem_members_of_mem_lookup (declared ▸ List.mem_singleton_self _)⟩

/-- Where the base chain ends, a required member is one that can be used: the lookup finds what the
walk along the chain ends with.
-/
theorem ChainEnds.requiredMethod?_eq_some_iff {table : TypeTable} {type : TypeId}
    (ends : table.ChainEnds type) {member : WellKnownMember} {id : MethodId}
    : table.requiredMethod? type member = some id ↔ table.Usable type member.spelling id := by
  rw [TypeTable.requiredMethod?_eq_some_iff]
  simp only [ends.lookupInHierarchy_eq_some_iff, eq_comm (a := [Member.method id])]
  exact ⟨fun ⟨only, parameterless⟩ => ⟨only, parameterless⟩,
    fun usable => ⟨usable.only, usable.parameterless⟩⟩

/-- A type has an await protocol: `GetAwaiter` is found on it and `GetResult` on the awaiter. -/
structure Awaits (table : TypeTable) (type : TypeId) (protocol : AwaitProtocol) : Prop where
  notError : (table.symbol type).isError = false
  getAwaiter : table.requiredMethod? type .getAwaiter = some protocol.getAwaiter
  awaiterType : protocol.awaiterType = (table.method protocol.getAwaiter).returnType
  getResult : table.requiredMethod? protocol.awaiterType .getResult = some protocol.getResult
  resultType : protocol.resultType = (table.method protocol.getResult).returnType

/-- Awaiting a type finds one protocol at most, since each of its four parts is looked up from those
before.
-/
theorem Awaits.unique {table : TypeTable} {type : TypeId} {protocol other : AwaitProtocol}
    (h : table.Awaits type protocol) (h' : table.Awaits type other)
    : protocol = other := by
  have getAwaiter : protocol.getAwaiter = other.getAwaiter :=
    Option.some.inj (h.getAwaiter.symm.trans h'.getAwaiter)
  have awaiterType : protocol.awaiterType = other.awaiterType := by
    rw [h.awaiterType, h'.awaiterType, getAwaiter]
  have getResult : protocol.getResult = other.getResult :=
    Option.some.inj (h.getResult.symm.trans (awaiterType ▸ h'.getResult))
  have resultType : protocol.resultType = other.resultType := by
    rw [h.resultType, h'.resultType, getResult]
  cases protocol
  cases other
  simp_all

/-- A required member that is found is returned without a report. -/
theorem requireMethod_of_some {table : TypeTable} {type : TypeId} {member : WellKnownMember}
    {id : MethodId} (found : table.requiredMethod? type member = some id) (location : Location)
    (bag : DiagnosticBag)
    : table.requireMethod type member location bag = (some id, bag) := by
  simp [requireMethod, found]

/-- A required member that is missing is reported as an error, and nothing else is. -/
theorem requireMethod_of_none {table : TypeTable} {type : TypeId} {member : WellKnownMember}
    (missing : table.requiredMethod? type member = none) (location : Location)
    (bag : DiagnosticBag)
    : ∃ later,
        bag.GrowsByErrors later
        ∧ table.requireMethod type member location bag = (none, later) := by
  refine ⟨_, .push_placed bag (table.missingMember type member) location, ?_⟩
  simp [requireMethod, missing]

/-- Resolution ends with the protocol of the type and an unchanged bag, or with no protocol, if
the type has none, and a bag that holds more errors; by cases on the two members.
-/
theorem resolveAwait_cases (table : TypeTable) (type : TypeId) (bag : DiagnosticBag)
    : (∃ protocol,
        table.Awaits type protocol ∧ table.resolveAwait type bag = (some protocol, bag))
      ∨ ((∀ protocol, ¬ table.Awaits type protocol)
        ∧ ∃ later, bag.GrowsByErrors later ∧ table.resolveAwait type bag = (none, later)) := by
  cases error : (table.symbol type).isError with
  | true =>
      refine Or.inr ⟨fun protocol awaits => ?_, bag, .refl bag, by simp [resolveAwait, error]⟩
      simp [awaits.notError] at error
  | false =>
      cases first : table.requiredMethod? type .getAwaiter with
      | none =>
          obtain ⟨later, errors, required⟩ := requireMethod_of_none first .nowhere bag
          refine Or.inr ⟨fun protocol awaits => ?_, later, errors, ?_⟩
          · simp [awaits.getAwaiter] at first
          · simp [resolveAwait, error, required]
      | some getAwaiter =>
          have required := requireMethod_of_some first .nowhere bag
          cases second
            : table.requiredMethod? (table.method getAwaiter).returnType .getResult with
          | none =>
              obtain ⟨later, errors, required'⟩ := requireMethod_of_none second .nowhere bag
              refine Or.inr ⟨fun protocol awaits => ?_, later, errors, ?_⟩
              · obtain rfl : protocol.getAwaiter = getAwaiter :=
                  Option.some.inj (awaits.getAwaiter.symm.trans first)
                have found := awaits.getResult
                rw [awaits.awaiterType, second] at found
                cases found
              · simp [resolveAwait, error, required, required']
          | some getResult =>
              have required' := requireMethod_of_some second .nowhere bag
              let protocol : AwaitProtocol :=
                {
                  getAwaiter,
                  getResult,
                  awaiterType := (table.method getAwaiter).returnType,
                  resultType := (table.method getResult).returnType
                }
              have awaits : table.Awaits type protocol := ⟨error, first, rfl, second, rfl⟩
              refine Or.inl ⟨protocol, awaits, ?_⟩
              simp [resolveAwait, error, required, required', protocol]

/-- Both methods of a protocol are called without arguments. -/
theorem Awaits.parameterless {table : TypeTable} {type : TypeId} {protocol : AwaitProtocol}
    (awaits : table.Awaits type protocol)
    : (table.method protocol.getAwaiter).parameters = []
      ∧ (table.method protocol.getResult).parameters = [] :=
  ⟨(requiredMethod?_eq_some_iff.mp awaits.getAwaiter).2,
    (requiredMethod?_eq_some_iff.mp awaits.getResult).2⟩

/-- A type that can be awaited is resolved to its protocol, without a report. -/
theorem Awaits.resolveAwait {table : TypeTable} {type : TypeId} {protocol : AwaitProtocol}
    (awaits : table.Awaits type protocol) (bag : DiagnosticBag)
    : table.resolveAwait type bag = (some protocol, bag) := by
  rcases resolveAwait_cases table type bag with ⟨found, awaits', resolved⟩ | ⟨lacks, _⟩
  · rw [resolved, awaits.unique awaits']
  · exact absurd awaits (lacks protocol)

/-- Where a protocol is looked for and not found, one missing member is reported.
By cases on the two lookups: the first one fails, or else the second one on what the first has
found.
-/
theorem resolveAwait_of_lacking {table : TypeTable} {type : TypeId}
    (notError : (table.symbol type).isError = false)
    (lacks : ∀ protocol, ¬ table.Awaits type protocol) (bag : DiagnosticBag)
    : ∃ lacking member,
        table.resolveAwait type bag
          = (none, bag.push ((table.missingMember lacking member).placed .nowhere)) := by
  cases first : table.requiredMethod? type .getAwaiter with
  | none => exact ⟨type, .getAwaiter, by simp [resolveAwait, requireMethod, notError, first]⟩
  | some getAwaiter =>
      cases second : table.requiredMethod? (table.method getAwaiter).returnType .getResult with
      | none =>
          exact ⟨(table.method getAwaiter).returnType, .getResult,
            by simp [resolveAwait, requireMethod, notError, first, second]⟩
      | some getResult =>
          let protocol : AwaitProtocol := {
            getAwaiter
            getResult
            awaiterType := (table.method getAwaiter).returnType
            resultType := (table.method getResult).returnType
          }
          have awaits : table.Awaits type protocol := ⟨notError, first, rfl, second, rfl⟩
          exact absurd awaits (lacks protocol)

/-- The problem of an error type has been reported where it arose, so resolving it reports nothing.
-/
theorem resolveAwait_of_isError {table : TypeTable} {type : TypeId}
    (error : (table.symbol type).isError) (bag : DiagnosticBag)
    : table.resolveAwait type bag = (none, bag) := by
  simp [resolveAwait, error]

/-- A type that cannot be awaited has no protocol resolved, and only errors are reported. -/
theorem resolveAwait_of_not_awaits {table : TypeTable} {type : TypeId}
    (lacks : ∀ protocol, ¬ table.Awaits type protocol) (bag : DiagnosticBag)
    : ∃ later, bag.GrowsByErrors later ∧ table.resolveAwait type bag = (none, later) := by
  rcases resolveAwait_cases table type bag with ⟨found, awaits, _⟩ | ⟨_, reported⟩
  · exact absurd awaits (lacks found)
  · exact reported

end TypeTable

end EntryPoints
