import EntryPoints.Proofs.Synthesis.AwaitResolution

/-! Names that a type leaves to its bases. A lookup of such a name finds on the type what it finds
on the base, and so a future inherits the await protocol.
-/

namespace EntryPoints.TypeTable

/-- A type inherits from a base, and leaves the name to it: on the way to the base, which does not
count itself, no type declares the name.
-/
structure LeavesTo (table : TypeTable) (name : String) (derived base : TypeId) : Prop where
  inherits : table.Inherits derived base
  undeclared
    : ∀ {type},
        table.Inherits derived type
        → table.Inherits type base
        → type ≠ base
        → table.declares name type = false

section
variable {table : TypeTable}

/-- A walk that passes a type goes on from its base, so both end alike. -/
theorem walkEnds_iff_of_pass {stops : TypeId → Bool} {type base : TypeId}
    {found : Option TypeId} (pass : stops type = false) (link : table.base? type = some base)
    : table.WalkEnds stops type found ↔ table.WalkEnds stops base found := by
  constructor
  · intro walk
    cases walk with
    | stopped stop => simp [pass] at stop
    | root _ none => simp [link] at none
    | derived _ link' rest =>
        obtain rfl := Option.some.inj (link.symm.trans link')
        exact rest
  · exact .derived pass link

/-- Only a declared type has a base, so what has one is no error. -/
theorem isError_of_base? {type base : TypeId} (link : table.base? type = some base)
    : (table.symbol type).isError = false := by
  cases kind : (table.symbol type).kind with
  | error => simp [TypeTable.base?, TypeSymbol.base?, kind] at link
  | _ => simp [TypeSymbol.isError, kind]

namespace LeavesTo

variable {name : String} {derived base : TypeId} (leaves : table.LeavesTo name derived base)
include leaves

/-- The walk to the name ends alike on both types.
By induction on the way to the base: each type on it passes the name, as only the base and what lies
above may declare it.
-/
theorem walkEnds_iff {found : Option TypeId}
    : table.WalkEnds (table.declares name) derived found
      ↔ table.WalkEnds (table.declares name) base found := by
  obtain ⟨inherits, undeclared⟩ := leaves
  induction inherits using Relation.ReflTransGen.head_induction_on with
  | refl => rfl
  | @head type middle link rest ih =>
      by_cases same : type = base
      · rw [same]
      · have pass := undeclared .refl (.head link rest) same
        rw [walkEnds_iff_of_pass pass link]
        exact ih (fun lower upper apart => undeclared (.head link lower) upper apart)

/-- A method can be used under the name on both types or on none, as the walks to it end alike. -/
theorem usable_iff {method : MethodId}
    : table.Usable derived name method ↔ table.Usable base name method := by
  constructor
  · rintro ⟨⟨owner, walk, only⟩, parameterless⟩
    exact ⟨⟨owner, leaves.walkEnds_iff.mp walk, only⟩, parameterless⟩
  · rintro ⟨⟨owner, walk, only⟩, parameterless⟩
    exact ⟨⟨owner, leaves.walkEnds_iff.mpr walk, only⟩, parameterless⟩

/-- A type that leaves a name to a base is no error if the base is none. -/
theorem isError_derived (notError : (table.symbol base).isError = false)
    : (table.symbol derived).isError = false := by
  rcases leaves.inherits.cases_head with rfl | ⟨_, link, _⟩
  · exact notError
  · exact isError_of_base? link

end LeavesTo

/-- Once `GetAwaiter` can be used, resolution depends only on the method that it finds.
By cases on how resolving the base went; the case without a usable `GetAwaiter` is excluded.
-/
theorem AwaitResolution.of_leavesTo {derived base : TypeId} {bag : DiagnosticBag}
    {resolution : Option AwaitProtocol × DiagnosticBag}
    (resolved : AwaitResolution table base bag resolution)
    (notError : (table.symbol base).isError = false)
    (leaves : table.LeavesTo "GetAwaiter" derived base)
    (usable : ∃ method, table.Usable base "GetAwaiter" method)
    : AwaitResolution table derived bag resolution := by
  have notError' := leaves.isError_derived notError
  cases resolved with
  | errorType error => simp [notError] at error
  | noAwaiter _ lacks =>
      obtain ⟨method, awaits⟩ := usable
      exact absurd awaits (lacks method)
  | noResult _ awaits lacks => exact .noResult notError' (leaves.usable_iff.mpr awaits) lacks
  | resolved _ awaits results => exact .resolved notError' (leaves.usable_iff.mpr awaits) results

/-- A type that leaves `GetAwaiter` to a base is awaited like the base, with the same protocol and
the same reports. Only where the base has no usable `GetAwaiter`, each type is reported as lacking
it itself.
-/
theorem ChainsEnd.resolveAwait_inherited (ends : table.ChainsEnd) {derived base : TypeId}
    (notError : (table.symbol base).isError = false)
    (leaves : table.LeavesTo "GetAwaiter" derived base) (bag : DiagnosticBag)
    : (table.resolveAwait derived bag).1 = (table.resolveAwait base bag).1
      ∧ ((∃ method, table.Usable base "GetAwaiter" method)
        → table.resolveAwait derived bag = table.resolveAwait base bag)
      ∧ ((¬ ∃ method, table.Usable base "GetAwaiter" method)
        → table.resolveAwait derived bag
            = (none, bag.push (table.lackingMember derived "GetAwaiter"))
          ∧ table.resolveAwait base bag
            = (none, bag.push (table.lackingMember base "GetAwaiter"))) := by
  have alike (usable : ∃ method, table.Usable base "GetAwaiter" method)
      : table.resolveAwait derived bag = table.resolveAwait base bag := by
    have resolved := ends.awaitResolution base bag
    exact ends.resolveAwait_eq_iff.mpr (resolved.of_leavesTo notError leaves usable)
  have lacking (type : TypeId) (proper : (table.symbol type).isError = false)
      (lacks : ∀ method, ¬ table.Usable type "GetAwaiter" method)
      : table.resolveAwait type bag
        = (none, bag.push (table.lackingMember type "GetAwaiter")) :=
    ends.resolveAwait_eq_iff.mpr (.noAwaiter proper lacks)
  have apart (unusable : ¬ ∃ method, table.Usable base "GetAwaiter" method)
      : table.resolveAwait derived bag
          = (none, bag.push (table.lackingMember derived "GetAwaiter"))
        ∧ table.resolveAwait base bag
          = (none, bag.push (table.lackingMember base "GetAwaiter")) := by
    have lacks := not_exists.mp unusable
    have lacks' (method : MethodId) (usable : table.Usable derived "GetAwaiter" method) : False :=
      lacks method (leaves.usable_iff.mp usable)
    exact ⟨lacking derived (leaves.isError_derived notError) lacks', lacking base notError lacks⟩
  refine ⟨?_, alike, apart⟩
  by_cases usable : ∃ method, table.Usable base "GetAwaiter" method
  · rw [alike usable]
  · obtain ⟨onDerived, onBase⟩ := apart usable
    rw [onDerived, onBase]

end

/-- Futures whose base declares a `GetAwaiter` that wants an argument. The type between declares
something else.
-/
def jobOfTimedFuture : TypeTable :=
  .performAll .empty
    [
      .defineType "Awaiter" .structType none,
      .defineMethod ⟨11⟩ (.ordinary "GetResult" SpecialType.int32.id),
      .defineType "Future" .classType none,
      .defineMethod ⟨12⟩
        {
          MethodSignature.ordinary "GetAwaiter" ⟨11⟩ with
          parameters := [("timeout", SpecialType.int32.id)]
        },
      .defineType "TimedFuture" .classType (some ⟨12⟩),
      .defineField ⟨13⟩ "timeout" SpecialType.int32.id,
      .defineType "Job" .classType (some ⟨13⟩)
    ]

/-- Neither can be awaited, and each is reported under its own name.
The chain of the derived type is followed to see that no other type than the base declares the name.
-/
theorem jobOfTimedFuture_lacks_getAwaiter
    : jobOfTimedFuture.Reached
      ∧ jobOfTimedFuture.ChainsEnd
      ∧ jobOfTimedFuture.LeavesTo "GetAwaiter" ⟨14⟩ ⟨12⟩
      ∧ (jobOfTimedFuture.resolveAwait ⟨14⟩ .empty).1
        = (jobOfTimedFuture.resolveAwait ⟨12⟩ .empty).1
      ∧ jobOfTimedFuture.resolveAwait ⟨14⟩ .empty
        = (none, DiagnosticBag.empty.push (jobOfTimedFuture.lackingMember ⟨14⟩ "GetAwaiter"))
      ∧ jobOfTimedFuture.displayName ⟨14⟩ ≠ jobOfTimedFuture.displayName ⟨12⟩ := by
  have ends : jobOfTimedFuture.ChainsEnd := chainsEnd_of_bases_before (by decide)
  have leaves : jobOfTimedFuture.LeavesTo "GetAwaiter" ⟨14⟩ ⟨12⟩ := by
    refine ⟨(isDerivedFrom_iff ends).mp (by decide), fun {type} lower _ apart => ?_⟩
    have met : type ∈ jobOfTimedFuture.baseChain ⟨14⟩ := (ends ⟨14⟩).mem_baseChain_iff.mpr lower
    have silent
        : ∀ type ∈ jobOfTimedFuture.baseChain ⟨14⟩,
            type ≠ ⟨12⟩ → jobOfTimedFuture.declares "GetAwaiter" type = false := by
      decide
    exact silent type met apart
  obtain ⟨protocol, _, apart⟩ := ends.resolveAwait_inherited rfl leaves .empty
  have unusable : ¬ ∃ method, jobOfTimedFuture.Usable ⟨12⟩ "GetAwaiter" method := by
    rintro ⟨method, usable⟩
    have found := (ends ⟨12⟩).requiredMethod?_eq_some_iff.mpr
      (show jobOfTimedFuture.Usable ⟨12⟩ WellKnownMember.getAwaiter.spelling method from usable)
    cases found
  exact ⟨⟨_, by decide, rfl⟩, ends, leaves, protocol, (apart unusable).1, by decide⟩

end EntryPoints.TypeTable
