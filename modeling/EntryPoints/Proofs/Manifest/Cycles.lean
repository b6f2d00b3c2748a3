import EntryPoints.Proofs.Manifest.Compilation
import EntryPoints.Proofs.TypeTable.Walk

/-! The check for cycles finds exactly the declared types whose base chains never end. A chain
leaves the declared types at most once, for a generic task and the platform's future type, so it has
at most one step more than there are declared types.
-/

namespace EntryPoints

open TypeTable

------------------------------------------------------------------------------------------
-- Chains in furnished tables

namespace Furnished

variable {scope : Scope} {table : TypeTable}

/-- The platform's future type has no base. -/
theorem base?_plainTask (furnished : Furnished scope table) {task : TypeId}
    (registered : table.task = some task)
    : table.base? task = none := by
  obtain ⟨_, _, _, platform⟩ := furnished.platform_of_registered registered
  rw [TypeTable.base?, platform.holds.futureSymbol]
  rfl

/-- Only declared types and generic tasks have a base, and the base of a generic task has none.
By what a type of a furnished table can be: declared, generated with a pair, or bare.
-/
theorem declared_or_base_ends (furnished : Furnished scope table) {type base : TypeId}
    (link : table.base? type = some base)
    : (∃ name, scope.find? name = some type) ∨ table.base? base = none := by
  rcases furnished.declared_generated_or_bare type with
    declared | ⟨shape, future, awaiter, _, _, known, holds, either⟩ | ⟨_, none⟩
  · exact .inl declared
  · have linked {symbol : TypeSymbol} (same : table.symbol type = symbol)
        : symbol.base? = some base := by
      rw [← same]
      exact link
    rcases either with rfl | rfl
    · cases known with
      | plain _ => cases linked holds.futureSymbol
      | @generic plainTask _ _ registered _ =>
          obtain rfl : plainTask = base := Option.some.inj (linked holds.futureSymbol)
          exact .inr (furnished.base?_plainTask registered)
    · cases linked holds.awaiterSymbol
  · cases none.symm.trans link

/-- All chains end if those of the declared types do, since any other type has a base with no base
at most.
-/
theorem chainsEnd (furnished : Furnished scope table)
    (declared : ∀ {name type}, scope.find? name = some type → table.ChainEnds type)
    : table.ChainsEnd := by
  intro type
  cases link : table.base? type with
  | none => exact .root link
  | some base =>
      rcases furnished.declared_or_base_ends link with ⟨name, found⟩ | ends
      · exact declared found
      · exact .derived link (.root ends)

end Furnished

/-- The type that a declaration stands for. -/
def Scope.typeOf (scope : Scope) (declaration : TypeDecl) : TypeId :=
  (scope.find? declaration.name).getD errorType

namespace Manifest

variable {manifest : Manifest} {scope : Scope} {table : TypeTable}

/-- A chain has at most one step more than there are declared types: all types that have more than
one step left are declared.
-/
theorem Contents.steps_le (contents : manifest.Contents scope table) {type : TypeId} {steps : Nat}
    (ends : table.EndsAfter steps type)
    : steps ≤ manifest.types.length + 1 := by
  have listed {other : TypeId} {more : Nat} (further : table.EndsAfter (1 + more + 1) other)
      : other ∈ manifest.types.map scope.typeOf := by
    rw [Nat.add_comm 1 more] at further
    obtain _ | ⟨link, _ | ⟨link', _⟩⟩ := further
    rcases contents.furnished.declared_or_base_ends link with ⟨name, found⟩ | none
    · obtain ⟨declaration, member, rfl, _⟩ := contents.declaration_of_find? found
      exact List.mem_map.mpr ⟨declaration, member, by simp [Scope.typeOf, found]⟩
    · cases none.symm.trans link'
  simpa using ends.le_length_add listed

------------------------------------------------------------------------------------------
-- The bounded walk

/-- A walk that the check takes to its end has met the end of the chain.
By induction on the bound: where the walk goes on to a base, the chain of the base ends, and so the
type's own.
-/
theorem chainEnds_of_isCyclic_eq_false {start : TypeId} {limit : Nat} {next : Option TypeId}
    (passed : isCyclic table start limit next = false)
    : ∀ type ∈ next, table.ChainEnds type := by
  induction limit generalizing next with
  | zero =>
      cases next with
      | none => nofun
      | some type => cases passed
  | succ limit ih =>
      cases next with
      | none => nofun
      | some type =>
          rw [isCyclic, Bool.or_eq_false_iff] at passed
          intro other same
          obtain rfl := Option.some.inj same
          have bases := ih passed.2
          cases link : table.base? type with
          | none => exact .root link
          | some base => exact .derived link (bases base link)

/-- The check does not stop on a chain that ends within its bound, since no type that it meets has
as many steps left as the start; by induction along the chain.
-/
theorem isCyclic_eq_false_of_endsAfter {start type : TypeId} {total steps limit : Nat}
    (startEnds : table.EndsAfter total start) (ends : table.EndsAfter steps type)
    (fewer : steps < total) (enough : steps < limit)
    : isCyclic table start limit (some type) = false := by
  have apart {other : TypeId} {left : Nat} (ends : table.EndsAfter left other)
      (fewer : left < total)
      : (other == start) = false := by
    refine beq_eq_false_iff_ne.mpr ?_
    rintro rfl
    exact Nat.ne_of_lt fewer (ends.unique startEnds)
  induction ends generalizing limit with
  | @root type base =>
      obtain ⟨limit, rfl⟩ : ∃ smaller, limit = smaller + 1 :=
        Nat.exists_eq_succ_of_ne_zero (by omega)
      rw [isCyclic, apart (.root base) fewer, base, Bool.false_or]
      cases limit <;> rfl
  | @derived steps type base link rest ih =>
      obtain ⟨limit, rfl⟩ : ∃ smaller, limit = smaller + 1 :=
        Nat.exists_eq_succ_of_ne_zero (by omega)
      rw [isCyclic, apart (.derived link rest) fewer, link, Bool.false_or]
      exact ih (by omega) (by omega)

/-- The check passes a declared type exactly if its chain ends. The bound is the number of steps
that such a chain can have.
-/
theorem Contents.isCyclic_eq_false_iff (contents : manifest.Contents scope table)
    {start : TypeId}
    : isCyclic table start (manifest.types.length + 1) (table.base? start) = false
      ↔ table.ChainEnds start := by
  constructor
  · intro passed
    cases link : table.base? start with
    | none => exact .root link
    | some base => exact .derived link (chainEnds_of_isCyclic_eq_false passed base link)
  · intro chain
    obtain ⟨total, ends⟩ := chain.endsAfter
    have bound := contents.steps_le ends
    cases ends with
    | root base =>
        rw [base]
        rfl
    | @derived steps _ base link rest =>
        rw [link]
        exact isCyclic_eq_false_of_endsAfter (.derived link rest) rest (by omega) (by omega)

------------------------------------------------------------------------------------------
-- The first endless type

/-- The base chain of a declared type never ends. -/
def Endless (scope : Scope) (table : TypeTable) (declaration : TypeDecl) : Prop :=
  ¬ table.ChainEnds (scope.typeOf declaration)

/-- The first of the declared types whose chain never ends has that name. -/
def FirstEndless (scope : Scope) (table : TypeTable) (types : List TypeDecl) (name : String)
    : Prop :=
  ∃ before declaration after,
    types = before ++ declaration :: after
    ∧ declaration.name = name
    ∧ Endless scope table declaration
    ∧ ∀ earlier ∈ before, ¬ Endless scope table earlier

/-- The check searches the declared types in their order for an endless one. -/
theorem Contents.firstCyclic?_eq_find? (contents : manifest.Contents scope table)
    : ∃ fails : TypeDecl → Bool,
        firstCyclic? scope table manifest.types = manifest.types.find? fails
        ∧ ∀ declaration, fails declaration = true ↔ Endless scope table declaration := by
  refine ⟨_, rfl, fun declaration => ?_⟩
  rw [Endless, ← contents.isCyclic_eq_false_iff, Bool.not_eq_false]
  exact .rfl

/-- It finds a type exactly if that is the first endless one. -/
theorem Contents.firstCyclic?_eq_some_iff (contents : manifest.Contents scope table)
    {name : String}
    : (∃ declaration,
        firstCyclic? scope table manifest.types = some declaration ∧ declaration.name = name)
      ↔ FirstEndless scope table manifest.types name := by
  obtain ⟨fails, searched, fails_iff⟩ := contents.firstCyclic?_eq_find?
  simp only [searched, List.find?_eq_some_iff_append, Bool.not_eq_true', ← Bool.not_eq_true,
    fails_iff, FirstEndless]
  constructor
  · rintro ⟨declaration, ⟨endless, before, after, listed, passed⟩, named⟩
    exact ⟨before, declaration, after, listed, named, endless, passed⟩
  · rintro ⟨before, declaration, after, listed, named, endless, passed⟩
    exact ⟨declaration, ⟨endless, before, after, listed, passed⟩, named⟩

/-- It finds none exactly if no declared type is endless. -/
theorem Contents.firstCyclic?_eq_none_iff (contents : manifest.Contents scope table)
    : firstCyclic? scope table manifest.types = none
      ↔ ∀ declaration ∈ manifest.types, ¬ Endless scope table declaration := by
  obtain ⟨fails, searched, fails_iff⟩ := contents.firstCyclic?_eq_find?
  rw [searched, List.find?_eq_none]
  simp only [fails_iff]

/-- If no declared type is endless, all chains of the table end. -/
theorem Contents.chainsEnd (contents : manifest.Contents scope table)
    (endless : ∀ declaration ∈ manifest.types, ¬ Endless scope table declaration)
    : table.ChainsEnd := by
  refine contents.furnished.chainsEnd (fun {name type} found => ?_)
  obtain ⟨declaration, listed, rfl, _⟩ := contents.declaration_of_find? found
  have ends := not_not.mp (endless declaration listed)
  rwa [Scope.typeOf, found] at ends

/-- The table of a successful build has chains that end, as its check for cycles has found none. -/
theorem chainsEnd_of_build {loaded : LoadedCompilation} (built : manifest.build = .ok loaded)
    : loaded.table.ChainsEnd := by
  obtain ⟨scope, completes, acyclic, _⟩ := build_eq_ok_iff.mp built
  have contents := completes.contents
  exact contents.chainsEnd (contents.firstCyclic?_eq_none_iff.mp acyclic)

end Manifest

------------------------------------------------------------------------------------------
-- The check as a whole

/-- Every lookup along a base chain of the table ends: the walk that nothing bounds finds what the
bounded lookup finds.
-/
structure TypeTable.LookupsEnd (table : TypeTable) : Prop where
  members
    : ∀ type name,
        table.WalkEnds (table.declares name) type
          ((table.lookupInHierarchy type name).map Prod.fst)
  bases
    : ∀ type base,
        table.WalkEnds (fun met => met == base) type
          (if table.isDerivedFrom type base then some base else none)

/-- Where all chains end, the walks along them do: lookups of members and searches for a base.
The bounded walks find what the walks without a bound end with.
-/
theorem TypeTable.ChainsEnd.lookupsEnd {table : TypeTable} (ends : table.ChainsEnd)
    : table.LookupsEnd where
  members := by
    intro type name
    have walk := (ends type).walkEnds (table.declares name)
    have found
        : (table.lookupInHierarchy type name).map Prod.fst
          = (table.baseChain type).find? (table.declares name) := by
      rw [lookupInHierarchy, Option.map_map]
      exact Option.map_id_apply
    rwa [found]
  bases := by
    intro type base
    have walk := (ends type).walkEnds (fun met => met == base)
    have found
        : (table.baseChain type).find? (fun met => met == base)
          = if table.isDerivedFrom type base then some base else none := by
      cases search : (table.baseChain type).find? (fun met => met == base) with
      | some met =>
          have same : met = base := by simpa using List.find?_some search
          subst same
          have derived : table.isDerivedFrom type met :=
            List.contains_iff_mem.mpr (List.mem_of_find?_eq_some search)
          rw [if_pos derived]
      | none =>
          have notDerived : ¬ table.isDerivedFrom type base := by
            intro derived
            have met := List.contains_iff_mem.mp derived
            exact List.find?_eq_none.mp search base met (beq_self_eq_true base)
          rw [if_neg notDerived]
    rwa [← found]

/-- The check for cycles is exact. A build fails with a cycle exactly if some declared type is
endless, and names the first such type in the order of declaration, on the cycle or not. Without
one it goes on, however long the chains are, and every lookup in the table ends.
-/
theorem Manifest.Completes.cycles_exact {manifest : Manifest} {scope : Scope} {table : TypeTable}
    (completes : manifest.Completes scope table)
    : (∀ name,
        manifest.build = .error (.cyclicBase name)
        ↔ FirstEndless scope table manifest.types name)
      ∧ ((∀ declaration ∈ manifest.types, table.ChainEnds (scope.typeOf declaration))
        → manifest.build
            = (findCompilation scope table manifest.compilation).map
                (fun (kind, candidate) => { table, kind, candidate }))
      ∧ ∀ loaded, manifest.build = .ok loaded → loaded.table.LookupsEnd := by
  have contents := completes.contents
  refine ⟨fun name => ?_, fun ends => ?_, fun loaded built => ?_⟩
  · rw [completes.build_eq, ← contents.firstCyclic?_eq_some_iff]
    cases firstCyclic? scope table manifest.types with
    | some declaration => simp
    | none =>
        have other
            : findCompilation scope table manifest.compilation ≠ .error (.cyclicBase name) :=
          fun failed => nomatch contents.fault_of_findCompilation failed
        cases compiled : findCompilation scope table manifest.compilation with
        | error error => simpa [compiled, Except.map] using other
        | ok compilation => simp [Except.map]
  · have acyclic := contents.firstCyclic?_eq_none_iff.mpr
      (fun declaration listed => not_not.mpr (ends declaration listed))
    rw [completes.build_eq, acyclic]
  · exact (chainsEnd_of_build built).lookupsEnd

/-- The first of three types derives from a cycle that it does not lie on. -/
def cycleBehindStart : Manifest where
  types :=
    [
      { name := "Start", base := some "Left" },
      { name := "Left", base := some "Right" },
      { name := "Right", base := some "Left" }
    ]
  compilation := .regular none

/-- A chain that has as many steps as the check allows: through both declared types, a generic task
and the platform's future type.
-/
def chainThroughTask : Manifest where
  platformTasks := true
  types :=
    [
      { name := "Derived", base := some "Middle" },
      { name := "Middle", base := some "Task<int>" }
    ]
  compilation := .regular none

/-- The cycle is found from the type in front of it, and the long chain is passed.
Both manifests complete, and what the check comes to follows in general.
-/
theorem cycleBehindStart_found_chainThroughTask_passed
    : (∃ scope table,
        cycleBehindStart.Completes scope table
        ∧ Manifest.FirstEndless scope table cycleBehindStart.types "Start")
      ∧ ∃ scope table loaded,
          chainThroughTask.Completes scope table
          ∧ chainThroughTask.build = .ok loaded
          ∧ loaded.table.LookupsEnd := by
  refine ⟨?_, ?_⟩
  · obtain ⟨scope, table, completes⟩ :=
      cycleBehindStart.exists_completes_iff.mpr ⟨by decide +kernel, by decide +kernel⟩
    have built : cycleBehindStart.build = .error (.cyclicBase "Start") := by decide +kernel
    exact ⟨scope, table, completes, (completes.cycles_exact.1 "Start").mp built⟩
  · obtain ⟨scope, table, completes⟩ :=
      chainThroughTask.exists_completes_iff.mpr ⟨by decide +kernel, by decide +kernel⟩
    have built : chainThroughTask.build.toOption.isSome := by decide +kernel
    cases loaded : chainThroughTask.build with
    | error error =>
        rw [loaded] at built
        cases built
    | ok compilation =>
        exact ⟨scope, table, compilation, completes, rfl,
          completes.cycles_exact.2.2 compilation loaded⟩

end EntryPoints
