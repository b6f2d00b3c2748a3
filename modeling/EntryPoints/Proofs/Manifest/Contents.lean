import EntryPoints.Proofs.Manifest.Completion

/-! What the table of a manifest holds once all of its types are completed, and when that fails. -/

namespace EntryPoints

open TypeTable

------------------------------------------------------------------------------------------
-- Completing all types

/-- Declared types have been completed: the later table is furnished, and they describe it. -/
structure CompletesAll (scope : Scope) (table : TypeTable) (types : List TypeDecl)
    (later : TypeTable)
    : Prop where
  furnished : Furnished scope later
  grows
    : Grows (fun type => ∃ declaration ∈ types, scope.find? declaration.name = some type) table
        later
  describes
    : ∀ declaration ∈ types,
        ∃ type,
          scope.find? declaration.name = some type ∧ declaration.Describes scope later type

/-- Types are declared under the names that they have, so two names stand for two types. -/
theorem Furnished.declared_inj {scope : Scope} {table : TypeTable}
    (furnished : Furnished scope table) {name other : String} {type : TypeId}
    (found : scope.find? name = some type) (found' : scope.find? other = some type)
    : name = other :=
  (furnished.declared found).1.symm.trans (furnished.declared found').1

/-- Types are completed in order, by induction on those that are left. What one completes leaves the
others bare, and those that follow leave it described.
-/
theorem Manifest.completeTypes_endsIn {scope : Scope} {table : TypeTable}
    (furnished : Furnished scope table) (types : List TypeDecl)
    (bare
      : ∀ declaration ∈ types,
          ∃ type,
            scope.find? declaration.name = some type
            ∧ table.symbol type = declaration.bareSymbol)
    (distinct : (types.map TypeDecl.name).Nodup)
    : EndsIn (types.findSome? (TypeDecl.problem? scope.known))
        (CompletesAll scope table types) (completeTypes scope table types) := by
  induction types generalizing table with
  | nil => exact .inr ⟨table, rfl, rfl, furnished, .refl _ table, nofun⟩
  | cons declaration rest ih =>
      obtain ⟨owner, found, symbol⟩ := bare declaration List.mem_cons_self
      obtain ⟨fresh, distinct'⟩ := List.nodup_cons.mp distinct
      have apart {other : TypeDecl} (listed : other ∈ rest) {type : TypeId}
          (found' : scope.find? other.name = some type)
          : type ≠ owner := by
        rintro rfl
        have same := furnished.declared_inj found found'
        exact fresh (same ▸ List.mem_map_of_mem listed)
      rw [completeTypes_cons found]
      rcases completeType_endsIn furnished found symbol with
        ⟨error, problem, failed⟩ | ⟨middle, fine, done, first⟩
      · exact .inl ⟨error, by simp [problem], by simp [failed]⟩
      · have bare' (other : TypeDecl) (listed : other ∈ rest)
            : ∃ type,
                scope.find? other.name = some type ∧ middle.symbol type = other.bareSymbol := by
          obtain ⟨type, found', symbol'⟩ := bare other (List.mem_cons_of_mem _ listed)
          have there := furnished.declaredThere found'
          exact ⟨type, found', (first.grows.symbol there (apart listed found')).trans symbol'⟩
        rcases ih first.furnished bare' distinct' with
          ⟨error, problem, failed⟩ | ⟨later, fine', done', others⟩
        · exact .inl ⟨error, by simpa [fine] using problem, by simpa [done] using failed⟩
        · refine .inr ⟨later, by simpa [fine] using fine', by simpa [done] using done', ?_⟩
          have kept : later.symbol owner = middle.symbol owner := by
            refine others.grows.symbol (first.furnished.declaredThere found) ?_
            rintro ⟨other, listed, found'⟩
            exact apart listed found' rfl
          have described : declaration.Describes scope later owner :=
            first.describes.grow_of_symbol first.furnished others.grows
              (fun ⟨other, _, found'⟩ => ⟨other.name, found'⟩) kept
          have firstGrows := first.grows.mono (fun type _ touch =>
            show ∃ other ∈ declaration :: rest, scope.find? other.name = some type from
              ⟨declaration, List.mem_cons_self, touch ▸ found⟩)
          have othersGrow := others.grows.mono (fun type _ ⟨other, listed, found'⟩ =>
            show ∃ other ∈ declaration :: rest, scope.find? other.name = some type from
              ⟨other, List.mem_cons_of_mem _ listed, found'⟩)
          refine ⟨others.furnished, firstGrows.trans othersGrow, ?_⟩
          intro other listed
          rcases List.mem_cons.mp listed with rfl | later
          · exact ⟨owner, found, described⟩
          · exact others.describes other later

------------------------------------------------------------------------------------------
-- Manifests

namespace Manifest

/-- The names that a manifest declares types under. -/
def names (manifest : Manifest) : List String :=
  manifest.types.map TypeDecl.name

/-- What the spellings of a manifest may mention. -/
def known (manifest : Manifest) : KnownNames where
  declared name := decide (name ∈ manifest.names)
  platformTasks := manifest.platformTasks

/-- A manifest passes what a build does before it looks for cycles: its types are declared and then
completed. -/
def Completes (manifest : Manifest) (scope : Scope) (table : TypeTable) : Prop :=
  ∃ bare,
    declareTypes { platformTasks := manifest.platformTasks } manifest.startingTable manifest.types
        = .ok (scope, bare)
    ∧ completeTypes scope bare manifest.types = .ok table

/-- The table of a manifest holds what its declarations say, and what they mention. -/
structure Contents (manifest : Manifest) (scope : Scope) (table : TypeTable) : Prop where
  furnished : Furnished scope table
  known : scope.known = manifest.known
  distinct : manifest.names.Nodup
  describes
    : ∀ declaration ∈ manifest.types,
        ∃ type,
          scope.find? declaration.name = some type ∧ declaration.Describes scope table type

/-- The scope of a build says as the manifest does whether the platform's future types are there. -/
theorem Contents.platformTasks {manifest : Manifest} {scope : Scope} {table : TypeTable}
    (contents : manifest.Contents scope table)
    : scope.platformTasks = manifest.platformTasks :=
  congrArg KnownNames.platformTasks contents.known

/-- The types of a scope are those that the manifest declares, and are what their declarations say.
The declaration of a name leads back to the type under that name, which is the given one.
-/
theorem Contents.declaration_of_find? {manifest : Manifest} {scope : Scope} {table : TypeTable}
    (contents : manifest.Contents scope table) {name : String} {type : TypeId}
    (found : scope.find? name = some type)
    : ∃ declaration ∈ manifest.types,
        declaration.name = name ∧ declaration.Describes scope table type := by
  have declared := congrFun (congrArg KnownNames.declared contents.known) name
  have listed : name ∈ manifest.names := by
    simpa [Scope.known, found, Manifest.known] using declared
  obtain ⟨declaration, member, rfl⟩ := List.mem_map.mp listed
  obtain ⟨other, found', describes⟩ := contents.describes declaration member
  obtain rfl := Option.some.inj (found.symm.trans found')
  exact ⟨declaration, member, rfl, describes⟩

/-- The scope of declared types knows the names that the manifest declares: each of them is in
scope, and nothing else is.
-/
theorem known_of_declared {manifest : Manifest} {scope : Scope} {bare : TypeTable}
    (declared : Declared manifest.types scope bare)
    (platformTasks : scope.platformTasks = manifest.platformTasks)
    : scope.known = manifest.known := by
  have names (name : String)
      : (scope.find? name).isSome = decide (name ∈ manifest.names) := by
    rw [Bool.eq_iff_iff, decide_eq_true_iff, Option.isSome_iff_exists]
    refine ⟨fun ⟨type, found⟩ => declared.only found, fun listed => ?_⟩
    obtain ⟨declaration, member, rfl⟩ := List.mem_map.mp listed
    obtain ⟨type, found, _⟩ := declared.bare declaration member
    exact ⟨type, found⟩
  simp [Scope.known, known, platformTasks, names]

/-- Nothing is declared in the table that a build starts from, which is furnished. -/
theorem declared_startingTable (manifest : Manifest)
    : Declared [] { platformTasks := manifest.platformTasks } manifest.startingTable where
  furnished := manifest.furnished_startingTable
  bare := nofun
  only := nofun
  distinct := .nil

/-- A manifest does not pass the first phases: declaring its types ends with the error, or
completing them does. -/
def Stops (manifest : Manifest) (error : BuildError) : Prop :=
  declareTypes { platformTasks := manifest.platformTasks } manifest.startingTable manifest.types
      = .error error
  ∨ ∃ scope bare,
      declareTypes { platformTasks := manifest.platformTasks } manifest.startingTable
            manifest.types
          = .ok (scope, bare)
      ∧ completeTypes scope bare manifest.types = .error error

/-- A build that stops in one of its first phases fails with that error. -/
theorem Stops.build_eq {manifest : Manifest} {error : BuildError} (stops : manifest.Stops error)
    : manifest.build = .error error := by
  rcases stops with failed | ⟨scope, bare, done, failed⟩
  · simp [build, failed]
  · simp [build, done, failed]

/-- It does not complete its types then. -/
theorem Stops.not_completes {manifest : Manifest} {error : BuildError}
    (stops : manifest.Stops error) {scope : Scope} {table : TypeTable}
    : ¬ manifest.Completes scope table := by
  rintro ⟨bare, done, completed⟩
  rcases stops with failed | ⟨scope', bare', done', failed⟩
  · cases failed.symm.trans done
  · obtain ⟨rfl, rfl⟩ := Prod.mk.inj (Except.ok.inj (done.symm.trans done'))
    cases failed.symm.trans completed

/-- Declaring ends with the first repeated name, and completing with the first problem; by the
outcomes of both.
-/
theorem completes_or_stops (manifest : Manifest)
    : (∃ scope table,
        manifest.Completes scope table
        ∧ manifest.Contents scope table
        ∧ manifest.types.findSome? (TypeDecl.problem? manifest.known) = none)
      ∨ (∃ name,
        manifest.Stops (.duplicateType name) ∧ FirstRepeated manifest.names name)
      ∨ ∃ error,
        manifest.Stops error
        ∧ manifest.names.Nodup
        ∧ manifest.types.findSome? (TypeDecl.problem? manifest.known) = some error := by
  rcases declareTypes_outcome manifest.declared_startingTable manifest.types with
    ⟨scope, bare, done, declared, platformTasks⟩ | ⟨name, failed, repeated⟩
  · have known := known_of_declared declared platformTasks
    rcases completeTypes_endsIn declared.furnished manifest.types declared.bare
        declared.distinct with
      ⟨error, problem, failed⟩ | ⟨table, fine, done', completed⟩
    · rw [known] at problem
      exact .inr (.inr ⟨error, .inr ⟨scope, bare, done, failed⟩, declared.distinct, problem⟩)
    · rw [known] at fine
      exact .inl ⟨scope, table, ⟨bare, done, done'⟩,
        ⟨completed.furnished, known, declared.distinct, completed.describes⟩, fine⟩
  · exact .inr (.inl ⟨name, .inl failed, repeated⟩)

/-- The first phases have one result at most, as they are functions. -/
theorem Completes.unique {manifest : Manifest} {scope scope' : Scope} {table table' : TypeTable}
    (h : manifest.Completes scope table) (h' : manifest.Completes scope' table')
    : scope = scope' ∧ table = table' := by
  obtain ⟨bare, done, completed⟩ := h
  obtain ⟨bare', done', completed'⟩ := h'
  obtain ⟨rfl, rfl⟩ := Prod.mk.inj (Except.ok.inj (done.symm.trans done'))
  exact ⟨rfl, Except.ok.inj (completed.symm.trans completed')⟩

/-- A table that is completed contains what its manifest declares, since the other two outcomes of
the first phases are errors.
-/
theorem Completes.contents {manifest : Manifest} {scope : Scope} {table : TypeTable}
    (completes : manifest.Completes scope table)
    : manifest.Contents scope table := by
  rcases manifest.completes_or_stops with
    ⟨scope', table', completes', contents, _⟩ | ⟨name, stops, _⟩ | ⟨error, stops, _⟩
  · obtain ⟨rfl, rfl⟩ := completes.unique completes'
    exact contents
  · exact absurd completes stops.not_completes
  · exact absurd completes stops.not_completes

/-- A manifest passes the first phases exactly if its names differ and no type has a problem.
By the three outcomes of these phases, of which two are the errors for a repeated name and for a
problem.
-/
theorem exists_completes_iff (manifest : Manifest)
    : (∃ scope table, manifest.Completes scope table)
      ↔ manifest.names.Nodup
        ∧ ∀ declaration ∈ manifest.types, declaration.problem? manifest.known = none := by
  rw [← List.findSome?_eq_none_iff]
  rcases manifest.completes_or_stops with
    ⟨scope, table, completes, contents, fine⟩ | ⟨name, stops, repeated⟩
      | ⟨error, stops, distinct, problem⟩
  · exact iff_of_true ⟨scope, table, completes⟩ ⟨contents.distinct, fine⟩
  · refine iff_of_false ?_ (fun fine => repeated.not_nodup fine.1)
    rintro ⟨scope, table, completes⟩
    exact stops.not_completes completes
  · refine iff_of_false ?_ ?_
    · rintro ⟨scope, table, completes⟩
      exact stops.not_completes completes
    · rintro ⟨_, fine⟩
      cases problem.symm.trans fine

/-- After the first phases a build checks for cycles and finds its compilation. -/
theorem Completes.build_eq {manifest : Manifest} {scope : Scope} {table : TypeTable}
    (completes : manifest.Completes scope table)
    : manifest.build
      = match firstCyclic? scope table manifest.types with
        | some declaration => .error (.cyclicBase declaration.name)
        | none =>
            (findCompilation scope table manifest.compilation).map
              (fun (kind, candidate) => { table, kind, candidate }) := by
  obtain ⟨bare, done, completed⟩ := completes
  simp only [build, done, completed]
  cases firstCyclic? scope table manifest.types with
  | some declaration => rfl
  | none => cases findCompilation scope table manifest.compilation <;> rfl

/-- A build is successful if the manifest passes the first phases, has no cycle and describes a
compilation.
-/
theorem build_eq_ok_iff {manifest : Manifest} {loaded : LoadedCompilation}
    : manifest.build = .ok loaded
      ↔ ∃ scope,
          manifest.Completes scope loaded.table
          ∧ firstCyclic? scope loaded.table manifest.types = none
          ∧ findCompilation scope loaded.table manifest.compilation
            = .ok (loaded.kind, loaded.candidate) := by
  constructor
  · intro built
    unfold build at built
    dsimp only at built
    split at built
    · cases built
    · next scope bare done =>
      split at built
      · cases built
      · next table completed =>
        split at built
        · cases built
        · next acyclic =>
          split at built
          · cases built
          · next kind candidate described =>
            obtain rfl := Except.ok.inj built
            exact ⟨scope, ⟨bare, done, completed⟩, acyclic, described⟩
  · rintro ⟨scope, completes, acyclic, described⟩
    rw [completes.build_eq, acyclic, described]
    rfl

end Manifest

end EntryPoints
