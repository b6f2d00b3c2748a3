import EntryPoints.Proofs.Manifest.Matching

/-! The order in which a manifest declares its types makes no difference: it builds in all orders or
in none, and whatever is synthesized for it is the same.
-/

namespace EntryPoints.Manifest

open TypeTable

/-- A build succeeds in any order of the types, with a compilation that is synthesized alike,
whatever the configuration.
The contents of both tables match, so the other manifest builds to a compilation that is alike, and
compilations that are alike are reported alike.
-/
theorem Reorders.build {manifest other : Manifest} (reorders : manifest.Reorders other)
    {loaded : LoadedCompilation} (built : manifest.build = .ok loaded)
    : ∃ loaded',
        other.build = .ok loaded'
        ∧ ∀ config, loaded.synthesize config = loaded'.synthesize config := by
  obtain ⟨scope, completes, _⟩ := build_eq_ok_iff.mp built
  obtain ⟨scope', table', completes'⟩ := reorders.exists_completes ⟨scope, loaded.table, completes⟩
  have contents := completes.contents
  have contents' := completes'.contents
  have matching := reorders.contentsMatch contents contents'
  obtain ⟨loaded', rfl, built', kinds, candidates⟩ :=
    matching.exists_build built completes completes'
  have alike : loaded.Alike (Matches scope loaded.table scope' loaded'.table) loaded' := {
    corresponds := matching.corresponds
    ends := chainsEnd_of_build built
    interned := contents.furnished.reached.arraysInterned
    interned' := contents'.furnished.reached.arraysInterned
    tasks := ⟨.task, .task, .task⟩
    kind := kinds
    candidate := candidates
  }
  exact ⟨loaded', built', alike.selectsAlike.synthesize_eq⟩

/-- The order of declarations is irrelevant. A manifest builds exactly if it does with its types in
another order, and then both are reported alike or fail alike, whatever the configuration.
-/
theorem synthesize_eq_of_perm {manifest : Manifest} {types : List TypeDecl}
    (perm : types.Perm manifest.types)
    : ((∃ loaded, manifest.build = .ok loaded)
        ↔ ∃ loaded, { manifest with types }.build = .ok loaded)
      ∧ ∀ loaded loaded' config,
          manifest.build = .ok loaded
          → { manifest with types }.build = .ok loaded'
          → loaded.synthesize config = loaded'.synthesize config := by
  have reorders : manifest.Reorders { manifest with types } := ⟨rfl, perm.symm, rfl⟩
  refine ⟨⟨?_, ?_⟩, ?_⟩
  · rintro ⟨loaded, built⟩
    obtain ⟨loaded', built', _⟩ := reorders.build built
    exact ⟨loaded', built'⟩
  · rintro ⟨loaded, built⟩
    obtain ⟨loaded', built', _⟩ := reorders.symm.build built
    exact ⟨loaded', built'⟩
  · intro loaded loaded' config built built'
    obtain ⟨other, built'', same⟩ := reorders.build built
    obtain rfl := Except.ok.inj (built''.symm.trans built')
    exact same config

/-- A program whose main returns a task of an array of a type that is declared behind it. -/
def mainBeforeItsResult : Manifest where
  platformTasks := true
  types :=
    [
      {
        name := "Program",
        members :=
          [
            .method
              {
                name := some "Main",
                returns := some "Task<Result[]>",
                isStatic := true,
                isAsync := true
              }
          ]
      },
      { name := "Result", base := some "Task" }
    ]
  compilation := .regular (some "Program.Main")

/-- The program is loaded into another table with its types in reverse, and reported alike.
Witness: an async main in front of the class that its result mentions, which itself derives from
the plain task.
-/
theorem mainBeforeItsResult_reversed
    : mainBeforeItsResult.types.reverse.Perm mainBeforeItsResult.types
      ∧ ∃ loaded loaded',
          mainBeforeItsResult.build = .ok loaded
          ∧ { mainBeforeItsResult with types := mainBeforeItsResult.types.reverse }.build
            = .ok loaded'
          ∧ loaded ≠ loaded'
          ∧ loaded.synthesize {} = loaded'.synthesize {} := by
  have perm := mainBeforeItsResult.types.reverse_perm
  have order := synthesize_eq_of_perm perm
  have loads : mainBeforeItsResult.build.toOption.isSome := by decide +kernel
  have different
      : mainBeforeItsResult.build
        ≠ { mainBeforeItsResult with types := mainBeforeItsResult.types.reverse }.build := by
    decide +kernel
  cases built : mainBeforeItsResult.build with
  | error error =>
      rw [built] at loads
      cases loads
  | ok loaded =>
      obtain ⟨loaded', built'⟩ := order.1.mp ⟨loaded, built⟩
      refine ⟨perm, loaded, loaded', rfl, built', ?_, order.2 loaded loaded' {} built built'⟩
      rintro rfl
      exact different (built.trans built'.symm)

end EntryPoints.Manifest
