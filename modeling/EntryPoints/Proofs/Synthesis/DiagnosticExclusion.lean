import EntryPoints.Proofs.Synthesis.Outcome
import EntryPoints.Proofs.TypeTable.Hierarchy

/-! Synthesis that reports an error ends with nothing, and synthesis that ends with an output or an
error reports nothing. One exception is left: a script reports the use of a platform future that
it can use all the same.
-/

namespace EntryPoints

------------------------------------------------------------------------------------------
-- The use of the platform's future type

namespace TypeTable

/-- The future type carries a diagnostic to report on its use, and a script can use it. -/
inductive ReportsUsableTask (table : TypeTable) : CompilationKind → Prop where
  | script {scriptClass : TypeId} {initializer : MethodId} {protocol : AwaitProtocol}
      (admits : ScriptMain.Admits table scriptClass initializer)
      (awaits : table.Awaits table.wellKnownTask protocol)
      (carries : (table.useSite? table.wellKnownTask).isSome)
      : ReportsUsableTask table (.script scriptClass)

/-- A script that can use the platform's future makes a viable entry point, reported or not. -/
theorem ReportsUsableTask.viable {table : TypeTable} {kind : CompilationKind}
    (reports : table.ReportsUsableTask kind) (candidate : Option MethodId)
    (config : SynthesisConfig)
    : ∃ entryPoint, Viable table config kind candidate entryPoint := by
  cases reports with
  | script admits awaits _ => exact ⟨_, .script admits awaits⟩

/-- Reporting the use of a type leaves the bag as it is exactly if the type can be used. -/
theorem reportUseSite_eq_iff {table : TypeTable} {type : TypeId} {bag : DiagnosticBag}
    : (table.reportUseSite type bag).2 = bag ↔ table.useSite? type = none := by
  cases carried : table.useSite? type with
  | none => simp [reportUseSite, carried]
  | some info => simp [reportUseSite, carried, DiagnosticBag.push_ne]

/-- On the way to a viable entry point only a script reports something, namely the use of a future
type with a diagnostic; by cases on viability.
-/
theorem reportedFor_eq_iff {table : TypeTable} {kind : CompilationKind}
    {candidate : Option MethodId} {config : SynthesisConfig} {entryPoint : EntryPoint}
    (viable : Viable table config kind candidate entryPoint) {bag : DiagnosticBag}
    : table.reportedFor bag kind = bag ↔ ¬ table.ReportsUsableTask kind := by
  cases viable with
  | forwarder => exact iff_of_true rfl (fun reports => nomatch reports)
  | submission => exact iff_of_true rfl (fun reports => nomatch reports)
  | script admits awaits =>
      rw [reportedFor, ScriptMain.reported, reportUseSite_eq_iff]
      constructor
      · rintro silent ⟨_, _, carries⟩
        simp [silent] at carries
      · intro unreported
        by_contra carried
        exact unreported (.script admits awaits (Option.isSome_iff_ne_none.mpr carried))

/-- What is reported on the way to an entry point are errors; only for scripts there is anything to
report.
-/
theorem reportedFor_growsByErrors (table : TypeTable) (kind : CompilationKind)
    (bag : DiagnosticBag)
    : bag.GrowsByErrors (table.reportedFor bag kind) := by
  cases kind with
  | regular => exact .refl bag
  | script scriptClass => exact reportUseSite_growsByErrors table table.wellKnownTask bag
  | submission submissionClass => exact .refl bag

/-- A viable entry point gives an output or an error, never nothing. -/
theorem map_body_ne_none (table : TypeTable) (entryPoint : EntryPoint)
    : (entryPoint.body table).map (fun body => some { entryPoint, body : EntryPointOutput })
      ≠ .ok none := by
  cases entryPoint.body table <;> simp [Except.map]

------------------------------------------------------------------------------------------
-- Exclusion

/-- Synthesis appends errors only, by cases on the outcome: an output has the reports for its kind,
nothing comes with the errors that suppress it, and a failure reports nothing.
-/
theorem synthesize_growsByErrors (table : TypeTable) (kind : CompilationKind)
    (candidate : Option MethodId) (config : SynthesisConfig) (bag : DiagnosticBag)
    : bag.GrowsByErrors (table.synthesize kind candidate config bag).2 := by
  have outcome := synthesize_outcome table kind candidate config bag
  generalize table.synthesize kind candidate config bag = result at outcome ⊢
  cases outcome with
  | built viable => exact reportedFor_growsByErrors table kind bag
  | nothing suppressed errors => exact errors
  | failed refused => exact .refl bag

/-- An output or an error leaves the bag unchanged exactly if the compilation is no script that
reports a future that it can use; by cases on the outcome.
-/
theorem synthesize_unchanged_iff (table : TypeTable) (kind : CompilationKind)
    (candidate : Option MethodId) (config : SynthesisConfig) (bag : DiagnosticBag)
    : ((table.synthesize kind candidate config bag).1 ≠ .ok none
          → (table.synthesize kind candidate config bag).2 = bag)
      ↔ ¬ table.ReportsUsableTask kind := by
  have outcome := synthesize_outcome table kind candidate config bag
  generalize table.synthesize kind candidate config bag = result at outcome ⊢
  cases outcome with
  | @built entryPoint viable =>
      rw [forall_prop_of_true (map_body_ne_none table entryPoint)]
      exact reportedFor_eq_iff viable
  | nothing suppressed errors =>
      refine iff_of_true (fun ended => absurd rfl ended) (fun reports => ?_)
      obtain ⟨entryPoint, viable⟩ := reports.viable candidate config
      exact suppressed entryPoint viable
  | failed refused =>
      refine iff_of_true (fun _ => rfl) (fun reports => ?_)
      obtain ⟨entryPoint, viable⟩ := reports.viable candidate config
      exact refused entryPoint viable

/-- Errors are all that synthesis appends. Gaining one and ending with anything but nothing exclude
each other, and an output or an error leaves the bag unchanged, with the same exception.
-/
theorem synthesize_excludes_iff (table : TypeTable) (kind : CompilationKind)
    (candidate : Option MethodId) (config : SynthesisConfig) (bag : DiagnosticBag)
    : bag.GrowsByErrors (table.synthesize kind candidate config bag).2
      ∧ ((bag.GainsError (table.synthesize kind candidate config bag).2
            → (table.synthesize kind candidate config bag).1 = .ok none)
        ↔ ¬ table.ReportsUsableTask kind)
      ∧ (((table.synthesize kind candidate config bag).1 ≠ .ok none
            → (table.synthesize kind candidate config bag).2 = bag)
        ↔ ¬ table.ReportsUsableTask kind) := by
  have errors := synthesize_growsByErrors table kind candidate config bag
  have unchanged := synthesize_unchanged_iff table kind candidate config bag
  refine ⟨errors, ?_, unchanged⟩
  rw [← unchanged, ← errors.not_gainsError_iff]
  exact not_imp_not.symm

/-- A script whose initializer returns a platform future that carries a diagnostic. -/
def scriptOfReportedTask : TypeTable :=
  .performAll .empty
    [
      .definePlatformTasks,
      .setUseSite ⟨12⟩ { code := .bogusType, arguments := ["Task"] },
      .defineType "Script" .scriptClass none,
      .defineMethod ⟨13⟩ (.constructor SpecialType.void.id),
      .defineMethod ⟨13⟩ (.initializer ⟨12⟩)
    ]

/-- The exception is reached: that script gains an error and has an output, by running its
synthesis.
-/
theorem scriptOfReportedTask_not_excluded
    : scriptOfReportedTask.Reached
      ∧ scriptOfReportedTask.ChainsEnd
      ∧ DiagnosticBag.empty.GainsError
          (scriptOfReportedTask.synthesize (.script ⟨13⟩) none {} .empty).2
      ∧ ∃ output,
          (scriptOfReportedTask.synthesize (.script ⟨13⟩) none {} .empty).1
            = .ok (some output) :=
  ⟨⟨_, by decide, rfl⟩, chainsEnd_of_bases_before (by decide), ⟨_, rfl, _, .head _, rfl⟩, _, rfl⟩

end TypeTable

end EntryPoints
