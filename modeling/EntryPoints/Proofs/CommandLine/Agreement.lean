import EntryPoints.CommandLine.Run
import EntryPoints.Proofs.Manifest.Endings
import EntryPoints.Proofs.Synthesis.Configuration
import EntryPoints.Proofs.Synthesis.DiagnosticExclusion

/-! A check and a synthesis of one manifest agree, although they judge a report by different rules
and are made with different configurations.
-/

namespace EntryPoints

open TypeTable

------------------------------------------------------------------------------------------
-- Reports

/-- What a report says apart from the text. -/
def SynthesisReport.outline (report : SynthesisReport) : Bool × Bool × List Diagnostic :=
  (report.needed, report.rendered.isSome, report.diagnostics)

/-- The configuration has no influence on a report but for its text.
Two configurations end with the same diagnostics and with outputs, or none, of one kind; by cases on
what both end with.
-/
theorem LoadedCompilation.synthesize_outline (loaded : LoadedCompilation)
    (config other : SynthesisConfig)
    : (loaded.synthesize other).map SynthesisReport.outline
      = (loaded.synthesize config).map SynthesisReport.outline := by
  obtain ⟨same, bags⟩ :=
    synthesize_configured loaded.table config other .empty loaded.kind loaded.candidate
  rcases ended : loaded.table.synthesize loaded.kind loaded.candidate config .empty
    with ⟨result, bag⟩
  rcases ended' : loaded.table.synthesize loaded.kind loaded.candidate other .empty
    with ⟨result', bag'⟩
  rw [ended, ended'] at same bags
  rw [LoadedCompilation.synthesize_eq ended, LoadedCompilation.synthesize_eq ended']
  cases result <;> cases result' <;> simp_all [Except.map, SynthesisReport.outline]

/-- An error with one configuration is the error with all of them. -/
theorem LoadedCompilation.synthesize_error {loaded : LoadedCompilation}
    {config : SynthesisConfig} {error : EntryPointError}
    (failed : loaded.synthesize config = .error error) (other : SynthesisConfig)
    : loaded.synthesize other = .error error := by
  have outline := loaded.synthesize_outline config other
  cases ended : loaded.synthesize other with
  | error error' => simpa [failed, ended, Except.map] using outline
  | ok report => simp [failed, ended, Except.map] at outline

/-- A report with one configuration means one with all of them, of the same outline. -/
theorem LoadedCompilation.exists_report {loaded : LoadedCompilation}
    {config : SynthesisConfig} {report : SynthesisReport}
    (reported : loaded.synthesize config = .ok report) (other : SynthesisConfig)
    : ∃ report',
        loaded.synthesize other = .ok report' ∧ report'.outline = report.outline := by
  have outline := loaded.synthesize_outline config other
  cases ended : loaded.synthesize other with
  | error error => simp [reported, ended, Except.map] at outline
  | ok report' => exact ⟨report', rfl, by simpa [reported, ended, Except.map] using outline⟩

/-- The text that a report holds is that of the output that synthesis ends with.
By cases on the result of synthesis, whose output is what the conditions for producing it describe.
-/
theorem LoadedCompilation.rendered_eq_some_iff {loaded : LoadedCompilation}
    {config : SynthesisConfig} {report : SynthesisReport}
    (reported : loaded.synthesize config = .ok report) {text : String}
    : report.rendered = some text
      ↔ ∃ output,
          Produces loaded.table config loaded.kind loaded.candidate output
          ∧ output.render loaded.table = text := by
  rcases ended : loaded.table.synthesize loaded.kind loaded.candidate config .empty
    with ⟨result, bag⟩
  rw [LoadedCompilation.synthesize_eq ended] at reported
  cases result with
  | error error => cases reported
  | ok output? =>
      obtain rfl := Except.ok.inj reported
      have produces (output : EntryPointOutput)
          : output? = some output
            ↔ Produces loaded.table config loaded.kind loaded.candidate output := by
        rw [← @synthesize_eq_some_iff_produces _ _ _ _ .empty output, ended]
        simp
      simp [Option.map_eq_some_iff, produces]

/-- Where no entry point is needed nothing is reported: synthesis does not begin then, and where it
does begin one is needed.
-/
theorem LoadedCompilation.diagnostics_of_not_needed {loaded : LoadedCompilation}
    {config : SynthesisConfig} {report : SynthesisReport}
    (reported : loaded.synthesize config = .ok report) (notNeeded : report.needed = false)
    : report.diagnostics = [] := by
  cases selected : loaded.table.selectStrategy loaded.kind loaded.candidate with
  | none =>
      rw [LoadedCompilation.synthesize_eq (synthesize_of_not_selected selected)] at reported
      obtain rfl := Except.ok.inj reported
      rfl
  | some strategy =>
      unfold LoadedCompilation.synthesize at reported
      split at reported
      · cases reported
      · obtain rfl := Except.ok.inj reported
        simp [selected] at notNeeded

/-- The platform's future type of a manifest carries a diagnostic only where it cannot be used.
If it is there it carries none, and if it is not there the type that stands for it is an error,
which no script waits for.
-/
theorem Manifest.not_reportsUsableTask {manifest : Manifest} {loaded : LoadedCompilation}
    (built : manifest.build = .ok loaded)
    : ¬ loaded.table.ReportsUsableTask loaded.kind := by
  obtain ⟨scope, completes, _, _⟩ := build_eq_ok_iff.mp built
  have furnished := completes.contents.furnished
  intro reports
  generalize loaded.kind = kind at reports
  cases reports with
  | script admits awaits carries =>
      cases platformTasks : scope.platformTasks with
      | true => simp [(furnished.wellKnownTask_present platformTasks).1] at carries
      | false =>
          have error := (furnished.wellKnownTask_missing platformTasks).1
          simp [awaits.notError] at error

/-- What is rendered for a manifest is rendered without a complaint.
Only the diagnostic of a future type that can be used would be reported beside an output, and that
of a manifest carries none.
-/
theorem Manifest.diagnostics_of_rendered {manifest : Manifest} {loaded : LoadedCompilation}
    (built : manifest.build = .ok loaded) {config : SynthesisConfig}
    {report : SynthesisReport} (reported : loaded.synthesize config = .ok report)
    (rendered : report.rendered.isSome)
    : report.diagnostics = [] := by
  have unchanged :=
    (synthesize_unchanged_iff loaded.table loaded.kind loaded.candidate config .empty).mpr
      (Manifest.not_reportsUsableTask built)
  rcases ended : loaded.table.synthesize loaded.kind loaded.candidate config .empty
    with ⟨result, bag⟩
  rw [ended] at unchanged
  rw [LoadedCompilation.synthesize_eq ended] at reported
  cases result with
  | error error => cases reported
  | ok output? =>
      obtain rfl := Except.ok.inj reported
      have output : output? ≠ none := by simpa [Option.isSome_iff_ne_none] using rendered
      have bare : bag = .empty := unchanged (by simpa using output)
      rw [bare]
      rfl

namespace CommandLine

------------------------------------------------------------------------------------------
-- Conclusions from a report

/-- The exit code is zero exactly if the outcome has a text to print. -/
theorem Outcome.exitCode_eq_zero_iff {outcome : Outcome}
    : outcome.exitCode = 0 ↔ ∃ text, outcome.result = .ok text := by
  unfold Outcome.exitCode
  split <;> simp [*]

/-- A command that has got a report fails for reasons of its own. -/
inductive Failure.IsVerdict : Failure → Prop where
  | notSynthesized (path : String) : IsVerdict (.notSynthesized path)
  | errors (path : String) (count : Nat) : IsVerdict (.errors path count)
  | suppressed (path : String) : IsVerdict (.suppressed path)

/-- A check that fails on a report is a verdict on it, by cases on the two complaints. -/
theorem isVerdict_of_concludeCheck {path : String} {report : SynthesisReport}
    {failure : Failure} (concluded : concludeCheck path report = .error failure)
    : failure.IsVerdict := by
  simp only [concludeCheck] at concluded
  split at concluded
  · obtain rfl := Except.error.inj concluded
    exact .errors _ _
  · split at concluded
    · obtain rfl := Except.error.inj concluded
      exact .suppressed _
    · cases concluded

/-- So is a synthesis that fails on a report. -/
theorem isVerdict_of_concludeSynthesis {path : String} {report : SynthesisReport}
    {failure : Failure} (concluded : concludeSynthesis path report = .error failure)
    : failure.IsVerdict := by
  unfold concludeSynthesis at concluded
  split at concluded
  · cases concluded
  · split at concluded
    · obtain rfl := Except.error.inj concluded
      exact .notSynthesized _
    · cases concluded

/-- A synthesis is passed with a text or where none is needed. -/
theorem concludeSynthesis_passes_iff {path : String} {report : SynthesisReport}
    : (∃ text, concludeSynthesis path report = .ok text)
      ↔ report.rendered.isSome ∨ report.needed = false := by
  unfold concludeSynthesis
  split
  · next text rendered => simp [rendered]
  · next none => cases needed : report.needed <;> simp [none]

/-- A check is passed under the same condition, if a report that meets it has no diagnostics.
With an output nothing is suppressed, and without diagnostics there are no errors to complain about.
-/
theorem concludeCheck_passes_iff {path : String} {report : SynthesisReport}
    (clean : report.rendered.isSome ∨ report.needed = false → report.diagnostics = [])
    : (∃ text, concludeCheck path report = .ok text)
      ↔ report.rendered.isSome ∨ report.needed = false := by
  unfold concludeCheck
  by_cases passes : report.rendered.isSome ∨ report.needed = false
  · rw [clean passes]
    rcases passes with rendered | notNeeded
    · simp [rendered, Option.isNone_eq_false_iff.mpr rendered]
    · simp [notNeeded]
  · obtain ⟨notRendered, needed⟩ := not_or.mp passes
    simp only [Bool.not_eq_true, Option.isSome_eq_false_iff, Bool.not_eq_false]
      at notRendered needed
    refine iff_of_false ?_ passes
    rintro ⟨text, concluded⟩
    simp only [needed, notRendered] at concluded
    split at concluded
    · cases concluded
    · cases concluded

------------------------------------------------------------------------------------------
-- Two commands

/-- Two outcomes agree: both commands succeed or none does, they show the same diagnostics, and
neither ends with an error on the way to a report that the other does not end with.
-/
structure Outcome.Agrees (first second : Outcome) : Prop where
  success : first.exitCode = 0 ↔ second.exitCode = 0
  diagnostics : first.diagnostics = second.diagnostics
  load
    : ∀ error, first.result = .error (.load error) ↔ second.result = .error (.load error)
  synthesis
    : ∀ error,
        first.result = .error (.synthesis error) ↔ second.result = .error (.synthesis error)

variable (readText : String → Except FileError String) (path : String)

section
variable {readText path} {config : SynthesisConfig}
  {conclude : SynthesisReport → Except Failure String}

/-- What cannot be loaded is reported, whatever the command would conclude. -/
theorem report_of_load_error {error : LoadError} (failed : load readText path = .error error)
    : report readText path config conclude = { result := .error (.load error) } := by
  simp [report, failed]

/-- So is a synthesis that ends with an error. -/
theorem report_of_synthesis_error {loaded : LoadedCompilation} {error : EntryPointError}
    (succeeded : load readText path = .ok loaded)
    (failed : loaded.synthesize config = .error error)
    : report readText path config conclude = { result := .error (.synthesis error) } := by
  simp [report, succeeded, failed]

/-- A report is printed with its diagnostics, and concluded on as the command does. -/
theorem report_of_reported {loaded : LoadedCompilation} {reported : SynthesisReport}
    (succeeded : load readText path = .ok loaded)
    (synthesized : loaded.synthesize config = .ok reported)
    : report readText path config conclude
      = { diagnostics := reported.diagnostics, result := conclude reported } := by
  simp [report, succeeded, synthesized]

/-- What is loaded was built from some manifest, by cases on the steps of loading. -/
theorem exists_build_of_load {loaded : LoadedCompilation}
    (succeeded : load readText path = .ok loaded)
    : ∃ manifest : Manifest, manifest.build = .ok loaded := by
  unfold load at succeeded
  split at succeeded
  · cases succeeded
  · split at succeeded
    · cases succeeded
    · next manifest _ =>
      split at succeeded
      · cases succeeded
      · next built =>
        obtain rfl := Except.ok.inj succeeded
        exact ⟨manifest, built⟩

/-- Reports of one outline are judged alike, though by different rules.
Both rules pass the same outlines, and where they do not pass a report both fail with a verdict,
which is neither of the errors of loading and synthesis.
-/
theorem agrees_of_outline {checked synthesized : SynthesisReport}
    (outline : synthesized.outline = checked.outline)
    (clean
      : checked.rendered.isSome ∨ checked.needed = false → checked.diagnostics = [])
    : Outcome.Agrees
        { diagnostics := checked.diagnostics, result := concludeCheck path checked }
        {
          diagnostics := synthesized.diagnostics,
          result := concludeSynthesis path synthesized
        } := by
  obtain ⟨needed, rendered, diagnostics⟩
      : synthesized.needed = checked.needed
        ∧ synthesized.rendered.isSome = checked.rendered.isSome
        ∧ synthesized.diagnostics = checked.diagnostics := by
    simpa [SynthesisReport.outline] using outline
  refine ⟨?_, diagnostics.symm, fun error => ?_, fun error => ?_⟩
  · simp only [Outcome.exitCode_eq_zero_iff, concludeSynthesis_passes_iff,
      concludeCheck_passes_iff clean, needed, rendered]
  · refine iff_of_false (fun failed => ?_) (fun failed => ?_)
    · cases isVerdict_of_concludeCheck failed
    · cases isVerdict_of_concludeSynthesis failed
  · refine iff_of_false (fun failed => ?_) (fun failed => ?_)
    · cases isVerdict_of_concludeCheck failed
    · cases isVerdict_of_concludeSynthesis failed

end

/-- A check agrees with a synthesis with any configuration.
By cases on how far the two get: both fail to load, both fail to synthesize, or both judge reports
of one outline.
-/
theorem report_agrees (config : SynthesisConfig)
    : Outcome.Agrees (report readText path {} (concludeCheck path))
        (report readText path config (concludeSynthesis path)) := by
  cases loads : load readText path with
  | error error =>
      rw [report_of_load_error loads, report_of_load_error loads]
      exact ⟨.rfl, rfl, fun _ => .rfl, fun _ => .rfl⟩
  | ok loaded =>
      cases checks : loaded.synthesize {} with
      | error error =>
          rw [report_of_synthesis_error loads checks,
            report_of_synthesis_error loads (LoadedCompilation.synthesize_error checks config)]
          exact ⟨.rfl, rfl, fun _ => .rfl, fun _ => .rfl⟩
      | ok checked =>
          obtain ⟨synthesized, synthesizes, outline⟩ :=
            LoadedCompilation.exists_report checks config
          obtain ⟨manifest, built⟩ := exists_build_of_load loads
          rw [report_of_reported loads checks, report_of_reported loads synthesizes]
          refine agrees_of_outline outline ?_
          rintro (rendered | notNeeded)
          · exact Manifest.diagnostics_of_rendered built checks rendered
          · exact LoadedCompilation.diagnostics_of_not_needed checks notNeeded

/-- What a synthesis ends with is the same for all configurations, or it is a text with the same
pieces, by cases on how far it gets.
-/
theorem report_result_pieces
    : (∃ result,
        ∀ config, (report readText path config (concludeSynthesis path)).result = result)
      ∨ ∃ pieces,
          ∀ config,
            (report readText path config (concludeSynthesis path)).result
              = .ok (printedWith config pieces) := by
  cases loads : load readText path with
  | error error =>
      refine .inl ⟨.error (.load error), fun config => ?_⟩
      rw [report_of_load_error loads]
  | ok loaded =>
      cases checks : loaded.synthesize {} with
      | error error =>
          refine .inl ⟨.error (.synthesis error), fun config => ?_⟩
          rw [report_of_synthesis_error loads (LoadedCompilation.synthesize_error checks config)]
      | ok checked =>
          cases rendered : checked.rendered with
          | none =>
              refine .inl ⟨concludeSynthesis path checked, fun config => ?_⟩
              obtain ⟨synthesized, synthesizes, outline⟩ :=
                LoadedCompilation.exists_report checks config
              obtain ⟨needed, none, _⟩
                  : synthesized.needed = checked.needed
                    ∧ synthesized.rendered = none
                    ∧ synthesized.diagnostics = checked.diagnostics := by
                simpa [SynthesisReport.outline, rendered] using outline
              rw [report_of_reported loads synthesizes]
              simp [concludeSynthesis, none, rendered, needed]
          | some text =>
              obtain ⟨output, produces, _⟩ :=
                (LoadedCompilation.rendered_eq_some_iff checks).mp rendered
              obtain ⟨pieces, printed⟩ := produces.exists_pieces
              refine .inr ⟨pieces, fun config => ?_⟩
              obtain ⟨synthesized, synthesizes, _⟩ :=
                LoadedCompilation.exists_report checks config
              have rendered' :=
                (LoadedCompilation.rendered_eq_some_iff synthesizes).mpr (printed config)
              rw [report_of_reported loads synthesizes]
              simp [concludeSynthesis, rendered']

/-- Whatever the manifest holds and the options are, a check and a synthesis agree. The options show
in the text that a synthesis prints, and nothing else depends on them.
-/
theorem run_check_agrees
    : (∀ accessibility submissionParameter,
        Outcome.Agrees (run readText (.check path))
          (run readText (.synthesize path accessibility submissionParameter)))
      ∧ ((∃ result,
            ∀ accessibility submissionParameter,
              (run readText (.synthesize path accessibility submissionParameter)).result = result)
        ∨ ∃ pieces,
            ∀ accessibility submissionParameter,
              (run readText (.synthesize path accessibility submissionParameter)).result
                = .ok (printedWith (configuration accessibility submissionParameter) pieces)) := by
  refine ⟨fun _ _ => report_agrees readText path _, ?_⟩
  rcases report_result_pieces readText path with ⟨result, same⟩ | ⟨pieces, printed⟩
  · exact .inl ⟨result, fun _ _ => same _⟩
  · exact .inr ⟨pieces, fun _ _ => printed _⟩

end CommandLine

end EntryPoints
