import EntryPoints.Manifest.Build
import EntryPoints.Synthesis.Output

/-! Synthesis over one loaded compilation, reported. -/

namespace EntryPoints

structure SynthesisReport where
  /-- The compilation needs an entry point of its own. -/
  needed : Bool
  /-- Signature and body, if there is an entry point. -/
  rendered : Option String
  diagnostics : List Diagnostic
  deriving DecidableEq, Repr, Inhabited

def SynthesisReport.hasErrors (report : SynthesisReport) : Bool :=
  report.diagnostics.any Diagnostic.isError

/-- Synthesizes the entry point of a compilation, starting from an empty bag. -/
def LoadedCompilation.synthesize (loaded : LoadedCompilation) (config : SynthesisConfig)
    : Except EntryPointError SynthesisReport :=
  match loaded.table.synthesize loaded.kind loaded.candidate config .empty with
  | (.error error, _) => .error error
  | (.ok output, bag) =>
      .ok
        { needed := (loaded.table.selectStrategy loaded.kind loaded.candidate).isSome,
          rendered := output.map (fun output => output.render loaded.table),
          diagnostics := bag.toList }

end EntryPoints
