import EntryPoints.Symbol.Method
import EntryPoints.Vocabulary.SyntheticName

/-! What the user can choose about a synthesized entry point. -/

namespace EntryPoints

structure SynthesisConfig where
  accessibility : Accessibility := .privateAccess
  /-- Name of a submission factory's parameter. -/
  submissionParameter : String := SyntheticName.submissionArrayParameter.spelling
  deriving DecidableEq, Repr, Inhabited

end EntryPoints
