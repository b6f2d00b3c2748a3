/-! What goes wrong when a synthesizer is handed inputs that it must never see. -/

namespace EntryPoints

/-- The three synthesizers, as they name themselves. -/
inductive Synthesizer where
  | forwarder
  | script
  | submission
  deriving DecidableEq, Repr, Inhabited

def Synthesizer.name : Synthesizer → String
  | forwarder => "async main forwarder"
  | script => "script entry point"
  | submission => "submission factory"

/-- How the inputs of a synthesizer contradict what selected them. Types are given by name. -/
inductive Inconsistency where
  | mainParameterCount (count : Nat)
  | mainParameterType (parameter type : String)
  | mainNotStatic
  | notScriptClass (type : String)
  | notSubmissionClass (type : String)
  | scriptInitializerReturns (type task : String)
  | submissionInitializerReturnsVoid
  | scriptInitializerParameters
  | submissionInitializerParameters
  | factoryReturns (initializer factory : String)
  /-- Any other contradiction, in words. -/
  | described (description : String)
  deriving DecidableEq, Repr, Inhabited

def Inconsistency.message : Inconsistency → String
  | mainParameterCount count => s!"user main takes {count} parameters; expected 0 or 1"
  | mainParameterType parameter type =>
      s!"user main parameter `{parameter}` has type `{type}`; expected `string[]`"
  | mainNotStatic => "user main is not static"
  | notScriptClass type => s!"`{type}` is not a script class"
  | notSubmissionClass type => s!"`{type}` is not a submission class"
  | scriptInitializerReturns type task =>
      s!"script initializer returns `{type}`, which does not derive from `{task}`"
  | submissionInitializerReturnsVoid => "submission initializer returns void"
  | scriptInitializerParameters => "script initializer takes parameters"
  | submissionInitializerParameters => "submission initializer takes parameters"
  | factoryReturns initializer factory =>
      s!"initializer returns `{initializer}` but the factory returns `{factory}`"
  | described description => description

/-- What a synthesizer needs to find before it can build. -/
inductive Prerequisite where
  | awaitProtocol
  | scriptInitializer
  | submissionInitializer
  | objectArray
  | usableObjectArray
  | scriptConstructor
  | submissionConstructor
  /-- Anything else, in words. -/
  | described (description : String)
  deriving DecidableEq, Repr, Inhabited

def Prerequisite.name : Prerequisite → String
  | awaitProtocol => "await protocol"
  | scriptInitializer => "script initializer"
  | submissionInitializer => "submission initializer"
  | objectArray => "object[] type"
  | usableObjectArray => "usable object[] type"
  | scriptConstructor => "parameterless script constructor"
  | submissionConstructor => "single-argument submission constructor"
  | described description => description

/-- What a user-declared method can be asked and a synthesized one cannot. -/
inductive UnsupportedOperation where
  | syntaxOffset
  | securityInformation
  /-- Anything else, in words. -/
  | described (description : String)
  deriving DecidableEq, Repr, Inhabited

def UnsupportedOperation.name : UnsupportedOperation → String
  | syntaxOffset => "calculate_local_syntax_offset"
  | securityInformation => "security_information"
  | described description => description

/-- A defect of the caller, as against a problem in the user's program. -/
inductive EntryPointError where
  | internalConsistency (synthesizer : Synthesizer) (inconsistency : Inconsistency)
  | missingPrerequisite (synthesizer : Synthesizer) (prerequisite : Prerequisite)
  | unsupported (operation : UnsupportedOperation)
  deriving DecidableEq, Repr, Inhabited

namespace EntryPointError

def message : EntryPointError → String
  | internalConsistency synthesizer inconsistency =>
      s!"internal consistency violation in {synthesizer.name}: {inconsistency.message}"
  | missingPrerequisite synthesizer prerequisite =>
      synthesizer.name ++ " used before its prerequisites were resolved: missing "
        ++ prerequisite.name
  | unsupported operation =>
      s!"`{operation.name}` is not supported on synthesized entry points"

def code : EntryPointError → String
  | internalConsistency _ _ => "entrysynth::internal_consistency"
  | missingPrerequisite _ _ => "entrysynth::missing_prerequisite"
  | unsupported _ => "entrysynth::unsupported"

/-- Advice for whoever meets the error. -/
def help : EntryPointError → Option String
  | internalConsistency _ _ =>
      some "the entry-point selector passed inputs this synthesizer cannot accept"
  | missingPrerequisite _ _ =>
      some "check the entry point is viable (no protocol diagnostics) before building its body"
  | unsupported _ => none

end EntryPointError

end EntryPoints
