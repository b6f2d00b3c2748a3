import EntryPoints.CommandLine.Arguments
import EntryPoints.CommandLine.Files
import EntryPoints.Manifest.Reader
import EntryPoints.Synthesis.Report

/-! What the commands do, given what their manifests hold. -/

namespace EntryPoints.CommandLine

/-- Why there is no compilation to work on. -/
inductive LoadError where
  | unreadable (path : String) (error : FileError)
  | json (error : Json.ReadError)
  | build (error : BuildError)
  deriving DecidableEq, Repr, Inhabited

/-- How the complaint about a text begins that holds no manifest. -/
def invalidJson : String :=
  "invalid manifest JSON: "

def LoadError.message : LoadError → String
  | unreadable path error => s!"failed to read manifest `{path}`: {error.message}"
  | json error => invalidJson ++ error.message
  | build error => error.message

/-- The compilation at a path. -/
def load (readText : String → Except FileError String) (path : String)
    : Except LoadError LoadedCompilation :=
  match readText path with
  | .error error => .error (.unreadable path error)
  | .ok text =>
      match Manifest.ofText text with
      | .error error => .error (.json error)
      | .ok manifest =>
          match manifest.build with
          | .error error => .error (.build error)
          | .ok loaded => .ok loaded

/-- Why a command fails. -/
inductive Failure where
  | load (error : LoadError)
  | synthesis (error : EntryPointError)
  /-- An entry point was asked for and the user's program does not allow it. -/
  | notSynthesized (path : String)
  /-- A check found that many errors. -/
  | errors (path : String) (count : Nat)
  /-- A check found no error, and yet there is no entry point. -/
  | suppressed (path : String)
  deriving DecidableEq, Repr, Inhabited

/-- The error with its code first and advice last. -/
def explain (error : EntryPointError) : String :=
  let complaint := error.code ++ "\n\n  " ++ error.message
  match error.help with
  | some help => complaint ++ "\n  help: " ++ help
  | none => complaint

def Failure.message : Failure → String
  | load error => "Error: " ++ error.message
  | synthesis error => explain error
  | notSynthesized path => "no entry point synthesized for " ++ path
  | errors path count => s!"{path}: {count} error(s)"
  | suppressed path => path ++ ": entry point suppressed"

/-- What a command comes to: the diagnostics that it shows, and its output or why it fails. -/
structure Outcome where
  diagnostics : List Diagnostic := []
  result : Except Failure String
  deriving Inhabited

namespace Outcome

def exitCode (outcome : Outcome) : Nat :=
  match outcome.result with
  | .ok _ => 0
  | .error _ => 1

def stdout (outcome : Outcome) : String :=
  match outcome.result with
  | .ok text => text
  | .error _ => ""

/-- Diagnostics come first, a line each. -/
def stderr (outcome : Outcome) : String :=
  let shown := String.join (outcome.diagnostics.map (fun diagnostic => diagnostic.text ++ "\n"))
  match outcome.result with
  | .ok _ => shown
  | .error failure => shown ++ failure.message ++ "\n"

end Outcome

/-- Loads a compilation and synthesizes, and lets `conclude` judge the report. -/
def report (readText : String → Except FileError String) (path : String)
    (config : SynthesisConfig) (conclude : SynthesisReport → Except Failure String)
    : Outcome :=
  match load readText path with
  | .error error => { result := .error (.load error) }
  | .ok loaded =>
      match loaded.synthesize config with
      | .error error => { result := .error (.synthesis error) }
      | .ok report => { diagnostics := report.diagnostics, result := conclude report }

/-- The rendered entry point, if one is needed. -/
def concludeSynthesis (path : String) (report : SynthesisReport) : Except Failure String :=
  match report.rendered with
  | some text => .ok text
  | none =>
      if report.needed then .error (.notSynthesized path)
      else .ok "no entry point synthesis needed\n"

/-- A check is passed without errors, and with an entry point if one is needed. -/
def concludeCheck (path : String) (report : SynthesisReport) : Except Failure String :=
  let errors := report.diagnostics.countP Diagnostic.isError
  if 0 < errors then .error (.errors path errors)
  else if report.needed && report.rendered.isNone then .error (.suppressed path)
  else .ok (path ++ ": ok\n")

/-- The options of a command line as a configuration. -/
def configuration (accessibility : Accessibility) (submissionParameter : Option String)
    : SynthesisConfig :=
  let config : SynthesisConfig := { accessibility }
  { config with
    submissionParameter := submissionParameter.getD config.submissionParameter }

/-- Runs a command. A check is made with the default configuration. -/
def run (readText : String → Except FileError String) : Command → Outcome
  | .synthesize path accessibility submissionParameter =>
      report readText path (configuration accessibility submissionParameter)
        (concludeSynthesis path)
  | .check path => report readText path {} (concludeCheck path)

end EntryPoints.CommandLine
