import EntryPoints.CommandLine.Run

/-! The program itself: it reads the command line and files, and prints. -/

namespace EntryPoints.CommandLine

def usageText : String :=
  "Synthesize program entry points for async mains, scripts and submissions\n\n"
    ++ "Usage: entrysynth <COMMAND>\n\n"
    ++ "Commands:\n"
    ++ "  synthesize <MANIFEST> [--accessibility <ACCESSIBILITY>] [--submission-parameter <NAME>]\n"
    ++ "  check <MANIFEST>\n"
    ++ "  help [COMMAND]\n"

def versionText : String :=
  "entrysynth 0.1.0\n"

def Usage.message : Usage → String
  | help | helpInsteadOfCommand => usageText
  | version => versionText
  | unknownCommand => "error: unrecognized subcommand\n\n" ++ usageText
  | unknownArgument => "error: unexpected argument found\n\n" ++ usageText
  | missingArgument => "error: a required argument was not provided\n\n" ++ usageText
  | repeatedArgument => "error: an argument cannot be used multiple times\n\n" ++ usageText
  | invalidValue => "error: invalid value for an argument\n\n" ++ usageText
  | superfluousValue => "error: unexpected value for a flag\n\n" ++ usageText

/-- The number of a system error, which may come with its sign changed. -/
def systemNumber (code : UInt32) : UInt32 :=
  min code (0 - code)

/-- What the system says about a file that cannot be read. -/
def FileError.ofSystem : IO.Error → FileError
  | .noFileOrDirectory _ _ _ => .notFound
  | .inappropriateType _ code _ =>
      if systemNumber code = 20 then .notADirectory else .isADirectory
  | .invalidArgument _ code details =>
      if systemNumber code = 36 then .nameTooLong else .other details
  | error => .other (toString error)

/-- The text of a file, as the system has it. -/
def readSystemFile (path : String) : IO (Except FileError String) := do
  try
    return textOfBytes (← IO.FS.readBinFile path)
  catch error =>
    return .error (FileError.ofSystem error)

def Command.manifest : Command → String
  | synthesize manifest _ _ => manifest
  | check manifest => manifest

end EntryPoints.CommandLine

open EntryPoints.CommandLine in
def main (arguments : List String) : IO UInt32 := do
  match parse arguments with
  | .error usage =>
      if usage.exitCode = 0 then IO.print usage.message else IO.eprint usage.message
      return usage.exitCode.toUInt32
  | .ok command =>
      let text ← readSystemFile command.manifest
      let outcome := run (fun _ => text) command
      IO.eprint outcome.stderr
      IO.print outcome.stdout
      return outcome.exitCode.toUInt32
