import EntryPoints.Symbol.Method

/-! Command lines: two commands on a manifest, of which the first has two options. -/

namespace EntryPoints.CommandLine

inductive Command where
  | synthesize (manifest : String) (accessibility : Accessibility)
      (submissionParameter : Option String)
  | check (manifest : String)
  deriving DecidableEq, Repr, Inhabited

/-- Why a command line names no command to run. -/
inductive Usage where
  | help
  | version
  /-- Nothing is asked for. -/
  | helpInsteadOfCommand
  | unknownCommand
  | unknownArgument
  | missingArgument
  | repeatedArgument
  | invalidValue
  /-- A flag was given a value. -/
  | superfluousValue
  deriving DecidableEq, Repr, Inhabited

/-- Asking for help or for the version is no mistake. -/
def Usage.exitCode : Usage → Nat
  | help | version => 0
  | helpInsteadOfCommand | unknownCommand | unknownArgument | missingArgument
  | repeatedArgument | invalidValue | superfluousValue => 2

/-- What a value on the command line is for. -/
inductive Slot where
  | manifest
  | accessibility
  | submissionParameter
  deriving DecidableEq, Repr, Inhabited

/-- The option that asks for a value. -/
def Slot.ofOption? : String → Option Slot
  | "accessibility" => some .accessibility
  | "submission-parameter" => some .submissionParameter
  | _ => none

/-- The arguments of a command as far as they have been read. -/
structure Draft where
  manifest : Option String := none
  accessibility : Option Accessibility := none
  submissionParameter : Option String := none
  /-- A slot whose value is looked at only when the next argument is no part of it. -/
  pending : Option (Slot × Option String) := none
  /-- The manifest has been given, though it may not have been looked at. -/
  hasManifest : Bool := false
  /-- A bare pair of dashes has been met; no option comes after it. -/
  trailing : Bool := false
  deriving DecidableEq, Repr, Inhabited

namespace Draft

/-- Fills a slot, which must have a value, be free and suit the value. -/
def fill (draft : Draft) (slot : Slot) : Option String → Except Usage Draft
  | none => .error .invalidValue
  | some value =>
      match slot with
      | .manifest =>
          if value.isEmpty then .error .invalidValue
          else .ok { draft with manifest := some value }
      | .accessibility =>
          if draft.accessibility.isSome then
            .error .repeatedArgument
          else
            match Accessibility.ofKeyword? value with
            | some accessibility => .ok { draft with accessibility := some accessibility }
            | none => .error .invalidValue
      | .submissionParameter =>
          if draft.submissionParameter.isSome then .error .repeatedArgument
          else .ok { draft with submissionParameter := some value }

/-- Looks at the value that is pending. -/
def settle (draft : Draft) : Except Usage Draft :=
  match draft.pending with
  | none => .ok draft
  | some (slot, value) => { draft with pending := none }.fill slot value

/-- The option that still waits for its value. -/
def waiting? (draft : Draft) : Option Slot :=
  match draft.pending with
  | some (slot, none) => some slot
  | _ => none

end Draft

/-- The shapes of an argument. -/
inductive Shape where
  | dashes
  /-- An option by its long name, with a value attached or not. -/
  | long (name : String) (value : Option String)
  /-- Flags of one letter each, of which there is at least one. -/
  | short (first : Char)
  | plain
  deriving DecidableEq, Repr, Inhabited

def shape (argument : String) : Shape :=
  match argument.toList with
  | '-' :: '-' :: [] => .dashes
  | '-' :: '-' :: option =>
      match option.dropWhile (· != '=') with
      | [] => .long (String.ofList option) none
      | _ :: value =>
          .long (String.ofList (option.takeWhile (· != '='))) (some (String.ofList value))
  | '-' :: first :: _ => .short first
  | _ => .plain

/-- The next argument of a command that has the options or has not. -/
def readArgument (hasOptions : Bool) (draft : Draft) (argument : String) : Except Usage Draft :=
  let positional :=
    if draft.hasManifest then
      .error .unknownArgument
    else
      draft.settle.map (fun draft =>
        { draft with pending := some (.manifest, some argument), hasManifest := true })
  if draft.trailing then
    positional
  else
    match shape argument with
    | .dashes => .ok { draft with trailing := true }
    | .long "help" (some _) => .error .superfluousValue
    | .long "help" none => draft.settle.bind (fun _ => .error .help)
    | .long name value =>
        match (Slot.ofOption? name).filter (fun _ => hasOptions) with
        | none => .error .unknownArgument
        | some slot =>
            draft.settle.bind (fun draft =>
              match value with
              | some value => draft.fill slot (some value)
              | none => .ok { draft with pending := some (slot, none) })
    | .short 'h' => draft.settle.bind (fun _ => .error .help)
    | .short _ => .error .unknownArgument
    | .plain =>
        match draft.waiting? with
        | some slot => .ok { draft with pending := some (slot, some argument) }
        | none => positional

/-- All arguments of a command, with its manifest. -/
def readArguments (hasOptions : Bool) (arguments : List String)
    : Except Usage (String × Draft) := do
  let draft ← arguments.foldlM (readArgument hasOptions) {}
  let draft ← draft.settle
  match draft.manifest with
  | some manifest => .ok (manifest, draft)
  | none => .error .missingArgument

def isCommandName (name : String) : Bool :=
  ["synthesize", "check", "help"].contains name

/-- The command that a command line asks for. -/
def parse : List String → Except Usage Command
  | [] => .error .helpInsteadOfCommand
  | "synthesize" :: arguments =>
      (readArguments true arguments).map (fun (manifest, draft) =>
        .synthesize manifest (draft.accessibility.getD .privateAccess)
          draft.submissionParameter)
  | "check" :: arguments =>
      (readArguments false arguments).map (fun (manifest, _) => .check manifest)
  | "help" :: [] => .error .help
  | "help" :: [command] =>
      if isCommandName command then .error .help else .error .unknownCommand
  | "help" :: _ => .error .unknownCommand
  | argument :: rest =>
      match shape argument, rest with
      | .dashes, [] => .error .helpInsteadOfCommand
      | .dashes, next :: _ =>
          if isCommandName next then .error .unknownArgument else .error .unknownCommand
      | .long "help" none, _ => .error .help
      | .long "version" none, _ => .error .version
      | .long "help" (some _), _ => .error .superfluousValue
      | .long "version" (some _), _ => .error .superfluousValue
      | .short 'h', _ => .error .help
      | .short 'V', _ => .error .version
      | .long _ _, _ => .error .unknownArgument
      | .short _, _ => .error .unknownArgument
      | .plain, _ => .error .unknownCommand

end EntryPoints.CommandLine
