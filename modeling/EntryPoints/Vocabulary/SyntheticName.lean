import EntryPoints.Vocabulary.Item

/-! Names reserved for what the compiler declares by itself. -/

namespace EntryPoints

inductive SyntheticName where
  /-- Entry point of a regular program with an async main, or of a script. -/
  | main
  /-- Entry point of an interactive submission. -/
  | factory
  /-- Conventional parameter of a forwarded main. -/
  | argsParameter
  /-- Parameter of a submission factory, holding the earlier submissions. -/
  | submissionArrayParameter
  deriving DecidableEq, Repr, Inhabited

namespace SyntheticName

def all : List SyntheticName :=
  [main, factory, argsParameter, submissionArrayParameter]

def info : SyntheticName → Vocabulary.Item SyntheticName
  | main =>
      { id := main, canonical := "<Main>",
        description := "Synthesized entry point forwarding to an async main or running a script." }
  | factory =>
      { id := factory, canonical := "<Factory>",
        description :=
          "Synthesized factory constructing and running an interactive submission." }
  | argsParameter =>
      { id := argsParameter, canonical := "args",
        description := "Command-line arguments forwarded to the user main." }
  | submissionArrayParameter =>
      { id := submissionArrayParameter, canonical := "submissionArray",
        description := "State slots of the previous submissions in the chain." }

def spelling (name : SyntheticName) : String :=
  name.info.canonical

def ofSpelling? (name : String) : Option SyntheticName :=
  all.find? (fun id => id.info.accepts name)

end SyntheticName

/-- A member name that no user identifier can spell: one in angle brackets. -/
def isReservedMemberName (name : String) : Bool :=
  name.toList.head? == some '<' && name.toList.getLast? == some '>'

end EntryPoints
