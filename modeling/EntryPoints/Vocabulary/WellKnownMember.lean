import EntryPoints.Vocabulary.Item

/-! Members that the synthesizer looks up by name. -/

namespace EntryPoints

inductive WellKnownMember where
  /-- First step of the awaitable protocol, called on the future. -/
  | getAwaiter
  /-- Second step of the awaitable protocol, called on the awaiter. -/
  | getResult
  /-- Generated initializer of a script or submission class. -/
  | scriptInitializer
  /-- Instance constructor. -/
  | constructor
  deriving DecidableEq, Repr, Inhabited

namespace WellKnownMember

def all : List WellKnownMember :=
  [getAwaiter, getResult, scriptInitializer, constructor]

def info : WellKnownMember → Vocabulary.Item WellKnownMember
  | getAwaiter =>
      { id := getAwaiter, canonical := "GetAwaiter",
        description := "Zero-argument method returning the awaiter of a future-like value." }
  | getResult =>
      { id := getResult, canonical := "GetResult",
        description :=
          "Zero-argument awaiter method that blocks for and returns the awaited result." }
  | scriptInitializer =>
      { id := scriptInitializer, canonical := "<Initialize>",
        description :=
          "Generated initializer running the top-level statements of a script or submission." }
  | constructor =>
      { id := constructor, canonical := ".ctor", description := "Instance constructor." }

def spelling (member : WellKnownMember) : String :=
  member.info.canonical

def ofSpelling? (name : String) : Option WellKnownMember :=
  all.find? (fun member => member.info.accepts name)

end WellKnownMember

end EntryPoints
