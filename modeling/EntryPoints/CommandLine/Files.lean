/-! Files that a command reads, and a directory that holds them in memory. -/

namespace EntryPoints.CommandLine

/-- Why the text of a file cannot be had. -/
inductive FileError where
  | notFound
  | notADirectory
  | isADirectory
  | nameTooLong
  /-- The bytes of the file are no text. -/
  | notText
  | other (description : String)
  deriving DecidableEq, Repr, Inhabited

def FileError.message : FileError → String
  | notFound => "No such file or directory (os error 2)"
  | notADirectory => "Not a directory (os error 20)"
  | isADirectory => "Is a directory (os error 21)"
  | nameTooLong => "File name too long (os error 36)"
  | notText => "stream did not contain valid UTF-8"
  | other description => description

/-- The text that bytes encode. -/
def textOfBytes (bytes : ByteArray) : Except FileError String :=
  match String.fromUTF8? bytes with
  | some text => .ok text
  | none => .error .notText

/-- The files of a directory by their names. There are no directories in it. -/
structure Directory where
  files : List (String × ByteArray) := []
  deriving Inhabited

namespace Directory

/-- The longest name that a file can have, and the longest path, in bytes. -/
def maxName : Nat :=
  255

def maxPath : Nat :=
  4095

/-- What the parts of a path lead to once they are outside of the directory: some directory above
it, or nothing that has a name. -/
def outside : List String → FileError
  | [] => .isADirectory
  | "." :: rest => outside rest
  | "" :: rest => outside rest
  | ".." :: rest => outside rest
  | name :: _ => if maxName < name.utf8ByteSize then .nameTooLong else .notFound

/-- What the parts of a path lead to: the directory itself, one outside of it, or one of its files,
behind which nothing else can come. -/
def locate (directory : Directory) : List String → Except FileError ByteArray
  | [] => .error .isADirectory
  | "." :: rest => locate directory rest
  | "" :: rest => locate directory rest
  | ".." :: rest => .error (outside rest)
  | name :: rest =>
      if maxName < name.utf8ByteSize then
        .error .nameTooLong
      else
        match directory.files.lookup name with
        | none => .error .notFound
        | some bytes => if rest.isEmpty then .ok bytes else .error .notADirectory

/-- The text of the file at a path. Paths from the root lead outside of the directory. -/
def readText (directory : Directory) (path : String) : Except FileError String :=
  if maxPath < path.utf8ByteSize then
    .error .nameTooLong
  else
    let parts := (path.toList.splitOn '/').map String.ofList
    let start := if path.toList.head? = some '/' then ".." :: parts else parts
    match directory.locate start with
    | .error error => .error error
    | .ok bytes => textOfBytes bytes

end Directory

end EntryPoints.CommandLine
