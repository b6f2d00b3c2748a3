import EntryPoints.Json.Reading

/-! Tokens, and the builder that puts a reading together from them one by one. -/

namespace EntryPoints.Json

inductive Token where
  | openBrace
  | closeBrace
  | openBracket
  | closeBracket
  | comma
  | colon
  | scalar (scalar : Scalar)
  /-- Characters that form no token. -/
  | broken (flaw : Flaw)
  deriving DecidableEq, Repr, Inhabited

/-- An array or object around the value that is being read, with the parts before it, the last one
first. -/
inductive Frame where
  | item (earlier : List Reading)
  | field (earlier : List (String × Reading)) (key : String)
  deriving Repr, Inhabited

/-- What has been read, by what has to come next. The frames around it come innermost first. -/
inductive Builder where
  | value (around : List Frame)
  /-- The first item of an array, or its end. -/
  | firstItem (around : List Frame)
  | afterItem (items : List Reading) (around : List Frame)
  /-- The first key of an object, or its end. -/
  | firstKey (around : List Frame)
  | nextKey (fields : List (String × Reading)) (around : List Frame)
  | colon (fields : List (String × Reading)) (key : String) (around : List Frame)
  | afterField (fields : List (String × Reading)) (around : List Frame)
  /-- The reading is complete; what follows it is superfluous. -/
  | finished (root : Reading) (superfluous : Bool)
  deriving Repr, Inhabited

namespace Builder

/-- How many arrays and objects may stand within each other. -/
def maxDepth : Nat :=
  127

/-- A value is complete, and its place is in the innermost frame. -/
def complete : List Frame → Reading → Builder
  | [], reading => finished reading false
  | .item earlier :: around, reading => afterItem (reading :: earlier) around
  | .field earlier key :: around, reading => afterField ((key, reading) :: earlier) around

/-- The root of all that has been read when reading stops within some frames. -/
def root : List Frame → Reading → Reading
  | [], reading => reading
  | .item earlier :: around, reading =>
      root around (.array (reading :: earlier).reverse .within)
  | .field earlier key :: around, reading =>
      root around (.object ((key, reading) :: earlier).reverse .within)

/-- Reading stops for good. -/
def stop (around : List Frame) (reading : Reading) : Builder :=
  finished (root around reading) false

/-- A token where a value has to begin. -/
def start (around : List Frame) : Token → Builder
  | .scalar content => complete around (.scalar content)
  | .openBracket =>
      if around.length < maxDepth then firstItem around else stop around (.flaw .tooDeep)
  | .openBrace =>
      if around.length < maxDepth then firstKey around else stop around (.flaw .tooDeep)
  | .broken flaw => stop around (.flaw flaw)
  | .closeBrace | .closeBracket | .comma | .colon => stop around (.flaw .unexpected)

/-- What a token is in place of a key. -/
def keyFlaw : Token → KeyFlaw
  | .broken (.string fault) => .string fault
  | _ => .other

/-- A token where a key has to stand. -/
def readKey (fields : List (String × Reading)) (around : List Frame) : Token → Builder
  | .scalar (.string key) => colon fields key around
  | token => stop around (.object fields.reverse (.noKey (keyFlaw token)))

/-- Takes the next token in. -/
def feed (builder : Builder) (token : Token) : Builder :=
  match builder with
  | value around => start around token
  | firstItem around =>
      match token with
      | .closeBracket => complete around (.array [] .closed)
      | token => start (.item [] :: around) token
  | afterItem items around =>
      match token with
      | .comma => value (.item items :: around)
      | .closeBracket => complete around (.array items.reverse .closed)
      | _ => stop around (.array items.reverse .unseparated)
  | firstKey around =>
      match token with
      | .closeBrace => complete around (.object [] .closed)
      | token => readKey [] around token
  | nextKey fields around => readKey fields around token
  | colon fields key around =>
      match token with
      | .colon => value (.field fields key :: around)
      | _ => stop (.field fields key :: around) (.flaw (.colon .malformed))
  | afterField fields around =>
      match token with
      | .comma => nextKey fields around
      | .closeBrace => complete around (.object fields.reverse .closed)
      | _ => stop around (.object fields.reverse .unseparated)
  | finished root _ => finished root true

/-- What has been read by the end of the text, and whether something superfluous came after. -/
def finish : Builder → Reading × Bool
  | value around => (root around (.flaw .nothing), false)
  | firstItem around => (root around (.array [] .unclosed), false)
  | afterItem items around => (root around (.array items.reverse .unclosed), false)
  | firstKey around => (root around (.object [] (.noKey .nothing)), false)
  | nextKey fields around => (root around (.object fields.reverse (.noKey .nothing)), false)
  | colon fields key around =>
      (root (.field fields key :: around) (.flaw (.colon .endOfText)), false)
  | afterField fields around => (root around (.object fields.reverse .unclosed), false)
  | finished root superfluous => (root, superfluous)

end Builder

end EntryPoints.Json
