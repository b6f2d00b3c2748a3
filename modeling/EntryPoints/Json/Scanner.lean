import EntryPoints.Json.Builder
import EntryPoints.Json.Numeral

/-! The scanner reads a text one character at a time and hands its tokens to a builder. -/

namespace EntryPoints.Json

/-- How far a number has been read. -/
inductive NumeralPlace where
  | sign
  /-- A zero, after which no digit of the integer may come. -/
  | zero
  | integer
  | point
  | fraction
  | exponentMark
  | exponentSign
  | exponent
  deriving DecidableEq, Repr, Inhabited

/-- A number may end here. -/
def NumeralPlace.isComplete : NumeralPlace → Bool
  | zero | integer | fraction | exponent => true
  | sign | point | exponentMark | exponentSign => false

/-- Where in a token the scanner is. The characters of a string come last one first. -/
inductive ScanState where
  | between
  /-- Some characters of a word are still to come. -/
  | word (rest : List Char) (scalar : Scalar)
  /-- Digits come last one first. -/
  | number (place : NumeralPlace) (numeral : Numeral)
  | string (earlier : List Char)
  | escape (earlier : List Char)
  /-- Within four hexadecimal digits, after the leading half of a surrogate pair or not. -/
  | unit (earlier : List Char) (lead : Option Nat) (digits : List Nat)
  /-- A digit is wrong, which counts once the text has enough bytes for all four. -/
  | badUnit (missing : Nat)
  /-- The leading half of a pair asks for a backslash, and then for the letter. -/
  | pairBackslash (earlier : List Char) (lead : Nat)
  | pairLetter (earlier : List Char) (lead : Nat)
  deriving DecidableEq, Repr, Inhabited

structure Scanner where
  state : ScanState := .between
  builder : Builder := .value []
  deriving Repr, Inhabited

namespace Scanner

/-- JSON has four blank characters. -/
def isBlank (c : Char) : Bool :=
  c == ' ' || c == '\t' || c == '\n' || c == '\r'

def digit? (c : Char) : Option Nat :=
  if c.isDigit then some (c.toNat - '0'.toNat) else none

def hexDigit? (c : Char) : Option Nat :=
  if c.isDigit then some (c.toNat - '0'.toNat)
  else if 'a' ≤ c ∧ c ≤ 'f' then some (c.toNat - 'a'.toNat + 10)
  else if 'A' ≤ c ∧ c ≤ 'F' then some (c.toNat - 'A'.toNat + 10)
  else none

/-- The number that a list of digits writes, the first of them counting most. -/
def ofDigits (base : Nat) (digits : List Nat) : Nat :=
  digits.foldl (fun value digit => value * base + digit) 0

def isLeadSurrogate (code : Nat) : Bool :=
  0xD800 ≤ code && code ≤ 0xDBFF

def isTrailSurrogate (code : Nat) : Bool :=
  0xDC00 ≤ code && code ≤ 0xDFFF

/-- The character that a surrogate pair stands for. -/
def ofSurrogates (lead trail : Nat) : Char :=
  Char.ofNat (0x10000 + (lead - 0xD800) * 0x400 + (trail - 0xDC00))

/-- The character that an escape of one letter stands for. -/
def escaped? : Char → Option Char
  | '"' => some '"'
  | '\\' => some '\\'
  | '/' => some '/'
  | 'b' => some '\x08'
  | 'f' => some '\x0C'
  | 'n' => some '\n'
  | 'r' => some '\r'
  | 't' => some '\t'
  | _ => none

/-- A token is complete, and nothing of the next one has been read. -/
def emit (builder : Builder) (token : Token) : Scanner :=
  { state := .between, builder := builder.feed token }

/-- The digits of a finished number in the order of the text. -/
def inOrder (numeral : Numeral) : Numeral :=
  { numeral with
    integer := numeral.integer.reverse
    fraction := numeral.fraction.reverse
    exponent := numeral.exponent.map (fun (below, digits) => (below, digits.reverse)) }

/-- The token of a number that has been read to its end. -/
def numberToken (place : NumeralPlace) (numeral : Numeral) (fault : Fault) : Token :=
  if place.isComplete then
    match (inOrder numeral).value? with
    | some number => .scalar (.number number)
    | none => .broken (.scalar .malformed)
  else
    .broken (.scalar fault)

/-- A character outside of all tokens. -/
def scanBetween (builder : Builder) (c : Char) : Scanner :=
  if isBlank c then { builder }
  else
    match c with
    | '\x7b' => emit builder .openBrace
    | '\x7d' => emit builder .closeBrace
    | '[' => emit builder .openBracket
    | ']' => emit builder .closeBracket
    | ',' => emit builder .comma
    | ':' => emit builder .colon
    | '"' => { state := .string [], builder }
    | 't' => { state := .word ['r', 'u', 'e'] (.bool true), builder }
    | 'f' => { state := .word ['a', 'l', 's', 'e'] (.bool false), builder }
    | 'n' => { state := .word ['u', 'l', 'l'] .null, builder }
    | '-' => { state := .number .sign { negative := true }, builder }
    | '0' => { state := .number .zero { integer := [0] }, builder }
    | c =>
        match digit? c with
        | some digit => { state := .number .integer { integer := [digit] }, builder }
        | none => emit builder (.broken .unexpected)

/-- The place after another character of a number; none if the number ends before it, and a fault
if it may not end there. -/
def continueNumber (place : NumeralPlace) (numeral : Numeral) (c : Char)
    : Option (NumeralPlace × Numeral) :=
  let toFraction := (NumeralPlace.point, numeral)
  let toExponent := (NumeralPlace.exponentMark, { numeral with exponent := some (false, []) })
  let isMark := c == 'e' || c == 'E'
  match place, digit? c with
  | .sign, some digit =>
      some (if digit = 0 then .zero else .integer, { numeral with integer := [digit] })
  | .integer, some digit => some (.integer, { numeral with integer := digit :: numeral.integer })
  | .point, some digit | .fraction, some digit =>
      some (.fraction, { numeral with fraction := digit :: numeral.fraction })
  | .exponentMark, some digit | .exponentSign, some digit | .exponent, some digit =>
      some (.exponent,
        { numeral with
          exponent := numeral.exponent.map (fun (below, digits) => (below, digit :: digits)) })
  | .zero, none | .integer, none =>
      if c == '.' then some toFraction else if isMark then some toExponent else none
  | .fraction, none => if isMark then some toExponent else none
  | .exponentMark, none =>
      if c == '+' then some (.exponentSign, numeral)
      else if c == '-' then some (.exponentSign, { numeral with exponent := some (true, []) })
      else none
  | .zero, some _ | .sign, none | .point, none | .exponentSign, none | .exponent, none => none

/-- A character in a number, which may be the first one after it. -/
def scanNumber (builder : Builder) (place : NumeralPlace) (numeral : Numeral) (c : Char)
    : Scanner :=
  match continueNumber place numeral c with
  | some (place, numeral) => { state := .number place numeral, builder }
  | none =>
      if place = .zero ∧ (digit? c).isSome then
        emit builder (.broken (.scalar .malformed))
      else
        scanBetween (builder.feed (numberToken place numeral .malformed)) c

/-- Four hexadecimal digits are complete: a character, or half of one. -/
def finishUnit (builder : Builder) (earlier : List Char) (lead : Option Nat) (code : Nat)
    : Scanner :=
  match lead with
  | none =>
      if isTrailSurrogate code then emit builder (.broken (.string .malformed))
      else if isLeadSurrogate code then { state := .pairBackslash earlier code, builder }
      else { state := .string (Char.ofNat code :: earlier), builder }
  | some lead =>
      if isTrailSurrogate code then
        { state := .string (ofSurrogates lead code :: earlier), builder }
      else
        emit builder (.broken (.string .malformed))

/-- Some bytes of a wrong escape have been read. -/
def awaitBytes (builder : Builder) (missing : Nat) : Scanner :=
  if missing = 0 then emit builder (.broken (.string .malformed))
  else { state := .badUnit missing, builder }

/-- Reads one more character. -/
def step (scanner : Scanner) (c : Char) : Scanner :=
  let builder := scanner.builder
  match scanner.state with
  | .between => scanBetween builder c
  | .word [] scalar => scanBetween (builder.feed (.scalar scalar)) c
  | .word [last] scalar =>
      if c == last then emit builder (.scalar scalar)
      else emit builder (.broken (.scalar .malformed))
  | .word (next :: rest) scalar =>
      if c == next then { state := .word rest scalar, builder }
      else emit builder (.broken (.scalar .malformed))
  | .number place numeral => scanNumber builder place numeral c
  | .string earlier =>
      if c == '"' then emit builder (.scalar (.string (String.ofList earlier.reverse)))
      else if c == '\\' then { state := .escape earlier, builder }
      else if c.toNat < 0x20 then emit builder (.broken (.string .malformed))
      else { state := .string (c :: earlier), builder }
  | .escape earlier =>
      if c == 'u' then { state := .unit earlier none [], builder }
      else
        match escaped? c with
        | some meant => { state := .string (meant :: earlier), builder }
        | none => emit builder (.broken (.string .malformed))
  | .unit earlier lead digits =>
      match hexDigit? c with
      | some digit =>
          if digits.length = 3 then
            finishUnit builder earlier lead (ofDigits 16 (digit :: digits).reverse)
          else
            { state := .unit earlier lead (digit :: digits), builder }
      | none => awaitBytes builder (4 - (digits.length + c.utf8Size))
  | .badUnit missing => awaitBytes builder (missing - c.utf8Size)
  | .pairBackslash earlier lead =>
      if c == '\\' then { state := .pairLetter earlier lead, builder }
      else emit builder (.broken (.string .malformed))
  | .pairLetter earlier lead =>
      if c == 'u' then { state := .unit earlier (some lead) [], builder }
      else emit builder (.broken (.string .malformed))

/-- What has been read when the text ends. -/
def finish (scanner : Scanner) : Reading × Bool :=
  (match scanner.state with
    | .between => scanner.builder
    | .word [] scalar => scanner.builder.feed (.scalar scalar)
    | .word _ _ => scanner.builder.feed (.broken (.scalar .endOfText))
    | .number place numeral => scanner.builder.feed (numberToken place numeral .endOfText)
    | .string _ | .escape _ | .unit _ _ _ | .badUnit _ | .pairBackslash _ _ | .pairLetter _ _ =>
        scanner.builder.feed (.broken (.string .endOfText))).finish

end Scanner

/-- Reads a text as one value, and says whether something other than blanks follows it. -/
def read (text : String) : Reading × Bool :=
  (text.toList.foldl Scanner.step {}).finish

end EntryPoints.Json
