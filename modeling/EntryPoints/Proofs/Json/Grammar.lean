import EntryPoints.Json.Scanner

/-! The texts of a value: its tokens, the ways to spell each of them, and blanks wherever tokens
meet.
-/

namespace EntryPoints.Json

------------------------------------------------------------------------------------------
-- The tokens of a value

mutual
/-- The tokens that write a value. -/
def Value.tokens : Value → List Token
  | .scalar content => [.scalar content]
  | .array [] => [.openBracket, .closeBracket]
  | .array (first :: rest) =>
      .openBracket :: first.tokens ++ Value.itemTokens rest ++ [.closeBracket]
  | .object [] => [.openBrace, .closeBrace]
  | .object ((key, value) :: rest) =>
      [.openBrace, .scalar (.string key), .colon] ++ value.tokens ++ Value.fieldTokens rest
        ++ [.closeBrace]

/-- The tokens of the items after the first one. -/
def Value.itemTokens : List Value → List Token
  | [] => []
  | value :: rest => .comma :: value.tokens ++ Value.itemTokens rest

/-- The tokens of the fields after the first one. -/
def Value.fieldTokens : List (String × Value) → List Token
  | [] => []
  | (key, value) :: rest =>
      [.comma, .scalar (.string key), .colon] ++ value.tokens ++ Value.fieldTokens rest
end

mutual
/-- How many arrays and objects are within each other. -/
def Value.depth : Value → Nat
  | .scalar _ => 0
  | .array items => Value.itemDepth items + 1
  | .object fields => Value.fieldDepth fields + 1

/-- The greatest depth among some items. -/
def Value.itemDepth : List Value → Nat
  | [] => 0
  | value :: rest => max value.depth (Value.itemDepth rest)

/-- The greatest depth among the values of some fields. -/
def Value.fieldDepth : List (String × Value) → Nat
  | [] => 0
  | (_, value) :: rest => max value.depth (Value.fieldDepth rest)
end

------------------------------------------------------------------------------------------
-- Strings

/-- A hexadecimal digit, as a small or as a capital letter. -/
def IsHexDigit (digit : Nat) (c : Char) : Prop :=
  digit < 16 ∧ (c = digit.digitChar ∨ c = digit.digitChar.toUpper)

/-- The four hexadecimal digits of a code. -/
inductive SpellsCode : Nat → List Char → Prop where
  | digits {first second third fourth : Nat} {c c' c'' c''' : Char}
      (isFirst : IsHexDigit first c) (isSecond : IsHexDigit second c')
      (isThird : IsHexDigit third c'') (isFourth : IsHexDigit fourth c''')
      : SpellsCode (((first * 16 + second) * 16 + third) * 16 + fourth) [c, c', c'', c''']

/-- The letters of short escapes, with what they stand for. -/
def shortEscapes : List (Char × Char) :=
  [('"', '"'), ('\\', '\\'), ('/', '/'), ('b', '\x08'), ('f', '\x0C'), ('n', '\n'), ('r', '\r'),
    ('t', '\t')]

/-- What may stand between the quotes of a string: each character for itself, or escaped. -/
inductive SpellsString : List Char → List Char → Prop where
  | nil : SpellsString [] []
  | plain {c : Char} {rest text : List Char} (visible : 0x20 ≤ c.toNat) (noQuote : c ≠ '"')
      (noBackslash : c ≠ '\\') (others : SpellsString rest text)
      : SpellsString (c :: rest) (c :: text)
  | short {letter c : Char} {rest text : List Char} (escape : (letter, c) ∈ shortEscapes)
      (others : SpellsString rest text)
      : SpellsString (c :: rest) ('\\' :: letter :: text)
  | code {c : Char} {digits rest text : List Char} (code : SpellsCode c.toNat digits)
      (others : SpellsString rest text)
      : SpellsString (c :: rest) ('\\' :: 'u' :: digits ++ text)
  /-- A character that needs more than four digits is spelled in two halves. -/
  | pair {c : Char} {lead trail : Nat} {leadDigits trailDigits rest text : List Char}
      (isLead : 0xD800 ≤ lead ∧ lead ≤ 0xDBFF) (isTrail : 0xDC00 ≤ trail ∧ trail ≤ 0xDFFF)
      (joined : c.toNat = 0x10000 + (lead - 0xD800) * 0x400 + (trail - 0xDC00))
      (leadCode : SpellsCode lead leadDigits) (trailCode : SpellsCode trail trailDigits)
      (others : SpellsString rest text)
      : SpellsString (c :: rest)
          ('\\' :: 'u' :: leadDigits ++ '\\' :: 'u' :: trailDigits ++ text)

/-- Characters that need no escape stand for themselves, by induction on the content. -/
theorem SpellsString.of_plain {content : List Char}
    (plain : ∀ c ∈ content, 0x20 ≤ c.toNat ∧ c ≠ '"' ∧ c ≠ '\\')
    : SpellsString content content := by
  induction content with
  | nil => exact .nil
  | cons c rest ih =>
      obtain ⟨⟨visible, noQuote, noBackslash⟩, others⟩ := List.forall_mem_cons.mp plain
      exact .plain visible noQuote noBackslash (ih others)

------------------------------------------------------------------------------------------
-- Numbers

/-- Digits as they are written in numbers. -/
def decimal (digits : List Nat) : List Char :=
  digits.map Nat.digitChar

/-- An exponent with its mark and sign, if there is one. -/
inductive SpellsExponent : Option (Bool × List Nat) → List Char → Prop where
  | absent : SpellsExponent none []
  | written {below : Bool} {digits : List Nat} {mark : Char} {sign : List Char}
      (isMark : mark = 'e' ∨ mark = 'E')
      (isSign : if below then sign = ['-'] else sign = [] ∨ sign = ['+'])
      (present : digits ≠ []) (small : ∀ digit ∈ digits, digit < 10)
      : SpellsExponent (some (below, digits)) (mark :: sign ++ decimal digits)

/-- A number, whose integer has no leading zero. -/
inductive SpellsNumeral : Numeral → List Char → Prop where
  | parts {numeral : Numeral} {exponent : List Char} {first : Nat} {rest : List Nat}
      (integer : numeral.integer = first :: rest) (noLeadingZero : first = 0 → rest = [])
      (small : ∀ digit ∈ numeral.integer ++ numeral.fraction, digit < 10)
      (spelled : SpellsExponent numeral.exponent exponent)
      : SpellsNumeral numeral
          ((if numeral.negative then ['-'] else []) ++ decimal numeral.integer
            ++ (if numeral.fraction = [] then [] else '.' :: decimal numeral.fraction)
            ++ exponent)

/-- The number that a spelled one stands for, within limits: a whole one of 64 bits, or another one
in the range of binary64.
-/
inductive Numeral.Denotes : Numeral → Number → Prop where
  | natural {digits : List Nat} (fits : Scanner.ofDigits 10 digits < Nat.pow 2 64)
    : Denotes { integer := digits } (.natural (Scanner.ofDigits 10 digits))
  | negative {digits : List Nat} (positive : 0 < Scanner.ofDigits 10 digits)
      (fits : Scanner.ofDigits 10 digits ≤ Nat.pow 2 63)
      : Denotes { negative := true, integer := digits } (.negative (Scanner.ofDigits 10 digits))
  | float {numeral : Numeral} (notWhole : numeral.whole? = none) (inRange : numeral.inRange)
    : Denotes numeral .float

------------------------------------------------------------------------------------------
-- Texts

/-- The ways to write a token: marks and words have one, numbers and strings several. -/
inductive SpellsToken : Token → List Char → Prop where
  | openBrace : SpellsToken .openBrace ['\x7b']
  | closeBrace : SpellsToken .closeBrace ['\x7d']
  | openBracket : SpellsToken .openBracket ['[']
  | closeBracket : SpellsToken .closeBracket [']']
  | comma : SpellsToken .comma [',']
  | colon : SpellsToken .colon [':']
  | nullWord : SpellsToken (.scalar .null) ['n', 'u', 'l', 'l']
  | trueWord : SpellsToken (.scalar (.bool true)) ['t', 'r', 'u', 'e']
  | falseWord : SpellsToken (.scalar (.bool false)) ['f', 'a', 'l', 's', 'e']
  | number {numeral : Numeral} {number : Number} {text : List Char}
      (spelled : SpellsNumeral numeral text) (denotes : numeral.Denotes number)
      : SpellsToken (.scalar (.number number)) text
  | string {content : String} {text : List Char} (spelled : SpellsString content.toList text)
    : SpellsToken (.scalar (.string content)) ('"' :: text ++ ['"'])

/-- A string without quotes, backslashes and control characters is spelled by itself between quotes.
-/
theorem SpellsToken.plain (content : String)
    (plain : ∀ c ∈ content.toList, 0x20 ≤ c.toNat ∧ c ≠ '"' ∧ c ≠ '\\')
    : SpellsToken (.scalar (.string content)) ('"' :: content.toList ++ ['"']) :=
  .string (.of_plain plain)

/-- A whole number of 64 bits is spelled by its digits alone: it has no sign, no fraction and no
exponent.
-/
theorem SpellsToken.natural {first : Nat} {rest : List Nat}
    (noLeadingZero : first = 0 → rest = []) (small : ∀ digit ∈ first :: rest, digit < 10)
    (fits : Scanner.ofDigits 10 (first :: rest) < Nat.pow 2 64)
    : SpellsToken (.scalar (.number (.natural (Scanner.ofDigits 10 (first :: rest)))))
        (decimal (first :: rest)) := by
  have spelled : SpellsNumeral { integer := first :: rest } _ :=
    .parts rfl noLeadingZero (by simpa using small) .absent
  simpa using SpellsToken.number spelled (.natural fits)

/-- The characters that may stand between tokens. -/
def blanks : List Char :=
  [' ', '\t', '\n', '\r']

/-- Tokens one after the other, with any blanks before, between and after them. -/
inductive Spells : List Token → List Char → Prop where
  | nil {space : List Char} (blank : space ⊆ blanks) : Spells [] space
  | cons {token : Token} {tokens : List Token} {space text rest : List Char}
      (blank : space ⊆ blanks) (spelled : SpellsToken token text) (others : Spells tokens rest)
      : Spells (token :: tokens) (space ++ text ++ rest)

section
variable {token : Token} {tokens others : List Token} {text rest : List Char}

/-- A token may follow at once, with no blank before it. -/
theorem Spells.compact (spelled : SpellsToken token text) (others : Spells tokens rest)
    : Spells (token :: tokens) (text ++ rest) :=
  @Spells.cons _ _ [] _ _ (List.nil_subset _) spelled others

/-- A token may follow after one blank, which is how texts are mostly written. -/
theorem Spells.spaced (spelled : SpellsToken token text) (others : Spells tokens rest)
    : Spells (token :: tokens) ([' '] ++ text ++ rest) :=
  .cons (by decide) spelled others

/-- Texts that follow each other spell the tokens of both, by induction on the first one: the blanks
at its end are before the next token then.
-/
theorem Spells.append (spelled : Spells tokens text) (further : Spells others rest)
    : Spells (tokens ++ others) (text ++ rest) := by
  induction spelled with
  | nil blank =>
      cases further with
      | nil blank' => exact .nil (List.append_subset.mpr ⟨blank, blank'⟩)
      | cons blank' first others =>
          have joined := Spells.cons (List.append_subset.mpr ⟨blank, blank'⟩) first others
          simpa using joined
  | cons blank first _ ih =>
      have joined := Spells.cons blank first ih
      simpa using joined

end

/-- A text holds a value that does not nest too deeply, and nothing else. -/
structure Value.WrittenIn (value : Value) (text : String) : Prop where
  spelled : Spells value.tokens text.toList
  shallow : value.depth ≤ Builder.maxDepth

end EntryPoints.Json
