import EntryPoints.Proofs.Json.Grammar
import Mathlib.Data.List.Chain
import Mathlib.Tactic.IntervalCases

/-! The scanner finds the tokens of a text however they are spelled. A number is the one token that
ends only where something else begins, so what follows it decides when it counts.
-/

namespace EntryPoints.Json

open Scanner

------------------------------------------------------------------------------------------
-- Strings

/-- Small and capital hexadecimal digits are read alike, by cases on the sixteen digits. -/
theorem IsHexDigit.hexDigit?_eq {digit : Nat} {c : Char} (is : IsHexDigit digit c)
    : hexDigit? c = some digit := by
  obtain ⟨small, rfl | rfl⟩ := is <;> interval_cases digit <;> rfl

/-- The four digits of a code are read as the code, whichever letters they are written with. -/
theorem SpellsCode.scan {code : Nat} {digits : List Char} (spells : SpellsCode code digits)
    (earlier : List Char) (lead : Option Nat) (builder : Builder)
    : digits.foldl step { state := .unit earlier lead [], builder }
      = finishUnit builder earlier lead code := by
  cases spells with
  | digits isFirst isSecond isThird isFourth =>
      simp [step, isFirst.hexDigit?_eq, isSecond.hexDigit?_eq, isThird.hexDigit?_eq,
        isFourth.hexDigit?_eq, ofDigits]

/-- An escape of four digits that name a character ends with that character.
No character is half of a surrogate pair: the codes of both halves are left out of the valid ones.
-/
theorem finishUnit_of_char (builder : Builder) (earlier : List Char) (c : Char)
    : finishUnit builder earlier none c.toNat = { state := .string (c :: earlier), builder } := by
  have valid := c.valid
  have noTrail : isTrailSurrogate c.toNat = false := by
    simp only [isTrailSurrogate, Char.toNat]
    grind
  have noLead : isLeadSurrogate c.toNat = false := by
    simp only [isLeadSurrogate, Char.toNat]
    grind
  simp [finishUnit, noTrail, noLead]

/-- The leading half of a pair names no character yet, and asks for the other half. -/
theorem finishUnit_of_lead (builder : Builder) (earlier : List Char) {lead : Nat}
    (isLead : 0xD800 ≤ lead ∧ lead ≤ 0xDBFF)
    : finishUnit builder earlier none lead
      = { state := .pairBackslash earlier lead, builder } := by
  have noTrail : isTrailSurrogate lead = false := by
    simp only [isTrailSurrogate]
    grind
  simp [finishUnit, noTrail, isLeadSurrogate, isLead]

/-- The trailing half completes the character that its pair stands for. -/
theorem finishUnit_of_trail (builder : Builder) (earlier : List Char) {c : Char}
    {lead trail : Nat} (isTrail : 0xDC00 ≤ trail ∧ trail ≤ 0xDFFF)
    (joined : c.toNat = 0x10000 + (lead - 0xD800) * 0x400 + (trail - 0xDC00))
    : finishUnit builder earlier (some lead) trail
      = { state := .string (c :: earlier), builder } := by
  have char : ofSurrogates lead trail = c := by
    rw [ofSurrogates, ← joined, Char.ofNat_toNat]
  simp [finishUnit, isTrailSurrogate, isTrail, char]

/-- A backslash and the letter `u` begin an escape in digits, which is then read as its code. -/
theorem scan_code {code : Nat} {digits : List Char} (spells : SpellsCode code digits)
    (earlier : List Char) (builder : Builder)
    : ('\\' :: 'u' :: digits).foldl step { state := .string earlier, builder }
      = finishUnit builder earlier none code := by
  have opened
      : ['\\', 'u'].foldl step { state := .string earlier, builder }
        = { state := .unit earlier none [], builder } := by
    simp [step]
  rw [show '\\' :: 'u' :: digits = ['\\', 'u'] ++ digits from rfl, List.foldl_append, opened,
    spells.scan]

/-- Behind the leading half of a pair they begin the other half, whose backslash and letter have
states of their own.
-/
theorem scan_trailCode {code : Nat} {digits : List Char} (spells : SpellsCode code digits)
    (earlier : List Char) (lead : Nat) (builder : Builder)
    : ('\\' :: 'u' :: digits).foldl step { state := .pairBackslash earlier lead, builder }
      = finishUnit builder earlier (some lead) code := by
  have opened
      : ['\\', 'u'].foldl step { state := .pairBackslash earlier lead, builder }
        = { state := .unit earlier (some lead) [], builder } := by
    simp [step]
  rw [show '\\' :: 'u' :: digits = ['\\', 'u'] ++ digits from rfl, List.foldl_append, opened,
    spells.scan]

/-- The content of a string is read character by character.
By induction on the spelling, with a case for each way to spell a character: a single step for one
that stands for itself, two for a short escape, and the lemmas above for codes and pairs. What was
read is kept last character first.
-/
theorem SpellsString.scan {content text : List Char} (spells : SpellsString content text)
    (earlier : List Char) (builder : Builder)
    : text.foldl step { state := .string earlier, builder }
      = { state := .string (content.reverse ++ earlier), builder } := by
  induction spells generalizing earlier with
  | nil => rfl
  | @plain c rest text visible noQuote noBackslash _ ih =>
      have read
          : step { state := .string earlier, builder } c
            = { state := .string (c :: earlier), builder } := by
        simp [step, noQuote, noBackslash, Nat.not_lt.mpr visible]
      rw [List.foldl_cons, read, ih]
      simp
  | @short letter c rest text escape _ ih =>
      have meant
          : ∀ pair ∈ shortEscapes, escaped? pair.1 = some pair.2 ∧ pair.1 ≠ 'u' := by
        decide
      obtain ⟨escaped, noCode⟩ := meant _ escape
      have read
          : ['\\', letter].foldl step { state := .string earlier, builder }
            = { state := .string (c :: earlier), builder } := by
        simp [step, escaped, noCode]
      rw [show '\\' :: letter :: text = ['\\', letter] ++ text from rfl, List.foldl_append, read,
        ih]
      simp
  | @code c digits rest text code _ ih =>
      rw [List.foldl_append, scan_code code, finishUnit_of_char, ih]
      simp
  | @pair c lead trail leadDigits trailDigits rest text isLead isTrail joined leadCode trailCode
      _ ih =>
      rw [List.append_assoc, List.foldl_append, scan_code leadCode, finishUnit_of_lead _ _ isLead,
        List.foldl_append, scan_trailCode trailCode, finishUnit_of_trail _ _ isTrail joined, ih]
      simp

------------------------------------------------------------------------------------------
-- Numbers

/-- The ten decimal digits are read as what they are. -/
theorem digit?_digitChar {digit : Nat} (small : digit < 10)
    : digit? digit.digitChar = some digit := by
  interval_cases digit <;> rfl

/-- A character that continues a number is one step of the scanner within it. -/
theorem step_of_continues {place next : NumeralPlace} {numeral read : Numeral} {c : Char}
    (continues : continueNumber place numeral c = some (next, read)) (builder : Builder)
    : step { state := .number place numeral, builder } c
      = { state := .number next read, builder } := by
  simp [step, scanNumber, continues]

/-- Digits go on with a part of a number, which `grown` has as far as it is known; by induction on
the digits.
-/
theorem scan_decimal {place : NumeralPlace} {grown : List Nat → Numeral}
    (continues
      : ∀ earlier, ∀ digit < 10,
          continueNumber place (grown earlier) digit.digitChar
            = some (place, grown (digit :: earlier)))
    {digits : List Nat} (small : ∀ digit ∈ digits, digit < 10) (earlier : List Nat)
    (builder : Builder)
    : (decimal digits).foldl step { state := .number place (grown earlier), builder }
      = { state := .number place (grown (digits.reverse ++ earlier)), builder } := by
  induction digits generalizing earlier with
  | nil => rfl
  | cons digit rest ih =>
      obtain ⟨first, others⟩ := List.forall_mem_cons.mp small
      have read := step_of_continues (continues earlier digit first) builder
      change (decimal rest).foldl step (step _ digit.digitChar) = _
      rw [read, ih others]
      simp

/-- Where a number stands after its integer. -/
def placeOfInteger (first : Nat) : NumeralPlace :=
  if first = 0 then .zero else .integer

/-- A number may begin with any digit; after a zero the integer is over. -/
theorem step_firstDigit {digit : Nat} (small : digit < 10) (builder : Builder)
    : step { builder } digit.digitChar
      = { state := .number (placeOfInteger digit) { integer := [digit] }, builder } := by
  interval_cases digit <;> rfl

/-- The integer of a number is read with its sign.
It has begun after the sign and one digit, and since a zero is the only digit of its integer, more
digits come only where they may. Those are read as part of the integer.
-/
theorem scan_integer (negative : Bool) {first : Nat} {rest : List Nat}
    (noLeadingZero : first = 0 → rest = []) (small : ∀ digit ∈ first :: rest, digit < 10)
    (builder : Builder)
    : ((if negative then ['-'] else []) ++ decimal (first :: rest)).foldl step { builder }
      = {
          state :=
            .number (placeOfInteger first) { negative, integer := (first :: rest).reverse },
          builder
        } := by
  obtain ⟨firstSmall, restSmall⟩ := List.forall_mem_cons.mp small
  have begun
      : ((if negative then ['-'] else []) ++ [first.digitChar]).foldl step { builder }
        = { state := .number (placeOfInteger first) { negative, integer := [first] },
            builder } := by
    cases negative with
    | false => exact step_firstDigit firstSmall builder
    | true =>
        have signed : step { builder } '-'
            = { state := .number .sign { negative := true }, builder } :=
          rfl
        have continues
            : continueNumber .sign { negative := true } first.digitChar
              = some (placeOfInteger first, { negative := true, integer := [first] }) := by
          simp [continueNumber, digit?_digitChar firstSmall, placeOfInteger]
        simp [signed, step_of_continues continues]
  have split
      : (if negative then ['-'] else []) ++ decimal (first :: rest)
        = ((if negative then ['-'] else []) ++ [first.digitChar]) ++ decimal rest := by
    simp [decimal]
  rw [split, List.foldl_append, begun]
  by_cases zero : first = 0
  · rw [noLeadingZero zero]
    rfl
  · have continues (earlier : List Nat) (digit : Nat) (small : digit < 10)
        : continueNumber .integer { negative, integer := earlier } digit.digitChar
          = some (.integer, { negative, integer := digit :: earlier }) := by
      simp [continueNumber, digit?_digitChar small]
    rw [placeOfInteger, if_neg zero, scan_decimal continues restSmall]
    simp

/-- The fraction of a number is read behind its integer, if there is one.
The point and the first digit lead into the fraction, and the rest stay in it.
-/
theorem scan_fraction {place : NumeralPlace} (afterInteger : place = .zero ∨ place = .integer)
    {negative : Bool} {integer fraction : List Nat} (small : ∀ digit ∈ fraction, digit < 10)
    (builder : Builder)
    : (if fraction = [] then [] else '.' :: decimal fraction).foldl step
        { state := .number place { negative, integer }, builder }
      = {
          state :=
            .number (if fraction = [] then place else .fraction)
              { negative, integer, fraction := fraction.reverse },
          builder
        } := by
  cases fraction with
  | nil => rfl
  | cons first rest =>
      obtain ⟨firstSmall, restSmall⟩ := List.forall_mem_cons.mp small
      have pointed
          : continueNumber place { negative, integer } '.'
            = some (.point, { negative, integer }) := by
        rcases afterInteger with rfl | rfl <;> rfl
      have begun
          : continueNumber .point { negative, integer } first.digitChar
            = some (.fraction, { negative, integer, fraction := [first] }) := by
        simp [continueNumber, digit?_digitChar firstSmall]
      have continues (earlier : List Nat) (digit : Nat) (small : digit < 10)
          : continueNumber .fraction { negative, integer, fraction := earlier } digit.digitChar
            = some (.fraction, { negative, integer, fraction := digit :: earlier }) := by
        simp [continueNumber, digit?_digitChar small]
      change (decimal rest).foldl step (step (step _ '.') first.digitChar) = _
      rw [step_of_continues pointed, step_of_continues begun, scan_decimal continues restSmall]
      simp

/-- The exponent of a number is read behind its integer or fraction, if there is one.
The mark, a sign that may be left out, and the first digit lead into the exponent, from whichever of
the three places where the number could have ended; the rest stay in it.
-/
theorem SpellsExponent.scan {exponent : Option (Bool × List Nat)} {text : List Char}
    (spells : SpellsExponent exponent text) {place : NumeralPlace}
    (afterDigits : place = .zero ∨ place = .integer ∨ place = .fraction) {negative : Bool}
    {integer fraction : List Nat} (builder : Builder)
    : text.foldl step { state := .number place { negative, integer, fraction }, builder }
      = {
          state :=
            .number (if exponent = none then place else .exponent)
              {
                negative, integer, fraction,
                exponent := exponent.map (fun (below, digits) => (below, digits.reverse))
              },
          builder
        } := by
  cases spells with
  | absent => rfl
  | @written below digits mark sign isMark isSign present small =>
      let number (exponent : Option (Bool × List Nat)) : Numeral :=
        { negative, integer, fraction, exponent }
      have marked
          : continueNumber place (number none) mark
            = some (.exponentMark, number (some (false, []))) := by
        rcases isMark with rfl | rfl <;> rcases afterDigits with rfl | rfl | rfl <;> rfl
      have signed
          : ∃ signPlace,
              (signPlace = .exponentMark ∨ signPlace = .exponentSign)
              ∧ sign.foldl step
                  { state := .number .exponentMark (number (some (false, []))), builder }
                = { state := .number signPlace (number (some (below, []))), builder } := by
        cases below with
        | false =>
            rcases isSign with rfl | rfl
            · exact ⟨_, .inl rfl, rfl⟩
            · exact ⟨_, .inr rfl, rfl⟩
        | true =>
            obtain rfl := isSign
            exact ⟨_, .inr rfl, rfl⟩
      obtain ⟨signPlace, afterMark, signed⟩ := signed
      have continues (earlier : List Nat) (digit : Nat) (small : digit < 10)
          : continueNumber .exponent (number (some (below, earlier))) digit.digitChar
            = some (.exponent, number (some (below, digit :: earlier))) := by
        simp [continueNumber, digit?_digitChar small, number]
      obtain ⟨first, rest, rfl⟩ := List.exists_cons_of_ne_nil present
      obtain ⟨firstSmall, restSmall⟩ := List.forall_mem_cons.mp small
      have begun
          : continueNumber signPlace (number (some (below, []))) first.digitChar
            = some (.exponent, number (some (below, [first]))) := by
        rcases afterMark with rfl | rfl <;>
          simp [continueNumber, digit?_digitChar firstSmall, number]
      rw [List.cons_append, List.foldl_cons, step_of_continues marked, List.foldl_append, signed]
      change (decimal rest).foldl step (step _ first.digitChar) = _
      rw [step_of_continues begun, scan_decimal continues restSmall]
      simp [number]

/-- A number is read up to a place where it may end, with its digits as they are written.
Its integer, fraction and exponent are read one after the other. Where the last of them ends depends
on which of them are there, and each such place is a complete one.
-/
theorem SpellsNumeral.scan {numeral : Numeral} {text : List Char}
    (spells : SpellsNumeral numeral text) (builder : Builder)
    : ∃ place read,
        text.foldl step { builder } = { state := .number place read, builder }
        ∧ place.isComplete
        ∧ inOrder read = numeral := by
  cases spells with
  | @parts exponent first rest integer noLeadingZero small spelled =>
      obtain ⟨negative, _, fraction, written⟩ := numeral
      dsimp only at integer small spelled ⊢
      subst integer
      obtain ⟨integerSmall, fractionSmall⟩ := List.forall_mem_append.mp small
      have afterInteger : placeOfInteger first = .zero ∨ placeOfInteger first = .integer := by
        unfold placeOfInteger
        split
        · exact .inl rfl
        · exact .inr rfl
      let place := if fraction = [] then placeOfInteger first else .fraction
      have afterDigits : place = .zero ∨ place = .integer ∨ place = .fraction := by
        unfold place
        split
        · exact afterInteger.imp_right .inl
        · exact .inr (.inr rfl)
      rw [List.foldl_append, List.foldl_append, scan_integer negative noLeadingZero integerSmall,
        scan_fraction afterInteger fractionSmall, spelled.scan afterDigits]
      refine ⟨_, _, rfl, ?_, ?_⟩
      · split
        · rcases afterDigits with same | same | same <;> rw [same] <;> rfl
        · rfl
      · cases written <;> simp [inOrder]

namespace Numeral

/-- Taking digits in never makes a number smaller, by induction on the digits. -/
theorem le_ofDigits (digits : List Nat) (value : Nat)
    : value ≤ digits.foldl (fun value digit => value * 10 + digit) value := by
  induction digits generalizing value with
  | nil => exact Nat.le_refl value
  | cons digit rest ih => exact Nat.le_trans (by omega) (ih (value * 10 + digit))

/-- All digits are taken in while the number that they write stays within the limit.
By induction on the digits: what they write so far is at most what they write in the end.
-/
theorem takeDigits_of_le {limit : Nat} {digits : List Nat} {value : Nat}
    (fits : digits.foldl (fun value digit => value * 10 + digit) value ≤ limit)
    : takeDigits limit value digits
      = (digits.foldl (fun value digit => value * 10 + digit) value, []) := by
  induction digits generalizing value with
  | nil => rfl
  | cons digit rest ih =>
      have within : ¬ limit < value * 10 + digit :=
        Nat.not_lt.mpr (Nat.le_trans (le_ofDigits rest _) fits)
      rw [takeDigits, if_neg within]
      exact ih fits

/-- The digits of a number of 64 bits are all significant. -/
theorem takeDigits_ofDigits {digits : List Nat} (fits : ofDigits 10 digits < Nat.pow 2 64)
    : takeDigits maxSignificand 0 digits = (ofDigits 10 digits, []) := by
  refine takeDigits_of_le (Nat.le_of_lt_succ ?_)
  simpa [maxSignificand, ofDigits] using fits

/-- A number is read as what it stands for, by cases on that: the digits of whole numbers fit in 64
bits, so they are all taken in.
-/
theorem Denotes.value?_eq {numeral : Numeral} {number : Number}
    (denotes : numeral.Denotes number)
    : numeral.value? = some number := by
  cases denotes with
  | natural fits => simp [value?, whole?, takeDigits_ofDigits fits]
  | negative positive fits =>
      have small := Nat.lt_of_le_of_lt fits (by decide : Nat.pow 2 63 < Nat.pow 2 64)
      have fits' : ofDigits 10 _ ≤ Nat.pow 2 63 := fits
      simp [value?, whole?, takeDigits_ofDigits small, positive, fits']
  | float notWhole inRange => simp [value?, notWhole, inRange]

end Numeral

------------------------------------------------------------------------------------------
-- Texts

/-- The scanner has read whole tokens, although the last one, if it is a number, could still go on.
The builder is as it will be when that has ended.
-/
inductive Settled : Scanner → Builder → Prop where
  | between (builder : Builder) : Settled { builder } builder
  | number {place : NumeralPlace} {read : Numeral} {number : Number} (builder : Builder)
      (complete : place.isComplete) (value : (inOrder read).value? = some number)
      : Settled { state := .number place read, builder }
          (builder.feed (.scalar (.number number)))

namespace Settled

/-- A character that begins neither a digit nor another part of a number ends the number, and is
then read as if nothing were before it.
By cases on the places where a number is complete.
-/
theorem step_eq {scanner : Scanner} {builder : Builder} (settled : Settled scanner builder)
    {c : Char} (noDigit : digit? c = none) (noPoint : c ≠ '.') (noMark : c ≠ 'e' ∧ c ≠ 'E')
    : step scanner c = step { builder } c := by
  cases settled with
  | between => rfl
  | @number place read number builder complete value =>
      have ended : continueNumber place read c = none := by
        cases place <;> simp [continueNumber, noDigit, noPoint, noMark]
        cases complete
      simp [step, scanNumber, ended, noDigit, numberToken, complete, value]

/-- A text may end where whole tokens have been read, also within a number that could go on. -/
theorem finish_eq {scanner : Scanner} {builder : Builder} (settled : Settled scanner builder)
    : scanner.finish = builder.finish := by
  cases settled with
  | between => rfl
  | number builder complete value => simp [finish, numberToken, complete, value]

end Settled

/-- Blanks between tokens are passed over, by induction on them. -/
theorem scan_blanks {space : List Char} (blank : space ⊆ blanks) (builder : Builder)
    : space.foldl step { builder } = { builder } := by
  induction space with
  | nil => rfl
  | cons c rest ih =>
      obtain ⟨first, others⟩ := List.cons_subset.mp blank
      have allBlank : ∀ c ∈ blanks, isBlank c := by simp [blanks, isBlank]
      have isBlank := allBlank c first
      have read : step { builder } c = { builder } := by simp [step, scanBetween, isBlank]
      rw [List.foldl_cons, read, ih others]

/-- Blanks behind a token end a number, and change nothing else.
The first of them ends it, if there is one, and the rest are passed over.
-/
theorem Settled.scan_blanks {scanner : Scanner} {builder : Builder}
    (settled : Settled scanner builder) {space : List Char} (blank : space ⊆ blanks)
    : Settled (space.foldl step scanner) builder := by
  cases space with
  | nil => exact settled
  | cons c rest =>
      have ends : ∀ c ∈ blanks, digit? c = none ∧ c ≠ '.' ∧ c ≠ 'e' ∧ c ≠ 'E' := by
        simp [blanks, digit?]
      obtain ⟨noDigit, noPoint, noMark⟩ := ends c (blank List.mem_cons_self)
      rw [List.foldl_cons, settled.step_eq noDigit noPoint noMark, ← List.foldl_cons,
        Json.scan_blanks blank]
      exact .between builder

/-- Whether a token is a value on its own. -/
def Token.isScalar : Token → Bool
  | .scalar _ => true
  | _ => false

/-- A token is read from the start, by cases on how it is spelled.
A number alone is not fed to the builder at once, since its last digit does not end it.
-/
theorem SpellsToken.scan {token : Token} {text : List Char} (spells : SpellsToken token text)
    (builder : Builder)
    : Settled (text.foldl step { builder }) (builder.feed token) := by
  cases spells with
  | openBrace | closeBrace | openBracket | closeBracket | comma | colon => exact .between _
  | nullWord | trueWord | falseWord => exact .between _
  | number spelled denotes =>
      obtain ⟨place, read, scanned, complete, rfl⟩ := spelled.scan builder
      rw [scanned]
      exact .number builder complete denotes.value?_eq
  | @string content text spelled =>
      have opened : step { builder } '"' = { state := .string [], builder } := rfl
      rw [List.cons_append, List.foldl_cons, opened, List.foldl_append, spelled.scan]
      have closed
          : ['"'].foldl step { state := .string (content.toList.reverse ++ []), builder }
            = { builder := builder.feed (.scalar (.string content)) } := by
        simp [step, emit]
      rw [closed]
      exact .between _

/-- A token that is no scalar ends a number before it, so it is read alike behind all tokens.
It consists of one character, and none of these six continues a number.
-/
theorem SpellsToken.scan_structural {token : Token} {text : List Char}
    (spells : SpellsToken token text) (structural : token.isScalar = false) {scanner : Scanner}
    {builder : Builder} (settled : Settled scanner builder)
    : text.foldl step scanner = { builder := builder.feed token } := by
  have ended {c : Char} (here : c ∈ ['\x7b', '\x7d', '[', ']', ',', ':'])
      : step scanner c = step { builder } c := by
    have ends
        : ∀ c ∈ ['\x7b', '\x7d', '[', ']', ',', ':'],
            digit? c = none ∧ c ≠ '.' ∧ c ≠ 'e' ∧ c ≠ 'E' := by
      simp [digit?]
    obtain ⟨noDigit, noPoint, noMark⟩ := ends c here
    exact settled.step_eq noDigit noPoint noMark
  cases spells with
  | openBrace | closeBrace | openBracket | closeBracket | comma | colon => exact ended (by simp)
  | nullWord | trueWord | falseWord | number | string => cases structural

/-- Between two scalars there is another token. -/
abbrev Separate (tokens : List Token) : Prop :=
  tokens.IsChain (fun token next => token.isScalar → next.isScalar = false)

/-- The tokens of a text are fed to the builder in order.
By induction on the spelling. Before a token that is no scalar there may still be a number that has
not ended; before a scalar there is none, since the token before it is not a scalar, and so the
scanner is between tokens.
-/
theorem Spells.scan {tokens : List Token} {text : List Char} (spells : Spells tokens text)
    (separate : Separate tokens) {scanner : Scanner} {builder : Builder}
    (settled : Settled scanner builder)
    (free : ∀ token ∈ tokens.head?, token.isScalar → scanner = { builder })
    : Settled (text.foldl step scanner) (tokens.foldl Builder.feed builder) := by
  induction spells generalizing scanner builder with
  | nil blank => exact settled.scan_blanks blank
  | @cons token tokens space text rest blank spelled others ih =>
      rw [List.append_assoc, List.foldl_append, List.foldl_append, List.foldl_cons]
      cases kind : token.isScalar with
      | true =>
          obtain rfl := free token rfl kind
          rw [Json.scan_blanks blank]
          refine ih separate.tail (spelled.scan builder) (fun next first scalar => ?_)
          cases separate with
          | singleton => simp at first
          | cons_cons apart _ =>
              obtain rfl := Option.some.inj first
              simp [apart kind] at scalar
      | false =>
          rw [spelled.scan_structural kind (settled.scan_blanks blank)]
          exact ih separate.tail (.between _) (fun _ _ _ => rfl)

end EntryPoints.Json
