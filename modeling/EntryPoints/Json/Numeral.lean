import EntryPoints.Json.Value

/-! Numbers as they are written, and what they are read as. -/

namespace EntryPoints.Json

/-- The sign and the digits of a written number. A fraction or an exponent that is written has at
least one digit. -/
structure Numeral where
  negative : Bool := false
  integer : List Nat := []
  fraction : List Nat := []
  /-- Whether the exponent is below zero, and its digits. -/
  exponent : Option (Bool × List Nat) := none
  deriving DecidableEq, Repr, Inhabited

namespace Numeral

/-- The largest significand that is kept exactly. -/
def maxSignificand : Nat :=
  Nat.pow 2 64 - 1

/-- The largest exponent that is told from larger ones. -/
def maxExponent : Nat :=
  Nat.pow 2 31 - 1

/-- Takes digits into a number while it stays within the limit, and gives the digits that are left
over. -/
def takeDigits (limit : Nat) : Nat → List Nat → Nat × List Nat
  | value, [] => (value, [])
  | value, digit :: rest =>
      if limit < value * 10 + digit then (value, digit :: rest)
      else takeDigits limit (value * 10 + digit) rest

/-- The nearest number with 53 significant bits; a tie goes to the one that is even. -/
def roundToDouble (value : Nat) : Nat :=
  if value < Nat.pow 2 53 then
    value
  else
    let unit := Nat.pow 2 (value.log2 - 52)
    let (quotient, rest) := (value / unit, value % unit)
    if unit < 2 * rest ∨ (2 * rest = unit ∧ quotient % 2 = 1) then
      (quotient + 1) * unit
    else
      quotient * unit

/-- The least number that rounds to infinity. -/
def overflowThreshold : Nat :=
  Nat.pow 2 1024 - Nat.pow 2 970

/-- Whether `significand * 10 ^ exponent` is too large, both factors being rounded first. -/
def overflows (significand : Nat) (exponent : Int) : Bool :=
  significand != 0 && 0 ≤ exponent
    && (308 < exponent
        || overflowThreshold
            ≤ roundToDouble significand * roundToDouble (Nat.pow 10 exponent.toNat))

/-- The significand of a number that is not whole, and the power of ten that goes with it before
the written exponent is counted. Digits of the integer that are left over count as powers of ten,
those of the fraction as nothing. -/
def scaled (numeral : Numeral) : Nat × Int :=
  let (significand, surplus) := takeDigits maxSignificand 0 numeral.integer
  let (significand, dropped) := takeDigits maxSignificand significand numeral.fraction
  (significand, (surplus.length : Int) - ((numeral.fraction.length : Int) - dropped.length))

/-- Whether a number that is not whole is within range. -/
def inRange (numeral : Numeral) : Bool :=
  let (significand, power) := numeral.scaled
  match numeral.exponent with
  | none => !overflows significand power
  | some (below, digits) =>
      let (size, surplus) := takeDigits maxExponent 0 digits
      if !surplus.isEmpty then
        below || significand == 0
      else
        !overflows significand (if below then power - size else power + size)

/-- A number without fraction and exponent is whole as long as 64 bits hold it; a negative zero
is not. -/
def whole? (numeral : Numeral) : Option Number :=
  if numeral.fraction.isEmpty && numeral.exponent.isNone then
    match takeDigits maxSignificand 0 numeral.integer with
    | (value, []) =>
        if !numeral.negative then some (.natural value)
        else if 0 < value ∧ value ≤ Nat.pow 2 63 then some (.negative value)
        else none
    | _ => none
  else
    none

/-- What the number is read as; none if it is out of range. -/
def value? (numeral : Numeral) : Option Number :=
  match numeral.whole? with
  | some number => some number
  | none => if numeral.inRange then some .float else none

end Numeral

end EntryPoints.Json
