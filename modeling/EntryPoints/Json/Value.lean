/-! JSON values, with numbers as far as their readers can tell them apart. -/

namespace EntryPoints.Json

/-- A number that has been read: a whole number of 64 bits, or one that is only known to be
within the range of binary64. -/
inductive Number where
  | natural (value : Nat)
  /-- The whole number below zero of that size. -/
  | negative (size : Nat)
  | float
  deriving DecidableEq, Repr, Inhabited

inductive Scalar where
  | null
  | bool (value : Bool)
  | number (value : Number)
  | string (value : String)
  deriving DecidableEq, Repr, Inhabited

/-- A whole value. An object keeps all of its fields in the order of the text, repeated keys
included. -/
inductive Value where
  | scalar (scalar : Scalar)
  | array (items : List Value)
  | object (fields : List (String × Value))
  deriving Repr, Inhabited

end EntryPoints.Json
