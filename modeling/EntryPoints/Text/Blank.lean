/-! Blank characters are those with the Unicode property `White_Space`. -/

namespace EntryPoints.Text

/-- The ranges of `White_Space`, each with both of its ends. -/
def blankRanges : List (Nat × Nat) :=
  [(0x09, 0x0D), (0x20, 0x20), (0x85, 0x85), (0xA0, 0xA0), (0x1680, 0x1680), (0x2000, 0x200A),
    (0x2028, 0x2029), (0x202F, 0x202F), (0x205F, 0x205F), (0x3000, 0x3000)]

def isBlank (c : Char) : Bool :=
  blankRanges.any (fun range => range.1 ≤ c.toNat && c.toNat ≤ range.2)

/-- The text without the blanks at its end. -/
def trimEnd (text : List Char) : List Char :=
  (text.reverse.dropWhile isBlank).reverse

/-- The text without the blanks at both of its ends. -/
def trim (text : List Char) : List Char :=
  trimEnd (text.dropWhile isBlank)

/-- Trimming never lengthens a text, since it only drops characters. -/
theorem length_trim_le (text : List Char) : (trim text).length ≤ text.length := by
  have fromFront := (List.dropWhile_suffix isBlank (l := text)).length_le
  have fromEnd :=
    (List.dropWhile_suffix isBlank (l := (text.dropWhile isBlank).reverse)).length_le
  simp only [trim, trimEnd, List.length_reverse] at fromEnd ⊢
  omega

end EntryPoints.Text
