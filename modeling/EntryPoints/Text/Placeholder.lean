/-! Numbered placeholders of a message template are filled one after another. -/

namespace EntryPoints.Text

/-- Replaces every occurrence of `pattern`, found from the left and without overlap; the number
says how many characters of the last occurrence are still to be passed over. -/
def replaceFrom (pattern filler : List Char) : Nat → List Char → List Char
  | _, [] => []
  | skip + 1, _ :: rest => replaceFrom pattern filler skip rest
  | 0, c :: rest =>
      if pattern.isPrefixOf (c :: rest) then
        filler ++ replaceFrom pattern filler (pattern.length - 1) rest
      else
        c :: replaceFrom pattern filler 0 rest

/-- Every occurrence of `pattern` in the text becomes `filler`. -/
def replace (pattern filler text : List Char) : List Char :=
  replaceFrom pattern filler 0 text

/-- The placeholder of an argument: its position between braces. -/
def placeholder (position : Nat) : List Char :=
  '{' :: Nat.toDigits 10 position ++ ['}']

/-- Fills the placeholders from `position` on, each in the text that the ones before have left. -/
def fillFrom (position : Nat) : List (List Char) → List Char → List Char
  | [], text => text
  | argument :: rest, text =>
      fillFrom (position + 1) rest (replace (placeholder position) argument text)

/-- Fills a template with its arguments; a placeholder without an argument stays as it is. -/
def fill (template : String) (arguments : List String) : String :=
  String.ofList (fillFrom 0 (arguments.map String.toList) template.toList)

end EntryPoints.Text
