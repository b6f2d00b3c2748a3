import EntryPoints.Text.Blank
import Mathlib.Data.List.DropRight

/-! Trimming takes blanks away from both ends of a text, all of them and nothing else. -/

namespace EntryPoints.Text

/-- All characters of the text are blank. -/
def IsBlank (text : List Char) : Prop :=
  ∀ c ∈ text, isBlank c = true

section
variable {text blanks : List Char}

/-- Blanks in front of a text do not count, however many there are. -/
theorem trim_append_left (blank : IsBlank blanks) : trim (blanks ++ text) = trim text := by
  rw [trim, List.dropWhile_append_of_pos blank, trim]

/-- Neither do blanks behind a text whose front is trimmed already. -/
theorem trimEnd_append_right (blank : IsBlank blanks)
    : trimEnd (text ++ blanks) = trimEnd text := by
  have blank' : ∀ c ∈ blanks.reverse, isBlank c = true :=
    fun c listed => blank c (List.mem_reverse.mp listed)
  rw [trimEnd, List.reverse_append, List.dropWhile_append_of_pos blank', trimEnd]

/-- Blanks behind a text do not count.
If the text consists of blanks itself, nothing is left of both; otherwise its front is dropped as
before and the end is trimmed.
-/
theorem trim_append_right (blank : IsBlank blanks) : trim (text ++ blanks) = trim text := by
  rw [trim, trim, List.dropWhile_append]
  split
  · next empty =>
    rw [List.isEmpty_iff.mp empty, List.dropWhile_eq_nil_iff.mpr blank]
  · exact trimEnd_append_right blank

/-- A text is its trimmed part between blanks, which are those that the two passes drop. -/
theorem exists_blanks_around_trim (text : List Char)
    : ∃ before after, IsBlank before ∧ IsBlank after ∧ text = before ++ trim text ++ after := by
  let front := text.dropWhile isBlank
  refine ⟨text.takeWhile isBlank, front.rtakeWhile isBlank, ?_, ?_, ?_⟩
  · exact fun c listed => List.mem_takeWhile_imp listed
  · exact fun c listed => List.mem_rtakeWhile_imp listed
  · have back : trim text ++ front.rtakeWhile isBlank = front :=
      List.rdropWhile_append_rtakeWhile
    rw [List.append_assoc, back, List.takeWhile_append_dropWhile]

/-- What is left after trimming stands somewhere in the text. -/
theorem trim_infix (text : List Char) : trim text <:+: text := by
  obtain ⟨before, after, _, _, whole⟩ := exists_blanks_around_trim text
  exact ⟨before, after, whole.symm⟩

/-- Blanks in front do not count however many of them are dropped before trimming. -/
theorem trim_dropWhile (text : List Char) : trim (text.dropWhile isBlank) = trim text := by
  rw [trim, List.dropWhile_idempotent, trim]

/-- A text that ends in another character than a blank keeps its end. -/
theorem trimEnd_append_singleton {last : Char} (proper : isBlank last = false)
    : trimEnd (text ++ [last]) = text ++ [last] :=
  List.rdropWhile_concat_neg isBlank text last (by simp [proper])

/-- What ends in a mark of two characters that are no blanks keeps it, and loses the blanks in
front.
The first character of the mark is where dropping blanks stops, should nothing else be there.
-/
theorem trim_append_mark {first last : Char} (proper : isBlank first = false)
    (proper' : isBlank last = false)
    : trim (text ++ [first, last]) = text.dropWhile isBlank ++ [first, last] := by
  have front
      : (text ++ [first, last]).dropWhile isBlank = text.dropWhile isBlank ++ [first, last] := by
    rw [List.dropWhile_append]
    split
    · next empty => simp [List.isEmpty_iff.mp empty, proper]
    · rfl
  rw [trim, front, List.append_cons, trimEnd_append_singleton proper']

/-- A text between characters that are no blanks stays as it is. -/
theorem trim_of_proper_ends {first last : Char} (proper : isBlank first = false)
    (proper' : isBlank last = false)
    : trim (first :: (text ++ [last])) = first :: (text ++ [last]) := by
  rw [trim, List.dropWhile_cons, if_neg (by simp [proper]), ← List.cons_append,
    trimEnd_append_singleton proper']

end

end EntryPoints.Text
