import EntryPoints.Text.Placeholder

/-! Replacing the placeholder of one argument. What the text is put together from can be replaced on
its own, as long as no placeholder begins in one part and ends in the next.
-/

namespace EntryPoints.Text

------------------------------------------------------------------------------------------
-- Placeholders

/-- A character that no placeholder has. -/
def isPlain (c : Char) : Bool :=
  c != '{' && c != '}' && !c.isDigit

/-- Positions are written in decimal digits. -/
theorem isDigit_of_mem_digits {position : Nat} {c : Char} (digit : c ∈ Nat.toDigits 10 position)
    : c.isDigit :=
  Nat.isDigit_of_mem_toDigits (by decide) (by decide) digit

/-- A placeholder has no plain character: it consists of braces and digits. -/
theorem isPlain_of_mem_placeholder {position : Nat} {c : Char} (inside : c ∈ placeholder position)
    : isPlain c = false := by
  rw [placeholder, List.cons_append, List.mem_cons, List.mem_append, List.mem_singleton] at inside
  rcases inside with rfl | digit | rfl
  · rfl
  · simp [isPlain, isDigit_of_mem_digits digit]
  · rfl

/-- A placeholder has its opening brace in front and nowhere else. -/
theorem opening_notMem_digits (position : Nat) : '{' ∉ Nat.toDigits 10 position ++ ['}'] := by
  intro inside
  rcases List.mem_append.mp inside with digit | last
  · cases isDigit_of_mem_digits digit
  · simp at last

/-- Texts that agree are split alike by a character that comes equally often before, by induction on
the text before it.
-/
theorem append_cons_inj_of_count {c : Char} {left left' right right' : List Char}
    (same : left ++ c :: right = left' ++ c :: right') (counts : left.count c = left'.count c)
    : left = left' ∧ right = right' := by
  induction left generalizing left' with
  | nil =>
      cases left' with
      | nil => exact ⟨rfl, (List.cons.inj same).2⟩
      | cons first rest =>
          obtain ⟨rfl, _⟩ := List.cons.inj same
          simp at counts
  | cons first rest ih =>
      cases left' with
      | nil =>
          obtain ⟨rfl, _⟩ := List.cons.inj same
          simp at counts
      | cons first' rest' =>
          obtain ⟨rfl, same'⟩ := List.cons.inj same
          rw [List.count_cons, List.count_cons, Nat.add_right_cancel_iff] at counts
          obtain ⟨rfl, rfl⟩ := ih same' counts
          exact ⟨rfl, rfl⟩

/-- A text begins with one placeholder at most, which ends at the first closing brace.
The digits between the braces hold none, so both texts are split at the same place, and digits that
agree write the same position.
-/
theorem placeholder_append_inj {position other : Nat} {rest rest' : List Char}
    (same : placeholder position ++ rest = placeholder other ++ rest')
    : position = other ∧ rest = rest' := by
  have noClosing (position : Nat) : (Nat.toDigits 10 position).count '}' = 0 := by
    refine List.count_eq_zero.mpr (fun digit => ?_)
    cases isDigit_of_mem_digits digit
  simp only [placeholder, List.cons_append, List.append_assoc, List.nil_append] at same
  have split := append_cons_inj_of_count (List.cons.inj same).2 (by rw [noClosing, noClosing])
  refine ⟨?_, split.2⟩
  rw [← Nat.ofDigitChars_ten_toDigits (n := position), split.1, Nat.ofDigitChars_ten_toDigits]

/-- A placeholder occurs in no other one.
It could only begin where the other one does, since there is an opening brace nowhere else, and then
they are the same.
-/
theorem eq_of_infix_placeholder {position other : Nat}
    (occurs : placeholder position <:+: placeholder other)
    : position = other := by
  obtain ⟨before, after, same⟩ := occurs
  cases before with
  | nil =>
      have same' : placeholder position ++ after = placeholder other ++ [] := by simpa using same
      exact (placeholder_append_inj same').1
  | cons first before =>
      have behind : before ++ placeholder position ++ after = Nat.toDigits 10 other ++ ['}'] :=
        (List.cons.inj same).2
      have inside : '{' ∈ Nat.toDigits 10 other ++ ['}'] := by simp [← behind, placeholder]
      exact absurd inside (opening_notMem_digits other)

/-- No placeholder begins with a character other than the opening brace. -/
theorem not_placeholder_prefix_of_ne {position : Nat} {c : Char} (other : c ≠ '{')
    (rest : List Char)
    : ¬ placeholder position <+: c :: rest := by
  intro starts
  exact other (List.cons_prefix_cons.mp starts).1.symm

/-- A placeholder that begins in a text, and before whose end a plain character follows the text,
would hold that character; so it ends in the text.
-/
theorem placeholder_prefix_of_append {position : Nat} {left right : List Char}
    (seam : ∀ c ∈ right.head?, isPlain c) (starts : placeholder position <+: left ++ right)
    : placeholder position <+: left := by
  obtain ⟨after, same⟩ := starts
  rcases List.append_eq_append_iff.mp same with ⟨between, whole, _⟩ | ⟨between, whole, rest⟩
  · exact ⟨between, whole.symm⟩
  · cases between with
    | nil => exact ⟨[], by simpa using whole⟩
    | cons first between =>
        have plain := seam first (by simp [rest])
        have inside : first ∈ placeholder position := by simp [whole]
        simp [isPlain_of_mem_placeholder inside] at plain

------------------------------------------------------------------------------------------
-- Replacement

section
variable {pattern filler : List Char}

/-- Characters of an occurrence that is being replaced are passed over, by induction on them. -/
theorem replaceFrom_length (skipped rest : List Char)
    : replaceFrom pattern filler skipped.length (skipped ++ rest) = replace pattern filler rest := by
  induction skipped with
  | nil => rfl
  | cons _ _ ih => exact ih

/-- An occurrence is replaced as a whole, since replacing goes on behind it. -/
theorem replace_append_of_pattern (nonempty : pattern ≠ []) (rest : List Char)
    : replace pattern filler (pattern ++ rest) = filler ++ replace pattern filler rest := by
  cases pattern with
  | nil => exact absurd rfl nonempty
  | cons first more =>
      have starts : (first :: more).isPrefixOf (first :: (more ++ rest)) = true := by simp
      rw [replace, List.cons_append, replaceFrom, if_pos starts]
      exact congrArg (filler ++ ·) (replaceFrom_length more rest)

/-- A character at which no occurrence begins is kept, and replacing goes on behind it. -/
theorem replace_cons_of_not_pattern {c : Char} {rest : List Char}
    (apart : ¬ pattern <+: c :: rest)
    : replace pattern filler (c :: rest) = c :: replace pattern filler rest := by
  have passes : pattern.isPrefixOf (c :: rest) = false := by
    rw [Bool.eq_false_iff, ne_eq, List.isPrefixOf_iff_prefix]
    exact apart
  rw [replace, replaceFrom, passes]
  rfl

/-- Induction along a text, over the occurrences of a pattern in it and the characters between
them.
-/
@[elab_as_elim]
theorem occurrence_induction {motive : List Char → Prop} (pattern : List Char)
    (nonempty : pattern ≠ []) (nil : motive [])
    (occurrence : ∀ rest, motive rest → motive (pattern ++ rest))
    (kept : ∀ c rest, ¬ pattern <+: c :: rest → motive rest → motive (c :: rest))
    (text : List Char)
    : motive text := by
  induction length : text.length using Nat.strongRecOn generalizing text with
  | _ length ih =>
      cases text with
      | nil => exact nil
      | cons c rest =>
          by_cases starts : pattern <+: c :: rest
          · obtain ⟨after, same⟩ := starts
            have shorter := congrArg List.length same
            have longer := List.length_pos_iff.mpr nonempty
            rw [List.length_append] at shorter
            rw [← same]
            exact occurrence after (ih after.length (by omega) after rfl)
          · refine kept c rest starts (ih rest.length ?_ rest rfl)
            simp only [List.length_cons] at length
            omega

/-- A text without an occurrence stays as it is, by induction on the text: no occurrence begins at
its first character, and there is none in the rest.
-/
theorem replace_of_absent {text : List Char} (absent : ¬ pattern <:+: text)
    : replace pattern filler text = text := by
  induction text with
  | nil => rfl
  | cons c rest ih =>
      rw [replace_cons_of_not_pattern (fun starts => absent starts.isInfix),
        ih (fun occurs => absent (List.infix_cons occurs))]

end

section
variable {position : Nat} {filler : List Char}

/-- No placeholder is empty, so every occurrence of one can be replaced. -/
theorem placeholder_ne_nil (position : Nat) : placeholder position ≠ [] :=
  List.cons_ne_nil _ _

/-- The placeholder itself becomes the filler, and any other one stays, as no placeholder occurs in
another.
-/
theorem replace_placeholder (position other : Nat) (filler : List Char)
    : replace (placeholder position) filler (placeholder other)
      = if position = other then filler else placeholder other := by
  by_cases same : position = other
  · subst same
    have whole
        : replace (placeholder position) filler (placeholder position ++ []) = filler ++ [] :=
      replace_append_of_pattern (placeholder_ne_nil position) []
    simpa using whole
  · rw [if_neg same, replace_of_absent (fun occurs => same (eq_of_infix_placeholder occurs))]

/-- A text that a plain character follows is replaced on its own, by induction over the placeholders
in it.
-/
theorem replace_append {right : List Char} (seam : ∀ c ∈ right.head?, isPlain c)
    (left : List Char)
    : replace (placeholder position) filler (left ++ right)
      = replace (placeholder position) filler left
        ++ replace (placeholder position) filler right := by
  have nonempty := placeholder_ne_nil position
  induction left using occurrence_induction (placeholder position) nonempty with
  | nil => rfl
  | occurrence rest ih =>
      rw [List.append_assoc, replace_append_of_pattern nonempty, ih,
        replace_append_of_pattern nonempty, List.append_assoc]
  | kept c rest apart ih =>
      have apart' : ¬ placeholder position <+: c :: (rest ++ right) :=
        fun starts => apart (placeholder_prefix_of_append seam starts)
      rw [List.cons_append, replace_cons_of_not_pattern apart', ih,
        replace_cons_of_not_pattern apart, List.cons_append]

/-- No plain character is lost, however the fillers look.
By induction over the placeholders: they hold no plain character, and other characters are kept.
-/
theorem count_le_count_replace {c : Char} (plain : isPlain c) (text : List Char)
    : text.count c ≤ (replace (placeholder position) filler text).count c := by
  have nonempty := placeholder_ne_nil position
  induction text using occurrence_induction (placeholder position) nonempty with
  | nil => exact Nat.le_refl _
  | occurrence rest ih =>
      have absent : (placeholder position).count c = 0 := by
        refine List.count_eq_zero.mpr (fun inside => ?_)
        simp [isPlain_of_mem_placeholder inside] at plain
      rw [replace_append_of_pattern nonempty, List.count_append, List.count_append, absent]
      omega
  | kept first rest apart ih =>
      rw [replace_cons_of_not_pattern apart, List.count_cons, List.count_cons]
      omega

end

end EntryPoints.Text
