import EntryPoints.Proofs.Text.Replacement

/-! Templates with numbered placeholders. A text quotes its arguments if each stands where the
template has its placeholder. Filling a template may do more: it also fills the placeholders that an
argument brings along, if their arguments come later.
-/

namespace EntryPoints.Text

------------------------------------------------------------------------------------------
-- Quoting

/-- The text is the template with each placeholder of an argument replaced by the argument, and with
every other character kept. What an argument brings along is not looked at again.
-/
inductive Quotes (arguments : List (List Char)) : List Char → List Char → Prop where
  | done : Quotes arguments [] []
  | given {position : Nat} {argument template rest text : List Char}
      (starts : template = placeholder position ++ rest)
      (found : arguments[position]? = some argument) (more : Quotes arguments rest text)
    : Quotes arguments template (argument ++ text)
  | kept {c : Char} {rest text : List Char}
      (apart : ∀ position < arguments.length, ¬ placeholder position <+: c :: rest)
      (more : Quotes arguments rest text)
    : Quotes arguments (c :: rest) (c :: text)

section
variable {arguments : List (List Char)}

/-- One text at most quotes the arguments of a template.
By induction along the template: where a placeholder with an argument begins, only that argument can
be quoted, and where none begins the character is kept.
-/
theorem Quotes.unique {template text other : List Char} (h : Quotes arguments template text)
    (h' : Quotes arguments template other)
    : text = other := by
  have inside {position : Nat} {argument : List Char}
      (found : arguments[position]? = some argument)
      : position < arguments.length :=
    (List.getElem?_eq_some_iff.mp found).1
  induction h generalizing other with
  | done =>
      cases h' with
      | done => rfl
      | given starts => simp [placeholder] at starts
  | @given position argument template rest text starts found more ih =>
      cases h' with
      | done => simp [placeholder] at starts
      | given starts' found' more' =>
          obtain ⟨rfl, rfl⟩ := placeholder_append_inj (starts.symm.trans starts')
          rw [Option.some.inj (found.symm.trans found'), ih more']
      | kept apart => exact absurd ⟨rest, starts.symm⟩ (apart position (inside found))
  | @kept c rest text apart more ih =>
      cases h' with
      | given starts found => exact absurd ⟨_, starts.symm⟩ (apart _ (inside found))
      | kept _ more' => rw [ih more']

/-- Characters in front of a template are kept if none of them opens a placeholder, by induction on
them.
-/
theorem Quotes.append_of_no_opening {front template text : List Char} (noOpening : '{' ∉ front)
    (quotes : Quotes arguments template text)
    : Quotes arguments (front ++ template) (front ++ text) := by
  induction front with
  | nil => exact quotes
  | cons c rest ih =>
      rw [List.mem_cons, not_or] at noOpening
      obtain ⟨other, noOpening'⟩ := noOpening
      exact .kept (fun _ _ => not_placeholder_prefix_of_ne (Ne.symm other) _) (ih noOpening')

/-- A placeholder without an argument is kept.
No other placeholder begins at its brace, and none at all begins within it.
-/
theorem Quotes.append_placeholder {position : Nat} {template text : List Char}
    (absent : arguments.length ≤ position) (quotes : Quotes arguments template text)
    : Quotes arguments (placeholder position ++ template) (placeholder position ++ text) := by
  rw [placeholder, List.cons_append, List.cons_append, List.cons_append]
  refine .kept ?_ (quotes.append_of_no_opening (opening_notMem_digits position))
  intro other present starts
  obtain ⟨after, same⟩ := starts
  have same' : placeholder other ++ after = placeholder position ++ template := by
    simpa [placeholder] using same
  have equal := (placeholder_append_inj same').1
  omega

end

------------------------------------------------------------------------------------------
-- Templates in pieces

/-- A piece of a template. -/
inductive Piece where
  | literal (c : Char)
  | argument (position : Nat)
  deriving DecidableEq

/-- What a piece comes to if values are put in for the arguments. -/
def Piece.text (values : Nat → List Char) : Piece → List Char
  | literal c => [c]
  | argument position => values position

/-- The text of a template, piece by piece. -/
def instantiate (values : Nat → List Char) (pieces : List Piece) : List Char :=
  pieces.flatMap (Piece.text values)

@[simp]
theorem instantiate_nil (values : Nat → List Char) : instantiate values [] = [] :=
  rfl

@[simp]
theorem instantiate_literal (values : Nat → List Char) (c : Char) (rest : List Piece)
    : instantiate values (.literal c :: rest) = c :: instantiate values rest :=
  rfl

@[simp]
theorem instantiate_argument (values : Nat → List Char) (position : Nat) (rest : List Piece)
    : instantiate values (.argument position :: rest)
      = values position ++ instantiate values rest :=
  rfl

/-- The pieces of a template whose placeholders have one digit each. -/
def readPieces : List Char → List Piece
  | '{' :: digit :: '}' :: rest =>
      let position := digit.toNat - '0'.toNat
      if placeholder position = ['{', digit, '}'] then
        .argument position :: readPieces rest
      else
        .literal '{' :: readPieces (digit :: '}' :: rest)
  | c :: rest => .literal c :: readPieces rest
  | [] => []

/-- A template consists of the pieces that it is read into, by the recursion of the reader. -/
theorem instantiate_readPieces (template : List Char)
    : instantiate placeholder (readPieces template) = template := by
  fun_induction readPieces template with
  | case1 digit rest position reads ih => rw [instantiate_argument, ih, reads]; rfl
  | case2 digit rest position _ ih => rw [instantiate_literal, ih]
  | case3 c rest _ ih => rw [instantiate_literal, ih]
  | case4 => rfl

/-- Arguments are separated by characters that no placeholder has. -/
def wellSpaced : List Piece → Bool
  | [] => true
  | .literal c :: rest => isPlain c && wellSpaced rest
  | .argument _ :: .argument _ :: _ => false
  | .argument _ :: rest => wellSpaced rest

/-- What follows an argument is well spaced again, and begins with a plain character if it is not
empty.
-/
theorem wellSpaced_argument {position : Nat} {rest : List Piece}
    (spaced : wellSpaced (.argument position :: rest))
    : wellSpaced rest
      ∧ (rest = [] ∨ ∃ c more, rest = .literal c :: more ∧ isPlain c) := by
  cases rest with
  | nil => exact ⟨rfl, .inl rfl⟩
  | cons next more =>
      cases next with
      | literal c =>
          have spaced' : wellSpaced (.literal c :: more) := spaced
          exact ⟨spaced', .inr ⟨c, more, rfl, (Bool.and_eq_true_iff.mp spaced').1⟩⟩
      | argument => cases spaced

section
variable {pieces : List Piece}

/-- One argument is replaced wherever its placeholder stands in the values, by induction on the
pieces.
-/
theorem replace_instantiate (spaced : wellSpaced pieces) (position : Nat) (filler : List Char)
    (values : Nat → List Char)
    : replace (placeholder position) filler (instantiate values pieces)
      = instantiate (fun other => replace (placeholder position) filler (values other)) pieces := by
  induction pieces with
  | nil => rfl
  | cons piece rest ih =>
      cases piece with
      | literal c =>
          obtain ⟨plain, spaced'⟩ := Bool.and_eq_true_iff.mp spaced
          have other : c ≠ '{' := by
            rintro rfl
            cases plain
          rw [instantiate_literal, instantiate_literal,
            replace_cons_of_not_pattern (not_placeholder_prefix_of_ne other _), ih spaced']
      | argument other =>
          obtain ⟨spaced', follows⟩ := wellSpaced_argument spaced
          have seam : ∀ c ∈ (instantiate values rest).head?, isPlain c := by
            rcases follows with rfl | ⟨c, more, rfl, plain⟩
            · nofun
            · simpa using plain
          rw [instantiate_argument, instantiate_argument, replace_append seam, ih spaced']

/-- Arguments are filled in wherever their placeholders stand in the values, by induction on the
arguments.
-/
theorem fillFrom_instantiate (spaced : wellSpaced pieces) (position : Nat)
    (arguments : List (List Char)) (values : Nat → List Char)
    : fillFrom position arguments (instantiate values pieces)
      = instantiate (fun other => fillFrom position arguments (values other)) pieces := by
  induction arguments generalizing position values with
  | nil => rfl
  | cons argument rest ih => rw [fillFrom, replace_instantiate spaced, ih]; rfl

end

------------------------------------------------------------------------------------------
-- What filling puts in

/-- What stands in a text for a placeholder: its argument, or else the placeholder itself. -/
def quoted (arguments : List (List Char)) (position : Nat) : List Char :=
  arguments[position]?.getD (placeholder position)

/-- The arguments as a filled template has them: each with the placeholders of later arguments
filled in turn.
-/
def refilled (arguments : List (List Char)) : List (List Char) :=
  arguments.zipIdx.map (fun (argument, position) =>
    fillFrom (position + 1) (arguments.drop (position + 1)) argument)

/-- The refilled argument at a position is the one that was given, filled with those that come after
it.
-/
theorem getElem?_refilled (arguments : List (List Char)) (position : Nat)
    : (refilled arguments)[position]?
      = arguments[position]?.map (fillFrom (position + 1) (arguments.drop (position + 1))) := by
  simp [refilled, List.getElem?_zipIdx, Function.comp_def]

/-- A placeholder is passed over until its argument comes, which is then filled with those behind
it; by induction on the arguments.
-/
theorem fillFrom_placeholder {first position : Nat} (ahead : first ≤ position)
    (arguments : List (List Char))
    : fillFrom first arguments (placeholder position)
      = (arguments[position - first]?.map
            (fillFrom (position + 1) (arguments.drop (position - first + 1)))).getD
          (placeholder position) := by
  induction arguments generalizing first with
  | nil => simp [fillFrom]
  | cons argument rest ih =>
      rw [fillFrom, replace_placeholder]
      by_cases now : first = position
      · subst now
        simp
      · obtain ⟨more, gap⟩ : ∃ more, position - first = more + 1 :=
          Nat.exists_eq_succ_of_ne_zero (by omega)
        have gap' : position - (first + 1) = more := by omega
        rw [if_neg now, ih (by omega), gap, gap']
        simp

/-- A filled template quotes its arguments as they are refilled.
Each argument is filled in wherever its placeholder stands, and those behind it go on to be filled
in within it.
-/
theorem fill_instantiate {pieces : List Piece} (spaced : wellSpaced pieces)
    (arguments : List (List Char))
    : fillFrom 0 arguments (instantiate placeholder pieces)
      = instantiate (quoted (refilled arguments)) pieces := by
  rw [fillFrom_instantiate spaced]
  congr 1
  funext position
  rw [fillFrom_placeholder (Nat.zero_le position), quoted, getElem?_refilled, Nat.sub_zero]

/-- The text that quotes the arguments of a well spaced template, by induction on its pieces.
A literal opens no placeholder, and an argument is quoted or, without a value, kept as its
placeholder.
-/
theorem quotes_instantiate {pieces : List Piece} (spaced : wellSpaced pieces)
    (arguments : List (List Char))
    : Quotes arguments (instantiate placeholder pieces) (instantiate (quoted arguments) pieces) := by
  induction pieces with
  | nil => exact .done
  | cons piece rest ih =>
      cases piece with
      | literal c =>
          obtain ⟨plain, spaced'⟩ := Bool.and_eq_true_iff.mp spaced
          have noOpening : '{' ∉ [c] := by
            intro opening
            obtain rfl := List.mem_singleton.mp opening
            cases plain
          exact (ih spaced').append_of_no_opening noOpening
      | argument position =>
          have more := ih (wellSpaced_argument spaced).1
          rw [instantiate_argument, instantiate_argument, quoted]
          cases found : arguments[position]? with
          | none => exact more.append_placeholder (List.getElem?_eq_none_iff.mp found)
          | some argument => exact .given rfl found more

------------------------------------------------------------------------------------------
-- When filling quotes

/-- No plain character of a text is lost when it is filled, by induction on the arguments. -/
theorem count_le_count_fillFrom {c : Char} (plain : isPlain c) (position : Nat)
    (arguments : List (List Char)) (text : List Char)
    : text.count c ≤ (fillFrom position arguments text).count c := by
  induction arguments generalizing position text with
  | nil => exact Nat.le_refl _
  | cons argument rest ih =>
      exact Nat.le_trans (count_le_count_replace plain text) (ih (position + 1) _)

/-- A refilled argument has all plain characters that it had, and so has a placeholder without an
argument.
-/
theorem count_quoted_le {c : Char} (plain : isPlain c) (arguments : List (List Char))
    (position : Nat)
    : (quoted arguments position).count c ≤ (quoted (refilled arguments) position).count c := by
  rw [quoted, quoted, getElem?_refilled]
  cases arguments[position]? with
  | none => exact Nat.le_refl _
  | some argument => exact count_le_count_fillFrom plain _ _ argument

section
variable {values values' : Nat → List Char}
  (keeps
    : ∀ {c}, isPlain c → ∀ position, (values position).count c ≤ (values' position).count c)
include keeps

/-- A text made of values that lose no plain character has at least those of the other one, by
induction on the pieces.
-/
theorem count_instantiate_le {c : Char} (plain : isPlain c) (pieces : List Piece)
    : (instantiate values pieces).count c ≤ (instantiate values' pieces).count c := by
  induction pieces with
  | nil => exact Nat.le_refl _
  | cons piece rest ih =>
      cases piece with
      | literal => simpa [List.count_cons] using ih
      | argument position =>
          simp only [instantiate_argument, List.count_append]
          exact Nat.add_le_add (keeps plain position) ih

/-- Values that lose no plain character give the same text only if they are the same: the character
behind each argument comes at the same place, since there is nowhere one more of it. By induction on
the pieces.
-/
theorem instantiate_eq_iff {pieces : List Piece} (spaced : wellSpaced pieces)
    : instantiate values' pieces = instantiate values pieces
      ↔ ∀ position, .argument position ∈ pieces → values' position = values position := by
  induction pieces with
  | nil => simp
  | cons piece rest ih =>
      cases piece with
      | literal c =>
          have spaced' := (Bool.and_eq_true_iff.mp spaced).2
          simp [ih spaced']
      | argument first =>
          obtain ⟨spaced', follows⟩ := wellSpaced_argument spaced
          have split
              : values' first ++ instantiate values' rest = values first ++ instantiate values rest
                ↔ values' first = values first
                  ∧ instantiate values' rest = instantiate values rest := by
            refine ⟨fun same => ?_, fun both => by rw [both.1, both.2]⟩
            rcases follows with rfl | ⟨c, more, rfl, plain⟩
            · exact ⟨by simpa using same, rfl⟩
            · simp only [instantiate_literal] at same ⊢
              have front := keeps plain first
              have behind := count_instantiate_le keeps plain more
              have total := congrArg (List.count c) same
              simp only [List.count_append, List.count_cons_self] at total
              obtain ⟨equal, equal'⟩ := append_cons_inj_of_count same (by omega)
              exact ⟨equal, by rw [equal']⟩
          rw [instantiate_argument, instantiate_argument, split, ih spaced']
          simp

end

/-- A filled template quotes its arguments exactly if those that it mentions are not changed when
they are refilled.
-/
theorem quotes_fill_iff {pieces : List Piece} (spaced : wellSpaced pieces)
    (arguments : List (List Char))
    : Quotes arguments (instantiate placeholder pieces)
          (fillFrom 0 arguments (instantiate placeholder pieces))
      ↔ ∀ position,
          .argument position ∈ pieces
          → (refilled arguments)[position]? = arguments[position]? := by
  have quotes := quotes_instantiate spaced arguments
  have faithful
      : Quotes arguments (instantiate placeholder pieces)
            (instantiate (quoted (refilled arguments)) pieces)
        ↔ instantiate (quoted (refilled arguments)) pieces
          = instantiate (quoted arguments) pieces :=
    ⟨fun h => h.unique quotes, fun same => same ▸ quotes⟩
  have same (position : Nat)
      : quoted (refilled arguments) position = quoted arguments position
        ↔ (refilled arguments)[position]? = arguments[position]? := by
    rw [quoted, quoted, getElem?_refilled]
    cases arguments[position]? <;> simp
  rw [fill_instantiate spaced, faithful,
    instantiate_eq_iff (fun plain => count_quoted_le plain arguments) spaced]
  simp only [same]

/-- An argument that has no placeholder of a later one is not changed; by induction on the later
ones.
-/
theorem fillFrom_of_absent {first : Nat} {arguments : List (List Char)} {text : List Char}
    (absent : ∀ later < arguments.length, ¬ placeholder (first + later) <:+: text)
    : fillFrom first arguments text = text := by
  induction arguments generalizing first with
  | nil => rfl
  | cons argument rest ih =>
      have now : ¬ placeholder first <:+: text := absent 0 (by simp)
      rw [fillFrom, replace_of_absent now]
      refine ih (fun later inside => ?_)
      have shifted := absent (later + 1) (by simpa using inside)
      rwa [Nat.add_assoc, Nat.add_comm 1 later]

end EntryPoints.Text
