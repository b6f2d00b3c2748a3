import EntryPoints.Proofs.Json.Scanning

/-! The tokens of a value build its reading, so a text that holds the value is read as the value. -/

namespace EntryPoints.Json

------------------------------------------------------------------------------------------
-- Between two scalars there is another token

namespace Separate

/-- A token that is no scalar may come before any tokens: it is only scalars that need something
between them.
-/
theorem cons {token : Token} {tokens : List Token} (structural : token.isScalar = false)
    (separate : Separate tokens)
    : Separate (token :: tokens) := by
  cases tokens with
  | nil => exact .singleton token
  | cons next rest => exact .cons_cons (by simp [structural]) separate

/-- Tokens may follow others if they do not begin with a scalar, whatever the others end with. -/
theorem append {first second : List Token} (separate : Separate first)
    (separate' : Separate second)
    (structural : ∀ token ∈ second.head?, token.isScalar = false)
    : Separate (first ++ second) :=
  List.isChain_append.mpr ⟨separate, separate', fun _ _ next head _ => structural next head⟩

/-- A key is followed by its colon, and anything may come after that. -/
theorem key {content : Scalar} {tokens : List Token} (separate : Separate tokens)
    : Separate (.scalar content :: .colon :: tokens) :=
  .cons_cons (fun _ => rfl) (separate.cons rfl)

end Separate

/-- What comes behind an item is a comma or the closing bracket. -/
theorem head?_itemTokens (items : List Value)
    : ∀ token ∈ (Value.itemTokens items ++ [Token.closeBracket]).head?,
        token.isScalar = false := by
  cases items <;> simp [Value.itemTokens, Token.isScalar]

/-- What comes behind a field is a comma or the closing brace. -/
theorem head?_fieldTokens (fields : List (String × Value))
    : ∀ token ∈ (Value.fieldTokens fields ++ [Token.closeBrace]).head?,
        token.isScalar = false := by
  cases fields <;> simp [Value.fieldTokens, Token.isScalar]

mutual
/-- In the tokens of a value no two scalars follow each other.
By recursion on the value, together with its items and its fields: what follows a value within
another one is a comma or a closing bracket.
-/
theorem Value.separate_tokens : (value : Value) → Separate value.tokens
  | .scalar content => .singleton _
  | .array [] => Separate.cons rfl (.singleton _)
  | .array (first :: rest) => by
      rw [Value.tokens, List.append_assoc]
      exact Separate.cons rfl
        (first.separate_tokens.append (Value.separate_itemTokens rest) (head?_itemTokens rest))
  | .object [] => Separate.cons rfl (.singleton _)
  | .object ((key, value) :: rest) => by
      rw [Value.tokens, List.append_assoc, List.append_assoc]
      refine Separate.cons rfl (Separate.key ?_)
      exact value.separate_tokens.append (Value.separate_fieldTokens rest) (head?_fieldTokens rest)

/-- Neither do they in the tokens of the items behind a value, which begin with a comma each. -/
theorem Value.separate_itemTokens
    : (items : List Value) → Separate (Value.itemTokens items ++ [.closeBracket])
  | [] => .singleton _
  | value :: rest => by
      rw [Value.itemTokens, List.append_assoc]
      exact Separate.cons rfl
        (value.separate_tokens.append (Value.separate_itemTokens rest) (head?_itemTokens rest))

/-- Nor in those of the fields, where a key is a scalar too and has its colon behind it. -/
theorem Value.separate_fieldTokens
    : (fields : List (String × Value)) → Separate (Value.fieldTokens fields ++ [.closeBrace])
  | [] => .singleton _
  | (key, value) :: rest => by
      rw [Value.fieldTokens, List.append_assoc, List.append_assoc]
      refine Separate.cons rfl (Separate.key ?_)
      exact value.separate_tokens.append (Value.separate_fieldTokens rest) (head?_fieldTokens rest)
end

------------------------------------------------------------------------------------------
-- Building

/-- The first token of a value does not close an array, so a builder that waits for the first item
goes on as one that waits for any; by cases on the value.
-/
theorem Value.foldl_firstItem (value : Value) (around : List Frame)
    : value.tokens.foldl Builder.feed (.firstItem around)
      = value.tokens.foldl Builder.feed (.value (.item [] :: around)) := by
  match value with
  | .scalar _ | .array [] | .array (_ :: _) | .object [] | .object (_ :: _) => rfl

mutual
/-- The tokens of a value complete it within whatever is around, if it does not nest too deeply
there.
By recursion on the value: an array or an object opens one more level, is filled by its parts, and
is completed by its last token, where the next lemmas leave it.
-/
theorem Value.foldl_tokens
    : (value : Value) → (around : List Frame)
      → around.length + value.depth ≤ Builder.maxDepth
      → value.tokens.foldl Builder.feed (.value around) = Builder.complete around (.ofValue value)
  | .scalar content, around, _ => rfl
  | .array [], around, shallow => by
      have room : around.length < Builder.maxDepth := by
        rw [Value.depth] at shallow
        omega
      simp [Value.tokens, Builder.feed, Builder.start, room, Reading.ofValue, Reading.ofValues]
  | .array (first :: rest), around, shallow => by
      rw [Value.depth, Value.itemDepth] at shallow
      have room : around.length < Builder.maxDepth := by omega
      have opened : Builder.feed (.value around) .openBracket = .firstItem around := by
        simp [Builder.feed, Builder.start, room]
      rw [Value.tokens, List.append_assoc, List.cons_append, List.foldl_cons, opened,
        List.foldl_append, Value.foldl_firstItem, first.foldl_tokens (.item [] :: around)
        (by simp only [List.length_cons]; omega)]
      exact Value.foldl_itemTokens rest [.ofValue first] around (by omega)
  | .object [], around, shallow => by
      have room : around.length < Builder.maxDepth := by
        rw [Value.depth] at shallow
        omega
      simp [Value.tokens, Builder.feed, Builder.start, room, Reading.ofValue, Reading.ofFields]
  | .object ((key, value) :: rest), around, shallow => by
      rw [Value.depth, Value.fieldDepth] at shallow
      have room : around.length < Builder.maxDepth := by omega
      have opened
          : [.openBrace, .scalar (.string key), .colon].foldl Builder.feed (.value around)
            = .value (.field [] key :: around) := by
        simp [Builder.feed, Builder.start, room, Builder.readKey]
      rw [Value.tokens, List.append_assoc, List.append_assoc, List.foldl_append, opened,
        List.foldl_append, value.foldl_tokens (.field [] key :: around)
        (by simp only [List.length_cons]; omega)]
      exact Value.foldl_fieldTokens rest [(key, .ofValue value)] around (by omega)

/-- The items behind a value are added to those before them, and the bracket completes the array.
By recursion on the items; earlier ones are kept last first, as the builder has them.
-/
theorem Value.foldl_itemTokens
    : (items : List Value) → (earlier : List Reading) → (around : List Frame)
      → around.length + 1 + Value.itemDepth items ≤ Builder.maxDepth
      → (Value.itemTokens items ++ [Token.closeBracket]).foldl Builder.feed
          (.afterItem earlier around)
        = Builder.complete around (.array (earlier.reverse ++ Reading.ofValues items) .closed)
  | [], earlier, around, _ => by
      simp [Value.itemTokens, Builder.feed, Reading.ofValues]
  | value :: rest, earlier, around, shallow => by
      rw [Value.itemDepth] at shallow
      have separated
          : Builder.feed (.afterItem earlier around) .comma = .value (.item earlier :: around) :=
        rfl
      rw [Value.itemTokens, List.append_assoc, List.cons_append, List.foldl_cons, separated,
        List.foldl_append, value.foldl_tokens (.item earlier :: around)
        (by simp only [List.length_cons]; omega)]
      have rest := Value.foldl_itemTokens rest (.ofValue value :: earlier) around (by omega)
      simpa [Builder.complete, Reading.ofValues] using rest

/-- The fields behind a value are added in the same way, each with the key that stands before it.
By recursion on the fields, together with values and items: the comma, the key and the colon open a
frame for the field, and its value completes it.
-/
theorem Value.foldl_fieldTokens
    : (fields : List (String × Value)) → (earlier : List (String × Reading))
      → (around : List Frame) → around.length + 1 + Value.fieldDepth fields ≤ Builder.maxDepth
      → (Value.fieldTokens fields ++ [Token.closeBrace]).foldl Builder.feed
          (.afterField earlier around)
        = Builder.complete around (.object (earlier.reverse ++ Reading.ofFields fields) .closed)
  | [], earlier, around, _ => by
      simp [Value.fieldTokens, Builder.feed, Reading.ofFields]
  | (key, value) :: rest, earlier, around, shallow => by
      rw [Value.fieldDepth] at shallow
      have separated
          : [.comma, .scalar (.string key), .colon].foldl Builder.feed (.afterField earlier around)
            = .value (.field earlier key :: around) :=
        rfl
      rw [Value.fieldTokens, List.append_assoc, List.append_assoc, List.foldl_append, separated,
        List.foldl_append, value.foldl_tokens (.field earlier key :: around)
        (by simp only [List.length_cons]; omega)]
      have rest := Value.foldl_fieldTokens rest ((key, .ofValue value) :: earlier) around (by omega)
      simpa [Builder.complete, Reading.ofFields] using rest
end

/-- A text that holds a value is read as the value, with nothing behind it.
The scanner feeds the builder the tokens of the value, which complete it, and the end of the text
leaves a builder that is finished as it is.
-/
theorem Value.WrittenIn.read_eq {value : Value} {text : String} (written : value.WrittenIn text)
    : read text = (.ofValue value, false) := by
  have settled :=
    written.spelled.scan value.separate_tokens (.between (.value [])) (fun _ _ _ => rfl)
  have built : value.tokens.foldl Builder.feed (.value []) = .finished (.ofValue value) false :=
    value.foldl_tokens [] (by simpa using written.shallow)
  rw [built] at settled
  exact settled.finish_eq

end EntryPoints.Json
