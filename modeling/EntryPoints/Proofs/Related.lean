import Mathlib.Data.List.Forall2
import Mathlib.Data.List.Perm.Basic

/-! Mapped results, options and lists whose elements are related, position by position, and what
lists gather from their items.
-/

namespace EntryPoints

/-- A mapped result that is fine was made of a fine one, since mapping leaves errors as they are. -/
theorem exists_of_map_eq_ok {ε α β : Type} {result : Except ε α} {make : α → β} {made : β}
    (mapped : result.map make = .ok made)
    : ∃ value, result = .ok value ∧ make value = made := by
  cases result with
  | error error => cases mapped
  | ok value => exact ⟨value, rfl, Except.ok.inj mapped⟩

/-- A mapped result that failed had failed before: only what is fine is mapped. -/
theorem eq_error_of_map_eq_error {ε α β : Type} {result : Except ε α} {make : α → β} {error : ε}
    (mapped : result.map make = .error error)
    : result = .error error := by
  cases result with
  | error other => exact congrArg Except.error (Except.error.inj mapped)
  | ok value => cases mapped

------------------------------------------------------------------------------------------
-- Options

section
variable {α β : Type} {related : α → β → Prop} {left : Option α} {right : Option β}

/-- Of two related options both are there or neither is. -/
theorem optionRel_isSome (h : Option.Rel related left right) : left.isSome = right.isSome := by
  cases h <;> rfl

/-- Options stay related under every relation that holds of what was related, since none is related
to none whatever the relation.
-/
theorem optionRel_imp {wider : α → β → Prop}
    (imp : ∀ first second, related first second → wider first second)
    (h : Option.Rel related left right)
    : Option.Rel wider left right := by
  cases h with
  | none => exact .none
  | some pair => exact .some (imp _ _ pair)

/-- Filters that agree on what is related leave it related.
Both values are kept or both are dropped, as the filters decide alike.
-/
theorem optionRel_filter {keep : α → Bool} {keep' : β → Bool}
    (agree : ∀ first second, related first second → keep first = keep' second)
    (h : Option.Rel related left right)
    : Option.Rel related (left.filter keep) (right.filter keep') := by
  cases h with
  | none => exact .none
  | some pair =>
      rw [Option.filter_some, Option.filter_some, agree _ _ pair]
      split
      · exact .some pair
      · exact .none

end

/-- Options that are both related to a third one are related.
If the third one is none, so are both; otherwise the values of all three are there to be joined.
-/
theorem optionRel_of_common {α β γ : Type} {first : α → β → Prop} {second : α → γ → Prop}
    {joined : β → γ → Prop}
    (join : ∀ common left right, first common left → second common right → joined left right)
    {common : Option α} {left : Option β} {right : Option γ} (h : Option.Rel first common left)
    (h' : Option.Rel second common right)
    : Option.Rel joined left right := by
  cases h with
  | none =>
      cases h'
      exact .none
  | some pair =>
      cases h' with
      | some pair' => exact .some (join _ _ _ pair pair')

------------------------------------------------------------------------------------------
-- Lists

section
variable {α β : Type} {related : α → β → Prop} {left : List α} {right : List β}

/-- Numbering keeps two lists related, and gives related items the same number.
By induction on the lists, for any number to start with.
-/
theorem forall₂_zipIdx (h : List.Forall₂ related left right) (start : Nat)
    : List.Forall₂
        (fun (first : α × Nat) (second : β × Nat) =>
          related first.1 second.1 ∧ second.2 = first.2)
        (left.zipIdx start) (right.zipIdx start) := by
  induction h generalizing start with
  | nil => exact .nil
  | cons pair _ ih => exact .cons ⟨pair, rfl⟩ (ih (start + 1))

/-- What is in the second of two related lists is related to something in the first.
By induction on the lists: it stands at the front of both, or behind it in both.
-/
theorem exists_of_mem_right (h : List.Forall₂ related left right) {second : β}
    (listed : second ∈ right)
    : ∃ first ∈ left, related first second := by
  induction h with
  | nil => cases listed
  | @cons first other left right pair _ ih =>
      rcases List.mem_cons.mp listed with rfl | later
      · exact ⟨first, List.mem_cons_self, pair⟩
      · obtain ⟨found, member, pair⟩ := ih later
        exact ⟨found, List.mem_cons_of_mem _ member, pair⟩

/-- Searches that find alike in what is related do so in related lists.
By induction on the lists, with two cases for what the search makes of the first items: both find
something there, or both go on.
-/
theorem forall₂_findSome? {γ δ : Type} {alike : γ → δ → Prop} {pick : α → Option γ}
    {pick' : β → Option δ}
    (picks : ∀ {first second}, related first second → Option.Rel alike (pick first) (pick' second))
    (h : List.Forall₂ related left right)
    : Option.Rel alike (left.findSome? pick) (right.findSome? pick') := by
  induction h with
  | nil => exact .none
  | @cons first second _ _ pair _ ih =>
      have picked := picks pair
      rw [List.findSome?_cons, List.findSome?_cons]
      generalize pick first = found at picked
      generalize pick' second = found' at picked
      cases picked with
      | none => exact ih
      | some alike => exact .some alike

end

/-- Searching what items gather comes to searching what each of them gathers.
By induction on the items: a search through two lists in a row goes on in the second one only if the
first has nothing.
-/
theorem findSome?_flatMap {α β γ : Type} (gather : α → List β) (pick : β → Option γ)
    (items : List α)
    : (items.flatMap gather).findSome? pick
      = items.findSome? (fun item => (gather item).findSome? pick) := by
  induction items with
  | nil => rfl
  | cons item rest ih =>
      rw [List.flatMap_cons, List.findSome?_append, List.findSome?_cons, ih]
      cases (gather item).findSome? pick <;> rfl

/-- Where one item gathers more, the list gathers as much more, in some order, by induction on the
list up to the position of that item.
-/
theorem flatMap_modify_perm {α β : Type} {gather : α → List β} {change : α → α}
    {added : List β} (gathers : ∀ item, gather (change item) = gather item ++ added)
    {items : List α} {position : Nat} (inside : position < items.length)
    : ((items.modify position change).flatMap gather).Perm (items.flatMap gather ++ added) := by
  induction items generalizing position with
  | nil => cases inside
  | cons item rest ih =>
      cases position with
      | zero =>
          simp only [List.modify_zero_cons, List.flatMap_cons, gathers, List.append_assoc]
          exact List.perm_append_comm.append_left _
      | succ position =>
          simp only [List.modify_succ_cons, List.flatMap_cons, List.append_assoc]
          exact (ih (Nat.lt_of_succ_lt_succ inside)).append_left _

/-- Lists that are both related to a third one are related, position by position.
By induction on the third list, whose length both of them share.
-/
theorem forall₂_of_common {α β γ : Type} {first : α → β → Prop} {second : α → γ → Prop}
    {joined : β → γ → Prop}
    (join : ∀ common left right, first common left → second common right → joined left right)
    {common : List α} {left : List β} {right : List γ} (h : List.Forall₂ first common left)
    (h' : List.Forall₂ second common right)
    : List.Forall₂ joined left right := by
  induction h generalizing right with
  | nil =>
      cases h'
      exact .nil
  | cons pair _ ih =>
      cases h' with
      | cons pair' rest => exact .cons (join _ _ _ pair pair') (ih rest)

end EntryPoints
