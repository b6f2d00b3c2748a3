import EntryPoints.Diagnostic.Bag

/-! How a bag relates to a later one: it may grow by errors only, and it may gain an error. -/

namespace EntryPoints.DiagnosticBag

/-- Bags with the same records are the same. -/
theorem eq_of_toList_eq {bag other : DiagnosticBag} (same : bag.toList = other.toList)
    : bag = other :=
  congrArg DiagnosticBag.mk (Array.toList_inj.mp same)

/-- A bag that another diagnostic is put into is not what it was, since it holds one more. -/
theorem push_ne (bag : DiagnosticBag) (diagnostic : Diagnostic)
    : bag.push diagnostic ≠ bag := by
  intro same
  have sizes := congrArg (fun bag => bag.toList.length) same
  simp at sizes

/-- The later bag has the records of the earlier one and then only errors. -/
def GrowsByErrors (earlier later : DiagnosticBag) : Prop :=
  ∃ appended : List Diagnostic,
    later.toList = earlier.toList ++ appended
    ∧ ∀ diagnostic ∈ appended, diagnostic.isError

/-- The later bag has the records of the earlier one and then at least one error. -/
def GainsError (earlier later : DiagnosticBag) : Prop :=
  ∃ appended : List Diagnostic,
    later.toList = earlier.toList ++ appended
    ∧ ∃ diagnostic ∈ appended, diagnostic.isError

/-- No bag gains an error over itself, as nothing is appended to it. -/
theorem not_gainsError_self (bag : DiagnosticBag) : ¬ bag.GainsError bag := by
  rintro ⟨appended, records, diagnostic, member, _⟩
  have bare : appended = [] := List.self_eq_append_right.mp records
  simp [bare] at member

namespace GrowsByErrors

/-- A bag grows into itself by no errors at all. -/
theorem refl (bag : DiagnosticBag) : bag.GrowsByErrors bag :=
  ⟨[], by simp, by simp⟩

/-- Errors that are reported one after the other are all appended to the first bag. -/
theorem trans {first second third : DiagnosticBag} (h : first.GrowsByErrors second)
    (h' : second.GrowsByErrors third)
    : first.GrowsByErrors third := by
  obtain ⟨earlier, records, errors⟩ := h
  obtain ⟨later, records', errors'⟩ := h'
  refine ⟨earlier ++ later, by rw [records', records, List.append_assoc], ?_⟩
  intro diagnostic member
  rcases List.mem_append.mp member with member | member
  · exact errors diagnostic member
  · exact errors' diagnostic member

/-- Whatever is placed is reported as an error, so a bag grows by that error only. -/
theorem push_placed (bag : DiagnosticBag) (info : DiagnosticInfo) (location : Location)
    : bag.GrowsByErrors (bag.push (info.placed location)) :=
  ⟨[info.placed location], by simp, by simp [DiagnosticInfo.placed, Diagnostic.isError]⟩

/-- A bag that grows by errors only is unchanged exactly if it gains none.
What it grows by is a list of errors, which is empty or has a first one.
-/
theorem not_gainsError_iff {earlier later : DiagnosticBag}
    (errors : earlier.GrowsByErrors later)
    : ¬ earlier.GainsError later ↔ later = earlier := by
  constructor
  · intro gainless
    obtain ⟨appended, records, errors⟩ := errors
    cases appended with
    | nil => exact eq_of_toList_eq (by simpa using records)
    | cons first rest =>
        exact absurd ⟨_, records, first, by simp, errors first (by simp)⟩ gainless
  · rintro rfl
    exact not_gainsError_self _

end GrowsByErrors

end EntryPoints.DiagnosticBag
