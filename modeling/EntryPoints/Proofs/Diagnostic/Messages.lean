import EntryPoints.Proofs.Text.Templates
import EntryPoints.Vocabulary.DiagnosticCode

/-! Messages of diagnostics quote what they are about, unless an argument brings along the
placeholder of a later one: that is filled as well.
-/

namespace EntryPoints.DiagnosticCode

open Text

/-- In every template a plain character or the end follows each argument, by cases on the codes. -/
theorem wellSpaced_template (code : DiagnosticCode)
    : wellSpaced (readPieces code.info.template.toList) := by
  cases code <;> rw [info, String.toList_ofList] <;> rfl

/-- A template mentions as many arguments as its code expects.
By cases on the codes, whose templates are read into pieces.
-/
theorem argument_mem_template_iff (code : DiagnosticCode) (position : Nat)
    : .argument position ∈ readPieces code.info.template.toList ↔ position < code.info.arity := by
  cases code with
  | missingPredefinedMember =>
      rw [info, String.toList_ofList]
      simp [readPieces, placeholder, Nat.toDigits_of_lt_base, Nat.digitChar]
      omega
  | predefinedTypeNotFound =>
      rw [info, String.toList_ofList]
      simp [readPieces, placeholder, Nat.toDigits_of_lt_base, Nat.digitChar]
  | bogusType =>
      rw [info, String.toList_ofList]
      simp [readPieces, placeholder, Nat.toDigits_of_lt_base, Nat.digitChar]

/-- A message is the template of its code with the arguments filled in, character by character. -/
theorem message_toList (code : DiagnosticCode) (arguments : List String)
    : (code.message arguments).toList
      = fillFrom 0 (arguments.map String.toList) code.info.template.toList := by
  rw [message, fill, String.toList_ofList]

/-- The message is the template of the code with each argument in the place of its placeholder, and
nothing else changed.
-/
def MessageQuotes (code : DiagnosticCode) (arguments : List (List Char)) (message : String)
    : Prop :=
  Quotes arguments code.info.template.toList message.toList

/-- A message quotes its arguments as they are refilled, so it quotes them as they are exactly if
that leaves those as they are that the template mentions; in particular if none of these has the
placeholder of a later one.
-/
theorem message_quotes (code : DiagnosticCode) (arguments : List String)
    : code.MessageQuotes (refilled (arguments.map String.toList)) (code.message arguments)
      ∧ (code.MessageQuotes (arguments.map String.toList) (code.message arguments)
        ↔ ∀ position < code.info.arity,
            (refilled (arguments.map String.toList))[position]?
            = (arguments.map String.toList)[position]?)
      ∧ ((∀ position < code.info.arity,
            ∀ argument ∈ arguments[position]?,
              ∀ later < arguments.length,
                position < later → ¬ placeholder later <:+: argument.toList)
        → code.MessageQuotes (arguments.map String.toList) (code.message arguments)) := by
  have spaced := code.wellSpaced_template
  have refills := fill_instantiate spaced (arguments.map String.toList)
  have quotes := quotes_instantiate spaced (refilled (arguments.map String.toList))
  have exact_iff := quotes_fill_iff spaced (arguments.map String.toList)
  simp only [instantiate_readPieces, argument_mem_template_iff] at refills quotes exact_iff
  simp only [MessageQuotes, message_toList]
  refine ⟨refills ▸ quotes, exact_iff, fun absent => exact_iff.mpr (fun position mentioned => ?_)⟩
  rw [getElem?_refilled, List.getElem?_map]
  cases found : arguments[position]? with
  | none => rfl
  | some argument =>
      refine congrArg some (fillFrom_of_absent (fun later inside => ?_))
      have inside' : position + 1 + later < arguments.length := by
        simp only [List.length_drop, List.length_map] at inside
        omega
      exact absent position mentioned argument found _ inside' (by omega)

/-- Arguments that look like placeholders are quoted all the same if their turn has passed. -/
theorem message_quotes_passedPlaceholders
    : missingPredefinedMember.MessageQuotes ["\x7b0\x7d".toList, "\x7b1\x7d".toList]
          (missingPredefinedMember.message ["\x7b0\x7d", "\x7b1\x7d"])
      ∧ missingPredefinedMember.message ["\x7b0\x7d", "\x7b1\x7d"]
        = "Missing compiler required member '\x7b0\x7d.\x7b1\x7d'" := by
  refine ⟨(message_quotes .missingPredefinedMember ["\x7b0\x7d", "\x7b1\x7d"]).2.2 ?_, ?_⟩
  · decide
  · rw [← String.toList_inj, message_toList, info, List.map_cons, List.map_singleton]
    repeat rw [String.toList_ofList]
    decide

/-- A type whose name has the placeholder of the member is not quoted: the member is put into its
name as well.
-/
theorem message_of_bracedType_rewritten
    : ¬ missingPredefinedMember.MessageQuotes ["\x7b1\x7d".toList, "GetAwaiter".toList]
          (missingPredefinedMember.message ["\x7b1\x7d", "GetAwaiter"])
      ∧ missingPredefinedMember.message ["\x7b1\x7d", "GetAwaiter"]
        = "Missing compiler required member 'GetAwaiter.GetAwaiter'" := by
  refine ⟨fun quotes => ?_, ?_⟩
  · have faithful :=
      quotes_instantiate missingPredefinedMember.wellSpaced_template
        ["\x7b1\x7d".toList, "GetAwaiter".toList]
    rw [instantiate_readPieces] at faithful
    have same := Quotes.unique quotes faithful
    rw [message_toList, info, List.map_cons, List.map_singleton] at same
    repeat rw [String.toList_ofList] at same
    revert same
    decide
  · rw [← String.toList_inj, message_toList, info, List.map_cons, List.map_singleton]
    repeat rw [String.toList_ofList]
    decide

end EntryPoints.DiagnosticCode
