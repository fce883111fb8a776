/-
Module: PlaybookServer.Proofs.Text.Trim
Purpose: What trimming leaves alone. Nothing is dropped from a text whose end does not belong to what is dropped, and
  a line with text at both its ends is its own trimmed form.
Main exports: dropEndWhile_eq_self_iff, getLast?_trimEnd, trim_eq_self, isBlankLine_eq_false_iff
-/
import PlaybookServer.Text.Blank
import Mathlib.Data.List.DropRight

namespace PlaybookServer.Text

variable {p : Char → Bool} {cs : List Char}

theorem isBlankLine_eq_false_iff : isBlankLine cs = false ↔ ∃ c ∈ cs, isBlank c = false := by
  simp [isBlankLine]

theorem isBlankLine_of_getLast? {c : Char} (last : cs.getLast? = some c) (text : isBlank c = false) :
    isBlankLine cs = false :=
  isBlankLine_eq_false_iff.2 ⟨c, List.mem_of_getLast? last, text⟩

theorem dropEndWhile_eq_self_iff : dropEndWhile p cs = cs ↔ ∀ c ∈ cs.getLast?, p c = false := by
  show cs.rdropWhile p = cs ↔ _
  rw [List.rdropWhile_eq_self_iff]
  cases cs with
  | nil => simp
  | cons c cs => simp [List.getLast?_cons, List.getLast_eq_getLastD]

/-- A trimmed text ends in text. -/
theorem getLast?_trimEnd : ∀ c ∈ (trimEnd cs).getLast?, isBlank c = false := by
  have twice : trimEnd (trimEnd cs) = trimEnd cs := List.rdropWhile_idempotent isBlank cs
  exact dropEndWhile_eq_self_iff.1 twice

/-- A line with no whitespace at its ends is trimmed to itself. -/
theorem trim_eq_self (first : ∀ c ∈ cs.head?, isBlank c = false) (last : ∀ c ∈ cs.getLast?, isBlank c = false) :
    trim cs = cs := by
  have start : trimStart cs = cs := by
    cases cs with
    | nil => rfl
    | cons c cs => exact List.dropWhile_cons_of_neg (by simp [first c rfl])
  rw [trim, start]
  exact dropEndWhile_eq_self_iff.2 last

end PlaybookServer.Text
