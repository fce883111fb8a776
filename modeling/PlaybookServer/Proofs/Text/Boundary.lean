/-
Module: PlaybookServer.Proofs.Text.Boundary
Purpose: Byte offsets between characters are the lengths of the beginnings of a text. To take, to drop and to cut out
  bytes at such offsets is to split the text there.
Main exports: byteLength_append, isBoundary_iff, dropBytes_byteLength, takeBytes_byteLength, Span.slice_between,
  unitLength_append, unitLength_le_byteLength
-/
import PlaybookServer.Text.LineMap

namespace PlaybookServer.Text

/-! ### Lengths -/

@[simp] theorem byteLength_nil : byteLength [] = 0 := rfl

@[simp] theorem byteLength_cons (c : Char) (cs : List Char) : byteLength (c :: cs) = c.utf8Size + byteLength cs := rfl

@[simp] theorem byteLength_append (cs ds : List Char) : byteLength (cs ++ ds) = byteLength cs + byteLength ds := by
  induction cs with
  | nil => simp
  | cons c cs ih => simp [ih, Nat.add_assoc]

theorem byteLength_pos {cs : List Char} (h : cs ≠ []) : 0 < byteLength cs := by
  cases cs with
  | nil => exact absurd rfl h
  | cons c cs =>
      have hc := c.utf8Size_pos
      rw [byteLength_cons]
      omega

@[simp] theorem unitLength_nil : unitLength [] = 0 := rfl

@[simp] theorem unitLength_cons (c : Char) (cs : List Char) : unitLength (c :: cs) = units c + unitLength cs := rfl

@[simp] theorem unitLength_append (cs ds : List Char) : unitLength (cs ++ ds) = unitLength cs + unitLength ds := by
  induction cs with
  | nil => simp
  | cons c cs ih => simp [ih, Nat.add_assoc]

theorem units_pos (c : Char) : 0 < units c := by
  unfold units
  split <;> omega

theorem unitLength_pos {cs : List Char} (h : cs ≠ []) : 0 < unitLength cs := by
  cases cs with
  | nil => exact absurd rfl h
  | cons c cs =>
      have hc := units_pos c
      rw [unitLength_cons]
      omega

/-- A character of two units takes four bytes. -/
theorem units_le_utf8Size (c : Char) : units c ≤ c.utf8Size := by
  have hpos := c.utf8Size_pos
  unfold units
  split
  next => exact hpos
  next hlarge =>
      have hval : c.val.toNat = c.toNat := rfl
      simp only [Char.utf8Size, UInt32.le_iff_toNat_le, hval]
      rw [if_neg (by simp; omega), if_neg (by simp; omega), if_neg (by simp; omega)]
      omega

/-- A text has at most as many units as bytes. -/
theorem unitLength_le_byteLength (cs : List Char) : unitLength cs ≤ byteLength cs := by
  induction cs with
  | nil => exact Nat.le_refl _
  | cons c cs ih => exact Nat.add_le_add (units_le_utf8Size c) ih

theorem length_le_byteLength (cs : List Char) : cs.length ≤ byteLength cs := by
  induction cs with
  | nil => exact Nat.le_refl _
  | cons c cs ih =>
      have hc := c.utf8Size_pos
      rw [List.length_cons, byteLength_cons]
      omega

/-! ### Splits -/

@[simp] theorem dropBytes_byteLength (pre rest : List Char) : dropBytes (byteLength pre) (pre ++ rest) = rest := by
  induction pre with
  | nil => cases rest <;> rfl
  | cons c pre ih =>
      have hc := c.utf8Size_pos
      rw [List.cons_append, dropBytes, byteLength_cons, if_neg (by omega), Nat.add_sub_cancel_left, ih]

@[simp] theorem takeBytes_byteLength (pre rest : List Char) : takeBytes (byteLength pre) (pre ++ rest) = pre := by
  induction pre with
  | nil =>
      cases rest with
      | nil => rfl
      | cons c rest =>
          have hc := c.utf8Size_pos
          rw [byteLength_nil, List.nil_append, takeBytes, if_neg (by omega)]
  | cons c pre ih =>
      rw [List.cons_append, takeBytes, byteLength_cons, if_pos (Nat.le_add_right _ _), Nat.add_sub_cancel_left, ih]

theorem takeBytes_of_byteLength_le {n : Nat} {cs : List Char} (h : byteLength cs ≤ n) : takeBytes n cs = cs := by
  induction cs generalizing n with
  | nil => rfl
  | cons c cs ih =>
      rw [byteLength_cons] at h
      rw [takeBytes, if_pos (by omega), ih (by omega)]

theorem isBoundary_append (pre rest : List Char) (n : Nat) :
    isBoundary (byteLength pre + n) (pre ++ rest) = isBoundary n rest := by
  induction pre with
  | nil => rw [byteLength_nil, Nat.zero_add, List.nil_append]
  | cons c pre ih =>
      have hc := c.utf8Size_pos
      rw [List.cons_append, isBoundary, byteLength_cons, Nat.add_assoc, Nat.add_sub_cancel_left, ih]
      simp only [Nat.le_add_right, decide_true, Bool.true_and, Bool.or_eq_right_iff_imp, decide_eq_true_eq]
      omega

@[simp] theorem isBoundary_byteLength (pre rest : List Char) : isBoundary (byteLength pre) (pre ++ rest) = true := by
  have h := isBoundary_append pre rest 0
  rw [Nat.add_zero] at h
  rw [h]
  cases rest <;> rfl

/-- The boundaries of a text are the lengths of its beginnings. -/
theorem isBoundary_iff {n : Nat} {text : List Char} : isBoundary n text = true ↔
    ∃ pre rest, text = pre ++ rest ∧ byteLength pre = n := by
  constructor
  · intro h
    induction text generalizing n with
    | nil => exact ⟨[], [], rfl, by simpa [isBoundary, eq_comm] using h⟩
    | cons c text ih =>
        simp only [isBoundary, Bool.or_eq_true, Bool.and_eq_true, decide_eq_true_eq] at h
        rcases h with rfl | ⟨hc, h⟩
        · exact ⟨[], c :: text, rfl, rfl⟩
        · obtain ⟨pre, rest, rfl, hpre⟩ := ih h
          refine ⟨c :: pre, rest, rfl, ?_⟩
          rw [byteLength_cons]
          omega
  · rintro ⟨pre, rest, rfl, rfl⟩
    exact isBoundary_byteLength pre rest

theorem dropBytes?_eq_some_iff {n : Nat} {text rest : List Char} : dropBytes? n text = some rest ↔
    ∃ pre, text = pre ++ rest ∧ byteLength pre = n := by
  constructor
  · intro h
    rw [dropBytes?] at h
    split at h
    next boundary =>
        obtain ⟨pre, rest', rfl, rfl⟩ := isBoundary_iff.1 boundary
        rw [dropBytes_byteLength] at h
        exact ⟨pre, by rw [Option.some.inj h], rfl⟩
    next => cases h
  · rintro ⟨pre, rfl, rfl⟩
    rw [dropBytes?, if_pos (isBoundary_byteLength pre rest), dropBytes_byteLength]

theorem prefix_takeBytes (n : Nat) (cs : List Char) : takeBytes n cs <+: cs := by
  induction cs generalizing n with
  | nil => exact List.prefix_rfl
  | cons c cs ih =>
      rw [takeBytes]
      split
      next => exact List.cons_prefix_cons.2 ⟨rfl, ih _⟩
      next => exact List.nil_prefix

/-- What stands between two beginnings of a text. -/
@[simp] theorem Span.slice_between (before mid rest : List Char) :
    Span.slice ⟨byteLength before, byteLength before + byteLength mid⟩ (before ++ (mid ++ rest)) = mid := by
  rw [Span.slice, Nat.add_sub_cancel_left, dropBytes_byteLength, takeBytes_byteLength]

/-- Of two beginnings of a text the one with no more bytes is a beginning of the other. -/
theorem prefix_of_byteLength_le {text p q : List Char} (hp : p <+: text) (hq : q <+: text)
    (hle : byteLength p ≤ byteLength q) : p <+: q := by
  rcases List.prefix_or_prefix_of_prefix hp hq with h | ⟨rest, rfl⟩
  · exact h
  · by_cases hrest : rest = []
    · simp only [hrest, List.append_nil, List.prefix_rfl]
    · have hpos := byteLength_pos hrest
      rw [byteLength_append] at hle
      omega

end PlaybookServer.Text
