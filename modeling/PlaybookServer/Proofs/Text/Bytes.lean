/-
Module: PlaybookServer.Proofs.Text.Bytes
Purpose: Text that was encoded as UTF-8 is decoded to itself. A lead byte announces how many bytes follow and in which
  range the second one lies; the encoding of a character keeps to what its lead byte announces.
Main exports: decodeLossy_of_lead, decodeLossy_encodeChar, decodeLossy_encodeUtf8
-/
import PlaybookServer.Text.Bytes
import Mathlib.Data.List.TakeWhile

namespace PlaybookServer.Text

/-- What follows a lead byte is counted, if the second byte lies in its range and the others continue. -/
theorem followers_of_tail {length low high b : Nat} {tail : List Nat} (hb : low ≤ b ∧ b ≤ high)
    (htail : ∀ c ∈ tail, 0x80 ≤ c ∧ c ≤ 0xBF) (hlength : tail.length = length - 2) (more : List Nat) :
    followers length low high (b :: (tail ++ more)) = (1 + tail.length, true) := by
  have hin : (decide (low ≤ b) && decide (b ≤ high)) = true := by simpa using hb
  have htake : (tail ++ more).take (length - 2) = tail := by
    rw [← hlength]
    exact List.take_left
  have hall : tail.takeWhile (fun c => 0x80 ≤ c && c ≤ 0xBF) = tail := by
    rw [List.takeWhile_eq_self_iff]
    simpa using htail
  rw [followers, if_pos hin, htake, hall]
  simp [hlength]

/-- The bytes of a character of several bytes are read back as one number. -/
theorem decodeLossy_of_lead (tail : List Nat) {length low high lead b : Nat} (hascii : 0x80 ≤ lead)
    (hlead : leadByte? lead = some (length, low, high)) (hb : low ≤ b ∧ b ≤ high)
    (htail : ∀ c ∈ tail, 0x80 ≤ c ∧ c ≤ 0xBF) (hlength : tail.length = length - 2) (more : List Nat) :
    decodeLossy (lead :: b :: (tail ++ more)) =
      Char.ofNat ((b :: tail).foldl (fun n c => n * 64 + (c - 0x80))
        (if length = 2 then lead - 0xC0 else if length = 3 then lead - 0xE0 else lead - 0xF0)) ::
        decodeLossy more := by
  have htake : (b :: (tail ++ more)).take (1 + tail.length) = b :: tail := by
    rw [Nat.add_comm, List.take_succ_cons, List.take_left]
  have hdrop : (b :: (tail ++ more)).drop (1 + tail.length) = more := by
    rw [Nat.add_comm, List.drop_succ_cons, List.drop_left]
  rw [decodeLossy, if_neg (by omega), hlead]
  dsimp only
  rw [followers_of_tail hb htail hlength more, htake, hdrop]
  rfl

theorem leadByte?_two {n : Nat} (hlow : 0x80 ≤ n) (hhigh : n < 0x800) :
    leadByte? (0xC0 + n / 64) = some (2, 0x80, 0xBF) := by
  have among : 0xC2 ≤ 0xC0 + n / 64 ∧ 0xC0 + n / 64 ≤ 0xDF := by omega
  rw [leadByte?, if_pos (by simpa using among)]

/-- The second of three bytes lies in the range that the first sets. -/
theorem exists_leadByte?_three {n : Nat} (hlow : 0x800 ≤ n) (hhigh : n < 0x10000) (hvalid : n.isValidChar) :
    ∃ low high, leadByte? (0xE0 + n / 4096) = some (3, low, high) ∧
      low ≤ 0x80 + n / 64 % 64 ∧ 0x80 + n / 64 % 64 ≤ high := by
  have hsurrogates : n < 0xD800 ∨ 0xE000 ≤ n := by
    rcases hvalid with h | h
    · exact .inl h
    · exact .inr (by omega)
  obtain h | h | h | h : n / 4096 = 0 ∨ n / 4096 = 13 ∨ n / 4096 ≠ 0 ∧ n / 4096 < 13 ∨ 13 < n / 4096 := by omega
  · exact ⟨0xA0, 0xBF, by rw [h]; rfl, by omega, by omega⟩
  · exact ⟨0x80, 0x9F, by rw [h]; rfl, by omega, by omega⟩
  · refine ⟨0x80, 0xBF, ?_, by omega, by omega⟩
    rw [leadByte?, if_neg (by simp; omega), if_neg (by omega), if_pos (by simp; omega)]
  · refine ⟨0x80, 0xBF, ?_, by omega, by omega⟩
    rw [leadByte?, if_neg (by simp; omega), if_neg (by omega), if_pos (by simp; omega)]

/-- The second of four bytes lies in the range that the first sets. -/
theorem exists_leadByte?_four {n : Nat} (hlow : 0x10000 ≤ n) (hhigh : n < 0x110000) :
    ∃ low high, leadByte? (0xF0 + n / 262144) = some (4, low, high) ∧
      low ≤ 0x80 + n / 4096 % 64 ∧ 0x80 + n / 4096 % 64 ≤ high := by
  obtain h | h | h : n / 262144 = 0 ∨ n / 262144 = 4 ∨ n / 262144 ≠ 0 ∧ n / 262144 < 4 := by omega
  · exact ⟨0x90, 0xBF, by rw [h]; rfl, by omega, by omega⟩
  · exact ⟨0x80, 0x8F, by rw [h]; rfl, by omega, by omega⟩
  · refine ⟨0x80, 0xBF, ?_, by omega, by omega⟩
    obtain h | h | h : n / 262144 = 1 ∨ n / 262144 = 2 ∨ n / 262144 = 3 := by omega
    all_goals rw [h]; rfl

theorem toNat_lt (c : Char) : c.toNat < 0x110000 := by
  rcases c.valid with h | h
  · exact Nat.lt_trans h (by decide)
  · exact h.2

theorem encodeChar_lt (c : Char) : ∀ b ∈ encodeChar c, b < 256 := by
  have hbound := toNat_lt c
  intro b hb
  unfold encodeChar at hb
  dsimp only at hb
  split_ifs at hb <;> simp only [List.mem_cons, List.not_mem_nil, or_false] at hb <;> omega

/-- A character that was encoded is decoded, whatever follows it. -/
theorem decodeLossy_encodeChar (c : Char) (more : List Nat) :
    decodeLossy (encodeChar c ++ more) = c :: decodeLossy more := by
  have hback (n : Nat) (hn : n = c.toNat) : Char.ofNat n = c := by rw [hn, Char.ofNat_toNat]
  have hbound := toNat_lt c
  unfold encodeChar
  dsimp only
  split
  next hone =>
      rw [List.singleton_append, decodeLossy, if_pos hone, Char.ofNat_toNat]
  next hone =>
    split
    next htwo =>
        have h := decodeLossy_of_lead [] (b := 0x80 + c.toNat % 64) (by omega)
          (leadByte?_two (Nat.le_of_not_lt hone) htwo) (by omega) (by simp) rfl more
        rw [hback _ (by simp; omega)] at h
        exact h
    next htwo =>
      split
      next hthree =>
          obtain ⟨low, high, hlead, hb⟩ := exists_leadByte?_three (Nat.le_of_not_lt htwo) hthree c.valid
          have h := decodeLossy_of_lead [0x80 + c.toNat % 64] (by omega) hlead hb (by simp; omega) rfl more
          rw [hback _ (by simp; omega)] at h
          exact h
      next hthree =>
          obtain ⟨low, high, hlead, hb⟩ := exists_leadByte?_four (Nat.le_of_not_lt hthree) hbound
          have h := decodeLossy_of_lead [0x80 + c.toNat / 64 % 64, 0x80 + c.toNat % 64] (by omega) hlead hb
            (by simp; omega) rfl more
          rw [hback _ (by simp; omega)] at h
          exact h

theorem decodeLossy_encodeUtf8 (cs : List Char) : decodeLossy (encodeUtf8 cs) = cs := by
  induction cs with
  | nil => simp [encodeUtf8, decodeLossy]
  | cons c cs ih =>
      have hstep : encodeUtf8 (c :: cs) = encodeChar c ++ encodeUtf8 cs := rfl
      rw [hstep, decodeLossy_encodeChar, ih]

end PlaybookServer.Text
