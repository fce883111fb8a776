/-
Module: PlaybookServer.Proofs.Text.Pieces
Purpose: The pieces of a text between separators. Pieces hold no separator, those of a text and of what follows a
  separator after it stand one after the other, and joined again they are the text. So the pieces of one text stand
  in front of those of another exactly if the other goes on after a separator, or not at all.
Main exports: splitOn_append, splitOn_flatMap, notMem_of_mem_splitOn, join_cons, count_joinWith, joinWith_splitOn,
  splitOn_joinWith, exists_last_piece, splitOn_prefix_iff, closeLines, splitOn_closeLines
-/
import PlaybookServer.Text.Lines

namespace PlaybookServer.Text

/-- Text without the separator is one piece. -/
theorem splitOn_of_notMem {sep : Char} {cs : List Char} (h : sep ∉ cs) : splitOn sep cs = [cs] := by
  induction cs with
  | nil => rfl
  | cons c cs ih =>
      have hc : sep ≠ c := List.ne_of_not_mem_cons h
      have hcs : sep ∉ cs := List.not_mem_of_not_mem_cons h
      rw [splitOn, if_neg (Ne.symm hc), ih hcs]

theorem splitOn_ne_nil (sep : Char) (cs : List Char) : splitOn sep cs ≠ [] := by
  cases cs with
  | nil => exact List.cons_ne_nil _ _
  | cons c cs =>
      rw [splitOn]
      split
      next => exact List.cons_ne_nil _ _
      next => split <;> exact List.cons_ne_nil _ _

/-- A separator ends one piece and begins another. -/
theorem splitOn_append (sep : Char) (cs more : List Char) :
    splitOn sep (cs ++ sep :: more) = splitOn sep cs ++ splitOn sep more := by
  induction cs with
  | nil => simp [splitOn]
  | cons c cs ih =>
      rw [List.cons_append, splitOn, splitOn, ih]
      split
      next => rfl
      next =>
          cases hsplit : splitOn sep cs with
          | nil => exact absurd hsplit (splitOn_ne_nil sep cs)
          | cons first rest => rfl

theorem notMem_of_mem_splitOn {sep : Char} {cs piece : List Char} (h : piece ∈ splitOn sep cs) : sep ∉ piece := by
  induction cs generalizing piece with
  | nil =>
      obtain rfl := List.mem_singleton.1 h
      exact List.not_mem_nil
  | cons c cs ih =>
      rw [splitOn] at h
      split at h
      next =>
          rcases List.mem_cons.1 h with rfl | h
          · exact List.not_mem_nil
          · exact ih h
      next hc =>
          split at h
          next =>
              obtain rfl := List.mem_singleton.1 h
              simpa using Ne.symm hc
          next first rest hsplit =>
              rw [hsplit] at ih
              rcases List.mem_cons.1 h with rfl | h
              · exact List.not_mem_cons_of_ne_of_not_mem (Ne.symm hc) (ih List.mem_cons_self)
              · exact ih (List.mem_cons_of_mem first h)

/-- Each of some texts after a separator: cutting gives them back, after the empty piece before the first. -/
theorem splitOn_flatMap {sep : Char} {parts : List (List Char)} (h : ∀ part ∈ parts, sep ∉ part) :
    splitOn sep (parts.flatMap (sep :: ·)) = [] :: parts := by
  have hfirst (cs : List Char) : splitOn sep (cs ++ parts.flatMap (sep :: ·)) = splitOn sep cs ++ parts := by
    induction parts generalizing cs with
    | nil => rw [List.flatMap_nil, List.append_nil, List.append_nil]
    | cons part parts ih =>
        rw [List.flatMap_cons, List.cons_append, splitOn_append, ih fun p hp => h p (List.mem_cons_of_mem part hp),
          splitOn_of_notMem (h part List.mem_cons_self), List.singleton_append]
  exact hfirst []

/-! ### Joining -/

theorem joinWith_cons {sep piece : List Char} {pieces : List (List Char)} (h : pieces ≠ []) :
    joinWith sep (piece :: pieces) = piece ++ sep ++ joinWith sep pieces := by
  rw [joinWith]
  exact h

/-- Behind the first piece each piece stands behind a separator. -/
theorem joinWith_cons_eq_flatMap (sep piece : List Char) (pieces : List (List Char)) :
    joinWith sep (piece :: pieces) = piece ++ pieces.flatMap (sep ++ ·) := by
  induction pieces generalizing piece with
  | nil => rw [joinWith, List.flatMap_nil, List.append_nil]
  | cons next pieces ih =>
      rw [joinWith_cons (List.cons_ne_nil next pieces), ih, List.flatMap_cons, List.append_assoc, List.append_assoc]

/-- Joining adds nothing to a character that the separator does not have. -/
theorem count_joinWith {sep : List Char} {c : Char} (other : c ∉ sep) (parts : List (List Char)) :
    (joinWith sep parts).count c = parts.flatten.count c := by
  induction parts with
  | nil => rfl
  | cons part parts ih =>
      rw [List.flatten_cons, List.count_append, ← ih]
      cases parts with
      | nil => rw [joinWith, joinWith, List.count_nil, Nat.add_zero]
      | cons next parts =>
          rw [joinWith_cons (List.cons_ne_nil next parts), List.count_append, List.count_append,
            List.count_eq_zero_of_not_mem other, Nat.add_zero]

theorem joinWith_append {sep : List Char} {ps qs : List (List Char)} (hps : ps ≠ []) (hqs : qs ≠ []) :
    joinWith sep (ps ++ qs) = joinWith sep ps ++ sep ++ joinWith sep qs := by
  induction ps with
  | nil => exact absurd rfl hps
  | cons p ps ih =>
      rw [List.cons_append, joinWith_cons (List.append_ne_nil_of_right_ne_nil ps hqs)]
      by_cases hnil : ps = []
      · rw [hnil, List.nil_append, joinWith]
      · simp only [ih hnil, joinWith_cons hnil, List.append_assoc]

theorem join_cons (sep first : String) {parts : List String} (h : parts ≠ []) :
    join sep (first :: parts) = first ++ sep ++ join sep parts := by
  rw [← String.toList_inj, join, List.map_cons, joinWith_cons (by simpa using h)]
  simp [join]

/-- The pieces of a text are joined to the text. -/
theorem joinWith_splitOn (sep : Char) (cs : List Char) : joinWith [sep] (splitOn sep cs) = cs := by
  induction cs with
  | nil => rfl
  | cons c cs ih =>
      rw [splitOn]
      split
      next hc => rw [joinWith_cons (splitOn_ne_nil sep cs), ih, hc, List.nil_append, List.singleton_append]
      next =>
          split
          next hnil => exact absurd hnil (splitOn_ne_nil sep cs)
          next first rest hsplit =>
              rw [hsplit] at ih
              cases rest with
              | nil => exact congrArg (c :: ·) ih
              | cons second rest =>
                  rw [joinWith_cons (List.cons_ne_nil _ _)] at ih ⊢
                  exact congrArg (c :: ·) ih

/-- Pieces without the separator are the pieces of what they are joined to. -/
theorem splitOn_joinWith {sep : Char} {parts : List (List Char)} (nonempty : parts ≠ [])
    (apart : ∀ part ∈ parts, sep ∉ part) : splitOn sep (joinWith [sep] parts) = parts := by
  induction parts with
  | nil => exact absurd rfl nonempty
  | cons part parts ih =>
      have first : splitOn sep part = [part] := splitOn_of_notMem (apart part List.mem_cons_self)
      by_cases hnil : parts = []
      · rw [hnil, joinWith, first]
      · rw [joinWith_cons hnil, List.append_assoc, List.singleton_append, splitOn_append, first,
          ih hnil fun p hp => apart p (List.mem_cons_of_mem part hp), List.singleton_append]

/-- A text that does not end in the separator ends like its last piece. -/
theorem exists_last_piece {sep c : Char} {cs : List Char} (last : cs.getLast? = some c) (hc : c ≠ sep) :
    ∃ piece, (splitOn sep cs).getLast? = some piece ∧ piece.getLast? = some c := by
  obtain ⟨piece, ends⟩ := Option.ne_none_iff_exists'.1 (mt List.getLast?_eq_none_iff.1 (splitOn_ne_nil sep cs))
  refine ⟨piece, ends, ?_⟩
  obtain ⟨init, split⟩ := List.getLast?_eq_some_iff.1 ends
  have joined := joinWith_splitOn sep cs
  rw [split] at joined
  by_cases hnil : init = []
  · rw [hnil, List.nil_append, joinWith] at joined
    rw [joined, last]
  · rw [joinWith_append hnil (List.cons_ne_nil piece []), joinWith] at joined
    cases hpiece : piece.getLast? with
    | none =>
        -- the text would end in the separator
        rw [List.getLast?_eq_none_iff.1 hpiece, List.append_nil] at joined
        rw [← joined, List.getLast?_concat] at last
        exact absurd (Option.some.inj last).symm hc
    | some d => rw [← last, ← joined, List.getLast?_append, hpiece, Option.some_or]

/-- The pieces of one text stand in front of those of another if the other goes on after a separator. -/
theorem splitOn_prefix_iff (sep : Char) (base cs : List Char) :
    splitOn sep base <+: splitOn sep cs ↔ cs = base ∨ ∃ more, cs = base ++ sep :: more := by
  constructor
  · rintro ⟨rest, hrest⟩
    have hjoined := congrArg (joinWith [sep]) hrest
    rw [joinWith_splitOn] at hjoined
    by_cases hnil : rest = []
    · rw [hnil, List.append_nil, joinWith_splitOn] at hjoined
      exact .inl hjoined.symm
    · rw [joinWith_append (splitOn_ne_nil sep base) hnil, joinWith_splitOn, List.append_assoc] at hjoined
      exact .inr ⟨_, hjoined.symm⟩
  · rintro (rfl | ⟨more, rfl⟩)
    · exact List.prefix_refl _
    · rw [splitOn_append]
      exact List.prefix_append _ _

/-! ### Lines that end -/

/-- Lines, each with the line feed that ends it, and a text behind them. -/
def closeLines (lines : List (List Char)) (rest : List Char) : List Char := lines.flatMap (· ++ ['\n']) ++ rest

theorem closeLines_cons (line : List Char) (lines : List (List Char)) (rest : List Char) :
    closeLines (line :: lines) rest = line ++ '\n' :: closeLines lines rest := by
  simp [closeLines]

/-- Empty lines are line feeds. -/
theorem closeLines_replicate (n : Nat) (rest : List Char) :
    closeLines (List.replicate n []) rest = List.replicate n '\n' ++ rest := by
  induction n with
  | zero => rfl
  | succ n ih => rw [List.replicate_succ, closeLines_cons, ih, List.nil_append, List.replicate_succ, List.cons_append]

theorem splitOn_closeLines {lines : List (List Char)} (noFeed : ∀ line ∈ lines, '\n' ∉ line) (rest : List Char) :
    splitOn '\n' (closeLines lines rest) = lines ++ splitOn '\n' rest := by
  induction lines with
  | nil => rfl
  | cons line lines ih =>
      rw [closeLines_cons, splitOn_append, splitOn_of_notMem (noFeed line List.mem_cons_self),
        ih fun l hl => noFeed l (List.mem_cons_of_mem line hl), List.singleton_append, List.cons_append]

/-! ### Beginnings -/

theorem stripStem?_eq_some_iff (stem cs rest : List Char) : stripStem? stem cs = some rest ↔ cs = stem ++ rest := by
  induction stem generalizing cs with
  | nil => simp [stripStem?, eq_comm]
  | cons p ps ih =>
      cases cs with
      | nil => simp [stripStem?]
      | cons c cs =>
          rw [stripStem?]
          split
          next hp => simp [ih, hp]
          next hp => simp [Ne.symm hp]

end PlaybookServer.Text
