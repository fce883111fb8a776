/-
Module: PlaybookServer.Proofs.Document.Quoted
Purpose: Text between quotes is read back. Between double quotes a character stands for itself or is spelled by an
  escape, with a letter or with a hexadecimal numeral of fixed width; there is no line break among the spellings, so
  nothing is folded, and they are resolved one after the other. Between single quotes only these are doubled.
Main exports: IsHexDigit, HexNumeral, Spells, unescape_append_of_spells, doubled, undouble_doubled,
  quoted_text_is_read_back
-/
import PlaybookServer.Document.Scalar
import PlaybookServer.Proofs.Text.Pieces
import Mathlib.Data.List.Forall2
import Mathlib.Data.List.Induction

namespace PlaybookServer.Scalar

open Text

/-! ### Spellings -/

/-- A hexadecimal digit in either case. -/
def IsHexDigit (value : Nat) (digit : Char) : Prop :=
  "0123456789abcdef".toList[value]? = some digit ∨ "0123456789ABCDEF".toList[value]? = some digit

/-- A number written in hexadecimal digits, with any number of zeros in front. -/
inductive HexNumeral : Nat → List Char → Prop where
  | nil : HexNumeral 0 []
  | snoc {n value : Nat} {digits : List Char} {digit : Char} (front : HexNumeral n digits)
      (isDigit : IsHexDigit value digit) : HexNumeral (n * 16 + value) (digits ++ [digit])

/-- The letters of short escapes, and the characters they spell. -/
def escapeLetters : List (Char × Char) :=
  [('\\', '\\'), ('"', '"'), ('n', '\n'), ('t', '\t'), ('r', '\r'), ('0', '\x00'), ('/', '/'), (' ', ' ')]

/-- The letters of hexadecimal escapes, and the number of their digits. -/
def escapeWidths : List (Char × Nat) := [('x', 2), ('u', 4), ('U', 8)]

/-- The ways to write a character between double quotes. -/
inductive Spells : Char → List Char → Prop where
  | raw {c : Char} (noBackslash : c ≠ '\\') (noQuote : c ≠ '"') (noFeed : c ≠ '\n') : Spells c [c]
  | letter {k c : Char} (listed : (k, c) ∈ escapeLetters) : Spells c ['\\', k]
  | hex {k c : Char} {digits : List Char} (listed : (k, digits.length) ∈ escapeWidths)
      (numeral : HexNumeral c.toNat digits) : Spells c ('\\' :: k :: digits)

variable {c : Char} {digits written : List Char}

theorem hexDigit?_of_isHexDigit {value : Nat} {digit : Char} (isDigit : IsHexDigit value digit) :
    hexDigit? digit = some value := by
  have lowerCase : ∀ v < 16, "0123456789abcdef".toList[v]?.bind hexDigit? = some v := by decide
  have upperCase : ∀ v < 16, "0123456789ABCDEF".toList[v]?.bind hexDigit? = some v := by decide
  rcases isDigit with lower | upper
  · have known := lowerCase value (List.getElem?_eq_some_iff.1 lower).1
    rwa [lower, Option.bind_some] at known
  · have known := upperCase value (List.getElem?_eq_some_iff.1 upper).1
    rwa [upper, Option.bind_some] at known

/-- Any digits are the numeral of the number they make up. -/
theorem HexNumeral.of_digits (digits : List (Nat × Char)) (isDigit : ∀ d ∈ digits, IsHexDigit d.1 d.2) :
    HexNumeral (digits.foldl (fun n d => n * 16 + d.1) 0) (digits.map Prod.snd) := by
  induction digits using List.reverseRecOn with
  | nil => exact .nil
  | append_singleton digits d ih =>
      rw [List.foldl_append, List.map_append]
      exact .snoc (ih fun d' hd' => isDigit d' (List.mem_append_left _ hd')) (isDigit d (by simp))

theorem HexNumeral.isDigit {n : Nat} (numeral : HexNumeral n digits) :
    ∀ digit ∈ digits, ∃ value, hexDigit? digit = some value := by
  induction numeral with
  | nil => simp
  | snoc _ last ih =>
      intro digit hdigit
      rcases List.mem_append.1 hdigit with hdigit | hdigit
      · exact ih digit hdigit
      · rw [List.mem_singleton.1 hdigit]
        exact ⟨_, hexDigit?_of_isHexDigit last⟩

theorem hexDigits?_of_numeral {n : Nat} (numeral : HexNumeral n digits) (nonempty : digits ≠ []) :
    hexDigits? digits = some n := by
  have value : digits.foldl (fun acc c => acc.bind fun n => (hexDigit? c).map (n * 16 + ·)) (some 0) = some n := by
    clear nonempty
    induction numeral with
    | nil => rfl
    | snoc _ last ih =>
        rw [List.foldl_append, ih, List.foldl_cons, List.foldl_nil, hexDigit?_of_isHexDigit last]
        rfl
  cases digits with
  | nil => exact absurd rfl nonempty
  | cons digit digits => exact value

/-- A numeral names the character of its number; no digit is taken for a sign. -/
theorem hexChar?_of_numeral (numeral : HexNumeral c.toNat digits) (nonempty : digits ≠ []) :
    hexChar? digits = some c := by
  have valid : c.toNat.isValidChar := c.valid
  rw [hexChar?, hexDigits?_of_numeral numeral nonempty, Option.bind_some, if_pos valid, Char.ofNat_toNat]
  rintro rest rfl
  obtain ⟨value, digit⟩ := numeral.isDigit '+' List.mem_cons_self
  cases digit

theorem Spells.noFeed (spelled : Spells c written) : '\n' ∉ written := by
  cases spelled with
  | raw _ _ noFeed => simpa using noFeed.symm
  | @letter k _ listed =>
      have letters : ∀ entry ∈ escapeLetters, '\n' ∉ ['\\', entry.1] := by decide
      exact letters (k, c) listed
  | @hex k _ digits listed numeral =>
      have letters : ∀ entry ∈ escapeWidths, '\n' ∉ ['\\', entry.1] := by decide
      intro among
      rcases List.mem_append.1 (show '\n' ∈ ['\\', k] ++ digits from among) with among | among
      · exact letters (k, digits.length) listed among
      · obtain ⟨value, digit⟩ := numeral.isDigit '\n' among
        cases digit

/-! ### Double quotes -/

/-- A spelling is resolved to its character, whatever follows it. -/
theorem unescape_append_of_spells (spelled : Spells c written) (more : List Char) :
    unescape (written ++ more) = c :: unescape more := by
  cases spelled with
  | raw noBackslash _ _ =>
      rw [List.singleton_append, unescape]
      rintro k rest rfl
      exact absurd rfl noBackslash
  | @letter k _ listed =>
      have known : ∀ entry ∈ escapeLetters, shortEscape? entry.1 = some entry.2 := by decide
      rw [List.cons_append, List.singleton_append, unescape, known (k, c) listed]
  | @hex k _ digits listed numeral =>
      have known : ∀ entry ∈ escapeWidths, shortEscape? entry.1 = none ∧ hexWidth? entry.1 = some entry.2 ∧
          entry.2 ≠ 0 := by decide
      obtain ⟨long, width, positive⟩ := known (k, digits.length) listed
      have nonempty : digits ≠ [] := mt List.length_eq_zero_iff.2 positive
      rw [List.cons_append, List.cons_append, unescape, long, width]
      simp only [List.take_left, List.drop_left, hexChar?_of_numeral numeral nonempty]

theorem unescape_flatten {text : List Char} {written : List (List Char)} (spelled : List.Forall₂ Spells text written) :
    unescape written.flatten = text := by
  induction spelled with
  | nil => rw [List.flatten_nil, unescape]
  | cons first _ ih => rw [List.flatten_cons, unescape_append_of_spells first, ih]

theorem notMem_flatten {text : List Char} {written : List (List Char)} (spelled : List.Forall₂ Spells text written) :
    '\n' ∉ written.flatten := by
  induction spelled with
  | nil => exact List.not_mem_nil
  | cons first _ ih =>
      rw [List.flatten_cons, List.mem_append, not_or]
      exact ⟨first.noFeed, ih⟩

/-! ### Single quotes -/

/-- A text with its single quotes doubled. -/
def doubled (text : List Char) : List Char := text.flatMap fun c => if c = '\'' then ['\'', '\''] else [c]

theorem undouble_doubled (text : List Char) : undouble (doubled text) = text := by
  induction text with
  | nil => rfl
  | cons c text ih =>
      rw [doubled, List.flatMap_cons, ← doubled]
      by_cases hc : c = '\''
      · rw [if_pos hc, List.cons_append, List.singleton_append, undouble, ih, hc]
      · rw [if_neg hc, List.singleton_append, undouble, ih]
        rintro rest rfl
        exact absurd rfl hc

theorem notMem_doubled {text : List Char} (noFeed : '\n' ∉ text) : '\n' ∉ doubled text := by
  intro among
  obtain ⟨c, hc, among⟩ := List.mem_flatMap.1 among
  split at among
  next => exact absurd among (by decide)
  next => exact noFeed (List.mem_singleton.1 among ▸ hc)

/-! ### Both -/

theorem foldLines_of_notMem {raw : List Char} (noFeed : '\n' ∉ raw) : foldLines raw = raw := by
  rw [foldLines, splitOn_of_notMem noFeed]

/-- A text is read back from between double quotes, however its characters are spelled; and from between single quotes,
    where it has no line feed and its single quotes are doubled. -/
theorem quoted_text_is_read_back (text : List Char) :
    (∀ written, List.Forall₂ Spells text written → quotedValue true written.flatten = text) ∧
    ('\n' ∉ text → quotedValue false (doubled text) = text) := by
  refine ⟨fun written spelled => ?_, fun noFeed => ?_⟩
  · rw [quotedValue, if_pos rfl, foldLines_of_notMem (notMem_flatten spelled), unescape_flatten spelled]
  · rw [quotedValue, if_neg Bool.false_ne_true, foldLines_of_notMem (notMem_doubled noFeed), undouble_doubled]

/-- An escaped backslash in front of an escaped quote, numerals of every width, and quotes side by side. -/
theorem spellings_are_read_back :
    List.Forall₂ Spells "\\\"\né😀 /".toList ["\\\\".toList, "\\\"".toList, "\\n".toList, "\\xE9".toList,
      "\\U0001f600".toList, "\\u0020".toList, "/".toList] ∧
    quotedValue true "\\\\\\\"\\n\\xE9\\U0001f600\\u0020/".toList = "\\\"\né😀 /".toList ∧
    '\n' ∉ "it''s '".toList ∧ quotedValue false "it''''s ''".toList = "it''s '".toList := by
  have spelled : List.Forall₂ Spells "\\\"\né😀 /".toList ["\\\\".toList, "\\\"".toList, "\\n".toList,
      "\\xE9".toList, "\\U0001f600".toList, "\\u0020".toList, "/".toList] := by
    refine .cons (.letter (by decide)) <| .cons (.letter (by decide)) <| .cons (.letter (by decide)) <|
      .cons (.hex (k := 'x') (by decide) (.of_digits [(14, 'E'), (9, '9')] ?_)) <|
      .cons (.hex (k := 'U') (by decide) (.of_digits [(0, '0'), (0, '0'), (0, '0'), (1, '1'), (15, 'f'), (6, '6'),
        (0, '0'), (0, '0')] ?_)) <|
      .cons (.hex (k := 'u') (by decide) (.of_digits [(0, '0'), (0, '0'), (2, '2'), (0, '0')] ?_)) <|
      .cons (.raw (by decide) (by decide) (by decide)) .nil
    all_goals
      unfold IsHexDigit
      decide
  have noFeed : '\n' ∉ "it''s '".toList := by decide
  exact ⟨spelled, (quoted_text_is_read_back _).1 _ spelled, noFeed, (quoted_text_is_read_back _).2 noFeed⟩

end PlaybookServer.Scalar
