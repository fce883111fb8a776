/-
Module: PlaybookServer.Proofs.Completion.SortText
Purpose: Whether a client that sorts candidates by their sort texts shows them as they were ranked. Orders have a
  fixed number of digits and compare as texts as they do as numbers; priorities have as many digits as they need, and
  compare as texts by their leading digits. Only the scopes of variables have more than one digit.
Main exports: Candidate.Outranks, leadingDigits, sortText_lt_of_priority_lt, sortText_lt_of_priority_eq,
  outranks_rank, sort_texts_follow_rank
-/
import PlaybookServer.Proofs.Completion.Cursor
import Mathlib.Data.List.Pairwise
import Mathlib.Data.String.Basic

namespace PlaybookServer

namespace Text

/-! ### Digits as texts and as numbers -/

variable {xs ys : List Char}

/-- Whether a text has ASCII digits only. -/
def Digits (cs : List Char) : Prop := ∀ c ∈ cs, c.isDigit = true

theorem Digits.head {c : Char} (h : Digits (c :: xs)) : 48 ≤ c.toNat ∧ c.toNat ≤ 57 := by
  have digit := h c List.mem_cons_self
  simp only [Char.isDigit, Bool.and_eq_true, decide_eq_true_eq, UInt32.le_iff_toNat_le] at digit
  exact digit

theorem Digits.tail {c : Char} (h : Digits (c :: xs)) : Digits xs :=
  fun d member => h d (List.mem_cons_of_mem c member)

theorem digits_toDigits (n : Nat) : Digits (Nat.toDigits 10 n) := by
  intro c member
  exact Nat.isDigit_of_mem_toDigits (by decide) (by decide) member

theorem digits_append (hx : Digits xs) (hy : Digits ys) : Digits (xs ++ ys) := by
  intro c member
  rcases List.mem_append.1 member with left | right
  · exact hx c left
  · exact hy c right

theorem char_lt_iff {c d : Char} : c < d ↔ c.toNat < d.toNat := Iff.rfl

/-- The first digit counts a power of ten. -/
theorem ofDigitChars_cons (c : Char) (cs : List Char) :
    Nat.ofDigitChars 10 (c :: cs) 0 = 10 ^ cs.length * (c.toNat - 48) + Nat.ofDigitChars 10 cs 0 := by
  rw [Nat.ofDigitChars_cons, Nat.ofDigitChars_eq_ofDigitChars_zero]
  simp

theorem ofDigitChars_lt (h : Digits xs) : Nat.ofDigitChars 10 xs 0 < 10 ^ xs.length := by
  induction xs with
  | nil => simp
  | cons c xs ih =>
      have bound := ih h.tail
      have digit : c.toNat - 48 ≤ 9 := by
        have := h.head
        omega
      have leading := Nat.mul_le_mul_left (10 ^ xs.length) digit
      rw [ofDigitChars_cons, List.length_cons, Nat.pow_succ]
      omega

/-- Of two numbers below a power that follow a leading part each, the leading parts decide first. -/
theorem leading_lt_iff {unit e f x y : Nat} (hx : x < unit) (hy : y < unit) :
    unit * e + x < unit * f + y ↔ e < f ∨ e = f ∧ x < y := by
  rcases Nat.lt_trichotomy e f with less | rfl | more
  · have step := Nat.mul_le_mul_left unit (Nat.succ_le_of_lt less)
    rw [Nat.mul_succ] at step
    constructor
    · intro _
      exact .inl less
    · intro _
      omega
  · constructor
    · intro below
      exact .inr ⟨rfl, by omega⟩
    · rintro (below | ⟨-, below⟩)
      · exact absurd below (Nat.lt_irrefl e)
      · omega
  · have step := Nat.mul_le_mul_left unit (Nat.succ_le_of_lt more)
    rw [Nat.mul_succ] at step
    constructor
    · intro below
      omega
    · rintro (below | ⟨equal, -⟩)
      · omega
      · omega

/-- Equally many digits compare as texts as they do as numbers. -/
theorem lt_iff_ofDigitChars_lt (hx : Digits xs) (hy : Digits ys) (same : xs.length = ys.length) :
    xs < ys ↔ Nat.ofDigitChars 10 xs 0 < Nat.ofDigitChars 10 ys 0 := by
  induction xs generalizing ys with
  | nil =>
      have empty : ys = [] := List.length_eq_zero_iff.1 same.symm
      simp [empty]
  | cons c xs ih =>
      cases ys with
      | nil => simp at same
      | cons d ys =>
          have sizes : xs.length = ys.length := by simpa using same
          have boundX := ofDigitChars_lt hx.tail
          have boundY := ofDigitChars_lt hy.tail
          rw [sizes] at boundX
          rw [List.cons_lt_cons_iff, ofDigitChars_cons, ofDigitChars_cons, sizes, leading_lt_iff boundX boundY,
            ih hx.tail hy.tail sizes, char_lt_iff, ← Char.toNat_inj]
          have digitC := hx.head
          have digitD := hy.head
          have less : c.toNat < d.toNat ↔ c.toNat - 48 < d.toNat - 48 := by omega
          have equal : c.toNat = d.toNat ↔ c.toNat - 48 = d.toNat - 48 := by omega
          rw [less, equal]

/-- Behind a separator that comes after all digits, what follows counts only where the digits agree, and fewer digits
    come first only if they differ from the beginning of the others. -/
theorem separated_lt_iff {rest rest' : List Char} (hy : Digits ys) (shorter : xs.length ≤ ys.length) :
    xs ++ '_' :: rest < ys ++ '_' :: rest' ↔ xs < ys.take xs.length ∨ xs = ys ∧ rest < rest' := by
  induction xs generalizing ys with
  | nil =>
      cases ys with
      | nil => simp
      | cons d ys =>
          have digit := hy.head
          have later : ¬ '_' < d := by
            rw [char_lt_iff]
            have : '_'.toNat = 95 := rfl
            omega
          have different : '_' ≠ d := by
            rintro rfl
            exact absurd digit.2 (by decide)
          simp [List.cons_lt_cons_iff, later, different]
  | cons c xs ih =>
      cases ys with
      | nil => simp at shorter
      | cons d ys =>
          have further := ih hy.tail (Nat.le_of_succ_le_succ shorter)
          simp only [List.cons_append, List.cons_lt_cons_iff, further, List.length_cons, List.take_succ_cons,
            List.cons.injEq]
          grind

/-! ### Numbers written out -/

/-- How many digits a number has. -/
def digitCount (n : Nat) : Nat := (Nat.toDigits 10 n).length

/-- The number that the first digits of a number make, as many of them as another number has. -/
def leadingDigits (q p : Nat) : Nat := q / 10 ^ (digitCount q - digitCount p)

theorem ofDigitChars_toDigits (n : Nat) : Nat.ofDigitChars 10 (Nat.toDigits 10 n) 0 = n :=
  Nat.ofDigitChars_toDigits (by decide) (by decide)

theorem digitCount_le_iff {n k : Nat} (positive : 0 < k) : digitCount n ≤ k ↔ n < 10 ^ k :=
  Nat.length_toDigits_le_iff (by decide) positive

theorem digitCount_pos (n : Nat) : 0 < digitCount n := Nat.length_toDigits_pos

theorem digitCount_mono {p q : Nat} (h : p ≤ q) : digitCount p ≤ digitCount q := by
  rw [digitCount_le_iff (digitCount_pos q)]
  have bound := (digitCount_le_iff (digitCount_pos q)).1 (Nat.le_refl (digitCount q))
  omega

/-- The first digits of a number make the number that its leading digits are. -/
theorem ofDigitChars_take (q p : Nat) :
    Nat.ofDigitChars 10 ((Nat.toDigits 10 q).take (digitCount p)) 0 = leadingDigits q p := by
  have whole : Nat.ofDigitChars 10 ((Nat.toDigits 10 q).take (digitCount p) ++
      (Nat.toDigits 10 q).drop (digitCount p)) 0 = q := by
    rw [List.take_append_drop, ofDigitChars_toDigits]
  have remaining : ((Nat.toDigits 10 q).drop (digitCount p)).length = digitCount q - digitCount p :=
    List.length_drop
  have digits : Digits ((Nat.toDigits 10 q).drop (digitCount p)) := by
    intro c member
    exact digits_toDigits q c (List.mem_of_mem_drop member)
  have small := ofDigitChars_lt digits
  rw [Nat.ofDigitChars_append, Nat.ofDigitChars_eq_ofDigitChars_zero, remaining] at whole
  rw [remaining] at small
  rw [leadingDigits]
  nth_rewrite 2 [← whole]
  rw [Nat.mul_add_div (Nat.pow_pos (by decide)), Nat.div_eq_of_lt small, Nat.add_zero]

/-- Of two numbers in front of separators, the lesser comes first if and only if it is less than the number that as
    many leading digits of the greater make. -/
theorem numbered_lt_iff {p q : Nat} (less : p < q) (rest rest' : List Char) :
    Nat.toDigits 10 p ++ '_' :: rest < Nat.toDigits 10 q ++ '_' :: rest' ↔ p < leadingDigits q p := by
  have shorter := digitCount_mono (Nat.le_of_lt less)
  have different : Nat.toDigits 10 p ≠ Nat.toDigits 10 q := by
    intro equal
    have values := congrArg (Nat.ofDigitChars 10 · 0) equal
    simp only [ofDigitChars_toDigits] at values
    omega
  have digits : Digits ((Nat.toDigits 10 q).take (digitCount p)) := by
    intro c member
    exact digits_toDigits q c (List.mem_of_mem_take member)
  have sizes : (Nat.toDigits 10 p).length = ((Nat.toDigits 10 q).take (digitCount p)).length := by
    rw [List.length_take]
    exact (Nat.min_eq_left shorter).symm
  rw [separated_lt_iff (digits_toDigits q) shorter]
  simp only [different, false_and, or_false]
  rw [← digitCount.eq_def, lt_iff_ofDigitChars_lt (digits_toDigits p) digits sizes, ofDigitChars_toDigits,
    ofDigitChars_take]

/-- Numbers of one digit are less than every leading digit of greater ones, as far as these have one digit too. -/
theorem leadingDigits_of_small {p q : Nat} (hp : p < 10) (hq : q < 10) : leadingDigits q p = q := by
  have one : ∀ n, n < 10 → digitCount n = 1 := by
    intro n hn
    simp [digitCount, Nat.toDigits_of_lt_base hn]
  simp [leadingDigits, one p hp, one q hq]

/-! ### Numbers filled up with zeros -/

/-- The digits of a number behind as many zeros as make a width. -/
def padded (width n : Nat) : List Char :=
  List.replicate (width - digitCount n) '0' ++ Nat.toDigits 10 n

theorem digits_padded (width n : Nat) : Digits (padded width n) := by
  apply digits_append
  · intro c member
    rw [List.eq_of_mem_replicate member]
    rfl
  · exact digits_toDigits n

theorem length_padded {width n : Nat} (positive : 0 < width) (fits : n < 10 ^ width) :
    (padded width n).length = width := by
  have short := (digitCount_le_iff positive).2 fits
  rw [padded, List.length_append, List.length_replicate, ← digitCount.eq_def]
  omega

theorem ofDigitChars_padded (width n : Nat) : Nat.ofDigitChars 10 (padded width n) 0 = n := by
  rw [padded, Nat.ofDigitChars_append, Nat.ofDigitChars_replicate_zero]
  simp

theorem padded_lt_iff {width m n : Nat} (positive : 0 < width) (hm : m < 10 ^ width) (hn : n < 10 ^ width) :
    padded width m < padded width n ↔ m < n := by
  have same : (padded width m).length = (padded width n).length := by
    rw [length_padded positive hm, length_padded positive hn]
  rw [lt_iff_ofDigitChars_lt (digits_padded width m) (digits_padded width n) same, ofDigitChars_padded,
    ofDigitChars_padded]

end Text

namespace Completion

open Text Docs Source

/-! ### Sort texts -/

namespace Candidate

/-- The order of the ranking. -/
def Outranks (a b : Candidate) : Prop := a.priority < b.priority ∨ a.priority = b.priority ∧ a.order < b.order

theorem toList_sortText (c : Candidate) :
    c.sortText.toList = Nat.toDigits 10 c.priority ++ '_' :: padded orderWidth c.order := by
  have width : c.order.repr.length = digitCount c.order := by
    rw [← String.length_toList, digitCount, Nat.toList_repr]
  simp [sortText, padded, width]

variable {a b : Candidate}

/-- A lower priority comes first if and only if it is less than the number that as many leading digits of the other
    make. -/
theorem sortText_lt_of_priority_lt (less : a.priority < b.priority) :
    a.sortText < b.sortText ↔ a.priority < leadingDigits b.priority a.priority := by
  rw [String.lt_iff_toList_lt, toList_sortText, toList_sortText, numbered_lt_iff less]

/-- Within one priority the order decides. -/
theorem sortText_lt_of_priority_eq (same : a.priority = b.priority) (ha : a.order < 10 ^ orderWidth)
    (hb : b.order < 10 ^ orderWidth) : a.sortText < b.sortText ↔ a.order < b.order := by
  rw [String.lt_iff_toList_lt, toList_sortText, toList_sortText, same,
    separated_lt_iff (digits_toDigits _) (Nat.le_refl _)]
  simp [padded_lt_iff (by decide) ha hb]

end Candidate

/-! ### The ranking -/

theorem mem_rank {cs : List Candidate} {c : Candidate} (member : c ∈ rank cs) :
    c.order < cs.length ∧ ∃ given ∈ cs, c.priority = given.priority ∧ c.kind = given.kind := by
  have numbered := (List.mergeSort_perm _ _).mem_iff.1 member
  obtain ⟨i, bound, rfl⟩ := List.mem_mapIdx.1 numbered
  exact ⟨bound, cs[i], List.getElem_mem bound, rfl, rfl⟩

theorem length_rank (cs : List Candidate) : (rank cs).length = cs.length := by
  simp [rank]

theorem orders_distinct (cs : List Candidate) : (rank cs).Pairwise fun a b => a.order ≠ b.order := by
  have numbered : (cs.mapIdx fun i c => { c with order := i }).Pairwise fun a b => a.order ≠ b.order := by
    rw [List.pairwise_iff_getElem]
    intro i j hi hj before
    simp only [List.getElem_mapIdx]
    omega
  exact numbered.perm (List.mergeSort_perm _ _).symm Ne.symm

/-- Candidates that come with ascending priorities are ranked as they come. -/
theorem rank_of_ascending (cs : List Candidate) (ascending : cs.Pairwise fun a b => a.priority ≤ b.priority) :
    rank cs = cs.mapIdx fun i c => { c with order := i } := by
  apply List.mergeSort_of_pairwise
  rw [List.pairwise_iff_getElem] at ascending ⊢
  intro i j hi hj before
  have bounds : i < cs.length ∧ j < cs.length := by simpa using And.intro hi hj
  have priorities := ascending i j bounds.1 bounds.2 before
  simp only [List.getElem_mapIdx, Candidate.ranksBefore, Bool.or_eq_true, Bool.and_eq_true, decide_eq_true_eq]
  omega

/-- A ranked list is in the strict order of the ranking. -/
theorem outranks_rank (cs : List Candidate) : (rank cs).Pairwise Candidate.Outranks := by
  have ranked : (rank cs).Pairwise fun a b => a.ranksBefore b := by
    apply List.pairwise_mergeSort
    · intro a b c
      simp only [Candidate.ranksBefore, Bool.or_eq_true, Bool.and_eq_true, decide_eq_true_eq]
      omega
    · intro a b
      simp only [Candidate.ranksBefore, Bool.or_eq_true, Bool.and_eq_true, decide_eq_true_eq]
      omega
  apply (ranked.and (orders_distinct cs)).imp
  intro a b both
  simp only [Candidate.ranksBefore, Bool.or_eq_true, Bool.and_eq_true, decide_eq_true_eq] at both
  unfold Candidate.Outranks
  omega

/-- The sort texts of a ranked list follow the ranking if and only if they do so for each two priorities. -/
theorem sortTexts_increase_iff (cs : List Candidate) (fits : cs.length ≤ 10 ^ Candidate.orderWidth) :
    ((rank cs).Pairwise fun a b => a.sortText < b.sortText) ↔
      ∀ a ∈ rank cs, ∀ b ∈ rank cs, a.priority < b.priority →
        a.priority < leadingDigits b.priority a.priority := by
  constructor
  · intro increase a ha b hb less
    have forth : (rank cs).Pairwise fun a b => a.priority < b.priority → a.sortText < b.sortText := by
      apply increase.imp
      intro a b before _
      exact before
    have back : (rank cs).Pairwise fun a b => b.priority < a.priority → b.sortText < a.sortText := by
      apply (outranks_rank cs).imp
      intro a b outranks more
      unfold Candidate.Outranks at outranks
      omega
    have each := forth.forall_of_forall_of_flip (fun a _ same => absurd same (Nat.lt_irrefl _)) back
    exact (Candidate.sortText_lt_of_priority_lt less).1 (each ha hb less)
  · intro agree
    apply (outranks_rank cs).imp_of_mem
    intro a b ha hb outranks
    rcases outranks with less | ⟨same, before⟩
    · exact (Candidate.sortText_lt_of_priority_lt less).2 (agree a ha b hb less)
    · have boundA := (mem_rank ha).1
      have boundB := (mem_rank hb).1
      exact (Candidate.sortText_lt_of_priority_eq same (by omega) (by omega)).2 before

/-! ### Priorities of the contexts -/

/-- Whether a candidate is a variable or has a priority of one digit. -/
def Candidate.Plain (c : Candidate) : Prop := c.kind = .templateVariable ∨ c.priority < 10

section Contexts

variable {r : Request} {p : Prepared} {path : Path} {c : Candidate}

theorem plain_keywordCandidates {keywords : List String} (member : c ∈ keywordCandidates p path keywords) :
    c.Plain := by
  obtain ⟨k, -, rfl⟩ := List.mem_map.1 member
  right
  simp only [Candidate.make]
  split
  · decide
  · decide

theorem plain_moduleCandidates (member : c ∈ moduleCandidates r p path) : c.Plain := by
  obtain ⟨fullName, -, offered⟩ := List.mem_filterMap.1 member
  right
  simp only [moduleCandidate?, Option.bind_eq_bind, Option.pure_def] at offered
  split at offered
  next => exact nomatch offered
  next =>
      obtain ⟨parts, -, made⟩ := Option.bind_eq_some_iff.1 offered
      rw [← Option.some.inj made]
      dsimp only [Candidate.make]
      split
      · decide
      · decide

theorem plain_optionCandidates {options : OptionSet} (member : c ∈ optionCandidates r p path options) : c.Plain := by
  obtain ⟨⟨name, option⟩, -, offered⟩ := List.mem_filterMap.1 member
  right
  simp only [Option.ite_none_left_eq_some, Option.some.injEq] at offered
  rw [← offered.2]
  dsimp only [Candidate.make]
  split
  · decide
  · split
    · decide
    · decide

theorem plain_valueCandidates {option : OptionDoc} (member : c ∈ valueCandidates p path option) : c.Plain := by
  obtain ⟨v, -, rfl⟩ := List.mem_map.1 member
  right
  dsimp only [Candidate.make]
  split
  · decide
  · decide

theorem plain_variableCandidates {vars : List (String × Nat)} (member : c ∈ variableCandidates vars) : c.Plain := by
  obtain ⟨v, -, rfl⟩ := List.mem_map.1 member
  exact .inl rfl

theorem plain_contextCandidates {context : Context} (member : c ∈ contextCandidates r p path context) : c.Plain := by
  cases context with
  | playKey => exact plain_keywordCandidates member
  | blockKey => exact plain_keywordCandidates member
  | roleKey => exact plain_keywordCandidates member
  | taskKey openPlay =>
      simp only [contextCandidates, taskCandidates, List.mem_append] at member
      rcases member with (task | play) | owned
      · exact plain_keywordCandidates task
      · split at play
        · exact plain_keywordCandidates play
        · exact absurd play List.not_mem_nil
      · split at owned
        · rcases List.mem_append.1 owned with block | module
          · exact plain_keywordCandidates block
          · exact plain_moduleCandidates module
        · exact absurd owned List.not_mem_nil
  | template => exact plain_variableCandidates member
  | optionKey options => exact plain_optionCandidates member
  | optionValue option => exact plain_valueCandidates member

end Contexts

/-! ### Answers to requests -/

/-- The lists that a request can be answered with: the ranked candidates of a context at a place. -/
def Request.Answers (r : Request) (cs : List Candidate) : Prop :=
  ∃ p path context, cs = rank (contextCandidates r p path context)

theorem answers_of_complete {r : Request} {cs : List Candidate} (h : complete r = some cs) : r.Answers cs := by
  simp only [complete, Option.bind_eq_bind, Option.bind_eq_some_iff, Option.pure_def, Option.some.injEq] at h
  obtain ⟨p, -, path, -, context, -, rfl⟩ := h
  exact ⟨p, path, context, rfl⟩

/-- The candidates that a request is answered with are strictly ranked, and their sort texts are in the same order if
    and only if every two priorities compare by leading digits as they do by number. Where they are not, a variable of
    the tenth scope or of one further out is among them. -/
theorem sort_texts_follow_rank (r : Request) :
    (∀ cs, complete r = some cs → r.Answers cs) ∧
    ∀ cs, r.Answers cs → cs.length ≤ 2 ^ 64 →
      cs.Pairwise Candidate.Outranks ∧
      ((cs.Pairwise fun a b => a.sortText < b.sortText) ↔
        ∀ a ∈ cs, ∀ b ∈ cs, a.priority < b.priority → a.priority < leadingDigits b.priority a.priority) ∧
      ((¬ cs.Pairwise fun a b => a.sortText < b.sortText) →
        ∃ b ∈ cs, b.kind = .templateVariable ∧ 10 ≤ b.priority) := by
  constructor
  · intro cs answered
    exact answers_of_complete answered
  · rintro cs ⟨p, path, context, rfl⟩ fits
    rw [length_rank] at fits
    have increase := sortTexts_increase_iff (contextCandidates r p path context) (fits.trans (by decide))
    constructor
    · exact outranks_rank _
    constructor
    · exact increase
    · intro astray
      by_contra near
      apply astray
      rw [increase]
      have small : ∀ c ∈ rank (contextCandidates r p path context), c.priority < 10 := by
        intro c member
        obtain ⟨-, given, among, priority, kind⟩ := mem_rank member
        rcases plain_contextCandidates among with template | low
        · by_contra far
          exact near ⟨c, member, kind.trans template, Nat.le_of_not_lt far⟩
        · rw [priority]
          exact low
      intro a ha b hb less
      rw [leadingDigits_of_small (small a ha) (small b hb)]
      exact less

/-! ### Variables of nested blocks -/

/-- A request for a document without any library. -/
def plainRequest : Request where
  uri := { scheme := "file", path := "/site.yml" }
  text := ""
  position := ⟨0, 0⟩
  settings := {}
  library := {}
  roleCollections := []
  fs := .empty

/-- The start of a list item in a column, where something stands under a key. It may have a variable. -/
def itemStart : String × Bool → Nat → List Char
  | (key, true), column => List.replicate column ' ' ++ "- vars:\n".toList ++ List.replicate (column + 4) ' ' ++
      "port: 1\n".toList ++ List.replicate (column + 2) ' ' ++ key.toList ++ [':', '\n']
  | (key, false), column => List.replicate column ' ' ++ "- ".toList ++ key.toList ++ [':', '\n']

/-- A task with a variable and a message, inside items that are nested under given keys. -/
def nestedText : List (String × Bool) → Nat → List Char
  | [], column => itemStart ("debug", true) column ++ List.replicate (column + 4) ' ' ++
      "msg: \"\x7b\x7b  \x7d\x7d\"\n".toList
  | item :: items, column => itemStart item column ++ nestedText items (column + 4)

/-- The tree of an item whose lines start at a byte, up to the end of the text. -/
def itemTree : String × Bool → (column start stop : Nat) → Concrete → Concrete
  | (key, true), column, start, stop, value =>
    let vars := start + column + 2
    let port := vars + column + 10
    let last := port + column + 10
    itemAt (start + column) stop column (mappingAt none vars stop column
      [entryAt vars (port + 7) (column + 2) (vars + 4) (mappingAt (some .value) port (port + 7) (column + 2)
         [entryAt port (port + 7) (column + 4) (port + 4)
           (wordAt .value (port + 6) (port + 7) (column + 4) (column + 10))]),
       entryAt last stop (column + 2) (last + key.length) value])
  | (key, false), column, start, stop, value =>
    let first := start + column + 2
    itemAt (start + column) stop column (mappingAt none first stop column
      [entryAt first stop (column + 2) (first + key.length) value])

/-- The tree of a nested task. -/
def nestedTree : List (String × Bool) → Nat → Nat → Nat → Concrete
  | [], column, start, stop =>
    let message := start + (itemStart ("debug", true) column).length + column + 4
    itemTree ("debug", true) column start stop (mappingAt (some .value) message stop (column + 2)
      [entryAt message (stop - 1) (column + 4) (message + 3)
        (quotedAt (message + 5) (stop - 1) (column + 4) (column + 9))])
  | item :: items, column, start, stop =>
    let inner := start + (itemStart item column).length
    itemTree item column start stop (sequenceAt (some .value) (inner + column + 4) stop (column + 2)
      [nestedTree items (column + 4) inner stop])

/-- The items around a task that is inside a number of blocks of a play. Of the blocks the innermost has a variable. -/
def itemsAround : Nat → List (String × Bool)
  | 0 => [("tasks", true)]
  | blocks + 1 => ("tasks", true) :: List.replicate blocks ("block", false) ++ [("block", true)]

/-- A play with such a task. -/
def blocksText (blocks : Nat) : List Char := nestedText (itemsAround blocks) 0

/-- A request in the message of the task, on the last line. -/
def blocksRequest (blocks : Nat) : Request := { plainRequest with
  text := String.ofList (blocksText blocks)
  position := ⟨(blocksText blocks).count '\n' - 1, 4 * blocks + 17⟩ }

/-- The tree of the play, up to a byte. -/
def blocksTree (blocks stop : Nat) : Concrete :=
  streamOf stop (sequenceAt none 0 stop 0 [nestedTree (itemsAround blocks) 0 0 stop])

/-- Its text with the placeholder. -/
def blocksPrepared (blocks : Nat) : Prepared :=
  (Prepared.ofText? (blocksText blocks) (blocksRequest blocks).position).getD default

/-- The ranked candidates for a variable of some scopes. -/
def portsOf (scopes : List Nat) : List Candidate := rank (variableCandidates (scopes.map fun scope => ("port", scope)))

/-- Whether the text leads to a template in a playbook, with a variable in each of some scopes. -/
def blocksLead (blocks : Nat) (scopes : List Nat) : Bool :=
  let r := blocksRequest blocks
  let p := blocksPrepared blocks
  let text := blocksText blocks
  (Prepared.ofText? text r.position).isSome && isPlaybookIn text (blocksTree blocks text.length) &&
    (placeIn? p (blocksTree blocks p.patched.length)).any fun path => !atKnownKey r path && p.insideTemplate path &&
      visibleVariables path r.uri r.fs = scopes.map fun scope => ("port", scope)

/-- If the parser gives the trees of the text without and with the placeholder, these candidates are the answer. -/
theorem complete_in_blocks {blocks : Nat} {scopes : List Nat} (leads : blocksLead blocks scopes = true) :
    (blocksRequest blocks).Answers (portsOf scopes) ∧
    (ReadAs (blocksRequest blocks).text (blocksTree blocks (blocksRequest blocks).text.toList.length) →
      ReadAs (String.ofList (blocksPrepared blocks).patched)
        (blocksTree blocks (blocksPrepared blocks).patched.length) →
      complete (blocksRequest blocks) = some (portsOf scopes)) := by
  simp only [blocksLead, Bool.and_eq_true, Option.any_eq_true, Bool.not_eq_true', decide_eq_true_eq] at leads
  obtain ⟨⟨prepared, playbook⟩, path, place, ⟨other, inside⟩, seen⟩ := leads
  have candidates : rank (contextCandidates (blocksRequest blocks) (blocksPrepared blocks) path .template) =
      portsOf scopes := by
    rw [contextCandidates, seen, portsOf]
  constructor
  · exact ⟨_, _, _, candidates.symm⟩
  · intro read readPatched
    have chars : (blocksRequest blocks).text.toList = blocksText blocks := String.toList_ofList
    rw [chars] at read
    rw [← candidates]
    refine complete_of_readAs ?_ place (classify?_of_inside other ?_ inside) readPatched
    · obtain ⟨p, same⟩ := Option.isSome_iff_exists.1 prepared
      rw [chars, blocksPrepared, same]
      rfl
    · rw [isPlaybook_of_readAs read, chars]
      exact playbook

/-- Between the variables of a task and of its play the sort texts are in the order of the ranking. -/
theorem task_and_play_variables_sort_as_ranked :
    (blocksRequest 0).Answers (portsOf [1, 2]) ∧
    ((portsOf [1, 2]).Pairwise fun a b => a.sortText < b.sortText) ∧
    (ReadAs (blocksRequest 0).text (blocksTree 0 (blocksRequest 0).text.toList.length) →
      ReadAs (String.ofList (blocksPrepared 0).patched) (blocksTree 0 (blocksPrepared 0).patched.length) →
      complete (blocksRequest 0) = some (portsOf [1, 2])) := by
  obtain ⟨answers, completes⟩ := complete_in_blocks (show blocksLead 0 [1, 2] = true by decide +kernel)
  have listed : portsOf [1, 2] = _ := rank_of_ascending _ (by decide +kernel)
  have few : (portsOf [1, 2]).length ≤ 2 ^ 64 := by
    rw [listed]
    decide +kernel
  have follow := (sort_texts_follow_rank (blocksRequest 0)).2 _ answers few
  refine ⟨answers, ?_, completes⟩
  rw [follow.2.1, listed]
  decide +kernel

/-- Inside eight blocks the play is the tenth scope, and its variable sorts before that of the innermost block. -/
theorem tenth_scope_sorts_before_second : ∃ cs, (blocksRequest 8).Answers cs ∧
    (¬ cs.Pairwise fun a b => a.sortText < b.sortText) ∧
    (ReadAs (blocksRequest 8).text (blocksTree 8 (blocksRequest 8).text.toList.length) →
      ReadAs (String.ofList (blocksPrepared 8).patched) (blocksTree 8 (blocksPrepared 8).patched.length) →
      complete (blocksRequest 8) = some cs) := by
  obtain ⟨answers, completes⟩ := complete_in_blocks (show blocksLead 8 [1, 2, 10] = true by decide +kernel)
  have listed : portsOf [1, 2, 10] = _ := rank_of_ascending _ (by decide +kernel)
  refine ⟨_, answers, ?_, completes⟩
  rw [listed]
  decide +kernel

end Completion

end PlaybookServer
