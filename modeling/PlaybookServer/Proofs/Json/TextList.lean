/-
Module: PlaybookServer.Proofs.Json.TextList
Purpose: Lists of texts as JSON. A list is read item by item; where a text has no backslash, each of its items ends at
  the next quote. So what is read as a list of texts is written as one, and the other way round: the quotes of the text
  come in pairs, one for each item, and an item consists of what stands between its quotes.
Main exports: StandsForItself, ReadsTexts, ReadsTexts.count_quotes, ReadsTexts.mem_of_mem, ListsTexts,
  ofText_of_listsTexts, listsTexts_of_ofText
-/
import PlaybookServer.Json.Cursor
import Mathlib.Data.List.DropRight

namespace PlaybookServer.Json

/-! ### Blanks -/

/-- Whether a character may stand between the parts of a text. -/
def isSpacing (c : Char) : Bool := c = ' ' || c = '\n' || c = '\t' || c = '\r'

@[simp] theorem Cursor.rest_step (k : Cursor) (c : Char) (rest : List Char) : (k.step c rest).rest = rest := by
  rw [Cursor.step]
  split <;> rfl

theorem Cursor.rest_skipBlanks (k : Cursor) : k.skipBlanks.rest = k.rest.dropWhile isSpacing := by
  suffices stood : ∀ (cs : List Char) (k : Cursor), k.rest = cs →
      (Cursor.skipBlanks.go cs k).rest = cs.dropWhile isSpacing from stood k.rest k rfl
  intro cs
  induction cs with
  | nil => exact fun k same => same
  | cons c cs ih =>
      intro k same
      rw [Cursor.skipBlanks.go]
      split
      next blank => rw [ih _ (k.rest_step c cs), List.dropWhile_cons_of_pos (by simpa [isSpacing] using blank)]
      next other => rw [same, List.dropWhile_cons_of_neg (by simpa [isSpacing] using other)]

/-- What stands behind a part of a text has no character that the text does not have. -/
theorem notMem_behind {c : Char} {text rest : List Char} (front : List Char) (absent : c ∉ text)
    (starts : text.dropWhile isSpacing = front ++ rest) : c ∉ rest := by
  intro among
  have inside : c ∈ text.dropWhile isSpacing := starts ▸ List.mem_append_right front among
  exact absent ((List.dropWhile_sublist _).mem inside)

/-! ### Texts between quotes -/

/-- Whether a text between quotes stands for itself. -/
def StandsForItself (cs : List Char) : Prop := ∀ c ∈ cs, c ≠ '"' ∧ c ≠ '\\' ∧ 0x20 ≤ c.toNat

instance (cs : List Char) : Decidable (StandsForItself cs) :=
  List.decidableBAll (fun c => c ≠ '"' ∧ c ≠ '\\' ∧ 0x20 ≤ c.toNat) cs

section Strings

variable {c : Char} {cs acc rest : List Char} {k k' : Cursor} {fuel : Nat} {s : String}

theorem standsForItself_cons :
    StandsForItself (c :: cs) ↔ (c ≠ '"' ∧ c ≠ '\\' ∧ 0x20 ≤ c.toNat) ∧ StandsForItself cs :=
  List.forall_mem_cons

/-- A text that stands for itself is read up to the quote behind it. -/
theorem readStringRest_of_standsForItself (acc : List Char) (stands : StandsForItself cs)
    (ahead : k.rest = cs ++ '"' :: rest) (enough : cs.length < fuel) :
    ∃ k', readStringRest false fuel k acc = .ok (String.ofList (acc.reverse ++ cs), k') ∧ k'.rest = rest := by
  induction cs generalizing k acc fuel with
  | nil =>
      obtain ⟨fuel, rfl⟩ := Nat.exists_eq_add_of_lt enough
      refine ⟨k.step '"' rest, ?_, k.rest_step _ _⟩
      simp [readStringRest, ahead]
  | cons c cs ih =>
      obtain ⟨⟨quote, backslash, control⟩, stands⟩ := standsForItself_cons.1 stands
      obtain ⟨fuel, rfl⟩ : ∃ n, fuel = n + 1 := ⟨fuel - 1, by omega⟩
      obtain ⟨k', reads, behind⟩ := ih (c :: acc) stands (k.rest_step c (cs ++ '"' :: rest))
        (Nat.lt_of_succ_lt_succ enough)
      refine ⟨k', ?_, behind⟩
      rw [List.reverse_cons, List.append_assoc, List.singleton_append] at reads
      simp [readStringRest, ahead, quote, backslash, Nat.not_lt.2 control, reads]

/-- Without a backslash what is read stood for itself. -/
theorem standsForItself_of_readStringRest (free : '\\' ∉ k.rest)
    (reads : readStringRest false fuel k acc = .ok (s, k')) :
    ∃ cs, s = String.ofList (acc.reverse ++ cs) ∧ StandsForItself cs ∧ k.rest = cs ++ '"' :: k'.rest := by
  induction fuel generalizing k acc with
  | zero => cases reads
  | succ fuel ih =>
      rw [readStringRest] at reads
      split at reads
      next => cases reads
      next c rest ahead =>
          rw [ahead] at free
          split at reads
          next quote =>
              cases reads
              exact ⟨[], by simp, by simp [StandsForItself], by simp [ahead, quote]⟩
          next other =>
              rw [if_neg (Ne.symm (List.ne_of_not_mem_cons free))] at reads
              split at reads
              next => cases reads
              next visible =>
                  have further : '\\' ∉ (k.step c rest).rest := by
                    rw [k.rest_step]
                    exact List.not_mem_of_not_mem_cons free
                  obtain ⟨cs, rfl, stands, behind⟩ := ih further reads
                  rw [k.rest_step] at behind
                  refine ⟨c :: cs, by simp, ?_, by simp [ahead, behind]⟩
                  exact standsForItself_cons.2 ⟨⟨other, Ne.symm (List.ne_of_not_mem_cons free), Nat.not_lt.1 visible⟩,
                    stands⟩

end Strings

/-! ### Values -/

section Values

variable {cs rest : List Char} {k k' : Cursor} {fuel depth : Nat} {s : String} {j : Json}

/-- A text is read from behind a quote, and a list from behind a bracket. -/
theorem opened_of_readValueWithin (reads : readValueWithin (fuel + 1) depth k = .ok (j, k')) :
    (∀ s, j = .string s → ∃ rest, k.skipBlanks.rest = '"' :: rest ∧
      readString (k.skipBlanks.step '"' rest) = .ok (s, k')) ∧
    (∀ items, j = .array items → ∃ rest, k.skipBlanks.rest = '[' :: rest ∧
      readItems fuel (depth - 1) true (k.skipBlanks.step '[' rest) = .ok (items, k')) := by
  rw [readValueWithin] at reads
  simp only [bind, Except.bind, pure, Except.pure] at reads
  split at reads
  next => cases reads
  next =>
      split at reads <;> cases reads
      exact ⟨nofun, nofun⟩
  next =>
      split at reads <;> cases reads
      exact ⟨nofun, nofun⟩
  next =>
      split at reads <;> cases reads
      exact ⟨nofun, nofun⟩
  next =>
      split at reads <;> cases reads
      exact ⟨nofun, nofun⟩
  next rest opens =>
      split at reads
      next => cases reads
      next read =>
          cases reads
          refine ⟨?_, nofun⟩
          rintro s ⟨⟩
          exact ⟨rest, opens, read⟩
  next rest opens =>
      split at reads
      next => cases reads
      next =>
          split at reads
          next => cases reads
          next read =>
              cases reads
              refine ⟨nofun, ?_⟩
              rintro items ⟨⟩
              exact ⟨rest, opens, read⟩
  next =>
      -- An object, a number or a fault.
      repeat' split at reads
      all_goals cases reads
      all_goals exact ⟨nofun, nofun⟩

/-- A quoted text that stands for itself is read as a value. -/
theorem readValueWithin_of_quoted (fuel depth : Nat)
    (opens : k.rest.dropWhile isSpacing = '"' :: (s.toList ++ '"' :: rest)) (stands : StandsForItself s.toList) :
    ∃ k', readValueWithin (fuel + 1) depth k = .ok (.string s, k') ∧ k'.rest = rest := by
  rw [← k.rest_skipBlanks] at opens
  have ahead : (k.skipBlanks.step '"' (s.toList ++ '"' :: rest)).rest = s.toList ++ '"' :: rest :=
    Cursor.rest_step _ _ _
  have enough : s.toList.length < (k.skipBlanks.step '"' (s.toList ++ '"' :: rest)).rest.length + 1 := by
    rw [ahead, List.length_append]
    omega
  obtain ⟨k', reads, behind⟩ := readStringRest_of_standsForItself [] stands ahead enough
  rw [List.reverse_nil, List.nil_append, String.ofList_toList] at reads
  have whole : readString (k.skipBlanks.step '"' (s.toList ++ '"' :: rest)) = .ok (s, k') := reads
  refine ⟨k', ?_, behind⟩
  rw [readValueWithin]
  simp only [opens, whole, bind, Except.bind, pure, Except.pure]

/-- Without a backslash a text that is read as a value is a quoted one. -/
theorem quoted_of_readValueWithin (free : '\\' ∉ k.rest) (reads : readValueWithin fuel depth k = .ok (.string s, k')) :
    StandsForItself s.toList ∧ k.rest.dropWhile isSpacing = '"' :: (s.toList ++ '"' :: k'.rest) := by
  cases fuel with
  | zero => cases reads
  | succ fuel =>
      obtain ⟨rest, opens, read⟩ := (opened_of_readValueWithin reads).1 s rfl
      rw [k.rest_skipBlanks] at opens
      have further : '\\' ∉ (k.skipBlanks.step '"' rest).rest := by
        rw [Cursor.rest_step]
        exact notMem_behind ['"'] free opens
      obtain ⟨cs, rfl, stands, behind⟩ := standsForItself_of_readStringRest further read
      rw [Cursor.rest_step] at behind
      simp only [List.reverse_nil, List.nil_append, String.toList_ofList]
      exact ⟨stands, by rw [opens, behind]⟩

end Values

/-! ### Lists of texts -/

/-- A text starts with the rest of a list of texts, from the next item or the end on, and another text follows it. -/
inductive ReadsTexts :
    (first : Bool) → (text : List Char) → (values : List String) → (following : List Char) → Prop where
  | ends {first : Bool} {text following : List Char} (closes : text.dropWhile isSpacing = ']' :: following) :
      ReadsTexts first text [] following
  | first {text more following : List Char} {value : String} {values : List String}
      (opens : text.dropWhile isSpacing = '"' :: (value.toList ++ '"' :: more)) (stands : StandsForItself value.toList)
      (rest : ReadsTexts false more values following) : ReadsTexts true text (value :: values) following
  | next {text behind more following : List Char} {value : String} {values : List String}
      (comma : text.dropWhile isSpacing = ',' :: behind)
      (opens : behind.dropWhile isSpacing = '"' :: (value.toList ++ '"' :: more))
      (stands : StandsForItself value.toList)
      (rest : ReadsTexts false more values following) : ReadsTexts false text (value :: values) following

section Lists

variable {first : Bool} {text following : List Char} {values : List String} {items : List Json} {k k' : Cursor}
  {fuel depth : Nat}

/-- Values are texts if they are given back as such. -/
theorem mapM_asString?_eq_some_iff : items.mapM Json.asString? = some values ↔ items = values.map .string := by
  induction items generalizing values with
  | nil => cases values <;> simp
  | cons item items ih =>
      cases values with
      | nil =>
          simp only [List.mapM_cons, List.map_nil, reduceCtorEq, iff_false]
          cases item.asString? <;> cases items.mapM Json.asString? <;> simp
      | cons value values =>
          have one : item.asString? = some value ↔ item = .string value := by cases item <;> simp [Json.asString?]
          rw [List.map_cons, List.cons.injEq, ← one, ← ih, List.mapM_cons]
          cases item.asString? <;> cases items.mapM Json.asString? <;> simp

/-- Nothing is skipped in front of a quote. -/
theorem dropWhile_of_quote {text rest : List Char} (opens : text = '"' :: rest) :
    text.dropWhile isSpacing = '"' :: rest := by
  rw [opens]
  exact List.dropWhile_cons_of_neg (by decide)

/-- A list of texts is read item by item. -/
theorem ReadsTexts.readItems (depth : Nat) (lists : ReadsTexts first text values following) (ahead : k.rest = text)
    (enough : values.length < fuel) : ∃ k', readItems fuel depth first k = .ok (values.map .string, k') ∧
      k'.rest = following := by
  induction lists generalizing k fuel with
  | ends closes =>
      obtain ⟨fuel, rfl⟩ : ∃ n, fuel = n + 1 := ⟨fuel - 1, by omega⟩
      rw [← ahead, ← k.rest_skipBlanks] at closes
      refine ⟨_, ?_, k.skipBlanks.rest_step ']' _⟩
      rw [Json.readItems]
      simp only [closes, List.map_nil]
      rfl
  | @first _ _ _ value _ opens stands _ ih =>
      obtain ⟨fuel, rfl⟩ : ∃ n, fuel = n + 2 := ⟨fuel - 2, by rw [List.length_cons] at enough; omega⟩
      rw [← ahead, ← k.rest_skipBlanks] at opens
      obtain ⟨one, read, behind⟩ := readValueWithin_of_quoted fuel depth (dropWhile_of_quote opens) stands
      obtain ⟨k', others, after⟩ := ih behind (Nat.lt_of_succ_lt_succ enough)
      refine ⟨k', ?_, after⟩
      rw [Json.readItems]
      simp only [opens, read, others, bind, Except.bind, pure, Except.pure, if_true]
      rfl
  | @next _ behind _ _ value _ comma opens stands _ ih =>
      obtain ⟨fuel, rfl⟩ : ∃ n, fuel = n + 2 := ⟨fuel - 2, by rw [List.length_cons] at enough; omega⟩
      rw [← ahead, ← k.rest_skipBlanks] at comma
      rw [← k.skipBlanks.rest_step ',' behind, ← Cursor.rest_skipBlanks] at opens
      obtain ⟨one, read, behind⟩ := readValueWithin_of_quoted fuel depth (dropWhile_of_quote opens) stands
      obtain ⟨k', others, after⟩ := ih behind (Nat.lt_of_succ_lt_succ enough)
      refine ⟨k', ?_, after⟩
      rw [Json.readItems]
      split
      next ended => cases comma.symm.trans ended
      next closes => cases comma.symm.trans closes
      next c cs _ starts =>
          obtain ⟨rfl, rfl⟩ := List.cons.inj (comma.symm.trans starts)
          simp only [opens, read, others, bind, Except.bind, pure, Except.pure, reduceCtorEq, if_false, if_true]
          rfl

/-- Where a value and then others are read, the first is one and the others are some. -/
theorem cons_of_bind {read : Except ReadFault (Json × Cursor)}
    {further : Cursor → Except ReadFault (List Json × Cursor)}
    (reads : (read.bind fun one => (further one.2).bind fun others => .ok (one.1 :: others.1, others.2)) =
      .ok (items, k')) :
    ∃ item others behind, items = item :: others ∧ read = .ok (item, behind) ∧ further behind = .ok (others, k') := by
  obtain _ | ⟨item, behind⟩ := read
  · cases reads
  · rw [Except.bind] at reads
    rcases same : further behind with _ | ⟨others, last⟩
    · rw [same] at reads
      cases reads
    · rw [same] at reads
      cases reads
      exact ⟨item, others, behind, rfl, rfl, same⟩

/-- A list ends, or an item of it is read, behind a comma unless it is the first, and then the others. -/
theorem item_of_readItems (reads : Json.readItems (fuel + 1) depth first k = .ok (items, k')) :
    (items = [] ∧ k.rest.dropWhile isSpacing = ']' :: k'.rest) ∨
      ∃ item others start behind, items = item :: others ∧
        (if first then start.rest = k.rest.dropWhile isSpacing
          else ∃ tail, k.rest.dropWhile isSpacing = ',' :: tail ∧ start.rest = tail.dropWhile isSpacing) ∧
        readValueWithin fuel depth start = .ok (item, behind) ∧
        Json.readItems fuel depth false behind = .ok (others, k') := by
  rw [Json.readItems] at reads
  rw [← k.rest_skipBlanks]
  simp only [bind, pure, Except.pure] at reads
  split at reads
  next => cases reads
  next rest closes =>
      cases reads
      exact .inl ⟨rfl, by rw [closes, Cursor.rest_step]⟩
  next c tail _ starts =>
      right
      split at reads
      next atStart =>
          obtain ⟨item, others, behind, rfl, one, rest⟩ := cons_of_bind reads
          exact ⟨item, others, _, behind, rfl, by rw [if_pos atStart], one, rest⟩
      next later =>
          split at reads
          next comma =>
              subst comma
              split at reads
              next => cases reads
              next => cases reads
              next =>
                  obtain ⟨item, others, behind, rfl, one, rest⟩ := cons_of_bind reads
                  refine ⟨item, others, _, behind, rfl, ?_, one, rest⟩
                  rw [if_neg later]
                  exact ⟨tail, starts, by rw [Cursor.rest_skipBlanks, Cursor.rest_step]⟩
          next => cases reads

/-- Without a backslash what is read as a list of texts is one. -/
theorem readsTexts_of_readItems (free : '\\' ∉ k.rest)
    (reads : Json.readItems fuel depth first k = .ok (values.map .string, k')) :
    ReadsTexts first k.rest values k'.rest := by
  induction fuel generalizing first k values with
  | zero => cases reads
  | succ fuel ih =>
      rcases item_of_readItems reads with ⟨empty, closes⟩ | ⟨item, others, start, behind, same, starts, one, rest⟩
      · rw [List.map_eq_nil_iff] at empty
        subst empty
        exact .ends closes
      · obtain ⟨value, values, rfl, rfl, rfl⟩ := List.map_eq_cons_iff.1 same
        have inside : start.rest.Sublist k.rest := by
          split at starts
          next => exact starts ▸ List.dropWhile_sublist _
          next =>
              obtain ⟨tail, comma, starts⟩ := starts
              have dropped : (',' :: tail).Sublist k.rest := comma ▸ List.dropWhile_sublist _
              exact starts ▸ (List.dropWhile_sublist _).trans ((List.sublist_cons_self _ _).trans dropped)
        obtain ⟨stands, opens⟩ := quoted_of_readValueWithin (fun among => free (inside.mem among)) one
        have further : '\\' ∉ behind.rest := by
          rw [← List.cons_append, List.append_cons] at opens
          exact notMem_behind _ (fun among => free (inside.mem among)) opens
        have more := ih further rest
        split at starts
        next atStart =>
            subst atStart
            rw [starts, List.dropWhile_idempotent] at opens
            exact .first opens stands more
        next later =>
            obtain ⟨tail, comma, starts⟩ := starts
            rw [starts, List.dropWhile_idempotent] at opens
            rw [Bool.not_eq_true] at later
            subst later
            exact .next comma opens stands more

/-- Skipping keeps what it does not skip. -/
theorem count_dropWhile_isSpacing {c : Char} (text : List Char) (kept : isSpacing c = false) :
    (text.dropWhile isSpacing).count c = text.count c := by
  have skipped : c ∉ text.takeWhile isSpacing := by
    intro among
    rw [List.mem_takeWhile_imp among] at kept
    cases kept
  conv_rhs => rw [← List.takeWhile_append_dropWhile (p := isSpacing) (l := text), List.count_append,
    List.count_eq_zero_of_not_mem skipped, Nat.zero_add]

/-- The quotes of a list are those around its items. -/
theorem ReadsTexts.count_quotes (lists : ReadsTexts first text values following) :
    text.count '"' = 2 * values.length + following.count '"' := by
  have quoteless {value : String} (stands : StandsForItself value.toList) : value.toList.count '"' = 0 :=
    List.count_eq_zero.2 fun among => (stands _ among).1 rfl
  induction lists with
  | @ends _ text _ closes =>
      rw [← count_dropWhile_isSpacing text (by decide), closes, List.count_cons_of_ne (by decide), List.length_nil,
        Nat.mul_zero, Nat.zero_add]
  | @first text _ _ _ _ opens stands _ ih =>
      rw [← count_dropWhile_isSpacing text (by decide), opens,
        List.count_cons_self, List.count_append, quoteless stands, List.count_cons_self, ih, List.length_cons]
      omega
  | @next text behind _ _ _ _ comma opens stands _ ih =>
      rw [← count_dropWhile_isSpacing text (by decide), comma, List.count_cons_of_ne (by decide),
        ← count_dropWhile_isSpacing behind (by decide), opens,
        List.count_cons_self, List.count_append, quoteless stands, List.count_cons_self, ih, List.length_cons]
      omega

/-- An item is made of characters of the text. -/
theorem ReadsTexts.mem_of_mem {c : Char} {value : String} (lists : ReadsTexts first text values following)
    (listed : value ∈ values) (among : c ∈ value.toList) : c ∈ text := by
  have inside {text : List Char} (later : c ∈ text.dropWhile isSpacing) : c ∈ text :=
    (List.dropWhile_sublist _).mem later
  induction lists with
  | ends => cases listed
  | first opens _ _ ih =>
      apply inside
      rw [opens]
      rcases List.mem_cons.1 listed with rfl | listed
      · simp [among]
      · simp [ih listed]
  | next comma opens _ _ ih =>
      apply inside
      rw [comma]
      apply List.mem_cons_of_mem
      apply inside
      rw [opens]
      rcases List.mem_cons.1 listed with rfl | listed
      · simp [among]
      · simp [ih listed]

end Lists

/-! ### Whole texts -/

/-- A text is a list of texts, with nothing but blanks around it. -/
def ListsTexts (text : List Char) (values : List String) : Prop :=
  ∃ more following, text.dropWhile isSpacing = '[' :: more ∧ ReadsTexts true more values following ∧
    ∀ c ∈ following, isSpacing c = true

section Whole

variable {text : String} {values : List String}

theorem readEnd_eq_ok_iff {k : Cursor} : readEnd k = .ok () ↔ ∀ c ∈ k.rest, isSpacing c = true := by
  rw [← List.dropWhile_eq_nil_iff, ← k.rest_skipBlanks, ← List.isEmpty_iff, readEnd]
  split <;> simp_all

/-- A list of texts is read as the array of them. -/
theorem ofText_of_listsTexts (lists : ListsTexts text.toList values) :
    Json.ofText text = .ok (.array (values.map .string)) := by
  obtain ⟨more, following, opens, items, blank⟩ := lists
  have enough : values.length < 2 * text.toList.length + 1 := by
    have quotes := items.count_quotes
    have kept : more.count '"' = text.toList.count '"' := by
      rw [← count_dropWhile_isSpacing text.toList (by decide), opens, List.count_cons_of_ne (by decide)]
    have bound : text.toList.count '"' ≤ text.toList.length := List.count_le_length
    omega
  rw [← show (Cursor.ofText text.toList).rest = text.toList from rfl, ← Cursor.rest_skipBlanks] at opens
  obtain ⟨k', reads, rfl⟩ := items.readItems (depthLimit - 1)
    ((Cursor.ofText text.toList).skipBlanks.rest_step '[' more) enough
  have value : readValue (Cursor.ofText text.toList) = .ok (.array (values.map .string), k') := by
    show readValueWithin (2 * text.toList.length + 1 + 1) depthLimit _ = _
    rw [readValueWithin]
    simp only [opens, reads, bind, Except.bind, pure, Except.pure]
    rfl
  rw [Json.ofText]
  simp only [value, readEnd_eq_ok_iff.2 blank, bind, Except.bind, pure, Except.pure]

/-- Without a backslash what is read as an array of texts is a list of them. -/
theorem listsTexts_of_ofText (free : '\\' ∉ text.toList)
    (reads : Json.ofText text = .ok (.array (values.map .string))) : ListsTexts text.toList values := by
  rw [Json.ofText] at reads
  simp only [bind, Except.bind, pure, Except.pure] at reads
  split at reads
  next => cases reads
  next read value =>
      split at reads
      next => cases reads
      next ended =>
          obtain ⟨j, k'⟩ := read
          cases reads
          obtain ⟨more, opens, items⟩ := (opened_of_readValueWithin value).2 _ rfl
          rw [Cursor.rest_skipBlanks] at opens
          have opens : text.toList.dropWhile isSpacing = '[' :: more := opens
          have further : '\\' ∉ ((Cursor.ofText text.toList).skipBlanks.step '[' more).rest := by
            rw [Cursor.rest_step]
            exact notMem_behind ['['] free opens
          have lists := readsTexts_of_readItems further items
          rw [Cursor.rest_step] at lists
          exact ⟨more, k'.rest, opens, lists, readEnd_eq_ok_iff.1 ended⟩

end Whole

end PlaybookServer.Json
