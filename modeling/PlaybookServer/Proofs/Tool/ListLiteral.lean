/-
Module: PlaybookServer.Proofs.Tool.ListLiteral
Purpose: What is read of a list literal. Its texts stand between single quotes, or between double quotes if they have
  single ones; the reader takes each single quote for a double one, so the single quotes of a text end it too early.
  A literal is read back exactly if none of its texts has a single quote, and nothing at all is read of one with an
  odd number of them in its texts, whatever else it lists.
Main exports: listLiteral, requoted, requoted_literal, readStringList_cases, mem_ofSearchPath_iff,
  list_literal_is_read_back_iff
-/
import PlaybookServer.Proofs.Json.TextList
import PlaybookServer.Proofs.Text.Trim
import PlaybookServer.Proofs.Tool.Words
import PlaybookServer.Tool.Discovery

namespace PlaybookServer.Tool

open Text Json Docs

/-! ### Literals -/

/-- A text between single quotes, or between double ones if it has single ones. -/
def quotedItem (x : String) : List Char :=
  let mark := if '\'' ∈ x.toList then '"' else '\''
  mark :: (x.toList ++ [mark])

/-- The literal of a list of texts that have neither double quotes nor backslashes. -/
def listLiteral (xs : List String) : String :=
  String.ofList ('[' :: (joinWith [',', ' '] (xs.map quotedItem) ++ [']']))

/-- A text with double quotes for its single ones. -/
def requoted (cs : List Char) : List Char := cs.map fun c => if c = '\'' then '"' else c

section Literals

variable {c : Char} {cs : List Char} {x : String} {xs : List String}

theorem toList_replaced_quotes (s : String) : (replaced "'" "\"" s).toList = requoted s.toList := by
  have each := replaceAll_go_singleton '\'' ['"'] s.toList s.toList.length (Nat.le_refl _)
  rw [replaced, String.toList_ofList, requoted, List.map_eq_flatMap]
  refine each.trans (congrArg (List.flatMap · s.toList) (funext fun c => ?_))
  split <;> rfl

theorem notMem_requoted (cs : List Char) : '\'' ∉ requoted cs := by
  rw [requoted, List.mem_map]
  rintro ⟨c, -, same⟩
  split at same <;> simp_all

theorem requoted_eq_self (noQuote : '\'' ∉ cs) : requoted cs = cs := by
  calc
    _ = cs.map id := List.map_congr_left fun c among => if_neg (ne_of_mem_of_not_mem among noQuote)
    _ = cs := List.map_id cs

theorem count_requoted (noDouble : '"' ∉ cs) : (requoted cs).count '"' = cs.count '\'' := by
  induction cs with
  | nil => rfl
  | cons c cs ih =>
      have rest := ih (List.not_mem_of_not_mem_cons noDouble)
      have other : c ≠ '"' := Ne.symm (List.ne_of_not_mem_cons noDouble)
      rw [requoted, List.map_cons, ← requoted]
      split
      next single => rw [List.count_cons_self, rest, single, List.count_cons_self]
      next kept => rw [List.count_cons_of_ne other, rest, List.count_cons_of_ne kept]

/-- Whatever a text stands between, it is read as one between double quotes. -/
theorem requoted_quotedItem (x : String) : requoted (quotedItem x) = '"' :: (requoted x.toList ++ ['"']) := by
  rw [quotedItem]
  split <;> simp [requoted]

theorem requoted_joinWith (parts : List (List Char)) :
    requoted (joinWith [',', ' '] parts) = joinWith [',', ' '] (parts.map requoted) := by
  cases parts with
  | nil => rfl
  | cons part parts =>
      rw [List.map_cons, joinWith_cons_eq_flatMap, joinWith_cons_eq_flatMap, List.flatMap_map, requoted,
        List.map_append, List.map_flatMap]
      simp [requoted]

/-- A literal is read as one whose texts all stand between double quotes. -/
theorem requoted_literal (xs : List String) : requoted (listLiteral xs).toList =
    '[' :: (joinWith [',', ' '] (xs.map fun x => '"' :: (requoted x.toList ++ ['"'])) ++ [']']) := by
  rw [listLiteral, String.toList_ofList]
  show '[' :: requoted (joinWith [',', ' '] (xs.map quotedItem) ++ [']']) = _
  rw [requoted, List.map_append, ← requoted, requoted_joinWith, List.map_map]
  simp only [Function.comp_def, requoted_quotedItem]
  rfl

theorem trim_literal (xs : List String) : trim (listLiteral xs).toList = (listLiteral xs).toList := by
  rw [listLiteral, String.toList_ofList]
  apply trim_eq_self
  · rintro c ⟨⟩
    decide
  · intro c last
    rw [← List.cons_append, List.getLast?_concat] at last
    cases last
    decide

theorem notMem_literal (plain : ∀ x ∈ xs, StandsForItself x.toList) : '\\' ∉ (listLiteral xs).toList := by
  have each : ∀ x ∈ xs, '\\' ∉ quotedItem x := by
    intro x listed
    have unescaped : '\\' ∉ x.toList := fun among => (plain x listed _ among).2.1 rfl
    rw [quotedItem]
    split <;> simp [unescaped]
  have items : '\\' ∉ joinWith [',', ' '] (xs.map quotedItem) := by
    rw [← List.count_eq_zero, count_joinWith (by decide), List.count_eq_zero]
    simpa using each
  rw [listLiteral, String.toList_ofList]
  simpa using items

/-- The quotes of a literal are two for each text, and those of the texts. -/
theorem count_requoted_literal (plain : ∀ x ∈ xs, StandsForItself x.toList) :
    (requoted (listLiteral xs).toList).count '"' = 2 * xs.length + (xs.flatMap String.toList).count '\'' := by
  rw [requoted_literal, List.count_cons_of_ne (by decide), List.count_append, count_joinWith (by decide)]
  show _ + 0 = _
  induction xs with
  | nil => rfl
  | cons x xs ih =>
      rw [List.forall_mem_cons] at plain
      have own : (requoted x.toList).count '"' = x.toList.count '\'' :=
        count_requoted fun among => (plain.1 _ among).1 rfl
      rw [List.map_cons, List.flatten_cons, List.count_append, List.count_cons_self, List.count_append, own,
        List.flatMap_cons, List.count_append, List.length_cons]
      have rest := ih plain.2
      have closing : ['"'].count '"' = 1 := rfl
      omega

/-- Texts between double quotes are listed if they stand for themselves. -/
theorem readsTexts_of_standForThemselves (plain : ∀ x ∈ xs, StandsForItself x.toList) :
    ReadsTexts true (joinWith [',', ' '] (xs.map fun x => '"' :: (x.toList ++ ['"'])) ++ [']']) xs [] := by
  have later : ∀ (xs : List String), (∀ x ∈ xs, StandsForItself x.toList) →
      ReadsTexts false ((xs.map fun x => '"' :: (x.toList ++ ['"'])).flatMap ([',', ' '] ++ ·) ++ [']']) xs [] := by
    intro xs plain
    induction xs with
    | nil => exact .ends rfl
    | cons x xs ih =>
        rw [List.forall_mem_cons] at plain
        rw [List.map_cons, List.flatMap_cons, List.append_assoc]
        exact .next rfl (by simp [isSpacing, List.dropWhile]) plain.1 (ih plain.2)
  cases xs with
  | nil => exact .ends rfl
  | cons x xs =>
      rw [List.forall_mem_cons] at plain
      rw [List.map_cons, joinWith_cons_eq_flatMap, List.append_assoc]
      exact .first (by simp [isSpacing]) plain.1 (later xs plain.2)

end Literals

/-! ### Reading -/

section Reading

variable {text : String} {values xs : List String}

theorem toList_replaced_trimmed (text : String) :
    (replaced "'" "\"" (trimmed text)).toList = requoted (trim text.toList) := by
  rw [toList_replaced_quotes, trimmed, String.toList_ofList]

/-- What is listed between double quotes is read, but for empty texts. -/
theorem readStringList_of_listsTexts (lists : ListsTexts (requoted (trim text.toList)) values) :
    readStringList text = values.filter (· ≠ "") := by
  rw [← toList_replaced_trimmed] at lists
  have texts : (values.map Json.string).mapM Json.asString? = some values := mapM_asString?_eq_some_iff.2 rfl
  unfold readStringList
  simp only [ofText_of_listsTexts lists, texts]

/-- Without a backslash a text is a list between double quotes, or nothing is read of it. -/
theorem readStringList_cases (free : '\\' ∉ trim text.toList) :
    (∃ values, ListsTexts (requoted (trim text.toList)) values ∧ readStringList text = values.filter (· ≠ "")) ∨
      readStringList text = [] := by
  have further : '\\' ∉ (replaced "'" "\"" (trimmed text)).toList := by
    rw [toList_replaced_trimmed, requoted, List.mem_map]
    rintro ⟨c, among, same⟩
    split at same
    next => cases same
    next => exact free (same ▸ among)
  unfold readStringList
  split
  next items read =>
      split
      next values texts =>
          rw [mapM_asString?_eq_some_iff] at texts
          subst texts
          have lists := listsTexts_of_ofText further read
          rw [toList_replaced_trimmed] at lists
          exact .inl ⟨values, lists, rfl⟩
      next => exact .inr rfl
  next => exact .inr rfl

theorem readStringList_literal (plain : ∀ x ∈ xs, StandsForItself x.toList) (unquoted : ∀ x ∈ xs, '\'' ∉ x.toList) :
    readStringList (listLiteral xs) = xs.filter (· ≠ "") := by
  apply readStringList_of_listsTexts
  have same : (xs.map fun x => '"' :: (requoted x.toList ++ ['"'])) = xs.map fun x => '"' :: (x.toList ++ ['"']) :=
    List.map_congr_left fun x listed => by rw [requoted_eq_self (unquoted x listed)]
  rw [trim_literal, requoted_literal, same]
  exact ⟨_, [], rfl, readsTexts_of_standForThemselves plain, by simp⟩

/-- No text that is read of a literal has a single quote. -/
theorem notMem_of_mem_readStringList (plain : ∀ x ∈ xs, StandsForItself x.toList) {value : String}
    (read : value ∈ readStringList (listLiteral xs)) : '\'' ∉ value.toList := by
  rcases readStringList_cases (trim_literal xs ▸ notMem_literal plain) with ⟨values, lists, same⟩ | nothing
  · obtain ⟨more, following, opens, items, -⟩ := lists
    rw [same] at read
    intro among
    have inside : '\'' ∈ requoted (trim (listLiteral xs).toList) := by
      apply (List.dropWhile_sublist isSpacing).mem
      rw [opens]
      exact List.mem_cons_of_mem _ (items.mem_of_mem (List.mem_of_mem_filter read) among)
    exact notMem_requoted _ inside
  · rw [nothing] at read
    cases read

/-- Where the texts of a literal have an odd number of single quotes, nothing is read. -/
theorem readStringList_eq_nil_of_odd (plain : ∀ x ∈ xs, StandsForItself x.toList)
    (odd : ¬2 ∣ (xs.flatMap String.toList).count '\'') : readStringList (listLiteral xs) = [] := by
  rcases readStringList_cases (trim_literal xs ▸ notMem_literal plain) with ⟨values, lists, -⟩ | nothing
  · obtain ⟨more, following, opens, items, blank⟩ := lists
    have quotes := count_requoted_literal plain
    have noMore : following.count '"' = 0 := List.count_eq_zero.2 fun among => absurd (blank _ among) (by decide)
    rw [trim_literal] at opens
    rw [← count_dropWhile_isSpacing _ (by decide), opens, List.count_cons_of_ne (by decide), items.count_quotes,
      noMore] at quotes
    omega
  · exact nothing

end Reading

/-! ### Paths -/

section Paths

variable {listed path : String} {p : ToolPaths}

theorem mem_foldl_add_iff (entries known : List String) :
    path ∈ entries.foldl (fun ps entry => if ps.contains entry then ps else ps ++ [entry]) known ↔
      path ∈ known ∨ path ∈ entries := by
  induction entries generalizing known with
  | nil => simp
  | cons entry entries ih =>
      rw [List.foldl_cons, ih]
      split
      next among =>
          rw [List.contains_iff_mem] at among
          grind
      next => grind

theorem mem_ofSearchPath_iff : path ∈ (ofSearchPath listed p).collectionsPaths ↔
    path ∈ p.collectionsPaths ∨ path ∈ readStringList listed := by
  simp only [ofSearchPath]
  rw [mem_foldl_add_iff]

theorem collectionsPaths_ofConfigDump {dump : String}
    (under : (parseConfigDump dump).get? "COLLECTIONS_PATHS" = some listed) :
    (ofConfigDump dump p).collectionsPaths = readStringList listed := by
  simp only [ofConfigDump, listUnder?, under, Option.map_some, Option.getD_some]

theorem mem_moduleLocations_ofVersionReport {report : String}
    (under : (parseVersionInfo report).get? "configured module search path" = some listed)
    (read : path ∈ readStringList listed) : path ∈ (ofVersionReport report p).moduleLocations := by
  have searched : (listUnder? (parseVersionInfo report) "configured module search path").getD p.moduleLocations =
      readStringList listed := by
    rw [listUnder?, under, Option.map_some, Option.getD_some]
  simp only [ofVersionReport, searched]
  cases (parseVersionInfo report).get? "ansible python module location" with
  | some location => simp only [List.mem_append, read, true_or]
  | none => simp only [read]

end Paths

/-- The literal of a list is read back, without its empty texts, exactly if no text has a single quote; none that has
    one is ever read. Where there is an odd number of them nothing is read, so no path of the list is found; where there
    is none, all are. -/
theorem list_literal_is_read_back_iff (xs : List String) (plain : ∀ x ∈ xs, StandsForItself x.toList) :
    (readStringList (listLiteral xs) = xs.filter (· ≠ "") ↔ ∀ x ∈ xs, '\'' ∉ x.toList) ∧
    (∀ value ∈ readStringList (listLiteral xs), '\'' ∉ value.toList) ∧
    (¬2 ∣ (xs.flatMap String.toList).count '\'' → readStringList (listLiteral xs) = [] ∧
      ∀ p : ToolPaths, ofSearchPath (listLiteral xs) p = p ∧
        ∀ dump, (parseConfigDump dump).get? "COLLECTIONS_PATHS" = some (listLiteral xs) →
          (ofConfigDump dump p).collectionsPaths = []) ∧
    ((∀ x ∈ xs, '\'' ∉ x.toList) → ∀ path ∈ xs, path ≠ "" → ∀ p : ToolPaths,
      path ∈ (ofSearchPath (listLiteral xs) p).collectionsPaths ∧
      (∀ dump, (parseConfigDump dump).get? "COLLECTIONS_PATHS" = some (listLiteral xs) →
        path ∈ (ofConfigDump dump p).collectionsPaths) ∧
      ∀ report, (parseVersionInfo report).get? "configured module search path" = some (listLiteral xs) →
        path ∈ (ofVersionReport report p).moduleLocations) := by
  refine ⟨⟨?_, readStringList_literal plain⟩, fun _ read => notMem_of_mem_readStringList plain read, ?_, ?_⟩
  · intro same x listed single
    have nonempty : x ≠ "" := by
      rintro rfl
      cases single
    have read : x ∈ readStringList (listLiteral xs) := by
      rw [same]
      exact List.mem_filter.2 ⟨listed, by simpa using nonempty⟩
    exact notMem_of_mem_readStringList plain read single
  · intro odd
    have nothing := readStringList_eq_nil_of_odd plain odd
    refine ⟨nothing, fun p => ⟨?_, fun dump under => ?_⟩⟩
    · rw [ofSearchPath, nothing, List.foldl_nil]
    · rw [collectionsPaths_ofConfigDump under, nothing]
  · intro unquoted path listed nonempty p
    have read : path ∈ readStringList (listLiteral xs) := by
      rw [readStringList_literal plain unquoted]
      exact List.mem_filter.2 ⟨listed, by simpa using nonempty⟩
    refine ⟨mem_ofSearchPath_iff.2 (.inr read), fun dump under => ?_, fun report under => ?_⟩
    · rwa [collectionsPaths_ofConfigDump under]
    · exact mem_moduleLocations_ofVersionReport under read

/-- Two paths, one with a comma, and an empty text. -/
theorem paths_with_comma_are_read_back :
    (∀ x ∈ ["/srv/a, b", "", "/usr/share/collections"], StandsForItself x.toList) ∧
    listLiteral ["/srv/a, b", "", "/usr/share/collections"] = "['/srv/a, b', '', '/usr/share/collections']" ∧
    readStringList (listLiteral ["/srv/a, b", "", "/usr/share/collections"]) =
      ["/srv/a, b", "/usr/share/collections"] ∧
    "/usr/share/collections" ∈ (ofConfigDump
      "COLLECTIONS_PATHS(env) = ['/srv/a, b', '', '/usr/share/collections']\n" {}).collectionsPaths := by
  have plain : ∀ x ∈ ["/srv/a, b", "", "/usr/share/collections"], StandsForItself x.toList := by decide
  have reads := list_literal_is_read_back_iff ["/srv/a, b", "", "/usr/share/collections"] plain
  refine ⟨plain, by decide, ?_, ?_⟩
  · exact reads.1.2 (by decide)
  · exact (reads.2.2.2 (by decide) _ (by decide) (by decide) {}).2.1 _ (by decide +kernel)

/-- One path with a single quote takes the other with it. -/
theorem single_quote_loses_all_paths :
    (∀ x ∈ ["/srv/it's/collections", "/usr/share/collections"], StandsForItself x.toList) ∧
    listLiteral ["/srv/it's/collections", "/usr/share/collections"] =
      "[\"/srv/it's/collections\", '/usr/share/collections']" ∧
    readStringList (listLiteral ["/srv/it's/collections", "/usr/share/collections"]) = [] := by
  have plain : ∀ x ∈ ["/srv/it's/collections", "/usr/share/collections"], StandsForItself x.toList := by decide
  exact ⟨plain, by decide, readStringList_eq_nil_of_odd plain (by decide)⟩

end PlaybookServer.Tool
