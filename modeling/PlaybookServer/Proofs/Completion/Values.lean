/-
Module: PlaybookServer.Proofs.Completion.Values
Purpose: The values offered for an option. Those that equal the option's default are marked and come first, and both
  parts keep the order in which the values are declared. The default of a truth value that is given as a word is
  compared as the truth value it stands for, while choices are compared as they are written: the default of such an
  option is not found among choices that are words.
Main exports: truthOfWord?, DeclaresDefault, OptionDoc.marks, OptionDoc.WordAmongChoices, marks_declared_iff,
  valueOffer, map_unnumbered_ranked_values, declared_default_first_unless_word_among_choices
-/
import PlaybookServer.Proofs.Completion.Options

namespace PlaybookServer

/-! ### Defaults -/

namespace Docs.OptionDoc

/-- Whether a value is marked as the default. -/
def marks (o : OptionDoc) (v : Yaml.Value) : Bool := (Completion.effectiveDefault? o).any v.same

/-- Whether the default of a truth value is a word while the choices are listed as they are written. -/
def WordAmongChoices (o : OptionDoc) : Prop :=
  o.choices ≠ [] ∧ o.typeName = some "bool" ∧ ∃ word, o.default = some (.string word)

end Docs.OptionDoc

namespace Completion

open Text Docs Source Playbook
open Yaml (Value)

/-- The truth value that a word stands for, however its letters are written. -/
def truthOfWord? (word : String) : Option Bool :=
  let lower := String.ofList (word.toList.map Char.toLower)
  if ["yes", "true", "on", "1"].contains lower then some true
  else if ["no", "false", "off", "0"].contains lower then some false
  else none

/-- An option declares which of the values it can take is its default: one that occurs among its choices, or without
    choices a truth value. -/
inductive DeclaresDefault (o : OptionDoc) : Value → Prop where
  | choice {d v : Value} (given : o.default = some d) (among : v ∈ o.choices) (same : v.same d = true) :
      DeclaresDefault o d
  | truth {b : Bool} (ofType : o.typeName = some "bool") (free : o.choices = [])
      (given : o.default = some (.bool b)) : DeclaresDefault o (.bool b)
  | word {b : Bool} {word : String} (ofType : o.typeName = some "bool") (free : o.choices = [])
      (given : o.default = some (.string word)) (means : truthOfWord? word = some b) : DeclaresDefault o (.bool b)

section Defaults

variable {o : OptionDoc} {d v : Value}

theorem effectiveDefault?_of_word {word : String} (ofType : o.typeName = some "bool")
    (given : o.default = some (.string word)) : effectiveDefault? o = some (.bool (isTrueWord word)) := by
  simp [effectiveDefault?, given, ofType]

/-- A default is taken as it is unless it is a word for a truth value. -/
theorem effectiveDefault?_of_given (given : o.default = some d)
    (plain : o.typeName = some "bool" → ∀ word, d ≠ .string word) : effectiveDefault? o = some d := by
  cases d with
  | string word =>
      have other : o.typeName ≠ some "bool" := fun ofType => plain ofType word rfl
      simp [effectiveDefault?, given, other]
  | _ => simp [effectiveDefault?, given]

theorem isTrueWord_of_truthOfWord? {word : String} {b : Bool} (means : truthOfWord? word = some b) :
    isTrueWord word = b := by
  rw [truthOfWord?] at means
  rw [isTrueWord]
  split at means
  next yes =>
      rw [yes]
      exact Option.some.inj means
  next other =>
      split at means
      next =>
          rw [Bool.eq_false_iff.2 other]
          exact Option.some.inj means
      next => cases means

/-- Without a word among choices the default that is compared is the declared one. -/
theorem effectiveDefault?_of_declares (declares : DeclaresDefault o d) (spelled : ¬ o.WordAmongChoices) :
    effectiveDefault? o = some d := by
  cases declares with
  | choice given among same =>
      apply effectiveDefault?_of_given given
      rintro ofType word rfl
      exact spelled ⟨List.ne_nil_of_mem among, ofType, word, given⟩
  | truth ofType free given =>
      apply effectiveDefault?_of_given given
      rintro _ word ⟨⟩
  | word ofType free given means =>
      rw [effectiveDefault?_of_word ofType given, isTrueWord_of_truthOfWord? means]

/-- Beside choices the declared default is given as it is. -/
theorem DeclaresDefault.given (declares : DeclaresDefault o d) (listed : o.choices ≠ []) : o.default = some d := by
  cases declares with
  | choice given => exact given
  | truth _ free => exact absurd free listed
  | word _ free => exact absurd free listed

/-- A word among choices is no truth value, so its mark is missing. -/
theorem marks_of_wordAmongChoices (declares : DeclaresDefault o d) (word : o.WordAmongChoices)
    (same : v.same d = true) : o.marks v = false := by
  obtain ⟨listed, ofType, word, given⟩ := word
  obtain rfl := Option.some.inj ((declares.given listed).symm.trans given)
  rw [OptionDoc.marks, effectiveDefault?_of_word ofType given]
  cases v with
  | string => rfl
  | _ => cases same

theorem possibleValues_of_declares (declares : DeclaresDefault o d) :
    possibleValues o = if o.choices = [] then [.bool true, .bool false] else o.choices := by
  by_cases free : o.choices = []
  · have ofType : o.typeName = some "bool" := by
      cases declares with
      | choice _ among => exact absurd free (List.ne_nil_of_mem among)
      | truth ofType => exact ofType
      | word ofType => exact ofType
    simp [possibleValues, free, ofType]
  · simp [possibleValues, free]

/-- The declared default is one of the possible values. -/
theorem DeclaresDefault.possible (declares : DeclaresDefault o d) : ∃ v ∈ possibleValues o, v.same d = true := by
  rw [possibleValues_of_declares declares]
  cases declares with
  | choice _ among same => exact ⟨_, by rwa [if_neg (List.ne_nil_of_mem among)], same⟩
  | @truth b _ free | @word b _ _ free =>
      rw [if_pos free]
      cases b
      · exact ⟨.bool false, by simp, rfl⟩
      · exact ⟨.bool true, by simp, rfl⟩

/-- The marks are where the declared default is exactly if no word stands among choices for a truth value. -/
theorem marks_declared_iff (declares : DeclaresDefault o d) :
    (∀ v ∈ possibleValues o, o.marks v = v.same d) ↔ ¬ o.WordAmongChoices := by
  constructor
  · intro agree word
    obtain ⟨v, possible, same⟩ := declares.possible
    have marked := agree v possible
    rw [marks_of_wordAmongChoices declares word same, same] at marked
    cases marked
  · intro spelled v _
    rw [OptionDoc.marks, effectiveDefault?_of_declares declares spelled]
    rfl

end Defaults

/-! ### The ranking of values -/

/-- The candidate for a value. -/
def valueOffer (p : Prepared) (path : Path) (best : Bool) (v : Value) : Candidate :=
  { Candidate.make (valueLabel v) .value (if best then 1 else 2) (valueLabel v) (p.nodeRange? path) with
    detail := if best then some "default" else none }

/-- The candidates for some values: first those that are best, with a mark, then the others. Both parts keep the order
    of the values. -/
def offersBestFirst (p : Prepared) (path : Path) (values : List Value) (best : Value → Bool) : List Candidate :=
  (values.filter best).map (valueOffer p path true) ++ (values.filter fun v => !best v).map (valueOffer p path false)

section Ranking

variable (p : Prepared) (path : Path) (values : List Value) (best : Value → Bool)

/-- The candidates of the priority that a mark gives are those of the values with the mark. -/
theorem filter_valueOffer (mark : Bool) :
    (values.map fun v => valueOffer p path (best v) v).filter (fun c => c.priority = if mark then 1 else 2) =
      (values.filter fun v => best v == mark).map (valueOffer p path mark) := by
  have flag : ((fun c : Candidate => decide (c.priority = if mark then 1 else 2)) ∘
      fun v => valueOffer p path (best v) v) = fun v => best v == mark := by
    funext v
    cases mark <;> cases h : best v <;> simp [valueOffer, Candidate.make, h]
  rw [List.filter_map, flag]
  apply List.map_congr_left
  intro v kept
  rw [eq_of_beq (List.mem_filter.1 kept).2]

/-- There are two tiers: what has a mark and what has none. -/
theorem tiers_valueOffer : tiers 3 (values.map fun v => valueOffer p path (best v) v) =
    offersBestFirst p path values best := by
  have lowest : (values.map fun v => valueOffer p path (best v) v).filter (fun c => c.priority = 0) = [] := by
    rw [List.filter_eq_nil_iff]
    intro c member
    obtain ⟨v, -, rfl⟩ := List.mem_map.1 member
    cases h : best v <;> simp [valueOffer, Candidate.make]
  have marked : (values.map fun v => valueOffer p path (best v) v).filter (fun c => c.priority = 1) =
      (values.filter fun v => best v == true).map (valueOffer p path true) := filter_valueOffer p path values best true
  have others : (values.map fun v => valueOffer p path (best v) v).filter (fun c => c.priority = 2) =
      (values.filter fun v => best v == false).map (valueOffer p path false) :=
    filter_valueOffer p path values best false
  rw [tiers_succ, tiers_succ, tiers_succ, lowest, marked, others]
  simp [tiers, offersBestFirst]

/-- What is marked comes first, and both parts keep the order of the values. -/
theorem map_unnumbered_ranked_values (r : Request) (o : OptionDoc) :
    (ranked r p path (.optionValue o)).map Candidate.unnumbered =
      offersBestFirst p path (possibleValues o) o.marks := by
  have offers : contextCandidates r p path (.optionValue o) =
      (possibleValues o).map fun v => valueOffer p path (o.marks v) v := rfl
  have below : ∀ c ∈ contextCandidates r p path (.optionValue o), c.priority < 3 := by
    intro c member
    obtain ⟨v, -, rfl⟩ := List.mem_map.1 (offers ▸ member)
    cases h : o.marks v <;> simp [valueOffer, Candidate.make]
  have fresh : ∀ c ∈ contextCandidates r p path (.optionValue o), c.order = 0 := by
    intro c member
    obtain ⟨v, -, rfl⟩ := List.mem_map.1 (offers ▸ member)
    rfl
  rw [ranked, map_unnumbered_rank below fresh, offers, tiers_valueOffer]

end Ranking

/-- Where the candidates are values of an option that declares a default, they are its choices, or the truth values
    without choices, one for one. Those that are marked come first, and both parts keep the declared order. The marks
    are where the declared default is exactly if no word stands among choices for a truth value, and then the default
    comes first; in the other case it has no mark. -/
theorem declared_default_first_unless_word_among_choices (r : Request) (p : Prepared) (path : Path) (o : OptionDoc)
    (d : Value) (declares : DeclaresDefault o d) :
    (Prepared.ofText? r.text.toList r.position = some p → cursorPath? p = some path →
      classify? r p path = some (.optionValue o) → complete r = some (ranked r p path (.optionValue o))) ∧
    possibleValues o = (if o.choices = [] then [.bool true, .bool false] else o.choices) ∧
    (ranked r p path (.optionValue o)).map Candidate.unnumbered =
      offersBestFirst p path (possibleValues o) o.marks ∧
    ((∀ v ∈ possibleValues o, o.marks v = v.same d) ↔ ¬ o.WordAmongChoices) ∧
    (¬ o.WordAmongChoices → (ranked r p path (.optionValue o)).map Candidate.unnumbered =
      offersBestFirst p path (possibleValues o) fun v => v.same d) ∧
    (o.WordAmongChoices → ∀ v ∈ possibleValues o, v.same d = true → o.marks v = false) := by
  have listed := map_unnumbered_ranked_values p path r o
  refine ⟨?_, possibleValues_of_declares declares, listed, marks_declared_iff declares, ?_, ?_⟩
  · intro prepared cursor classified
    exact complete_of_cursor prepared cursor classified
  · intro spelled
    have marks : o.marks = fun v => v.same d := by
      funext v
      rw [OptionDoc.marks, effectiveDefault?_of_declares declares spelled]
      rfl
    rw [listed, marks]
  · intro word v _ same
    exact marks_of_wordAmongChoices declares word same

/-! ### Values of two options -/

/-- An option that is a word for a truth value. -/
def runningOption : OptionDoc :=
  { name := "running", typeName := some "bool", choices := [.string "no", .string "yes"],
    default := some (.string "yes") }

/-- An option with a choice that is listed twice and is the default. -/
def levelOption : OptionDoc :=
  { name := "level", typeName := some "int", default := some (.number (.int 5)),
    choices := [.number (.int 1), .number (.int 5), .number (.int 10), .number (.int 5)] }

/-- A module with these options. -/
def unitModule : Module where
  nameSpace := "acme"
  collection := "tools"
  name := "unit"
  doc := some (some { name := "unit", options := [("running", runningOption), ("level", levelOption)] })

/-- A request in the value of an option of a task, whose module is in the library. -/
def unitRequest (key : String) : Request := { plainRequest with
  text := "- acme.tools.unit:\n    " ++ key ++ ": "
  position := ⟨1, key.length + 6⟩
  library := ({} : Library).insertModule unitModule }

/-- Its text with the placeholder. -/
def unitPrepared (key : String) : Prepared :=
  (Prepared.ofText? (unitRequest key).text.toList (unitRequest key).position).getD default

/-- The tree of this text. -/
def unitTree (key : String) : Concrete :=
  let colon := 23 + key.length
  let stop := colon + 4
  streamOf stop (sequenceAt none 0 stop 0 [itemAt 0 stop 0 (mappingAt none 2 stop 0 [entryAt 2 stop 2 17
    (mappingAt (some .value) 23 stop 2 [entryAt 23 stop 4 colon
      (wordAt .value (colon + 2) stop 4 (key.length + 6))])])])

/-- The place of the placeholder. -/
def unitValue (key : String) : Path := (placeIn? (unitPrepared key) (unitTree key)).getD default

/-- The place of the option. -/
def unitKey (key : String) : Path := (valueKey? (unitValue key)).getD default

/-- The place of the key that names the module. -/
def unitOwner (key : String) : Path := ⟨(unitValue key).doc, (unitValue key).steps.take 3 ++ [.node 0]⟩

/-- Whether the text leads to a value, from there to its option, and from the option to the module. -/
def unitLeads (key : String) : Bool :=
  let r := unitRequest key
  let p := unitPrepared key
  (Prepared.ofText? r.text.toList r.position).isSome && (placeIn? p (unitTree key)).isSome &&
    !atKnownKey r (unitValue key) && !p.insideTemplate (unitValue key) && (possibleOptions? r (unitValue key)).isNone &&
    valueKey? (unitValue key) = some (unitKey key) && (unitKey key).keyName? = some key &&
    (unitKey key).Rooted && (unitKey key).ancestry.parentOfKey.index = some 3 &&
    taskParamWithTrace? (unitKey key) = some (unitOwner key, [("acme.tools.unit", .dict)]) &&
    (unitOwner key).keyName? = some "acme.tools.unit"

section Unit

variable {key : String} {o : OptionDoc}

theorem classify?_unitValue (leads : unitLeads key = true)
    (declared : OptionSet.get? [("running", runningOption), ("level", levelOption)] key = some o) :
    classify? (unitRequest key) (unitPrepared key) (unitValue key) = some (.optionValue o) := by
  simp only [unitLeads, Bool.and_eq_true, Bool.not_eq_true', Option.isNone_iff_eq_none, decide_eq_true_eq] at leads
  obtain ⟨⟨⟨⟨⟨⟨⟨⟨⟨-, other⟩, outside⟩, noKey⟩, ofValue⟩, named⟩, rooted⟩, atMapping⟩, walk⟩, moduleKey⟩ := leads
  have atKey := Path.atKey_of_parentOfKey atMapping
  have owned := (taskParamWithTrace?_eq_some_iff rooted atKey).1 walk
  have owner : ownerModule? (unitRequest key) (unitOwner key) = some unitModule := by
    rw [ownerModule?, moduleKey]
    rfl
  have possible : possibleOptions? (unitRequest key) (unitKey key) =
      some [("running", runningOption), ("level", levelOption)] := by
    rw [possibleOptions?_eq_some_iff rooted atKey]
    exact ⟨unitOwner key, [], "acme.tools.unit", unitModule, _, owned, owner, rfl, .here⟩
  rw [classify?_of_outside other outside, noKey]
  simp [valueOption?, ofValue, named, possible, declared]

/-- If the parser gives the tree of the text, the values are the answer. -/
theorem complete_unitRequest (leads : unitLeads key = true)
    (declared : OptionSet.get? [("running", runningOption), ("level", levelOption)] key = some o)
    (read : ReadAs (String.ofList (unitPrepared key).patched) (unitTree key)) :
    complete (unitRequest key) =
      some (ranked (unitRequest key) (unitPrepared key) (unitValue key) (.optionValue o)) := by
  have classified := classify?_unitValue leads declared
  simp only [unitLeads, Bool.and_eq_true] at leads
  obtain ⟨⟨⟨⟨⟨⟨⟨⟨⟨⟨prepared, place⟩, -⟩, -⟩, -⟩, -⟩, -⟩, -⟩, -⟩, -⟩, -⟩ := leads
  refine complete_of_readAs ?_ ?_ classified read
  · obtain ⟨p, same⟩ := Option.isSome_iff_exists.1 prepared
    rw [unitPrepared, same]
    rfl
  · obtain ⟨path, same⟩ := Option.isSome_iff_exists.1 place
    rw [unitValue, same]
    rfl

end Unit

/-- The default comes first, as often as it is listed. -/
theorem repeated_default_comes_first : DeclaresDefault levelOption (.number (.int 5)) ∧
    (ReadAs (String.ofList (unitPrepared "level").patched) (unitTree "level") → complete (unitRequest "level") =
      some (ranked (unitRequest "level") (unitPrepared "level") (unitValue "level") (.optionValue levelOption))) ∧
    ((ranked (unitRequest "level") (unitPrepared "level") (unitValue "level")
      (.optionValue levelOption)).map Candidate.unnumbered).map (fun c => (c.label, c.detail)) =
      [("5", some "default"), ("5", some "default"), ("1", none), ("10", none)] := by
  have declares : DeclaresDefault levelOption (.number (.int 5)) :=
    @DeclaresDefault.choice levelOption _ (.number (.int 5)) rfl (by simp [levelOption]) rfl
  have offered := declared_default_first_unless_word_among_choices (unitRequest "level") (unitPrepared "level")
    (unitValue "level") levelOption (.number (.int 5)) declares
  have spelled : ¬ levelOption.WordAmongChoices := by
    rintro ⟨-, ofType, -⟩
    simp [levelOption] at ofType
  have leads : unitLeads "level" = true := by decide +kernel
  refine ⟨declares, complete_unitRequest leads rfl, ?_⟩
  rw [offered.2.2.2.2.1 spelled]
  decide +kernel

/-- A truth value whose default is one of its choices, both words: the default is not marked and not first. -/
theorem default_word_not_found_among_choices : ∃ candidates : List Candidate,
    (ReadAs (String.ofList (unitPrepared "running").patched) (unitTree "running") →
      complete (unitRequest "running") = some candidates) ∧
    classify? (unitRequest "running") (unitPrepared "running") (unitValue "running") =
      some (.optionValue runningOption) ∧
    candidates = ranked (unitRequest "running") (unitPrepared "running") (unitValue "running")
      (.optionValue runningOption) ∧
    DeclaresDefault runningOption (.string "yes") ∧
    (candidates.map Candidate.unnumbered).map (fun c => (c.label, c.detail)) = [("no", none), ("yes", none)] := by
  have leads : unitLeads "running" = true := by decide +kernel
  refine ⟨_, complete_unitRequest leads rfl, classify?_unitValue leads rfl, rfl, ?_, ?_⟩
  · exact @DeclaresDefault.choice runningOption _ (.string "yes") rfl (by simp [runningOption]) (by decide +kernel)
  · rw [map_unnumbered_ranked_values]
    decide +kernel

end Completion

end PlaybookServer
