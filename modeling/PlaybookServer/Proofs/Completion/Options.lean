/-
Module: PlaybookServer.Proofs.Completion.Options
Purpose: The options offered below a module. From a key the entries around it lead out to a task parameter; its module's
  options, and then the sub-options under the keys passed on the way, are descended into in the opposite direction, as
  long as each key names an option of the type by which the next is nested. Of these options those are offered that are
  not given under their own names, so an option that is given under an alias is offered again.
Main exports: Descends, possibleOptions?_eq_some_iff, options_follow_schema_to_key, FromSchema, keysBeside,
  Request.offers, optionOffer, options_offered_unless_named
-/
import PlaybookServer.Proofs.Completion.Keys
import PlaybookServer.Proofs.Playbook.Enclosure

namespace PlaybookServer.Completion

open Text Docs Source Playbook

/-! ### Descending into sub-options -/

/-- Options lead to others along keys, the outermost first. A key stands for the first entry of its name, which has the
    type that the nesting below it asks for, and sub-options. -/
inductive Descends : OptionSet → List (String × Nesting) → OptionSet → Prop where
  | here {options : OptionSet} : Descends options [] options
  | into {front back : OptionSet} {name : String} {nesting : Nesting} {option : OptionDoc}
      {rest : List (String × Nesting)} {inner : OptionSet} (first : ∀ entry ∈ front, entry.1 ≠ name)
      (ofType : option.typeName = some nesting.typeName) (nonempty : option.suboptions ≠ [])
      (further : Descends option.suboptions rest inner) :
      Descends (front ++ (name, option) :: back) ((name, nesting) :: rest) inner

section Descent

variable {options inner : OptionSet} {name : String} {option : OptionDoc} {trace : List (String × Nesting)}

/-- A name stands for its first entry. -/
theorem get?_eq_some_iff : options.get? name = some option ↔
    ∃ front back, options = front ++ (name, option) :: back ∧ ∀ entry ∈ front, entry.1 ≠ name := by
  rw [OptionSet.get?, List.lookup_eq_some_iff]
  simp only [bne_iff_ne, ne_comm]

/-- Descending succeeds exactly along keys that lead on. -/
theorem descendOptions_eq_some_iff : descendOptions options trace = some inner ↔ Descends options trace inner := by
  induction trace generalizing options with
  | nil =>
      rw [descendOptions]
      constructor
      · intro same
        cases same
        exact .here
      · intro descends
        cases descends
        rfl
  | cons key rest ih =>
      obtain ⟨name, nesting⟩ := key
      rw [descendOptions]
      constructor
      · intro found
        obtain ⟨option, named, goesOn⟩ := Option.bind_eq_some_iff.1 found
        obtain ⟨front, back, rfl, first⟩ := get?_eq_some_iff.1 named
        split at goesOn
        next => cases goesOn
        next allowed =>
            rw [Bool.or_eq_true, not_or] at allowed
            refine .into first ?_ ?_ (ih.1 goesOn)
            · simpa using allowed.1
            · simpa using allowed.2
      · intro descends
        cases descends with
        | @into front back _ _ option _ _ first ofType nonempty further =>
            rw [get?_eq_some_iff.2 ⟨front, back, rfl, first⟩]
            have goesOn := ih.2 further
            simp [ofType, nonempty, goesOn]

end Descent

/-! ### The options at a key -/

section Possible

variable {r : Request} {path owner : Path} {options : OptionSet} {trace : List (String × Nesting)}

/-- The options at a key are those that its module's lead to, along the keys between it and the task parameter. -/
theorem possibleOptions?_eq_some_iff (rooted : path.Rooted) (atKey : path.AtKey) :
    possibleOptions? r path = some options ↔ ∃ owner inner name m doc,
      OwnedBy path (inner ++ [(name, .dict)]) owner ∧ ownerModule? r owner = some m ∧
      Library.documentation? r.fs m = some doc ∧ Descends doc.options inner.reverse options := by
  constructor
  · intro found
    obtain ⟨⟨m, outside⟩, owns, found⟩ := Option.bind_eq_some_iff.1 found
    obtain ⟨doc, documented, descends⟩ := Option.bind_eq_some_iff.1 found
    obtain ⟨⟨owner, trace⟩, walk, owns⟩ := Option.bind_eq_some_iff.1 owns
    obtain ⟨⟨name, nesting⟩, last, owns⟩ := Option.bind_eq_some_iff.1 owns
    dsimp only at owns
    split at owns
    next => cases owns
    next dict =>
        obtain rfl : nesting = .dict := by simpa using dict
        obtain ⟨m', resolved, same⟩ := Option.bind_eq_some_iff.1 owns
        cases same
        have parts := List.dropLast_append_getLast? _ last
        refine ⟨owner, trace.dropLast, name, m, doc, ?_, resolved, documented, descendOptions_eq_some_iff.1 descends⟩
        rw [parts]
        exact (taskParamWithTrace?_eq_some_iff rooted atKey).1 walk
  · rintro ⟨owner, inner, name, m, doc, owned, resolved, documented, descends⟩
    have walk := (taskParamWithTrace?_eq_some_iff rooted atKey).2 owned
    have further := descendOptions_eq_some_iff.2 descends
    simp [possibleOptions?, optionOwner?, walk, resolved, documented, further]

/-- From a key there is one way out to a task parameter. -/
theorem ownedBy_unique (rooted : path.Rooted) (atKey : path.AtKey) {owner' : Path} {trace' : List (String × Nesting)}
    (owned : OwnedBy path trace owner) (owned' : OwnedBy path trace' owner') : trace = trace' ∧ owner = owner' := by
  have walk := (taskParamWithTrace?_eq_some_iff rooted atKey).2 owned
  have walk' := (taskParamWithTrace?_eq_some_iff rooted atKey).2 owned'
  rw [walk] at walk'
  cases walk'
  exact ⟨rfl, rfl⟩

/-- The options at a key are those that the module of its task parameter leads to. There are none if the key is a task
    parameter itself, and none if no way out leads to one. -/
theorem options_follow_schema_to_key (r : Request) (path : Path) (rooted : path.Rooted) (atKey : path.AtKey) :
    (∀ trace owner, OwnedBy path trace owner → ∀ options,
      possibleOptions? r path = some options ↔ ∃ inner name, trace = inner ++ [(name, .dict)] ∧
        ∃ m doc, ownerModule? r owner = some m ∧ Library.documentation? r.fs m = some doc ∧
          Descends doc.options inner.reverse options) ∧
    (isTaskParam path = true → possibleOptions? r path = none) ∧
    ((∀ trace owner, ¬ OwnedBy path trace owner) → possibleOptions? r path = none) := by
  constructor
  · intro trace owner owned options
    rw [possibleOptions?_eq_some_iff rooted atKey]
    constructor
    · rintro ⟨owner', inner, name, m, doc, owned', resolved, documented, descends⟩
      obtain ⟨rfl, rfl⟩ := ownedBy_unique rooted atKey owned owned'
      exact ⟨inner, name, rfl, m, doc, resolved, documented, descends⟩
    · rintro ⟨inner, name, rfl, m, doc, resolved, documented, descends⟩
      exact ⟨owner, inner, name, m, doc, owned, resolved, documented, descends⟩
  constructor
  · intro isParam
    by_contra offered
    obtain ⟨options, found⟩ := Option.ne_none_iff_exists'.1 offered
    obtain ⟨owner, inner, name, m, doc, owned, -⟩ := (possibleOptions?_eq_some_iff rooted atKey).1 found
    obtain ⟨noKey, -⟩ := ownedBy_unique rooted atKey (.here isParam) owned
    simp at noKey
  · intro astray
    by_contra offered
    obtain ⟨options, found⟩ := Option.ne_none_iff_exists'.1 offered
    obtain ⟨owner, inner, name, m, doc, owned, -⟩ := (possibleOptions?_eq_some_iff rooted atKey).1 found
    exact astray _ owner owned

end Possible

/-- An option for a truth value. -/
def strictOption : OptionDoc := { name := "strict", typeName := some "bool" }

/-- Options with a list of mappings, `checks`, that is also called `tests`. -/
def listedChecks : OptionSet :=
  let checks : OptionDoc := { name := "checks", typeName := some "list", elements := some "dict", aliases := ["tests"],
                              suboptions := [("strict", strictOption)] }
  [("src", { name := "src", typeName := some "path" }), ("checks", checks), ("tests", checks)]

/-- A module that has these options. -/
def checkingModule : Module where
  nameSpace := "acme"
  collection := "tools"
  name := "copy"
  doc := some (some { name := "copy", options := listedChecks })

/-- A request in an item of the list, which a task gives under its second name. -/
def checksRequest : Request := { plainRequest with
  text := "- acme.tools.copy:\n    tests:\n      - "
  position := ⟨2, 8⟩
  library := ({} : Library).insertModule checkingModule }

/-- Its text with the placeholder. -/
def checksPrepared : Prepared :=
  (Prepared.ofText? checksRequest.text.toList checksRequest.position).get (by decide +kernel)

/-- The tree of this text. -/
def checksTree : Concrete :=
  streamOf 40 (sequenceAt none 0 40 0 [itemAt 0 40 0 (mappingAt none 2 40 0 [entryAt 2 40 2 17
    (mappingAt (some .value) 23 40 2 [entryAt 23 40 4 28 (sequenceAt (some .value) 36 40 4 [itemAt 36 40 6
      (mappingAt none 38 40 6 [entryAt 38 40 8 39 none])])])])])

/-- The place of the placeholder. -/
def checksKey : Path := (placeIn? checksPrepared checksTree).get (by decide +kernel)

/-- The place of the key that names the module. -/
def checksOwner : Path := ⟨checksKey.doc, checksKey.steps.take 3 ++ [.node 0]⟩

theorem ownerModule?_checksOwner : ownerModule? checksRequest checksOwner = some checkingModule := by
  have key : checksOwner.keyName? = some "acme.tools.copy" := by decide +kernel
  rw [ownerModule?, key]
  rfl

/-- In the items of a list that is given under the second name of an option, the option's sub-options are possible. -/
theorem suboptions_under_alias_of_list :
    possibleOptions? checksRequest checksKey = some [("strict", strictOption)] ∧
    (ReadAs (String.ofList checksPrepared.patched) checksTree →
      complete checksRequest =
        some (ranked checksRequest checksPrepared checksKey (.optionKey [("strict", strictOption)]))) := by
  have rooted : checksKey.Rooted := by decide +kernel
  have atMapping : checksKey.ancestry.parentOfKey.index = some 6 := by decide +kernel
  have atKey := Path.atKey_of_parentOfKey atMapping
  have walk : taskParamWithTrace? checksKey =
      some (checksOwner, [("tests", .list), ("acme.tools.copy", .dict)]) := by decide +kernel
  have owned := (taskParamWithTrace?_eq_some_iff rooted atKey).1 walk
  have possible : possibleOptions? checksRequest checksKey = some [("strict", strictOption)] := by
    rw [(options_follow_schema_to_key checksRequest checksKey rooted atKey).1 _ _ owned]
    refine ⟨[("tests", .list)], "acme.tools.copy", rfl, checkingModule, _, ownerModule?_checksOwner, rfl, ?_⟩
    exact @Descends.into [_, _] [] _ _ _ _ _ (by decide) rfl (by simp) .here
  refine ⟨possible, complete_of_readAs (Option.some_get _).symm (Option.some_get _).symm ?_⟩
  rw [classify?_of_outside (by decide +kernel) (by decide +kernel), possible]

/-! ### Options that are not given yet -/

/-- Options as they are read from a schema, of a module or below one of its options. -/
def FromSchema (options : OptionSet) : Prop := ∃ fuel raw, options = optionsWithin fuel raw

/-- The entries of one option. -/
def entriesOf (option : OptionDoc) : OptionSet := (option.name, option) :: option.aliases.map fun a => (a, option)

/-- An entry is among those of its option, and they come together. -/
theorem FromSchema.together {options : OptionSet} (schema : FromSchema options) {entry : String × OptionDoc}
    (among : entry ∈ options) : entry ∈ entriesOf entry.2 ∧ entriesOf entry.2 ⊆ options := by
  obtain ⟨fuel, raw, rfl⟩ := schema
  cases fuel with
  | zero => simp [optionsWithin] at among
  | succ fuel =>
      rw [optionsWithin] at among ⊢
      cases mapping : raw.asMapping? with
      | none => simp [mapping] at among
      | some fields =>
          rw [mapping] at among
          obtain ⟨⟨key, value⟩, read, made⟩ := List.mem_flatMap.1 among
          dsimp only at made
          split at made
          next name option text inner =>
              have named : (optionWithin fuel name option).name = name := by
                cases fuel <;> rw [optionWithin]
              have group : (name, optionWithin fuel name option) ::
                  (optionWithin fuel name option).aliases.map (fun a => (a, optionWithin fuel name option)) =
                  entriesOf (optionWithin fuel name option) := by rw [entriesOf, named]
              rw [group] at made
              have same : entry.2 = optionWithin fuel name option := by
                rcases List.mem_cons.1 made with same | other
                · rw [same]
                · obtain ⟨a, -, same⟩ := List.mem_map.1 other
                  rw [← same]
              rw [same]
              refine ⟨made, fun other among' => List.mem_flatMap.2 ⟨(key, value), read, ?_⟩⟩
              simpa [text, inner, group] using among'
          next => cases made

/-- Keys of the mapping that owns the key a path ends at. -/
def keysBeside (path : Path) : List String :=
  match path.ancestry.parentOfKey.node? with
  | some map => path.doc.keys map
  | none => []

/-- The candidate that stands for an entry of the options. -/
def optionOffer (p : Prepared) (path : Path) (entry : String × OptionDoc) : Candidate :=
  let range := p.nodeRange? path
  let other : Bool := entry.1 ≠ entry.2.name
  let insert := if p.atEndOfLine then entry.1 ++ ":" ++ insertionSuffix entry.2.typeName (p.firstOfList range)
    else entry.1
  { Candidate.make entry.1 (if other then .alternateName else .option)
      (if other then 3 else if entry.2.required then 1 else 2) insert range with
    detail := some (optionDetail entry.2)
    documentation := some (optionDocumentation entry.2) }

section Given

variable {r : Request} {p : Prepared} {path : Path} {options : OptionSet} {c : Candidate}

/-- Whether an entry is offered: its option is not given under its own name, and aliases are only offered if they are
    wanted. -/
def Request.offers (r : Request) (path : Path) (entry : String × OptionDoc) : Bool :=
  !(keysBeside path).elem entry.2.name && (entry.1 = entry.2.name || r.settings.completion.optionAliases)

theorem optionCandidates_eq_map (r : Request) (p : Prepared) (path : Path) (options : OptionSet) :
    optionCandidates r p path options = (options.filter (r.offers path)).map (optionOffer p path) := by
  rw [← List.filterMap_eq_map, List.filterMap_filter]
  apply List.filterMap_congr
  rintro ⟨name, option⟩ _
  have alone : (if (keysBeside path).elem option.name || (decide (name ≠ option.name) &&
      !r.settings.completion.optionAliases) then none else some (optionOffer p path (name, option))) =
      if r.offers path (name, option) then some (optionOffer p path (name, option)) else none := by
    rw [Request.offers]
    by_cases same : name = option.name
    · cases (keysBeside path).elem option.name <;> simp [same]
    · cases (keysBeside path).elem option.name <;> cases r.settings.completion.optionAliases <;> simp [same]
  exact alone

/-- The ranking numbers candidates and changes nothing else. -/
theorem map_unnumbered_ranked_options : ((ranked r p path (.optionKey options)).map Candidate.unnumbered).Perm
    ((options.filter (r.offers path)).map (optionOffer p path)) := by
  have fresh : ((options.filter (r.offers path)).map (optionOffer p path)).map Candidate.unnumbered =
      (options.filter (r.offers path)).map (optionOffer p path) := by
    rw [List.map_map]
    rfl
  rw [← fresh, ← optionCandidates_eq_map, ← map_unnumbered_numbered (optionCandidates r p path options)]
  exact (rank_perm _).map _

/-- An option that is not given under its own name is offered under it, so it is in the way if it is given under an
    alias. -/
theorem offered_apart_iff (schema : FromSchema options) :
    (∀ entry ∈ options.filter (r.offers path), entry.1 ∉ keysBeside path ∧ entry.2.name ∉ keysBeside path ∧
      ∀ a ∈ entry.2.aliases, a ∉ keysBeside path) ↔
    ∀ entry ∈ options, entry.2.name ∈ keysBeside path ∨ ∀ a ∈ entry.2.aliases, a ∉ keysBeside path := by
  constructor
  · intro apart entry among
    by_cases given : entry.2.name ∈ keysBeside path
    · exact .inl given
    · right
      have shown : (entry.2.name, entry.2) ∈ options.filter (r.offers path) := by
        apply List.mem_filter.2 ⟨(schema.together among).2 List.mem_cons_self, ?_⟩
        simpa [Request.offers] using given
      exact (apart _ shown).2.2
  · intro unnamed entry shown
    obtain ⟨among, offered⟩ := List.mem_filter.1 shown
    have free : entry.2.name ∉ keysBeside path := by
      intro given
      simp [Request.offers, given] at offered
    have apart := (unnamed entry among).resolve_left free
    refine ⟨?_, free, apart⟩
    rcases List.mem_cons.1 (schema.together among).1 with same | other
    · rw [same]
      exact free
    · obtain ⟨a, named, same⟩ := List.mem_map.1 other
      rw [← same]
      exact apart a named

theorem alternateName_of_given (among : c ∈ ranked r p path (.optionKey options)) (given : c.label ∈ keysBeside path) :
    c.kind = .alternateName := by
  obtain ⟨entry, shown, same⟩ := List.mem_map.1 (map_unnumbered_ranked_options.mem_iff.1 (List.mem_map_of_mem among))
  have label : c.label = entry.1 := (congrArg Candidate.label same).symm
  have kind : c.kind = (optionOffer p path entry).kind := (congrArg Candidate.kind same).symm
  have other : entry.1 ≠ entry.2.name := by
    intro named
    rw [label, named] at given
    simp [Request.offers, given] at shown
  rw [kind]
  simp [optionOffer, Candidate.make, other]

end Given

/-- Where the candidates are options, they stand one for one for the entries of the options that are not given under
    their own names, aliases only if these are wanted. So a key that is given is offered again as an alias at most. It
    and its option are left out altogether exactly if no option is given under an alias without being given under its
    own name. -/
theorem options_offered_unless_named (r : Request) (p : Prepared) (path : Path) (options : OptionSet)
    (schema : FromSchema options) :
    (Prepared.ofText? r.text.toList r.position = some p → cursorPath? p = some path →
      classify? r p path = some (.optionKey options) → complete r = some (ranked r p path (.optionKey options))) ∧
    ((ranked r p path (.optionKey options)).map Candidate.unnumbered).Perm
      ((options.filter (r.offers path)).map (optionOffer p path)) ∧
    (∀ c ∈ ranked r p path (.optionKey options), c.label ∈ keysBeside path → c.kind = .alternateName) ∧
    ((∀ entry ∈ options.filter (r.offers path), entry.1 ∉ keysBeside path ∧ entry.2.name ∉ keysBeside path ∧
        ∀ a ∈ entry.2.aliases, a ∉ keysBeside path) ↔
      ∀ entry ∈ options, entry.2.name ∈ keysBeside path ∨ ∀ a ∈ entry.2.aliases, a ∉ keysBeside path) := by
  constructor
  · intro prepared cursor classified
    exact complete_of_cursor prepared cursor classified
  constructor
  · exact map_unnumbered_ranked_options
  constructor
  · intro c among given
    exact alternateName_of_given among given
  · exact offered_apart_iff schema

/-- A schema with the options `src` and `dest`, the second also called `path`. -/
def copySchema : Yaml.Value := .mapping [(.string "src", .mapping []),
  (.string "dest", .mapping [(.string "required", .bool true), (.string "aliases", .sequence [.string "path"])])]

/-- A module with these options. -/
def copyModule : Module where
  nameSpace := "acme"
  collection := "tools"
  name := "copy"
  doc := some (some { name := "copy", options := OptionSet.ofValue copySchema })

/-- A request beside an option that a task gives under an alias. -/
def copyRequest : Request := { plainRequest with
  text := "- acme.tools.copy:\n    path: /etc/motd\n    "
  position := ⟨2, 4⟩
  library := ({} : Library).insertModule copyModule }

/-- Its text with the placeholder. -/
def copyPrepared : Prepared :=
  (Prepared.ofText? copyRequest.text.toList copyRequest.position).get (by decide +kernel)

/-- The tree of this text. -/
def copyTree : Concrete :=
  streamOf 45 (sequenceAt none 0 45 0 [itemAt 0 45 0 (mappingAt none 2 45 0 [entryAt 2 45 2 17
    (mappingAt (some .value) 23 45 2 [entryAt 23 38 4 27 (wordAt .value 29 38 4 10), entryAt 43 45 4 44 none])])])

/-- The place of the placeholder. -/
def copyKey : Path := (placeIn? copyPrepared copyTree).get (by decide +kernel)

theorem path_beside : "path" ∈ keysBeside copyKey := by decide +kernel

/-- The alias that is given is offered again, as an alias. -/
theorem given_alias_offered_as_alias : FromSchema (OptionSet.ofValue copySchema) ∧
    "path" ∈ keysBeside copyKey ∧
    ∀ c ∈ ranked copyRequest copyPrepared copyKey (.optionKey (OptionSet.ofValue copySchema)),
      c.label = "path" → c.kind = .alternateName := by
  have schema : FromSchema (OptionSet.ofValue copySchema) := ⟨_, _, rfl⟩
  have offered := options_offered_unless_named copyRequest copyPrepared copyKey _ schema
  refine ⟨schema, path_beside, fun c among label => ?_⟩
  apply offered.2.2.1 c among
  rw [label]
  exact path_beside

/-- The place of the key that names the module. -/
def copyOwner : Path := ⟨copyKey.doc, copyKey.steps.take 3 ++ [.node 0]⟩

theorem ownerModule?_copyOwner : ownerModule? copyRequest copyOwner = some copyModule := by
  have key : copyOwner.keyName? = some "acme.tools.copy" := by decide +kernel
  rw [ownerModule?, key]
  rfl

theorem classify?_copyKey :
    classify? copyRequest copyPrepared copyKey = some (.optionKey (OptionSet.ofValue copySchema)) := by
  have rooted : copyKey.Rooted := by decide +kernel
  have atMapping : copyKey.ancestry.parentOfKey.index = some 3 := by decide +kernel
  have atKey := Path.atKey_of_parentOfKey atMapping
  have walk : taskParamWithTrace? copyKey = some (copyOwner, [("acme.tools.copy", .dict)]) := by decide +kernel
  have owned := (taskParamWithTrace?_eq_some_iff rooted atKey).1 walk
  have possible : possibleOptions? copyRequest copyKey = some (OptionSet.ofValue copySchema) := by
    rw [possibleOptions?_eq_some_iff rooted atKey]
    exact ⟨copyOwner, [], "acme.tools.copy", copyModule, _, owned, ownerModule?_copyOwner, rfl, .here⟩
  rw [classify?_of_outside (by decide +kernel) (by decide +kernel), possible]

/-- An option that is given under its alias is offered again, under both names. -/
theorem option_given_by_alias_offered_again : ∃ candidates : List Candidate,
    (ReadAs (String.ofList copyPrepared.patched) copyTree → complete copyRequest = some candidates) ∧
    classify? copyRequest copyPrepared copyKey = some (.optionKey (OptionSet.ofValue copySchema)) ∧
    candidates = ranked copyRequest copyPrepared copyKey (.optionKey (OptionSet.ofValue copySchema)) ∧
    "path" ∈ keysBeside copyKey ∧ candidates.map Candidate.label = ["dest", "src", "path"] := by
  refine ⟨_, ?_, classify?_copyKey, rfl, path_beside, ?_⟩
  · exact complete_of_readAs (Option.some_get _).symm (Option.some_get _).symm classify?_copyKey
  · have tiered : (ranked copyRequest copyPrepared copyKey (.optionKey (OptionSet.ofValue copySchema))).map
        Candidate.unnumbered = tiers 4 (contextCandidates copyRequest copyPrepared copyKey
          (.optionKey (OptionSet.ofValue copySchema))) := map_unnumbered_rank (by decide +kernel) (by decide +kernel)
    have labels := congrArg (List.map Candidate.label) tiered
    rw [List.map_map] at labels
    apply labels.trans
    decide +kernel

end PlaybookServer.Completion
