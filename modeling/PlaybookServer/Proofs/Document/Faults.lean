/-
Module: PlaybookServer.Proofs.Document.Faults
Purpose: What lowering reports about keys and references. Whatever the concrete tree, the semantic faults of a document
  are those of its repeated keys and the reference faults those of the references that dangle; each is reported once, in
  order, and nothing else is reported as either.
Main exports: Recorded, Records, Gathered, places_node, gathers_pairs, faults_of_document
-/
import PlaybookServer.Proofs.Document.Mentions
import PlaybookServer.Proofs.Document.Reading
import PlaybookServer.Proofs.Document.Repeats

namespace PlaybookServer

open Text Source

/-! ### States of lowering -/

/-- The faults of one kind that have been found. -/
def Lowering.faultsOf (s : Lowering) (kind : FaultKind) : List Fault := s.faults.filter fun f => f.kind = kind

/-- The nodes that came after `base` are trees whose roots wait, the repeated keys in them have been reported, and so
    have the references that dangle among all mentions so far. -/
structure Recorded (base : Lowering) (w : Waiting) (met : List Mention) (s : Lowering) : Prop where
  kept : ∀ i, i < base.nodes.size → s.nodes[i]? = base.nodes[i]?
  noted : ∃ faults, Noted s.nodes w.pairs base.nodes.size s.nodes.size w.roots faults ∧
    s.faultsOf .semantic = base.faultsOf .semantic ++ faults
  met : Met met s

variable {α β : Type} {base : Lowering} {w : Waiting} {met : List Mention} {roots : List NodeId} {seen : List String}

/-- Nothing waits at first. -/
theorem Recorded.self {s : Lowering} (before : Met met s) : Recorded s ⟨false, []⟩ met s :=
  ⟨fun _ _ => rfl, ⟨[], .nil false s.nodes.size, (List.append_nil _).symm⟩, before⟩

/-- A computation that leads from states with one property to values and states with another. -/
def Ensures (pre : Lowering → Prop) (m : LowerM α) (post : α → Lowering → Prop) : Prop :=
  ∀ s, pre s → post (m.run s).1 (m.run s).2

theorem Ensures.bind {pre : Lowering → Prop} {between : α → Lowering → Prop} {post : β → Lowering → Prop}
    {m : LowerM α} {f : α → LowerM β} (first : Ensures pre m between) (next : ∀ v, Ensures (between v) (f v) post) :
    Ensures pre (m >>= f) post :=
  fun s holds => next _ _ (first s holds)

theorem ensures_pure {pre : Lowering → Prop} {post : α → Lowering → Prop} {v : α} (holds : ∀ s, pre s → post v s) :
    Ensures pre (pure v) post :=
  holds

/-- A computation goes on from some roots that wait to others, comes by some mentions, and reports what there is to
    report. -/
def Records (w : Waiting) (m : LowerM α) (more : List Mention) (after : α → Waiting) : Prop :=
  ∀ base met, Ensures (Recorded base w met) m fun v => Recorded base (after v) (met ++ more)

theorem records_pure (v : α) (after : α → Waiting) : Records (after v) (pure v) [] after := by
  intro base met s recorded
  rwa [List.append_nil]

theorem Records.bind {between : α → Waiting} {after : β → Waiting} {m : LowerM α} {f : α → LowerM β}
    {more more' : List Mention} (first : Records w m more between) (next : ∀ v, Records (between v) (f v) more' after) :
    Records w (m >>= f) (more ++ more') after := by
  intro base met s recorded
  rw [← List.append_assoc]
  exact next _ base _ _ (first base met s recorded)

/-- A step after the last mention. -/
theorem Records.andThen {between : α → Waiting} {after : β → Waiting} {m : LowerM α} {f : α → LowerM β}
    {more : List Mention} (first : Records w m more between) (next : ∀ v, Records (between v) (f v) [] after) :
    Records w (m >>= f) more after := by
  have whole := first.bind next
  rwa [List.append_nil] at whole

/-- Roots that wait already and are no pairs wait beside the new ones. -/
theorem Records.beside {m : LowerM α} {more : List Mention} {roots : α → List NodeId}
    (records : Records ⟨false, []⟩ m more fun v => ⟨false, roots v⟩) (waiting : List NodeId) :
    Records ⟨false, waiting⟩ m more fun v => ⟨false, waiting ++ roots v⟩ := by
  intro base met s recorded
  have new := records s met s (.self recorded.met)
  obtain ⟨faults, noted, same⟩ := recorded.noted
  obtain ⟨faults', noted', same'⟩ := new.noted
  have le := noted.forest.le
  refine ⟨fun i small => ?_, ⟨faults ++ faults', (noted.congr new.kept).append noted', ?_⟩, new.met⟩
  · rw [new.kept i (by omega), recorded.kept i small]
  · rw [same', same, List.append_assoc]

/-! ### Steps -/

/-- A computation that adds no node, comes by no mention and finds none of these faults. -/
def Quiet (m : LowerM α) : Prop := ∀ s, (m.run s).2.nodes = s.nodes ∧ (m.run s).2.anchors = s.anchors ∧
  (m.run s).2.faultsOf .semantic = s.faultsOf .semantic ∧ (m.run s).2.faultsOf .reference = s.faultsOf .reference

theorem Quiet.records {m : LowerM α} (quiet : Quiet m) (w : Waiting) : Records w m [] fun _ => w := by
  intro base met s ⟨kept, ⟨faults, noted, same⟩, before⟩
  obtain ⟨nodes, anchors, semantic, reference⟩ := quiet s
  rw [List.append_nil]
  refine ⟨by rwa [nodes], ⟨faults, by rwa [nodes], semantic.trans same⟩, ?_⟩
  exact ⟨anchors.trans before.anchors, by rw [nodes, before.references], reference.trans before.faults⟩

theorem Quiet.bind {m : LowerM α} {f : α → LowerM β} (first : Quiet m) (next : ∀ v, Quiet (f v)) :
    Quiet (m >>= f) := by
  intro s
  obtain ⟨nodes, anchors, semantic, reference⟩ := first s
  obtain ⟨nodes', anchors', semantic', reference'⟩ := next (m.run s).1 (m.run s).2
  exact ⟨nodes'.trans nodes, anchors'.trans anchors, semantic'.trans semantic, reference'.trans reference⟩

theorem quiet_spanOfNode (id : NodeId) : Quiet (spanOfNode id) := fun _ => ⟨rfl, rfl, rfl, rfl⟩

theorem faultsOf_addFault (kind other : FaultKind) (message : String) (span : Span) (s : Lowering) :
    ((addFault kind message span).run s).2.faultsOf other =
      s.faultsOf other ++ if kind = other then [⟨kind, message, span⟩] else [] := by
  have added : ((addFault kind message span).run s).2.faults = s.faults ++ [⟨kind, message, span⟩] := rfl
  rw [Lowering.faultsOf, added, List.filter_append, List.filter_singleton]
  by_cases same : kind = other <;> simp [same, Lowering.faultsOf]

theorem quiet_addFault {kind : FaultKind} (other : kind ≠ .semantic ∧ kind ≠ .reference) (message : String)
    (span : Span) : Quiet (addFault kind message span) := by
  intro s
  refine ⟨rfl, rfl, ?_, ?_⟩
  · rw [faultsOf_addFault, if_neg other.1, List.append_nil]
  · rw [faultsOf_addFault, if_neg other.2, List.append_nil]

/-- With a node added over all roots that wait, it is the one root left. -/
theorem Recorded.added (kind : NodeKind) {span : Span} {s s' : Lowering} {more : List Mention}
    (recorded : Recorded base ⟨kind.isMapping, kind.children⟩ met s) (nodes : s'.nodes = s.nodes.push ⟨kind, span⟩)
    (semantic : s'.faultsOf .semantic = s.faultsOf .semantic) (after : Met more s') :
    Recorded base ⟨kind.isPair, [s.nodes.size]⟩ more s' := by
  obtain ⟨faults, noted, same⟩ := recorded.noted
  have le := noted.forest.le
  refine ⟨fun i small => ?_, ⟨faults, ?_, semantic.trans same⟩, after⟩
  · rw [nodes, Array.getElem?_push, if_neg (by omega), recorded.kept i small]
  · rw [nodes, Array.size_push]
    exact noted.push span

theorem filter_isReference_push (nodes : Array Node) (kind : NodeKind) (span : Span) :
    (nodes.push ⟨kind, span⟩).toList.filter (fun n => n.kind.isReference) =
      nodes.toList.filter (fun n => n.kind.isReference) ++ if kind.isReference then [⟨kind, span⟩] else [] := by
  rw [Array.toList_push, List.filter_append]
  cases reference : kind.isReference <;> simp [reference]

theorem records_addNode (kind : NodeKind) (plain : kind.isReference = false) (span : Span) :
    Records ⟨kind.isMapping, kind.children⟩ (addNode kind span) [] fun id => ⟨kind.isPair, [id]⟩ := by
  intro base met s recorded
  rw [List.append_nil]
  have nodes : ((addNode kind span).run s).2.nodes = s.nodes.push ⟨kind, span⟩ := rfl
  refine recorded.added kind nodes rfl ⟨recorded.met.anchors, ?_, recorded.met.faults⟩
  rw [nodes, filter_isReference_push, plain, recorded.met.references]
  exact List.append_nil _

theorem Met.mem_anchors_iff {s : Lowering} (before : Met met s) (name : String) :
    name ∈ s.anchors ↔ .anchor name ∈ met := by
  rw [before.anchors, List.mem_reverse, List.mem_filterMap]
  constructor
  · rintro ⟨_ | _, among, same⟩ <;> cases same
    exact among
  · exact fun among => ⟨_, among, rfl⟩

theorem Met.anchor {s : Lowering} (before : Met met s) (name : String) :
    Met (met ++ [.anchor name]) { s with anchors := name :: s.anchors } where
  anchors := by simp [before.anchors, Mention.anchor?]
  references := by simpa [List.filterMap_cons, Mention.node?] using before.references
  faults := by simpa [dangling_append_singleton] using before.faults

/-- A reference whose name no anchor so far has is reported, and no other. -/
theorem Met.reference {s : Lowering} (before : Met met s) (name : String) (span : Span) :
    Met (met ++ [.reference name span]) { s with
      nodes := s.nodes.push ⟨.reference name, span⟩
      faults := s.faults ++ if name ∈ s.anchors then []
        else [⟨.reference, "Aliased anchor not found: " ++ name, span⟩] } where
  anchors := by simp [before.anchors, Mention.anchor?]
  references := by
    rw [filter_isReference_push, before.references]
    simp [Mention.node?, NodeKind.isReference]
  faults := by
    rw [dangling_append_singleton, List.filter_append, before.faults]
    by_cases known : .anchor name ∈ met <;> simp [known, before.mem_anchors_iff]

theorem run_lowerReference (text : List Char) (i : ConcreteInfo) (s : Lowering) :
    (lowerReference text i).run s = (s.nodes.size, { s with
      nodes := s.nodes.push ⟨.reference (referenceName text i), i.span⟩
      faults := s.faults ++ if referenceName text i ∈ s.anchors then []
        else [⟨.reference, "Aliased anchor not found: " ++ referenceName text i, i.span⟩] }) := by
  have start : (lowerReference text i).run s = (if !s.anchors.elem (referenceName text i) then do
      addFault .reference ("Aliased anchor not found: " ++ referenceName text i) i.span
      addNode (.reference (referenceName text i)) i.span
    else addNode (.reference (referenceName text i)) i.span : LowerM NodeId).run s := rfl
  rw [start, List.elem_eq_mem]
  by_cases known : referenceName text i ∈ s.anchors
  · simp only [known, decide_true, Bool.not_true, Bool.false_eq_true, if_false, if_true, List.append_nil]
    rfl
  · simp only [known, decide_false, Bool.not_false, if_true, if_false]
    rfl

theorem records_lowerReference (text : List Char) (i : ConcreteInfo) :
    Records ⟨false, []⟩ (lowerReference text i) [.reference (referenceName text i) i.span] fun id => ⟨false, [id]⟩ := by
  intro base met s recorded
  rw [run_lowerReference]
  refine recorded.added (.reference (referenceName text i)) rfl ?_ (recorded.met.reference _ _)
  rw [Lowering.faultsOf, List.filter_append]
  split <;> simp [Lowering.faultsOf]

theorem records_noteAnchor (name : String) (w : Waiting) :
    Records w (modify fun s => { s with anchors := name :: s.anchors } : LowerM Unit) [.anchor name] fun _ => w :=
  fun _ _ _ recorded => ⟨recorded.kept, recorded.noted, recorded.met.anchor name⟩

/-- The anchors among the properties of a node are noted. -/
theorem records_lowerProperties (text : List Char) (cs : List Concrete) (w : Waiting) :
    Records w (lowerProperties text cs) (anchorMentions text cs) fun _ => w := by
  induction cs with
  | nil => exact records_pure () fun _ => w
  | cons c cs ih =>
      rw [lowerProperties]
      by_cases isAnchor : c.kind = .anchor
      · have more : anchorMentions text (c :: cs) = [.anchor (anchorName text c.info)] ++ anchorMentions text cs := by
          simp [anchorMentions, isAnchor]
        rw [more, if_pos isAnchor]
        exact (records_noteAnchor _ w).bind fun _ => ih
      · have same : anchorMentions text (c :: cs) = anchorMentions text cs := by simp [anchorMentions, isAnchor]
        rw [same, if_neg isAnchor]
        split
        next =>
            dsimp only
            split
            next => exact ((quiet_addFault (by simp) _ _).records w).bind fun _ => ih
            next => exact ih
        next => exact ih

/-! ### Nodes without children -/

/-- A computation adds one node that is no pair. -/
abbrev Places (m : LowerM NodeId) (more : List Mention) : Prop := Records ⟨false, []⟩ m more fun id => ⟨false, [id]⟩

theorem places_null (span : Span) : Places (addNode .null span) [] :=
  records_addNode .null rfl span

theorem places_scalar (value : String) (style : ScalarStyle) (span : Span) :
    Places (addNode (.scalar value style) span) [] :=
  records_addNode (.scalar value style) rfl span

theorem places_lowerQuoted (text : List Char) (double : Bool) (i : ConcreteInfo) :
    Places (lowerQuoted text double i) [] := places_scalar _ _ _

theorem places_lowerBlockScalar (text : List Char) (i : ConcreteInfo) : Places (lowerBlockScalar text i) [] := by
  unfold lowerBlockScalar
  dsimp only
  split
  next => exact ((quiet_addFault (by simp) _ _).records _).bind fun _ => places_scalar _ _ _
  next => exact places_scalar _ _ _

/-! ### Pairs -/

/-- A key that is missing is made up. -/
theorem records_orNull (i : ConcreteInfo) (key : Option NodeId) :
    Records ⟨false, key.toList⟩ (orNull i key) [] fun id => ⟨false, [id]⟩ := by
  cases key with
  | none => exact places_null _
  | some id => exact records_pure id fun id => ⟨false, [id]⟩

/-- A pair is added over its key and its value. -/
theorem records_finishPair (text : List Char) (i : ConcreteInfo) (key : NodeId) (value : Option NodeId) :
    Records ⟨false, [key] ++ value.toList⟩ (finishPair text i key value) [] fun id => ⟨true, [id]⟩ := by
  refine ((quiet_spanOfNode key).records _).bind fun keySpan => ?_
  have pair (span : Span) := records_addNode (.pair key value) rfl span
  cases value with
  | none => exact pair _
  | some v => exact ((quiet_spanOfNode v).records _).bind fun valueSpan => pair _

/-- Lower a pair, up to where its key is compared with others. -/
def lowerEntry (text : List Char) (i : ConcreteInfo) (cs : List Concrete) : LowerM NodeId := do
  let key ← orNull i (← lowerRole text .key cs)
  let value ← lowerRole text .value cs
  finishPair text i key value

theorem records_lowerEntry {text : List Char} {i : ConcreteInfo} {cs : List Concrete}
    (role : ∀ role, Records ⟨false, []⟩ (lowerRole text role cs) ((roleMentions text role cs).getD [])
      fun id => ⟨false, id.toList⟩) :
    Records ⟨false, []⟩ (lowerEntry text i cs)
      ((roleMentions text .key cs).getD [] ++ (roleMentions text .value cs).getD []) fun id => ⟨true, [id]⟩ := by
  refine (role .key).bind fun key? => (records_orNull i key?).bind (fun key => ?_)
  exact ((role .value).beside [key]).andThen fun value => records_finishPair text i key value

/-! ### Comparing keys -/

/-- Pairs wait, and the key texts seen are theirs. -/
structure Gathered (base : Lowering) (roots : List NodeId) (seen : List String) (met : List Mention) (s : Lowering) :
    Prop where
  recorded : Recorded base ⟨true, roots⟩ met s
  mem_seen_iff : ∀ key, key ∈ seen ↔ key ∈ keyTexts s.nodes roots

/-- Beside the pairs gathered a new one waits that has not been compared with them. -/
def Pending (base : Lowering) (roots : List NodeId) (seen : List String) (met : List Mention) (pair : NodeId)
    (s : Lowering) : Prop :=
  ∃ before earlier, Gathered base roots seen earlier before ∧ Recorded before ⟨true, [pair]⟩ met s

/-- A pair is lowered beside those gathered. -/
theorem Records.pending {m : LowerM NodeId} {more : List Mention}
    (records : Records ⟨false, []⟩ m more fun id => ⟨true, [id]⟩) :
    Ensures (Gathered base roots seen met) m fun pair => Pending base roots seen (met ++ more) pair :=
  fun s gathered => ⟨s, met, gathered, records s met s (.self gathered.recorded.met)⟩

/-- Nothing is gathered at first. -/
theorem Gathered.start {s : Lowering} (recorded : Recorded base ⟨false, []⟩ met s) : Gathered base [] [] met s := by
  obtain ⟨kept, ⟨faults, noted, same⟩, before⟩ := recorded
  exact ⟨⟨kept, ⟨faults, noted.of_no_roots true, same⟩, before⟩, fun _ => Iff.rfl⟩

/-- The pairs that have been gathered wait for their mapping. -/
theorem Records.of_gathers {m : LowerM (List NodeId × List String)} {more : List Mention}
    (gathers : ∀ base met, Ensures (Gathered base [] [] met) m
      fun pairs => Gathered base ([] ++ pairs.1) pairs.2 (met ++ more)) :
    Records ⟨false, []⟩ m more fun pairs => ⟨true, pairs.1⟩ :=
  fun base met s recorded => (gathers base met s (.start recorded)).recorded

theorem run_checkKey (seen : List String) (pair : NodeId) (s : Lowering) : (checkKey seen pair).run s =
    match keyOfPair? s.nodes pair with
    | some (key, span) =>
      if key ∈ seen then (seen, { s with faults := s.faults ++ [⟨.semantic, "Map keys must be unique", span⟩] })
      else (key :: seen, s)
    | none => (seen, s) := by
  have start : (checkKey seen pair).run s = (match keyOfPair? s.nodes pair with
      | some (key, span) =>
        if seen.elem key then addFault .semantic "Map keys must be unique" span >>= fun _ => pure seen
        else pure (key :: seen)
      | none => pure seen : LowerM (List String)).run s := rfl
  rw [start]
  cases keyOfPair? s.nodes pair with
  | none => rfl
  | some found =>
      obtain ⟨key, span⟩ := found
      by_cases known : key ∈ seen <;> simp only [List.elem_eq_mem, known, decide_true, decide_false, if_true] <;> rfl

/-- A pair is reported if one before it has its key text, and its key text is seen from then on. -/
theorem checkKey_compares {s : Lowering} (mem_seen_iff : ∀ key, key ∈ seen ↔ key ∈ keyTexts s.nodes roots)
    (pair : NodeId) :
    ((checkKey seen pair).run s).2 = { s with
      faults := s.faults ++ if isRepeat s.nodes roots pair then [keyFault s.nodes pair] else [] } ∧
    ∀ key, key ∈ ((checkKey seen pair).run s).1 ↔ key ∈ keyTexts s.nodes (roots ++ [pair]) := by
  have texts : keyTexts s.nodes (roots ++ [pair]) =
      keyTexts s.nodes roots ++ ((keyOfPair? s.nodes pair).map Prod.fst).toList := by
    rw [keyTexts_append, keyTexts, keyTexts]
    cases key : keyOfPair? s.nodes pair <;> simp [key]
  rw [run_checkKey, texts, isRepeat, keyFault]
  cases keyOfPair? s.nodes pair with
  | none => exact ⟨by simp, by simpa using mem_seen_iff⟩
  | some found =>
      obtain ⟨text, span⟩ := found
      by_cases known : text ∈ seen
      · have earlier := (mem_seen_iff text).1 known
        refine ⟨by simp [known, earlier], fun key => ?_⟩
        have new : key = text → key ∈ keyTexts s.nodes roots := by
          rintro rfl
          exact earlier
        simpa [known, mem_seen_iff] using new
      · have fresh := mt (mem_seen_iff text).2 known
        refine ⟨by simp [known, fresh], fun key => ?_⟩
        simp [known, mem_seen_iff, or_comm]

/-- The pair is compared with those gathered. -/
theorem ensures_checkKey (pair : NodeId) : Ensures (Pending base roots seen met pair) (checkKey seen pair)
    fun seen' => Gathered base (roots ++ [pair]) seen' met := by
  rintro s ⟨before, earlier, ⟨⟨kept, ⟨faults, noted, same⟩, -⟩, mem_seen_iff⟩, kept', ⟨faults', noted', same'⟩, after⟩
  have le := noted.forest.le
  have here (key : String) : key ∈ seen ↔ key ∈ keyTexts s.nodes roots := by
    rw [mem_seen_iff, noted.forest.keyTexts_congr kept']
  obtain ⟨state, seen_iff⟩ := checkKey_compares here pair
  refine ⟨?_, by rw [state]; exact seen_iff⟩
  rw [state]
  refine ⟨fun i small => ?_, ⟨_, (noted.congr kept').append_pair noted', ?_⟩, after.anchors, after.references, ?_⟩
  · exact (kept' i (by omega)).trans (kept i small)
  · rw [Lowering.faultsOf, List.filter_append, ← List.append_assoc, ← List.append_assoc, ← same, ← same']
    cases isRepeat s.nodes roots pair <;> rfl
  · rw [List.filter_append, after.faults]
    cases isRepeat s.nodes roots pair <;> exact List.append_nil _

/-! ### Nodes with children -/

/-- A node that was found, or none. -/
theorem Places.some {m : LowerM NodeId} {more : List Mention} (places : Places m more) :
    Records ⟨false, []⟩ (Option.some <$> m) more fun id => ⟨false, id.toList⟩ :=
  places

/-- Without content nothing is lowered, and with content there is a result. -/
theorem lowerFirst_found (text : List Char) : ∀ cs, (firstMentions text cs = none ∧ lowerFirst text cs = pure none) ∨
    ((firstMentions text cs).isSome ∧ ∃ m, lowerFirst text cs = some <$> m)
  | .node i cs :: rest => by
      rw [lowerFirst, firstMentions]
      by_cases content : i.kind.isContent = true
      · rw [if_pos content, if_pos content]
        exact .inr ⟨rfl, _, rfl⟩
      · rw [if_neg content, if_neg content]
        by_cases unplaced : i.kind = .error
        · rw [if_pos unplaced, if_pos unplaced]
          rcases lowerFirst_found text cs with ⟨nothing, inner⟩ | ⟨found, m, inner⟩
          · rw [inner, nothing, Option.none_or]
            exact lowerFirst_found text rest
          · rw [inner, Option.or_of_isSome found]
            exact .inr ⟨found, m, rfl⟩
        · rw [if_neg unplaced, if_neg unplaced]
          exact lowerFirst_found text rest
  | [] => .inl ⟨rfl, rfl⟩

/-- The first content of an unplaced region counts, or what comes after the region if it has none. -/
theorem lowerFirst_unplaced (text : List Char) {i : ConcreteInfo} (cs rest : List Concrete)
    (unplaced : i.kind = .error) : lowerFirst text (.node i cs :: rest) =
      if (firstMentions text cs).isSome then lowerFirst text cs else lowerFirst text rest := by
  have noContent : ¬ i.kind.isContent = true := by rw [unplaced]; decide
  rw [lowerFirst, if_neg noContent, if_pos unplaced]
  rcases lowerFirst_found text cs with ⟨nothing, inner⟩ | ⟨found, m, inner⟩
  · rw [nothing, inner]
    rfl
  · rw [if_pos found, inner]
    rfl

mutual

/-- Lowering a node leaves one tree, comes by the mentions of the node and reports what there is to report. -/
theorem places_node (text : List Char) : ∀ c, Places (lowerNode text c) (mentions text c)
  | .node i cs => by
      rw [lowerNode]
      split
      -- nodes around content
      case h_1 kind | h_2 kind =>
          rw [mentions, kind]
          refine (records_lowerProperties text cs _).bind fun _ => ?_
          refine (records_content text cs).andThen fun content => ?_
          cases content with
          | none => exact places_null _
          | some id => exact records_pure id fun id => ⟨false, [id]⟩
      -- mappings
      case h_3 kind | h_4 kind =>
          rw [mentions, kind]
          refine (Records.of_gathers fun base met => gathers_pairs text _ cs base [] [] met).andThen fun pairs => ?_
          exact records_addNode (.mapping pairs.1) rfl _
      -- sequences
      case h_5 kind | h_6 kind =>
          rw [mentions, kind]
          refine (records_items text _ cs).andThen fun items => ?_
          exact records_addNode (.sequence items) rfl _
      -- a pair that stands alone
      case h_7 kind =>
          rw [mentions, kind]
          show Places (lowerEntry text i cs >>= fun pair => do addNode (.mapping [pair]) (← spanOfNode pair)) _
          refine (records_lowerEntry (records_role text · cs)).andThen fun pair => ?_
          refine ((quiet_spanOfNode pair).records _).bind fun span => ?_
          exact records_addNode (.mapping [pair]) rfl span
      case h_8 kind =>
          rw [mentions, kind]
          exact records_lowerReference text i
      case h_9 kind =>
          rw [mentions, kind]
          exact places_scalar _ _ _
      case h_10 kind | h_11 kind =>
          rw [mentions, kind]
          exact places_lowerQuoted text _ i
      case h_12 kind =>
          rw [mentions, kind]
          exact places_lowerBlockScalar text i
      -- anything else
      case h_13 =>
          have same : mentions text (.node i cs) = (firstMentions text cs).getD [] := by
            rw [mentions]
            split <;> first | rfl | contradiction
          rw [same]
          refine (records_first text cs).andThen fun content => ?_
          cases content with
          | none => exact places_scalar _ _ _
          | some id => exact records_pure id fun id => ⟨false, [id]⟩

theorem records_content (text : List Char) : ∀ cs,
    Records ⟨false, []⟩ (lowerContent text cs) ((contentMentions text cs).getD []) fun id => ⟨false, id.toList⟩
  | [] => records_pure none fun id => ⟨false, id.toList⟩
  | .node i cs :: rest => by
      rw [lowerContent, contentMentions]
      split
      next => exact (places_node text (.node i cs)).some
      next => exact records_content text rest

theorem records_first (text : List Char) : ∀ cs,
    Records ⟨false, []⟩ (lowerFirst text cs) ((firstMentions text cs).getD []) fun id => ⟨false, id.toList⟩
  | [] => records_pure none fun id => ⟨false, id.toList⟩
  | .node i cs :: rest => by
      by_cases unplaced : i.kind = .error
      · have noContent : ¬ i.kind.isContent = true := by rw [unplaced]; decide
        rw [lowerFirst_unplaced text cs rest unplaced, firstMentions, if_neg noContent, if_pos unplaced]
        cases found : firstMentions text cs with
        | none => exact records_first text rest
        | some more =>
            have inner := records_first text cs
            rwa [found] at inner
      · rw [lowerFirst, firstMentions, if_neg unplaced, if_neg unplaced]
        split
        next => exact (places_node text (.node i cs)).some
        next => exact records_first text rest

/-- The pairs among nodes are gathered beside those gathered already. -/
theorem gathers_pairs (text : List Char) (flow : Bool) : ∀ cs base roots seen met,
    Ensures (Gathered base roots seen met) (lowerPairs text flow seen cs)
      fun pairs => Gathered base (roots ++ pairs.1) pairs.2 (met ++ pairMentions text flow cs)
  | [], base, roots, seen, met => by
      refine ensures_pure fun s gathered => ?_
      rwa [pairMentions, List.append_nil, List.append_nil]
  | .node i cs :: rest, base, roots, seen, met => by
      have one {m : LowerM NodeId} {more : List Mention} (pair : Records ⟨false, []⟩ m more fun id => ⟨true, [id]⟩) :
          Ensures (Gathered base roots seen met)
            (do let id ← m
                let seen ← checkKey seen id
                let (ids, seen) ← lowerPairs text flow seen rest
                return (id :: ids, seen))
            fun pairs => Gathered base (roots ++ pairs.1) pairs.2 (met ++ (more ++ pairMentions text flow rest)) := by
        refine pair.pending.bind fun id => (ensures_checkKey id).bind fun seen => ?_
        refine (gathers_pairs text flow rest base (roots ++ [id]) seen (met ++ more)).bind fun pairs => ?_
        refine ensures_pure fun s gathered => ?_
        simpa using gathered
      rw [lowerPairs, pairMentions]
      generalize (if flow then Kind.flowPair else Kind.blockMappingPair) = entry
      by_cases isEntry : i.kind = entry
      · rw [if_pos isEntry, if_pos isEntry]
        exact one (records_lowerEntry (records_role text · cs))
      · rw [if_neg isEntry, if_neg isEntry]
        split
        next =>
            have lone : Records ⟨false, []⟩
                (do let key ← lowerNode text (.node i cs)
                    addNode (.pair key none) (← spanOfNode key))
                (mentions text (.node i cs)) fun id => ⟨true, [id]⟩ := by
              refine (places_node text (.node i cs)).andThen fun key => ?_
              refine ((quiet_spanOfNode key).records _).bind fun span => ?_
              exact records_addNode (.pair key none) rfl span
            exact one lone
        next =>
            split
            next =>
                refine (gathers_pairs text flow cs base roots seen met).bind fun inner => ?_
                refine (gathers_pairs text flow rest base (roots ++ inner.1) inner.2 _).bind fun pairs => ?_
                refine ensures_pure fun s gathered => ?_
                simpa using gathered
            next =>
                rw [List.nil_append]
                exact gathers_pairs text flow rest base roots seen met

theorem records_role (text : List Char) (role : Role) : ∀ cs,
    Records ⟨false, []⟩ (lowerRole text role cs) ((roleMentions text role cs).getD []) fun id => ⟨false, id.toList⟩
  | [] => records_pure none fun id => ⟨false, id.toList⟩
  | .node i cs :: rest => by
      rw [lowerRole, roleMentions]
      split
      next => exact (places_node text (.node i cs)).some
      next => exact records_role text role rest

/-- Lowering items leaves the trees of those items. -/
theorem records_items (text : List Char) (flow : Bool) : ∀ cs,
    Records ⟨false, []⟩ (lowerItems text flow cs) (itemMentions text flow cs) fun items => ⟨false, items⟩
  | [] => records_pure [] fun items => ⟨false, items⟩
  | .node i cs :: rest => by
      have others (items : List NodeId) : Records ⟨false, items⟩
          (do let others ← lowerItems text flow rest
              return items ++ others) (itemMentions text flow rest) fun items => ⟨false, items⟩ := by
        refine ((records_items text flow rest).beside items).andThen fun others => ?_
        exact records_pure (items ++ others) fun items => ⟨false, items⟩
      rw [lowerItems, itemMentions]
      split
      next => exact (places_node text (.node i cs)).bind fun id => others [id]
      next =>
          split
          next =>
              refine (records_first text cs).bind fun content => ?_
              cases content with
              | none => exact (places_null _).bind fun id => others [id]
              | some id => exact others [id]
          next =>
              split
              next => exact (records_items text flow cs).bind others
              next =>
                  rw [List.nil_append]
                  exact records_items text flow rest

end

/-! ### Documents -/

mutual

/-- What the shape of a concrete tree gives away are faults of its syntax only. -/
theorem collectFaults_syntactic (text : List Char) : ∀ c, ∀ fault ∈ collectFaults text c, fault.kind = .syntactic
  | .node i cs => by
      rw [collectFaults]
      split
      next => simp
      next =>
          split
          next => simp
          next =>
              split
              next => exact collectFaultsOf_syntactic text cs
              next => simp

theorem collectFaultsOf_syntactic (text : List Char) :
    ∀ cs, ∀ fault ∈ collectFaultsOf text cs, fault.kind = .syntactic
  | [] => by simp [collectFaultsOf]
  | c :: cs => by
      intro fault among
      rw [collectFaultsOf, List.mem_append] at among
      rcases among with among | among
      · exact collectFaults_syntactic text c fault among
      · exact collectFaultsOf_syntactic text cs fault among

end

end PlaybookServer
