/-
Module: PlaybookServer.Proofs.Document.Lowering
Purpose: What lowering leaves in the array of nodes. Between two steps of lowering there are trees that wait for
  their parent; a node is added over all that wait, and is what waits from then on. So whatever the concrete tree,
  lowering a node leaves one tree, lowering pairs leaves trees of pairs, and the nodes of a document are one tree.
Main exports: Waiting, Lowers, Lowers.bind, Lowers.beside, lowers_addNode, lowers_node, lowered_is_one_tree
-/
import PlaybookServer.Document.Lowering
import PlaybookServer.Proofs.Document.Forest

namespace PlaybookServer

open Text Source

/-! ### Steps of lowering -/

/-- Roots that wait for their parent, and whether they are pairs. -/
structure Waiting where
  pairs : Bool
  roots : List NodeId

/-- The nodes that came after `base` are trees whose roots wait. -/
structure Waiting.In (w : Waiting) (base nodes : Array Node) : Prop where
  kept : ∀ i, i < base.size → nodes[i]? = base[i]?
  forest : Forest nodes w.pairs base.size nodes.size w.roots

variable {α β : Type} {w : Waiting}

/-- A computation goes on from some roots that wait to others, wherever those trees begin. -/
def Lowers (w : Waiting) (m : LowerM α) (after : α → Waiting) : Prop :=
  ∀ base s, w.In base s.nodes → (after (m.run s).1).In base (m.run s).2.nodes

/-- Nothing waits at first. -/
theorem Waiting.in_self (pairs : Bool) (nodes : Array Node) : Waiting.In ⟨pairs, []⟩ nodes nodes :=
  ⟨fun _ _ => rfl, .nil pairs nodes.size⟩

theorem lowers_pure (v : α) (after : α → Waiting) : Lowers (after v) (pure v) after :=
  fun _ _ h => h

theorem Lowers.bind {between : α → Waiting} {after : β → Waiting} {m : LowerM α} {f : α → LowerM β}
    (hm : Lowers w m between) (hf : ∀ v, Lowers (between v) (f v) after) : Lowers w (m >>= f) after :=
  fun base s h => hf _ base _ (hm base s h)

/-- From nothing, it does not matter of which kind nothing is. -/
theorem Lowers.of_nothing {pairs : Bool} {m : LowerM α} {after : α → Waiting} (h : Lowers ⟨pairs, []⟩ m after)
    (pairs' : Bool) : Lowers ⟨pairs', []⟩ m after :=
  fun base s hw => h base s ⟨hw.kept, hw.forest.of_no_roots pairs⟩

/-- Roots that wait already wait beside the new ones. -/
theorem Lowers.beside {pairs : Bool} {m : LowerM α} {roots : α → List NodeId}
    (h : Lowers ⟨pairs, []⟩ m fun v => ⟨pairs, roots v⟩) (waiting : List NodeId) :
    Lowers ⟨pairs, waiting⟩ m fun v => ⟨pairs, waiting ++ roots v⟩ := by
  intro base s hw
  have hnew := h s.nodes s (Waiting.in_self pairs s.nodes)
  have hle := hw.forest.le
  refine ⟨fun i hi => ?_, ?_⟩
  · rw [hnew.kept i (by omega), hw.kept i hi]
  · exact (hw.forest.congr hnew.kept).append hnew.forest

/-- A node is added over all roots that wait. -/
theorem lowers_addNode (kind : NodeKind) (span : Span) :
    Lowers ⟨kind.isMapping, kind.children⟩ (addNode kind span) fun id => ⟨kind.isPair, [id]⟩ := by
  intro base s hw
  have hle := hw.forest.le
  refine ⟨fun i hi => ?_, ?_⟩
  · have hpush : (s.nodes.push ⟨kind, span⟩)[i]? = s.nodes[i]? := by
      rw [Array.getElem?_push, if_neg (by omega)]
    exact hpush.trans (hw.kept i hi)
  · have hforest := hw.forest.push span
    rw [← Array.size_push ⟨kind, span⟩] at hforest
    exact hforest

/-- A computation adds no nodes. -/
def Silent (m : LowerM α) : Prop := ∀ s, (m.run s).2.nodes = s.nodes

theorem Silent.lowers {m : LowerM α} (h : Silent m) (w : Waiting) : Lowers w m fun _ => w := by
  intro base s hw
  rwa [h s]

theorem Silent.bind {m : LowerM α} {f : α → LowerM β} (hm : Silent m) (hf : ∀ v, Silent (f v)) :
    Silent (m >>= f) :=
  fun s => (hf _ _).trans (hm s)

theorem silent_pure (v : α) : Silent (pure v : LowerM α) := fun _ => rfl

theorem silent_addFault (kind : FaultKind) (message : String) (span : Span) : Silent (addFault kind message span) :=
  fun _ => rfl

theorem silent_get : Silent (get : LowerM Lowering) := fun _ => rfl

theorem silent_spanOfNode (id : NodeId) : Silent (spanOfNode id) := fun _ => rfl

theorem silent_checkKey (seen : List String) (id : NodeId) : Silent (checkKey seen id) := by
  refine silent_get.bind fun s => ?_
  split
  next key span _ =>
      split
      next => exact (silent_addFault _ _ _).bind fun _ => silent_pure _
      next => exact silent_pure _
  next => exact silent_pure _

theorem silent_lowerProperties (text : List Char) (cs : List Concrete) : Silent (lowerProperties text cs) := by
  induction cs with
  | nil => exact silent_pure _
  | cons c cs ih =>
      have hanchor (name : String) :
          Silent (modify fun s => { s with anchors := name :: s.anchors } : LowerM Unit) := fun _ => rfl
      rw [lowerProperties]
      split
      next => exact (hanchor _).bind fun _ => ih
      next =>
          split
          next =>
              dsimp only
              split
              next => exact (silent_addFault _ _ _).bind fun _ => ih
              next => exact ih
          next => exact ih

/-! ### Nodes without children -/

/-- A computation adds one node that is no pair. -/
abbrev Adds (m : LowerM NodeId) : Prop := Lowers ⟨false, []⟩ m fun id => ⟨false, [id]⟩

theorem adds_null (span : Span) : Adds (addNode .null span) := lowers_addNode .null span

theorem adds_scalar (value : String) (style : ScalarStyle) (span : Span) : Adds (addNode (.scalar value style) span) :=
  lowers_addNode (.scalar value style) span

theorem adds_lowerReference (text : List Char) (i : ConcreteInfo) : Adds (lowerReference text i) := by
  refine (silent_get.lowers _).bind fun s => ?_
  have hnode := lowers_addNode (.reference (String.ofList ((i.span.slice text).dropWhile (· = '*')))) i.span
  dsimp only
  split
  next => exact ((silent_addFault _ _ _).lowers _).bind fun _ => hnode
  next => exact hnode

theorem adds_lowerQuoted (text : List Char) (double : Bool) (i : ConcreteInfo) : Adds (lowerQuoted text double i) :=
  adds_scalar _ _ _

theorem adds_lowerBlockScalar (text : List Char) (i : ConcreteInfo) : Adds (lowerBlockScalar text i) := by
  unfold lowerBlockScalar
  dsimp only
  split
  next => exact ((silent_addFault _ _ _).lowers _).bind fun _ => adds_scalar _ _ _
  next => exact adds_scalar _ _ _

/-! ### Pairs -/

/-- A key that is missing is made up. -/
theorem lowers_orNull (i : ConcreteInfo) (key : Option NodeId) :
    Lowers ⟨false, key.toList⟩ (orNull i key) fun id => ⟨false, [id]⟩ := by
  cases key with
  | none => exact adds_null _
  | some id => exact lowers_pure id fun id => ⟨false, [id]⟩

/-- A pair is added over its key and its value. -/
theorem lowers_finishPair (text : List Char) (i : ConcreteInfo) (key : NodeId) (value : Option NodeId) :
    Lowers ⟨false, [key] ++ value.toList⟩ (finishPair text i key value) fun id => ⟨true, [id]⟩ := by
  refine ((silent_spanOfNode key).lowers _).bind fun keySpan => ?_
  have hpair (span : Span) := lowers_addNode (.pair key value) span
  cases value with
  | none => exact hpair _
  | some v => exact ((silent_spanOfNode v).lowers _).bind fun valueSpan => hpair _

/-- Adding the pair of a node's key and value, and going on from there. -/
theorem lowers_pair {text : List Char} {i : ConcreteInfo} {cs : List Concrete} {rest : NodeId → LowerM β}
    {after : β → Waiting}
    (hrole : ∀ role, Lowers ⟨false, []⟩ (lowerRole text role cs) fun id => ⟨false, id.toList⟩)
    (hrest : ∀ id, Lowers ⟨true, [id]⟩ (rest id) after) :
    Lowers ⟨false, []⟩ (do
      let key ← orNull i (← lowerRole text .key cs)
      let value ← lowerRole text .value cs
      let id ← finishPair text i key value
      rest id) after := by
  refine (hrole .key).bind fun key? => ?_
  refine (lowers_orNull i key?).bind fun key => ?_
  refine ((hrole .value).beside [key]).bind fun value => ?_
  exact (lowers_finishPair text i key value).bind hrest

/-! ### Nodes with children -/

/-- A node that was found, or none. -/
theorem Adds.some {m : LowerM NodeId} (h : Adds m) :
    Lowers ⟨false, []⟩ (Option.some <$> m) fun id => ⟨false, id.toList⟩ :=
  h

mutual

/-- Lowering a node leaves one tree, whose root is no pair. -/
theorem lowers_node (text : List Char) : ∀ c, Adds (lowerNode text c)
  | .node i cs => by
      rw [lowerNode]
      split
      -- nodes around content
      case h_1 | h_2 =>
          refine ((silent_lowerProperties text cs).lowers _).bind fun _ => ?_
          refine (lowers_content text cs).bind fun content => ?_
          cases content with
          | none => exact adds_null _
          | some id => exact lowers_pure id fun id => ⟨false, [id]⟩
      -- mappings
      case h_3 | h_4 =>
          refine ((lowers_pairs text _ [] cs).of_nothing false).bind fun pairs => ?_
          exact lowers_addNode (.mapping pairs.1) _
      -- sequences
      case h_5 | h_6 =>
          refine (lowers_items text _ cs).bind fun items => ?_
          exact lowers_addNode (.sequence items) _
      -- a pair that stands alone
      case h_7 =>
          refine lowers_pair (lowers_role text · cs) fun pair => ?_
          refine ((silent_spanOfNode pair).lowers _).bind fun span => ?_
          exact lowers_addNode (.mapping [pair]) span
      case h_8 => exact adds_lowerReference text i
      case h_9 => exact adds_scalar _ _ _
      case h_10 => exact adds_lowerQuoted text true i
      case h_11 => exact adds_lowerQuoted text false i
      case h_12 => exact adds_lowerBlockScalar text i
      -- anything else
      case h_13 =>
          refine (lowers_first text cs).bind fun content => ?_
          cases content with
          | none => exact adds_scalar _ _ _
          | some id => exact lowers_pure id fun id => ⟨false, [id]⟩

theorem lowers_content (text : List Char) : ∀ cs,
    Lowers ⟨false, []⟩ (lowerContent text cs) fun id => ⟨false, id.toList⟩
  | [] => lowers_pure none fun id => ⟨false, id.toList⟩
  | .node i cs :: rest => by
      rw [lowerContent]
      split
      next => exact (lowers_node text (.node i cs)).some
      next => exact lowers_content text rest

theorem lowers_first (text : List Char) : ∀ cs,
    Lowers ⟨false, []⟩ (lowerFirst text cs) fun id => ⟨false, id.toList⟩
  | [] => lowers_pure none fun id => ⟨false, id.toList⟩
  | .node i cs :: rest => by
      rw [lowerFirst]
      split
      next => exact (lowers_node text (.node i cs)).some
      next =>
          split
          next =>
              refine (lowers_first text cs).bind fun inner => ?_
              cases inner with
              | none => exact lowers_first text rest
              | some id => exact lowers_pure (some id) fun id => ⟨false, id.toList⟩
          next => exact lowers_first text rest

/-- Lowering pairs leaves the trees of those pairs. -/
theorem lowers_pairs (text : List Char) (flow : Bool) (seen : List String) : ∀ cs,
    Lowers ⟨true, []⟩ (lowerPairs text flow seen cs) fun pairs => ⟨true, pairs.1⟩
  | [] => lowers_pure ([], seen) fun pairs => ⟨true, pairs.1⟩
  | .node i cs :: rest => by
      have hrest (id : NodeId) : Lowers ⟨true, [id]⟩
          (do let seen ← checkKey seen id
              let (ids, seen) ← lowerPairs text flow seen rest
              return (id :: ids, seen)) fun pairs => ⟨true, pairs.1⟩ := by
        refine ((silent_checkKey seen id).lowers _).bind fun seen => ?_
        refine ((lowers_pairs text flow seen rest).beside [id]).bind fun pairs => ?_
        exact lowers_pure (id :: pairs.1, pairs.2) fun pairs => ⟨true, pairs.1⟩
      rw [lowerPairs]
      generalize (if flow then Kind.flowPair else Kind.blockMappingPair) = entry
      split
      next => exact (lowers_pair (lowers_role text · cs) hrest).of_nothing true
      next =>
          split
          next =>
              refine ((lowers_node text (.node i cs)).of_nothing true).bind fun key => ?_
              refine ((silent_spanOfNode key).lowers _).bind fun span => ?_
              exact (lowers_addNode (.pair key none) span).bind hrest
          next =>
              split
              next =>
                  refine (lowers_pairs text flow seen cs).bind fun inner => ?_
                  refine ((lowers_pairs text flow inner.2 rest).beside inner.1).bind fun pairs => ?_
                  exact lowers_pure (inner.1 ++ pairs.1, pairs.2) fun pairs => ⟨true, pairs.1⟩
              next => exact lowers_pairs text flow seen rest

theorem lowers_role (text : List Char) (role : Role) : ∀ cs,
    Lowers ⟨false, []⟩ (lowerRole text role cs) fun id => ⟨false, id.toList⟩
  | [] => lowers_pure none fun id => ⟨false, id.toList⟩
  | .node i cs :: rest => by
      rw [lowerRole]
      split
      next => exact (lowers_node text (.node i cs)).some
      next => exact lowers_role text role rest

/-- Lowering items leaves the trees of those items, none of which is a pair. -/
theorem lowers_items (text : List Char) (flow : Bool) : ∀ cs,
    Lowers ⟨false, []⟩ (lowerItems text flow cs) fun items => ⟨false, items⟩
  | [] => lowers_pure [] fun items => ⟨false, items⟩
  | .node i cs :: rest => by
      have hrest (items : List NodeId) : Lowers ⟨false, items⟩
          (do let others ← lowerItems text flow rest
              return items ++ others) fun items => ⟨false, items⟩ := by
        refine ((lowers_items text flow rest).beside items).bind fun others => ?_
        exact lowers_pure (items ++ others) fun items => ⟨false, items⟩
      rw [lowerItems]
      split
      next => exact (lowers_node text (.node i cs)).bind fun id => hrest [id]
      next =>
          split
          next =>
              refine (lowers_first text cs).bind fun content => ?_
              cases content with
              | none => exact (adds_null _).bind fun id => hrest [id]
              | some id => exact hrest [id]
          next =>
              split
              next => exact (lowers_items text flow cs).bind hrest
              next => exact lowers_items text flow rest

end

/-! ### Documents -/

/-- Noting what stands after the root adds no nodes. -/
theorem silent_noteStrays (text : List Char) (strays : List ConcreteInfo) :
    Silent (forIn strays PUnit.unit fun stray _ => do
      addFault .syntactic "Unexpected content after the document root" (stray.trimmedSpan text)
      pure (ForInStep.yield PUnit.unit) : LowerM PUnit) := by
  induction strays with
  | nil => exact silent_pure _
  | cons stray strays ih =>
      rw [List.forIn_cons]
      refine ((silent_addFault _ _ _).bind fun _ => silent_pure _).bind fun step => ?_
      cases step with
      | done _ => exact silent_pure _
      | yield _ => exact ih

/-- Lowering a document leaves its tree, or nothing. -/
theorem lowers_document (text : List Char) (c : Concrete) :
    Lowers ⟨false, []⟩ (lowerDocument text c) fun root => ⟨false, root.toList⟩ := by
  obtain ⟨i, cs⟩ := c
  rw [lowerDocument]
  refine (lowers_first text cs).bind fun root => ?_
  have hroot := lowers_pure root fun root => ⟨false, root.toList⟩
  dsimp only
  split
  next => exact ((silent_noteStrays text _).lowers _).bind fun _ => hroot
  next => exact hroot

end PlaybookServer
