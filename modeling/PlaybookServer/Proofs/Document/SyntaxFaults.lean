/-
Module: PlaybookServer.Proofs.Document.SyntaxFaults
Purpose: Which faults of the concrete tree are reported. A fault is an unplaced region or a token that the text lacks;
  those with no fault around them are reported, each once and in document order, and what stands in them is not. The
  walk leaves out what is not flagged, and nothing is missed by that if a flag stands at each node with a fault below.
  Where nodes cover their children and siblings share no byte, no two reports do.
Main exports: Concrete.at?, Concrete.IsOutermost, Concrete.Every, Concrete.Flagged, outermostFaults,
  collectFaults_forall₂, outermost_faults_are_reported
-/
import Mathlib.Data.List.Forall2
import PlaybookServer.Document.Lowering
import PlaybookServer.Proofs.Text.Boundary
import PlaybookServer.Proofs.Text.Trim

namespace PlaybookServer

open Text Source

/-- Two spans have no byte in common. -/
def Text.Span.SharesNoByte (a b : Span) : Prop :=
  ∀ offset, ¬ (a.contains offset false = true ∧ b.contains offset false = true)

namespace Source.Concrete

/-! ### Places in a tree -/

/-- The node at a place, which is given by the numbers of the children on the way down. -/
def at? (c : Concrete) : List Nat → Option Concrete
  | [] => some c
  | i :: place => c.children[i]?.bind fun d => d.at? place

/-- A node that is a fault: a region that could not be placed, or a token that the text lacks. -/
def isFault (c : Concrete) : Bool := c.isError || c.info.missing

/-- There is a fault at a place, and none on the way to it. -/
structure IsOutermost (tree : Concrete) (place : List Nat) : Prop where
  fault : ∃ c, tree.at? place = some c ∧ c.isFault = true
  outermost : ∀ above, above <+: place → above ≠ place → ∀ c, tree.at? above = some c → c.isFault = false

/-- A condition holds of every node of a tree. -/
inductive Every (holds : Concrete → Prop) : Concrete → Prop where
  | node {i : ConcreteInfo} {cs : List Concrete} (here : holds (.node i cs)) (below : ∀ c ∈ cs, Every holds c) :
      Every holds (.node i cs)

/-- Every node with a fault somewhere below it is flagged. -/
def Flagged (tree : Concrete) : Prop :=
  tree.Every fun c => (∃ place d, place ≠ [] ∧ c.at? place = some d ∧ d.isFault = true) → c.info.faulty = true

/-- Every node lies in the text. -/
def LiesInText (text : List Char) (tree : Concrete) : Prop :=
  tree.Every fun c => c.info.start ≤ c.info.stop ∧ c.info.stop ≤ byteLength text

/-- Every node covers its children. -/
def CoversChildren (tree : Concrete) : Prop :=
  tree.Every fun c => ∀ d ∈ c.children, c.info.start ≤ d.info.start ∧ d.info.stop ≤ c.info.stop

/-- No byte belongs to two siblings. -/
def SiblingsApart (tree : Concrete) : Prop :=
  tree.Every fun c => c.children.Pairwise fun a b => a.info.span.SharesNoByte b.info.span

section Places

variable {tree c : Concrete} {i : ConcreteInfo} {cs : List Concrete} {n : Nat} {place : List Nat}

/-- What holds of a node once it holds of its children holds of every node. -/
theorem ind {motive : Concrete → Prop} (node : ∀ i cs, (∀ c ∈ cs, motive c) → motive (.node i cs)) (c : Concrete) :
    motive c := by
  cases c with
  | node i cs =>
      apply node
      intro c member
      exact ind node c
  termination_by sizeOf c
  decreasing_by exact Nat.lt_of_lt_of_le (List.sizeOf_lt_of_mem member) (by simp)

theorem at?_cons_eq_some_iff : tree.at? (n :: place) = some c ↔
    ∃ d, tree.children[n]? = some d ∧ d.at? place = some c := by
  rw [at?, Option.bind_eq_some_iff]

/-- What holds of every node holds of the node at a place. -/
theorem Every.at_place {holds : Concrete → Prop} (every : tree.Every holds) (there : tree.at? place = some c) :
    holds c := by
  induction every generalizing place with
  | node here _ ih =>
      cases place with
      | nil =>
          cases there
          exact here
      | cons n place =>
          obtain ⟨d, child, inChild⟩ := at?_cons_eq_some_iff.1 there
          exact ih d (List.mem_of_getElem? child) inChild

theorem every_node_iff {holds : Concrete → Prop} :
    (Concrete.node i cs).Every holds ↔ holds (.node i cs) ∧ ∀ c ∈ cs, c.Every holds := by
  constructor
  · intro every
    cases every with
    | node here below => exact ⟨here, below⟩
  · intro ⟨here, below⟩
    exact .node here below

theorem flagged_leaf (i : ConcreteInfo) : (Concrete.node i []).Flagged := by
  constructor
  · intro ⟨place, d, below, there, _⟩
    cases place with
    | nil => exact absurd rfl below
    | cons n place => cases there
  · intro c child
    cases child

theorem Flagged.of_flag (flag : i.faulty = true) (below : ∀ c ∈ cs, c.Flagged) : (Concrete.node i cs).Flagged :=
  .node (fun _ => flag) below

theorem isOutermost_nil_iff : tree.IsOutermost [] ↔ tree.isFault = true := by
  constructor
  · intro outermost
    obtain ⟨c, here, fault⟩ := outermost.fault
    cases here
    exact fault
  · intro fault
    exact ⟨⟨tree, rfl, fault⟩, fun above begins other => absurd (List.prefix_nil.1 begins) other⟩

/-- Below a node that is no fault, the outermost faults are those of the children. -/
theorem isOutermost_cons_iff (other : tree.isFault = false) : tree.IsOutermost (n :: place) ↔
    ∃ d, tree.children[n]? = some d ∧ d.IsOutermost place := by
  constructor
  · intro outermost
    obtain ⟨c, here, fault⟩ := outermost.fault
    obtain ⟨d, child, inChild⟩ := at?_cons_eq_some_iff.1 here
    refine ⟨d, child, ⟨c, inChild, fault⟩, ?_⟩
    intro above begins apart e there
    apply outermost.outermost (n :: above)
    · exact List.cons_prefix_cons.2 ⟨rfl, begins⟩
    · exact fun same => apart (List.cons.inj same).2
    · exact at?_cons_eq_some_iff.2 ⟨d, child, there⟩
  · intro ⟨d, child, outermost⟩
    obtain ⟨c, inChild, fault⟩ := outermost.fault
    refine ⟨⟨c, at?_cons_eq_some_iff.2 ⟨d, child, inChild⟩, fault⟩, ?_⟩
    intro above begins apart e there
    cases above with
    | nil =>
        cases there
        exact other
    | cons m above =>
        obtain ⟨rfl, further⟩ := List.cons_prefix_cons.1 begins
        obtain ⟨d', child', inChild'⟩ := at?_cons_eq_some_iff.1 there
        rw [child] at child'
        cases child'
        exact outermost.outermost above further (fun same => apart (congrArg _ same)) e inChild'

end Places

end Source.Concrete

/-! ### The outermost faults -/

open Source.Concrete

mutual

/-- The places of the outermost faults of a tree. -/
def outermostFaults : Concrete → List (List Nat)
  | .node i cs => if (Concrete.node i cs).isFault then [[]] else outermostFaultsFrom 0 cs

/-- Those of several children, of which the first has the given number. -/
def outermostFaultsFrom (n : Nat) : List Concrete → List (List Nat)
  | [] => []
  | c :: cs => (outermostFaults c).map (n :: ·) ++ outermostFaultsFrom (n + 1) cs

end

/-- The report of a fault: an unplaced region is described by its text, a token by its kind. -/
def Source.Concrete.report (text : List Char) (c : Concrete) : Fault :=
  if c.isError then ⟨.syntactic, regionMessage ((c.info.trimmedSpan text).slice text), c.info.trimmedSpan text⟩
  else ⟨.syntactic, missingMessage c.kind.label, Span.empty c.info.start⟩

section Outermost

variable {text : List Char} {tree c : Concrete} {i : ConcreteInfo} {cs : List Concrete} {n : Nat} {place : List Nat}

theorem mem_outermostFaultsFrom_iff : place ∈ outermostFaultsFrom n cs ↔
    ∃ k c rest, cs[k]? = some c ∧ rest ∈ outermostFaults c ∧ place = (n + k) :: rest := by
  induction cs generalizing n with
  | nil => simp [outermostFaultsFrom]
  | cons c cs ih =>
      rw [outermostFaultsFrom, List.mem_append, List.mem_map, ih]
      constructor
      · intro member
        rcases member with ⟨rest, inFirst, rfl⟩ | ⟨k, d, rest, there, inRest, rfl⟩
        · exact ⟨0, c, rest, rfl, inFirst, rfl⟩
        · exact ⟨k + 1, d, rest, there, inRest, by rw [Nat.add_assoc, Nat.add_comm 1]⟩
      · intro ⟨k, d, rest, there, inRest, same⟩
        cases k with
        | zero =>
            cases there
            exact .inl ⟨rest, inRest, same.symm⟩
        | succ k => exact .inr ⟨k, d, rest, there, inRest, by rw [same, Nat.add_assoc, Nat.add_comm 1]⟩

/-- The places are those of faults with no fault around. -/
theorem mem_outermostFaults_iff (tree : Concrete) (place : List Nat) :
    place ∈ outermostFaults tree ↔ tree.IsOutermost place := by
  induction tree using Concrete.ind generalizing place with
  | node i cs ih =>
      rw [outermostFaults]
      cases fault : (Concrete.node i cs).isFault with
      | true =>
          rw [if_pos rfl, List.mem_singleton]
          constructor
          · intro root
            rw [root]
            exact isOutermost_nil_iff.2 fault
          · intro outermost
            cases place with
            | nil => rfl
            | cons n place =>
                have other := outermost.outermost [] List.nil_prefix (List.cons_ne_nil n place).symm _ rfl
                rw [fault] at other
                cases other
      | false =>
          rw [if_neg Bool.false_ne_true, mem_outermostFaultsFrom_iff]
          cases place with
          | nil =>
              rw [isOutermost_nil_iff, fault]
              simp
          | cons n place =>
              rw [isOutermost_cons_iff fault]
              constructor
              · intro ⟨k, c, rest, child, inChild, same⟩
                rw [Nat.zero_add] at same
                cases same
                exact ⟨c, child, (ih c (List.mem_of_getElem? child) place).1 inChild⟩
              · intro ⟨c, child, outermost⟩
                exact ⟨n, c, place, child, (ih c (List.mem_of_getElem? child) place).2 outermost, by rw [Nat.zero_add]⟩

theorem outermostFaultsFrom_ascending (each : ∀ c ∈ cs, (outermostFaults c).Pairwise (· < ·)) (n : Nat) :
    (outermostFaultsFrom n cs).Pairwise (· < ·) := by
  induction cs generalizing n with
  | nil => exact List.Pairwise.nil
  | cons c cs ih =>
      rw [outermostFaultsFrom, List.pairwise_append]
      refine ⟨?_, ih (fun d member => each d (List.mem_cons_of_mem c member)) (n + 1), ?_⟩
      · apply List.Pairwise.map _ _ (each c List.mem_cons_self)
        intro a b less
        exact List.cons_lt_cons_iff.2 (.inr ⟨rfl, less⟩)
      · intro first inFirst later inLater
        obtain ⟨rest, _, rfl⟩ := List.mem_map.1 inFirst
        obtain ⟨k, d, rest', _, _, rfl⟩ := mem_outermostFaultsFrom_iff.1 inLater
        exact List.cons_lt_cons_iff.2 (.inl (by omega))

/-- The places come in document order, and none comes twice. -/
theorem outermostFaults_ascending (tree : Concrete) : (outermostFaults tree).Pairwise (· < ·) := by
  induction tree using Concrete.ind with
  | node i cs ih =>
      rw [outermostFaults]
      split
      next => exact List.pairwise_singleton _ _
      next => exact outermostFaultsFrom_ascending ih 0

/-! ### Reports -/

theorem collectFaultsOf_eq_flatMap (text : List Char) (cs : List Concrete) :
    collectFaultsOf text cs = cs.flatMap (collectFaults text) := by
  induction cs with
  | nil => rfl
  | cons c cs ih => rw [collectFaultsOf, ih, List.flatMap_cons]

/-- A fault is reported itself, and what stands in it is not. -/
theorem collectFaults_of_isFault (fault : tree.isFault = true) : collectFaults text tree = [tree.report text] := by
  obtain ⟨i, cs⟩ := tree
  rw [collectFaults, report]
  by_cases unplaced : i.kind = .error
  · have isError : (Concrete.node i cs).isError = true := decide_eq_true unplaced
    rw [if_pos unplaced, if_pos isError]
    rfl
  · have isError : (Concrete.node i cs).isError = false := decide_eq_false unplaced
    have missing : i.missing = true := by
      rw [isFault, isError] at fault
      exact fault
    rw [if_neg unplaced, if_pos missing, isError, if_neg Bool.false_ne_true]
    rfl

/-- Below a node that is no fault it is looked for faults if the node is flagged. -/
theorem collectFaults_of_other (other : (Concrete.node i cs).isFault = false) :
    collectFaults text (.node i cs) = if i.faulty then cs.flatMap (collectFaults text) else [] := by
  obtain ⟨isError, missing⟩ := Bool.or_eq_false_iff.1 other
  have placed : i.kind ≠ .error := of_decide_eq_false isError
  have present : ¬ i.missing = true := Bool.eq_false_iff.1 missing
  rw [collectFaults, if_neg placed, if_neg present, collectFaultsOf_eq_flatMap]

/-- The faults of flagged children are reported as those of each child are. -/
theorem forall₂_outermostFaultsFrom {reports : Concrete → List Fault}
    (each : ∀ c ∈ cs, List.Forall₂ (fun place fault => ∃ d, c.at? place = some d ∧ fault = d.report text)
      (outermostFaults c) (reports c)) (front : List Concrete) :
    List.Forall₂ (fun place fault => ∃ d, (Concrete.node i (front ++ cs)).at? place = some d ∧ fault = d.report text)
      (outermostFaultsFrom front.length cs) (cs.flatMap reports) := by
  induction cs generalizing front with
  | nil => exact .nil
  | cons c cs ih =>
      rw [outermostFaultsFrom, List.flatMap_cons]
      apply List.rel_append
      · rw [List.forall₂_map_left_iff]
        apply (each c List.mem_cons_self).imp
        intro place fault ⟨d, there, same⟩
        have child : (Concrete.node i (front ++ c :: cs)).children[front.length]? = some c := by simp [children]
        exact ⟨d, at?_cons_eq_some_iff.2 ⟨c, child, there⟩, same⟩
      · have rest := ih (fun d member => each d (List.mem_cons_of_mem c member)) (front ++ [c])
        rw [List.length_append, List.length_singleton, List.append_assoc] at rest
        exact rest

/-- In a flagged tree the outermost faults are reported, one report for each place. -/
theorem collectFaults_forall₂ (text : List Char) (flagged : tree.Flagged) :
    List.Forall₂ (fun place fault => ∃ c, tree.at? place = some c ∧ fault = c.report text)
      (outermostFaults tree) (collectFaults text tree) := by
  induction flagged with
  | @node i cs flag below ih =>
      rw [outermostFaults]
      cases fault : (Concrete.node i cs).isFault with
      | true =>
          rw [if_pos rfl, collectFaults_of_isFault fault]
          exact .cons ⟨_, rfl, rfl⟩ .nil
      | false =>
          have each := forall₂_outermostFaultsFrom (i := i) ih []
          rw [if_neg Bool.false_ne_true, collectFaults_of_other fault]
          cases marked : i.faulty with
          | true => exact each
          | false =>
              -- No place is below a node without a flag, so leaving it out misses nothing.
              have faultless : outermostFaultsFrom 0 cs = [] := by
                apply List.eq_nil_iff_forall_not_mem.2
                intro place member
                obtain ⟨k, c, rest, child, inChild, rfl⟩ := mem_outermostFaultsFrom_iff.1 member
                obtain ⟨d, there, isFault⟩ := ((mem_outermostFaults_iff c rest).1 inChild).fault
                rw [← Nat.zero_add k] at child
                have found : (Concrete.node i cs).at? ((0 + k) :: rest) = some d :=
                  at?_cons_eq_some_iff.2 ⟨c, child, there⟩
                have set := flag ⟨_, d, List.cons_ne_nil _ _, found, isFault⟩
                exact absurd (marked.symm.trans set) Bool.false_ne_true
              rw [faultless]
              exact .nil

end Outermost

/-! ### Spans of reports -/

namespace Text

theorem byteLength_le_of_prefix {cs ds : List Char} (begins : cs <+: ds) : byteLength cs ≤ byteLength ds := by
  obtain ⟨rest, rfl⟩ := begins
  rw [byteLength_append]
  exact Nat.le_add_right _ _

theorem takeBytes_fits (n : Nat) (cs : List Char) : byteLength (takeBytes n cs) ≤ n := by
  induction cs generalizing n with
  | nil => exact Nat.zero_le n
  | cons c cs ih =>
      rw [takeBytes]
      split
      next fits =>
          have rest := ih (n - c.utf8Size)
          rw [byteLength_cons]
          omega
      next => exact Nat.zero_le n

namespace Span

theorem contains_iff {s : Span} {offset : Nat} :
    s.contains offset false = true ↔ s.start ≤ offset ∧ offset < s.stop := by
  simp [contains]

theorem SharesNoByte.narrow {a b a' b' : Span} (apart : a.SharesNoByte b)
    (first : a.start ≤ a'.start ∧ a'.stop ≤ a.stop) (second : b.start ≤ b'.start ∧ b'.stop ≤ b.stop) :
    a'.SharesNoByte b' := by
  intro offset ⟨inFirst, inSecond⟩
  rw [contains_iff] at inFirst inSecond
  apply apart offset
  rw [contains_iff, contains_iff]
  omega

end Span

end Text

section Spans

variable {text : List Char} {tree c : Concrete} {i : ConcreteInfo}

/-- Without the whitespace at its end a node covers no more than before. -/
theorem trimmedSpan_stop_le (ordered : i.start ≤ i.stop) : (i.trimmedSpan text).stop ≤ i.stop := by
  have trimmed : trimEnd (i.span.slice text) <+: i.span.slice text := List.rdropWhile_prefix isBlank _
  have part := byteLength_le_of_prefix trimmed
  have whole : byteLength (i.span.slice text) ≤ i.stop - i.start := takeBytes_fits _ _
  rw [Source.ConcreteInfo.trimmedSpan]
  dsimp only
  omega

/-- A report lies in the node that it is about. -/
theorem report_span (text : List Char) (ordered : c.info.start ≤ c.info.stop) :
    c.info.start ≤ (c.report text).span.start ∧ (c.report text).span.start ≤ (c.report text).span.stop ∧
      (c.report text).span.stop ≤ c.info.stop := by
  rw [report]
  split
  next => exact ⟨Nat.le_refl _, Nat.le_add_right _ _, trimmedSpan_stop_le ordered⟩
  next => exact ⟨Nat.le_refl _, Nat.le_refl _, ordered⟩

/-- A report lies in the text if the nodes do. -/
theorem report_in_text (flagged : tree.Flagged) (inText : tree.LiesInText text) {fault : Fault}
    (reported : fault ∈ collectFaults text tree) :
    fault.span.start ≤ fault.span.stop ∧ fault.span.stop ≤ byteLength text := by
  obtain ⟨n, inside, same⟩ := List.getElem_of_mem reported
  have aligned := collectFaults_forall₂ text flagged
  obtain ⟨c, there, isReport⟩ := aligned.get (aligned.length_eq ▸ inside) inside
  have isReport : fault = c.report text := same.symm.trans isReport
  obtain ⟨ordered, stop⟩ := inText.at_place there
  obtain ⟨-, inner, last⟩ := report_span text ordered
  rw [isReport]
  exact ⟨inner, Nat.le_trans last stop⟩

/-- Reports lie in the node at the top. -/
theorem span_of_mem_collectFaults (inText : tree.LiesInText text) (covers : tree.CoversChildren) {fault : Fault}
    (reported : fault ∈ collectFaults text tree) :
    tree.info.start ≤ fault.span.start ∧ fault.span.stop ≤ tree.info.stop := by
  induction covers with
  | @node i cs covers _ ih =>
      obtain ⟨⟨ordered, -⟩, inTextBelow⟩ := inText
      cases isFault : (Concrete.node i cs).isFault with
      | true =>
          rw [collectFaults_of_isFault isFault, List.mem_singleton] at reported
          obtain ⟨start, -, stop⟩ := report_span (c := .node i cs) text ordered
          rw [reported]
          exact ⟨start, stop⟩
      | false =>
          rw [collectFaults_of_other isFault] at reported
          split at reported
          next =>
              obtain ⟨c, child, inChild⟩ := List.mem_flatMap.1 reported
              obtain ⟨start, stop⟩ := ih c child (inTextBelow c child) inChild
              obtain ⟨first, last⟩ := covers c child
              exact ⟨Nat.le_trans first start, Nat.le_trans stop last⟩
          next => cases reported

/-- Reports share no byte if siblings do not. -/
theorem collectFaults_apart (inText : tree.LiesInText text) (covers : tree.CoversChildren)
    (siblings : tree.SiblingsApart) :
    (collectFaults text tree).Pairwise fun a b => a.span.SharesNoByte b.span := by
  induction siblings with
  | @node i cs here below ih =>
      obtain ⟨-, inTextBelow⟩ := inText
      obtain ⟨-, coversBelow⟩ := covers
      cases isFault : (Concrete.node i cs).isFault with
      | true =>
          rw [collectFaults_of_isFault isFault]
          exact List.pairwise_singleton _ _
      | false =>
          rw [collectFaults_of_other isFault]
          split
          next =>
              rw [List.pairwise_flatMap]
              constructor
              · intro c child
                exact ih c child (inTextBelow c child) (coversBelow c child)
              · apply List.Pairwise.imp_of_mem _ here
                intro c d inChildren inChildren' apart a inFirst b inSecond
                apply apart.narrow
                · exact span_of_mem_collectFaults (inTextBelow c inChildren) (coversBelow c inChildren) inFirst
                · exact span_of_mem_collectFaults (inTextBelow d inChildren') (coversBelow d inChildren') inSecond
          next => exact List.Pairwise.nil

end Spans

/-- In a concrete tree with a flag at each node that has a fault below it, the faults that are reported are those with
    no fault around them: their places, in document order and each of them once, are the places of the reports, one for
    one. Where the nodes lie in the text, each report does, too, and does not end before it starts; and if moreover
    nodes cover their children and siblings share no byte, no two reports do. -/
theorem outermost_faults_are_reported (text : List Char) {tree : Concrete} (flagged : tree.Flagged) :
    (∃ places : List (List Nat), places.Pairwise (· < ·) ∧ (∀ place, place ∈ places ↔ tree.IsOutermost place) ∧
      List.Forall₂ (fun place fault => ∃ c, tree.at? place = some c ∧ fault = c.report text)
        places (collectFaults text tree)) ∧
    (tree.LiesInText text → ∀ fault ∈ collectFaults text tree,
      fault.span.start ≤ fault.span.stop ∧ fault.span.stop ≤ byteLength text) ∧
    (tree.LiesInText text → tree.CoversChildren → tree.SiblingsApart →
      (collectFaults text tree).Pairwise fun a b => a.span.SharesNoByte b.span) := by
  have reported := collectFaults_forall₂ text flagged
  exact ⟨⟨outermostFaults tree, outermostFaults_ascending tree, mem_outermostFaults_iff tree, reported⟩,
    fun inText _ => report_in_text flagged inText, collectFaults_apart⟩

/-- A list without its closing bracket. -/
def openList : Concrete :=
  .node { kind := .flowSequence, start := 2, stop := 4, faulty := true }
    [.node { kind := .mark "[", start := 2, stop := 3 } [],
      .node { kind := .mark "]", start := 4, stop := 4, missing := true, faulty := true } []]

/-- A region that has no place, and the list behind it. -/
def openListAfterRegion : Concrete :=
  .node { kind := .stream, start := 0, stop := 4, faulty := true }
    [.node { kind := .error, start := 0, stop := 1, faulty := true } [], openList]

/-- Both faults are reported, and they share no byte. -/
theorem open_list_is_reported : openListAfterRegion.Flagged ∧
    (collectFaults "x\n[a".toList openListAfterRegion).map Fault.span = [⟨0, 1⟩, ⟨4, 4⟩] ∧
    openListAfterRegion.LiesInText "x\n[a".toList ∧ openListAfterRegion.CoversChildren ∧
    openListAfterRegion.SiblingsApart ∧
    (collectFaults "x\n[a".toList openListAfterRegion).Pairwise fun a b => a.span.SharesNoByte b.span := by
  have flaggedList : openList.Flagged := .of_flag rfl (by simp [flagged_leaf])
  have flagged : openListAfterRegion.Flagged := .of_flag rfl (by simp [flagged_leaf, flaggedList])
  have inText : openListAfterRegion.LiesInText "x\n[a".toList := by
    simp [LiesInText, every_node_iff, openListAfterRegion, openList, info, Char.utf8Size]
  have covers : openListAfterRegion.CoversChildren := by
    simp [CoversChildren, every_node_iff, openListAfterRegion, openList, children, info]
  have siblings : openListAfterRegion.SiblingsApart := by
    simp [SiblingsApart, every_node_iff, openListAfterRegion, openList, children, info, Span.SharesNoByte,
      Span.contains_iff, Source.ConcreteInfo.span]
  exact ⟨flagged, by decide +kernel, inText, covers, siblings,
    (outermost_faults_are_reported "x\n[a".toList flagged).2.2 inText covers siblings⟩

end PlaybookServer
