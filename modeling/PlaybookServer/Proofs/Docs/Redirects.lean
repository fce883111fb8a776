/-
Module: PlaybookServer.Proofs.Docs.Redirects
Purpose: Chains of redirects. From a name the routes lead on from name to name, and the chain may end, dangle or go in a
  circle. Following it finds the module of the first indexed name, if that is one of the first eight. The limit does not
  show where the whole chain has at most eight names, however long it goes round: up to the first indexed name none
  comes twice.
Main exports: Library.hop?, Library.FirstIndexed, Library.LeadsTo, Library.chase_eq_some_iff,
  Library.followRedirect?_finds_first_indexed
-/
import Mathlib.Data.Finset.Card
import PlaybookServer.Docs.Library

namespace PlaybookServer.Docs

namespace Library

/-! ### Chains -/

/-- Where the route of a name redirects to. -/
def redirect? (l : Library) (name : String) : Option String := (l.route? name).bind Route.redirect

/-- The names of a chain by number: the target, and after each name the one that its route redirects to. -/
def hop? (l : Library) (target : String) : Nat → Option String
  | 0 => some target
  | i + 1 => (l.hop? target i).bind l.redirect?

/-- A chain comes to an indexed name at a number, and to none before. -/
structure FirstIndexed (l : Library) (target : String) (i : Nat) (m : Module) : Prop where
  indexed : ∃ name, l.hop? target i = some name ∧ l.module? name = some m
  first : ∀ j < i, ∀ name, l.hop? target j = some name → l.module? name = none

/-- Following redirects to an indexed module without a limit. -/
inductive LeadsTo (l : Library) : String → Module → Prop where
  | here {name : String} {m : Module} (indexed : l.module? name = some m) : LeadsTo l name m
  | on {name next : String} {m : Module} (other : l.module? name = none) (redirected : l.redirect? name = some next)
      (rest : LeadsTo l next m) : LeadsTo l name m

variable {l : Library} {target next name : String} {m : Module} {i : Nat}

/-- A chain goes on from each of its names as a chain of its own. -/
theorem hop?_add (l : Library) (target : String) (a b : Nat) :
    l.hop? target (a + b) = (l.hop? target a).bind fun name => l.hop? name b := by
  induction b with
  | zero => simp [hop?]
  | succ b ih => rw [← Nat.add_assoc, hop?, ih, Option.bind_assoc]; rfl

theorem hop?_succ (l : Library) (target : String) (i : Nat) :
    l.hop? target (i + 1) = (l.redirect? target).bind fun next => l.hop? next i := by
  rw [Nat.add_comm, hop?_add]
  rfl

theorem hop?_succ_of_redirect? (redirected : l.redirect? target = some next) (i : Nat) :
    l.hop? target (i + 1) = l.hop? next i := by
  rw [hop?_succ, redirected, Option.bind_some]

/-- A chain that comes to a number twice goes on the same way from there. -/
theorem hop?_of_repeat {a b : Nat} (again : l.hop? target a = l.hop? target b) (k : Nat) :
    l.hop? target (a + k) = l.hop? target (b + k) := by
  rw [hop?_add, hop?_add, again]

/-! ### The first indexed name -/

theorem firstIndexed_zero_iff : l.FirstIndexed target 0 m ↔ l.module? target = some m := by
  constructor
  · intro found
    obtain ⟨name, atStart, indexed⟩ := found.indexed
    cases atStart
    exact indexed
  · intro indexed
    exact ⟨⟨target, rfl, indexed⟩, fun j before => absurd before (Nat.not_lt_zero j)⟩

/-- A later name is the first indexed one if the target is not and its redirect leads to it. -/
theorem firstIndexed_succ_iff : l.FirstIndexed target (i + 1) m ↔
    l.module? target = none ∧ ∃ next, l.redirect? target = some next ∧ l.FirstIndexed next i m := by
  constructor
  · intro found
    have other := found.first 0 (Nat.succ_pos i) target rfl
    obtain ⟨name, atEnd, indexed⟩ := found.indexed
    rw [hop?_succ] at atEnd
    obtain ⟨next, redirected, rest⟩ := Option.bind_eq_some_iff.1 atEnd
    have before : ∀ j < i, ∀ earlier, l.hop? next j = some earlier → l.module? earlier = none := by
      intro j less earlier there
      apply found.first (j + 1) (Nat.succ_lt_succ less)
      rw [hop?_succ_of_redirect? redirected]
      exact there
    exact ⟨other, next, redirected, ⟨name, rest, indexed⟩, before⟩
  · intro ⟨other, next, redirected, found⟩
    constructor
    · rw [hop?_succ_of_redirect? redirected]
      exact found.indexed
    · intro j less earlier there
      cases j with
      | zero =>
          cases there
          exact other
      | succ j =>
          rw [hop?_succ_of_redirect? redirected] at there
          exact found.first j (Nat.lt_of_succ_lt_succ less) earlier there

/-- Following a chain for a number of names finds the module of the first indexed one among them. -/
theorem chase_eq_some_iff (fuel : Nat) :
    l.chase fuel target = some m ↔ ∃ i < fuel, l.FirstIndexed target i m := by
  induction fuel generalizing target with
  | zero => simp [chase]
  | succ fuel ih =>
      cases indexed : l.module? target with
      | some found =>
          have here : l.chase (fuel + 1) target = some found := by rw [chase, indexed]
          rw [here]
          constructor
          · intro same
            cases same
            exact ⟨0, Nat.succ_pos fuel, firstIndexed_zero_iff.2 indexed⟩
          · intro ⟨i, _, first⟩
            cases i with
            | zero => exact indexed.symm.trans (firstIndexed_zero_iff.1 first)
            | succ i =>
                rw [(firstIndexed_succ_iff.1 first).1] at indexed
                cases indexed
      | none =>
          have on : l.chase (fuel + 1) target = (l.redirect? target).bind (l.chase fuel) := by
            rw [chase, indexed]
            rfl
          rw [on, Option.bind_eq_some_iff]
          constructor
          · intro ⟨next, redirected, rest⟩
            obtain ⟨i, less, first⟩ := ih.1 rest
            exact ⟨i + 1, Nat.succ_lt_succ less, firstIndexed_succ_iff.2 ⟨indexed, next, redirected, first⟩⟩
          · intro ⟨i, less, first⟩
            cases i with
            | zero =>
                rw [firstIndexed_zero_iff.1 first] at indexed
                cases indexed
            | succ i =>
                obtain ⟨-, next, redirected, rest⟩ := firstIndexed_succ_iff.1 first
                exact ⟨next, redirected, ih.2 ⟨i, Nat.lt_of_succ_lt_succ less, rest⟩⟩

/-- Without a limit the module of the first indexed name is found, wherever it comes. -/
theorem leadsTo_iff : l.LeadsTo target m ↔ ∃ i, l.FirstIndexed target i m := by
  constructor
  · intro leads
    induction leads with
    | here indexed => exact ⟨0, firstIndexed_zero_iff.2 indexed⟩
    | on other redirected _ ih =>
        obtain ⟨i, first⟩ := ih
        exact ⟨i + 1, firstIndexed_succ_iff.2 ⟨other, _, redirected, first⟩⟩
  · intro ⟨i, first⟩
    induction i generalizing target with
    | zero => exact .here (firstIndexed_zero_iff.1 first)
    | succ i ih =>
        obtain ⟨other, next, redirected, rest⟩ := firstIndexed_succ_iff.1 first
        exact .on other redirected (ih rest)

/-- Of the indexed names of a chain there is a first. -/
theorem exists_firstIndexed (there : l.hop? target i = some name) (indexed : l.module? name = some m) :
    ∃ j ≤ i, ∃ found, l.FirstIndexed target j found := by
  induction i generalizing target with
  | zero =>
      cases there
      exact ⟨0, Nat.le_refl 0, m, firstIndexed_zero_iff.2 indexed⟩
  | succ i ih =>
      cases here : l.module? target with
      | some found => exact ⟨0, Nat.zero_le _, found, firstIndexed_zero_iff.2 here⟩
      | none =>
          rw [hop?_succ] at there
          obtain ⟨next, redirected, rest⟩ := Option.bind_eq_some_iff.1 there
          obtain ⟨j, le, found, first⟩ := ih rest
          exact ⟨j + 1, Nat.succ_le_succ le, found, firstIndexed_succ_iff.2 ⟨here, next, redirected, first⟩⟩

/-! ### Chains that come round -/

/-- Up to the first indexed name none comes twice: the chain would come to an indexed name earlier. -/
theorem FirstIndexed.injOn (first : l.FirstIndexed target i m) :
    Set.InjOn (l.hop? target) (Finset.range (i + 1)) := by
  have apart : ∀ a b, a < b → b ≤ i → l.hop? target a ≠ l.hop? target b := by
    intro a b less le again
    obtain ⟨name, atEnd, indexed⟩ := first.indexed
    have same := hop?_of_repeat again (i - b)
    rw [Nat.add_sub_cancel' le, atEnd] at same
    have other := first.first (a + (i - b)) (by omega) name same
    rw [indexed] at other
    cases other
  intro a aIn b bIn same
  rw [Finset.mem_coe, Finset.mem_range] at aIn bIn
  rcases Nat.lt_trichotomy a b with less | equal | greater
  · exact absurd same (apart a b less (by omega))
  · exact equal
  · exact absurd same.symm (apart b a greater (by omega))

/-- All names before the first indexed one are names of the chain. -/
theorem FirstIndexed.hop?_isSome (first : l.FirstIndexed target i m) {j : Nat} (le : j ≤ i) :
    ∃ name, l.hop? target j = some name := by
  obtain ⟨name, atEnd, -⟩ := first.indexed
  rw [← Nat.add_sub_cancel' le, hop?_add] at atEnd
  obtain ⟨earlier, there, -⟩ := Option.bind_eq_some_iff.1 atEnd
  exact ⟨earlier, there⟩

/-- The first indexed name comes within the number of names that the chain has. -/
theorem FirstIndexed.lt_card (first : l.FirstIndexed target i m) {names : Finset String}
    (all : ∀ j name, l.hop? target j = some name → name ∈ names) : i < names.card := by
  have into : ∀ j ∈ Finset.range (i + 1), l.hop? target j ∈ names.map .some := by
    intro j member
    obtain ⟨name, there⟩ := first.hop?_isSome (Nat.le_of_lt_succ (Finset.mem_range.1 member))
    rw [there]
    exact Finset.mem_map_of_mem _ (all j name there)
  have count := Finset.card_le_card_of_injOn _ into first.injOn
  rw [Finset.card_range, Finset.card_map] at count
  exact count

/-- On a chain that goes round every name comes in the first round. -/
theorem exists_in_first_round {start period : Nat} (positive : 0 < period)
    (round : l.hop? target (start + period) = l.hop? target start) (i : Nat) :
    ∃ j < start + period, l.hop? target j = l.hop? target i := by
  induction i using Nat.strongRecOn with
  | ind i ih =>
      by_cases early : i < start + period
      · exact ⟨i, early, rfl⟩
      · have back := hop?_of_repeat round (i - (start + period))
        rw [Nat.add_sub_cancel' (Nat.le_of_not_lt early)] at back
        obtain ⟨j, less, same⟩ := ih (start + (i - (start + period))) (by omega)
        exact ⟨j, less, same.trans back.symm⟩

/-! ### Following redirects -/

theorem followRedirect?_eq_some_iff : l.followRedirect? target = some m ↔ ∃ i ≤ 7, l.FirstIndexed target i m := by
  rw [followRedirect?, chase_eq_some_iff]
  simp only [redirectLimit, Nat.lt_succ_iff]

theorem followRedirect?_eq_none_iff : l.followRedirect? target = none ↔
    ∀ i ≤ 7, ∀ name, l.hop? target i = some name → l.module? name = none := by
  constructor
  · intro nothing i le name there
    cases indexed : l.module? name with
    | none => rfl
    | some m =>
        obtain ⟨j, earlier, found, first⟩ := exists_firstIndexed there indexed
        rw [followRedirect?_eq_some_iff.2 ⟨j, Nat.le_trans earlier le, first⟩] at nothing
        cases nothing
  · intro others
    cases found : l.followRedirect? target with
    | none => rfl
    | some m =>
        obtain ⟨i, le, first⟩ := followRedirect?_eq_some_iff.1 found
        obtain ⟨name, there, indexed⟩ := first.indexed
        rw [others i le name there] at indexed
        cases indexed

/-- Following redirects from a target finds the module of the first indexed name if that is one of the first eight of
    the chain, and nothing otherwise. So it finds nothing on a chain that goes round, at once or after a while, without
    an indexed name; and if the chain has at most eight names it finds what is found without a limit. -/
theorem followRedirect?_finds_first_indexed (l : Library) (target : String) :
    (∀ m, l.followRedirect? target = some m ↔ ∃ i ≤ 7, l.FirstIndexed target i m) ∧
    (l.followRedirect? target = none ↔
      ∀ i ≤ 7, ∀ name, l.hop? target i = some name → l.module? name = none) ∧
    (∀ start period, 0 < period → l.hop? target (start + period) = l.hop? target start →
      (∀ i < start + period, ∀ name, l.hop? target i = some name → l.module? name = none) →
      l.followRedirect? target = none) ∧
    ∀ names : Finset String, names.card ≤ 8 → (∀ i name, l.hop? target i = some name → name ∈ names) →
      ∀ m, l.followRedirect? target = some m ↔ l.LeadsTo target m := by
  have circle : ∀ start period, 0 < period → l.hop? target (start + period) = l.hop? target start →
      (∀ i < start + period, ∀ name, l.hop? target i = some name → l.module? name = none) →
      l.followRedirect? target = none := by
    intro start period positive round others
    apply followRedirect?_eq_none_iff.2
    intro i _ name there
    obtain ⟨j, less, same⟩ := exists_in_first_round positive round i
    exact others j less name (same.trans there)
  have unbounded : ∀ names : Finset String, names.card ≤ 8 →
      (∀ i name, l.hop? target i = some name → name ∈ names) →
      ∀ m, l.followRedirect? target = some m ↔ l.LeadsTo target m := by
    intro names few all m
    rw [followRedirect?_eq_some_iff, leadsTo_iff]
    constructor
    · intro ⟨i, _, first⟩
      exact ⟨i, first⟩
    · intro ⟨i, first⟩
      exact ⟨i, Nat.le_of_lt_succ (Nat.lt_of_lt_of_le (first.lt_card all) few), first⟩
  exact ⟨fun _ => followRedirect?_eq_some_iff, followRedirect?_eq_none_iff, circle, unbounded⟩

/-- Two names that redirect to each other. -/
def twoInCircle : Library :=
  (({} : Library).insertRoute "acme.tools" "ship" { redirect := some "acme.tools.send" }).insertRoute
    "acme.tools" "send" { redirect := some "acme.tools.ship" }

/-- Neither of the two is indexed, so nothing is found. -/
theorem circle_finds_nothing : twoInCircle.hop? "acme.tools.ship" 2 = some "acme.tools.ship" ∧
    twoInCircle.followRedirect? "acme.tools.ship" = none := by
  have round : twoInCircle.hop? "acme.tools.ship" 2 = some "acme.tools.ship" := by decide +kernel
  have others : ∀ i < 0 + 2, ∀ name, twoInCircle.hop? "acme.tools.ship" i = some name →
      twoInCircle.module? name = none := fun _ _ _ _ => rfl
  exact ⟨round, (followRedirect?_finds_first_indexed twoInCircle "acme.tools.ship").2.2.1 0 2 Nat.two_pos round others⟩

end Library

end PlaybookServer.Docs
