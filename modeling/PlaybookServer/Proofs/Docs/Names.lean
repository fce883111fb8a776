/-
Module: PlaybookServer.Proofs.Docs.Names
Purpose: Which names a library offers. Modules and routes are added one after another, later ones in the place of
  earlier ones. The names that are offered keep up with additions but not with replacements: a name whose route led
  on stays when that route is replaced by one that does not.
Main exports: Library.Entry, Library.ofEntries, Library.routeFrom?, Library.Offers, Library.Withdrawn,
  index_eq_ofEntries, names_keep_withdrawn
-/
import PlaybookServer.Proofs.Docs.Resolution
import Mathlib.Data.List.Induction
import Mathlib.Data.List.TakeWhile
import Mathlib.Data.String.Basic

namespace PlaybookServer

namespace Text

theorem cutLast?_isSome {sep : Char} {s : String} (found : sep ∈ s.toList) : (cutLast? sep s).isSome = true := by
  have shorter : (s.toList.reverse.takeWhile fun c => decide (c ≠ sep)).reverse.length < s.toList.length := by
    have stops := List.takeWhile_append_dropWhile (p := fun c => decide (c ≠ sep)) (l := s.toList.reverse)
    have lengths := congrArg List.length stops
    have rest : (s.toList.reverse.dropWhile fun c => decide (c ≠ sep)) ≠ [] := by
      rw [ne_eq, List.dropWhile_eq_nil_iff]
      intro passes
      simpa using passes sep (List.mem_reverse.2 found)
    have positive := List.length_pos_iff.2 rest
    simp only [List.length_append, List.length_reverse] at lengths ⊢
    omega
  rw [cutLast?, if_pos shorter]
  rfl

end Text

namespace Docs

open Text Files

/-! ### Names of a sorted map -/

namespace Sorted

variable {α : Type}

theorem mem_names_iff (m : Sorted α) (name : String) : name ∈ m.names ↔ (m.get? name).isSome := by
  simp [names, get?]

theorem mem_names_insert (m : Sorted α) (name other : String) (v : α) :
    other ∈ (m.insert name v).names ↔ other = name ∨ other ∈ m.names := by
  rw [mem_names_iff, mem_names_iff, get?_insert]
  by_cases same : other = name
  · simp [same]
  · simp [same]

/-- Setting a value keeps the names in strictly ascending order. -/
theorem ascending_insert {m : Sorted α} (ascending : m.names.Pairwise (· < ·)) (name : String) (v : α) :
    (m.insert name v).names.Pairwise (· < ·) := by
  fun_induction insert m name v with
  | case1 => simp [names]
  | case2 => simpa [names] using ascending
  | case3 n old rest different before =>
      simp only [names, List.map_cons, List.pairwise_cons] at ascending ⊢
      constructor
      · intro other member
        rcases List.mem_cons.1 member with rfl | later
        · exact before
        · exact before.trans (ascending.1 other later)
      · exact ascending
  | case4 n old rest different notBefore ih =>
      simp only [names, List.map_cons, List.pairwise_cons] at ascending ⊢
      constructor
      · intro other member
        rcases (mem_names_insert rest name other v).1 member with rfl | later
        · exact lt_of_le_of_ne (not_lt.1 notBefore) different
        · exact ascending.1 other later
      · exact ih ascending.2

end Sorted

namespace Library

/-! ### Entries -/

/-- What is added to a library: a module, or the route of a name in a collection. -/
inductive Entry where
  | module (m : Module)
  | route (collection name : String) (r : Route)

/-- Add an entry. -/
def add (l : Library) : Entry → Library
  | .module m => l.insertModule m
  | .route collection name r => l.insertRoute collection name r

/-- Add entries to an empty library, in their order. -/
def ofEntries (es : List Entry) : Library := es.foldl add {}

@[simp] theorem ofEntries_nil : ofEntries [] = {} := rfl

theorem ofEntries_concat (es : List Entry) (e : Entry) : ofEntries (es ++ [e]) = (ofEntries es).add e := by
  simp [ofEntries, List.foldl_append]

/-- The route of a name in a collection. -/
def routeFrom? (l : Library) (collection name : String) : Option Route :=
  (l.routing.get? collection).bind fun routes => routes.get? name

/-- Whether a name ought to be offered now: a module is indexed under it, or its route leads on. -/
def Offers (l : Library) (name : String) : Prop :=
  (∃ m, l.module? name = some m ∧ m.fullName = name) ∨
    ∃ collection short r, l.routeFrom? collection short = some r ∧ r.isLive = true ∧
      collection ++ "." ++ short = name

/-- The name that an entry brings. -/
def Entry.offered? : Entry → Option String
  | .module m => some m.fullName
  | .route collection name r => if r.isLive then some (collection ++ "." ++ name) else none

/-- The route that an entry sets for a name in a collection. -/
def Entry.routeFor? (collection name : String) : Entry → Option Route
  | .module _ => none
  | .route c n r => if collection = c ∧ name = n then some r else none

/-- The route that was set last for a name in a collection. -/
def lastRoute? (es : List Entry) (collection name : String) : Option Route :=
  es.reverse.findSome? (Entry.routeFor? collection name)

/-- Whether a name had a route that led on and was replaced, in the end by one that does not. -/
def Withdrawn (es : List Entry) (name : String) : Prop :=
  ∃ collection short earlier last, Entry.route collection short earlier ∈ es ∧ earlier.isLive = true ∧
    lastRoute? es collection short = some last ∧ last.isLive = false ∧ collection ++ "." ++ short = name

/-! ### One entry -/

theorem mem_names_add (l : Library) (e : Entry) (name : String) :
    name ∈ (l.add e).names ↔ e.offered? = some name ∨ name ∈ l.names := by
  cases e with
  | module m => simp [add, insertModule, Library.names, Sorted.mem_names_insert, Entry.offered?, eq_comm]
  | route collection short r =>
      by_cases live : r.isLive
      · simp [add, insertRoute, Library.names, Sorted.mem_names_insert, Entry.offered?, live, eq_comm]
      · simp [add, insertRoute, Library.names, Entry.offered?, live]

theorem ascending_add {l : Library} (ascending : l.names.Pairwise (· < ·)) (e : Entry) :
    (l.add e).names.Pairwise (· < ·) := by
  cases e with
  | module m => exact Sorted.ascending_insert ascending m.fullName ()
  | route collection short r =>
      by_cases live : r.isLive
      · simpa [add, insertRoute, Library.names, live] using
          Sorted.ascending_insert ascending (collection ++ "." ++ short) ()
      · simpa [add, insertRoute, Library.names, live] using ascending

theorem module?_insertModule (l : Library) (m : Module) (name : String) :
    (l.insertModule m).module? name = if name = m.fullName then some m else l.module? name :=
  Sorted.get?_insert l.modules m.fullName name m

/-- A route is set for its name in its collection and nowhere else. -/
theorem routeFrom?_add (l : Library) (e : Entry) (collection name : String) :
    (l.add e).routeFrom? collection name = (e.routeFor? collection name).or (l.routeFrom? collection name) := by
  cases e with
  | module m => rfl
  | route c n r =>
      by_cases sameCollection : collection = c
      · by_cases sameName : name = n
        · simp [add, insertRoute, routeFrom?, Sorted.get?_insert, Entry.routeFor?, sameCollection, sameName]
        · cases known : l.routing.get? c with
          | none =>
              have unset : Sorted.get? ([] : Sorted Route) name = none := rfl
              simp [add, insertRoute, routeFrom?, Sorted.get?_insert, Entry.routeFor?, sameCollection, sameName,
                known, unset]
          | some routes =>
              simp [add, insertRoute, routeFrom?, Sorted.get?_insert, Entry.routeFor?, sameCollection, sameName,
                known]
      · simp [add, insertRoute, routeFrom?, Sorted.get?_insert, Entry.routeFor?, sameCollection]

/-! ### All entries -/

theorem names_ascending (es : List Entry) : (ofEntries es).names.Pairwise (· < ·) := by
  induction es using List.reverseRecOn with
  | nil => exact List.Pairwise.nil
  | append_singleton es e ih =>
      rw [ofEntries_concat]
      exact ascending_add ih e

/-- A name is offered if some entry ever brought it. -/
theorem mem_names_ofEntries (es : List Entry) (name : String) :
    name ∈ (ofEntries es).names ↔ ∃ e ∈ es, e.offered? = some name := by
  induction es using List.reverseRecOn with
  | nil => simp [Library.names, Sorted.names]
  | append_singleton es e ih => simp [ofEntries_concat, mem_names_add, ih, or_and_right, exists_or, or_comm]

/-- A module is indexed under a name if one of that name was added, and it is one of that name. -/
theorem indexed_ofEntries (es : List Entry) (name : String) :
    (∃ m, (ofEntries es).module? name = some m ∧ m.fullName = name) ↔
      ∃ m, Entry.module m ∈ es ∧ m.fullName = name := by
  induction es using List.reverseRecOn with
  | nil => simp [module?, Sorted.get?]
  | append_singleton es e ih =>
      rw [ofEntries_concat]
      cases e with
      | route collection short r => simpa [add, insertRoute, module?] using ih
      | module added =>
          by_cases same : name = added.fullName
          · constructor
            · intro indexed
              exact ⟨added, by simp, same.symm⟩
            · intro known
              exact ⟨added, by simp [add, module?_insertModule, same], same.symm⟩
          · have other : ∀ m, m.fullName = name → m ≠ added := by
              intro m hm heq
              exact same (hm ▸ heq ▸ rfl)
            simp only [add, module?_insertModule, same, if_false, ih]
            constructor
            · rintro ⟨m, member, hm⟩
              exact ⟨m, List.mem_append_left _ member, hm⟩
            · rintro ⟨m, member, hm⟩
              rcases List.mem_append.1 member with member | member
              · exact ⟨m, member, hm⟩
              · exact absurd (Entry.module.inj (List.mem_singleton.1 member)) (other m hm)

/-- The route of a name is the one that was set last. -/
theorem routeFrom?_ofEntries (es : List Entry) (collection name : String) :
    (ofEntries es).routeFrom? collection name = lastRoute? es collection name := by
  induction es using List.reverseRecOn with
  | nil => rfl
  | append_singleton es e ih =>
      rw [ofEntries_concat, routeFrom?_add, ih]
      cases set : e.routeFor? collection name <;> simp [lastRoute?, set]

theorem routeFor?_eq_some {e : Entry} {collection name : String} {r : Route} :
    e.routeFor? collection name = some r ↔ e = .route collection name r := by
  cases e with
  | module m => simp [Entry.routeFor?]
  | route c n r' =>
      by_cases same : collection = c ∧ name = n
      · simp [Entry.routeFor?, same]
      · simp only [Entry.routeFor?, if_neg same]
        constructor
        · exact nofun
        · intro heq
          injection heq with hc hn
          exact absurd ⟨hc.symm, hn.symm⟩ same

theorem mem_of_lastRoute? {es : List Entry} {collection name : String} {r : Route}
    (last : lastRoute? es collection name = some r) : Entry.route collection name r ∈ es := by
  obtain ⟨e, member, set⟩ := List.exists_of_findSome?_eq_some last
  rw [routeFor?_eq_some] at set
  exact set ▸ List.mem_reverse.1 member

theorem exists_lastRoute? {es : List Entry} {collection name : String} {r : Route}
    (member : Entry.route collection name r ∈ es) : ∃ last, lastRoute? es collection name = some last := by
  cases unset : lastRoute? es collection name with
  | some last => exact ⟨last, rfl⟩
  | none =>
      have never := List.findSome?_eq_none_iff.1 unset _ (List.mem_reverse.2 member)
      rw [routeFor?_eq_some.2 rfl] at never
      exact nomatch never

/-! ### Built libraries -/

theorem names_remember (l : Library) (fs : FileView) (name : String) : (l.remember fs name).names = l.names := by
  unfold remember
  split
  next =>
      split
      next => rfl
      next => rfl
  next => rfl

theorem Built.names_ascending {l : Library} (h : l.Built) : l.names.Pairwise (· < ·) := by
  induction h with
  | empty => exact List.Pairwise.nil
  | insertModule h m ih => exact ascending_add ih (.module m)
  | insertRoute h collection name r ih => exact ascending_add ih (.route collection name r)
  | remember h fs name ih =>
      rw [names_remember]
      exact ih

/-- Names on offer have a collection in front of a point. -/
theorem Built.point_mem_of_mem_names {l : Library} (h : l.Built) {name : String} (offered : name ∈ l.names) :
    '.' ∈ name.toList := by
  have brought : ∀ e : Entry, e.offered? = some name → '.' ∈ name.toList := by
    intro e brings
    cases e with
    | module m =>
        obtain rfl := Option.some.inj brings
        simp [Module.fullName]
    | route collection short r =>
        obtain ⟨-, same⟩ := Option.ite_none_right_eq_some.1 brings
        obtain rfl := Option.some.inj same
        simp
  induction h with
  | empty => exact absurd offered List.not_mem_nil
  | insertModule h m ih =>
      rcases (mem_names_add _ (.module m) name).1 offered with brings | earlier
      · exact brought _ brings
      · exact ih earlier
  | insertRoute h collection short r ih =>
      rcases (mem_names_add _ (.route collection short r) name).1 offered with brings | earlier
      · exact brought _ brings
      · exact ih earlier
  | remember h fs kept ih =>
      rw [names_remember] at offered
      exact ih offered

/-! ### What a scan adds -/

/-- The entries of modules. -/
def moduleEntries (modules : List Module) : List Entry := modules.map .module

/-- The entries of the routes of several collections. -/
def routeEntries (routing : Routing) : List Entry :=
  routing.flatMap fun (collection, routes) => routes.map fun (name, r) => .route collection name r

/-- The entries that a scan finds, in the order in which it adds them. -/
def entriesIn (fs : FileView) (paths : ToolPaths) : List Entry :=
  (paths.moduleLocations.flatMap fun dir => moduleEntries (builtinModules fs dir)) ++
    ((paths.toolLocation.toList.flatMap fun location => routeEntries (builtinRouting fs location)) ++
      paths.collectionsPaths.flatMap fun path =>
        moduleEntries (collectionModules fs path) ++ routeEntries (collectionRouting fs path))

theorem insertModules_eq_foldl_add (l : Library) (modules : List Module) :
    l.insertModules modules = (moduleEntries modules).foldl add l := by
  simp only [insertModules, moduleEntries, List.foldl_map]
  rfl

theorem mergeRouting_eq_foldl_add (l : Library) (routing : Routing) :
    l.mergeRouting routing = (routeEntries routing).foldl add l := by
  simp only [mergeRouting, routeEntries, List.foldl_flatMap, List.foldl_map]
  rfl

/-- A scan adds the entries that it finds to an empty library. -/
theorem index_eq_ofEntries (fs : FileView) (paths : ToolPaths) :
    Library.index fs paths = ofEntries (entriesIn fs paths) := by
  simp only [Library.index, insertModules_eq_foldl_add, mergeRouting_eq_foldl_add, ofEntries, entriesIn,
    List.foldl_append, List.foldl_flatMap]
  cases paths.toolLocation with
  | none => rfl
  | some location => rfl

/-! ### Offered names -/

theorem mem_names_of_offers {es : List Entry} {name : String} (offers : (ofEntries es).Offers name) :
    name ∈ (ofEntries es).names := by
  rw [mem_names_ofEntries]
  rcases offers with indexed | ⟨collection, short, r, current, live, rfl⟩
  · obtain ⟨m, member, rfl⟩ := (indexed_ofEntries es name).1 indexed
    exact ⟨_, member, rfl⟩
  · rw [routeFrom?_ofEntries] at current
    exact ⟨_, mem_of_lastRoute? current, by simp [Entry.offered?, live]⟩

theorem mem_names_of_withdrawn {es : List Entry} {name : String} (withdrawn : Withdrawn es name) :
    name ∈ (ofEntries es).names := by
  obtain ⟨collection, short, earlier, last, member, live, -, -, rfl⟩ := withdrawn
  rw [mem_names_ofEntries]
  exact ⟨_, member, by simp [Entry.offered?, live]⟩

/-- A name that an entry brought ought to be offered still, unless its route was replaced. -/
theorem offers_or_withdrawn {es : List Entry} {e : Entry} (member : e ∈ es) {name : String}
    (brought : e.offered? = some name) : (ofEntries es).Offers name ∨ Withdrawn es name := by
  cases e with
  | module m =>
      left
      left
      rw [indexed_ofEntries]
      exact ⟨m, member, Option.some.inj brought⟩
  | route collection short r =>
      by_cases live : r.isLive
      · simp only [Entry.offered?, live, if_true, Option.some.injEq] at brought
        obtain ⟨last, current⟩ := exists_lastRoute? member
        cases still : last.isLive with
        | true =>
            left
            right
            exact ⟨collection, short, last, by rw [routeFrom?_ofEntries, current], still, brought⟩
        | false =>
            right
            exact ⟨collection, short, r, last, member, live, current, still, brought⟩
      · simp [Entry.offered?, live] at brought

theorem mem_names_iff_offers_or_withdrawn (es : List Entry) (name : String) :
    name ∈ (ofEntries es).names ↔ (ofEntries es).Offers name ∨ Withdrawn es name := by
  constructor
  · intro offered
    obtain ⟨e, member, brought⟩ := (mem_names_ofEntries es name).1 offered
    exact offers_or_withdrawn member brought
  · intro ground
    rcases ground with current | withdrawn
    · exact mem_names_of_offers current
    · exact mem_names_of_withdrawn withdrawn

/-- The names on offer stand in strictly ascending order. They are those that ought to be offered and those that were
    withdrawn; so they are exactly those that ought to be offered if and only if every withdrawn name is offered on
    another ground. -/
theorem names_keep_withdrawn (es : List Entry) :
    (ofEntries es).names.Pairwise (· < ·) ∧
    (∀ name, name ∈ (ofEntries es).names ↔ (ofEntries es).Offers name ∨ Withdrawn es name) ∧
    ((∀ name, name ∈ (ofEntries es).names ↔ (ofEntries es).Offers name) ↔
      ∀ name, Withdrawn es name → (ofEntries es).Offers name) := by
  have kept := mem_names_iff_offers_or_withdrawn es
  constructor
  · exact names_ascending es
  constructor
  · exact kept
  constructor
  · intro agree name withdrawn
    exact (agree name).1 ((kept name).2 (.inr withdrawn))
  · intro regained name
    constructor
    · intro offered
      rcases (kept name).1 offered with current | withdrawn
      · exact current
      · exact regained name withdrawn
    · intro current
      exact (kept name).2 (.inl current)

/-- A redirect that a later routing file buries: its name stays on offer though nothing offers it. -/
theorem buried_redirect_stays_offered :
    ¬ ∀ name, name ∈ (ofEntries [.route "acme.tools" "deploy" { redirect := some "acme.tools.ship" },
        .route "acme.tools" "deploy" { tombstone := some {} }]).names ↔
      (ofEntries [.route "acme.tools" "deploy" { redirect := some "acme.tools.ship" },
        .route "acme.tools" "deploy" { tombstone := some {} }]).Offers name := by
  intro agree
  have offers := (agree "acme.tools.deploy").1 (by decide +kernel)
  rcases offers with ⟨m, indexed, -⟩ | ⟨collection, short, r, current, live, -⟩
  · exact nomatch indexed
  · rw [routeFrom?_ofEntries] at current
    by_cases buried : collection = "acme.tools" ∧ short = "deploy"
    · simp [lastRoute?, Entry.routeFor?, buried] at current
      simp [← current, Route.isLive] at live
    · simp [lastRoute?, Entry.routeFor?, buried] at current

end Library

end Docs

end PlaybookServer
