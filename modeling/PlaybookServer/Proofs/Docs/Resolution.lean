/-
Module: PlaybookServer.Proofs.Docs.Resolution
Purpose: Which module a name finds. A name stands for candidates, and a candidate is known if a module is indexed
  under it or a route starts there. The first known candidate decides what the name finds, with two exceptions,
  both because routes are looked for before modules: a later candidate may have a route where the first has
  none, and a route that leads nowhere takes the module of a later candidate.
Main exports: Library.Built, Library.knows, Library.firstKnown?, Library.Decides, find_of_full,
  find_agrees_with_first_known
-/
import PlaybookServer.Completion.Complete

namespace PlaybookServer

namespace Text

/-! ### Counting separators -/

theorem length_splitOn (sep : Char) (cs : List Char) : (splitOn sep cs).length = cs.count sep + 1 := by
  induction cs with
  | nil => rfl
  | cons c cs ih =>
      unfold splitOn
      split
      next h => simp [h, ih]
      next h =>
          rw [List.count_cons_of_ne h]
          split
          next hnil => simp [hnil] at ih
          next hcons => simpa [hcons] using ih

theorem length_pieces (sep : Char) (s : String) : (pieces sep s).length = s.toList.count sep + 1 := by
  rw [pieces, List.length_map, length_splitOn]

theorem mem_of_contains {c : Char} {cs : List Char} (h : contains cs [c] = true) : c ∈ cs := by
  induction cs with
  | nil => simp [contains, cut?] at h
  | cons d cs ih =>
      by_cases hd : c = d
      · exact hd ▸ List.mem_cons_self
      · refine List.mem_cons_of_mem _ (ih ?_)
        simpa [contains, cut?, stripStem?, hd] using h

/-- What was cut apart at the last occurrence of a separator is the text. -/
theorem toList_of_cutLast? {sep : Char} {s a b : String} (h : cutLast? sep s = some (a, b)) :
    s.toList = a.toList ++ sep :: b.toList := by
  simp only [cutLast?, List.length_reverse] at h
  have hparts : s.toList.reverse.takeWhile (· ≠ sep) ++ s.toList.reverse.dropWhile (· ≠ sep)
      = s.toList.reverse := List.takeWhile_append_dropWhile
  generalize s.toList.reverse.takeWhile (· ≠ sep) = tail at h hparts
  split at h
  next hshort =>
      cases hrest : s.toList.reverse.dropWhile (· ≠ sep) with
      | nil =>
          have hlength := congrArg List.length hparts
          simp only [hrest, List.append_nil, List.length_reverse] at hlength
          exact absurd hshort (hlength ▸ Nat.lt_irrefl _)
      | cons c rest =>
          have hc : c = sep := by
            have hhead := List.head_dropWhile_not (fun x => decide (x ≠ sep)) (hrest ▸ List.cons_ne_nil c rest)
            simp only [hrest, List.head_cons] at hhead
            simpa using hhead
          have hcs : s.toList = rest.reverse ++ sep :: tail.reverse := by
            rw [hrest, hc] at hparts
            simpa using (congrArg List.reverse hparts).symm
          have hlength : rest.length + (tail.length + 1) - tail.length - 1 = rest.length := by omega
          simp only [hcs, List.length_append, List.length_reverse, List.length_cons, hlength,
            List.take_left' List.length_reverse, Option.some.injEq, Prod.mk.injEq] at h
          obtain ⟨rfl, rfl⟩ := h
          rw [hcs, String.toList_ofList, String.toList_ofList]
  next => exact nomatch h

end Text

namespace Docs

open Text Files

theorem Sorted.get?_insert {α : Type} (m : Sorted α) (name other : String) (v : α) :
    (m.insert name v).get? other = if other = name then some v else m.get? other := by
  unfold Sorted.get?
  fun_induction Sorted.insert m name v with
  | case1 => grind
  | case2 => grind
  | case3 => grind
  | case4 => grind

/-! ### Libraries -/

namespace Library

/-- The libraries there are: modules and routes are added to an empty one, and documentation is kept. -/
inductive Built : Library → Prop where
  | empty : Built {}
  | insertModule {l : Library} (h : Built l) (m : Module) : Built (l.insertModule m)
  | insertRoute {l : Library} (h : Built l) (collection name : String) (r : Route) :
      Built (l.insertRoute collection name r)
  | remember {l : Library} (h : Built l) (fs : FileView) (name : String) : Built (l.remember fs name)

namespace Built

variable {l : Library}

theorem insertModules (h : l.Built) (ms : List Module) : (l.insertModules ms).Built := by
  unfold Library.insertModules
  induction ms generalizing l with
  | nil => exact h
  | cons m ms ih => exact ih (h.insertModule m)

theorem mergeRouting (h : l.Built) (routing : Routing) : (l.mergeRouting routing).Built := by
  have hroutes : ∀ (collection : String) (routes : Sorted Route) {l : Library}, l.Built →
      (routes.foldl (fun (l : Library) (e : String × Route) => l.insertRoute collection e.1 e.2) l).Built := by
    intro collection routes
    induction routes with
    | nil => exact id
    | cons e routes ih => exact fun h => ih (h.insertRoute collection e.1 e.2)
  unfold Library.mergeRouting
  induction routing generalizing l with
  | nil => exact h
  | cons e routing ih => exact ih (hroutes e.1 e.2 h)

/-- A scan of the places where the tool finds its parts makes a library. -/
theorem index (fs : FileView) (paths : ToolPaths) : (Library.index fs paths).Built := by
  have hbuiltin : ∀ (dirs : List String) {l : Library}, l.Built →
      (dirs.foldl (fun (l : Library) dir => l.insertModules (builtinModules fs dir)) l).Built := by
    intro dirs
    induction dirs with
    | nil => exact id
    | cons dir dirs ih => exact fun h => ih (h.insertModules _)
  have hcollections : ∀ (dirs : List String) {l : Library}, l.Built →
      (dirs.foldl (fun (l : Library) path =>
        (l.insertModules (collectionModules fs path)).mergeRouting (collectionRouting fs path)) l).Built := by
    intro dirs
    induction dirs with
    | nil => exact id
    | cons dir dirs ih => exact fun h => ih ((h.insertModules _).mergeRouting _)
  refine hcollections _ ?_
  split
  next => exact (hbuiltin _ .empty).mergeRouting _
  next => exact hbuiltin _ .empty

end Built

/-! ### Fully qualified names -/

theorem full_fullName (m : Module) : 3 ≤ (pieces '.' m.fullName).length := by
  have htext : m.fullName.toList
      = m.nameSpace.toList ++ '.' :: (m.collection.toList ++ '.' :: m.name.toList) := by
    simp [Module.fullName]
  rw [length_pieces, htext]
  simp only [List.count_append, List.count_cons_self]
  omega

/-- Modules are indexed under fully qualified names. -/
theorem Built.full_of_module? {l : Library} (h : l.Built) {name : String} (hname : (l.module? name).isSome) :
    3 ≤ (pieces '.' name).length := by
  induction h with
  | empty => exact absurd hname (by simp [module?, Sorted.get?])
  | @insertModule l h m ih =>
      simp only [module?, Library.insertModule, Sorted.get?_insert] at hname
      split at hname
      next heq => exact heq ▸ full_fullName m
      next => exact ih hname
  | insertRoute h collection name r ih => exact ih hname
  | @remember l h fs kept ih =>
      unfold Library.remember at hname
      split at hname
      next m hm =>
          split at hname
          next => exact ih hname
          next =>
              simp only [module?, Sorted.get?_insert] at hname
              split at hname
              next heq =>
                  refine ih ?_
                  rw [heq, hm]
                  rfl
              next => exact ih hname
      next => exact ih hname

/-- Only fully qualified names have routes. -/
theorem full_of_route? {l : Library} {name : String} (h : (l.route? name).isSome) :
    3 ≤ (pieces '.' name).length := by
  unfold route? at h
  cases hcut : cutLast? '.' name with
  | none => simp [hcut] at h
  | some parts =>
      obtain ⟨collection, short⟩ := parts
      simp only [hcut, Option.bind_eq_bind, Option.bind_some] at h
      split at h
      next => exact nomatch h
      next hdot =>
          have hmem : '.' ∈ collection.toList := mem_of_contains (by simpa [occursIn] using hdot)
          have hcount := List.count_pos_iff.2 hmem
          rw [length_pieces, toList_of_cutLast? hcut, List.count_append, List.count_cons_self]
          omega

/-! ### What a name finds -/

/-- Whether a module is indexed under a name or a route starts there. -/
def knows (l : Library) (name : String) : Bool := (l.module? name).isSome || (l.route? name).isSome

theorem Built.full_of_knows {l : Library} (h : l.Built) {name : String} (hname : l.knows name = true) :
    3 ≤ (pieces '.' name).length := by
  rcases Bool.or_eq_true_iff.1 hname with hmodule | hroute
  · exact h.full_of_module? hmodule
  · exact full_of_route? hroute

/-- The first known name among those that a name may stand for. -/
def firstKnown? (l : Library) (name : String) (context : Option Path) (roleCollections : List String) :
    Option String :=
  (candidateNames name context roleCollections).find? l.knows

/-- Whether a known candidate, the first of its list, decides what the name finds: no later candidate has a route
    if it has none, and if its route leads nowhere no later candidate is indexed but itself. -/
def Decides (l : Library) (candidates : List String) (hit : String) : Prop :=
  match l.route? hit with
  | some r => r.redirect.isSome ∨ (l.module? hit).isSome ∨ ∀ c ∈ candidates, l.module? c = none
  | none => ∀ c ∈ candidates, l.route? c = none

theorem findSome?_map_eq {α : Type} (f : String → Option α) (cs : List String) :
    (cs.findSome? fun c => (f c).map (c, ·)) = (cs.find? fun c => (f c).isSome).bind fun c =>
      (f c).map (c, ·) := by
  induction cs with
  | nil => rfl
  | cons c cs ih =>
      cases hc : f c with
      | none => simp [hc, ih]
      | some v => simp [hc]

/-- Whoever is found first by one test is found first by a narrower one that it passes. -/
theorem find?_of_imp {α : Type} {p q : α → Bool} {cs : List α} {a : α} (h : cs.find? p = some a)
    (himp : ∀ x, q x = true → p x = true) (hq : q a = true) : cs.find? q = some a := by
  obtain ⟨-, before, after, rfl, hbefore⟩ := List.find?_eq_some_iff_append.1 h
  refine List.find?_eq_some_iff_append.2 ⟨hq, before, after, rfl, fun x hx => ?_⟩
  have hx' := hbefore x hx
  cases hqx : q x with
  | false => rfl
  | true => simp [himp x hqx] at hx'

section Find

variable (l : Library) (name : String) (context : Option Path) (roleCollections : List String)

/-- The first candidate that is indexed. -/
def firstIndexed? : Option String :=
  (candidateNames name context roleCollections).find? fun c => (l.module? c).isSome

/-- The first candidate that has a route. -/
def firstRouted? : Option String :=
  (candidateNames name context roleCollections).find? fun c => (l.route? c).isSome

variable {l name context roleCollections}

theorem exists_of_firstIndexed? {c : String} (h : l.firstIndexed? name context roleCollections = some c) :
    c ∈ candidateNames name context roleCollections ∧ ∃ m, l.module? c = some m := by
  have hindexed := List.find?_some (p := fun c => (l.module? c).isSome) h
  exact ⟨List.mem_of_find?_eq_some h, Option.isSome_iff_exists.1 hindexed⟩

theorem exists_of_firstRouted? {c : String} (h : l.firstRouted? name context roleCollections = some c) :
    c ∈ candidateNames name context roleCollections ∧ ∃ r, l.route? c = some r := by
  have hrouted := List.find?_some (p := fun c => (l.route? c).isSome) h
  exact ⟨List.mem_of_find?_eq_some h, Option.isSome_iff_exists.1 hrouted⟩

variable (l name context roleCollections)

/-- A route is looked for first, and what it does not lead to is the first indexed module. -/
theorem find_eq : l.find name context roleCollections =
    match l.firstRouted? name context roleCollections with
    | some hit =>
      (match (l.route? hit).bind Route.redirect with
        | some target => l.followRedirect? target
        | none => (l.firstIndexed? name context roleCollections).bind l.module?, some hit)
    | none => ((l.firstIndexed? name context roleCollections).bind l.module?,
        l.firstIndexed? name context roleCollections) := by
  have hroutes := findSome?_map_eq l.route? (candidateNames name context roleCollections)
  have hmodules := findSome?_map_eq l.module? (candidateNames name context roleCollections)
  rw [← firstRouted?.eq_def] at hroutes
  rw [← firstIndexed?.eq_def] at hmodules
  simp only [find, hroutes, hmodules]
  cases hrouted : l.firstRouted? name context roleCollections with
  | none =>
      cases hindexed : l.firstIndexed? name context roleCollections with
      | none => rfl
      | some found =>
          obtain ⟨-, m, hm⟩ := exists_of_firstIndexed? hindexed
          simp [hm]
  | some hit =>
      obtain ⟨-, r, hr⟩ := exists_of_firstRouted? hrouted
      simp only [Option.bind_some, hr, Option.map_some]
      cases hredirect : r.redirect with
      | some target => rfl
      | none =>
          cases hindexed : l.firstIndexed? name context roleCollections with
          | none => rfl
          | some found =>
              obtain ⟨-, m, hm⟩ := exists_of_firstIndexed? hindexed
              simp [hm]

end Find

section First

variable {l : Library} {name hit : String} {context : Option Path} {roleCollections : List String}

/-- A fully qualified name stands for itself alone. -/
theorem find_of_full (h : 3 ≤ (pieces '.' hit).length) : (l.find hit context roleCollections).1 =
    match (l.route? hit).bind Route.redirect with
    | some target => l.followRedirect? target
    | none => l.module? hit := by
  have hcandidates : candidateNames hit context roleCollections = [hit] := if_pos h
  rw [find_eq, firstRouted?, firstIndexed?, hcandidates]
  cases hroute : l.route? hit with
  | none => cases hmodule : l.module? hit <;> simp [hroute, hmodule]
  | some r =>
      cases hredirect : r.redirect <;> cases hmodule : l.module? hit <;>
        simp [hroute, hmodule, hredirect]

/-- A name of which no candidate is known finds nothing. -/
theorem find_of_unknown (h : l.firstKnown? name context roleCollections = none) :
    l.find name context roleCollections = (none, none) := by
  have hunknown := List.find?_eq_none.1 h
  have hrouted : l.firstRouted? name context roleCollections = none := by
    refine List.find?_eq_none.2 fun c hc hroute => hunknown c hc ?_
    exact Bool.or_eq_true_iff.2 (.inr hroute)
  have hindexed : l.firstIndexed? name context roleCollections = none := by
    refine List.find?_eq_none.2 fun c hc hmodule => hunknown c hc ?_
    exact Bool.or_eq_true_iff.2 (.inl hmodule)
  rw [find_eq, hrouted, hindexed]
  rfl

theorem firstRouted?_of_known (h : l.firstKnown? name context roleCollections = some hit)
    (hroute : (l.route? hit).isSome) : l.firstRouted? name context roleCollections = some hit :=
  find?_of_imp h (fun _ hc => Bool.or_eq_true_iff.2 (.inr hc)) hroute

theorem firstIndexed?_of_known (h : l.firstKnown? name context roleCollections = some hit)
    (hmodule : (l.module? hit).isSome) : l.firstIndexed? name context roleCollections = some hit :=
  find?_of_imp h (fun _ hc => Bool.or_eq_true_iff.2 (.inl hc)) hmodule

/-- The first indexed candidate is what the first known one is indexed as, or there is none. -/
theorem firstIndexed?_agrees (h : l.firstKnown? name context roleCollections = some hit) :
    (l.firstIndexed? name context roleCollections).bind l.module? = l.module? hit ↔
      (l.module? hit).isSome ∨ ∀ c ∈ candidateNames name context roleCollections, l.module? c = none := by
  cases hmodule : l.module? hit with
  | some m =>
      rw [firstIndexed?_of_known h (by rw [hmodule]; rfl), Option.bind_some, hmodule]
      simp
  | none =>
      cases hindexed : l.firstIndexed? name context roleCollections with
      | none =>
          have hnone := List.find?_eq_none.1 hindexed
          simpa using hnone
      | some c =>
          obtain ⟨hmem, m, hm⟩ := exists_of_firstIndexed? hindexed
          simp only [Option.bind_some, hm, reduceCtorEq, Option.isSome_none, Bool.false_eq_true, false_or,
            false_iff]
          intro hall
          simp [hall c hmem] at hm

/-- When the first known candidate decides what a name finds. -/
theorem find_of_known (hbuilt : l.Built) (h : l.firstKnown? name context roleCollections = some hit) :
    l.find name context roleCollections = ((l.find hit context roleCollections).1, some hit) ↔
      l.Decides (candidateNames name context roleCollections) hit := by
  have hknown : l.knows hit = true := List.find?_some h
  rw [find_of_full (hbuilt.full_of_knows hknown), find_eq, Decides]
  cases hroute : l.route? hit with
  | some r =>
      rw [firstRouted?_of_known h (by rw [hroute]; rfl)]
      simp only [hroute, Option.bind_some, Prod.mk.injEq, and_true]
      cases hredirect : r.redirect with
      | some target => simp
      | none => simpa using firstIndexed?_agrees h
  | none =>
      have hmodule : (l.module? hit).isSome := by simpa [knows, hroute] using hknown
      rw [firstIndexed?_of_known h hmodule]
      cases hrouted : l.firstRouted? name context roleCollections with
      | none =>
          have hnone := List.find?_eq_none.1 hrouted
          simpa using hnone
      | some c =>
          -- The candidate with a route is another one, and so the name finds that.
          obtain ⟨hmem, r, hr⟩ := exists_of_firstRouted? hrouted
          have hne : c ≠ hit := by
            rintro rfl
            simp [hroute] at hr
          simp only [Prod.mk.injEq, Option.some.injEq, hne, and_false, false_iff]
          intro hall
          simp [hall c hmem] at hr

end First

end Library

/-! ### The first known candidate -/

/-- A module is offered under its short name exactly if short names are wanted and the full name is the first
    known one that the short name may stand for here. -/
theorem label_of_moduleCandidate? {r : Completion.Request} {p : Completion.Prepared} {path : Path}
    {fullName : String} {c : Completion.Candidate}
    (h : Completion.moduleCandidate? r p path fullName = some c) :
    ∃ collection short, cutLast? '.' fullName = some (collection, short) ∧
      c.label = if r.settings.tool.useFullNames = false ∧
          r.library.firstKnown? short (some path) r.roleCollections = some fullName then short
        else fullName := by
  unfold Completion.moduleCandidate? at h
  simp only [Option.bind_eq_bind] at h
  split at h
  next => exact nomatch h
  next =>
      obtain ⟨⟨collection, short⟩, hcut, h⟩ := Option.bind_eq_some_iff.1 h
      refine ⟨collection, short, hcut, ?_⟩
      have hshort : Completion.shortNameResolves r path fullName short =
          decide (r.library.firstKnown? short (some path) r.roleCollections = some fullName) := rfl
      cases h
      simp [Completion.Candidate.make, hshort]

/-- If no candidate of a name is known, the name finds nothing. Otherwise it finds what the first known candidate
    finds, and says so, exactly if that candidate decides. A module is offered under its short name exactly if
    short names are wanted and its full name is the first known candidate of the short one; so the short name
    finds the same module as the full name exactly if the full name decides. -/
theorem find_agrees_with_first_known {l : Library} (hbuilt : l.Built) (name : String) (context : Option Path)
    (roleCollections : List String) :
    (l.firstKnown? name context roleCollections = none → l.find name context roleCollections = (none, none)) ∧
    (∀ hit, l.firstKnown? name context roleCollections = some hit →
      (l.find name context roleCollections = ((l.find hit context roleCollections).1, some hit) ↔
        l.Decides (candidateNames name context roleCollections) hit)) ∧
    (∀ (r : Completion.Request) (p : Completion.Prepared) (path : Path) (fullName : String)
      (c : Completion.Candidate), Completion.moduleCandidate? r p path fullName = some c →
      ∃ collection short, cutLast? '.' fullName = some (collection, short) ∧
        c.label = if r.settings.tool.useFullNames = false ∧
            r.library.firstKnown? short (some path) r.roleCollections = some fullName then short
          else fullName) :=
  ⟨Library.find_of_unknown, fun _ h => Library.find_of_known hbuilt h, fun _ _ _ _ _ h =>
    label_of_moduleCandidate? h⟩

/-- A library with one module. -/
def oneModule : Library :=
  ({} : Library).insertModule { nameSpace := "ansible", collection := "builtin", name := "deploy" }

/-- The module of the first collection is found through its redirect: the first known candidate decides. -/
theorem redirected_name_finds_first_known :
    ((oneModule.insertRoute "acme.tools" "ship" { redirect := some "ansible.builtin.deploy" }).find "ship" none
      ["acme.tools"]) =
    (((oneModule.insertRoute "acme.tools" "ship" { redirect := some "ansible.builtin.deploy" }).find
      "acme.tools.ship" none ["acme.tools"]).1, some "acme.tools.ship") := by
  have hbuilt : (oneModule.insertRoute "acme.tools" "ship" { redirect := some "ansible.builtin.deploy" }).Built :=
    (Library.Built.empty.insertModule _).insertRoute _ _ _
  refine ((find_agrees_with_first_known hbuilt "ship" none ["acme.tools"]).2.1 "acme.tools.ship" ?_).2 ?_
  · decide +kernel
  · exact .inl (by decide +kernel)

/-- The builtin module is the first known candidate, but a route of a collection in scope comes before it. -/
theorem route_comes_before_first_known :
    (oneModule.insertRoute "acme.tools" "deploy" { deprecation := some {} }).firstKnown? "deploy" none
      ["acme.tools"] = some "ansible.builtin.deploy" ∧
    ((oneModule.insertRoute "acme.tools" "deploy" { deprecation := some {} }).find "deploy" none
      ["acme.tools"]).2 = some "acme.tools.deploy" := by
  decide +kernel

end Docs

end PlaybookServer
