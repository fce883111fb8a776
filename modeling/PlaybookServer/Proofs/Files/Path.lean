/-
Module: PlaybookServer.Proofs.Files.Path
Purpose: Paths that are put together. A name that is appended to a path comes after the path's components, and a path
  written from components has these components: what a path was written from can be read off it.
Main exports: IsName, components_joinPath_relative, components_joinPath, Written, written_components,
  components_ofComponents
-/
import PlaybookServer.Proofs.Url.File

namespace PlaybookServer.Files

open Text

/-! ### Slashes -/

section Slashes

variable {base more : String}

theorem pieces_slash (base more : String) : pieces '/' (base ++ "/" ++ more) = pieces '/' base ++ pieces '/' more := by
  have text : (base ++ "/" ++ more).toList = base.toList ++ '/' :: more.toList := by simp
  rw [pieces, text, splitOn_append, List.map_append]
  rfl

theorem innerComponents_slash (base more : String) :
    innerComponents (base ++ "/" ++ more) = innerComponents base ++ innerComponents more := by
  rw [innerComponents, pieces_slash, List.filterMap_append]
  rfl

theorem isAbsolute_append (nonempty : base ≠ "") (more : String) : isAbsolute (base ++ more) = isAbsolute base := by
  rw [Bool.eq_iff_iff, isAbsolute_iff, isAbsolute_iff, String.toList_append]
  cases chars : base.toList with
  | nil => exact absurd (String.toList_eq_nil_iff.1 chars) nonempty
  | cons c cs => simp

/-- What stands in front of the components between slashes. -/
def lead (path : String) : List Component :=
  if isAbsolute path then [.root] else if (pieces '/' path).head? = some "." then [.current] else []

theorem components_eq_append (path : String) : components path = lead path ++ innerComponents path := rfl

/-- A path begins as it does whatever comes after a slash. -/
theorem lead_slash (nonempty : base ≠ "") (more : String) : lead (base ++ "/" ++ more) = lead base := by
  have first : (pieces '/' (base ++ "/" ++ more)).head? = (pieces '/' base).head? := by
    obtain ⟨piece, rest, split⟩ := List.exists_cons_of_ne_nil (splitOn_ne_nil '/' base.toList)
    rw [pieces_slash, pieces, split]
    rfl
  rw [lead, lead, first, String.append_assoc, isAbsolute_append nonempty]

theorem components_slash (nonempty : base ≠ "") (more : String) :
    components (base ++ "/" ++ more) = components base ++ innerComponents more := by
  rw [components_eq_append, components_eq_append, lead_slash nonempty, innerComponents_slash, List.append_assoc]

theorem components_slash_end (nonempty : base ≠ "") : components (base ++ "/") = components base := by
  have nothing : innerComponents "" = [] := rfl
  have trailing := components_slash nonempty ""
  rw [String.append_empty, nothing, List.append_nil] at trailing
  exact trailing

theorem components_root (more : String) : components ("/" ++ more) = .root :: innerComponents more := by
  have absolute : isAbsolute ("/" ++ more) = true := by
    rw [isAbsolute_iff]
    exact ⟨more.toList, by simp⟩
  have inner := innerComponents_slash "" more
  rw [String.empty_append] at inner
  rw [components_of_absolute absolute, inner]
  rfl

end Slashes

/-! ### Appending a name -/

/-- Whether a text is the name of a file or directory. -/
structure IsName (name : String) : Prop where
  read : component? name = some (.name name)
  noSlash : '/' ∉ name.toList

section Names

variable {name : String} {c : Component}

theorem pieces_of_noSlash {text : String} (noSlash : '/' ∉ text.toList) : pieces '/' text = [text] := by
  rw [pieces, splitOn_of_notMem noSlash, List.map_singleton, String.ofList_toList]

theorem isAbsolute_of_noSlash {text : String} (noSlash : '/' ∉ text.toList) : isAbsolute text = false := by
  rw [← Bool.not_eq_true, isAbsolute_iff]
  rintro ⟨rest, chars⟩
  rw [chars] at noSlash
  exact noSlash List.mem_cons_self

/-- The text of a component between slashes is a path of this component. -/
theorem components_text (h : c.Inner) : components c.text = [c] := by
  have notDot : c.text ≠ "." := by
    intro dot
    have read := h.read
    rw [dot] at read
    cases read
  rw [components, pieces_of_noSlash h.noSlash, isAbsolute_of_noSlash h.noSlash]
  simp [notDot, h.read]

theorem text_ne_empty (h : c.Inner) : c.text ≠ "" := by
  intro top
  have read := h.read
  rw [top] at read
  cases read

theorem IsName.inner (h : IsName name) : (Component.name name).Inner := ⟨h.read, h.noSlash⟩

theorem exists_of_hasTail_slash {path : String} (slash : hasTail path "/" = true) : ∃ stem, path = stem ++ "/" := by
  obtain ⟨rest, chars⟩ := Option.isSome_iff_exists.1 slash
  rw [stripStem?_eq_some_iff] at chars
  refine ⟨String.ofList rest.reverse, ?_⟩
  rw [← String.toList_inj, String.toList_append, String.toList_ofList, ← List.reverse_inj, chars]
  simp

/-- What stands between the slashes of a path that is appended comes behind the components. -/
theorem components_joinPath_relative {base more : String} (nonempty : base ≠ "") (relative : isAbsolute more = false) :
    components (joinPath base more) = components base ++ innerComponents more := by
  rw [joinPath, relative, if_neg Bool.false_ne_true, decide_eq_false nonempty, Bool.false_or]
  cases slash : hasTail base "/" with
  | false => rw [if_neg Bool.false_ne_true, components_slash nonempty]
  | true =>
      obtain ⟨stem, rfl⟩ := exists_of_hasTail_slash slash
      rw [if_pos rfl]
      by_cases root : stem = ""
      · subst root
        rw [String.empty_append, components_root]
        rfl
      · rw [components_slash root, components_slash_end root]

/-- A name that is appended is the last component. -/
theorem components_joinPath (base : String) (h : IsName name) :
    components (joinPath base name) = components base ++ [.name name] := by
  by_cases empty : base = ""
  · have plain : joinPath "" name = name := by
      simp only [joinPath, isAbsolute_of_noSlash h.noSlash, Bool.false_eq_true, if_false]
      rw [if_pos (by simp), String.empty_append]
    have written : components name = [.name name] := components_text (c := .name name) h.inner
    rw [empty, plain, written]
    rfl
  · have alone : innerComponents name = [.name name] := by
      rw [innerComponents, pieces_of_noSlash h.noSlash]
      exact List.filterMap_cons_some h.read
    rw [components_joinPath_relative empty (isAbsolute_of_noSlash h.noSlash), alone]

theorem joinPath_ne_empty (base : String) (h : IsName name) : joinPath base name ≠ "" := by
  intro empty
  have nothing : components "" = [] := rfl
  have last := components_joinPath base h
  rw [empty, nothing] at last
  simp at last

end Names

/-! ### Writing components -/

/-- Whether components are those of a path: all but a beginning stand between slashes. -/
inductive Written : List Component → Prop where
  | absolute {cs : List Component} (inner : ∀ c ∈ cs, c.Inner) : Written (.root :: cs)
  | current {cs : List Component} (inner : ∀ c ∈ cs, c.Inner) : Written (.current :: cs)
  | relative {cs : List Component} (inner : ∀ c ∈ cs, c.Inner) : Written cs

theorem written_components (path : String) : Written (components path) := by
  have inner : ∀ c ∈ innerComponents path, c.Inner := fun _ => inner_of_mem
  rw [components_eq_append, lead]
  split
  next => exact .absolute inner
  next =>
      split
      next => exact .current inner
      next => exact .relative inner

theorem Written.takeWhile {cs : List Component} (h : Written cs) (p : Component → Bool)
    (root : p .root = true) (current : p .current = true) : Written (cs.takeWhile p) := by
  have part : ∀ {cs : List Component}, (∀ c ∈ cs, c.Inner) → ∀ c ∈ cs.takeWhile p, c.Inner :=
    fun inner c member => inner c (List.takeWhile_subset _ member)
  cases h with
  | absolute inner =>
      rw [List.takeWhile_cons_of_pos root]
      exact .absolute (part inner)
  | current inner =>
      rw [List.takeWhile_cons_of_pos current]
      exact .current (part inner)
  | relative inner => exact .relative (part inner)

section Writing

variable {c : Component} {cs : List Component}

/-- Components joined by slashes are read between slashes. -/
theorem innerComponents_join (inner : ∀ c ∈ cs, c.Inner) : innerComponents (join "/" (cs.map Component.text)) = cs := by
  induction cs with
  | nil => rfl
  | cons c cs ih =>
      have first : innerComponents c.text = [c] := by
        rw [innerComponents, pieces_of_noSlash (inner c List.mem_cons_self).noSlash]
        exact List.filterMap_cons_some (inner c List.mem_cons_self).read
      have rest := ih fun d member => inner d (List.mem_cons_of_mem c member)
      by_cases last : cs = []
      · rw [last, List.map_singleton, join, List.map_singleton, joinWith, String.ofList_toList, first]
      · rw [List.map_cons, join_cons "/" c.text (by simpa using last), innerComponents_slash, first, rest,
          List.singleton_append]

/-- After a first text, components joined by slashes come behind those of the text. -/
theorem components_join_cons {first : String} (nonempty : first ≠ "") (inner : ∀ c ∈ cs, c.Inner) :
    components (join "/" (first :: cs.map Component.text)) = components first ++ cs := by
  by_cases last : cs = []
  · rw [last, List.map_nil, join, List.map_singleton, joinWith, String.ofList_toList, List.append_nil]
  · rw [join_cons "/" first (by simpa using last), components_slash nonempty, innerComponents_join inner]

/-- A path written from components has these components. -/
theorem components_ofComponents (h : Written cs) : components (ofComponents cs) = cs := by
  cases h with
  | absolute inner => rw [ofComponents, components_root, innerComponents_join inner]
  | @current cs inner =>
      have text : ofComponents (.current :: cs) = join "/" ("." :: cs.map Component.text) := rfl
      rw [text, components_join_cons (by decide) inner]
      rfl
  | relative inner =>
      cases cs with
      | nil => rfl
      | cons c cs =>
          have first := inner c List.mem_cons_self
          have notRoot : c ≠ .root := by
            rintro rfl
            exact absurd first.noSlash (by decide)
          have text : ofComponents (c :: cs) = join "/" (c.text :: cs.map Component.text) := by
            cases c with
            | root => exact absurd rfl notRoot
            | _ => rfl
          rw [text, components_join_cons (text_ne_empty first) fun d member => inner d (List.mem_cons_of_mem c member),
            components_text first, List.singleton_append]

end Writing

end PlaybookServer.Files
