/-
Module: PlaybookServer.Proofs.Url.File
Purpose: The address of a file and the file that an address names. A path is given by its components, and so is the
  address made of it: the components are encoded one by one and read back as they were. An address is that of a file
  exactly if it is that of the file it names; a client may spell it in other ways.
Main exports: percentDecode_encodeWith, innerComponents, components_uriToPath, pathToUri?_congr,
  pathToUri?_uriToPath_iff
-/
import PlaybookServer.Proofs.Text.Bytes
import PlaybookServer.Proofs.Text.Pieces
import PlaybookServer.Url.File

namespace PlaybookServer

/-! ### Percent encoding -/

namespace Url

open Text

theorem hexDigit?_upperHex {n : Nat} (hn : n < 16) : Scalar.hexDigit? (upperHex n) = some n := by
  revert n
  decide

theorem percentDecode_escapeByte {b : Nat} (hb : b < 256) (more : List Char) :
    percentDecode (escapeByte b ++ more) = b :: percentDecode more := by
  show percentDecode ('%' :: upperHex (b / 16) :: upperHex (b % 16) :: more) = _
  rw [percentDecode, hexDigit?_upperHex (by omega), hexDigit?_upperHex (by omega)]
  dsimp only
  rw [Nat.div_add_mod']

theorem percentDecode_escaped {bytes : List Nat} (hbytes : ∀ b ∈ bytes, b < 256) (more : List Char) :
    percentDecode (bytes.flatMap escapeByte ++ more) = bytes ++ percentDecode more := by
  induction bytes with
  | nil => rfl
  | cons b bytes ih =>
      rw [List.flatMap_cons, List.append_assoc, percentDecode_escapeByte (hbytes b List.mem_cons_self),
        ih fun b' hb' => hbytes b' (List.mem_cons_of_mem b hb'), List.cons_append]

/-- What does not begin an escape stands for itself. -/
theorem percentDecode_cons {c : Char} (hc : c ≠ '%') (more : List Char) :
    percentDecode (c :: more) = Text.encodeChar c ++ percentDecode more := by
  rw [percentDecode]
  rintro a b rest rfl
  exact absurd rfl hc

/-- Encoded text is decoded to the bytes of the text, if the sign of escapes is one of the characters encoded. -/
theorem percentDecode_encodeWith {set : EncodeSet} (hset : set '%' = true) (cs more : List Char) :
    percentDecode (encodeWith set cs ++ more) = encodeUtf8 cs ++ percentDecode more := by
  induction cs with
  | nil => rfl
  | cons c cs ih =>
      have hencode : encodeWith set (c :: cs) = encodeChar set c ++ encodeWith set cs := rfl
      have hutf8 : encodeUtf8 (c :: cs) = Text.encodeChar c ++ encodeUtf8 cs := rfl
      rw [hencode, hutf8, List.append_assoc, List.append_assoc, ← ih, encodeChar]
      split
      next hkept =>
          have hc : c ≠ '%' := by
            rintro rfl
            simp [hset] at hkept
          exact percentDecode_cons hc _
      next => exact percentDecode_escaped (Text.encodeChar_lt c) _

end Url

/-! ### Paths -/

namespace Files

open Text

theorem isAbsolute_iff (path : String) : isAbsolute path = true ↔ ∃ rest, path.toList = '/' :: rest := by
  unfold isAbsolute hasStem startsWith
  cases path.toList with
  | nil => simp [stripStem?]
  | cons c cs =>
      show (stripStem? ['/'] (c :: cs)).isSome = true ↔ _
      by_cases hc : '/' = c
      · subst hc
        simp [stripStem?]
      · simp [stripStem?, hc, Ne.symm hc]

/-- A component between slashes, which is read from its own text. -/
structure Component.Inner (c : Component) : Prop where
  read : component? c.text = some c
  noSlash : '/' ∉ c.text.toList

theorem inner_of_component? {piece : String} {c : Component} (h : component? piece = some c)
    (hpiece : '/' ∉ piece.toList) : c.Inner := by
  unfold component? at h
  split at h
  next => cases h
  next hnone =>
      split at h
      next => cases h; exact ⟨rfl, by decide⟩
      next hup =>
          cases h
          refine ⟨?_, hpiece⟩
          show component? piece = _
          rw [component?, if_neg hnone, if_neg hup]

/-- What stands between the slashes of a path. -/
def innerComponents (path : String) : List Component := (pieces '/' path).filterMap component?

theorem inner_of_mem {path : String} {c : Component} (h : c ∈ innerComponents path) : c.Inner := by
  obtain ⟨piece, hpiece, hc⟩ := List.mem_filterMap.1 h
  obtain ⟨cs, hcs, rfl⟩ := List.mem_map.1 hpiece
  refine inner_of_component? hc ?_
  rw [String.toList_ofList]
  exact notMem_of_mem_splitOn hcs

theorem components_of_absolute {path : String} (h : isAbsolute path = true) :
    components path = .root :: innerComponents path := by
  simp only [components, h, if_true]
  rfl

theorem root_mem_components_iff (path : String) : .root ∈ components path ↔ isAbsolute path = true := by
  have hinner : Component.root ∉ innerComponents path := by
    intro hmem
    have hroot := (inner_of_mem hmem).noSlash
    exact absurd hroot (by decide)
  cases h : isAbsolute path with
  | true => simp [components_of_absolute h]
  | false =>
      simp only [components, h, Bool.false_eq_true, if_false, iff_false, List.mem_append, not_or]
      refine ⟨?_, hinner⟩
      split <;> simp

theorem isAbsolute_congr {a b : String} (h : components a = components b) : isAbsolute a = isAbsolute b := by
  rw [Bool.eq_iff_iff, ← root_mem_components_iff, ← root_mem_components_iff, h]

/-- Texts each of which is read as a component, written after slashes, are read as these components. -/
theorem innerComponents_written {cs : List Component} (h : ∀ c ∈ cs, c.Inner) :
    innerComponents (String.ofList ((cs.map fun c => c.text.toList).flatMap ('/' :: ·))) = cs := by
  have hparts : ∀ part ∈ cs.map fun c => c.text.toList, '/' ∉ part := by
    intro part hpart
    obtain ⟨c, hc, rfl⟩ := List.mem_map.1 hpart
    exact (h c hc).noSlash
  have hread : (cs.map fun c => c.text.toList).filterMap (component? ∘ String.ofList) = cs := by
    clear hparts
    induction cs with
    | nil => rfl
    | cons c cs ih =>
        have hc : (component? ∘ String.ofList) c.text.toList = some c := by
          rw [Function.comp_apply, String.ofList_toList]
          exact (h c List.mem_cons_self).read
        rw [List.map_cons, List.filterMap_cons_some hc, ih fun c' hc' => h c' (List.mem_cons_of_mem c hc')]
  rw [innerComponents, pieces, String.toList_ofList, splitOn_flatMap hparts, List.map_cons,
    List.filterMap_cons_none (by rfl), List.filterMap_map]
  exact hread

/-- Slashes at the end of a path do not matter. -/
theorem innerComponents_slashes (cs : List Char) (n : Nat) :
    innerComponents (String.ofList (cs ++ List.replicate n '/')) = innerComponents (String.ofList cs) := by
  induction n with
  | zero => rw [List.replicate_zero, List.append_nil]
  | succ n ih =>
      rw [List.replicate_succ', ← List.append_assoc, ← ih, innerComponents, innerComponents, pieces, pieces,
        String.toList_ofList, String.toList_ofList, splitOn_append, splitOn_of_notMem List.not_mem_nil,
        List.map_append, List.filterMap_append, List.map_singleton, List.filterMap_cons_none (by rfl), List.filterMap_nil,
        List.append_nil]

end Files

/-! ### Files and their addresses -/

open Text Files

namespace Url

theorem toList_foldl_append (segments : List String) (start : String) :
    (segments.foldl (· ++ ·) start).toList = start.toList ++ segments.flatMap String.toList := by
  induction segments generalizing start with
  | nil => simp
  | cons segment segments ih => rw [List.foldl_cons, ih, String.toList_append, List.flatMap_cons, List.append_assoc]

/-- The address of a file is built from what stands between the slashes of its path. -/
theorem ofFilePath?_eq_some {path : String} {u : Url} (h : ofFilePath? path = some u) :
    isAbsolute path = true ∧ u.host = none ∧ (∃ rest, u.path.toList = '/' :: rest) ∧ ∃ n, u.path.toList =
      ((innerComponents path).flatMap fun c => '/' :: encodeWith segmentSet c.text.toList) ++ List.replicate n '/' := by
  unfold ofFilePath? at h
  split at h
  next habsolute =>
      simp only [components_of_absolute habsolute, List.drop_succ_cons, List.drop_zero] at h
      cases h
      refine ⟨habsolute, rfl, ?_⟩
      dsimp only
      cases innerComponents path with
      | nil => exact ⟨⟨[], rfl⟩, 1, rfl⟩
      | cons c cs =>
          rw [List.map_cons, List.isEmpty_cons, if_neg Bool.false_ne_true, toList_foldl_append, List.flatMap_cons,
            String.toList_ofList, List.flatMap_map]
          simp only [String.toList_ofList, List.nil_append, List.cons_append]
          exact ⟨⟨_, rfl⟩, 0, by rw [List.replicate_zero, List.append_nil, List.flatMap_cons, List.cons_append]⟩
  next => cases h

/-- The text that the address of a file stands for. -/
theorem decodeLossy_written (cs : List Component) (n : Nat) :
    decodeLossy (percentDecode
        ((cs.flatMap fun c => '/' :: encodeWith segmentSet c.text.toList) ++ List.replicate n '/')) =
      ((cs.map fun c => c.text.toList).flatMap ('/' :: ·)) ++ List.replicate n '/' := by
  have hslashes : percentDecode (List.replicate n '/') = encodeUtf8 (List.replicate n '/') := by
    induction n with
    | zero => simp [percentDecode, encodeUtf8]
    | succ n ih => rw [List.replicate_succ, percentDecode_cons (by decide), ih]; rfl
  suffices h : percentDecode
      ((cs.flatMap fun c => '/' :: encodeWith segmentSet c.text.toList) ++ List.replicate n '/') =
      encodeUtf8 (((cs.map fun c => c.text.toList).flatMap ('/' :: ·)) ++ List.replicate n '/') by
    rw [h, decodeLossy_encodeUtf8]
  induction cs with
  | nil => exact hslashes
  | cons c cs ih =>
      rw [List.flatMap_cons, List.append_assoc, List.cons_append, percentDecode_cons (by decide),
        percentDecode_encodeWith (by decide), ih]
      simp [encodeUtf8, List.flatMap_append]

/-- The file that an address of no other host names. One whose path ends in a drive names the root of the drive. -/
theorem filePath?_of_local {u : Url} {rest : List Char} (hpath : u.path.toList = '/' :: rest)
    (hlocal : u.host = none ∨ u.host = some "localhost") : ∃ n, u.filePath? =
      some (String.ofList (decodeLossy (percentDecode u.path.toList) ++ List.replicate n '/')) := by
  have hcondition : (u.host.isNone || decide (u.host = some "localhost")) = true := by simpa using hlocal
  unfold filePath?
  split
  next =>
      rw [if_pos hcondition]
      dsimp only
      split
      next =>
          split
          next => exact ⟨1, rfl⟩
          next => exact ⟨0, by rw [List.replicate_zero, List.append_nil]⟩
      next => exact ⟨0, by rw [List.replicate_zero, List.append_nil]⟩
  next hother => exact absurd hpath (hother rest)

/-- A file that an address names lies below the root. -/
theorem isAbsolute_of_filePath? {u : Url} {path : String} (h : u.filePath? = some path) : isAbsolute path = true := by
  obtain ⟨⟨rest, hpath⟩, hlocal⟩ : (∃ rest, u.path.toList = '/' :: rest) ∧
      (u.host = none ∨ u.host = some "localhost") := by
    unfold filePath? at h
    split at h
    next rest hpath =>
        split at h
        next hlocal => exact ⟨⟨rest, hpath⟩, by simpa using hlocal⟩
        next => cases h
    next => cases h
  obtain ⟨n, hfile⟩ := filePath?_of_local hpath hlocal
  obtain rfl := Option.some.inj (h.symm.trans hfile)
  rw [isAbsolute_iff, hpath, percentDecode_cons (by decide), decodeLossy_encodeChar, String.toList_ofList]
  exact ⟨_, rfl⟩

end Url

/-- The address of a file names the file. -/
theorem components_uriToPath {path : String} {u : Url} (h : pathToUri? path = some u) :
    components (uriToPath u) = components path := by
  obtain ⟨habsolute, hhost, ⟨rest, hrest⟩, n, hpath⟩ := Url.ofFilePath?_eq_some h
  obtain ⟨m, hfile⟩ := Url.filePath?_of_local hrest (.inl hhost)
  have hrooted : isAbsolute (uriToPath u) = true := by
    rw [uriToPath, hfile]
    exact Url.isAbsolute_of_filePath? hfile
  have htext : uriToPath u = String.ofList
      (((innerComponents path).map fun c => c.text.toList).flatMap ('/' :: ·) ++ List.replicate (n + m) '/') := by
    rw [uriToPath, hfile, Option.getD_some, hpath, Url.decodeLossy_written, List.append_assoc,
      List.replicate_append_replicate]
  rw [components_of_absolute hrooted, components_of_absolute habsolute, htext, innerComponents_slashes,
    innerComponents_written fun c hc => inner_of_mem hc]

/-- The address of a file depends on the components of its path alone. -/
theorem pathToUri?_congr {a b : String} (h : components a = components b) : pathToUri? a = pathToUri? b := by
  unfold pathToUri? Url.ofFilePath?
  rw [isAbsolute_congr h, h]

/-- An address is that of a file exactly if it is that of the file it names. -/
theorem pathToUri?_uriToPath_iff (u : Url) : pathToUri? (uriToPath u) = some u ↔ ∃ path, pathToUri? path = some u := by
  constructor
  · exact fun h => ⟨_, h⟩
  · rintro ⟨path, h⟩
    rw [pathToUri?_congr (components_uriToPath h), h]

end PlaybookServer
