/-
Module: PlaybookServer.Proofs.Lint.Entry
Purpose: What one entry of a report says, told on its JSON and its texts alone: where it starts and which rule it is
  about. A start is a line, or an object with a line and perhaps a column. The rule is the first name in brackets, or
  the whole check name.
Main exports: Begins, begins_iff, NamesRule, namesRule_iff, Finding.Starts, Finding.At
-/
import Mathlib.Data.List.TakeWhile
import PlaybookServer.Lint.Report

namespace PlaybookServer

namespace Json

theorem get?_object (fields : List (String × Json)) (name : String) :
    (Json.object fields).get? name = fields.lookup name := by
  rw [get?]
  induction fields with
  | nil => rfl
  | cons field fields ih =>
      obtain ⟨key, value⟩ := field
      by_cases same : key = name
      · simp [same]
      · have other : (name == key) = false := by simpa using Ne.symm same
        simp [List.lookup_cons, same, other, ih]

theorem asNat?_eq_some_iff {j : Json} {n : Nat} : j.asNat? = some n ↔ j = .nat n := by
  unfold asNat?
  split
  next i =>
      rw [nat, Json.number.injEq, Number.int.injEq, Option.ite_none_right_eq_some, Option.some.injEq]
      omega
  next other =>
      constructor
      · intro impossible
        cases impossible
      · rintro rfl
        exact absurd rfl (other n)

end Json

namespace Lint

open Json

/-! ### Starts -/

/-- What a start says, line and column counted from one: a number is a line; an object has a line, and a column if that
    is a number, too. Nothing else says where a finding starts. -/
inductive Begins : Json → Nat → Nat → Prop where
  | line (n : Nat) : Begins (.nat n) n 1
  | lineAndColumn {fields : List (String × Json)} {line column : Nat} (atLine : fields.lookup "line" = some (.nat line))
      (atColumn : fields.lookup "column" = some (.nat column)) : Begins (.object fields) line column
  | lineOnly {fields : List (String × Json)} {line : Nat} (atLine : fields.lookup "line" = some (.nat line))
      (noColumn : ∀ n, fields.lookup "column" ≠ some (.nat n)) : Begins (.object fields) line 1

theorem beginPosition?_object (fields : List (String × Json)) : beginPosition? (.object fields) =
    ((fields.lookup "line").bind asNat?).map fun line => (line, ((fields.lookup "column").bind asNat?).getD 1) := by
  simp only [beginPosition?, get?_object, Option.bind_eq_bind, Option.pure_def]
  cases fields.lookup "line" with
  | none => rfl
  | some j => cases h : j.asNat? <;> simp [h]

theorem beginPosition?_nat (n : Nat) : beginPosition? (.nat n) = some (n, 1) := by
  show (asNat? (.nat n)).map (·, 1) = some (n, 1)
  rw [asNat?_eq_some_iff.2 rfl, Option.map_some]

theorem Begins.position {j : Json} {line column : Nat} (begins : Begins j line column) :
    beginPosition? j = some (line, column) := by
  cases begins with
  | line => exact beginPosition?_nat line
  | lineAndColumn atLine atColumn => simp [beginPosition?_object, atLine, atColumn, asNat?_eq_some_iff.2 rfl]
  | @lineOnly fields _ atLine noColumn =>
      have unread : (fields.lookup "column").bind asNat? = none := by
        rw [Option.bind_eq_none_iff]
        intro j found
        rw [Option.eq_none_iff_forall_ne_some]
        intro n number
        rw [asNat?_eq_some_iff.1 number] at found
        exact noColumn n found
      simp [beginPosition?_object, atLine, unread, asNat?_eq_some_iff.2 rfl]

theorem begins_object {fields : List (String × Json)} {line column : Nat}
    (read : beginPosition? (.object fields) = some (line, column)) : Begins (.object fields) line column := by
  rw [beginPosition?_object, Option.map_eq_some_iff] at read
  obtain ⟨n, ofLine, same⟩ := read
  obtain ⟨j, atLine, number⟩ := Option.bind_eq_some_iff.1 ofLine
  rw [asNat?_eq_some_iff.1 number] at atLine
  cases ofColumn : (fields.lookup "column").bind asNat? with
  | some m =>
      obtain ⟨j, atColumn, number⟩ := Option.bind_eq_some_iff.1 ofColumn
      rw [asNat?_eq_some_iff.1 number] at atColumn
      rw [ofColumn] at same
      cases same
      exact .lineAndColumn atLine atColumn
  | none =>
      rw [ofColumn] at same
      cases same
      refine .lineOnly atLine fun n atColumn => ?_
      rw [atColumn, Option.bind_some, asNat?_eq_some_iff.2 rfl] at ofColumn
      cases ofColumn

/-- Read from the JSON, a start is what the program reads. -/
theorem begins_iff {j : Json} {line column : Nat} :
    Begins j line column ↔ beginPosition? j = some (line, column) := by
  constructor
  · exact Begins.position
  · intro read
    cases j with
    | number m =>
        obtain ⟨n, number, same⟩ := Option.map_eq_some_iff.1 (show (asNat? (.number m)).map (·, 1) = _ from read)
        rw [asNat?_eq_some_iff.1 number]
        cases same
        exact .line line
    | object fields => exact begins_object read
    | null => cases read
    | bool b => cases read
    | string s => cases read
    | array items => cases read

/-! ### Rules -/

/-- A text that starts with a name in brackets: letters from a to z and dashes, one at least. -/
def Bracketed (text name : List Char) : Prop :=
  name ≠ [] ∧ (∀ c ∈ name, 'a' ≤ c ∧ c ≤ 'z' ∨ c = '-') ∧ ∃ behind, text = '[' :: (name ++ ']' :: behind)

/-- The rule of a check name: the first name in brackets, or all of it if there is none. -/
inductive NamesRule (check : String) : String → Prop where
  | bracketed {before text : List Char} {rule : String} (split : check.toList = before ++ text)
      (named : Bracketed text rule.toList)
      (first : ∀ i < before.length, ∀ name, ¬ Bracketed (check.toList.drop i) name) : NamesRule check rule
  | whole (unnamed : ∀ i name, ¬ Bracketed (check.toList.drop i) name) : NamesRule check check

section Rules

variable {c : Char} {text name : List Char}

theorem isRuleChar_iff : isRuleChar c = true ↔ 'a' ≤ c ∧ c ≤ 'z' ∨ c = '-' := by
  simp [isRuleChar]

/-- What stands behind an opening bracket decides whether it encloses a name, and which one. -/
theorem bracketed_iff : Bracketed ('[' :: text) name ↔
    name = text.takeWhile isRuleChar ∧ name ≠ [] ∧ (text.dropWhile isRuleChar).head? = some ']' := by
  constructor
  · rintro ⟨nonempty, letters, behind, same⟩
    obtain rfl : text = name ++ ']' :: behind := (List.cons.inj same).2
    have all : ∀ c ∈ name, isRuleChar c = true := fun c among => isRuleChar_iff.2 (letters c among)
    have closing : isRuleChar ']' = false := by decide
    rw [List.takeWhile_append_of_pos all, List.dropWhile_append_of_pos all]
    simp [closing, nonempty]
  · rintro ⟨rfl, nonempty, closed⟩
    refine ⟨nonempty, fun c among => isRuleChar_iff.1 (List.mem_takeWhile_imp among), ?_⟩
    obtain ⟨behind, rest⟩ := List.head?_eq_some_iff.1 closed
    exact ⟨behind, by rw [← rest, List.takeWhile_append_dropWhile]⟩

theorem bracketedName?_of_bracketed (named : Bracketed text name) : bracketedName? text = some name := by
  obtain ⟨behind, rfl⟩ := named.2.2
  obtain ⟨same, nonempty, closed⟩ := bracketed_iff.1 named
  rw [bracketedName?, ← same, if_pos (by simp [nonempty, closed])]

theorem bracketedName?_cons (unnamed : ∀ name, ¬ Bracketed (c :: text) name) :
    bracketedName? (c :: text) = bracketedName? text := by
  by_cases opening : c = '['
  · subst opening
    have stops : ¬ (!(text.takeWhile isRuleChar).isEmpty && (text.dropWhile isRuleChar).head? = some ']') = true := by
      intro closed
      apply unnamed (text.takeWhile isRuleChar)
      rw [bracketed_iff]
      simpa using closed
    rw [bracketedName?, if_neg stops]
  · rw [bracketedName?]
    exact opening

/-- The name that the program finds is the first in brackets. -/
theorem bracketedName?_eq_some (found : bracketedName? text = some name) :
    ∃ before behind, text = before ++ behind ∧ Bracketed behind name ∧
      ∀ i < before.length, ∀ other, ¬ Bracketed (text.drop i) other := by
  induction text with
  | nil => cases found
  | cons c text ih =>
      by_cases here : ∃ other, Bracketed (c :: text) other
      · obtain ⟨other, named⟩ := here
        obtain rfl := Option.some.inj ((bracketedName?_of_bracketed named).symm.trans found)
        exact ⟨[], c :: text, rfl, named, fun i below => absurd below (Nat.not_lt_zero i)⟩
      · have unnamed : ∀ other, ¬ Bracketed (c :: text) other := fun other named => here ⟨other, named⟩
        rw [bracketedName?_cons unnamed] at found
        obtain ⟨before, behind, rfl, named, first⟩ := ih found
        refine ⟨c :: before, behind, rfl, named, fun i below => ?_⟩
        cases i with
        | zero => exact unnamed
        | succ i => exact first i (Nat.lt_of_succ_lt_succ below)

/-- Where it finds none there is none. -/
theorem bracketedName?_eq_none (missing : bracketedName? text = none) (i : Nat) (name : List Char) :
    ¬ Bracketed (text.drop i) name := by
  induction text generalizing i with
  | nil =>
      rintro ⟨-, -, behind, impossible⟩
      simp at impossible
  | cons c text ih =>
      have unnamed : ∀ other, ¬ Bracketed (c :: text) other := by
        intro other named
        rw [bracketedName?_of_bracketed named] at missing
        cases missing
      cases i with
      | zero => exact unnamed name
      | succ i => exact ih ((bracketedName?_cons unnamed).symm.trans missing) i

/-- The first name in brackets is the one that the program finds. -/
theorem bracketedName?_of_first {before : List Char} (named : Bracketed text name)
    (first : ∀ i < before.length, ∀ other, ¬ Bracketed ((before ++ text).drop i) other) :
    bracketedName? (before ++ text) = some name := by
  induction before with
  | nil => exact bracketedName?_of_bracketed named
  | cons c before ih =>
      have unnamed : ∀ other, ¬ Bracketed (c :: (before ++ text)) other := first 0 (Nat.succ_pos _)
      rw [List.cons_append, bracketedName?_cons unnamed]
      exact ih fun i below => first (i + 1) (Nat.succ_lt_succ below)

end Rules

/-- Read from the text, the rule of a check name is what the program reads. -/
theorem namesRule_iff {check rule : String} : NamesRule check rule ↔ ruleName check = rule := by
  constructor
  · intro names
    cases names with
    | bracketed split named first =>
        rw [ruleName, split, bracketedName?_of_first named (split ▸ first)]
        exact String.ofList_toList
    | whole unnamed =>
        cases found : bracketedName? check.toList with
        | none => rw [ruleName, found]
        | some name =>
            obtain ⟨before, behind, split, named, -⟩ := bracketedName?_eq_some found
            have there := unnamed before.length name
            rw [split, List.drop_left] at there
            exact absurd named there
  · rintro rfl
    rw [ruleName]
    cases found : bracketedName? check.toList with
    | none => exact .whole (bracketedName?_eq_none found)
    | some name =>
        obtain ⟨before, behind, split, named, first⟩ := bracketedName?_eq_some found
        exact .bracketed split (by rwa [String.toList_ofList]) first

/-! ### Findings that count -/

/-- Where a finding starts, counted from one: by position if that is given, else by line. -/
def Finding.Starts (f : Finding) (line column : Nat) : Prop :=
  ∃ start, (f.location.bind fun l => l.positionsBegin.or l.linesBegin) = some start ∧ Begins start line column

/-- A finding that counts, at a path: it has a check name and a starting position. -/
structure Finding.At (f : Finding) (path : String) : Prop where
  named : f.checkName.isSome = true
  placed : f.location.bind Location.path = some path
  started : ∃ line column, f.Starts line column

section Findings

variable {f : Finding} {line column : Nat}

theorem Finding.starts_iff : f.Starts line column ↔
    ((f.location.bind fun l => l.positionsBegin.or l.linesBegin).bind beginPosition?) = some (line, column) := by
  simp only [Starts, begins_iff, Option.bind_eq_some_iff (f := beginPosition?)]

/-- A finding starts at one place at most. -/
theorem Finding.Starts.unique {line' column' : Nat} (one : f.Starts line column) (other : f.Starts line' column') :
    line = line' ∧ column = column' := by
  have same := (Finding.starts_iff.1 one).symm.trans (Finding.starts_iff.1 other)
  simpa using same

instance (f : Finding) : Decidable (∃ line column, f.Starts line column) :=
  decidable_of_iff
    (((f.location.bind fun l => l.positionsBegin.or l.linesBegin).bind beginPosition?).isSome = true)
    (by simp [Option.isSome_iff_exists, Finding.starts_iff])

instance (f : Finding) (path : String) : Decidable (f.At path) :=
  decidable_of_iff (f.checkName.isSome = true ∧ f.location.bind Location.path = some path ∧
      ∃ line column, f.Starts line column)
    ⟨fun ⟨named, placed, started⟩ => ⟨named, placed, started⟩, fun h => ⟨h.named, h.placed, h.started⟩⟩

end Findings

end Lint

end PlaybookServer
