/-
Module: PlaybookServer.Proofs.Container.Options
Purpose: What becomes of the configured options of a container. Each of their words is added to the arguments unless it
  stands there already, whether as a flag or as a value. So a flag keeps the value behind it if both are new; a flag
  that was given before is dropped, and its value falls to whatever word was kept last.
Main exports: Environment.argsBeforeOptions, Environment.added, Environment.Kept, Environment.infix_added_iff,
  Environment.flag_keeps_value_iff
-/
import Mathlib.Data.List.Infix
import PlaybookServer.Container.Environment

namespace PlaybookServer.Container.Environment

open Text Files

/-! ### The words that options add -/

/-- The arguments in front of the configured options. -/
def argsBeforeOptions (e : Environment) (fs : FileView) (mounts : List String) : List String :=
  e.mountVolumes fs
      (mountPaths fs [e.engine.name, "run", "--rm", "--workdir", e.root, "-v", e.root ++ ":" ++ e.root] mounts) ++
    (forwardedNames e.host).flatMap (fun k => ["-e", k]) ++ ["-e", "ANSIBLE_FORCE_COLOR=0"] ++ engineFlags e

/-- The words that are added behind arguments: each where it comes first, if the arguments do not have it. -/
def added (args : List String) : List String → List String
  | [] => []
  | word :: words => if word ∈ args then added args words else word :: added (args ++ [word]) words

/-- A flag and a value of the options that come to stand one behind the other. -/
inductive Kept (args words : List String) (flag value : String) : Prop where
  /-- Both are new where they come first, and nothing between them is. -/
  | new {early between late : List String} (split : words = early ++ flag :: (between ++ value :: late))
      (newFlag : flag ∉ args ++ early) (repeated : ∀ word ∈ between, word ∈ args ++ early ++ [flag])
      (newValue : value ∉ args ++ early ++ [flag]) : Kept args words flag value
  /-- The arguments end with the flag, and the value is the first word that they do not have. -/
  | last {between late : List String} (split : words = between ++ value :: late) (atEnd : args.getLast? = some flag)
      (repeated : ∀ word ∈ between, word ∈ args) (newValue : value ∉ args) : Kept args words flag value

variable {args words : List String} {flag value word : String}

theorem foldl_addOption_eq (args words : List String) :
    words.foldl (fun args word => if args.contains word then args else args ++ [word]) args =
      args ++ added args words := by
  induction words generalizing args with
  | nil => simp [added]
  | cons word words ih =>
      rw [List.foldl_cons, ih, added]
      by_cases given : word ∈ args
      · simp [given]
      · simp [given]

theorem wrappedArgs_eq (e : Environment) (fs : FileView) (name command : String) (mounts : List String) :
    e.wrappedArgs fs name command mounts =
      (e.argsBeforeOptions fs mounts ++
        added (e.argsBeforeOptions fs mounts) (wordsOf e.settings.containerOptions)) ++
      ["--name", "als_" ++ name, e.image, command] := by
  rw [← foldl_addOption_eq]
  rfl

/-! ### Neighbours -/

/-- Two words stand one behind the other in the parts of a list, or where the parts meet. -/
theorem pair_infix_append_iff {front back : List String} : [flag, value] <:+: front ++ back ↔
    [flag, value] <:+: front ∨ [flag, value] <:+: back ∨ front.getLast? = some flag ∧ back.head? = some value := by
  rw [List.infix_append_iff]
  constructor
  · rintro (inFront | inBack | ⟨left, right, split, atEnd, atStart⟩)
    · exact .inl inFront
    · exact .inr (.inl inBack)
    · match left, right, split with
      | [], _, rfl => exact .inr (.inl atStart.isInfix)
      | [_], [_], rfl =>
          obtain ⟨before, rfl⟩ := atEnd
          obtain ⟨after, rfl⟩ := atStart
          exact .inr (.inr ⟨by simp, by simp⟩)
      | [_, _], [], rfl => exact .inl atEnd.isInfix
  · rintro (inFront | inBack | ⟨atEnd, atStart⟩)
    · exact .inl inFront
    · exact .inr (.inl inBack)
    · obtain ⟨before, rfl⟩ := List.getLast?_eq_some_iff.1 atEnd
      obtain ⟨after, rfl⟩ := List.head?_eq_some_iff.1 atStart
      exact .inr (.inr ⟨[flag], [value], rfl, List.suffix_append _ _, List.prefix_append [value] after⟩)

/-! ### Which flags keep their values -/

/-- A word that the arguments have changes nothing. -/
theorem kept_cons_of_mem (given : word ∈ args) : Kept args (word :: words) flag value ↔ Kept args words flag value := by
  constructor
  · intro kept
    cases kept with
    | @new early between late split newFlag repeated newValue =>
        cases early with
        | nil =>
            obtain ⟨rfl, -⟩ := List.cons.inj split
            exact absurd (List.mem_append_left _ given) newFlag
        | cons first early =>
            obtain ⟨rfl, rfl⟩ := List.cons.inj split
            exact .new rfl (by grind) (by grind) (by grind)
    | @last between late split atEnd repeated newValue =>
        cases between with
        | nil =>
            obtain ⟨rfl, -⟩ := List.cons.inj split
            exact absurd given newValue
        | cons first between =>
            obtain ⟨rfl, rfl⟩ := List.cons.inj split
            exact .last rfl atEnd (List.forall_mem_cons.1 repeated).2 newValue
  · intro kept
    cases kept with
    | @new early between late split newFlag repeated newValue =>
        subst split
        exact @Kept.new _ _ _ _ (word :: early) _ _ rfl (by grind) (by grind) (by grind)
    | @last between late split atEnd repeated newValue =>
        subst split
        exact @Kept.last _ _ _ _ (word :: between) _ rfl atEnd (List.forall_mem_cons.2 ⟨given, repeated⟩) newValue

/-- A new word stands behind the arguments, which end with it from then on. -/
theorem kept_cons_of_not_mem (new : word ∉ args) : Kept args (word :: words) flag value ↔
    (args.getLast? = some flag ∧ word = value) ∨ Kept (args ++ [word]) words flag value := by
  constructor
  · intro kept
    cases kept with
    | @new early between late split newFlag repeated newValue =>
        cases early with
        | nil =>
            obtain ⟨rfl, rfl⟩ := List.cons.inj split
            exact .inr (.last rfl List.getLast?_concat (by simpa using repeated) (by simpa using newValue))
        | cons first early =>
            obtain ⟨rfl, rfl⟩ := List.cons.inj split
            exact .inr (.new rfl (by grind) (by grind) (by grind))
    | @last between late split atEnd repeated newValue =>
        cases between with
        | nil => exact .inl ⟨atEnd, (List.cons.inj split).1⟩
        | cons first between =>
            obtain ⟨rfl, -⟩ := List.cons.inj split
            exact absurd (repeated _ List.mem_cons_self) new
  · rintro (⟨atEnd, rfl⟩ | kept)
    · exact @Kept.last _ _ _ _ [] _ rfl atEnd (List.forall_mem_nil _) new
    · cases kept with
      | @new early between late split newFlag repeated newValue =>
          subst split
          exact @Kept.new _ _ _ _ (word :: early) _ _ rfl (by grind) (by grind) (by grind)
      | @last between late split atEnd repeated newValue =>
          subst split
          obtain rfl : word = flag := by simpa using atEnd
          exact @Kept.new _ _ _ _ [] _ _ rfl (by simpa using new) (by simpa using repeated) (by simpa using newValue)

/-- A flag stands in front of a value if the arguments had them so, or the options keep them so. -/
theorem infix_added_iff (args words : List String) : [flag, value] <:+: args ++ added args words ↔
    [flag, value] <:+: args ∨ Kept args words flag value := by
  induction words generalizing args with
  | nil =>
      have notKept : ¬ Kept args [] flag value := by rintro (⟨split⟩ | ⟨split⟩) <;> simp at split
      simp [added, notKept]
  | cons word words ih =>
      rw [added]
      split
      next given => rw [ih, kept_cons_of_mem given]
      next new =>
          have meet : [flag, value] <:+: args ++ [word] ↔
              [flag, value] <:+: args ∨ args.getLast? = some flag ∧ word = value := by
            have single : ¬ [flag, value] <:+: [word] := fun pair => by simpa using pair.length_le
            rw [pair_infix_append_iff]
            simp [single]
          rw [List.append_cons, ih, kept_cons_of_not_mem new, meet, or_assoc]

/-- A flag and its value that are both new stay together. -/
theorem Kept.of_both_new {before after : List String} (split : words = before ++ flag :: value :: after)
    (newFlag : flag ∉ args ++ before) (newValue : value ∉ args ++ before) (apart : value ≠ flag) :
    Kept args words flag value :=
  @Kept.new _ _ _ _ before [] after split newFlag (List.forall_mem_nil _) (by simp_all)

theorem hasStem_of_name (rest : String) : hasStem ("als_" ++ rest) "-" = false := by
  rw [hasStem, String.toList_append]
  rfl

/-- The arguments behind the options: no value of the options gets in front of them. -/
theorem pair_infix_closing_iff (isFlag : hasStem flag "-" = true) (name image command : String) :
    [flag, value] <:+: ["--name", "als_" ++ name, image, command] ↔
      flag = "--name" ∧ value = "als_" ++ name ∨ flag = image ∧ value = command := by
  have notName : flag ≠ "als_" ++ name := by
    rintro rfl
    rw [hasStem_of_name] at isFlag
    cases isFlag
  simp [List.infix_cons_iff, notName]

/-- Of two words of the options, a flag and a value behind it, the flag is followed by the value in the arguments of a
    container exactly if the arguments in front of the options or those behind them have them so, or the options keep
    them so. The options do if both words are new; a new value is lost by a flag that was given before, but for one
    that the value finds at the end. -/
theorem flag_keeps_value_iff (e : Environment) (fs : FileView) (name command : String) (mounts : List String)
    {before after : List String} (tokens : wordsOf e.settings.containerOptions = before ++ flag :: value :: after)
    (isFlag : hasStem flag "-" = true) (isValue : hasStem value "-" = false) :
    ([flag, value] <:+: e.wrappedArgs fs name command mounts ↔
      [flag, value] <:+: e.argsBeforeOptions fs mounts ∨
      Kept (e.argsBeforeOptions fs mounts) (wordsOf e.settings.containerOptions) flag value ∨
      (flag = "--name" ∧ value = "als_" ++ name ∨ flag = e.image ∧ value = command)) ∧
    (flag ∉ e.argsBeforeOptions fs mounts ++ before → value ∉ e.argsBeforeOptions fs mounts ++ before →
      [flag, value] <:+: e.wrappedArgs fs name command mounts) ∧
    (flag ∈ e.argsBeforeOptions fs mounts → (e.argsBeforeOptions fs mounts).getLast? ≠ some flag →
      value ∉ e.argsBeforeOptions fs mounts → flag ≠ "--name" → flag ≠ e.image →
      ¬ [flag, value] <:+: e.wrappedArgs fs name command mounts) := by
  have notName : "--name" ≠ value := by
    rintro rfl
    exact absurd isValue (by decide)
  have exact : [flag, value] <:+: e.wrappedArgs fs name command mounts ↔
      [flag, value] <:+: e.argsBeforeOptions fs mounts ∨
      Kept (e.argsBeforeOptions fs mounts) (wordsOf e.settings.containerOptions) flag value ∨
      (flag = "--name" ∧ value = "als_" ++ name ∨ flag = e.image ∧ value = command) := by
    rw [wrappedArgs_eq, pair_infix_append_iff, infix_added_iff, pair_infix_closing_iff isFlag, List.head?_cons,
      Option.some.injEq, or_assoc]
    simp only [notName, and_false, or_false]
  have apart : value ≠ flag := by
    rintro rfl
    rw [isFlag] at isValue
    cases isValue
  refine ⟨exact, fun newFlag newValue => ?_, fun given inner newValue otherName otherImage together => ?_⟩
  · exact exact.2 (.inr (.inl (.of_both_new tokens newFlag newValue apart)))
  · rcases exact.1 together with there | kept | ⟨same, -⟩ | ⟨same, -⟩
    · exact newValue (there.subset (by simp))
    · cases kept with
      | new _ newFlag => exact newFlag (List.mem_append_left _ given)
      | last _ atEnd => exact inner atEnd
    · exact otherName same
    · exact otherImage same

/-- A podman environment with options of its own. -/
def podmanWith (options : String) : Environment :=
  { engine := .podman, settings := { image := "ee:1", containerOptions := options }, root := "/work", host := {} }

theorem port_keeps_flag : wordsOf "--net=host -p 8080:80" = ["--net=host"] ++ "-p" :: "8080:80" :: [] ∧
    hasStem "-p" "-" = true ∧ hasStem "8080:80" "-" = false ∧
    ["-p", "8080:80"] <:+: (podmanWith "--net=host -p 8080:80").wrappedArgs .empty "1" "ansible-lint" [] := by
  have tokens : wordsOf "--net=host -p 8080:80" = ["--net=host"] ++ "-p" :: "8080:80" :: [] := by decide
  refine ⟨tokens, by decide, by decide, ?_⟩
  exact (flag_keeps_value_iff (podmanWith "--net=host -p 8080:80") .empty "1" "ansible-lint" [] tokens (by decide)
    (by decide)).2.1 (by decide +kernel) (by decide +kernel)

/-- The folder is mounted by the same flag, so the one in the options is dropped, and its value stands alone. -/
theorem volume_loses_flag : wordsOf "-v /srv:/srv" = [] ++ "-v" :: "/srv:/srv" :: [] ∧
    hasStem "-v" "-" = true ∧ hasStem "/srv:/srv" "-" = false ∧
    ¬ ["-v", "/srv:/srv"] <:+: (podmanWith "-v /srv:/srv").wrappedArgs .empty "1" "ansible-lint" [] := by
  decide +kernel

end PlaybookServer.Container.Environment
