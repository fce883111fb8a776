/-
Module: PlaybookServer.Proofs.Settings.Payload
Purpose: What is read from the settings that a client sends. Settings that are written with all their fields are read
  back, section by section. Sent under the name of the tool they arrive. Sent by themselves they do not: their own
  section for the tool has that name and is taken for all of them, and since none of its fields is a section, every
  setting has its default. Without that section the others arrive.
Main exports: Settings.ofJson_toJson, Settings.ofJson_of_unknown, Settings.toJsonWithoutTool,
  payloads_arrive_under_tool_name
-/
import Mathlib.Data.List.Basic
import Mathlib.Data.List.Pairwise
import PlaybookServer.Server.Handlers

namespace PlaybookServer

namespace Json

/-! ### Records -/

section Records

universe u

variable {σ : Type} {α : Type u}

@[simp] theorem decodeText_string (s : String) : decodeText (.string s) = .ok s := rfl

@[simp] theorem decodeBool_bool (b : Bool) : decodeBool (.bool b) = .ok b := rfl

/-- What is written item by item is read back. -/
theorem decodeList_map {α : Type} {encode : α → Json} {decode : Json → Except String α}
    (h : ∀ x, decode (encode x) = .ok x) (xs : List α) : decodeList decode (.array (xs.map encode)) = .ok xs := by
  induction xs with
  | nil => rfl
  | cons x xs ih =>
      have htail : (xs.map encode).mapM decode = .ok xs := ih
      show (encode x :: xs.map encode).mapM decode = .ok (x :: xs)
      rw [List.mapM_cons, h x, htail]
      rfl

/-- Where no step fails, a fold is one of plain steps. -/
theorem foldlM_eq_foldl {f : σ → α → Except String σ} {g : σ → α → σ} {xs : List α}
    (h : ∀ x ∈ xs, ∀ r, f r x = .ok (g r x)) (start : σ) : xs.foldlM f start = .ok (xs.foldl g start) := by
  induction xs generalizing start with
  | nil => rfl
  | cons x xs ih =>
      rw [List.foldlM_cons, h x List.mem_cons_self, List.foldl_cons]
      exact ih (fun y hy => h y (List.mem_cons_of_mem x hy)) (g start x)

/-- Where none of the fields must be there, entries that each have their effect have them one after another, in the
    order of their names. -/
theorem setByName_eq_foldl {fields : List (Slot σ)} {xs : List α} (entry : α → String × Json) {effect : σ → α → σ}
    (heffect : ∀ x ∈ xs, ∀ r, (match fields.find? fun f => f.name = (entry x).1 with
      | some f => f.set r (entry x).2
      | none => .ok r) = .ok (effect r x))
    (hrequired : ∀ f ∈ fields, f.presence ≠ .required) (start : σ) : setByName fields (xs.map entry) start =
      .ok ((xs.mergeSort fun a b => (entry a).1 ≤ (entry b).1).foldl effect start) := by
  have hmissing : fields.find? (fun f => f.presence = .required && !(xs.map entry).any fun e => e.1 = f.name) =
      none := by
    rw [List.find?_eq_none]
    intro f hf
    simp [hrequired f hf]
  have hsorted : ((xs.map entry).mergeSort fun a b => a.1 ≤ b.1) =
      (xs.mergeSort fun a b => (entry a).1 ≤ (entry b).1).map entry :=
    (@List.map_mergeSort _ _ _ (fun a b => decide (a.1 ≤ b.1)) entry xs fun _ _ _ _ => rfl).symm
  unfold setByName
  rw [hsorted, List.foldlM_map, foldlM_eq_foldl (g := effect)]
  · simp only [hmissing, bind, Except.bind, pure, Except.pure]
  · exact fun x hx => heffect x (List.mem_mergeSort.1 hx)

/-- Where no field has the name of an entry, and none must be there, the entries do nothing. -/
theorem setByName_of_unknown {fields : List (Slot σ)} {entries : List (String × Json)}
    (hunknown : ∀ e ∈ entries, ∀ f ∈ fields, f.name ≠ e.1) (hrequired : ∀ f ∈ fields, f.presence ≠ .required)
    (start : σ) : setByName fields entries start = .ok start := by
  have hstill : ∀ e ∈ entries, ∀ r, (match fields.find? fun f => f.name = e.1 with
      | some f => f.set r e.2
      | none => .ok r) = .ok r := by
    intro e he r
    have hnone : fields.find? (fun f => f.name = e.1) = none := by simpa using hunknown e he
    rw [hnone]
  have hall := setByName_eq_foldl id hstill hrequired start
  rwa [List.map_id, List.foldl_fixed] at hall

/-- A field as it is written: what reads it, the value that is written, and what that is read as. -/
structure Written (σ : Type) where
  name : String
  {part : Type}
  decode : Json → Except String part
  set : σ → part → σ
  value : Json
  read : part
  decodes : decode value = .ok read

namespace Written

variable (w : Written σ)

/-- The field that reads it. -/
def slot : Slot σ := .of w.name w.decode w.set

/-- The entry that is written. -/
def entry : String × Json := (w.name, w.value)

/-- What reading it does to a record. -/
@[simp] def put (r : σ) : σ := w.set r w.read

/-- A text. -/
@[simp] def text (name : String) (read : String) (set : σ → String → σ) : Written σ :=
  ⟨name, decodeText, set, .string read, read, rfl⟩

/-- A truth value. -/
@[simp] def flag (name : String) (read : Bool) (set : σ → Bool → σ) : Written σ :=
  ⟨name, decodeBool, set, .bool read, read, rfl⟩

theorem set_slot (r : σ) : w.slot.set r w.value = .ok (w.put r) := by
  show (w.decode w.value).map _ = _
  rw [w.decodes]
  rfl

end Written

/-- A field is found by its name, if no other has that name. -/
theorem find?_name_of_mem {fields : List (Slot σ)} (hdistinct : (fields.map Slot.name).Nodup) {f : Slot σ}
    (hf : f ∈ fields) : fields.find? (fun g => g.name = f.name) = some f := by
  induction fields with
  | nil => cases hf
  | cons g fields ih =>
      rw [List.map_cons, List.nodup_cons] at hdistinct
      rcases List.mem_cons.1 hf with rfl | hf
      · exact List.find?_cons_of_pos (by simp)
      · have hother : g.name ≠ f.name := fun hsame => hdistinct.1 (hsame ▸ List.mem_map_of_mem hf)
        rw [List.find?_cons_of_neg (by simpa using hother)]
        exact ih hdistinct.2 hf

/-- Fields that are written are read back, in whatever order they are looked at: their names are distinct, and each
    puts its own part of the record. What is not written keeps its default. -/
theorem decodeRecord_written {kind : String} {fields : List (Slot σ)} {start : σ} (written : List (Written σ))
    (hlisted : (written.map Written.slot).Sublist fields) (hdistinct : (fields.map Slot.name).Nodup)
    (hrequired : ∀ f ∈ fields, f.presence ≠ .required)
    (hapart : written.Pairwise fun a b => ∀ r, a.put (b.put r) = b.put (a.put r)) :
    decodeRecord kind fields start (.object (written.map Written.entry)) =
      .ok (written.foldl (fun r w => w.put r) start) := by
  have heffect : ∀ w ∈ written, ∀ r, (match fields.find? fun f => f.name = w.entry.1 with
      | some f => f.set r w.entry.2
      | none => .ok r) = .ok (w.put r) := by
    intro w hw r
    have hfound : fields.find? (fun f => f.name = w.entry.1) = some w.slot :=
      find?_name_of_mem hdistinct (hlisted.subset (List.mem_map_of_mem hw))
    rw [hfound]
    exact w.set_slot r
  have hcommute := hapart.forall_of_forall_of_flip (fun _ _ _ => rfl) (hapart.imp fun h r => (h r).symm)
  have hread := setByName_eq_foldl Written.entry heffect hrequired start
  rw [(List.mergeSort_perm written _).foldl_eq' fun a ha b hb r =>
    hcommute (List.mem_mergeSort.1 hb) (List.mem_mergeSort.1 ha) r] at hread
  exact hread

end Records

end Json

open Json

/-! ### The sections -/

/-- The fields of the tool section. -/
def ToolSettings.written (t : ToolSettings) : List (Written ToolSettings) :=
  [.text "path" t.path fun s v => { s with path := v },
   .flag "useFullyQualifiedCollectionNames" t.useFullNames fun s v => { s with useFullNames := v }]

theorem ToolSettings.ofJson_written (t : ToolSettings) : ToolSettings.ofJson (.object
    [("path", .string t.path), ("useFullyQualifiedCollectionNames", .bool t.useFullNames)]) = .ok t :=
  decodeRecord_written t.written (.refl _) (by decide) (by decide) (by simp [ToolSettings.written])

/-- The fields of the interpreter section. -/
def InterpreterSettings.written (i : InterpreterSettings) : List (Written InterpreterSettings) :=
  [.text "interpreterPath" i.interpreterPath fun s v => { s with interpreterPath := v },
   .text "activationScript" i.activationScript fun s v => { s with activationScript := v }]

theorem InterpreterSettings.ofJson_written (i : InterpreterSettings) : InterpreterSettings.ofJson (.object
    [("interpreterPath", .string i.interpreterPath), ("activationScript", .string i.activationScript)]) = .ok i :=
  decodeRecord_written i.written (.refl _) (by decide) (by decide) (by simp [InterpreterSettings.written])

theorem EngineChoice.decode_word (e : EngineChoice) : decodeChoice EngineChoice.words (.string e.word) = .ok e := by
  cases e <;> rfl

theorem PullPolicy.decode_word (p : PullPolicy) : decodeChoice PullPolicy.words (.string p.word) = .ok p := by
  cases p <;> rfl

/-- The fields of the pull section. -/
def PullSettings.written (p : PullSettings) : List (Written PullSettings) :=
  [⟨"policy", decodeChoice PullPolicy.words, fun s v => { s with policy := v }, .string p.policy.word, p.policy,
      p.policy.decode_word⟩,
   .text "arguments" p.arguments fun s v => { s with arguments := v }]

theorem PullSettings.ofJson_written (p : PullSettings) : PullSettings.ofJson (.object
    [("policy", .string p.policy.word), ("arguments", .string p.arguments)]) = .ok p :=
  decodeRecord_written p.written (.refl _) (by decide) (by decide) (by simp [PullSettings.written])

/-- The fields of a mount. -/
def VolumeMount.written (m : VolumeMount) : List (Written VolumeMount) :=
  [.text "src" m.src fun s v => { s with src := v },
   .text "dest" m.dest fun s v => { s with dest := v },
   .text "options" m.options fun s v => { s with options := v }]

theorem VolumeMount.ofJson_toJson (m : VolumeMount) : VolumeMount.ofJson m.toJson = .ok m :=
  decodeRecord_written m.written (.refl _) (by decide) (by decide) (by simp [VolumeMount.written])

/-- The fields of the container section. -/
def EnvironmentSettings.written (e : EnvironmentSettings) : List (Written EnvironmentSettings) :=
  [.flag "enabled" e.enabled fun s v => { s with enabled := v },
   ⟨"containerEngine", decodeChoice EngineChoice.words, fun s v => { s with engine := v }, .string e.engine.word,
      e.engine, e.engine.decode_word⟩,
   .text "image" e.image fun s v => { s with image := v },
   ⟨"pull", PullSettings.ofJson, fun s v => { s with pull := v }, _, e.pull, e.pull.ofJson_written⟩,
   ⟨"volumeMounts", decodeList VolumeMount.ofJson, fun s v => { s with volumeMounts := v }, _, e.volumeMounts,
      decodeList_map VolumeMount.ofJson_toJson e.volumeMounts⟩,
   .text "containerOptions" e.containerOptions fun s v => { s with containerOptions := v }]

theorem EnvironmentSettings.ofJson_written (e : EnvironmentSettings) : EnvironmentSettings.ofJson (.object
    [("enabled", .bool e.enabled),
     ("containerEngine", .string e.engine.word),
     ("image", .string e.image),
     ("pull", .object [("policy", .string e.pull.policy.word), ("arguments", .string e.pull.arguments)]),
     ("volumeMounts", .array (e.volumeMounts.map VolumeMount.toJson)),
     ("containerOptions", .string e.containerOptions)]) = .ok e :=
  decodeRecord_written e.written (.refl _) (by decide) (by decide) (by simp [EnvironmentSettings.written])

/-- The fields of the completion section. -/
def CompletionSettings.written (c : CompletionSettings) : List (Written CompletionSettings) :=
  [.flag "provideRedirectModules" c.redirectModules fun s v => { s with redirectModules := v },
   .flag "provideModuleOptionAliases" c.optionAliases fun s v => { s with optionAliases := v }]

theorem CompletionSettings.ofJson_written (c : CompletionSettings) : CompletionSettings.ofJson (.object
    [("provideRedirectModules", .bool c.redirectModules), ("provideModuleOptionAliases", .bool c.optionAliases)]) =
      .ok c :=
  decodeRecord_written c.written (.refl _) (by decide) (by decide) (by simp [CompletionSettings.written])

/-- The fields of the linter section. -/
def LintSettings.written (l : LintSettings) : List (Written LintSettings) :=
  [.flag "enabled" l.enabled fun s v => { s with enabled := v },
   .text "path" l.path fun s v => { s with path := v },
   .text "arguments" l.arguments fun s v => { s with arguments := v }]

theorem LintSettings.ofJson_written (l : LintSettings) : LintSettings.ofJson (.object
    [("enabled", .bool l.enabled), ("path", .string l.path), ("arguments", .string l.arguments)]) = .ok l :=
  decodeRecord_written l.written (.refl _) (by decide) (by decide) (by simp [LintSettings.written])

/-- The fields of the validation section. -/
def ValidationSettings.written (v : ValidationSettings) : List (Written ValidationSettings) :=
  [.flag "enabled" v.enabled fun s u => { s with enabled := u },
   ⟨"lint", LintSettings.ofJson, fun s u => { s with lint := u }, _, v.lint, v.lint.ofJson_written⟩]

theorem ValidationSettings.ofJson_written (v : ValidationSettings) : ValidationSettings.ofJson (.object
    [("enabled", .bool v.enabled),
     ("lint", .object
        [("enabled", .bool v.lint.enabled), ("path", .string v.lint.path), ("arguments", .string v.lint.arguments)])]) =
      .ok v :=
  decodeRecord_written v.written (.refl _) (by decide) (by decide) (by simp [ValidationSettings.written])

namespace Settings

/-- The sections but for that of the tool. -/
def writtenWithoutTool (s : Settings) : List (Written Settings) :=
  [⟨"python", InterpreterSettings.ofJson, fun s v => { s with interpreter := v }, _, s.interpreter,
      s.interpreter.ofJson_written⟩,
   ⟨"executionEnvironment", EnvironmentSettings.ofJson, fun s v => { s with environment := v }, _, s.environment,
      s.environment.ofJson_written⟩,
   ⟨"completion", CompletionSettings.ofJson, fun s v => { s with completion := v }, _, s.completion,
      s.completion.ofJson_written⟩,
   ⟨"validation", ValidationSettings.ofJson, fun s v => { s with validation := v }, _, s.validation,
      s.validation.ofJson_written⟩]

/-- All sections. -/
def written (s : Settings) : List (Written Settings) :=
  ⟨"ansible", ToolSettings.ofJson, fun s v => { s with tool := v }, _, s.tool, s.tool.ofJson_written⟩ ::
    s.writtenWithoutTool

/-- Settings that are written with all their fields are read back. -/
theorem ofJson_toJson (s : Settings) : ofJson s.toJson = .ok s :=
  decodeRecord_written s.written (.refl _) (by decide) (by decide) (by simp [written, writtenWithoutTool])

/-- The names of the sections. -/
def sectionNames : List String := ["ansible", "python", "executionEnvironment", "completion", "validation"]

/-- An object without any section stands for the defaults. -/
theorem ofJson_of_unknown {entries : List (String × Json)} (h : ∀ e ∈ entries, e.1 ∉ sectionNames) :
    ofJson (.object entries) = .ok {} := by
  apply setByName_of_unknown
  · intro e he f hf hname
    apply h e he
    rw [← hname]
    simp only [List.mem_cons, List.not_mem_nil, or_false] at hf
    rcases hf with rfl | rfl | rfl | rfl | rfl <;> simp [sectionNames, Slot.of]
  · intro f hf
    simp only [List.mem_cons, List.not_mem_nil, or_false] at hf
    rcases hf with rfl | rfl | rfl | rfl | rfl <;> simp [Slot.of]

/-- The settings without their section for the tool. -/
def toJsonWithoutTool (s : Settings) : Json :=
  match s.toJson with
  | .object fields => .object (fields.filter fun e => e.1 ≠ "ansible")
  | j => j

theorem ofJson_toJsonWithoutTool (s : Settings) : ofJson s.toJsonWithoutTool = .ok { s with tool := {} } :=
  decodeRecord_written s.writtenWithoutTool (.cons _ (.refl _)) (by decide) (by decide) (by simp [writtenWithoutTool])

end Settings

/-! ### What a client sends -/

namespace Server

/-- An object under the name of the tool is taken for the settings. -/
theorem settingsOf?_of_named {fields entries : List (String × Json)}
    (h : (Json.object entries).get? "ansible" = some (.object fields)) :
    settingsOf? (.object entries) = some (Settings.ofJson (.object fields)) := by
  simp only [settingsOf?, h]

/-- Settings that are sent by themselves are all defaults: their section for the tool is taken for them. -/
theorem settingsOf?_toJson (s : Settings) : settingsOf? s.toJson = some (.ok {}) := by
  have hsection : s.toJson.get? "ansible" = some (.object [("path", .string s.tool.path),
      ("useFullyQualifiedCollectionNames", .bool s.tool.useFullNames)]) := by
    simp [Settings.toJson, Json.get?]
  have hread : Settings.ofJson (.object [("path", .string s.tool.path),
      ("useFullyQualifiedCollectionNames", .bool s.tool.useFullNames)]) = .ok {} := by
    apply Settings.ofJson_of_unknown
    simp [Settings.sectionNames]
  rw [Settings.toJson] at hsection ⊢
  rw [settingsOf?_of_named hsection, hread]

/-- Settings arrive that are sent under the name of the tool, whatever stands beside them. Those that are sent by
    themselves arrive only if they are all defaults, but without their section for the tool the others arrive. -/
theorem payloads_arrive_under_tool_name (s : Settings) :
    (∀ others, settingsOf? (.object (("ansible", s.toJson) :: others)) = some (.ok s)) ∧
    settingsOf? s.toJson = some (.ok {}) ∧
    (settingsOf? s.toJson = some (.ok s) ↔ s = {}) ∧
    settingsOf? s.toJsonWithoutTool = some (.ok { s with tool := {} }) := by
  refine ⟨fun others => ?_, settingsOf?_toJson s, ?_, ?_⟩
  · have hnamed : (Json.object (("ansible", s.toJson) :: others)).get? "ansible" = some s.toJson := by
      simp [Json.get?]
    rw [Settings.toJson] at hnamed ⊢
    rw [settingsOf?_of_named hnamed]
    exact congrArg some s.ofJson_toJson
  · rw [settingsOf?_toJson]
    constructor
    · intro h
      injection h with h
      injection h with h
      exact h.symm
    · rintro rfl
      rfl
  · rw [← s.ofJson_toJsonWithoutTool]
    rfl

/-- A client that turns validation off by sending the settings themselves has it turned on. -/
theorem validation_turned_off_by_section_is_lost :
    settingsOf? ({ validation := { enabled := false } } : Settings).toJson ≠
      some (.ok { validation := { enabled := false } }) := by
  rw [settingsOf?_toJson]
  intro h
  injection h with h
  injection h with h
  exact absurd h (by decide)

end Server

end PlaybookServer
