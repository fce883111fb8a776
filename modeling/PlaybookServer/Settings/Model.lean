/-
Module: PlaybookServer.Settings.Model
Purpose: The settings of a workspace folder with their defaults, their JSON form, and reading it back.
Main exports: Settings, Settings.toJson, Settings.ofJson
-/
import PlaybookServer.Json.Decode

namespace PlaybookServer

/-- How the tool is found and how its modules are named. -/
structure ToolSettings where
  /-- Path of the main executable; its siblings are found next to it. -/
  path : String := "ansible"
  useFullNames : Bool := true
deriving DecidableEq, Repr, Inhabited

/-- The interpreter the tools run in. -/
structure InterpreterSettings where
  /-- May hold a mark for the workspace folder. -/
  interpreterPath : String := ""
  activationScript : String := ""
deriving DecidableEq, Repr, Inhabited

/-- Which container engine to use. -/
inductive EngineChoice where
  | auto
  | podman
  | docker
deriving DecidableEq, Repr, Inhabited

/-- When to pull the image. -/
inductive PullPolicy where
  | always
  | missing
  | never
  | tag
deriving DecidableEq, Repr, Inhabited

/-- How the image is pulled. -/
structure PullSettings where
  policy : PullPolicy := .missing
  arguments : String := ""
deriving DecidableEq, Repr, Inhabited

/-- A volume mounted into the container. -/
structure VolumeMount where
  src : String := ""
  dest : String := ""
  options : String := ""
deriving DecidableEq, Repr, Inhabited

/-- The container the tools run in. -/
structure EnvironmentSettings where
  enabled : Bool := false
  engine : EngineChoice := .auto
  image : String := "ghcr.io/ansible/community-ansible-dev-tools:latest"
  pull : PullSettings := {}
  volumeMounts : List VolumeMount := []
  containerOptions : String := ""
deriving DecidableEq, Repr, Inhabited

/-- What completion offers. -/
structure CompletionSettings where
  redirectModules : Bool := true
  optionAliases : Bool := true
deriving DecidableEq, Repr, Inhabited

/-- How the linter is run. -/
structure LintSettings where
  enabled : Bool := true
  path : String := "ansible-lint"
  arguments : String := ""
deriving DecidableEq, Repr, Inhabited

/-- What is validated. -/
structure ValidationSettings where
  enabled : Bool := true
  lint : LintSettings := {}
deriving DecidableEq, Repr, Inhabited

/-- The settings of a workspace folder. -/
structure Settings where
  tool : ToolSettings := {}
  interpreter : InterpreterSettings := {}
  environment : EnvironmentSettings := {}
  completion : CompletionSettings := {}
  validation : ValidationSettings := {}
deriving DecidableEq, Repr, Inhabited

/-! ### Reading -/

open Json

/-- Words for engines. -/
def EngineChoice.words : List (String × EngineChoice) :=
  [("auto", .auto), ("podman", .podman), ("docker", .docker)]

/-- Words for pull policies. -/
def PullPolicy.words : List (String × PullPolicy) :=
  [("always", .always), ("missing", .missing), ("never", .never), ("tag", .tag)]

/-- Read the tool section. -/
def ToolSettings.ofJson : Json → Except String ToolSettings :=
  decodeRecord "AnsibleSettings"
    [.of "path" decodeText fun s v => { s with path := v },
     .of "useFullyQualifiedCollectionNames" decodeBool fun s v => { s with useFullNames := v }] {}

/-- Read the interpreter section. -/
def InterpreterSettings.ofJson : Json → Except String InterpreterSettings :=
  decodeRecord "PythonSettings"
    [.of "interpreterPath" decodeText fun s v => { s with interpreterPath := v },
     .of "activationScript" decodeText fun s v => { s with activationScript := v }] {}

/-- Read the pull section. -/
def PullSettings.ofJson : Json → Except String PullSettings :=
  decodeRecord "PullSettings"
    [.of "policy" (decodeChoice PullPolicy.words) fun s v => { s with policy := v },
     .of "arguments" decodeText fun s v => { s with arguments := v }] {}

/-- Read a mount. -/
def VolumeMount.ofJson : Json → Except String VolumeMount :=
  decodeRecord "VolumeMount"
    [.of "src" decodeText fun s v => { s with src := v },
     .of "dest" decodeText fun s v => { s with dest := v },
     .of "options" decodeText fun s v => { s with options := v }] {}

/-- Read the container section. -/
def EnvironmentSettings.ofJson : Json → Except String EnvironmentSettings :=
  decodeRecord "ExecutionEnvironmentSettings"
    [.of "enabled" decodeBool fun s v => { s with enabled := v },
     .of "containerEngine" (decodeChoice EngineChoice.words) fun s v => { s with engine := v },
     .of "image" decodeText fun s v => { s with image := v },
     .of "pull" PullSettings.ofJson fun s v => { s with pull := v },
     .of "volumeMounts" (decodeList VolumeMount.ofJson) fun s v => { s with volumeMounts := v },
     .of "containerOptions" decodeText fun s v => { s with containerOptions := v }] {}

/-- Read the completion section. -/
def CompletionSettings.ofJson : Json → Except String CompletionSettings :=
  decodeRecord "CompletionSettings"
    [.of "provideRedirectModules" decodeBool fun s v => { s with redirectModules := v },
     .of "provideModuleOptionAliases" decodeBool fun s v => { s with optionAliases := v }] {}

/-- Read the linter section. -/
def LintSettings.ofJson : Json → Except String LintSettings :=
  decodeRecord "LintSettings"
    [.of "enabled" decodeBool fun s v => { s with enabled := v },
     .of "path" decodeText fun s v => { s with path := v },
     .of "arguments" decodeText fun s v => { s with arguments := v }] {}

/-- Read the validation section. -/
def ValidationSettings.ofJson : Json → Except String ValidationSettings :=
  decodeRecord "ValidationSettings"
    [.of "enabled" decodeBool fun s v => { s with enabled := v },
     .of "lint" LintSettings.ofJson fun s v => { s with lint := v }] {}

/-- Read settings; what is missing keeps its default. -/
def Settings.ofJson : Json → Except String Settings :=
  decodeRecord "Settings"
    [.of "ansible" ToolSettings.ofJson fun s v => { s with tool := v },
     .of "python" InterpreterSettings.ofJson fun s v => { s with interpreter := v },
     .of "executionEnvironment" EnvironmentSettings.ofJson fun s v => { s with environment := v },
     .of "completion" CompletionSettings.ofJson fun s v => { s with completion := v },
     .of "validation" ValidationSettings.ofJson fun s v => { s with validation := v }] {}

/-! ### Writing -/

/-- Word of an engine. -/
def EngineChoice.word : EngineChoice → String
  | .auto => "auto"
  | .podman => "podman"
  | .docker => "docker"

/-- Word of a pull policy. -/
def PullPolicy.word : PullPolicy → String
  | .always => "always"
  | .missing => "missing"
  | .never => "never"
  | .tag => "tag"

/-- A mount as JSON. -/
def VolumeMount.toJson (m : VolumeMount) : Json :=
  .object [("src", .string m.src), ("dest", .string m.dest), ("options", .string m.options)]

/-- Settings as JSON, with all fields. -/
def Settings.toJson (s : Settings) : Json :=
  .object
    [("ansible", .object
       [("path", .string s.tool.path),
        ("useFullyQualifiedCollectionNames", .bool s.tool.useFullNames)]),
     ("python", .object
       [("interpreterPath", .string s.interpreter.interpreterPath),
        ("activationScript", .string s.interpreter.activationScript)]),
     ("executionEnvironment", .object
       [("enabled", .bool s.environment.enabled),
        ("containerEngine", .string s.environment.engine.word),
        ("image", .string s.environment.image),
        ("pull", .object
          [("policy", .string s.environment.pull.policy.word),
           ("arguments", .string s.environment.pull.arguments)]),
        ("volumeMounts", .array (s.environment.volumeMounts.map VolumeMount.toJson)),
        ("containerOptions", .string s.environment.containerOptions)]),
     ("completion", .object
       [("provideRedirectModules", .bool s.completion.redirectModules),
        ("provideModuleOptionAliases", .bool s.completion.optionAliases)]),
     ("validation", .object
       [("enabled", .bool s.validation.enabled),
        ("lint", .object
          [("enabled", .bool s.validation.lint.enabled),
           ("path", .string s.validation.lint.path),
           ("arguments", .string s.validation.lint.arguments)])])]

end PlaybookServer
