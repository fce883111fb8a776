/-
Module: PlaybookServer.Playbook.Keywords
Purpose: The keywords of playbooks, by the kind of mapping they may stand in, in the order in which they
  are offered.
Main exports: playKeywords, roleKeywords, blockKeywords, taskKeywords, taskListKeys, isTaskKeyword
-/
import PlaybookServer.Text.Lines

namespace PlaybookServer.Playbook

/-- Keywords of a play. -/
def playKeywords : List String :=
  ["any_errors_fatal", "become", "become_exe", "become_flags", "become_method", "become_user",
   "check_mode", "collections", "connection", "debugger", "diff", "environment", "fact_path",
   "force_handlers", "gather_facts", "gather_subset", "gather_timeout", "handlers", "hosts",
   "ignore_errors", "ignore_unreachable", "max_fail_percentage", "module_defaults", "name",
   "no_log", "order", "port", "post_tasks", "pre_tasks", "remote_user", "roles", "run_once",
   "serial", "strategy", "tags", "tasks", "throttle", "timeout", "vars", "vars_files",
   "vars_prompt"]

/-- Keywords of an entry of a role list. -/
def roleKeywords : List String :=
  ["any_errors_fatal", "become", "become_exe", "become_flags", "become_method", "become_user",
   "check_mode", "collections", "connection", "debugger", "delegate_facts", "delegate_to",
   "diff", "environment", "ignore_errors", "ignore_unreachable", "module_defaults", "name",
   "no_log", "port", "remote_user", "run_once", "tags", "throttle", "timeout", "vars", "when"]

/-- Keywords of a block. -/
def blockKeywords : List String :=
  ["always", "any_errors_fatal", "become", "become_exe", "become_flags", "become_method",
   "become_user", "block", "check_mode", "collections", "connection", "debugger",
   "delegate_facts", "delegate_to", "diff", "environment", "ignore_errors", "ignore_unreachable",
   "module_defaults", "name", "no_log", "notify", "port", "remote_user", "rescue", "run_once",
   "tags", "throttle", "timeout", "vars", "when"]

/-- Keywords of a task. -/
def taskKeywords : List String :=
  ["action", "any_errors_fatal", "args", "async", "become", "become_exe", "become_flags",
   "become_method", "become_user", "changed_when", "check_mode", "collections", "connection",
   "debugger", "delay", "delegate_facts", "delegate_to", "diff", "environment", "failed_when",
   "ignore_errors", "ignore_unreachable", "local_action", "loop", "loop_control",
   "module_defaults", "name", "no_log", "notify", "poll", "port", "register", "remote_user",
   "retries", "run_once", "tags", "throttle", "timeout", "until", "vars", "when", "listen"]

/-- Keys that open a list of tasks. -/
def taskListKeys : List String :=
  ["tasks", "pre_tasks", "post_tasks", "block", "rescue", "always", "handlers"]

/-- Play keywords that appear in no other kind of mapping. -/
def playExclusiveKeywords : List String :=
  playKeywords.filter fun k => !taskKeywords.elem k && !roleKeywords.elem k && !blockKeywords.elem k

/-- Play keywords that are no task keywords. -/
def playWithoutTaskKeywords : List String := playKeywords.filter fun k => !taskKeywords.elem k

/-- Whether a key of a task is a keyword; every loop `with_...` is one. -/
def isTaskKeyword (key : String) : Bool := taskKeywords.elem key || Text.hasStem key "with_"

end PlaybookServer.Playbook
