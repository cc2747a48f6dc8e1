import HookPolicy.Policy.Basic

/-! The document forms of policies and reports. Numbers that are not finite become null. -/

namespace HookPolicy

mutual

/-- The value with null for every number that is not finite. -/
def Json.finite : Json → Json
  | .float x => if x.isFinite then .float x else .null
  | .array items => .array (finiteItems items)
  | .object fields => .object (finiteFields fields)
  | v => v

def finiteItems : List Json → List Json
  | [] => []
  | v :: rest => v.finite :: finiteItems rest

def finiteFields : List (String × Json) → List (String × Json)
  | [] => []
  | (name, v) :: rest => (name, v.finite) :: finiteFields rest

end

def Deed.kind : Deed → String
  | .action _ => "action"
  | .handler _ => "handler"
  | .command _ _ _ => "command"

def Deed.dumpFields : Deed → Fields
  | .action a => [("kind", .string "action"), ("action", .string a.word)]
  | .handler file => [("kind", .string "handler"), ("handler", .string file)]
  | .command template onFailure silent =>
    [("kind", .string "command"), ("command", .string template),
     ("on_failure", .string onFailure.word), ("silent", .bool silent)]

def Hook.dump (h : Hook) : Json :=
  .object ([("id", .string h.id), ("matcher", .ofOption h.matcher),
    ("condition", .ofOption h.condition), ("message", .ofOption h.message)] ++ h.deed.dumpFields)

def Settings.dump (s : Settings) : Json :=
  .object [("enabled", .bool s.enabled), ("timeout_ms", .int s.timeout),
    ("parallel_hooks", .bool s.parallel), ("fail_on_error", .bool s.failOnError)]

def Policy.dump (p : Policy) : Json :=
  .object [("settings", p.settings.dump),
    ("hooks", .object (p.hooks.map fun (event, hooks) => (event, .array (hooks.map Hook.dump))))]

def Verdict.dump (v : Verdict) : Json :=
  .object [("id", .string v.id), ("matched", .bool v.matched), ("executed", .bool v.executed),
    ("action", .string v.action.word), ("message", .ofOption v.message),
    ("error", .ofOption v.error), ("output", v.output.finite)]

def Notice.dump (n : Notice) : Json :=
  .object [("type", .string n.kind), ("id", .ofOption n.id), ("message", .ofOption n.message)]

def Report.dump (r : Report) : Json :=
  .object [("event", .string r.event), ("timestamp", .string r.timestamp.write),
    ("blocked", .bool r.blocked), ("confirm", .bool r.confirm),
    ("warnings", .array (r.warnings.map Notice.dump)),
    ("messages", .array (r.messages.map Notice.dump)),
    ("executed", .array (r.executed.map Verdict.dump))]

end HookPolicy
