import HookPolicy.Dispatch.Run

/-!
# Replies to the host

What a host hears of a report. Before it uses a tool, it is told whether it may. After any other
event it is told only whether it is blocked and what there is to say.
-/

namespace HookPolicy

inductive Permission
  | allow
  | ask
  | deny
  deriving DecidableEq, Repr

def Permission.word : Permission → String
  | .allow => "allow"
  | .ask => "ask"
  | .deny => "deny"

inductive Reply
  | permission (event : String) (p : Permission) (reason : String)
  | notice (blockedFor : Option String) (text : Option String)
  deriving DecidableEq, Repr

namespace Report

/-- What is to be said about a report: messages other than mere information, then warnings. -/
def reasons (r : Report) : List String :=
  (r.messages.filter (·.kind != "info") ++ r.warnings).filterMap fun n =>
    n.message.bind nonEmpty?

def permission (r : Report) : Permission :=
  if r.blocked then .deny else if r.confirm then .ask else .allow

def reasonText (r : Report) (default : String) : String :=
  (nonEmpty? ("; ".intercalate r.reasons)).getD default

def reply (r : Report) (event : String) : Reply :=
  if event == preToolUse then
    .permission event r.permission (r.reasonText ("hookwarden: " ++ r.permission.word))
  else
    .notice (if r.blocked then some (r.reasonText "Blocked by hookwarden") else none)
      (if r.reasons.isEmpty then none else some ("\n".intercalate r.reasons))

end Report

def Reply.dump : Reply → Json
  | .permission event p reason =>
    .object [("hookSpecificOutput", .object [("hookEventName", .string event),
      ("permissionDecision", .string p.word), ("permissionDecisionReason", .string reason)])]
  | .notice blockedFor text =>
    let decision : Fields := match blockedFor with
      | some reason => [("decision", .string "block"), ("reason", .string reason)]
      | none => []
    .object (decision ++ text.toList.map fun t => ("systemMessage", .string t))

end HookPolicy
