import HookPolicy.Check.Basic
import HookPolicy.Policy.Basic

/-!
# Reading policies from documents

`checkPolicy` reads a document as a policy and reports every defect. A hook without a `kind` is of
the kind whose field it fills, if it fills exactly one.
-/

namespace HookPolicy

def checkAction : Json → Checked Action := checkWord Action.ofWord?

/-- The kind that a definition names, or the only kind whose field is filled. -/
def kindOf? (fields : Fields) : Option String :=
  let kinds := ["action", "handler", "command"]
  match fields.get? "kind" with
  | some (.string k) => if kinds.contains k then some k else only kinds
  | _ => only kinds
where
  only (kinds : List String) : Option String :=
    match kinds.filter fun k => ((fields.get? k).getD .null).isTruthy with
    | [k] => some k
    | _ => none

/-- A named kind must be the kind that was taken. -/
def checkKind (kind : String) : Json → Checked Unit
  | .string s => if s == kind then .good () else .one .notLiteral
  | _ => .one .notLiteral

def checkHookBase (fields : Fields) (kind : String) : Checked (Deed → Hook) :=
  (fun id matcher condition message _ deed => Hook.mk id matcher condition message deed) <$>
    required fields "id" checkText <*>
    defaulting fields "matcher" none (checkOptional checkText) <*>
    defaulting fields "condition" none (checkOptional checkText) <*>
    defaulting fields "message" none (checkOptional checkText) <*>
    defaulting fields "kind" () (checkKind kind)

def checkDeed (fields : Fields) (kind : String) : Checked Deed :=
  if kind == "action" then Deed.action <$> required fields "action" checkAction
  else if kind == "handler" then Deed.handler <$> required fields "handler" checkText
  else
    Deed.command <$> required fields "command" checkText <*>
      defaulting fields "on_failure" .warn checkAction <*>
      defaulting fields "silent" false checkBool

def checkHook : Json → Checked Hook
  | .object fields =>
    match kindOf? fields with
    | some kind => (checkHookBase fields kind <*> checkDeed fields kind).under (.key kind)
    | none => .one .unclearKind
  | _ => .one .unclearKind

/-- An empty time limit stands for the default one. -/
def checkTimeout (v : Json) : Checked Nat :=
  if v.isTruthy then
    match checkInt v with
    | .good n => if n > 0 then .good n.toNat else .one .notPositive
    | .bad ds => .bad ds
  else .good defaultTimeout

def checkSettings : Json → Checked Settings
  | .object fields =>
    Settings.mk <$> defaulting fields "enabled" false checkBool <*>
      defaulting fields "timeout_ms" defaultTimeout checkTimeout <*>
      defaulting fields "parallel_hooks" false checkBool <*>
      defaulting fields "fail_on_error" false checkBool
  | _ => .one .notRecord

def nullAsEmpty : Json → Json
  | .null => .object []
  | v => v

def checkHooks : Json → Checked (List (String × List Hook))
  | .object fields => checkFields (checkList checkHook) fields
  | _ => .one .notObject

def checkPolicy : Json → Checked Policy
  | .object fields =>
    Policy.mk <$> defaulting fields "settings" {} (checkSettings ∘ nullAsEmpty) <*>
      defaulting fields "hooks" [] (checkHooks ∘ nullAsEmpty)
  | _ => .one .notRecord

def checkVerdict : Json → Checked Verdict
  | .object fields =>
    Verdict.mk <$> required fields "id" checkText <*>
      defaulting fields "matched" false checkBool <*>
      defaulting fields "executed" false checkBool <*>
      defaulting fields "action" .allow checkAction <*>
      defaulting fields "message" none (checkOptional checkText) <*>
      defaulting fields "error" none (checkOptional checkText) <*>
      defaulting fields "output" .null .good
  | _ => .one .notRecord

def checkNotice : Json → Checked Notice
  | .object fields =>
    Notice.mk <$> required fields "type" checkText <*>
      defaulting fields "id" none (checkOptional checkText) <*>
      defaulting fields "message" none (checkOptional checkText)
  | _ => .one .notRecord

/-- A report without a timestamp gets the given one. -/
def checkReport (now : Timestamp) : Json → Checked Report
  | .object fields =>
    Report.mk <$> required fields "event" checkText <*>
      defaulting fields "timestamp" now checkTime <*>
      defaulting fields "blocked" false checkBool <*>
      defaulting fields "confirm" false checkBool <*>
      defaulting fields "warnings" [] (checkList checkNotice) <*>
      defaulting fields "messages" [] (checkList checkNotice) <*>
      defaulting fields "executed" [] (checkList checkVerdict)
  | _ => .one .notRecord

end HookPolicy
