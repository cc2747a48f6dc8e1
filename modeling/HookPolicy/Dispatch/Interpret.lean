import HookPolicy.Dispatch.Basic

/-!
# What a handler says

A handler that ends well may declare an action in the document that it prints. A handler that does
not is a warning, whatever it prints.
-/

namespace HookPolicy

/-- What a handler says: an action, a message, what it printed, and an action it declared in vain. -/
structure Reading where
  action : Action
  message : Option String
  output : Json
  unknown : Option Json := none

def shownText (v : Json) : Option String := if v.isTruthy then some v.display else none

/-- The message of a printed document: the first of the list of its result, or its own. -/
def messageOf (document : Json) : Option String :=
  let listed := match ((document.field "result").field "messages").items? with
    | some (.object first :: _) => shownText (Json.field (.object first) "message")
    | _ => none
  listed.or (shownText (document.field "message"))

/-- The action that a printed document declares; anything else that it declares is a warning. -/
def declaredAction (document : Json) : Action × Option Json :=
  let declared := (document.field "result").field "action"
  if !declared.isTruthy then (.allow, none)
  else match declared.text?.bind Action.ofWord? with
    | some a => (a, none)
    | none => (.warn, some declared)

def nonEmpty? (s : String) : Option String := if s == "" then none else some s

def interpret (o : Outcome) : Except Json.ReadError Reading :=
  match Json.read o.out with
  | .error (.malformed _ _) =>
    let message := (nonEmpty? (Text.trimmed o.err)).or (nonEmpty? (Text.trimmed o.out))
    .ok ⟨if o.isOk then .allow else .warn, message, .string o.out, none⟩
  | .error e => .error e
  | .ok document =>
    let message := messageOf document
    if !o.isOk then .ok ⟨.warn, message, document, none⟩
    else
      let (action, unknown) := declaredAction document
      .ok ⟨action, message, document, unknown⟩

/-- The entries about what was declared in vain. They are logged whoever is silent. -/
def Reading.entries (r : Reading) : List Log.Entry :=
  match r.unknown with
  | some v => [⟨Dispatcher.source, Log.warning,
      "Handler declared unknown action " ++ v.inspect ++ ", treating as warn", none⟩]
  | none => []

end HookPolicy
