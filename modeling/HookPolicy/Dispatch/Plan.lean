import HookPolicy.Condition.Eval
import HookPolicy.Dispatch.Interpret
import HookPolicy.Rule.Eval
import HookPolicy.Shell.Safety

/-!
# What one hook does

`plan` decides from the world and the context whether a hook applies and what it needs: it either
settles the verdict at once or asks for one call. `settle` turns what came of the call into the
verdict.
-/

namespace HookPolicy

inductive Plan
  | verdict (v : Verdict)
  | start (call : Call)

/-- A result and the log entries that came with it. -/
abbrev Logged (α : Type) := α × List Log.Entry

/-- Whether the matcher of a hook holds. A broken matcher does not. -/
def Hook.matches (h : Hook) (c : Context) : Logged Bool :=
  match h.matcher with
  | none => (true, [])
  | some rule =>
    if rule == "" then (true, [])
    else match Rule.outcome rule c.wire with
      | .ok b => (b, [])
      | .error e =>
        (false, [⟨Log.moduleName "matcher", Log.debug,
          "Matcher error for " ++ Text.quote rule ++ ": " ++ e.message, none⟩])

/-- Whether the condition of a hook holds in the directory of the context. -/
def Hook.permits (h : Hook) (w : World) (c : Context) :
    Logged (Except Condition.CheckFault Bool) :=
  match h.condition with
  | none => (.ok true, [])
  | some condition =>
    if condition == "" then (.ok true, [])
    else
      let found := Condition.eval w c.cwd condition
      (found.result, found.remarks.map fun r =>
        ⟨Log.moduleName "conditions", Log.debug, r.message, none⟩)

/-- The values that command templates may name. -/
def commandValues (c : Context) (key : List Char) : Option (List Char) :=
  let text? := match String.ofList key with
    | "path" => some c.path
    | "tool" => some c.tool
    | "command" => some c.command
    | _ => none
  text?.map fun s => Shell.quoteChars (s.getD "").toList

def unsafeText (errors : List String) : String :=
  "Unsafe command template: " ++ ", ".intercalate errors

namespace Dispatcher

/-- The verdict on a hook that failed. -/
def failure (d : Dispatcher) (h : Hook) (f : HookFault) : Logged Verdict :=
  let action := if d.policy.settings.failOnError then Action.block else .warn
  (.failed h.id action f.message,
    d.note Log.error ("Hook " ++ h.id ++ " failed: " ++ f.inspect))

def planHandler (d : Dispatcher) (c : Context) (h : Hook) : Plan :=
  match d.handlers.lookup h.id with
  | some program => .start (.handler program c.exported d.policy.settings.timeout)
  | none => .verdict (.completed h.id .warn (some ("Handler not found: " ++ h.id)) .null)

def planCommand (d : Dispatcher) (c : Context) (h : Hook) (template : String)
    (onFailure : Action) : Logged Plan :=
  let s := Shell.substitute template (commandValues c)
  match s.errors, s.command with
  | [], some line =>
    (.start (.command line d.policy.settings.timeout),
      (Shell.warnings line).flatMap fun text =>
        d.note Log.warning ("Hook " ++ h.id ++ ": " ++ text))
  | errors, _ =>
    let reason := unsafeText errors
    (.verdict (.refused h.id onFailure reason),
      d.note Log.warning ("Refusing to run hook " ++ h.id ++ ": " ++ reason))

/-- What a hook that applies does. -/
def planDeed (d : Dispatcher) (c : Context) (h : Hook) : Logged Plan :=
  match h.deed with
  | .action a => (.verdict (.completed h.id a h.message .null), [])
  | .handler _ => (d.planHandler c h, [])
  | .command template onFailure _ => d.planCommand c h template onFailure

/-- The condition is asked only once the matcher holds. -/
def plan (d : Dispatcher) (w : World) (c : Context) (h : Hook) : Logged Plan :=
  match h.matches c with
  | (false, notes) => (.verdict (.unmatched h.id), notes)
  | (true, notes) =>
    match h.permits w c with
    | (.error f, more) =>
      let (v, entries) := d.failure h (.check f)
      (.verdict v, notes ++ more ++ entries)
    | (.ok false, more) => (.verdict (.unmatched h.id), notes ++ more)
    | (.ok true, more) =>
      let (p, entries) := d.planDeed c h
      (p, notes ++ more ++ entries)

/-- The verdict on a handler that was run. -/
def settleHandler (d : Dispatcher) (h : Hook) : Except RunFault Outcome → Logged Verdict
  | .error (.timeout message output) =>
    (.completed h.id .warn (some message) (.ofOption (nonEmpty? output)), [])
  | .error (.notStarted message) =>
    (.completed h.id .warn (some ("Handler error: " ++ message)) .null, [])
  | .error (.unexpected label message) => d.failure h (.run label message)
  | .ok o =>
    match interpret o with
    | .ok r => (.completed h.id r.action r.message r.output, r.entries)
    | .error e => d.failure h (.output e)

/-- The verdict on a command that was run. -/
def settleCommand (d : Dispatcher) (h : Hook) (onFailure : Action) (silent : Bool) :
    Except RunFault Outcome → Logged Verdict
  | .error (.timeout message _) => (.completed h.id onFailure (some message) .null, [])
  | .error (.notStarted message) => (.completed h.id onFailure (some message) .null, [])
  | .error (.unexpected label message) => d.failure h (.run label message)
  | .ok o =>
    if o.isOk then
      let message := if silent then none else some ("Executed: " ++ h.id)
      (.completed h.id .allow message (.string (Text.trimmed o.out)), [])
    else
      let status := "Command exited with status " ++ String.ofList (Decimal.intChars o.code)
      let message := (nonEmpty? (Text.trimmed o.err)).getD status
      (.completed h.id onFailure (some message)
        (.ofOption ((nonEmpty? o.out).or (nonEmpty? o.err))), [])

def settle (d : Dispatcher) (h : Hook) (result : Except RunFault Outcome) : Logged Verdict :=
  match h.deed with
  | .command _ onFailure silent => d.settleCommand h onFailure silent result
  | _ => d.settleHandler h result

end Dispatcher

end HookPolicy
