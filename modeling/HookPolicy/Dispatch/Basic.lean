import HookPolicy.Condition.Manifest
import HookPolicy.Log.Entry
import HookPolicy.Policy.Basic

/-!
# Dispatching hooks: the parties

A dispatcher holds a policy and the places of its handlers. A call is what it asks to be run; an
outcome is how a program that was run came to its end.
-/

namespace HookPolicy

/-- How a program ended. Its texts are what it printed. -/
structure Outcome where
  code : Int := 0
  out : String := ""
  err : String := ""
  deriving DecidableEq, Repr

def Outcome.isOk (o : Outcome) : Bool := o.code == 0

/-- A program to be run, with its time limit in milliseconds. -/
inductive Call
  | command (line : String) (limit : Nat)
  | handler (program : Path) (env : Env) (limit : Nat)
  deriving DecidableEq, Repr

/-- Why a call has no outcome. -/
inductive RunFault
  | timeout (message output : String)
  | notStarted (message : String)
  | unexpected (label message : String)
  deriving DecidableEq, Repr

/-- A failure that nobody expects of a hook. -/
inductive HookFault
  | check (f : Condition.CheckFault)
  | output (e : Json.ReadError)
  | run (label message : String)
  deriving DecidableEq, Repr

namespace HookFault

def message : HookFault → String
  | .check f => f.message
  | .output e => e.message []
  | .run _ message => message

/-- The failure with its class, as log lines show it. -/
def inspect : HookFault → String
  | .check f => f.inspect
  | .output e => (Condition.CheckFault.document e).inspect
  | .run label message => label ++ "(" ++ Text.quote message ++ ")"

end HookFault

structure Dispatcher where
  policyFile : Path
  handlersDir : Path
  /-- A silent dispatcher logs nothing below errors. -/
  silent : Bool
  policy : Policy
  /-- The programs of handlers by the ids of their hooks. -/
  handlers : List (String × Path)

namespace Dispatcher

def source : String := Log.moduleName "bridge"

def isEnabled (d : Dispatcher) : Bool := d.policy.settings.enabled

end Dispatcher

/-- The entry of a dispatcher that may be silent. -/
def dispatchEntries (silent : Bool) (level : Log.Level) (message : String) : List Log.Entry :=
  if silent && level < Log.error then [] else [⟨Dispatcher.source, level, message, none⟩]

def Dispatcher.note (d : Dispatcher) (level : Log.Level) (message : String) : List Log.Entry :=
  dispatchEntries d.silent level message

namespace Verdict

/-- A hook that does not apply. -/
def unmatched (id : String) : Verdict := { id := id }

/-- A hook that came to its end. -/
def completed (id : String) (action : Action) (message : Option String) (output : Json) :
    Verdict :=
  { id, matched := true, executed := true, action, message, output }

/-- A hook that was not run because it is not safe. -/
def refused (id : String) (action : Action) (reason : String) : Verdict :=
  { id, matched := true, action, message := some reason, error := some reason }

/-- A hook that failed. -/
def failed (id : String) (action : Action) (reason : String) : Verdict :=
  { id, matched := true, action, message := some ("Hook error: " ++ reason), error := some reason }

def blocks (v : Verdict) : Bool := v.matched && v.action == .block

def confirms (v : Verdict) : Bool := v.matched && v.action == .confirm

def warns (v : Verdict) : Bool := v.matched && v.action == .warn

end Verdict

end HookPolicy
