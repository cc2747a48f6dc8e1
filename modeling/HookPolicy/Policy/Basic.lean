import HookPolicy.Json.Basic
import HookPolicy.Time.Timestamp

/-!
# Policies

A policy lists hooks for each event. A hook states an action, names a handler program, or gives a
command template. Running the hooks of an event yields a verdict for each and a report on all.
-/

namespace HookPolicy

inductive Action
  | allow
  | block
  | confirm
  | warn
  deriving DecidableEq, Repr

namespace Action

def word : Action → String
  | .allow => "allow"
  | .block => "block"
  | .confirm => "confirm"
  | .warn => "warn"

def ofWord? (s : String) : Option Action :=
  [Action.allow, .block, .confirm, .warn].find? (·.word == s)

end Action

/-- What a hook does once it applies. -/
inductive Deed
  | action (a : Action)
  | handler (file : String)
  | command (template : String) (onFailure : Action) (silent : Bool)
  deriving DecidableEq, Repr

structure Hook where
  id : String
  matcher : Option String
  condition : Option String
  message : Option String
  deed : Deed
  deriving DecidableEq, Repr

/-- The default time limit, in milliseconds. -/
def defaultTimeout : Nat := 30000

structure Settings where
  enabled : Bool := false
  timeout : Nat := defaultTimeout
  parallel : Bool := false
  failOnError : Bool := false
  deriving DecidableEq, Repr

structure Policy where
  settings : Settings
  hooks : List (String × List Hook)
  deriving DecidableEq, Repr

namespace Policy

/-- The policy without hooks under which nothing is run. -/
def disabled : Policy := ⟨{}, []⟩

def hooksFor (p : Policy) (event : String) : List Hook := (p.hooks.lookup event).getD []

/-- Every hook with its event, in the order of the policy. -/
def allHooks (p : Policy) : List (String × Hook) :=
  p.hooks.flatMap fun (event, hooks) => hooks.map fun hook => (event, hook)

end Policy

/-- Events that have a name of their own. Hosts may raise others. -/
def knownEvents : List String :=
  ["PreToolUse", "PostToolUse", "SessionStart", "SessionEnd", "PreCompact", "Stop"]

def preToolUse : String := "PreToolUse"

/-- What became of one hook. -/
structure Verdict where
  id : String
  matched : Bool := false
  executed : Bool := false
  action : Action := .allow
  message : Option String := none
  error : Option String := none
  output : Json := .null
  deriving BEq

/-- A line for the host. -/
structure Notice where
  kind : String
  id : Option String
  message : Option String
  deriving DecidableEq, Repr

/-- What became of all hooks of an event. -/
structure Report where
  event : String
  timestamp : Timestamp
  blocked : Bool := false
  confirm : Bool := false
  warnings : List Notice := []
  messages : List Notice := []
  executed : List Verdict := []
  deriving BEq

end HookPolicy
