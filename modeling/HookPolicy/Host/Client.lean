import HookPolicy.Host.Reply

/-!
# Clients of the host

A client registers the dispatcher for events and talks to the host. It can be asked only between
entering and leaving.
-/

namespace HookPolicy.Host

/-- The events that a client registers for when none are named. -/
def defaultEvents : List String := [preToolUse, "PostToolUse"]

/-- One event for which the host calls back, for the tools that the matcher admits. -/
structure Registration where
  event : String
  matcher : Option String
  deriving DecidableEq, Repr

/-- One registration for each event, in the order in which the events are first named. -/
def register (events : List String) (matcher : Option String) : List Registration :=
  events.eraseDups.map (⟨·, matcher⟩)

/-- Answers a call of the host. -/
def answer {σ : Type} (r : Runner σ) (d : Dispatcher) (event : String) (payload : Fields) :
    Run σ (Except Context.Refusal Reply) := do
  let s ← get
  match Context.ofPayload s.world.setting Source.stdin.word payload with
  | .error e => return .error e
  | .ok c =>
    let report ← d.execute r event c
    return .ok (report.reply event)

/-- How a client opens its session. What is left open is up to the host. -/
structure Options where
  hooks : List Registration
  allowedTools : List String := []
  model : Option String := none
  settingSources : Option (List String) := none
  deriving DecidableEq, Repr

/-- Options in which empty values count as left open. -/
def options (events allowedTools : List String) (model : Option String)
    (settingSources : Option (List String)) : Options :=
  ⟨register events none, allowedTools, model.bind nonEmpty?, settingSources.filter (!·.isEmpty)⟩

inductive Block
  | text (s : String)
  | thought (s : String)
  deriving DecidableEq, Repr

def Block.text? : Block → Option String
  | .text s => some s
  | .thought _ => none

structure Message where
  fromAssistant : Bool
  blocks : List Block
  deriving DecidableEq, Repr

/-- The texts of the assistant. -/
def texts (messages : List Message) : List String :=
  (messages.filter (·.fromAssistant)).flatMap fun m => m.blocks.filterMap Block.text?

/-- What the host sees of a client. -/
inductive Step
  | enter
  | query (prompt : String)
  | exit
  deriving DecidableEq, Repr

structure Client where
  isOpen : Bool := false
  seen : List Step := []
  deriving DecidableEq, Repr

/-- Why a client cannot be asked. -/
inductive AskFault
  | notOpen
  deriving DecidableEq, Repr

def AskFault.message : AskFault → String
  | .notOpen => "Client not initialized. Use \x27async with\x27 context manager."

namespace Client

def enter (c : Client) : Client := ⟨true, c.seen ++ [.enter]⟩

/-- Leaves the host, if it was entered. -/
def exit (c : Client) : Client := if c.isOpen then ⟨false, c.seen ++ [.exit]⟩ else c

/-- Asks the host and keeps the texts of the assistant. -/
def ask (host : String → List Message) (prompt : String) (c : Client) :
    Except AskFault (List String) × Client :=
  if c.isOpen then (.ok (texts (host prompt)), { c with seen := c.seen ++ [.query prompt] })
  else (.error .notOpen, c)

end Client

end HookPolicy.Host
