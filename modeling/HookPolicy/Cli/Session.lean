import HookPolicy.Cli.Command
import HookPolicy.Dispatch.Run
import HookPolicy.Log.Setup
import HookPolicy.Policy.Lint

/-!
# Carrying out commands

Running the hooks of an event prints the report as a document or tells what is blocked, to be
confirmed, or warned of. Its exit code says whether the operation is blocked. Linting prints what it
found, and its exit code says whether that was anything.
-/

namespace HookPolicy.Cli

/-- What a command leaves behind. -/
structure Printed where
  exit : Nat
  out : String := ""
  err : String := ""
  deriving DecidableEq, Repr

/-- Why a command breaks off. -/
inductive Fault
  | level (e : Log.LevelError)
  | event (e : EventError)
  | lint (e : LoadError)
  | incomplete

def blockedCode : Nat := 2

def invalidCode : Nat := 1

def exitCode (r : Report) : Nat := if r.blocked then blockedCode else 0

def noticeLine (label : String) (n : Notice) : String :=
  label ++ " [" ++ n.id.getD "None" ++ "]: " ++ n.message.getD "" ++ "\n"

def messageLine (n : Notice) : String :=
  if n.kind == Action.block.word then noticeLine "BLOCKED" n
  else if n.kind == Action.confirm.word then noticeLine "CONFIRM" n
  else ""

/-- What a report tells its reader, line by line. -/
def tell (r : Report) : String :=
  String.join (r.messages.map messageLine ++ r.warnings.map (noticeLine "WARNING"))

def documentText (v : Json) : String := Json.writeIndented v ++ "\n"

def printReport (o : RunOptions) (r : Report) : Printed :=
  if o.asDocument then ⟨exitCode r, documentText r.dump, ""⟩ else ⟨exitCode r, "", tell r⟩

def originOf (w : World) (input : Context.Input) (o : RunOptions) : Context.Origin where
  input := if o.readsInput then some input else none
  wait := Context.waitFor w.env o.wait
  env := w.env
  args := o.operation.args
  cwd := none

def runHooks {σ : Type} (r : Runner σ) (verbose : Bool) (input : Context.Input)
    (o : RunOptions) : Run σ (Except Fault Printed) := do
  if o.incomplete then return .error .incomplete
  let s ← get
  let request : DispatchRequest := { policyFile := o.policyFile.getD "", silent := !verbose }
  match ← executeEvent r request o.event (gatherContext (originOf s.world input o)) with
  | .error e => return .error (.event e)
  | .ok report => return .ok (printReport o report)

def lintPolicy (w : World) (policyFile : Option String) : Except Fault Printed :=
  match Policy.lint w (Policy.place w (policyFile.getD "")) with
  | .error e => .error (.lint e)
  | .ok report =>
    .ok ⟨if report.problems.isEmpty then 0 else invalidCode, documentText report.dump, ""⟩

namespace Invocation

def logRequest (i : Invocation) : Log.Request where
  level := if i.verbose then some (.string "DEBUG") else none
  documents := if i.logDocuments then some true else none

/-- Carries out a command. What it logs is printed before what it tells. -/
def carryOut {σ : Type} (r : Runner σ) (input : Context.Input) (i : Invocation) :
    Run σ (Except Fault Printed) := do
  let s ← get
  match ({} : Log.Logger).configure s.world.env i.logRequest with
  | (_, some e) => return .error (.level e)
  | (log, none) =>
    let result ← match i.command with
      | .run o => runHooks r i.verbose input o
      | .validate file => pure (lintPolicy s.world file)
    let after ← get
    return result.map fun p => { p with err := log.emitAll s.world.now after.entries ++ p.err }

end Invocation

end HookPolicy.Cli
