import HookPolicy.Context.Gather
import HookPolicy.Dispatch.Build
import HookPolicy.Dispatch.Plan

/-!
# Running the hooks of an event

Hooks are run one after the other up to the first that blocks, or all of them side by side. Either
way the report folds their verdicts in the order of the policy.
-/

namespace HookPolicy

/-- What runs programs. It keeps a state of its own and may change the world. `arrival` says in what
order hooks that run side by side come to their end. -/
structure Runner (σ : Type) where
  start : Call → World → σ → Except RunFault Outcome × World × σ
  arrival : Nat → List Nat := List.range

/-- What running hooks changes. -/
structure Session (σ : Type) where
  world : World
  runner : σ
  calls : List Call := []
  entries : List Log.Entry := []

abbrev Run (σ : Type) := StateM (Session σ)

namespace Run

def log {σ : Type} (entries : List Log.Entry) : Run σ Unit :=
  modify fun s => { s with entries := s.entries ++ entries }

/-- Runs a program and remembers the call. -/
def start {σ : Type} (r : Runner σ) (call : Call) : Run σ (Except RunFault Outcome) := do
  let s ← get
  let (result, world, runner) := r.start call s.world s.runner
  set { s with world, runner, calls := s.calls ++ [call] }
  return result

/-- Runs hooks in order, up to the first that blocks. -/
def untilBlocked {m : Type → Type} [Monad m] (exec : Hook → m Verdict) :
    List Hook → m (List (Hook × Verdict))
  | [] => pure []
  | h :: rest => do
    let v ← exec h
    if v.blocks then return [(h, v)]
    let more ← untilBlocked exec rest
    return (h, v) :: more

/-- Runs hooks in the order in which they come to their end. -/
def inArrival {m : Type → Type} [Monad m] (exec : Hook → m Verdict) (hooks : List Hook) :
    List Nat → m (List (Nat × Verdict))
  | [] => pure []
  | i :: rest =>
    match hooks[i]? with
    | none => inArrival exec hooks rest
    | some h => do
      let v ← exec h
      let more ← inArrival exec hooks rest
      return (i, v) :: more

/-- Puts verdicts in the order of their hooks. -/
def arrange (hooks : List Hook) (done : List (Nat × Verdict)) : List (Hook × Verdict) :=
  hooks.zipIdx.filterMap fun (h, i) => (done.lookup i).map fun v => (h, v)

/-- Runs all hooks side by side. -/
def all {m : Type → Type} [Monad m] (exec : Hook → m Verdict) (arrival : Nat → List Nat)
    (hooks : List Hook) : m (List (Hook × Verdict)) := do
  let done ← inArrival exec hooks (arrival hooks.length)
  return arrange hooks done

end Run

namespace Report

/-- What the host is told about a verdict: its own message or that of the hook. -/
def noticeText (h : Hook) (v : Verdict) : Option String := (v.message.bind nonEmpty?).or h.message

def notice (h : Hook) (v : Verdict) : Notice := ⟨v.action.word, some h.id, noticeText h v⟩

/-- Takes a verdict into the report. -/
def add (r : Report) (h : Hook) (v : Verdict) : Report :=
  let r := { r with executed := r.executed ++ [v] }
  if !v.matched then r
  else match v.action with
    | .block => { r with blocked := true, messages := r.messages ++ [notice h v] }
    | .confirm => { r with confirm := true, messages := r.messages ++ [notice h v] }
    | .warn => { r with warnings := r.warnings ++ [notice h v] }
    | .allow => r

def addAll (r : Report) (results : List (Hook × Verdict)) : Report :=
  results.foldl (fun r (h, v) => r.add h v) r

end Report

namespace Dispatcher

variable {σ : Type}

/-- Gives the verdict of a plan, after the call that it may ask for. -/
def follow (r : Runner σ) (d : Dispatcher) (h : Hook) (p : Logged Plan) : Run σ Verdict := do
  Run.log p.2
  match p.1 with
  | .verdict v => return v
  | .start call =>
    let result ← Run.start r call
    let (v, entries) := d.settle h result
    Run.log entries
    return v

def execHook (r : Runner σ) (d : Dispatcher) (c : Context) (h : Hook) : Run σ Verdict := do
  let s ← get
  d.follow r h (d.plan s.world c h)

def shownFlag (b : Bool) : String := if b then "True" else "False"

def summary (r : Report) : String :=
  r.event ++ ": " ++ Decimal.natText r.executed.length ++ " hooks evaluated, blocked=" ++
    shownFlag r.blocked ++ " confirm=" ++ shownFlag r.confirm

def disabledNotice : Notice := ⟨"info", none, some "Hooks disabled"⟩

/-- Runs the hooks of an event, each of them by `exec`. -/
def executeWith (exec : Hook → Run σ Verdict) (arrival : Nat → List Nat) (d : Dispatcher)
    (event : String) : Run σ Report := do
  let s ← get
  let empty : Report := { event := event, timestamp := s.world.now }
  let hooks := d.policy.hooksFor event
  if !d.isEnabled then return { empty with messages := [disabledNotice] }
  if hooks.isEmpty then return empty
  let results ←
    if d.policy.settings.parallel then Run.all exec arrival hooks
    else Run.untilBlocked exec hooks
  let report := empty.addAll results
  Run.log (d.note Log.debug (summary report))
  return report

/-- Runs the hooks of an event. -/
def execute (r : Runner σ) (d : Dispatcher) (event : String) (c : Context) : Run σ Report :=
  d.executeWith (d.execHook r c) r.arrival event

end Dispatcher

/-- Gathers a context and tells what happened on the way. -/
def gatherContext (o : Context.Origin) (w : World) : Logged (Except Context.Refusal Context) :=
  (Context.gather w.setting o, (Context.remarks o).map fun r =>
    ⟨Log.moduleName "context", Log.debug, r.message, none⟩)

/-- Why there is no report. -/
inductive EventError
  | build (e : BuildError)
  | refusal (e : Context.Refusal)

/-- Builds a dispatcher and runs the hooks of an event. The context is asked for in between. -/
def executeEvent {σ : Type} (r : Runner σ) (request : DispatchRequest) (event : String)
    (context : World → Logged (Except Context.Refusal Context)) :
    Run σ (Except EventError Report) := do
  let s ← get
  let (built, entries) := Dispatcher.build s.world request
  Run.log entries
  match built with
  | .error e => return .error (.build e)
  | .ok d =>
    let (gathered, entries) := context s.world
    Run.log entries
    match gathered with
    | .error e => return .error (.refusal e)
    | .ok c =>
      let report ← d.execute r event c
      return .ok report

end HookPolicy
