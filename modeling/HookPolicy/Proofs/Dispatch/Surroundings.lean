import HookPolicy.Proofs.Dispatch.Starts

/-!
# Hooks in any surroundings

Conditions and programs may answer anything and fail in any way. `Surroundings` leaves both open and
`executeIn` runs the hooks of an event in them; with the conditions that are built in it is the run
of a dispatcher (`executeIn_ofRunner`). What a hook meets in its turn, and nothing else, decides the
verdict on it (`execHookIn_verdict`).
-/

namespace HookPolicy

variable {σ : Type}

/-- What runs programs and answers conditions. A condition is asked in a directory. -/
structure Surroundings (σ : Type) extends Runner σ where
  ask : (condition cwd : String) → World → σ → Logged (Except HookFault Bool) × World × σ

/-- A runner with the conditions that are built in. -/
def Surroundings.ofRunner (r : Runner σ) : Surroundings σ where
  toRunner := r
  ask condition cwd w u :=
    let found := Condition.eval w cwd condition
    ((found.result.mapError .check, found.remarks.map fun r =>
      ⟨Log.moduleName "conditions", Log.debug, r.message, none⟩), w, u)

def Run.ask (e : Surroundings σ) (condition cwd : String) : Run σ (Except HookFault Bool) :=
  modifyGet fun s =>
    let ((answer, entries), world, runner) := e.ask condition cwd s.world s.runner
    (answer, { s with world, runner, entries := s.entries ++ entries })

def Hook.asked? (h : Hook) : Option String := h.condition.bind nonEmpty?

/-- Asks the condition of a hook; without one the hook applies. -/
def Hook.consult (e : Surroundings σ) (c : Context) (h : Hook) : Run σ (Except HookFault Bool) :=
  match h.asked? with
  | none => return .ok true
  | some condition => Run.ask e condition c.cwd

/-- What a hook meets in its turn: the answer to its condition, and what calls come to after it. -/
structure Encounter where
  answer : Except HookFault Bool
  outcome : Call → Except RunFault Outcome

def Surroundings.meets (e : Surroundings σ) (c : Context) (h : Hook) (s : Session σ) :
    Encounter where
  answer := (h.consult e c s).1
  outcome call := (e.start call (h.consult e c s).2.world (h.consult e c s).2.runner).1

namespace Dispatcher

def execHookIn (e : Surroundings σ) (d : Dispatcher) (c : Context) (h : Hook) : Run σ Verdict := do
  let (applies, notes) := h.matches c
  Run.log notes
  if !applies then return .unmatched h.id
  match ← h.consult e c with
  | .ok true => d.follow e.toRunner h (d.planDeed c h)
  | .ok false => return .unmatched h.id
  | .error f =>
    let (v, entries) := d.failure h f
    Run.log entries
    return v

def executeIn (e : Surroundings σ) (d : Dispatcher) (event : String) (c : Context) : Run σ Report :=
  d.executeWith (d.execHookIn e c) e.arrival event

/-- The verdict on a hook that meets what it is given. -/
def verdictOn (d : Dispatcher) (c : Context) (h : Hook) (m : Encounter) : Verdict :=
  if (h.matches c).1 then
    match m.answer with
    | .ok true =>
      match (d.planDeed c h).1 with
      | .verdict v => v
      | .start call => (d.settle h (m.outcome call)).1
    | .ok false => .unmatched h.id
    | .error f => (d.failure h f).1
  else .unmatched h.id

/-! ## The conditions that are built in -/

theorem consult_ofRunner (r : Runner σ) (c : Context) (h : Hook) (s : Session σ) :
    h.consult (.ofRunner r) c s =
      ((h.permits s.world c).1.mapError .check,
        { s with entries := s.entries ++ (h.permits s.world c).2 }) := by
  unfold Hook.consult Hook.asked? Hook.permits
  cases h.condition with
  | none =>
    simp only [Option.bind_none, List.append_nil]
    rfl
  | some condition =>
    by_cases hempty : condition = ""
    · simp only [hempty, Option.bind_some, nonEmpty?, beq_self_eq_true, if_true, List.append_nil]
      rfl
    · simp only [Option.bind_some, nonEmpty?, beq_iff_eq, hempty, if_false]
      rfl

theorem follow_append (r : Runner σ) (d : Dispatcher) (h : Hook) (p : Plan)
    (before entries : List Log.Entry) (s : Session σ) :
    d.follow r h (p, before ++ entries) s =
      d.follow r h (p, entries) { s with entries := s.entries ++ before } := by
  simp only [follow, Run.bind_run, Run.log_run, List.append_assoc]

theorem execHookIn_ofRunner (r : Runner σ) (d : Dispatcher) (c : Context) (h : Hook) :
    d.execHookIn (.ofRunner r) c h = d.execHook r c h := by
  funext s
  unfold execHookIn execHook plan
  rw [Run.bind_run, Run.get_run]
  cases h.matches c with
  | mk applies notes =>
    cases applies with
    | false => rfl
    | true =>
      simp only [Run.log_run, Bool.not_true, Bool.false_eq_true, if_false, Run.bind_run,
        consult_ofRunner]
      cases h.permits s.world c with
      | mk result more =>
        cases result with
        | error f =>
          simp only [Except.mapError, Run.bind_run, Run.log_run, Run.pure_run, List.append_assoc,
            follow]
        | ok b =>
          cases b with
          | false =>
            simp only [Except.mapError, Run.bind_run, Run.log_run, Run.pure_run, follow,
              List.append_assoc]
          | true =>
            simp only [Except.mapError]
            rw [follow_append, List.append_assoc]
            rfl

theorem executeIn_ofRunner (r : Runner σ) (d : Dispatcher) (event : String) (c : Context) :
    d.executeIn (.ofRunner r) event c = d.execute r event c := by
  rw [executeIn, execute, show d.execHookIn (.ofRunner r) c = d.execHook r c from
    funext fun h => execHookIn_ofRunner r d c h]
  rfl

/-! ## One turn -/

variable (e : Surroundings σ) (d : Dispatcher) (c : Context) (s : Session σ)

/-- What has been logged is no part of what a hook meets. -/
theorem meets_entries (h : Hook) (entries : List Log.Entry) :
    e.meets c h { s with entries } = e.meets c h s := by
  unfold Surroundings.meets Hook.consult
  cases h.asked? with
  | none => rfl
  | some condition => rfl

theorem execHookIn_verdict (h : Hook) :
    (d.execHookIn e c h s).1 = d.verdictOn c h (e.meets c h s) := by
  unfold execHookIn verdictOn
  cases h.matches c with
  | mk applies notes =>
    cases applies with
    | false => rfl
    | true =>
      rw [← meets_entries e c s h (s.entries ++ notes)]
      simp only [Run.bind_run, Run.log_run, Bool.not_true, Bool.false_eq_true, if_false, if_true,
        Surroundings.meets]
      cases (h.consult e c { s with entries := s.entries ++ notes }).1 with
      | error f => rfl
      | ok b =>
        cases b with
        | false => rfl
        | true => exact follow_verdict e.toRunner d _ h (d.planDeed c h)

end Dispatcher

end HookPolicy
