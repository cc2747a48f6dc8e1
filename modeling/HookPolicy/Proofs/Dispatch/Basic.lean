import HookPolicy.Dispatch.Run

/-!
# Runs of hooks, step by step

A run takes a session to a result and a new session. The lemmas here say what each way of running a
list of hooks does with the session, so that later proofs need not open the monad.
-/

namespace HookPolicy

variable {σ : Type}

namespace Run

@[simp] theorem pure_run {α : Type} (a : α) (s : Session σ) : (pure a : Run σ α) s = (a, s) := rfl

@[simp] theorem bind_run {α β : Type} (x : Run σ α) (f : α → Run σ β) (s : Session σ) :
    (x >>= f) s = f (x s).1 (x s).2 := rfl

@[simp] theorem get_run (s : Session σ) : (get : Run σ (Session σ)) s = (s, s) := rfl

@[simp] theorem log_run (entries : List Log.Entry) (s : Session σ) :
    log entries s = ((), { s with entries := s.entries ++ entries }) := rfl

variable (exec : Hook → Run σ Verdict)

theorem mapM_cons_run (h : Hook) (hooks : List Hook) (s : Session σ) :
    (h :: hooks).mapM exec s =
      ((exec h s).1 :: (hooks.mapM exec (exec h s).2).1, (hooks.mapM exec (exec h s).2).2) := by
  rw [List.mapM_cons]
  rfl

theorem untilBlocked_cons_run (h : Hook) (hooks : List Hook) (s : Session σ) :
    untilBlocked exec (h :: hooks) s =
      if (exec h s).1.blocks then ([(h, (exec h s).1)], (exec h s).2)
      else ((h, (exec h s).1) :: (untilBlocked exec hooks (exec h s).2).1,
        (untilBlocked exec hooks (exec h s).2).2) := by
  simp only [untilBlocked, bind_run]
  split <;> rfl

/-- The verdicts of all hooks, run one after the other without a stop. -/
def verdicts (hooks : List Hook) (s : Session σ) : List Verdict := (hooks.mapM exec s).1

/-- How many hooks are run until one blocks, that one included. -/
def span (hooks : List Hook) (s : Session σ) : Nat :=
  (verdicts exec hooks s).findIdx Verdict.blocks + 1

@[simp] theorem verdicts_nil (s : Session σ) : verdicts exec [] s = [] := rfl

@[simp] theorem verdicts_cons (h : Hook) (hooks : List Hook) (s : Session σ) :
    verdicts exec (h :: hooks) s = (exec h s).1 :: verdicts exec hooks (exec h s).2 := by
  simp only [verdicts, mapM_cons_run]

theorem verdicts_length (hooks : List Hook) (s : Session σ) :
    (verdicts exec hooks s).length = hooks.length := by
  induction hooks generalizing s with
  | nil => rfl
  | cons h hooks ih => rw [verdicts_cons, List.length_cons, List.length_cons, ih]

/-- A run that stops at the first block is the run of a prefix of the hooks. -/
theorem untilBlocked_run (hooks : List Hook) (s : Session σ) :
    untilBlocked exec hooks s =
      ((hooks.zip (verdicts exec hooks s)).take (span exec hooks s),
        ((hooks.take (span exec hooks s)).mapM exec s).2) := by
  induction hooks generalizing s with
  | nil => rfl
  | cons h hooks ih =>
    rw [untilBlocked_cons_run, ih]
    cases hb : (exec h s).1.blocks with
    | true =>
      have hspan : span exec (h :: hooks) s = 1 := by
        simp [span, List.findIdx_cons, hb]
      rw [hspan, verdicts_cons]
      rfl
    | false =>
      have hspan : span exec (h :: hooks) s = span exec hooks (exec h s).2 + 1 := by
        simp [span, List.findIdx_cons, hb]
      rw [hspan, verdicts_cons, List.zip_cons_cons, List.take_succ_cons, List.take_succ_cons,
        mapM_cons_run]
      rfl

end Run

namespace Dispatcher

variable (r : Runner σ) (d : Dispatcher) (event : String) (c : Context) (s : Session σ)

/-- A hook is settled by its plan, or by what comes of the call that its plan asks for. -/
theorem follow_verdict (h : Hook) (p : Logged Plan) :
    (d.follow r h p s).1 =
      match p.1 with
      | .verdict v => v
      | .start call => (d.settle h (r.start call s.world s.runner).1).1 := by
  unfold follow
  simp only [Run.bind_run, Run.log_run]
  cases p.1 with
  | verdict v => rfl
  | start call => rfl

theorem execHook_verdict (h : Hook) :
    (d.execHook r c h s).1 =
      match (d.plan s.world c h).1 with
      | .verdict v => v
      | .start call => (d.settle h (r.start call s.world s.runner).1).1 :=
  follow_verdict r d s h (d.plan s.world c h)

/-- The report on an event before any verdict is taken in. -/
def blank : Report := { event := event, timestamp := s.world.now }

/-- The report of a policy under which nothing is run. -/
def turnedOff : Report := { blank event s with messages := [disabledNotice] }

section

variable (exec : Hook → Run σ Verdict) (arrival : Nat → List Nat)

/-- The verdicts that a report is folded from where `exec` runs the hooks, each with its hook. -/
def resultsWith : List (Hook × Verdict) :=
  if d.policy.settings.parallel then (Run.all exec arrival (d.policy.hooksFor event) s).1
  else (Run.untilBlocked exec (d.policy.hooksFor event) s).1

theorem executeWith_disabled (hoff : d.isEnabled = false) :
    d.executeWith exec arrival event s = (turnedOff event s, s) := by
  simp only [executeWith, hoff]
  rfl

theorem resultsWith_of_no_hooks (hnone : d.policy.hooksFor event = []) :
    resultsWith d event s exec arrival = [] := by
  unfold resultsWith
  rw [hnone]
  split <;> rfl

theorem executeWith_enabled (hon : d.isEnabled = true) :
    (d.executeWith exec arrival event s).1 =
      (blank event s).addAll (resultsWith d event s exec arrival) := by
  cases hhooks : d.policy.hooksFor event with
  | nil =>
    rw [resultsWith_of_no_hooks d event s exec arrival hhooks]
    simp only [executeWith, hon, hhooks]
    rfl
  | cons h hooks =>
    cases hp : d.policy.settings.parallel with
    | true => simp only [executeWith, resultsWith, hon, hhooks, hp]; rfl
    | false => simp only [executeWith, resultsWith, hon, hhooks, hp]; rfl

end

/-- The verdicts that a report is folded from, each with its hook. -/
def results : List (Hook × Verdict) :=
  if d.policy.settings.parallel then
    (Run.all (d.execHook r c) r.arrival (d.policy.hooksFor event) s).1
  else (Run.untilBlocked (d.execHook r c) (d.policy.hooksFor event) s).1

theorem execute_disabled (hoff : d.isEnabled = false) :
    d.execute r event c s = (turnedOff event s, s) :=
  executeWith_disabled d event s (d.execHook r c) r.arrival hoff

theorem execute_enabled (hon : d.isEnabled = true) :
    (d.execute r event c s).1 = (blank event s).addAll (results r d event c s) :=
  executeWith_enabled d event s (d.execHook r c) r.arrival hon

end Dispatcher

end HookPolicy
