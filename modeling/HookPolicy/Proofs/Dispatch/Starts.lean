import HookPolicy.Proofs.Dispatch.Turns
import Mathlib

/-!
# What a run starts

A call is made only in the turn of a hook that applies, and there is at most one in each turn: the
program of a handler, or the line that a safe template gives. What is left of the world behind a run
is what its calls leave, so nothing is run that is not noted.
-/

namespace HookPolicy

variable {σ : Type}

/-- The matcher and the condition of a hook both hold. -/
def Hook.Applies (h : Hook) (w : World) (c : Context) : Prop :=
  (h.matches c).1 = true ∧ (h.permits w c).1 = .ok true

/-- What a command may name; what is missing is empty. -/
def commandFields (c : Context) : Fields :=
  [("path", .string (c.path.getD "")), ("tool", .string (c.tool.getD "")),
    ("command", .string (c.command.getD ""))]

/-- What a template gives for a context. -/
def commandOf (c : Context) (template : String) : Shell.Substitution :=
  Shell.substitute template (Shell.fieldValues (commandFields c))

theorem commandValues_eq_fieldValues (c : Context) :
    commandValues c = Shell.fieldValues (commandFields c) := by
  funext key
  simp only [commandValues, Shell.fieldValues, commandFields, Fields.get?, List.lookup_cons]
  split
  · rename_i hkey; rw [hkey]; rfl
  · rename_i hkey; rw [hkey]; rfl
  · rename_i hkey; rw [hkey]; rfl
  · rename_i hpath htool hcommand
    rw [beq_false_of_ne hpath, beq_false_of_ne htool, beq_false_of_ne hcommand]
    rfl

/-- What running calls one after the other leaves. -/
def Runner.leave (r : Runner σ) (calls : List Call) (w : World) (u : σ) : World × σ :=
  calls.foldl (fun p call => (r.start call p.1 p.2).2) (w, u)

theorem Runner.leave_append (r : Runner σ) (calls more : List Call) (w : World) (u : σ) :
    r.leave (calls ++ more) w u =
      r.leave more (r.leave calls w u).1 (r.leave calls w u).2 :=
  List.foldl_append

def Plan.calls : Plan → List Call
  | .verdict _ => []
  | .start call => [call]

theorem Plan.eq_start_of_calls {p : Plan} {call : Call} (h : p.calls = [call]) :
    p = .start call := by
  cases p with
  | verdict v => cases h
  | start call' =>
    cases h
    rfl

/-- A session goes over into another by calls and by nothing else. -/
def Session.Extends (r : Runner σ) (s s' : Session σ) (calls : List Call) : Prop :=
  s'.calls = s.calls ++ calls ∧ (s'.world, s'.runner) = r.leave calls s.world s.runner

namespace Session.Extends

variable {r : Runner σ} {s t u : Session σ} {calls more : List Call}

theorem refl (r : Runner σ) (s : Session σ) : Extends r s s [] := ⟨by simp, rfl⟩

theorem trans (h : Extends r s t calls) (h' : Extends r t u more) :
    Extends r s u (calls ++ more) := by
  obtain ⟨hcalls, hworld⟩ := h
  obtain ⟨hcalls', hworld'⟩ := h'
  refine ⟨by rw [hcalls', hcalls, List.append_assoc], ?_⟩
  rw [hworld', Runner.leave_append, ← hworld]

end Session.Extends

namespace Dispatcher

variable (r : Runner σ) (d : Dispatcher) (event : String) (c : Context) (s : Session σ)

/-- A hook makes the calls of its plan. -/
theorem execHook_extends (h : Hook) :
    Session.Extends r s (d.execHook r c h s).2 (d.plan s.world c h).1.calls := by
  unfold execHook follow
  simp only [Run.bind_run, Run.get_run, Run.log_run]
  cases (d.plan s.world c h).1 with
  | verdict v => exact ⟨by simp [Plan.calls], rfl⟩
  | start call => exact ⟨rfl, rfl⟩

theorem turn_started (h : Hook) :
    (Run.turn (d.execHook r c) h s).started = (d.plan s.world c h).1.calls := by
  rw [Turn.started, Run.turn, (execHook_extends r d c s h).1, List.drop_left]

theorem mapM_execHook_extends (hooks : List Hook) :
    Session.Extends r s (hooks.mapM (d.execHook r c) s).2
      ((Run.turns (d.execHook r c) hooks s).flatMap Turn.started) := by
  induction hooks generalizing s with
  | nil => exact .refl r s
  | cons h hooks ih =>
    rw [Run.mapM_cons_run, Run.turns, List.flatMap_cons, turn_started]
    exact (execHook_extends r d c s h).trans (ih _)

/-! ## One turn -/

theorem plan_of_applies {h : Hook} {w : World} (happlies : h.Applies w c) :
    (d.plan w c h).1 = (d.planDeed c h).1 := by
  obtain ⟨hmatches, hpermits⟩ := happlies
  rw [plan]
  split
  · rename_i hfalse
    rw [hfalse] at hmatches
    cases hmatches
  · split
    · rename_i herror
      rw [herror] at hpermits
      cases hpermits
    · rename_i hfalse
      rw [hfalse] at hpermits
      cases hpermits
    · rfl

theorem plan_of_not_applies {h : Hook} {w : World} (hidle : ¬ h.Applies w c) :
    ∃ v, (d.plan w c h).1 = .verdict v ∧ v.executed = false := by
  rw [plan]
  split
  · exact ⟨_, rfl, rfl⟩
  · rename_i hmatches
    split
    · exact ⟨_, rfl, rfl⟩
    · exact ⟨_, rfl, rfl⟩
    · rename_i hpermits
      exact absurd ⟨congrArg Prod.fst hmatches, congrArg Prod.fst hpermits⟩ hidle

theorem planHandler_calls (h : Hook) :
    (d.handlers.lookup h.id = none ∧ (d.planHandler c h).calls = []) ∨
      ∃ program, d.handlers.lookup h.id = some program ∧
        (d.planHandler c h).calls = [.handler program c.exported d.policy.settings.timeout] := by
  unfold planHandler
  cases hlookup : d.handlers.lookup h.id with
  | none => exact .inl ⟨rfl, rfl⟩
  | some program => exact .inr ⟨program, rfl, rfl⟩

theorem planCommand_of_safe (h : Hook) {template : String} (onFailure : Action)
    (hsafe : (commandOf c template).isSafe = true) :
    ∃ line, (commandOf c template).command = some line ∧
      (d.planCommand c h template onFailure).1 =
        .start (.command line d.policy.settings.timeout) := by
  obtain ⟨herrors, hsome⟩ := Bool.and_eq_true_iff.1 hsafe
  obtain ⟨line, hline⟩ := Option.isSome_iff_exists.1 hsome
  refine ⟨line, hline, ?_⟩
  rw [commandOf, ← commandValues_eq_fieldValues] at herrors hline
  simp only [planCommand, List.isEmpty_iff.1 herrors, hline]

theorem planCommand_refused (h : Hook) {template : String} (onFailure : Action)
    (hbad : (commandOf c template).isSafe = false) :
    (d.planCommand c h template onFailure).1 =
      .verdict (.refused h.id onFailure (unsafeText (commandOf c template).errors)) := by
  rw [commandOf, ← commandValues_eq_fieldValues] at hbad ⊢
  unfold planCommand
  dsimp only
  split
  · rename_i herrors hline
    simp [Shell.Substitution.isSafe, herrors, hline] at hbad
  · rfl

theorem planCommand_of_not_safe (h : Hook) {template : String} (onFailure : Action)
    (hbad : (commandOf c template).isSafe = false) :
    ∃ reason, (d.planCommand c h template onFailure).1 =
      .verdict (.refused h.id onFailure reason) :=
  ⟨_, planCommand_refused d c h onFailure hbad⟩

end Dispatcher

/-- What a hook starts in its turn by the rules. -/
structure Turn.Ruled (d : Dispatcher) (c : Context) (t : Turn σ) : Prop where
  idle : ¬ t.hook.Applies t.found.world c → t.started = []
  action : ∀ a, t.hook.deed = .action a → t.started = []
  handler : ∀ file, t.hook.deed = .handler file → t.hook.Applies t.found.world c →
    (d.handlers.lookup t.hook.id = none ∧ t.started = []) ∨
      ∃ program, d.handlers.lookup t.hook.id = some program ∧
        t.started = [.handler program c.exported d.policy.settings.timeout]
  refused : ∀ template onFailure silent, t.hook.deed = .command template onFailure silent →
    (commandOf c template).isSafe = false →
      t.started = [] ∧ t.verdict.executed = false ∧
        (t.hook.Applies t.found.world c → t.verdict.action = onFailure)
  command : ∀ template onFailure silent, t.hook.deed = .command template onFailure silent →
    (commandOf c template).isSafe = true → t.hook.Applies t.found.world c →
      ∃ line, (commandOf c template).command = some line ∧
        t.started = [.command line d.policy.settings.timeout]

namespace Dispatcher

variable (r : Runner σ) (d : Dispatcher) (event : String) (c : Context) (s : Session σ)

theorem turn_of_not_applies {h : Hook} (hidle : ¬ h.Applies s.world c) :
    (Run.turn (d.execHook r c) h s).started = [] ∧
      (Run.turn (d.execHook r c) h s).verdict.executed = false := by
  obtain ⟨v, hplan, hexecuted⟩ := plan_of_not_applies d c hidle
  refine ⟨by rw [turn_started, hplan, Plan.calls], ?_⟩
  rw [Run.turn, execHook_verdict, hplan]
  exact hexecuted

theorem turn_ruled (h : Hook) : (Run.turn (d.execHook r c) h s).Ruled d c := by
  by_cases happlies : h.Applies s.world c
  · have hstarted : (Run.turn (d.execHook r c) h s).started = (d.planDeed c h).1.calls := by
      rw [turn_started, plan_of_applies d c happlies]
    have hverdict := execHook_verdict r d c s h
    rw [plan_of_applies d c happlies] at hverdict
    -- the plan is that of the deed, so there is one case for each kind of deed
    refine ⟨fun hidle => absurd happlies hidle, ?_, ?_, ?_, ?_⟩
    · intro a (hdeed : h.deed = _)
      rw [hstarted, planDeed, hdeed]
      rfl
    · intro file (hdeed : h.deed = _) _
      rw [hstarted, planDeed, hdeed]
      exact planHandler_calls d c h
    · intro template onFailure silent (hdeed : h.deed = _) hbad
      obtain ⟨reason, hplan⟩ := planCommand_of_not_safe d c h onFailure hbad
      rw [planDeed, hdeed] at hverdict hstarted
      rw [hplan] at hverdict hstarted
      refine ⟨hstarted, ?_, fun _ => ?_⟩
      · exact congrArg Verdict.executed hverdict
      · exact congrArg Verdict.action hverdict
    · intro template onFailure silent (hdeed : h.deed = _) hsafe _
      obtain ⟨line, hline, hplan⟩ := planCommand_of_safe d c h onFailure hsafe
      rw [planDeed, hdeed] at hstarted
      exact ⟨line, hline, hstarted.trans (congrArg Plan.calls hplan)⟩
  · obtain ⟨hstarted, hexecuted⟩ := turn_of_not_applies r d c s happlies
    refine ⟨fun _ => hstarted, fun _ _ => hstarted, ?_, ?_, ?_⟩
    · intro _ _ hyes
      exact absurd hyes happlies
    · intro _ _ _ _ _
      exact ⟨hstarted, hexecuted, fun hyes => absurd hyes happlies⟩
    · intro _ _ _ _ _ hyes
      exact absurd hyes happlies

/-! ## A whole run -/

/-- The hooks that are run, in the order in which they come to their end. -/
def ran : List Hook :=
  let hooks := d.policy.hooksFor event
  if d.policy.settings.parallel then Run.arrived hooks (r.arrival hooks.length)
  else hooks.take (Run.span (d.execHook r c) hooks s)

/-- The turns of the hooks of an event. -/
def turns : List (Turn σ) :=
  if d.isEnabled then Run.turns (d.execHook r c) (ran r d event c s) s else []

variable {r d event c s}

theorem ran_side_by_side (hparallel : d.policy.settings.parallel = true) :
    ran r d event c s =
      Run.arrived (d.policy.hooksFor event) (r.arrival (d.policy.hooksFor event).length) :=
  if_pos hparallel

theorem ran_in_order (horder : d.policy.settings.parallel = false) :
    ran r d event c s =
      (d.policy.hooksFor event).take (Run.span (d.execHook r c) (d.policy.hooksFor event) s) := by
  simp [ran, horder]

theorem ran_of_no_hooks (hnone : d.policy.hooksFor event = []) : ran r d event c s = [] := by
  unfold ran
  rw [hnone]
  split
  · exact List.filterMap_eq_nil_iff.2 fun _ _ => rfl
  · rfl

theorem execute_session (r : Runner σ) (d : Dispatcher) (event : String) (c : Context)
    (s : Session σ) (hon : d.isEnabled = true) :
    ∃ entries, (d.execute r event c s).2 =
      { ((ran r d event c s).mapM (d.execHook r c) s).2 with entries } := by
  cases hhooks : d.policy.hooksFor event with
  | nil =>
    rw [ran_of_no_hooks hhooks]
    simp only [execute, executeWith, hon, hhooks]
    exact ⟨s.entries, rfl⟩
  | cons h hooks =>
    cases hp : d.policy.settings.parallel with
    | true =>
      rw [ran_side_by_side hp, hhooks, ← (Run.inArrival_turns _ _ _ s).2]
      simp only [execute, executeWith, hon, hhooks, hp]
      exact ⟨_, rfl⟩
    | false =>
      rw [ran_in_order hp, hhooks, ← congrArg Prod.snd (Run.untilBlocked_turns _ _ s)]
      simp only [execute, executeWith, hon, hhooks, hp]
      exact ⟨_, rfl⟩

theorem execute_extends (r : Runner σ) (d : Dispatcher) (event : String) (c : Context)
    (s : Session σ) :
    Session.Extends r s (d.execute r event c s).2
      ((turns r d event c s).flatMap Turn.started) := by
  cases hon : d.isEnabled with
  | false =>
    rw [execute_disabled r d event c s hon, turns, hon]
    exact .refl r s
  | true =>
    obtain ⟨entries, hsession⟩ := execute_session r d event c s hon
    rw [hsession, turns, if_pos hon]
    exact mapM_execHook_extends r d c s _

theorem results_of_parallel (hparallel : d.policy.settings.parallel = true)
    (harrival : (r.arrival (d.policy.hooksFor event).length).Perm
      (List.range (d.policy.hooksFor event).length)) :
    (results r d event c s).map (·.1) = d.policy.hooksFor event ∧
      (results r d event c s).Perm
        ((Run.turns (d.execHook r c) (ran r d event c s) s).map Turn.result) := by
  have hresults : results r d event c s = Run.arrange (d.policy.hooksFor event)
      (Run.inArrival (d.execHook r c) (d.policy.hooksFor event)
        (r.arrival (d.policy.hooksFor event).length) s).1 := by
    rw [results, if_pos hparallel]
    rfl
  have hdone := Run.inArrival_indices (d.execHook r c)
    (fun i hi => List.mem_range.1 (harrival.mem_iff.1 hi)) s
  rw [hresults, ran_side_by_side hparallel, ← (Run.inArrival_turns _ _ _ s).1]
  rw [← hdone] at harrival
  exact ⟨Run.arrange_hooks harrival, Run.arrange_perm harrival⟩

theorem results_of_in_order (horder : d.policy.settings.parallel = false) :
    results r d event c s =
      (Run.turns (d.execHook r c) (ran r d event c s) s).map Turn.result := by
  rw [results, horder, ran_in_order horder, Run.untilBlocked_turns]
  rfl

theorem zip_map_snd_eq {hooks : List Hook} {ps : List (Hook × Verdict)}
    (h : ps.map (·.1) <+: hooks) : hooks.zip (ps.map (·.2)) = ps := by
  obtain ⟨behind, rfl⟩ := h
  induction ps with
  | nil => simp
  | cons p ps ih => simp [ih]

theorem zip_results_perm (harrival : d.policy.settings.parallel = true →
      (r.arrival (d.policy.hooksFor event).length).Perm
        (List.range (d.policy.hooksFor event).length)) :
    ((d.policy.hooksFor event).zip ((results r d event c s).map (·.2))).Perm
      ((Run.turns (d.execHook r c) (ran r d event c s) s).map Turn.result) := by
  cases hparallel : d.policy.settings.parallel with
  | true =>
    obtain ⟨hall, hperm⟩ := results_of_parallel (c := c) (s := s) hparallel (harrival hparallel)
    rw [zip_map_snd_eq (hall ▸ List.prefix_rfl)]
    exact hperm
  | false =>
    have hprefix : (results r d event c s).map (·.1) <+: d.policy.hooksFor event := by
      rw [results_of_in_order hparallel, List.map_map, ran_in_order hparallel]
      change (Run.turns _ _ s).map Turn.hook <+: _
      rw [Run.turns_map_hook]
      exact List.take_prefix _ _
    rw [zip_map_snd_eq hprefix, results_of_in_order hparallel]

theorem turns_of_disabled (hoff : d.isEnabled = false) : turns r d event c s = [] := by
  rw [turns, hoff]
  rfl

theorem turns_of_enabled (hon : d.isEnabled = true) :
    turns r d event c s = Run.turns (d.execHook r c) (ran r d event c s) s :=
  if_pos hon

theorem turns_spec {t : Turn σ} (ht : t ∈ turns r d event c s) :
    t = Run.turn (d.execHook r c) t.hook t.found := by
  cases hon : d.isEnabled with
  | false =>
    rw [turns_of_disabled hon] at ht
    cases ht
  | true =>
    rw [turns_of_enabled hon] at ht
    exact Run.eq_turn_of_mem _ ht

theorem turns_ruled {t : Turn σ} (ht : t ∈ turns r d event c s) : t.Ruled d c := by
  rw [turns_spec ht]
  exact turn_ruled r d c t.found t.hook

/-- The report has the verdict of each turn, in the place of its hook. -/
theorem zip_executed_perm (harrival : d.policy.settings.parallel = true →
      (r.arrival (d.policy.hooksFor event).length).Perm
        (List.range (d.policy.hooksFor event).length)) :
    ((d.policy.hooksFor event).zip (d.execute r event c s).1.executed).Perm
      ((turns r d event c s).map Turn.result) := by
  cases hon : d.isEnabled with
  | false =>
    rw [turns_of_disabled hon, execute_disabled r d event c s hon]
    simp [turnedOff, blank]
  | true =>
    rw [turns_of_enabled hon, execute_executed r d event c s hon]
    exact zip_results_perm harrival

theorem turns_side_by_side (hon : d.isEnabled = true) (hparallel : d.policy.settings.parallel = true)
    (harrival : (r.arrival (d.policy.hooksFor event).length).Perm
      (List.range (d.policy.hooksFor event).length)) :
    ((turns r d event c s).map Turn.hook).Perm (d.policy.hooksFor event) := by
  obtain ⟨hall, hperm⟩ := results_of_parallel (c := c) (s := s) hparallel harrival
  have hhooks := hperm.symm.map (·.1)
  rw [hall, List.map_map] at hhooks
  rw [turns_of_enabled hon]
  exact hhooks

theorem turns_in_order (hon : d.isEnabled = true) (horder : d.policy.settings.parallel = false) :
    turns r d event c s = Run.turns (d.execHook r c)
      ((d.policy.hooksFor event).take (Run.span (d.execHook r c) (d.policy.hooksFor event) s)) s := by
  rw [turns_of_enabled hon, ran_in_order horder]

/-- A program is started only where the rules allow it. The calls of a run are those of its turns,
and what is left of the world is what they leave. Each turn is of a hook of its own, whose result is
in the report, and keeps to the rules. There is none when the hooks are disabled; side by side every
hook has one, and in order those have one that no blocking hook stands before. -/
theorem execute_starts (r : Runner σ) (d : Dispatcher) (event : String) (c : Context)
    (s : Session σ)
    (harrival : d.policy.settings.parallel = true →
      (r.arrival (d.policy.hooksFor event).length).Perm
        (List.range (d.policy.hooksFor event).length)) :
    let hooks := d.policy.hooksFor event
    let report := (d.execute r event c s).1
    let after := (d.execute r event c s).2
    let turns := turns r d event c s
    after.calls = s.calls ++ turns.flatMap Turn.started ∧
      (after.world, after.runner) = r.leave (turns.flatMap Turn.started) s.world s.runner ∧
      (∀ t ∈ turns, t.Ruled d c) ∧
      (hooks.zip report.executed).Perm (turns.map Turn.result) ∧
      (d.isEnabled = false → turns = []) ∧
      (d.isEnabled = true → d.policy.settings.parallel = true →
        (turns.map Turn.hook).Perm hooks) ∧
      (d.isEnabled = true → d.policy.settings.parallel = false →
        turns.map Turn.hook <+: hooks ∧
        (∀ before t behind, turns = before ++ t :: behind →
          t.verdict.matched = true → t.verdict.action = .block → behind = []) ∧
        ((∀ t ∈ turns, t.verdict.blocks = false) → turns.map Turn.hook = hooks)) := by
  intro hooks report after turns
  obtain ⟨hcalls, hleft⟩ := execute_extends r d event c s
  refine ⟨hcalls, hleft, fun t ht => turns_ruled ht, zip_executed_perm harrival, turns_of_disabled,
    fun hon hparallel => turns_side_by_side hon hparallel (harrival hparallel), ?_⟩
  intro hon horder
  have hturns : turns = _ := turns_in_order hon horder
  rw [hturns, Run.turns_map_hook]
  refine ⟨List.take_prefix _ _, ?_, Run.take_span_of_none _⟩
  intro before t behind heq hmatched haction
  have hblocks : t.verdict.blocks = true := by simp [Verdict.blocks, hmatched, haction]
  exact Run.last_of_blocks _ heq hblocks

def tell : Hook :=
  ⟨"tell", none, none, none, .command "printf %s \x7b\x7bpath\x7d\x7d" .warn false⟩

/-- A hook whose command names something that has no value. -/
def lost : Hook := ⟨"lost", none, none, none, .command "rm \x7b\x7bfile\x7d\x7d" .block false⟩

def scan : Hook := ⟨"scan", none, none, none, .handler "scan.sh"⟩

def courier : Dispatcher where
  policyFile := Path.ofString "/hooks.json"
  handlersDir := Path.ofString "/"
  silent := true
  policy := ⟨{ enabled := true, parallel := true }, [(preToolUse, [tell, lost, scan])]⟩
  handlers := [("scan", Path.ofString "/scan.sh")]

/-- Side by side the program comes first to its end here. The hook without a value starts nothing,
though it blocks. -/
theorem execute_starts_courier :
    let backwards := fun n => (List.range n).reverse
    let after := (courier.execute (stuck backwards) preToolUse bareContext atRoot).2
    (backwards 3).Perm (List.range 3) ∧
      after.calls = [.handler (Path.ofString "/scan.sh") bareContext.exported defaultTimeout,
        .command "printf %s \x27\x27" defaultTimeout] := by
  intro backwards after
  have harrival : (backwards 3).Perm (List.range 3) := List.reverse_perm _
  have hcalls :=
    (execute_starts (stuck backwards) courier preToolUse bareContext atRoot fun _ => harrival).1
  refine ⟨harrival, hcalls.trans ?_⟩
  have hscan : ∀ w, (courier.plan w bareContext scan).1.calls =
      [.handler (Path.ofString "/scan.sh") bareContext.exported defaultTimeout] := fun _ => rfl
  have hlost : ∀ w, (courier.plan w bareContext lost).1.calls = [] := by
    intro w
    have hbad : (commandOf bareContext "rm \x7b\x7bfile\x7d\x7d").isSafe = false := by cbv
    obtain ⟨reason, hplan⟩ := planCommand_of_not_safe courier bareContext lost .block hbad
    rw [plan_of_applies courier bareContext ⟨rfl, rfl⟩]
    exact congrArg Plan.calls hplan
  have htell : ∀ w, (courier.plan w bareContext tell).1.calls =
      [.command "printf %s \x27\x27" defaultTimeout] := by
    intro w
    have hcommand : commandOf bareContext "printf %s \x7b\x7bpath\x7d\x7d" =
        ⟨some "printf %s \x27\x27", []⟩ := by cbv
    obtain ⟨line, hline, hplan⟩ :=
      planCommand_of_safe courier bareContext tell .warn (congrArg Shell.Substitution.isSafe hcommand)
    rw [hcommand] at hline
    obtain rfl := Option.some.inj hline
    rw [plan_of_applies courier bareContext ⟨rfl, rfl⟩]
    exact congrArg Plan.calls hplan
  have hturns : turns (stuck backwards) courier preToolUse bareContext atRoot =
      Run.turns (courier.execHook (stuck backwards) bareContext) [scan, lost, tell] atRoot := rfl
  rw [hturns]
  simp only [Run.turns, List.flatMap_cons, List.flatMap_nil, turn_started, hscan, hlost, htell]
  rfl

end Dispatcher

end HookPolicy
