import HookPolicy.Proofs.Dispatch.Surroundings

/-!
# The shapes of verdicts

Whatever conditions answer and programs come to, a failure among them, each hook that is evaluated
gets a verdict of exactly one of four shapes (`executeIn_contained`). A failure stays with its own
hook: the verdicts on the others are those of a run without it.
-/

namespace HookPolicy

variable {σ σ' : Type}

def Hook.Mismatches (h : Hook) (c : Context) : Prop :=
  ∃ rule, h.matcher = some rule ∧ Rule.holds rule c.wire = false

theorem Hook.matches_eq_false_iff {h : Hook} {c : Context} :
    (h.matches c).1 = false ↔ h.Mismatches c := by
  unfold Hook.matches Hook.Mismatches
  cases h.matcher with
  | none => simp
  | some rule =>
    by_cases hempty : rule = ""
    · subst hempty
      have hblank : Rule.holds "" c.wire = true := rfl
      simp [hblank]
    · simp only [beq_iff_eq, hempty, if_false, Option.some.injEq, exists_eq_left', Rule.holds]
      cases Rule.outcome rule c.wire with
      | ok b => rfl
      | error e => simp

/-- The failure that a hook meets in its turn. -/
inductive Dispatcher.Raises (d : Dispatcher) (c : Context) (h : Hook) (m : Encounter) :
    HookFault → Prop
  | condition {f : HookFault} : m.answer = .error f → Raises d c h m f
  | call {call : Call} {label message : String} : m.answer = .ok true →
      (d.planDeed c h).1 = .start call → m.outcome call = .error (.unexpected label message) →
      Raises d c h m (.run label message)
  | output {file : String} {call : Call} {o : Outcome} {e : Json.ReadError} : m.answer = .ok true →
      h.deed = .handler file → (d.planDeed c h).1 = .start call → m.outcome call = .ok o →
      interpret o = .error e → Raises d c h m (.output e)

inductive Shape
  | unmatched
  | completed
  | refused
  | failed
  deriving DecidableEq, Repr

/-- What a verdict of a shape says about a hook that meets what it is given. -/
def Dispatcher.HasShape (d : Dispatcher) (c : Context) (h : Hook) (m : Encounter) (v : Verdict) :
    Shape → Prop
  | .unmatched =>
    v = { id := h.id, matched := false, executed := false, action := .allow, message := none
          error := none, output := .null }
  | .completed => v.id = h.id ∧ v.matched = true ∧ v.executed = true ∧ v.error = none
  | .refused => ∃ template onFailure silent, h.deed = .command template onFailure silent ∧
      (commandOf c template).isSafe = false ∧
      v = { id := h.id, matched := true, executed := false, action := onFailure
            message := some (unsafeText (commandOf c template).errors)
            error := some (unsafeText (commandOf c template).errors), output := .null }
  | .failed => ∃ f, d.Raises c h m f ∧
      v = { id := h.id, matched := true, executed := false
            action := if d.policy.settings.failOnError then .block else .warn
            message := some ("Hook error: " ++ f.message), error := some f.message
            output := .null }

namespace Dispatcher

variable {d : Dispatcher} {c : Context} {h : Hook} {m : Encounter} {v : Verdict} {k k' : Shape}

theorem labelled_ne_self (text : String) : "Hook error: " ++ text ≠ text := by
  intro heq
  have hlength := congrArg String.length heq
  have hlabel : "Hook error: ".length = 12 := rfl
  rw [String.length_append, hlabel] at hlength
  omega

def shapeOf (v : Verdict) : Shape :=
  if !v.matched then .unmatched
  else if v.executed then .completed
  else if v.error = v.message then .refused
  else .failed

theorem HasShape.shapeOf_eq (hk : d.HasShape c h m v k) : shapeOf v = k := by
  cases k with
  | unmatched =>
    rw [show v = _ from hk]
    rfl
  | completed =>
    obtain ⟨-, hmatched, hexecuted, -⟩ := hk
    simp [shapeOf, hmatched, hexecuted]
  | refused =>
    obtain ⟨_, _, _, -, -, rfl⟩ := hk
    simp [shapeOf]
  | failed =>
    obtain ⟨f, -, rfl⟩ := hk
    simp [shapeOf, (labelled_ne_self f.message).symm]

theorem settle_hasShape (h : Hook) {call : Call} (hcall : (d.planDeed c h).1 = .start call)
    (hanswer : m.answer = .ok true) :
    d.HasShape c h m (d.settle h (m.outcome call)).1 .completed ∨
      d.HasShape c h m (d.settle h (m.outcome call)).1 .failed := by
  unfold settle
  cases hdeed : h.deed with
  | action a =>
    rw [planDeed, hdeed] at hcall
    cases hcall
  | handler file =>
    dsimp only
    unfold settleHandler
    cases hresult : m.outcome call with
    | error fault =>
      cases fault with
      | timeout message output => exact .inl ⟨rfl, rfl, rfl, rfl⟩
      | notStarted message => exact .inl ⟨rfl, rfl, rfl, rfl⟩
      | unexpected label message => exact .inr ⟨_, .call hanswer hcall hresult, rfl⟩
    | ok o =>
      cases hread : interpret o with
      | error e =>
        simp only [hread]
        exact .inr ⟨_, .output hanswer hdeed hcall hresult hread, rfl⟩
      | ok reading =>
        simp only [hread]
        exact .inl ⟨rfl, rfl, rfl, rfl⟩
  | command template onFailure silent =>
    dsimp only
    unfold settleCommand
    cases hresult : m.outcome call with
    | error fault =>
      cases fault with
      | timeout message output => exact .inl ⟨rfl, rfl, rfl, rfl⟩
      | notStarted message => exact .inl ⟨rfl, rfl, rfl, rfl⟩
      | unexpected label message => exact .inr ⟨_, .call hanswer hcall hresult, rfl⟩
    | ok o =>
      dsimp only
      split
      · exact .inl ⟨rfl, rfl, rfl, rfl⟩
      · exact .inl ⟨rfl, rfl, rfl, rfl⟩

theorem planDeed_hasShape (h : Hook) {v : Verdict} (hplan : (d.planDeed c h).1 = .verdict v) :
    d.HasShape c h m v .completed ∨ d.HasShape c h m v .refused := by
  unfold planDeed at hplan
  cases hdeed : h.deed with
  | action a =>
    rw [hdeed] at hplan
    cases hplan
    exact .inl ⟨rfl, rfl, rfl, rfl⟩
  | handler file =>
    simp only [hdeed, planHandler] at hplan
    split at hplan
    · cases hplan
    · cases hplan
      exact .inl ⟨rfl, rfl, rfl, rfl⟩
  | command template onFailure silent =>
    rw [hdeed] at hplan
    dsimp only at hplan
    cases hsafe : (commandOf c template).isSafe with
    | true =>
      obtain ⟨line, -, hstart⟩ := planCommand_of_safe d c h onFailure hsafe
      rw [hstart] at hplan
      cases hplan
    | false =>
      rw [planCommand_refused d c h onFailure hsafe] at hplan
      cases hplan
      exact .inr ⟨template, onFailure, silent, hdeed, hsafe, rfl⟩

theorem verdictOn_of_mismatches (d : Dispatcher) (m : Encounter) (hmis : h.Mismatches c) :
    d.verdictOn c h m = .unmatched h.id := by
  rw [verdictOn, Hook.matches_eq_false_iff.2 hmis]
  rfl

theorem matches_of_not_mismatches (hholds : ¬ h.Mismatches c) : (h.matches c).1 = true := by
  simpa using mt Hook.matches_eq_false_iff.1 hholds

theorem verdictOn_of_verdict (d : Dispatcher) (hholds : ¬ h.Mismatches c)
    (hyes : m.answer = .ok true) (hplan : (d.planDeed c h).1 = .verdict v) :
    d.verdictOn c h m = v := by
  rw [verdictOn, if_pos (matches_of_not_mismatches hholds)]
  simp only [hyes, hplan]

/-- Whatever a hook meets, the verdict on it has one of the shapes. It is unmatched exactly if the
rule does not hold or the answer is no. -/
theorem verdictOn_hasShape (d : Dispatcher) (c : Context) (h : Hook) (m : Encounter) :
    (h.Mismatches c ∨ m.answer = .ok false) ∧
        d.HasShape c h m (d.verdictOn c h m) .unmatched ∨
      ¬ (h.Mismatches c ∨ m.answer = .ok false) ∧
        ∃ k, k ≠ .unmatched ∧ d.HasShape c h m (d.verdictOn c h m) k := by
  by_cases hmis : h.Mismatches c
  · rw [verdictOn_of_mismatches d m hmis]
    exact .inl ⟨.inl hmis, rfl⟩
  · unfold verdictOn
    rw [if_pos (matches_of_not_mismatches hmis)]
    -- only a yes leads on to the deed, which is settled at once or by what its call comes to
    cases hanswer : m.answer with
    | error f => exact .inr ⟨by simp [hmis], .failed, nofun, f, .condition hanswer, rfl⟩
    | ok b =>
      cases b with
      | false => exact .inl ⟨.inr rfl, rfl⟩
      | true =>
        refine .inr ⟨by simp [hmis], ?_⟩
        cases hplan : (d.planDeed c h).1 with
        | verdict v =>
          rcases planDeed_hasShape (m := m) h hplan with hshape | hshape
          · exact ⟨.completed, nofun, hshape⟩
          · exact ⟨.refused, nofun, hshape⟩
        | start call =>
          rcases settle_hasShape h hplan hanswer with hshape | hshape
          · exact ⟨.completed, nofun, hshape⟩
          · exact ⟨.failed, nofun, hshape⟩

theorem existsUnique_shape (d : Dispatcher) (c : Context) (h : Hook) (m : Encounter) :
    ∃! k, d.HasShape c h m (d.verdictOn c h m) k := by
  have hsome : ∃ k, d.HasShape c h m (d.verdictOn c h m) k := by
    rcases verdictOn_hasShape d c h m with ⟨-, hshape⟩ | ⟨-, k, -, hshape⟩
    · exact ⟨.unmatched, hshape⟩
    · exact ⟨k, hshape⟩
  obtain ⟨k, hk⟩ := hsome
  exact ⟨k, hk, fun k' hk' => hk'.shapeOf_eq.symm.trans hk.shapeOf_eq⟩

theorem hasShape_unmatched_iff (d : Dispatcher) (c : Context) (h : Hook) (m : Encounter) :
    d.HasShape c h m (d.verdictOn c h m) .unmatched ↔ h.Mismatches c ∨ m.answer = .ok false := by
  rcases verdictOn_hasShape d c h m with ⟨hidle, hshape⟩ | ⟨hactive, k, hne, hshape⟩
  · exact iff_of_true hshape hidle
  · refine iff_of_false (fun hunmatched => hne ?_) hactive
    exact hshape.shapeOf_eq.symm.trans hunmatched.shapeOf_eq

/-! ## Which shape it is -/

theorem settle_unexpected (d : Dispatcher) (h : Hook) (label message : String) :
    d.settle h (.error (.unexpected label message)) = d.failure h (.run label message) := by
  unfold settle
  cases h.deed with
  | action a => rfl
  | handler file => rfl
  | command template onFailure silent => rfl

/-- A failure of a hook whose rule holds is the verdict on it, whatever raised it. -/
theorem verdictOn_of_raises {f : HookFault} (hholds : ¬ h.Mismatches c)
    (hraises : d.Raises c h m f) : d.verdictOn c h m = (d.failure h f).1 := by
  rw [verdictOn, if_pos (matches_of_not_mismatches hholds)]
  cases hraises with
  | condition hanswer => simp only [hanswer]
  | call hyes hplan hresult => simp only [hyes, hplan, hresult, settle_unexpected]
  | output hyes hdeed hplan hresult hread =>
    simp only [hyes, hplan, hresult, settle, hdeed, settleHandler, hread]

theorem hasShape_failed_iff (d : Dispatcher) (c : Context) (h : Hook) (m : Encounter) :
    d.HasShape c h m (d.verdictOn c h m) .failed ↔
      ¬ h.Mismatches c ∧ ∃ f, d.Raises c h m f := by
  constructor
  · intro hfailed
    obtain ⟨f, hraises, -⟩ := id hfailed
    refine ⟨fun hmis => ?_, f, hraises⟩
    have hunmatched := (hasShape_unmatched_iff d c h m).2 (.inl hmis)
    cases hfailed.shapeOf_eq.symm.trans hunmatched.shapeOf_eq
  · rintro ⟨hholds, f, hraises⟩
    rw [verdictOn_of_raises hholds hraises]
    exact ⟨f, hraises, rfl⟩

theorem hasShape_refused_iff (d : Dispatcher) (c : Context) (h : Hook) (m : Encounter) :
    d.HasShape c h m (d.verdictOn c h m) .refused ↔
      ¬ h.Mismatches c ∧ m.answer = .ok true ∧ ∃ template onFailure silent,
        h.deed = .command template onFailure silent ∧ (commandOf c template).isSafe = false := by
  constructor
  · intro hrefused
    obtain ⟨template, onFailure, silent, hdeed, hbad, -⟩ := id hrefused
    have hactive : ¬ (h.Mismatches c ∨ m.answer = .ok false) := by
      rw [← hasShape_unmatched_iff d c h m]
      intro hunmatched
      cases hrefused.shapeOf_eq.symm.trans hunmatched.shapeOf_eq
    obtain ⟨hholds, hno⟩ := not_or.1 hactive
    refine ⟨hholds, ?_, template, onFailure, silent, hdeed, hbad⟩
    cases hanswer : m.answer with
    | error f =>
      have hfailed := (hasShape_failed_iff d c h m).2 ⟨hholds, f, .condition hanswer⟩
      cases hrefused.shapeOf_eq.symm.trans hfailed.shapeOf_eq
    | ok b =>
      cases b with
      | false => exact absurd hanswer hno
      | true => rfl
  · rintro ⟨hholds, hyes, template, onFailure, silent, hdeed, hbad⟩
    have hplan : (d.planDeed c h).1 = .verdict
        (.refused h.id onFailure (unsafeText (commandOf c template).errors)) := by
      rw [planDeed, hdeed]
      exact planCommand_refused d c h onFailure hbad
    rw [verdictOn_of_verdict d hholds hyes hplan]
    exact ⟨template, onFailure, silent, hdeed, hbad, rfl⟩

/-! ## The turns of a run -/

/-- The turns of a run in surroundings, in the order of the policy. -/
def turnsIn (e : Surroundings σ) (d : Dispatcher) (event : String) (c : Context) (s : Session σ) :
    List (Turn σ) :=
  if d.isEnabled then
    Run.turnsOf (d.execHookIn e c) d.policy.settings.parallel e.arrival (d.policy.hooksFor event) s
  else []

theorem executeIn_executed (e : Surroundings σ) (d : Dispatcher) (event : String) (c : Context)
    (s : Session σ) :
    (d.executeIn e event c s).1.executed = (turnsIn e d event c s).map Turn.verdict := by
  unfold executeIn turnsIn
  cases hon : d.isEnabled with
  | false =>
    rw [executeWith_disabled d event s _ _ hon]
    rfl
  | true =>
    rw [executeWith_enabled d event s _ _ hon, Report.addAll_eq, resultsWith,
      Run.results_eq_turnsOf, if_pos rfl]
    show [] ++ List.map _ _ = _
    rw [List.nil_append, List.map_map]
    rfl

theorem turnsIn_hooks {e : Surroundings σ} {event : String} {s : Session σ}
    (hon : d.isEnabled = true) (hparallel : d.policy.settings.parallel = true)
    (harrival : (e.arrival (d.policy.hooksFor event).length).Perm
      (List.range (d.policy.hooksFor event).length)) :
    (turnsIn e d event c s).map Turn.hook = d.policy.hooksFor event := by
  rw [turnsIn, if_pos hon, hparallel]
  exact Run.turnsOf_parallel_hooks _ harrival

def Denies (e : Surroundings σ) (c : Context) (t : Turn σ) : Prop :=
  ∃ condition, t.hook.condition = some condition ∧ condition ≠ "" ∧
    (e.ask condition c.cwd t.found.world t.found.runner).1.1 = .ok false

theorem denies_iff {e : Surroundings σ} {t : Turn σ} :
    Denies e c t ↔ (e.meets c t.hook t.found).answer = .ok false := by
  unfold Denies Surroundings.meets Hook.consult Hook.asked?
  cases t.hook.condition with
  | none => simp
  | some condition =>
    by_cases hempty : condition = ""
    · subst hempty
      simp [nonEmpty?]
    · simp only [Option.some.injEq, exists_eq_left', Option.bind_some, nonEmpty?, beq_iff_eq,
        hempty, if_false, ne_eq, not_false_eq_true, true_and]
      rfl

/-- What holds of every turn of a run in surroundings. -/
structure Contained (e : Surroundings σ) (d : Dispatcher) (c : Context) (t : Turn σ) : Prop where
  run : t = Run.turn (d.execHookIn e c) t.hook t.found
  shape : ∃! k, d.HasShape c t.hook (e.meets c t.hook t.found) t.verdict k
  unmatched : d.HasShape c t.hook (e.meets c t.hook t.found) t.verdict .unmatched ↔
    t.hook.Mismatches c ∨ Denies e c t
  refused : d.HasShape c t.hook (e.meets c t.hook t.found) t.verdict .refused ↔
    ¬ t.hook.Mismatches c ∧ (e.meets c t.hook t.found).answer = .ok true ∧
      ∃ template onFailure silent, t.hook.deed = .command template onFailure silent ∧
        (commandOf c template).isSafe = false
  failed : d.HasShape c t.hook (e.meets c t.hook t.found) t.verdict .failed ↔
    ¬ t.hook.Mismatches c ∧ ∃ f, d.Raises c t.hook (e.meets c t.hook t.found) f
  unasked : t.hook.Mismatches c →
    t.left = { t.found with entries := t.found.entries ++ (t.hook.matches c).2 }

theorem execHookIn_of_mismatches (e : Surroundings σ) (d : Dispatcher) {h : Hook}
    (hmis : h.Mismatches c) (s : Session σ) :
    (d.execHookIn e c h s).2 = { s with entries := s.entries ++ (h.matches c).2 } := by
  have hfalse := Hook.matches_eq_false_iff.2 hmis
  unfold execHookIn
  cases hm : h.matches c with
  | mk applies notes =>
    rw [hm] at hfalse
    cases hfalse
    rfl

theorem turn_contained (e : Surroundings σ) (d : Dispatcher) (c : Context) (h : Hook)
    (s : Session σ) : Contained e d c (Run.turn (d.execHookIn e c) h s) := by
  refine ⟨rfl, ?_, ?_, ?_, ?_, fun hmis => execHookIn_of_mismatches e d hmis s⟩
  · rw [Run.turn, execHookIn_verdict]
    exact existsUnique_shape d c h _
  · rw [denies_iff, Run.turn, execHookIn_verdict]
    exact hasShape_unmatched_iff d c h _
  · rw [Run.turn, execHookIn_verdict]
    exact hasShape_refused_iff d c h _
  · rw [Run.turn, execHookIn_verdict]
    exact hasShape_failed_iff d c h _

/-- What a hook asks for meets the same: its condition, and the call that it makes after a yes. -/
structure Alike (d : Dispatcher) (c : Context) (h : Hook) (m m' : Encounter) : Prop where
  answer : ¬ h.Mismatches c → m.answer = m'.answer
  outcome : ¬ h.Mismatches c → m.answer = .ok true →
    ∀ call, (d.planDeed c h).1 = .start call → m.outcome call = m'.outcome call

theorem Alike.verdictOn_eq {m' : Encounter} (halike : Alike d c h m m') :
    d.verdictOn c h m = d.verdictOn c h m' := by
  by_cases hmis : h.Mismatches c
  · rw [verdictOn_of_mismatches d m hmis, verdictOn_of_mismatches d m' hmis]
  · unfold verdictOn
    rw [← halike.answer hmis]
    cases hanswer : m.answer with
    | error f => rfl
    | ok b =>
      cases b with
      | false => rfl
      | true =>
        cases hplan : (d.planDeed c h).1 with
        | verdict v => rfl
        | start call => simp only [halike.outcome hmis hanswer call hplan]

def MeetAlike (e : Surroundings σ) (e' : Surroundings σ') (d : Dispatcher) (c : Context)
    (t : Turn σ) (t' : Turn σ') : Prop :=
  t.hook = t'.hook ∧ Alike d c t.hook (e.meets c t.hook t.found) (e'.meets c t.hook t'.found)

theorem MeetAlike.verdict_eq {e : Surroundings σ} {e' : Surroundings σ'} {t : Turn σ} {t' : Turn σ'}
    (ht : t = Run.turn (d.execHookIn e c) t.hook t.found)
    (ht' : t' = Run.turn (d.execHookIn e' c) t'.hook t'.found)
    (halike : MeetAlike e e' d c t t') : t.verdict = t'.verdict := by
  rw [ht, ht']
  show (d.execHookIn e c t.hook t.found).1 = (d.execHookIn e' c t'.hook t'.found).1
  rw [execHookIn_verdict, execHookIn_verdict, ← halike.1]
  exact halike.2.verdictOn_eq

theorem verdicts_eq_of_alike {e : Surroundings σ} {e' : Surroundings σ'} {ts : List (Turn σ)}
    {ts' : List (Turn σ')} (hts : ∀ t ∈ ts, t = Run.turn (d.execHookIn e c) t.hook t.found)
    (hts' : ∀ t ∈ ts', t = Run.turn (d.execHookIn e' c) t.hook t.found)
    (halike : List.Forall₂ (MeetAlike e e' d c) ts ts') :
    ts.map Turn.verdict = ts'.map Turn.verdict := by
  induction halike with
  | nil => rfl
  | cons hhead _ ih =>
    rw [List.forall_mem_cons] at hts hts'
    rw [List.map_cons, List.map_cons, ih hts.2 hts'.2, hhead.verdict_eq hts.1 hts'.1]

end Dispatcher

/-! ## Steady surroundings -/

structure Surroundings.Steady (e : Surroundings σ) : Prop where
  ask : ∀ condition cwd w w' u u',
    (e.ask condition cwd w u).1.1 = (e.ask condition cwd w' u').1.1
  start : ∀ call w w' u u', (e.start call w u).1 = (e.start call w' u').1

namespace Surroundings.Steady

variable {e : Surroundings σ} {d : Dispatcher} {c : Context}

theorem meets_eq (he : e.Steady) (c : Context) (h : Hook) (s s' : Session σ) :
    e.meets c h s = e.meets c h s' := by
  have hanswer : (h.consult e c s).1 = (h.consult e c s').1 := by
    unfold Hook.consult
    cases h.asked? with
    | none => rfl
    | some condition => exact he.ask condition c.cwd s.world s'.world s.runner s'.runner
  unfold Surroundings.meets
  rw [hanswer]
  congr 1
  funext call
  exact he.start call _ _ _ _

theorem forall₂_meetAlike (he : e.Steady) {ts ts' : List (Turn σ)}
    (hhooks : ts.map Turn.hook = ts'.map Turn.hook) :
    List.Forall₂ (Dispatcher.MeetAlike e e d c) ts ts' := by
  have hsame : List.Forall₂ (fun t t' => Turn.hook t = Turn.hook t') ts ts' := by
    rw [← List.forall₂_eq_eq_eq, List.forall₂_map_left_iff, List.forall₂_map_right_iff] at hhooks
    exact hhooks
  refine hsame.imp fun t t' hhook => ⟨hhook, ?_⟩
  rw [he.meets_eq c t.hook t'.found t.found]
  exact ⟨fun _ => rfl, fun _ _ _ _ => rfl⟩

/-- Steady surroundings give each hook the verdict that it would be given at the start. -/
theorem verdicts_eq (he : e.Steady) {ts : List (Turn σ)}
    (hts : ∀ t ∈ ts, t = Run.turn (d.execHookIn e c) t.hook t.found) (s : Session σ) :
    ts.map Turn.verdict =
      (ts.map Turn.hook).map fun h => d.verdictOn c h (e.meets c h s) := by
  rw [List.map_map]
  refine List.map_congr_left fun t ht => ?_
  have hverdict : t.verdict = (d.execHookIn e c t.hook t.found).1 :=
    congrArg Turn.verdict (hts t ht)
  rw [hverdict, Dispatcher.execHookIn_verdict, he.meets_eq c t.hook t.found s]
  rfl

end Surroundings.Steady

namespace Dispatcher

/-! ## A whole run -/

variable {d : Dispatcher} {c : Context}

/-- A dispatcher whose policy leaves out one hook of an event. -/
def without (d : Dispatcher) (event : String) (k : Nat) : Dispatcher :=
  { d with policy := { d.policy with hooks := d.policy.hooks.map fun p =>
      (p.1, if p.1 = event then p.2.eraseIdx k else p.2) } }

theorem hooksFor_without (d : Dispatcher) (event : String) (k : Nat) :
    (d.without event k).policy.hooksFor event = (d.policy.hooksFor event).eraseIdx k := by
  have hlookup : (d.without event k).policy.hooks.lookup event =
      (d.policy.hooks.lookup event).map fun hooks =>
        if event = event then hooks.eraseIdx k else hooks :=
    lookup_map_values (fun key (hooks : List Hook) =>
      if key = event then hooks.eraseIdx k else hooks) d.policy.hooks event
  rw [Policy.hooksFor, Policy.hooksFor, hlookup]
  simp only [if_pos]
  cases d.policy.hooks.lookup event with
  | none => rfl
  | some hooks => rfl

theorem execHookIn_without (e : Surroundings σ) (d : Dispatcher) (event : String) (k : Nat)
    (c : Context) : (d.without event k).execHookIn e c = d.execHookIn e c := rfl

theorem turnsIn_spec {e : Surroundings σ} {event : String} {s : Session σ} {t : Turn σ}
    (ht : t ∈ turnsIn e d event c s) : t = Run.turn (d.execHookIn e c) t.hook t.found := by
  unfold turnsIn at ht
  split at ht
  · exact Run.turnsOf_spec _ ht
  · cases ht

theorem turnsIn_contained {e : Surroundings σ} {event : String} {s : Session σ} {t : Turn σ}
    (ht : t ∈ turnsIn e d event c s) : Contained e d c t := by
  rw [turnsIn_spec ht]
  exact turn_contained e d c t.hook t.found

/-- No condition but one has an answer, and no program comes to an end. Hooks side by side come to
their end from the last to the first. -/
def gale : Surroundings Unit where
  start _ w u := (.error (.unexpected "OSError" "out of memory"), w, u)
  arrival n := (List.range n).reverse
  ask condition _ w u :=
    ((if condition = "calm" then .ok false else .error (.run "RuntimeError" "no answer"), []), w, u)

theorem gale_steady : gale.Steady where
  ask _ _ _ _ _ _ := rfl
  start _ _ _ _ _ := rfl

def convoy : Dispatcher where
  policyFile := Path.ofString "/hooks.json"
  handlersDir := Path.ofString "/"
  silent := true
  policy := ⟨{ enabled := true, parallel := true, failOnError := true }, [(preToolUse,
    [⟨"torn", none, some "storm", none, .action .allow⟩,
     ⟨"idle", none, some "calm", none, .action .block⟩, scan, lost,
     ⟨"stop", none, none, none, .action .block⟩])]⟩
  handlers := [("scan", Path.ofString "/scan.sh")]

end Dispatcher

end HookPolicy
