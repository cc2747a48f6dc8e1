import HookPolicy.Proofs.Dispatch.Basic

/-!
# What a report says of its verdicts

A report is folded from verdicts one by one. `addAll_eq` gives the result of the whole fold: the
audit list, the two flags and the two lists of notices, each as a function of the list of verdicts.
Hooks that are run in order are run up to the first that blocks, so the audit list of such a run is
a prefix of the verdicts that all hooks would have been given.
-/

namespace HookPolicy

variable {σ : Type}

namespace Report

/-- The notice on a verdict, spelled out: the hook's own message stands in for one that is missing
or empty. -/
def told (p : Hook × Verdict) : Notice :=
  ⟨p.2.action.word, some p.1.id,
    if p.2.message = none ∨ p.2.message = some "" then p.1.message else p.2.message⟩

theorem notice_eq_told (h : Hook) (v : Verdict) : notice h v = told (h, v) := by
  have htext : noticeText h v =
      if v.message = none ∨ v.message = some "" then h.message else v.message := by
    cases hm : v.message with
    | none => simp [noticeText, hm]
    | some m =>
      by_cases he : m = ""
      · simp [noticeText, nonEmpty?, hm, he]
      · simp [noticeText, nonEmpty?, hm, he]
  simp only [notice, told, htext]

/-- What one verdict adds to a report. -/
theorem add_eq (r : Report) (h : Hook) (v : Verdict) :
    r.add h v = { r with
      executed := r.executed ++ [v]
      blocked := r.blocked || v.blocks
      confirm := r.confirm || v.confirms
      messages := r.messages ++ (if v.blocks || v.confirms then [told (h, v)] else [])
      warnings := r.warnings ++ (if v.warns then [told (h, v)] else []) } := by
  rw [← notice_eq_told]
  cases hm : v.matched with
  | false => simp [add, Verdict.blocks, Verdict.confirms, Verdict.warns, hm]
  | true =>
    cases ha : v.action <;>
      simp [add, Verdict.blocks, Verdict.confirms, Verdict.warns, hm, ha]

theorem addAll_cons (r : Report) (p : Hook × Verdict) (ps : List (Hook × Verdict)) :
    r.addAll (p :: ps) = (r.add p.1 p.2).addAll ps := rfl

theorem addAll_eq (r : Report) (ps : List (Hook × Verdict)) :
    r.addAll ps = { r with
      executed := r.executed ++ ps.map (·.2)
      blocked := r.blocked || (ps.map (·.2)).any Verdict.blocks
      confirm := r.confirm || (ps.map (·.2)).any Verdict.confirms
      messages := r.messages ++ (ps.filter fun p => p.2.blocks || p.2.confirms).map told
      warnings := r.warnings ++ (ps.filter (·.2.warns)).map told } := by
  induction ps generalizing r with
  | nil => simp [addAll]
  | cons p ps ih =>
    rw [addAll_cons, ih, add_eq]
    simp only [List.any_cons, List.map_cons, List.append_assoc, Bool.or_assoc]
    congr 1
    · cases hw : p.2.warns <;> simp [hw]
    · cases hb : p.2.blocks || p.2.confirms <;> simp [hb]

end Report

theorem zip_take_right {α β : Type} (as : List α) (bs : List β) (n : Nat) :
    as.zip (bs.take n) = (as.zip bs).take n := by
  induction as generalizing bs n with
  | nil => simp
  | cons a as ih =>
    cases bs with
    | nil => simp
    | cons b bs =>
      cases n with
      | zero => simp
      | succ n => simp [ih]

namespace Run

variable (exec : Hook → Run σ Verdict)

/-- A run in order as a list of pairs: the verdicts up to the first that blocks. -/
theorem untilBlocked_pairs (hooks : List Hook) (s : Session σ) :
    (untilBlocked exec hooks s).1 =
      hooks.zip ((verdicts exec hooks s).take (span exec hooks s)) := by
  rw [untilBlocked_run, zip_take_right]

theorem untilBlocked_verdicts (hooks : List Hook) (s : Session σ) :
    (untilBlocked exec hooks s).1.map (·.2) =
      (verdicts exec hooks s).take (span exec hooks s) := by
  rw [untilBlocked_pairs]
  apply List.map_snd_zip
  rw [List.length_take, verdicts_length]
  exact Nat.min_le_right _ _

end Run

namespace Dispatcher

variable (r : Runner σ) (d : Dispatcher) (event : String) (c : Context) (s : Session σ)

theorem execute_executed (hon : d.isEnabled = true) :
    (d.execute r event c s).1.executed = (results r d event c s).map (·.2) := by
  rw [execute_enabled r d event c s hon, Report.addAll_eq]
  rfl

/-- In order, a policy's hooks are run up to the first that blocks, and the report says of the
verdicts on them what there is to say: which flags are raised and which notices are given. -/
theorem execute_in_order (hon : d.isEnabled = true) (horder : d.policy.settings.parallel = false) :
    let hooks := d.policy.hooksFor event
    let verdicts := Run.verdicts (d.execHook r c) hooks s
    let report := (d.execute r event c s).1
    let pairs := hooks.zip report.executed
    report.executed = verdicts.take (verdicts.findIdx Verdict.blocks + 1) ∧
      (report.blocked = true ↔ ∃ v ∈ report.executed, v.matched = true ∧ v.action = .block) ∧
      (report.confirm = true ↔ ∃ v ∈ report.executed, v.matched = true ∧ v.action = .confirm) ∧
      report.messages = (pairs.filter fun p => p.2.matched &&
        (p.2.action == .block || p.2.action == .confirm)).map Report.told ∧
      report.warnings =
        (pairs.filter fun p => p.2.matched && p.2.action == .warn).map Report.told := by
  intro hooks verdicts report pairs
  have hresults : results r d event c s = (Run.untilBlocked (d.execHook r c) hooks s).1 := by
    simp only [results, horder]
    rfl
  have hreport : report = (blank event s).addAll (results r d event c s) :=
    execute_enabled r d event c s hon
  have hexecuted : report.executed = (results r d event c s).map (·.2) :=
    execute_executed r d event c s hon
  have hcut : report.executed = verdicts.take (verdicts.findIdx Verdict.blocks + 1) := by
    rw [hexecuted, hresults]
    exact Run.untilBlocked_verdicts (d.execHook r c) hooks s
  have hpairs : pairs = results r d event c s := by
    rw [hresults, Run.untilBlocked_pairs]
    exact congrArg hooks.zip hcut
  refine ⟨hcut, ?_, ?_, ?_, ?_⟩
  · rw [hexecuted, hreport, Report.addAll_eq]
    simp only [blank, Bool.false_or, List.any_eq_true, Verdict.blocks, Bool.and_eq_true,
      beq_iff_eq]
  · rw [hexecuted, hreport, Report.addAll_eq]
    simp only [blank, Bool.false_or, List.any_eq_true, Verdict.confirms, Bool.and_eq_true,
      beq_iff_eq]
  · rw [hpairs, hreport, Report.addAll_eq]
    simp [blank, Verdict.blocks, Verdict.confirms, Bool.and_or_distrib_left]
  · rw [hpairs, hreport, Report.addAll_eq]
    simp [blank, Verdict.warns]

/-- A runner that can start no program. -/
def stuck (arrival : Nat → List Nat) : Runner Unit where
  start _ w u := (.error (.notStarted "no interpreter"), w, u)
  arrival := arrival

def atRoot : Session Unit :=
  { world := ⟨⟨[]⟩, "/", [], .ofSeconds 0 0, "/"⟩, runner := () }

def bareContext : Context :=
  ⟨.ofSeconds 0 0, none, none, none, none, none, none, none, "/", none, none, []⟩

/-- Hooks that ask, run a program, block and warn. -/
def patrolHooks : List Hook :=
  [⟨"ask", none, none, some "Sure?", .action .confirm⟩,
   ⟨"scan", none, none, none, .handler "scan.sh"⟩,
   ⟨"stop", none, none, none, .action .block⟩,
   ⟨"late", none, none, some "Too late", .action .warn⟩]

def patrol : Dispatcher where
  policyFile := Path.ofString "/hooks.json"
  handlersDir := Path.ofString "/"
  silent := true
  policy := ⟨{ enabled := true }, [(preToolUse, patrolHooks)]⟩
  handlers := [("scan", Path.ofString "/scan.sh")]

/-- The hook behind the one that blocks is not run, and its warning is not given. -/
theorem execute_in_order_patrol :
    let report := (patrol.execute (stuck List.range) preToolUse bareContext atRoot).1
    patrol.isEnabled = true ∧ patrol.policy.settings.parallel = false ∧
      report.executed.length = 3 ∧
      report.messages = [⟨"confirm", some "ask", some "Sure?"⟩, ⟨"block", some "stop", none⟩] ∧
      report.warnings = [⟨"warn", some "scan", some "Handler error: no interpreter"⟩] := by
  intro report
  obtain ⟨hexecuted, -, -, hmessages, hwarnings⟩ :=
    execute_in_order (stuck List.range) patrol preToolUse bareContext atRoot rfl rfl
  have hthree : report.executed =
      [.completed "ask" .confirm (some "Sure?") .null,
       .completed "scan" .warn (some "Handler error: no interpreter") .null,
       .completed "stop" .block none .null] := hexecuted
  refine ⟨rfl, rfl, ?_, ?_, ?_⟩
  · rw [hthree]
    rfl
  · rw [hmessages]
    change List.map _ (List.filter _ (List.zip _ report.executed)) = _
    rw [hthree]
    rfl
  · rw [hwarnings]
    change List.map _ (List.filter _ (List.zip _ report.executed)) = _
    rw [hthree]
    rfl

end Dispatcher

end HookPolicy
