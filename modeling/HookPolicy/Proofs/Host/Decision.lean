import HookPolicy.Cli.Session
import HookPolicy.Host.Reply
import HookPolicy.Proofs.Dispatch.Parallel

/-!
# What hosts are told of a run

A host asks for the permission to use a tool, or hears whether an operation is blocked, or reads the
exit code of a command. All of them are decided by the verdicts of the run (`execute_reply`), and the
permission depends neither on the order of the hooks nor on whether they are run side by side
(`execute_permission`).
-/

namespace HookPolicy

variable {σ σ' : Type}

/-! ## Permissions of verdicts -/

/-- What verdicts permit. One that blocks denies, and one that asks does so where none blocks. -/
def Permission.ofVerdicts (vs : List Verdict) : Permission :=
  if vs.any Verdict.blocks then .deny else if vs.any Verdict.confirms then .ask else .allow

namespace Permission

theorem ofVerdicts_perm {vs vs' : List Verdict} (h : vs.Perm vs') :
    ofVerdicts vs = ofVerdicts vs' := by
  rw [ofVerdicts, ofVerdicts, h.any_eq, h.any_eq]

theorem ofVerdicts_iff (vs : List Verdict) :
    (ofVerdicts vs = .deny ↔ vs.any Verdict.blocks = true) ∧
      (ofVerdicts vs = .ask ↔ ¬ vs.any Verdict.blocks = true ∧ vs.any Verdict.confirms = true) ∧
      (ofVerdicts vs = .allow ↔
        ¬ vs.any Verdict.blocks = true ∧ ¬ vs.any Verdict.confirms = true) := by
  unfold ofVerdicts
  cases vs.any Verdict.blocks <;> cases vs.any Verdict.confirms <;> decide

theorem ofVerdicts_take (vs : List Verdict) :
    ofVerdicts (vs.take (vs.findIdx Verdict.blocks + 1)) = ofVerdicts vs := by
  cases hblocks : vs.any Verdict.blocks with
  | true => rw [ofVerdicts, ofVerdicts, Report.any_take_findIdx, hblocks, if_pos rfl, if_pos rfl]
  | false => rw [Report.take_findIdx_of_none hblocks]

end Permission

namespace Report

def HasMatched (r : Report) (a : Action) : Prop :=
  ∃ v ∈ r.executed, v.matched = true ∧ v.action = a

theorem any_blocks_iff {r : Report} :
    r.executed.any Verdict.blocks = true ↔ r.HasMatched .block := by
  simp only [HasMatched, List.any_eq_true, Verdict.blocks, Bool.and_eq_true, beq_iff_eq]

theorem any_confirms_iff {r : Report} :
    r.executed.any Verdict.confirms = true ↔ r.HasMatched .confirm := by
  simp only [HasMatched, List.any_eq_true, Verdict.confirms, Bool.and_eq_true, beq_iff_eq]

/-- The texts of what blocks and of what asks, then those of the warnings. -/
def texts (r : Report) : List String :=
  (r.messages.filter (fun n => n.kind == Action.block.word || n.kind == Action.confirm.word) ++
    r.warnings).filterMap fun n => n.message.filter (· != "")

/-- A report whose flags and messages are those of its verdicts, but for the notice that hooks are
disabled. -/
structure Faithful (r : Report) : Prop where
  blocked : r.blocked = r.executed.any Verdict.blocks
  confirm : r.confirm = r.executed.any Verdict.confirms
  messages : ∀ n ∈ r.messages, n.kind = Action.block.word ∨ n.kind = Action.confirm.word ∨
    n = Dispatcher.disabledNotice

namespace Faithful

variable {r : Report}

theorem permission_eq (h : r.Faithful) : r.permission = .ofVerdicts r.executed := by
  rw [permission, Permission.ofVerdicts, h.blocked, h.confirm]

theorem blocked_iff (h : r.Faithful) : r.blocked = true ↔ r.HasMatched .block := by
  rw [h.blocked, any_blocks_iff]

theorem reasons_eq (h : r.Faithful) : r.reasons = r.texts := by
  have hkinds : r.messages.filter (·.kind != "info") = r.messages.filter fun n =>
      n.kind == Action.block.word || n.kind == Action.confirm.word := by
    refine List.filter_congr fun n hn => ?_
    rcases h.messages n hn with hkind | hkind | rfl
    · rw [hkind]; rfl
    · rw [hkind]; rfl
    · rfl
  rw [reasons, texts, hkinds]
  congr 1
  funext n
  cases n.message with
  | none => rfl
  | some text => by_cases hempty : text = "" <;> simp [nonEmpty?, Option.filter, hempty]

end Faithful

theorem addAll_faithful {r : Report} (hr : r.Faithful) (ps : List (Hook × Verdict)) :
    (r.addAll ps).Faithful := by
  rw [addAll_eq]
  refine ⟨?_, ?_, ?_⟩
  · rw [List.any_append, hr.blocked]
  · rw [List.any_append, hr.confirm]
  · intro n hn
    rcases List.mem_append.1 hn with hold | hnew
    · exact hr.messages n hold
    · obtain ⟨p, hp, rfl⟩ := List.mem_map.1 hnew
      have hflags := (List.mem_filter.1 hp).2
      simp only [Verdict.blocks, Verdict.confirms, Bool.or_eq_true, Bool.and_eq_true,
        beq_iff_eq] at hflags
      rcases hflags with ⟨-, haction⟩ | ⟨-, haction⟩
      · exact .inl (congrArg Action.word haction)
      · exact .inr (.inl (congrArg Action.word haction))

end Report

namespace Dispatcher

theorem execute_faithful (r : Runner σ) (d : Dispatcher) (event : String) (c : Context)
    (s : Session σ) : (d.execute r event c s).1.Faithful := by
  cases hon : d.isEnabled with
  | false =>
    rw [execute_disabled r d event c s hon]
    exact ⟨rfl, rfl, fun n hn => .inr (.inr (List.mem_singleton.1 hn))⟩
  | true =>
    rw [execute_enabled r d event c s hon]
    exact Report.addAll_faithful ⟨rfl, rfl, fun n hn => absurd hn List.not_mem_nil⟩ _

end Dispatcher

/-! ## Replies -/

namespace Reply

def decision (a : Reply) : Json := (a.dump.field "hookSpecificOutput").field "permissionDecision"

def reason (a : Reply) : Json :=
  (a.dump.field "hookSpecificOutput").field "permissionDecisionReason"

end Reply

theorem Permission.word_inj {p q : Permission} : Json.string p.word = .string q.word ↔ p = q := by
  refine ⟨fun h => ?_, fun h => by rw [h]⟩
  have hword : p.word = q.word := Json.string.inj h
  cases p <;> cases q <;> first | rfl | exact absurd hword (by decide)

namespace Report

variable (r : Report) {event : String}

theorem decision_reply : (r.reply preToolUse).decision = .string r.permission.word := rfl

theorem reason_reply :
    (r.reply preToolUse).reason =
      .string (r.reasonText ("hookwarden: " ++ r.permission.word)) := rfl

theorem dump_reply_of_ne (hne : event ≠ preToolUse) :
    (r.reply event).dump = .object
      ((if r.blocked then [("decision", .string "block"),
          ("reason", .string (r.reasonText "Blocked by hookwarden"))] else []) ++
        (if r.reasons.isEmpty then []
          else [("systemMessage", .string ("\n".intercalate r.reasons))])) := by
  rw [reply, if_neg (by simpa using hne)]
  cases r.blocked <;> cases r.reasons.isEmpty <;> rfl

theorem field_decision_reply (hne : event ≠ preToolUse) :
    (r.reply event).dump.field "decision" = if r.blocked then .string "block" else .null := by
  rw [dump_reply_of_ne r hne]
  cases r.blocked <;> cases r.reasons.isEmpty <;> rfl

theorem field_systemMessage_reply (hne : event ≠ preToolUse) :
    (r.reply event).dump.field "systemMessage" =
      if r.reasons.isEmpty then .null else .string ("\n".intercalate r.reasons) := by
  rw [dump_reply_of_ne r hne]
  cases r.blocked <;> cases r.reasons.isEmpty <;> rfl

theorem nonempty_of_mem_texts {text : String} (ht : text ∈ r.texts) : text ≠ "" := by
  obtain ⟨n, -, hn⟩ := List.mem_filterMap.1 ht
  simpa using (Option.filter_eq_some_iff.1 hn).2

theorem intercalate_ne_empty {separator : String} {texts : List String} (hsome : texts ≠ [])
    (hall : ∀ text ∈ texts, text ≠ "") : separator.intercalate texts ≠ "" := by
  cases texts with
  | nil => exact absurd rfl hsome
  | cons text rest =>
    have htext : text ≠ "" := hall text List.mem_cons_self
    cases rest with
    | nil => rwa [String.intercalate_singleton]
    | cons next rest =>
      rw [String.intercalate_cons_cons]
      intro hempty
      rw [String.append_eq_empty_iff, String.append_eq_empty_iff] at hempty
      exact htext hempty.1.1

variable {r}

theorem Faithful.reasonText_eq (h : r.Faithful) (hsome : r.texts ≠ []) (default : String) :
    r.reasonText default = "; ".intercalate r.texts := by
  have hne : "; ".intercalate r.texts ≠ "" :=
    intercalate_ne_empty hsome fun _ ht => nonempty_of_mem_texts r ht
  rw [reasonText, h.reasons_eq, nonEmpty?, if_neg (by simpa using hne), Option.getD_some]

end Report

/-! ## Exit codes -/

namespace Cli

def RunOptions.request (o : RunOptions) (verbose : Bool) : DispatchRequest :=
  { policyFile := o.policyFile.getD "", silent := !verbose }

theorem executeEvent_ok {r : Runner σ} {request : DispatchRequest} {event : String}
    {context : World → Logged (Except Context.Refusal Context)} {s : Session σ} {report : Report}
    (hok : (executeEvent r request event context s).1 = .ok report) :
    ∃ d c entries, (Dispatcher.build s.world request).1 = .ok d ∧ (context s.world).1 = .ok c ∧
      report = (d.execute r event c { s with entries }).1 := by
  simp only [executeEvent, Run.bind_run, Run.get_run, Run.log_run] at hok
  cases hbuilt : (Dispatcher.build s.world request).1 with
  | error e =>
    simp only [hbuilt] at hok
    cases hok
  | ok d =>
    simp only [hbuilt, Run.bind_run, Run.log_run] at hok
    cases hgathered : (context s.world).1 with
    | error e =>
      simp only [hgathered] at hok
      cases hok
    | ok c =>
      simp only [hgathered] at hok
      exact ⟨d, c, _, rfl, rfl, (Except.ok.inj hok).symm⟩

/-- A command that runs hooks and comes to its end has built a dispatcher, gathered a context, and
exits with the code of the report. -/
theorem runHooks_ok {r : Runner σ} {verbose : Bool} {input : Context.Input} {o : RunOptions}
    {s : Session σ} {p : Printed} (hok : (runHooks r verbose input o s).1 = .ok p) :
    ∃ d c entries, (Dispatcher.build s.world (o.request verbose)).1 = .ok d ∧
      (gatherContext (originOf s.world input o) s.world).1 = .ok c ∧
      p.exit = exitCode (d.execute r o.event c { s with entries }).1 := by
  unfold runHooks at hok
  cases hlost : o.incomplete with
  | true =>
    rw [hlost] at hok
    cases hok
  | false =>
    rw [hlost, if_neg Bool.false_ne_true] at hok
    simp only [Run.bind_run, Run.get_run] at hok
    cases hevent : (executeEvent r (o.request verbose) o.event
        (gatherContext (originOf s.world input o)) s).1 with
    | error e =>
      rw [RunOptions.request] at hevent
      simp only [hevent] at hok
      cases hok
    | ok report =>
      obtain ⟨d, c, entries, hbuilt, hgathered, hreport⟩ := executeEvent_ok hevent
      rw [RunOptions.request] at hevent
      simp only [hevent] at hok
      have hp : printReport o report = p := Except.ok.inj hok
      refine ⟨d, c, entries, hbuilt, hgathered, ?_⟩
      rw [← hreport, ← hp, printReport]
      split <;> rfl

theorem carryOut_run {r : Runner σ} {input : Context.Input} {i : Invocation} {o : RunOptions}
    {s : Session σ} {p : Printed} (hrun : i.command = .run o)
    (hok : (i.carryOut r input s).1 = .ok p) :
    ∃ d c entries, (Dispatcher.build s.world (o.request i.verbose)).1 = .ok d ∧
      (gatherContext (originOf s.world input o) s.world).1 = .ok c ∧
      p.exit = exitCode (d.execute r o.event c { s with entries }).1 := by
  unfold Invocation.carryOut at hok
  simp only [Run.bind_run, Run.get_run] at hok
  cases hlog : ({} : Log.Logger).configure s.world.env i.logRequest with
  | mk log fault =>
    rw [hlog] at hok
    cases fault with
    | some e => cases hok
    | none =>
      rw [hrun] at hok
      simp only [Run.bind_run, Run.get_run, Run.pure_run] at hok
      cases hran : (runHooks r i.verbose input o s).1 with
      | error e =>
        rw [hran] at hok
        cases hok
      | ok printed =>
        rw [hran] at hok
        cases hok
        have hprinted := runHooks_ok hran
        exact hprinted

end Cli

namespace Cli

theorem exitCode_iff {r : Report} (h : r.Faithful) :
    (exitCode r = 2 ↔ r.HasMatched .block) ∧ (exitCode r = 0 ↔ ¬ r.HasMatched .block) := by
  rw [← h.blocked_iff, exitCode, blockedCode]
  cases r.blocked <;> simp

end Cli

namespace Dispatcher

/-- A command that runs the hooks of a policy file that is not there. -/
def quietRun : Cli.Invocation :=
  ⟨false, false, .run ⟨preToolUse, {}, none, false, none, false, false⟩⟩

theorem quietRun_ends :
    ∃ p, (quietRun.carryOut (stuck List.range) .none atRoot).1 = .ok p := by
  have hsome : (quietRun.carryOut (stuck List.range) .none atRoot).1.toOption.isSome = true := by
    decide +kernel
  cases hran : (quietRun.carryOut (stuck List.range) .none atRoot).1 with
  | ok p => exact ⟨p, rfl⟩
  | error e =>
    rw [hran] at hsome
    cases hsome

end Dispatcher

/-! ## The order of hooks -/

/-- Each hook is given the verdict that it is due, whichever of the hooks were run before it. -/
def Run.Yields (exec : Hook → Run σ Verdict) (hooks : List Hook) (s : Session σ)
    (due : Hook → Verdict) : Prop :=
  ∀ t, Run.Reached exec hooks s t → ∀ h ∈ hooks, (exec h t).1 = due h

theorem Run.Yields.independent {exec : Hook → Run σ Verdict} {hooks : List Hook} {s : Session σ}
    {due : Hook → Verdict} (h : Run.Yields exec hooks s due) : Run.Independent exec hooks s :=
  fun t ht hook hmem => (h t ht hook hmem).trans (h s .start hook hmem).symm

namespace Dispatcher

/-- Whatever the order and the way of running, the permission is that of all verdicts due. -/
theorem permission_of_yields {r : Runner σ} {d : Dispatcher} {event : String} {c : Context}
    {s : Session σ} {due : Hook → Verdict} (hon : d.isEnabled = true)
    (harrival : d.policy.settings.parallel = true →
      (r.arrival (d.policy.hooksFor event).length).Perm
        (List.range (d.policy.hooksFor event).length))
    (hdue : Run.Yields (d.execHook r c) (d.policy.hooksFor event) s due) :
    (d.execute r event c s).1.permission =
      .ofVerdicts ((d.policy.hooksFor event).map due) := by
  have hverdicts : (d.policy.hooksFor event).map (fun h => (d.execHook r c h s).1) =
      (d.policy.hooksFor event).map due :=
    List.map_congr_left fun h hh => hdue s .start h hh
  rw [(execute_faithful r d event c s).permission_eq, execute_executed r d event c s hon, results]
  cases hparallel : d.policy.settings.parallel with
  | true =>
    rw [if_pos rfl, hdue.independent.all_eq (harrival hparallel), ← hverdicts, List.map_map]
    rfl
  | false =>
    rw [if_neg Bool.false_ne_true, Run.untilBlocked_verdicts, Run.span,
      Permission.ofVerdicts_take, hdue.independent.verdicts_eq (fun _ h => h) .start, hverdicts]

/-- Two policies with the same hooks for an event, in any order, and run in order or side by side,
lead to the same permission where each hook has the same verdict due in both. -/
theorem execute_permission {r : Runner σ} {r' : Runner σ'} {d d' : Dispatcher} {event : String}
    (c : Context) {s : Session σ} {s' : Session σ'} {due : Hook → Verdict}
    (hon : d.isEnabled = true) (hon' : d'.isEnabled = true)
    (hsame : (d.policy.hooksFor event).Perm (d'.policy.hooksFor event))
    (harrival : d.policy.settings.parallel = true →
      (r.arrival (d.policy.hooksFor event).length).Perm
        (List.range (d.policy.hooksFor event).length))
    (harrival' : d'.policy.settings.parallel = true →
      (r'.arrival (d'.policy.hooksFor event).length).Perm
        (List.range (d'.policy.hooksFor event).length))
    (hdue : Run.Yields (d.execHook r c) (d.policy.hooksFor event) s due)
    (hdue' : Run.Yields (d'.execHook r' c) (d'.policy.hooksFor event) s' due) :
    let permission := Permission.ofVerdicts ((d.policy.hooksFor event).map due)
    ((d.execute r event c s).1.reply preToolUse).decision = .string permission.word ∧
      ((d'.execute r' event c s').1.reply preToolUse).decision = .string permission.word := by
  intro permission
  have hpermission' : permission = .ofVerdicts ((d'.policy.hooksFor event).map due) :=
    Permission.ofVerdicts_perm (hsame.map due)
  rw [Report.decision_reply, Report.decision_reply, permission_of_yields hon harrival hdue,
    permission_of_yields hon' harrival' hdue', ← hpermission']
  exact ⟨rfl, rfl⟩

/-- The patrol with its hooks turned around. -/
def turnedPatrol : Dispatcher :=
  { patrol with policy := ⟨{ enabled := true, parallel := true },
      [(preToolUse, patrolHooks.reverse)]⟩ }

/-- In order the patrol does not come to its last hook, and side by side that one arrives first. The
permission is denied both times. -/
theorem execute_permission_patrol :
    let backwards := fun n => (List.range n).reverse
    let ask := fun d => ((execute (stuck backwards) d preToolUse bareContext atRoot).1.reply
      preToolUse).decision
    patrol.isEnabled = true ∧ turnedPatrol.isEnabled = true ∧
      patrolHooks.Perm patrolHooks.reverse ∧ (backwards 4).Perm (List.range 4) ∧
      ask patrol = .string "deny" ∧ ask turnedPatrol = .string "deny" := by
  intro backwards ask
  have hon : patrol.isEnabled = true := rfl
  have hon' : turnedPatrol.isEnabled = true := rfl
  have hsame : (patrol.policy.hooksFor preToolUse).Perm
      (turnedPatrol.policy.hooksFor preToolUse) := (List.reverse_perm patrolHooks).symm
  have harrival : (backwards 4).Perm (List.range 4) := List.reverse_perm _
  let due := fun h => (patrol.execHook (stuck backwards) bareContext h atRoot).1
  have hdue : Run.Yields (patrol.execHook (stuck backwards) bareContext) patrolHooks atRoot due :=
    independent_of_steady _ _ _ _ (by decide) fun _ _ _ _ _ => rfl
  have hdue' : Run.Yields (turnedPatrol.execHook (stuck backwards) bareContext)
      patrolHooks.reverse atRoot due :=
    independent_of_steady _ turnedPatrol _ _ (by decide) fun _ _ _ _ _ => rfl
  obtain ⟨hask, hask'⟩ :=
    execute_permission bareContext hon hon' hsame nofun (fun _ => harrival) hdue hdue'
  exact ⟨hon, hon', hsame, harrival, hask, hask'⟩

end Dispatcher

end HookPolicy
