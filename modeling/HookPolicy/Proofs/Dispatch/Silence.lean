import HookPolicy.Proofs.Dispatch.Programs

/-!
# What a silent dispatcher logs

A silent dispatcher keeps back what is no error: nothing less is logged while it is built, and a run
logs nothing less of its own accord. The one thing that is logged whoever is silent is what a handler
declares in vain, so the remarks of a silent dispatcher are exactly those.
-/

namespace HookPolicy

variable {σ : Type}

/-- The dispatcher itself says something that is no error. -/
def Log.Entry.IsRemark (e : Log.Entry) : Prop := e.source = Dispatcher.source ∧ e.level < Log.error

def Log.Quiet (entries : List Log.Entry) : Prop := ∀ e ∈ entries, ¬ e.IsRemark

namespace Log.Quiet

variable {a b : List Log.Entry}

theorem nil : Quiet [] := nofun

theorem append (ha : Quiet a) (hb : Quiet b) : Quiet (a ++ b) := by
  intro e he
  rcases List.mem_append.1 he with he | he
  · exact ha e he
  · exact hb e he

theorem flatMap {α : Type} {f : α → List Log.Entry} (hf : ∀ x, Quiet (f x)) (l : List α) :
    Quiet (l.flatMap f) := by
  intro e he
  obtain ⟨x, -, hx⟩ := List.mem_flatMap.1 he
  exact hf x e hx

/-- Other parts of the program have sources of their own. -/
theorem of_source (source : String) (hsource : source ≠ Dispatcher.source)
    (h : ∀ e ∈ a, e.source = source) : Quiet a :=
  fun e he hremark => hsource ((h e he).symm.trans hremark.1)

theorem dispatchEntries (level : Log.Level) (message : String) :
    Quiet (dispatchEntries true level message) := by
  intro e he hremark
  unfold HookPolicy.dispatchEntries at he
  split at he
  · cases he
  · rename_i hkept
    obtain rfl := List.mem_singleton.1 he
    simp only [Bool.true_and, decide_eq_true_eq] at hkept
    exact hkept hremark.2

end Log.Quiet

namespace Dispatcher

open Log

/-! ## Building -/

theorem policyOf_quiet (w : World) {req : DispatchRequest} (hsilent : req.silent = true)
    (file : Path) : Quiet (policyOf w req file).2 := by
  unfold policyOf
  rw [hsilent]
  split
  · exact .nil
  · split
    · exact .nil
    · dsimp only
      exact .dispatchEntries _ _
    · split
      · dsimp only
        exact .dispatchEntries _ _
      · exact .nil

theorem findHandlers_quiet (w : World) (dir : Path) (handlers : List (String × Path))
    (hooks : List (String × Hook)) : Quiet (findHandlers w true dir handlers hooks).2 := by
  induction hooks generalizing handlers with
  | nil => exact .nil
  | cons p hooks ih =>
    unfold findHandlers
    split
    · dsimp only
      split
      · exact .nil
      · exact ih _
      · exact (Quiet.dispatchEntries _ _).append (ih _)
    · exact ih _

theorem countEntries_quiet (handlers : List (String × Path)) :
    Quiet (countEntries true handlers) := by
  unfold countEntries
  split
  · exact .nil
  · exact .dispatchEntries _ _

theorem build_quiet (w : World) {req : DispatchRequest} (hsilent : req.silent = true) :
    Quiet (build w req).2 := by
  have hpolicy := policyOf_quiet w hsilent (Policy.place w req.policyFile)
  unfold build
  dsimp only
  split
  · rename_i heq
    rw [heq] at hpolicy
    exact hpolicy
  · rename_i p entries heq
    rw [heq] at hpolicy
    have hoff : Quiet (if p.settings.enabled = true then [] else
        dispatchEntries req.silent Log.info "Hooks are disabled in configuration") := by
      rw [hsilent]
      split
      · exact .nil
      · exact .dispatchEntries _ _
    have hfound := findHandlers_quiet w (handlersDirOf req (Policy.place w req.policyFile)) []
      p.allHooks
    rw [← hsilent] at hfound
    split
    · rename_i hfind
      rw [hfind] at hfound
      exact (hpolicy.append hoff).append hfound
    · rename_i hfind
      rw [hfind] at hfound
      refine ((hpolicy.append hoff).append hfound).append ?_
      rw [hsilent]
      exact countEntries_quiet _

/-! ## Planning -/

variable {d : Dispatcher}

theorem note_quiet (hsilent : d.silent = true) (level : Log.Level) (message : String) :
    Quiet (d.note level message) := by
  rw [note, hsilent]
  exact .dispatchEntries _ _

theorem matches_quiet (h : Hook) (c : Context) : Quiet (h.matches c).2 := by
  refine .of_source (Log.moduleName "matcher") (by decide) fun e he => ?_
  unfold Hook.matches at he
  split at he
  · cases he
  · split at he
    · cases he
    · split at he
      · cases he
      · obtain rfl := List.mem_singleton.1 he
        rfl

theorem permits_quiet (h : Hook) (w : World) (c : Context) : Quiet (h.permits w c).2 := by
  refine .of_source (Log.moduleName "conditions") (by decide) fun e he => ?_
  unfold Hook.permits at he
  split at he
  · cases he
  · split at he
    · cases he
    · obtain ⟨remark, -, rfl⟩ := List.mem_map.1 he
      rfl

theorem planDeed_quiet (hsilent : d.silent = true) (c : Context) (h : Hook) :
    Quiet (d.planDeed c h).2 := by
  unfold planDeed
  split
  · exact .nil
  · exact .nil
  · unfold planCommand
    dsimp only
    split
    · exact .flatMap (fun _ => note_quiet hsilent _ _) _
    · exact note_quiet hsilent _ _

theorem plan_action_ne_start {w : World} {c : Context} {h : Hook} {a : Action}
    (hdeed : h.deed = .action a) (call : Call) : (d.plan w c h).1 ≠ .start call := by
  by_cases happlies : h.Applies w c
  · rw [plan_of_applies d c happlies, planDeed, hdeed]
    simp
  · obtain ⟨v, hplan, -⟩ := plan_of_not_applies d c happlies
    rw [hplan]
    simp

theorem plan_quiet (hsilent : d.silent = true) (w : World) (c : Context) (h : Hook) :
    Quiet (d.plan w c h).2 := by
  have hmatches := matches_quiet h c
  have hpermits := permits_quiet h w c
  unfold plan
  split
  · rename_i heq
    rw [heq] at hmatches
    exact hmatches
  · rename_i heq
    rw [heq] at hmatches
    split
    · rename_i heq
      rw [heq] at hpermits
      exact (hmatches.append hpermits).append (note_quiet hsilent _ _)
    · rename_i heq
      rw [heq] at hpermits
      exact hmatches.append hpermits
    · rename_i heq
      rw [heq] at hpermits
      exact (hmatches.append hpermits).append (planDeed_quiet hsilent c h)

end Dispatcher

/-! ## What handlers declare -/

/-- A program that ended well printed a document whose action is given and is none. -/
def Outcome.DeclaresUnknown (o : Outcome) (v : Json) : Prop :=
  o.code = 0 ∧ ∃ document, Json.read o.out = .ok document ∧
    (document.field "result").field "action" = v ∧ v.isTruthy = true ∧
    ∀ a : Action, v ≠ .string a.word

def unknownEntry (v : Json) : Log.Entry where
  source := Dispatcher.source
  level := Log.warning
  message := "Handler declared unknown action " ++ v.inspect ++ ", treating as warn"

theorem unknownEntry_isRemark (v : Json) : (unknownEntry v).IsRemark :=
  ⟨rfl, show Log.warning < Log.error by decide⟩

theorem Action.ofWord?_eq_none_iff {s : String} :
    Action.ofWord? s = none ↔ ∀ a : Action, s ≠ a.word := by
  unfold Action.ofWord?
  rw [List.find?_eq_none]
  constructor
  · intro h a hs
    refine h a ?_ (beq_iff_eq.2 hs.symm)
    cases a <;> simp
  · intro h a _ hword
    exact h a (beq_iff_eq.1 hword).symm

theorem isAction_eq_none_iff {v : Json} :
    v.text?.bind Action.ofWord? = none ↔ ∀ a : Action, v ≠ .string a.word := by
  cases v with
  | string s => simp [Json.text?, Action.ofWord?_eq_none_iff]
  | _ => simp [Json.text?]

theorem declaredAction_unknown_iff {document v : Json} :
    (declaredAction document).2 = some v ↔
      (document.field "result").field "action" = v ∧ v.isTruthy = true ∧
        ∀ a : Action, v ≠ .string a.word := by
  rw [← isAction_eq_none_iff]
  unfold declaredAction
  dsimp only
  split
  · rename_i hfalsy
    rw [Bool.not_eq_true'] at hfalsy
    refine iff_of_false (by simp) ?_
    rintro ⟨rfl, htruthy, -⟩
    rw [hfalsy] at htruthy
    cases htruthy
  · rename_i htruthy
    rw [Bool.not_eq_true', Bool.not_eq_false] at htruthy
    split
    · rename_i a haction
      refine iff_of_false (by simp) ?_
      rintro ⟨rfl, -, hnone⟩
      rw [hnone] at haction
      cases haction
    · rename_i hnone
      constructor
      · rintro ⟨⟩
        exact ⟨rfl, htruthy, hnone⟩
      · rintro ⟨rfl, -, -⟩
        rfl

/-- A reading has something to say exactly about what was declared in vain. -/
theorem mem_entries_iff {o : Outcome} {e : Log.Entry} :
    (∃ reading, interpret o = .ok reading ∧ e ∈ reading.entries) ↔
      ∃ v, o.DeclaresUnknown v ∧ e = unknownEntry v := by
  have hentries : ∀ (reading : Reading),
      e ∈ reading.entries ↔ ∃ v, reading.unknown = some v ∧ e = unknownEntry v := by
    intro reading
    unfold Reading.entries
    cases reading.unknown with
    | none => simp
    | some v => simp [unknownEntry]
  unfold interpret Outcome.DeclaresUnknown
  cases hread : Json.read o.out with
  | error fault =>
    -- what is no document is the output itself, and declares nothing
    refine iff_of_false ?_ (by simp)
    rintro ⟨reading, hreading, he⟩
    obtain ⟨v, hv, -⟩ := (hentries reading).1 he
    cases fault <;> cases hreading
    cases hv
  | ok document =>
    by_cases hok : o.code = 0
    · have hisOk : o.isOk = true := by simpa [Outcome.isOk] using hok
      simp only [hisOk, Bool.not_true, Bool.false_eq_true, if_false, Except.ok.injEq,
        exists_eq_left', hentries, declaredAction_unknown_iff, hok, true_and]
    · have hisOk : o.isOk = false := by simpa [Outcome.isOk] using hok
      simp [hisOk, hentries, hok]

/-- The program that a handler starts in its turn declares something in vain. -/
def Turn.DeclaresUnknown (r : Runner σ) (t : Turn σ) (v : Json) : Prop :=
  ∃ file call o, t.hook.deed = .handler file ∧ t.started = [call] ∧
    (r.start call t.found.world t.found.runner).1 = .ok o ∧ o.DeclaresUnknown v

namespace Turn

def noted (t : Turn σ) : List Log.Entry := t.left.entries.drop t.found.entries.length

end Turn

namespace Dispatcher

open Log

variable {r : Runner σ} {d : Dispatcher} {c : Context}

theorem execHook_entries (r : Runner σ) (d : Dispatcher) (c : Context) (h : Hook) (s : Session σ) :
    (d.execHook r c h s).2.entries = s.entries ++ ((d.plan s.world c h).2 ++
      match (d.plan s.world c h).1 with
      | .verdict _ => []
      | .start call => (d.settle h (r.start call s.world s.runner).1).2) := by
  unfold execHook follow
  simp only [Run.bind_run, Run.get_run, Run.log_run]
  cases (d.plan s.world c h).1 with
  | verdict v => simp
  | start call => exact List.append_assoc _ _ _

theorem failure_quiet (hsilent : d.silent = true) (h : Hook) (f : HookFault) :
    Quiet (d.failure h f).2 :=
  note_quiet hsilent _ _

theorem settleCommand_quiet (hsilent : d.silent = true) (h : Hook) (onFailure : Action)
    (silent : Bool) (result : Except RunFault Outcome) :
    Quiet (d.settleCommand h onFailure silent result).2 := by
  unfold settleCommand
  split
  · exact .nil
  · exact .nil
  · exact failure_quiet hsilent h _
  · split
    · exact .nil
    · exact .nil

theorem settle_of_handler {h : Hook} {file : String} (hdeed : h.deed = .handler file) :
    d.settle h = d.settleHandler h := by
  funext result
  rw [settle, hdeed]

theorem settleHandler_remark_iff (hsilent : d.silent = true) (h : Hook)
    (result : Except RunFault Outcome) (e : Entry) :
    (e ∈ (d.settleHandler h result).2 ∧ e.IsRemark) ↔
      ∃ o v, result = .ok o ∧ o.DeclaresUnknown v ∧ e = unknownEntry v := by
  cases result with
  | error fault =>
    refine iff_of_false ?_ (by simp)
    rintro ⟨he, hremark⟩
    cases fault with
    | timeout message output => cases he
    | notStarted message => cases he
    | unexpected label message => exact failure_quiet hsilent h _ e he hremark
  | ok o =>
    have hsaid : (∃ o' v, (.ok o : Except RunFault Outcome) = .ok o' ∧ o'.DeclaresUnknown v ∧
        e = unknownEntry v) ↔ ∃ reading, interpret o = .ok reading ∧ e ∈ reading.entries := by
      simp [mem_entries_iff]
    rw [hsaid]
    unfold settleHandler
    dsimp only
    cases hread : interpret o with
    | error fault =>
      refine iff_of_false ?_ (by simp)
      rintro ⟨he, hremark⟩
      exact failure_quiet hsilent h _ e he hremark
    | ok reading =>
      constructor
      · rintro ⟨he, -⟩
        exact ⟨reading, rfl, he⟩
      · rintro ⟨reading', heq, he⟩
        cases heq
        obtain ⟨v, -, rfl⟩ := mem_entries_iff.1 ⟨reading, hread, he⟩
        exact ⟨he, unknownEntry_isRemark v⟩

/-! ## One turn -/

theorem turn_left (h : Hook) (s : Session σ) :
    (Run.turn (d.execHook r c) h s).left.entries =
      s.entries ++ (Run.turn (d.execHook r c) h s).noted := by
  rw [Turn.noted, Run.turn, execHook_entries, List.drop_left]

theorem turn_noted (h : Hook) (s : Session σ) :
    (Run.turn (d.execHook r c) h s).noted = (d.plan s.world c h).2 ++
      match (d.plan s.world c h).1 with
      | .verdict _ => []
      | .start call => (d.settle h (r.start call s.world s.runner).1).2 := by
  rw [Turn.noted, Run.turn, execHook_entries, List.drop_left]

/-- Only what a handler declares in vain makes a silent dispatcher say something in a turn. -/
theorem turn_remark_iff (hsilent : d.silent = true) (h : Hook) (s : Session σ) (e : Entry) :
    (e ∈ (Run.turn (d.execHook r c) h s).noted ∧ e.IsRemark) ↔
      ∃ v, (Run.turn (d.execHook r c) h s).DeclaresUnknown r v ∧ e = unknownEntry v := by
  have hstarted := turn_started r d c s h
  have hplan : e.IsRemark → e ∉ (d.plan s.world c h).2 :=
    fun hremark he => plan_quiet hsilent s.world c h e he hremark
  rw [turn_noted]
  -- the plan is quiet, so a remark is made on what has been started, and on that of a handler only
  cases hcall : (d.plan s.world c h).1 with
  | verdict v =>
    rw [hcall] at hstarted
    refine iff_of_false ?_ ?_
    · rintro ⟨he, hremark⟩
      exact hplan hremark (by simpa using he)
    · rintro ⟨v, ⟨file, call, o, -, hone, -⟩, -⟩
      rw [hstarted] at hone
      cases hone
  | start call =>
    rw [hcall, Plan.calls] at hstarted
    dsimp only
    cases hdeed : h.deed with
    | action a => exact absurd hcall (plan_action_ne_start hdeed call)
    | command template onFailure silent =>
      refine iff_of_false ?_ ?_
      · rintro ⟨he, hremark⟩
        rcases List.mem_append.1 he with he | he
        · exact hplan hremark he
        · rw [settle, hdeed] at he
          exact settleCommand_quiet hsilent h onFailure silent _ e he hremark
      · rintro ⟨v, ⟨file, call, o, hfile, -⟩, -⟩
        exact absurd (hdeed.symm.trans hfile) (by simp)
    | handler file =>
      rw [settle_of_handler hdeed]
      have hiff := settleHandler_remark_iff hsilent h (r.start call s.world s.runner).1 e
      constructor
      · rintro ⟨he, hremark⟩
        rcases List.mem_append.1 he with he | he
        · exact absurd he (hplan hremark)
        · obtain ⟨o, v, hresult, hdeclares, hentry⟩ := hiff.1 ⟨he, hremark⟩
          exact ⟨v, ⟨file, call, o, hdeed, hstarted, hresult, hdeclares⟩, hentry⟩
      · rintro ⟨v, ⟨_, call', o, -, hone, hresult, hdeclares⟩, hentry⟩
        rw [hstarted] at hone
        obtain rfl := (List.cons.inj hone).1
        obtain ⟨he, hremark⟩ := hiff.2 ⟨o, v, hresult, hdeclares, hentry⟩
        exact ⟨List.mem_append_right _ he, hremark⟩

/-! ## A whole run -/

/-- What is logged while hooks are run one after the other. -/
theorem mapM_entries (hooks : List Hook) (s : Session σ) :
    (hooks.mapM (d.execHook r c) s).2.entries =
      s.entries ++ (Run.turns (d.execHook r c) hooks s).flatMap Turn.noted := by
  induction hooks generalizing s with
  | nil => simp [Run.turns]
  | cons h hooks ih =>
    rw [Run.mapM_cons_run, Run.turns, List.flatMap_cons, ← List.append_assoc, ← turn_left]
    exact ih _

/-- A run logs what its turns do and, in the end, a summary that a silent dispatcher keeps back. -/
theorem execute_entries (r : Runner σ) (c : Context) (hsilent : d.silent = true) (event : String)
    (s : Session σ) :
    ∃ summary, Quiet summary ∧ (d.execute r event c s).2.entries =
      s.entries ++ ((turns r d event c s).flatMap Turn.noted ++ summary) := by
  cases hon : d.isEnabled with
  | false =>
    rw [execute_disabled r d event c s hon, turns_of_disabled hon]
    exact ⟨[], .nil, by simp⟩
  | true =>
    rw [turns_of_enabled hon]
    cases hhooks : d.policy.hooksFor event with
    | nil =>
      rw [ran_of_no_hooks hhooks]
      simp only [execute, executeWith, hon, hhooks]
      exact ⟨[], .nil, by simp [Run.turns]⟩
    | cons h hooks =>
      -- whichever way the hooks are run, the entries stand in the order of the turns
      refine ⟨_, note_quiet hsilent Log.debug (summary (d.execute r event c s).1), ?_⟩
      rw [← List.append_assoc, ← mapM_entries]
      cases hp : d.policy.settings.parallel with
      | true =>
        rw [ran_side_by_side hp, hhooks, ← (Run.inArrival_turns _ _ _ s).2]
        simp only [execute, executeWith, hon, hhooks, hp]
        rfl
      | false =>
        rw [ran_in_order hp, hhooks, ← congrArg Prod.snd (Run.untilBlocked_turns _ _ s)]
        simp only [execute, executeWith, hon, hhooks, hp]
        rfl

/-- A call of the dispatcher, with what has happened to the world since the call before. -/
structure Occasion where
  since : World → World := id
  event : String
  context : Context

def Occasion.enter (o : Occasion) (s : Session σ) : Session σ := { s with world := o.since s.world }

def attend (r : Runner σ) (d : Dispatcher) (o : Occasion) : Run σ Report :=
  fun s => d.execute r o.event o.context (o.enter s)

def attendAll (r : Runner σ) (d : Dispatcher) (occasions : List Occasion) : Run σ (List Report) :=
  occasions.mapM (d.attend r)

def occasionTurns (r : Runner σ) (d : Dispatcher) : List Occasion → Session σ → List (Turn σ)
  | [], _ => []
  | o :: rest, s =>
    turns r d o.event o.context (o.enter s) ++ occasionTurns r d rest (d.attend r o s).2

/-- What is logged on some occasions; its remarks are what handlers declare in vain. -/
theorem attendAll_entries (r : Runner σ) (hsilent : d.silent = true) (occasions : List Occasion)
    (s : Session σ) :
    ∃ added, (d.attendAll r occasions s).2.entries = s.entries ++ added ∧
      ∀ e, (e ∈ added ∧ e.IsRemark) ↔
        ∃ t ∈ occasionTurns r d occasions s, ∃ v, t.DeclaresUnknown r v ∧ e = unknownEntry v := by
  induction occasions generalizing s with
  | nil => exact ⟨[], by simp [attendAll], by simp [occasionTurns]⟩
  | cons o occasions ih =>
    obtain ⟨summary, hquiet, hfirst⟩ := execute_entries r o.context hsilent o.event (o.enter s)
    obtain ⟨added, hadded, hremarks⟩ := ih (d.attend r o s).2
    refine ⟨(turns r d o.event o.context (o.enter s)).flatMap Turn.noted ++ summary ++ added, ?_,
      fun e => ?_⟩
    · rw [attendAll, List.mapM_cons]
      show (d.attendAll r occasions (d.attend r o s).2).2.entries = _
      rw [hadded, show (d.attend r o s).2.entries = _ from hfirst]
      simp [Occasion.enter]
    · have hturn : ∀ t ∈ turns r d o.event o.context (o.enter s), (e ∈ t.noted ∧ e.IsRemark) ↔
          ∃ v, t.DeclaresUnknown r v ∧ e = unknownEntry v := by
        intro t ht
        rw [turns_spec ht]
        exact turn_remark_iff hsilent t.hook t.found e
      rw [occasionTurns, List.mem_append, List.mem_append, List.mem_flatMap]
      constructor
      · rintro ⟨(⟨t, ht, he⟩ | he) | he, hremark⟩
        · exact ⟨t, List.mem_append_left _ ht, (hturn t ht).1 ⟨he, hremark⟩⟩
        · exact absurd hremark (hquiet e he)
        · obtain ⟨t, ht, hv⟩ := (hremarks e).1 ⟨he, hremark⟩
          exact ⟨t, List.mem_append_right _ ht, hv⟩
      · rintro ⟨t, ht, hv⟩
        rcases List.mem_append.1 ht with ht | ht
        · obtain ⟨he, hremark⟩ := (hturn t ht).2 hv
          exact ⟨.inl (.inl ⟨t, ht, he⟩), hremark⟩
        · obtain ⟨he, hremark⟩ := (hremarks e).2 ⟨t, ht, hv⟩
          exact ⟨.inr he, hremark⟩

/-- A dispatcher that is asked to be silent makes no remark while it is built, and then, whatever it
is called for, whatever programs come to and whatever happens in between, exactly those on what
handlers declare in vain. All else that it logs are errors. -/
theorem build_attendAll_remarks {w : World} {req : DispatchRequest} (hsilent : req.silent = true) :
    (∀ e ∈ (build w req).2, e.source = source → Log.error ≤ e.level) ∧
      ∀ d, (build w req).1 = .ok d → ∀ (r : Runner σ) (occasions : List Occasion) (s : Session σ),
        ∃ added, (d.attendAll r occasions s).2.entries = s.entries ++ added ∧
          ∀ e, (e ∈ added ∧ e.source = source ∧ e.level < Log.error) ↔
            ∃ t ∈ occasionTurns r d occasions s, ∃ v,
              t.DeclaresUnknown r v ∧ e = unknownEntry v := by
  refine ⟨fun e he hsource => ?_, fun d hbuilt r occasions s => ?_⟩
  · exact Int.not_lt.1 fun hlt => build_quiet w hsilent e he ⟨hsource, hlt⟩
  · obtain ⟨-, -, -, -, hd⟩ := build_eq_ok hbuilt
    exact attendAll_entries r (hd.trans hsilent) occasions s

def lookout : Policy := ⟨{ enabled := true, parallel := true }, [(preToolUse, [audit])]⟩

def lookoutRequest : DispatchRequest :=
  { policyFile := "/hooks.json", silent := true, policy := some lookout }

def lookoutDispatcher : Dispatcher where
  policyFile := ⟨1, ["hooks.json"]⟩
  handlersDir := ⟨1, []⟩
  silent := true
  policy := lookout
  handlers := [("check", ⟨1, ["audit.sh"]⟩)]

theorem build_lookout : (build yard lookoutRequest).1 = .ok lookoutDispatcher := by
  have hfile : Policy.place yard lookoutRequest.policyFile = ⟨1, ["hooks.json"]⟩ := by cbv
  obtain ⟨-, haudit⟩ := programOf_yard
  have hfound : (findHandlers yard true ⟨1, []⟩ [] lookout.allHooks).1 =
      .ok [("check", ⟨1, ["audit.sh"]⟩)] := by
    show (findHandlers yard true ⟨1, []⟩ [] [(preToolUse, audit)]).1 = _
    rw [findHandlers_cons_handler rfl lookFor_yard.2, haudit]
    rfl
  exact build_of_found hfile rfl hfound

def morning : Occasion := { event := preToolUse, context := bareContext }

/-- A program that cannot be started declares nothing, so there is no remark. -/
theorem build_attendAll_remarks_lookout :
    lookoutRequest.silent = true ∧ (build yard lookoutRequest).1 = .ok lookoutDispatcher ∧
      ∃ added,
        (lookoutDispatcher.attendAll (stuck List.range) [morning, morning] inYard).2.entries =
          inYard.entries ++ added ∧
        ∀ e ∈ added, e.source = source → ¬ e.level < Log.error := by
  have hsilent : lookoutRequest.silent = true := rfl
  obtain ⟨-, hrun⟩ := @build_attendAll_remarks Unit yard lookoutRequest hsilent
  obtain ⟨added, hadded, hremarks⟩ :=
    hrun lookoutDispatcher build_lookout (stuck List.range) [morning, morning] inYard
  refine ⟨rfl, build_lookout, added, hadded, fun e he hsource hlevel => ?_⟩
  obtain ⟨t, -, v, ⟨file, call, o, -, -, hresult, -⟩, -⟩ := (hremarks e).1 ⟨he, hsource, hlevel⟩
  cases hresult

def denial : Outcome :=
  { out := "\x7b\"result\": \x7b\"action\": \"deny\"\x7d\x7d" }

def denying : Runner Unit where
  start _ w u := (.ok denial, w, u)

theorem denial_declares : denial.DeclaresUnknown (.string "deny") := by
  have hread : Json.read denial.out =
      .ok (.object [("result", .object [("action", .string "deny")])]) := by
    cbv
  refine ⟨rfl, _, hread, rfl, rfl, fun a => ?_⟩
  cases a <;> simp [Action.word]

/-- A silent dispatcher logs a warning on what a handler declares in vain. -/
theorem silent_dispatcher_warns :
    lookoutRequest.silent = true ∧ (build yard lookoutRequest).1 = .ok lookoutDispatcher ∧
      ∃ e ∈ (lookoutDispatcher.attendAll denying [morning] inYard).2.entries,
        e.source = source ∧ e.level < Log.error := by
  let t := Run.turn (lookoutDispatcher.execHook denying bareContext) audit inYard
  have ht : t ∈ occasionTurns denying lookoutDispatcher [morning] inYard :=
    List.mem_singleton.2 rfl
  have hstarted : t.started =
      [.handler ⟨1, ["audit.sh"]⟩ bareContext.exported defaultTimeout] := by
    rw [turn_started, plan_of_applies lookoutDispatcher bareContext ⟨rfl, rfl⟩]
    rfl
  obtain ⟨added, hadded, hremarks⟩ := attendAll_entries denying
    (show lookoutDispatcher.silent = true from rfl) [morning] inYard
  obtain ⟨he, hremark⟩ := (hremarks (unknownEntry (.string "deny"))).2
    ⟨t, ht, .string "deny", ⟨_, _, denial, rfl, hstarted, rfl, denial_declares⟩, rfl⟩
  rw [hadded]
  exact ⟨rfl, build_lookout, _, List.mem_append_right _ he, hremark⟩

end Dispatcher

end HookPolicy
