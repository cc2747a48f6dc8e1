import HookPolicy.Proofs.Dispatch.Silence
import HookPolicy.Proofs.Json.Spelling

/-!
# What programs of handlers decide

A program that a handler has started and that has come to its end stops an operation, or has the
host ask about it, only where it ends with status 0 and declares so, and it warns where it ends
otherwise. The one exception is what it prints being cut off by a bound of the reader: the hook then
fails, and the policy says what becomes of failures (`turn_action_iff`).
-/

namespace HookPolicy

variable {σ : Type} {o : Outcome} {a : Action} {document : Json}

/-- A program that ended well printed an object whose result declares the action. -/
def Outcome.Declares (o : Outcome) (a : Action) : Prop :=
  o.code = 0 ∧ ∃ fields result, Json.read o.out = .ok (.object fields) ∧
    (Json.object fields).field "result" = .object result ∧
    (Json.object result).field "action" = .string a.word

/-- What the program printed is cut off by a bound of the reader. -/
inductive Outcome.CutOff (o : Outcome) : Prop
  | tooDeep {inObject : Bool} : Json.read o.out = .error (.tooDeep inObject) → CutOff o
  | tooManyDigits {count : Nat} : Json.read o.out = .error (.tooManyDigits count) → CutOff o

/-! ## What is printed -/

def Outcome.isCutOff (o : Outcome) : Bool :=
  match Json.read o.out with
  | .ok _ | .error (.malformed _ _) => false
  | .error (.tooDeep _) | .error (.tooManyDigits _) => true

theorem Outcome.isCutOff_iff : o.isCutOff = true ↔ o.CutOff := by
  unfold isCutOff
  constructor
  · intro h
    split at h
    · cases h
    · cases h
    · rename_i hread
      exact .tooDeep hread
    · rename_i hread
      exact .tooManyDigits hread
  · rintro (hread | hread) <;> rw [hread]

instance (o : Outcome) : Decidable o.CutOff := decidable_of_iff _ Outcome.isCutOff_iff

theorem Json.exists_object_of_field {v w : Json} {name : String} (h : v.field name = w)
    (hw : w ≠ .null) : ∃ fields, v = .object fields := by
  cases v with
  | object fields => exact ⟨fields, rfl⟩
  | _ => exact absurd h.symm hw

theorem Json.eq_string_of_text? {v : Json} {s : String} (h : v.text? = some s) :
    v = .string s := by
  cases v with
  | string s' =>
    cases h
    rfl
  | _ => cases h

theorem Outcome.declares_iff (hread : Json.read o.out = .ok document) :
    o.Declares a ↔ o.code = 0 ∧ (document.field "result").field "action" = .string a.word := by
  constructor
  · rintro ⟨hcode, fields, result, hobject, hresult, haction⟩
    rw [hread] at hobject
    cases hobject
    exact ⟨hcode, by rw [hresult, haction]⟩
  · rintro ⟨hcode, haction⟩
    obtain ⟨result, hresult⟩ := Json.exists_object_of_field haction nofun
    obtain ⟨fields, rfl⟩ := Json.exists_object_of_field hresult nofun
    exact ⟨hcode, fields, result, hread, hresult, by rw [← hresult, haction]⟩

theorem Action.ofWord?_word (a : Action) : Action.ofWord? a.word = some a := by
  cases a <;> rfl

theorem Action.word_of_ofWord? {s : String} (h : Action.ofWord? s = some a) : s = a.word := by
  rw [ofWord?] at h
  have hword := List.find?_some h
  exact (beq_iff_eq.1 hword).symm

/-- An action other than the two that stand for what declares nothing is that of its word. -/
theorem declaredAction_iff (hallow : a ≠ .allow) (hwarn : a ≠ .warn) :
    (declaredAction document).1 = a ↔
      (document.field "result").field "action" = .string a.word := by
  unfold declaredAction
  dsimp only
  generalize (document.field "result").field "action" = declared
  split
  · rename_i hfalsy
    refine iff_of_false hallow.symm fun hdeclared => ?_
    rw [hdeclared] at hfalsy
    cases a <;> cases hfalsy
  · split
    · rename_i b hb
      obtain ⟨s, hs, hword⟩ := Option.bind_eq_some_iff.1 hb
      constructor
      · rintro rfl
        rw [Json.eq_string_of_text? hs, Action.word_of_ofWord? hword]
      · rintro rfl
        cases hs
        rw [Action.ofWord?_word] at hword
        exact (Option.some.inj hword).symm
    · rename_i hnone
      refine iff_of_false hwarn.symm fun hdeclared => ?_
      rw [hdeclared, Json.text?, Option.bind_some, Action.ofWord?_word] at hnone
      cases hnone

theorem Outcome.isOk_iff : o.isOk = true ↔ o.code = 0 := beq_iff_eq

/-- What a program that ended badly printed is never taken for a declaration. -/
theorem interpret_of_failed {reading : Reading} (hcode : o.code ≠ 0)
    (h : interpret o = .ok reading) : reading.action = .warn := by
  have hisOk : o.isOk = false := by
    rw [← Bool.not_eq_true, Outcome.isOk_iff]
    exact hcode
  unfold interpret at h
  rw [hisOk] at h
  split at h
  · cases h
    rfl
  · cases h
  · cases h
    rfl

theorem interpret_iff {reading : Reading} (hallow : a ≠ .allow) (hwarn : a ≠ .warn)
    (h : interpret o = .ok reading) : reading.action = a ↔ o.Declares a := by
  by_cases hcode : o.code = 0
  · have hisOk := Outcome.isOk_iff.2 hcode
    unfold interpret at h
    rw [hisOk] at h
    split at h
    · -- what is no document declares nothing
      rename_i hread
      cases h
      refine iff_of_false hallow.symm ?_
      rintro ⟨-, fields, result, hobject, -⟩
      rw [hread] at hobject
      cases hobject
    · cases h
    · rename_i document hread
      cases h
      rw [Outcome.declares_iff hread, and_iff_right hcode]
      exact declaredAction_iff hallow hwarn
  · refine iff_of_false ?_ fun hdeclares => hcode hdeclares.1
    rw [interpret_of_failed hcode h]
    exact hwarn.symm

theorem interpret_fails_iff : (∃ e, interpret o = .error e) ↔ o.CutOff := by
  unfold interpret
  cases hread : Json.read o.out with
  | error e =>
    cases e with
    | malformed fault offset =>
      refine iff_of_false (by simp) ?_
      rintro (hcut | hcut) <;>
      · rw [hread] at hcut
        cases hcut
    | tooDeep inObject => exact iff_of_true ⟨_, rfl⟩ (.tooDeep hread)
    | tooManyDigits count => exact iff_of_true ⟨_, rfl⟩ (.tooManyDigits hread)
  | ok document =>
    refine iff_of_false ?_ ?_
    · rintro ⟨e, he⟩
      dsimp only at he
      split at he <;> cases he
    · rintro (hcut | hcut) <;>
      · rw [hread] at hcut
        cases hcut

theorem Outcome.CutOff.not_declares (h : o.CutOff) : ¬ o.Declares a := by
  rintro ⟨-, fields, result, hread, -⟩
  rcases h with hcut | hcut <;>
  · rw [hread] at hcut
    cases hcut

/-! ## One turn -/

namespace Dispatcher

variable {r : Runner σ} {d : Dispatcher} {c : Context} {event : String} {s : Session σ}
  {t : Turn σ} {file : String} {call : Call}

/-- The action that the policy has for hooks that fail. -/
def failureAction (d : Dispatcher) : Action :=
  if d.policy.settings.failOnError then .block else .warn

theorem settleHandler_action (h : Hook) (o : Outcome) :
    (d.settleHandler h (.ok o)).1.action = match interpret o with
      | .ok reading => reading.action
      | .error _ => d.failureAction := by
  unfold settleHandler
  dsimp only
  cases interpret o with
  | ok reading => rfl
  | error e => rfl

section

variable (ht : t ∈ turns r d event c s) (hdeed : t.hook.deed = .handler file)
  (hstarted : t.started = [call])
  (hended : (r.start call t.found.world t.found.runner).1 = .ok o)

include ht hdeed hstarted hended

theorem turn_action_eq :
    t.verdict.action = match interpret o with
      | .ok reading => reading.action
      | .error _ => d.failureAction := by
  have hspec := turns_spec ht
  have hcalls := turn_started r d c t.found t.hook
  have hverdict := execHook_verdict r d c t.found t.hook
  rw [← hspec, hstarted] at hcalls
  rw [Plan.eq_start_of_calls hcalls.symm] at hverdict
  dsimp only at hverdict
  rw [← settleHandler_action t.hook o, ← settle_of_handler hdeed, ← hended, ← hverdict]
  exact congrArg (·.verdict.action) hspec

/-- A handler whose program has come to its end blocks or asks exactly where the program ended with
status 0 and declares so, and it warns where the program ended otherwise. Only what is cut off while
it is read makes the hook fail, and then the hook blocks if the policy has failures block. -/
theorem turn_action_iff :
    (t.verdict.action = .block ↔
      o.Declares .block ∨ o.CutOff ∧ d.policy.settings.failOnError = true) ∧
    (t.verdict.action = .confirm ↔ o.Declares .confirm) ∧
    (o.code ≠ 0 → (t.verdict.action = .warn ↔
      ¬ (o.CutOff ∧ d.policy.settings.failOnError = true))) := by
  have haction := turn_action_eq ht hdeed hstarted hended
  -- what is read whole is never cut off, and what is cut off declares nothing
  cases hread : interpret o with
  | ok reading =>
    rw [hread] at haction
    have hwhole : ¬ o.CutOff := fun hcut => by
      obtain ⟨e, he⟩ := interpret_fails_iff.2 hcut
      rw [hread] at he
      cases he
    dsimp only at haction
    rw [haction]
    refine ⟨?_, interpret_iff nofun nofun hread, fun hcode => ?_⟩
    · rw [interpret_iff (a := .block) nofun nofun hread, or_iff_left fun hcut => hwhole hcut.1]
    · exact iff_of_true (interpret_of_failed hcode hread) fun hcut => hwhole hcut.1
  | error e =>
    rw [hread] at haction
    have hcut : o.CutOff := interpret_fails_iff.1 ⟨e, hread⟩
    have hnone : ∀ a, ¬ o.Declares a := fun a => hcut.not_declares
    dsimp only at haction
    rw [haction, failureAction]
    cases d.policy.settings.failOnError <;> simp [hcut, hnone]

end

/-- A policy under which failures block. -/
def strict : Policy := ⟨{ enabled := true, failOnError := true }, [(preToolUse, [audit])]⟩

def strictDispatcher : Dispatcher := { lookoutDispatcher with policy := strict }

/-- All programs end in the same way. -/
def ending (o : Outcome) : Runner Unit where
  start _ w u := (.ok o, w, u)

def auditTurn (o : Outcome) : Turn Unit :=
  Run.turn (strictDispatcher.execHook (ending o) bareContext) audit inYard

theorem auditTurn_mem (o : Outcome) :
    auditTurn o ∈ turns (ending o) strictDispatcher preToolUse bareContext inYard := by
  have hran : ran (ending o) strictDispatcher preToolUse bareContext inYard = [audit] := by
    rw [ran_in_order rfl]
    exact List.take_of_length_le (Nat.le_add_left 1 _)
  rw [turns_of_enabled rfl, hran]
  exact List.mem_singleton.2 rfl

theorem auditTurn_started (o : Outcome) :
    (auditTurn o).started = [.handler ⟨1, ["audit.sh"]⟩ bareContext.exported defaultTimeout] := by
  rw [auditTurn, turn_started, plan_of_applies strictDispatcher bareContext ⟨rfl, rfl⟩]
  rfl

def question : Outcome :=
  { out := "\x7b\"result\": \x7b\"action\": \"confirm\"\x7d\x7d" }

/-- What is declared by a program that ended badly. -/
def crash : Outcome := { question with code := 1 }

theorem read_question :
    Json.read question.out =
      .ok (.object [("result", .object [("action", .string "confirm")])]) := by
  cbv

theorem turn_action_question :
    question.Declares .confirm ∧ (auditTurn question).verdict.action = .confirm ∧
      crash.code ≠ 0 ∧ (auditTurn crash).verdict.action = .warn := by
  have hdeclares : question.Declares .confirm := ⟨rfl, _, _, read_question, rfl, rfl⟩
  have hwhole : ¬ crash.CutOff := by decide +kernel
  obtain ⟨-, hconfirm, -⟩ :=
    turn_action_iff (auditTurn_mem question) rfl (auditTurn_started question) rfl
  obtain ⟨-, -, hwarn⟩ := turn_action_iff (auditTurn_mem crash) rfl (auditTurn_started crash) rfl
  have hcode : crash.code ≠ 0 := by decide
  exact ⟨hdeclares, hconfirm.2 hdeclares, hcode, (hwarn hcode).2 fun hcut => hwhole hcut.1⟩

/-- A program that ended badly and printed one number, which is longer than the reader takes. -/
def overlong : Outcome := { code := 1, out := String.ofList (.replicate 4301 '1'), err := "boom" }

theorem areNumber_ones (n : Nat) : Json.AreNumber (.replicate (n + 1) '1') none none where
  areDigits c hc := by
    rw [List.eq_of_mem_replicate hc]
    decide
  nonempty := nofun
  zero := nofun
  places := nofun
  power := nofun

theorem overlong_cutOff : overlong.CutOff := by
  have hlong : Json.digitLimit < (List.replicate (4300 + 1) '1').length := by
    rw [List.length_replicate]
    decide
  refine .tooManyDigits (Eq.trans ?_
    (Json.readWithin_tooManyDigits (areNumber_ones 4300) hlong Json.nestingLimit))
  rw [Json.read_eq, overlong, String.toList_ofList]

/-- The hook blocks, although its program ended with another status than 0 and declared nothing. -/
theorem overlong_blocks :
    auditTurn overlong ∈ turns (ending overlong) strictDispatcher preToolUse bareContext inYard ∧
      (auditTurn overlong).hook.deed = .handler "audit.sh" ∧
      (auditTurn overlong).started =
        [.handler ⟨1, ["audit.sh"]⟩ bareContext.exported defaultTimeout] ∧
      overlong.code ≠ 0 ∧ (auditTurn overlong).verdict.action = .block := by
  obtain ⟨e, hread⟩ := interpret_fails_iff.2 overlong_cutOff
  have haction := turn_action_eq (auditTurn_mem overlong) rfl (auditTurn_started overlong) rfl
  rw [hread] at haction
  exact ⟨auditTurn_mem overlong, rfl, auditTurn_started overlong, by decide, haction⟩

end Dispatcher

end HookPolicy
