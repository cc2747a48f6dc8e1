import HookPolicy.Proofs.Dispatch.Fallback
import HookPolicy.Proofs.Dispatch.Shapes
import HookPolicy.Proofs.Policy.Linting
import HookPolicy.Proofs.Shell.Substitution

/-!
# Commands that are refused

A lint checks the template of a command for dangerous shapes. A run refuses it for these and, with
the same values for every context, for placeholders whose keys no command has a value for. So a lint
foretells all refusals but those for such keys (`lint_foretells_refusal`).
-/

namespace HookPolicy

variable {σ : Type}

/-! ## Placeholders without values -/

def commandKeys : List String := ["path", "tool", "command"]

/-- The keys of the placeholders of a template that stand for nothing in a command. -/
def strays (template : String) : List (List Char) :=
  ((Shell.pieces template).filterMap Shell.Piece.key?).filter (String.ofList · ∉ commandKeys)

def strayErrors (template : String) : List String :=
  if strays template = [] then []
  else ["Unsubstituted placeholders: " ++
    String.ofList (Text.joinWith [',', ' '] ((strays template).map Shell.slotText))]

theorem commandFields_get?_isNone (c : Context) (key : String) :
    ((commandFields c).get? key).isNone = decide (key ∉ commandKeys) := by
  unfold commandFields commandKeys Fields.get?
  by_cases hpath : key = "path"
  · simp [hpath]
  · by_cases htool : key = "tool"
    · simp [htool]
    · by_cases hcommand : key = "command"
      · simp [hcommand]
      · simp [List.lookup_cons, beq_false_of_ne, hpath, htool, hcommand]

theorem missingAll_eq_strays (c : Context) (template : String) :
    Shell.missingAll (Shell.fieldValues (commandFields c)) (Shell.pieces template) =
      (strays template).map Shell.slotText := by
  unfold Shell.missingAll strays
  rw [List.filter_filterMap, List.map_filterMap]
  refine List.filterMap_congr fun piece _ => ?_
  cases piece with
  | char c => rfl
  | slot key =>
    have hnone : (Shell.fieldValues (commandFields c) key).isNone =
        decide (String.ofList key ∉ commandKeys) := by
      rw [Shell.fieldValues, Option.isNone_map, commandFields_get?_isNone]
    simp only [Shell.Piece.missing?, hnone, Shell.Piece.key?]
    by_cases hstray : String.ofList key ∈ commandKeys
    · simp [hstray]
    · simp [hstray]

/-- A command without dangerous shapes has the same defects for every context. -/
theorem commandOf_errors (c : Context) {template : String} (hclean : Shell.defects template = []) :
    (commandOf c template).errors = strayErrors template ∧
      (commandOf c template).command.isSome = true := by
  rw [commandOf, Shell.substitute, hclean]
  dsimp only
  rw [Shell.substituteUnchecked]
  dsimp only
  rw [missingAll_eq_strays, strayErrors]
  simp

theorem strayErrors_eq_nil {template : String} :
    strayErrors template = [] ↔ strays template = [] := by
  unfold strayErrors
  split <;> simp [*]

theorem commandOf_isSafe_iff (c : Context) (template : String) :
    (commandOf c template).isSafe = true ↔ Shell.defects template = [] ∧ strays template = [] := by
  by_cases hclean : Shell.defects template = []
  · obtain ⟨herrors, hcommand⟩ := commandOf_errors c hclean
    rw [Shell.Substitution.isSafe, herrors, hcommand, Bool.and_true, List.isEmpty_iff,
      strayErrors_eq_nil, and_iff_right hclean]
  · refine iff_of_false ?_ fun h => hclean h.1
    rw [commandOf, Shell.substitute]
    split
    · contradiction
    · simp [Shell.Substitution.isSafe]

/-! ## Turns -/

/-- The template is not safe: nothing is started, and the verdict tells the errors. -/
def Turn.Refused (t : Turn σ) (onFailure : Action) (errors : List String) : Prop :=
  t.started = [] ∧ t.verdict = .refused t.hook.id onFailure (unsafeText errors)

namespace Dispatcher

variable {r : Runner σ} {d : Dispatcher} {c : Context} {t : Turn σ} {template : String}
  {onFailure : Action} {silent : Bool}

theorem applies_of_meets {h : Hook} {s : Session σ} (hholds : ¬ h.Mismatches c)
    (hyes : ((Surroundings.ofRunner r).meets c h s).answer = .ok true) : h.Applies s.world c := by
  refine ⟨matches_of_not_mismatches hholds, ?_⟩
  have hanswer : (h.permits s.world c).1.mapError HookFault.check = .ok true := by
    rw [← hyes, Surroundings.meets, consult_ofRunner]
  cases hpermits : (h.permits s.world c).1 with
  | error f =>
    rw [hpermits] at hanswer
    cases hanswer
  | ok b =>
    rw [hpermits] at hanswer
    cases hanswer
    rfl

theorem turn_refused_of_not_safe (ht : t = Run.turn (d.execHook r c) t.hook t.found)
    (hdeed : t.hook.deed = .command template onFailure silent)
    (happlies : t.hook.Applies t.found.world c) (hbad : (commandOf c template).isSafe = false) :
    t.Refused onFailure (commandOf c template).errors := by
  have hplan : (d.plan t.found.world c t.hook).1 =
      .verdict (.refused t.hook.id onFailure (unsafeText (commandOf c template).errors)) := by
    rw [plan_of_applies d c happlies, planDeed, hdeed]
    exact planCommand_refused d c t.hook onFailure hbad
  constructor
  · rw [ht, turn_started, hplan]
    rfl
  · have hverdict : t.verdict = (d.execHook r c t.hook t.found).1 := congrArg Turn.verdict ht
    rw [hverdict, execHook_verdict, hplan]

theorem not_safe_of_turn_refused {action : Action} {errors : List String}
    (ht : t = Run.turn (d.execHook r c) t.hook t.found)
    (hdeed : t.hook.deed = .command template onFailure silent)
    (hrefused : t.Refused action errors) :
    t.hook.Applies t.found.world c ∧ (commandOf c template).isSafe = false := by
  have hverdict : t.verdict =
      d.verdictOn c t.hook ((Surroundings.ofRunner r).meets c t.hook t.found) := by
    rw [← execHookIn_verdict, execHookIn_ofRunner]
    exact congrArg Turn.verdict ht
  obtain ⟨k, hshape, -⟩ :=
    existsUnique_shape d c t.hook ((Surroundings.ofRunner r).meets c t.hook t.found)
  -- a verdict has one shape, and only an unsafe template gives it this one
  have hkind : k = .refused := by
    rw [← hshape.shapeOf_eq, ← hverdict, hrefused.2]
    simp [shapeOf, Verdict.refused]
  rw [hkind] at hshape
  obtain ⟨hholds, hyes, template', onFailure', silent', hdeed', hbad⟩ :=
    (hasShape_refused_iff d c t.hook _).1 hshape
  rw [hdeed] at hdeed'
  cases hdeed'
  exact ⟨applies_of_meets hholds hyes, hbad⟩

/-- A command hook that applies is refused in a run exactly if a lint tells that its template is
unsafe, or the template has a placeholder for what no command has a value for. Which it is does not
depend on the context. -/
theorem lint_foretells_refusal {w : World} {file : Path} {p : Policy} {report : LintReport}
    (hload : Policy.load w file = .ok p) (hlint : Policy.lint w file = .ok report) {event : String}
    {h : Hook} (hmem : (event, h) ∈ p.allHooks)
    (hdeed : h.deed = .command template onFailure silent) :
    ∃ before lines behind, Policy.hookProblems w file.parent event h = .ok lines ∧
      report.problems = before ++ lines ++ behind ∧
      let told := Policy.Tells lines event h Policy.unsafeTemplate
      (∀ c, (commandOf c template).isSafe = true ↔ ¬ told ∧ strays template = []) ∧
        ∀ {σ : Type} (r : Runner σ) (d : Dispatcher) (on : String) (c : Context) (s : Session σ),
          ∀ t ∈ turns r d on c s, t.hook = h →
            ((∃ action errors, t.Refused action errors) ↔
              h.Applies t.found.world c ∧ (told ∨ strays template ≠ [])) ∧
            (h.Applies t.found.world c → ¬ told → strays template ≠ [] →
              t.Refused onFailure (strayErrors template)) := by
  obtain ⟨before, lines, behind, hlines, hproblems⟩ := Policy.lint_lines hload hlint hmem
  have htold : ¬ Policy.Tells lines event h Policy.unsafeTemplate ↔
      Shell.defects template = [] := by
    simp [Policy.tells_unsafeTemplate_iff hlines, hdeed]
  have hsafe : ∀ c, (commandOf c template).isSafe = true ↔
      ¬ Policy.Tells lines event h Policy.unsafeTemplate ∧ strays template = [] := by
    intro c
    rw [htold, commandOf_isSafe_iff]
  have hbad : ∀ c, (commandOf c template).isSafe = false ↔
      Policy.Tells lines event h Policy.unsafeTemplate ∨ strays template ≠ [] := by
    intro c
    rw [← Bool.not_eq_true, hsafe, not_and_or, not_not]
  refine ⟨before, lines, behind, hlines, hproblems, hsafe, ?_⟩
  rintro σ r d on c s t ht rfl
  have hspec : t = Run.turn (d.execHook r c) t.hook t.found := turns_spec ht
  refine ⟨⟨?_, ?_⟩, ?_⟩
  · rintro ⟨action, errors, hrefused⟩
    obtain ⟨happlies, hnot⟩ := not_safe_of_turn_refused hspec hdeed hrefused
    exact ⟨happlies, (hbad c).1 hnot⟩
  · rintro ⟨happlies, hwhy⟩
    exact ⟨_, _, turn_refused_of_not_safe hspec hdeed happlies ((hbad c).2 hwhy)⟩
  · intro happlies hclean hstrays
    rw [← (commandOf_errors c (htold.1 hclean)).1]
    exact turn_refused_of_not_safe hspec hdeed happlies ((hbad c).2 (.inr hstrays))

/-- A policy of one hook, whose command names a file that no context has. -/
def careless : String :=
  "\x7b\"settings\": \x7b\"enabled\": true\x7d, \"hooks\": \x7b\"PreToolUse\": [\x7b" ++
    "\"id\": \"lost\", \"command\": \"rm \x7b\x7bfile\x7d\x7d\", " ++
    "\"on_failure\": \"block\"\x7d]\x7d\x7d"

def carelessPolicy : Policy := ⟨{ enabled := true }, [(preToolUse, [lost])]⟩

def withCareless : World := holding (Utf8.encode careless)

theorem load_careless : Policy.load withCareless ⟨0, ["hooks.json"]⟩ = .ok carelessPolicy := by
  rw [Policy.load, withCareless, find_holding]
  decide +kernel

theorem lint_careless :
    Policy.lint withCareless ⟨0, ["hooks.json"]⟩ = .ok ⟨⟨0, ["hooks.json"]⟩, 1, []⟩ := by
  rw [Policy.lint, load_careless]
  rfl

def carelessDispatcher : Dispatcher where
  policyFile := ⟨0, ["hooks.json"]⟩
  handlersDir := ⟨0, []⟩
  silent := false
  policy := carelessPolicy
  handlers := []

def nearCareless : Session Unit := { world := withCareless, runner := () }

def lostTurn : Turn Unit :=
  Run.turn (carelessDispatcher.execHook (stuck List.range) bareContext) lost nearCareless

theorem ran_careless :
    ran (stuck List.range) carelessDispatcher preToolUse bareContext nearCareless = [lost] := by
  rw [ran_in_order rfl]
  show [lost].take _ = _
  rw [Run.span, List.take_succ_cons, List.take_nil]

theorem turns_careless :
    turns (stuck List.range) carelessDispatcher preToolUse bareContext nearCareless =
      [lostTurn] := by
  rw [turns_of_enabled rfl, ran_careless]
  rfl

theorem strayErrors_lost :
    strayErrors "rm \x7b\x7bfile\x7d\x7d" =
      ["Unsubstituted placeholders: \x7b\x7bfile\x7d\x7d"] := by
  cbv

theorem lint_foretells_refusal_careless :
    Policy.load withCareless ⟨0, ["hooks.json"]⟩ = .ok carelessPolicy ∧
      Policy.lint withCareless ⟨0, ["hooks.json"]⟩ = .ok ⟨⟨0, ["hooks.json"]⟩, 1, []⟩ ∧
      (preToolUse, lost) ∈ carelessPolicy.allHooks ∧
      lostTurn ∈ turns (stuck List.range) carelessDispatcher preToolUse bareContext nearCareless ∧
      lostTurn.Refused .block ["Unsubstituted placeholders: \x7b\x7bfile\x7d\x7d"] := by
  have hmem : (preToolUse, lost) ∈ carelessPolicy.allHooks := List.mem_singleton.2 rfl
  have hturn : lostTurn ∈
      turns (stuck List.range) carelessDispatcher preToolUse bareContext nearCareless := by
    rw [turns_careless]
    exact List.mem_singleton_self _
  obtain ⟨before, lines, behind, -, hproblems, -, hturns⟩ :=
    lint_foretells_refusal load_careless lint_careless hmem rfl
  have hlines : lines = [] := by
    obtain ⟨hfront, -⟩ := List.append_eq_nil_iff.1 hproblems.symm
    exact (List.append_eq_nil_iff.1 hfront).2
  have htold : ¬ Policy.Tells lines preToolUse lost Policy.unsafeTemplate := by
    rw [hlines]
    rintro ⟨detail, hdetail⟩
    cases hdetail
  have hstrays : strays "rm \x7b\x7bfile\x7d\x7d" ≠ [] := by
    intro hnone
    rw [← strayErrors_eq_nil, strayErrors_lost] at hnone
    cases hnone
  obtain ⟨-, hrefused⟩ := hturns (stuck List.range) carelessDispatcher preToolUse bareContext
    nearCareless lostTurn hturn rfl
  exact ⟨load_careless, lint_careless, hmem, hturn,
    strayErrors_lost ▸ hrefused ⟨rfl, rfl⟩ htold hstrays⟩

/-- A lint finds nothing, and the dispatcher of the same file refuses the hook. -/
theorem clean_lint_refused :
    Policy.lint withCareless ⟨0, ["hooks.json"]⟩ = .ok ⟨⟨0, ["hooks.json"]⟩, 1, []⟩ ∧
      (build withCareless hooksRequest).1 = .ok carelessDispatcher ∧
      (carelessDispatcher.execute (stuck List.range) preToolUse bareContext
          nearCareless).1.executed =
        [.refused "lost" .block
          "Unsafe command template: Unsubstituted placeholders: \x7b\x7bfile\x7d\x7d"] := by
  refine ⟨lint_careless, ?_, ?_⟩
  · exact build_of_found (place_hooksRequest _) (policyOf_of_load rfl load_careless) rfl
  · have hbad : (commandOf bareContext "rm \x7b\x7bfile\x7d\x7d").isSafe = false := by cbv
    obtain ⟨-, hverdict⟩ := turn_refused_of_not_safe (t := lostTurn) rfl rfl ⟨rfl, rfl⟩ hbad
    rw [(commandOf_errors bareContext (by rfl)).1, strayErrors_lost] at hverdict
    rw [execute_executed _ _ _ _ _ rfl, results_of_in_order rfl, ran_careless]
    show [lostTurn.verdict] = _
    rw [hverdict]
    rfl

end Dispatcher

end HookPolicy
