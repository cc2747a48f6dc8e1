import HookPolicy.Policy.Check
import HookPolicy.Policy.Dump
import HookPolicy.Proofs.Check.Laws

/-!
# Policies and their documents

The document form of a hook names its kind, so it is read as the same hook again, whatever the
document was like that the hook came from. The time limit is the only part of a policy that can be
out of range, and reading a policy keeps it in range.
-/

namespace HookPolicy

variable {document : Json}

/-! ## Hooks -/

def Hook.dumpFields (h : Hook) : Fields :=
  [("id", .string h.id), ("matcher", .ofOption h.matcher), ("condition", .ofOption h.condition),
    ("message", .ofOption h.message)] ++ h.deed.dumpFields

theorem kindOf?_dumpFields (h : Hook) : kindOf? h.dumpFields = some h.deed.kind := by
  obtain ⟨id, matcher, condition, message, deed⟩ := h
  cases deed <;> rfl

theorem checkHookBase_dumpFields (h : Hook) :
    ∃ base, checkHookBase h.dumpFields h.deed.kind = .good base ∧ base h.deed = h := by
  obtain ⟨id, matcher, condition, message, deed⟩ := h
  cases matcher <;> cases condition <;> cases message <;> cases deed <;> exact ⟨_, rfl, rfl⟩

theorem checkDeed_dumpFields (h : Hook) : checkDeed h.dumpFields h.deed.kind = .good h.deed := by
  obtain ⟨id, matcher, condition, message, deed⟩ := h
  cases deed with
  | action a => cases a <;> rfl
  | handler file => rfl
  | command template onFailure silent => cases onFailure <;> rfl

theorem checkHook_dump (h : Hook) : checkHook h.dump = .good h := by
  obtain ⟨base, hbase, heq⟩ := checkHookBase_dumpFields h
  change checkHook (.object h.dumpFields) = _
  rw [checkHook, kindOf?_dumpFields]
  apply Checked.under_eq_good.2
  exact Checked.seq_eq_good.2 ⟨base, hbase, h.deed, checkDeed_dumpFields h, heq⟩

/-! ## Settings -/

theorem checkTimeout_int {n : Nat} (h : 1 ≤ n) : checkTimeout (.int n) = .good n := by
  have hpos : (n : Int) > 0 := by omega
  have htruthy : (Json.int n).isTruthy = true := by
    simp only [Json.isTruthy, bne_iff_ne, ne_eq]
    omega
  rw [checkTimeout, if_pos htruthy, checkInt]
  dsimp only
  rw [if_pos hpos, Int.toNat_natCast]

theorem checkSettings_dump {s : Settings} (h : 1 ≤ s.timeout) :
    checkSettings s.dump = .good s := by
  obtain ⟨enabled, timeout, parallel, failOnError⟩ := s
  have htimeout : defaulting [("enabled", .bool enabled), ("timeout_ms", .int timeout),
      ("parallel_hooks", .bool parallel), ("fail_on_error", .bool failOnError)]
      "timeout_ms" defaultTimeout checkTimeout = .good timeout :=
    Checked.under_eq_good.2 (checkTimeout_int h)
  rw [Settings.dump, checkSettings]
  rw [htimeout]
  rfl

theorem one_le_defaultTimeout : 1 ≤ defaultTimeout := by decide

theorem one_le_of_checkTimeout {v : Json} {n : Nat} (h : checkTimeout v = .good n) : 1 ≤ n := by
  unfold checkTimeout at h
  split at h
  · split at h
    · split at h
      · cases h
        omega
      · cases h
    · cases h
  · cases h
    exact one_le_defaultTimeout

theorem one_le_of_checkSettings {v : Json} {s : Settings} (h : checkSettings v = .good s) :
    1 ≤ s.timeout := by
  unfold checkSettings at h
  split at h
  · simp only [Checked.seq_eq_good, Checked.map_eq_good] at h
    obtain ⟨_, ⟨_, ⟨_, ⟨enabled, -, rfl⟩, timeout, htimeout, rfl⟩, parallel, -, rfl⟩, fails, -, rfl⟩
      := h
    rcases defaulting_eq_good_iff.1 htimeout with ⟨-, rfl⟩ | ⟨v, -, hv⟩
    · exact one_le_defaultTimeout
    · exact one_le_of_checkTimeout hv
  · cases h

/-! ## Policies -/

theorem checkHooks_dump (hooks : List (String × List Hook)) :
    checkHooks (.object (hooks.map fun f => (f.1, .array (f.2.map Hook.dump)))) = .good hooks :=
  checkFields_map (fun hooks : List Hook => .array (hooks.map Hook.dump))
    (fun hooks => checkItems_map checkHook_dump 0 hooks) hooks

theorem checkPolicy_dump_of_le {p : Policy} (h : 1 ≤ p.settings.timeout) :
    checkPolicy p.dump = .good p := by
  rw [Policy.dump, checkPolicy]
  refine Checked.seq_eq_good.2
    ⟨_, Checked.map_eq_good.2 ⟨p.settings, ?_, rfl⟩, p.hooks, ?_, rfl⟩
  · exact Checked.under_eq_good.2 (checkSettings_dump h)
  · exact Checked.under_eq_good.2 (checkHooks_dump p.hooks)

theorem one_le_of_checkPolicy {p : Policy} (h : checkPolicy document = .good p) :
    1 ≤ p.settings.timeout := by
  unfold checkPolicy at h
  split at h
  · simp only [Checked.seq_eq_good, Checked.map_eq_good] at h
    obtain ⟨_, ⟨settings, hsettings, rfl⟩, hooks, -, rfl⟩ := h
    rcases defaulting_eq_good_iff.1 hsettings with ⟨-, rfl⟩ | ⟨v, -, hv⟩
    · exact one_le_defaultTimeout
    · exact one_le_of_checkSettings hv
  · cases h

/-- A document with kinds that are named and kinds that are not, a time limit of zero and words for
truth values. -/
def loosePolicy : Json :=
  .object [("settings", .object [("enabled", .string "Yes"), ("timeout_ms", .int 0)]),
    ("hooks", .object [
      ("Stop", .array [.object [("id", .string "tidy"), ("command", .string "make clean"),
        ("silent", .int 1), ("handler", .string "")]]),
      ("PreToolUse", .array [
        .object [("kind", .string "action"), ("action", .string "block"), ("id", .string "deny")],
        .object [("id", .string "scan"), ("handler", .string "scan.sh"), ("note", .null)]])])]

def loosePolicyRead : Policy where
  settings := { enabled := true }
  hooks :=
    [("Stop", [⟨"tidy", none, none, none, .command "make clean" .warn true⟩]),
      ("PreToolUse", [⟨"deny", none, none, none, .action .block⟩,
        ⟨"scan", none, none, none, .handler "scan.sh"⟩])]

end HookPolicy
