import HookPolicy.Proofs.Dispatch.Aggregate
import Mathlib.Data.List.Basic

/-!
# Hooks side by side and in order

Where the verdict on a hook does not depend on which other hooks were run before it, running all
hooks side by side gives one verdict for each hook, in the order of the policy, whatever the order in
which they come to their end. The run in order is then a prefix of that run.
-/

namespace HookPolicy

variable {σ : Type}

namespace Report

/-- The results up to the first that blocks, that one included. -/
def upToBlock (ps : List (Hook × Verdict)) : List (Hook × Verdict) :=
  ps.take (ps.findIdx (·.2.blocks) + 1)

theorem any_take_findIdx {α : Type} (p : α → Bool) (l : List α) :
    (l.take (l.findIdx p + 1)).any p = l.any p := by
  induction l with
  | nil => rfl
  | cons a l ih =>
    cases ha : p a with
    | true => simp [List.findIdx_cons, ha]
    | false => simpa [List.findIdx_cons, ha] using ih

theorem take_findIdx_of_none {α : Type} {p : α → Bool} {l : List α} (hnone : l.any p = false) :
    l.take (l.findIdx p + 1) = l := by
  have hlen : l.findIdx p = l.length :=
    List.findIdx_eq_length.mpr fun a ha => by simpa using List.any_eq_false.mp hnone a ha
  rw [hlen]
  exact List.take_of_length_le (Nat.le_succ l.length)

theorem upToBlock_of_none {ps : List (Hook × Verdict)} (hnone : ps.any (·.2.blocks) = false) :
    upToBlock ps = ps :=
  take_findIdx_of_none hnone

/-- A report on fewer results says no more than one on all of them. -/
theorem addAll_prefix (r : Report) {ps qs : List (Hook × Verdict)} (h : ps <+: qs) :
    (r.addAll ps).executed <+: (r.addAll qs).executed ∧
      (r.addAll ps).messages <+: (r.addAll qs).messages ∧
      (r.addAll ps).warnings <+: (r.addAll qs).warnings := by
  rw [addAll_eq, addAll_eq]
  exact ⟨(List.prefix_append_right_inj _).mpr (h.map _),
    (List.prefix_append_right_inj _).mpr ((h.filter _).map _),
    (List.prefix_append_right_inj _).mpr ((h.filter _).map _)⟩

theorem addAll_blocked (r : Report) (ps : List (Hook × Verdict)) :
    (r.addAll ps).blocked = (r.blocked || ps.any (·.2.blocks)) := by
  rw [addAll_eq]
  simp only [List.any_map]
  rfl

theorem addAll_upToBlock_blocked (r : Report) (ps : List (Hook × Verdict)) :
    (r.addAll (upToBlock ps)).blocked = (r.addAll ps).blocked := by
  rw [addAll_blocked, addAll_blocked, upToBlock, any_take_findIdx]

theorem addAll_upToBlock_executed {r : Report} (hr : r.executed = [])
    (ps : List (Hook × Verdict)) :
    (r.addAll (upToBlock ps)).executed = (r.addAll ps).executed.take
      ((r.addAll ps).executed.findIdx Verdict.blocks + 1) := by
  simp only [addAll_eq, hr, List.nil_append, upToBlock, List.map_take, List.findIdx_map]
  rfl

end Report

namespace Run

variable (exec : Hook → Run σ Verdict) (hooks : List Hook) (s : Session σ)

/-- The sessions that arise when some of the hooks are run, in any order. -/
inductive Reached : Session σ → Prop
  | start : Reached s
  | after {t : Session σ} {h : Hook} : Reached t → h ∈ hooks → Reached (exec h t).2

/-- What comes of a hook does not depend on which of the hooks were run before it. -/
def Independent : Prop := ∀ t, Reached exec hooks s t → ∀ h ∈ hooks, (exec h t).1 = (exec h s).1

variable {exec hooks s}

theorem Independent.verdicts_eq (hind : Independent exec hooks s) {some : List Hook}
    (hsub : ∀ h ∈ some, h ∈ hooks) {t : Session σ} (ht : Reached exec hooks s t) :
    verdicts exec some t = some.map fun h => (exec h s).1 := by
  induction some generalizing t with
  | nil => rfl
  | cons h rest ih =>
    have hh : h ∈ hooks := hsub h List.mem_cons_self
    have hrest : ∀ k ∈ rest, k ∈ hooks := fun k hk => hsub k (List.mem_cons_of_mem h hk)
    rw [verdicts_cons, List.map_cons, hind t ht h hh, ih hrest (ht.after hh)]

theorem inArrival_cons_run (i : Nat) (is : List Nat) (t : Session σ) :
    inArrival exec hooks (i :: is) t =
      match hooks[i]? with
      | none => inArrival exec hooks is t
      | some h => ((i, (exec h t).1) :: (inArrival exec hooks is (exec h t).2).1,
        (inArrival exec hooks is (exec h t).2).2) := by
  rw [inArrival]
  cases hooks[i]? <;> rfl

/-- Each arrival brings the verdict that its hook would have been given at the start. -/
theorem Independent.inArrival_eq (hind : Independent exec hooks s) (is : List Nat) {t : Session σ}
    (ht : Reached exec hooks s t) :
    (inArrival exec hooks is t).1 =
      is.filterMap fun i => hooks[i]?.map fun h => (i, (exec h s).1) := by
  induction is generalizing t with
  | nil => rfl
  | cons i is ih =>
    rw [inArrival_cons_run]
    cases hi : hooks[i]? with
    | none => simp only [List.filterMap_cons, hi, Option.map_none, ih ht]
    | some h =>
      have hh : h ∈ hooks := List.mem_of_getElem? hi
      simp only [List.filterMap_cons, hi, Option.map_some, hind t ht h hh, ih (ht.after hh)]

/-- Among arrivals that bring the same for the same hook, an index finds its own. -/
theorem lookup_arrivals {f : Hook → Verdict} {is : List Nat} {i : Nat} (hi : i ∈ is) {h : Hook}
    (hh : hooks[i]? = some h) :
    (is.filterMap fun i => hooks[i]?.map fun h => (i, f h)).lookup i = some (f h) := by
  induction is with
  | nil => cases hi
  | cons j is ih =>
    by_cases hij : i = j
    · subst hij
      simp [hh]
    · have hmem : i ∈ is := (List.mem_cons.mp hi).resolve_left hij
      cases hj : hooks[j]? with
      | none => simpa [List.filterMap_cons, hj] using ih hmem
      | some k => simpa [List.filterMap_cons, hj, List.lookup_cons, beq_eq_false_iff_ne.mpr hij]
          using ih hmem

/-- Verdicts that came in any order stand in the order of their hooks once they are arranged. -/
theorem arrange_arrivals {f : Hook → Verdict} {is : List Nat} (hall : ∀ i < hooks.length, i ∈ is) :
    arrange hooks (is.filterMap fun i => hooks[i]?.map fun h => (i, f h)) =
      hooks.map fun h => (h, f h) := by
  have hfound : ∀ p ∈ hooks.zipIdx,
      ((is.filterMap fun i => hooks[i]?.map fun h => (i, f h)).lookup p.2).map
        (fun v => (p.1, v)) = some (p.1, f p.1) := by
    intro p hp
    have hget : hooks[p.2]? = some p.1 := List.mem_zipIdx_iff_getElem?.mp hp
    have hlt : p.2 < hooks.length := (List.getElem?_eq_some_iff.mp hget).1
    rw [lookup_arrivals (hall p.2 hlt) hget, Option.map_some]
  calc arrange hooks (is.filterMap fun i => hooks[i]?.map fun h => (i, f h))
      = hooks.zipIdx.filterMap fun p => some (p.1, f p.1) := List.filterMap_congr hfound
    _ = (hooks.zipIdx.map (·.1)).map fun h => (h, f h) := by
        rw [List.filterMap_eq_map', List.map_map]
        rfl
    _ = hooks.map fun h => (h, f h) := by rw [List.zipIdx_map_fst]

/-- Side by side, every hook gets the verdict it would get at the start, whoever arrives first. -/
theorem Independent.all_eq (hind : Independent exec hooks s) {arrival : Nat → List Nat}
    (harrival : (arrival hooks.length).Perm (List.range hooks.length)) :
    (all exec arrival hooks s).1 = hooks.map fun h => (h, (exec h s).1) := by
  have hall : ∀ i < hooks.length, i ∈ arrival hooks.length := fun i hi =>
    harrival.mem_iff.mpr (List.mem_range.mpr hi)
  show arrange hooks (inArrival exec hooks (arrival hooks.length) s).1 = _
  rw [hind.inArrival_eq (arrival hooks.length) .start]
  exact arrange_arrivals hall

/-- In order, the hooks up to the first that blocks get the same verdicts. -/
theorem Independent.untilBlocked_eq (hind : Independent exec hooks s) :
    (untilBlocked exec hooks s).1 = Report.upToBlock (hooks.map fun h => (h, (exec h s).1)) := by
  have hverdicts := hind.verdicts_eq (fun _ h => h) .start
  have hspan : span exec hooks s =
      (hooks.map fun h => (h, (exec h s).1)).findIdx (·.2.blocks) + 1 := by
    rw [span, hverdicts, List.findIdx_map, List.findIdx_map]
    rfl
  rw [untilBlocked_run, hverdicts, hspan, ← List.map_prod_left_eq_zip]
  rfl

end Run

namespace Dispatcher

/-- The dispatcher that runs hooks side by side, or in order. -/
def withParallel (d : Dispatcher) (parallel : Bool) : Dispatcher :=
  { d with policy := { d.policy with settings := { d.policy.settings with parallel } } }

variable (r : Runner σ) (d : Dispatcher) (event : String) (c : Context) (s : Session σ)

/-- Side by side, each hook has one verdict in the order of the policy, whoever arrives first. The
run in order is the prefix of that run which ends at the first block. -/
theorem parallel_extends_in_order
    (harrival : (r.arrival (d.policy.hooksFor event).length).Perm
      (List.range (d.policy.hooksFor event).length))
    (hind : Run.Independent (d.execHook r c) (d.policy.hooksFor event) s) :
    let hooks := d.policy.hooksFor event
    let beside := ((d.withParallel true).execute r event c s).1
    let inOrder := ((d.withParallel false).execute r event c s).1
    (d.isEnabled = true →
      beside.executed = hooks.map (fun h => (d.execHook r c h s).1) ∧
        beside = (blank event s).addAll (hooks.zip beside.executed)) ∧
      inOrder.executed <+: beside.executed ∧ inOrder.messages <+: beside.messages ∧
      inOrder.warnings <+: beside.warnings ∧
      inOrder.executed = beside.executed.take (beside.executed.findIdx Verdict.blocks + 1) ∧
      inOrder.blocked = beside.blocked ∧ (beside.blocked = false → inOrder = beside) := by
  intro hooks beside inOrder
  cases hon : d.isEnabled with
  | false =>
    have hbeside : beside = turnedOff event s :=
      congrArg Prod.fst (execute_disabled r (d.withParallel true) event c s hon)
    have hinOrder : inOrder = turnedOff event s :=
      congrArg Prod.fst (execute_disabled r (d.withParallel false) event c s hon)
    rw [hbeside, hinOrder]
    exact ⟨nofun, List.prefix_rfl, List.prefix_rfl, List.prefix_rfl, rfl, rfl, fun _ => rfl⟩
  | true =>
    let pairs := hooks.map fun h => (h, (d.execHook r c h s).1)
    have hbeside : beside = (blank event s).addAll pairs :=
      (execute_enabled r (d.withParallel true) event c s hon).trans
        (congrArg _ (hind.all_eq harrival))
    have hinOrder : inOrder = (blank event s).addAll (Report.upToBlock pairs) :=
      (execute_enabled r (d.withParallel false) event c s hon).trans
        (congrArg _ hind.untilBlocked_eq)
    have hexecuted : beside.executed = hooks.map fun h => (d.execHook r c h s).1 := by
      rw [hbeside, Report.addAll_eq]
      exact List.map_map
    have hcut := Report.addAll_prefix (blank event s)
      (show Report.upToBlock pairs <+: pairs from List.take_prefix _ _)
    rw [← hbeside, ← hinOrder] at hcut
    refine ⟨fun _ => ⟨hexecuted, ?_⟩, hcut.1, hcut.2.1, hcut.2.2, ?_, ?_, ?_⟩
    · rw [hexecuted, ← List.map_prod_left_eq_zip]
      exact hbeside
    · rw [hbeside, hinOrder]
      exact Report.addAll_upToBlock_executed rfl pairs
    · rw [hbeside, hinOrder]
      exact Report.addAll_upToBlock_blocked (blank event s) pairs
    · intro hnone
      have hany : pairs.any (·.2.blocks) = false := by
        rw [hbeside, Report.addAll_blocked] at hnone
        exact (Bool.or_eq_false_iff.mp hnone).2
      rw [hinOrder, Report.upToBlock_of_none hany, hbeside]

theorem plan_of_no_condition {h : Hook} (hnone : h.condition = none) (w w' : World) :
    d.plan w c h = d.plan w' c h := by
  simp only [plan, Hook.permits, hnone]

/-- Hooks without conditions are independent where each call is answered always alike. -/
theorem independent_of_steady {hooks : List Hook} (hnone : ∀ h ∈ hooks, h.condition = none)
    (hsteady : ∀ call w w' u u', (r.start call w u).1 = (r.start call w' u').1) :
    Run.Independent (d.execHook r c) hooks s := by
  intro t _ h hh
  rw [execHook_verdict, execHook_verdict, plan_of_no_condition d c (hnone h hh) t.world s.world]
  cases (d.plan s.world c h).1 with
  | verdict v => rfl
  | start call =>
    exact congrArg (fun result => (d.settle h result).1)
      (hsteady call t.world s.world t.runner s.runner)

/-- The patrol side by side, its hooks coming to their end from the last to the first. -/
theorem parallel_extends_in_order_patrol :
    let backwards := fun n => (List.range n).reverse
    let beside :=
      ((patrol.withParallel true).execute (stuck backwards) preToolUse bareContext atRoot).1
    let inOrder :=
      ((patrol.withParallel false).execute (stuck backwards) preToolUse bareContext atRoot).1
    (backwards 4).Perm (List.range 4) ∧
      Run.Independent (patrol.execHook (stuck backwards) bareContext) patrolHooks atRoot ∧
      beside.executed.map (·.id) = ["ask", "scan", "stop", "late"] ∧
      inOrder.executed <+: beside.executed ∧ inOrder.blocked = beside.blocked := by
  intro backwards beside inOrder
  have harrival : (backwards 4).Perm (List.range 4) := List.reverse_perm _
  have hind : Run.Independent (patrol.execHook (stuck backwards) bareContext) patrolHooks atRoot :=
    independent_of_steady _ _ _ _ (by decide) fun _ _ _ _ _ => rfl
  obtain ⟨hbeside, hcut, -, -, -, hblocked, -⟩ :=
    parallel_extends_in_order (stuck backwards) patrol preToolUse bareContext atRoot harrival hind
  refine ⟨harrival, hind, ?_, hcut, hblocked⟩
  have hexecuted : beside.executed = _ := (hbeside rfl).1
  rw [hexecuted]
  rfl

end Dispatcher

end HookPolicy
