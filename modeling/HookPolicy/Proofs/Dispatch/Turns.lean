import HookPolicy.Proofs.Dispatch.Parallel
import HookPolicy.Proofs.Lists.Lookup

/-!
# Runs of hooks, turn by turn

A turn is what one hook makes of the session that it finds. Whether hooks are run in order or side
by side, a run is a list of turns, each of which finds what the turn before it has left, and the
verdicts of the run are the verdicts of its turns.
-/

namespace HookPolicy

variable {σ : Type}

/-- One hook's part in a run. -/
structure Turn (σ : Type) where
  hook : Hook
  found : Session σ
  verdict : Verdict
  left : Session σ

namespace Turn

/-- The calls that were made in a turn. -/
def started (t : Turn σ) : List Call := t.left.calls.drop t.found.calls.length

def result (t : Turn σ) : Hook × Verdict := (t.hook, t.verdict)

end Turn

namespace Run

variable (exec : Hook → Run σ Verdict)

def turn (h : Hook) (s : Session σ) : Turn σ := ⟨h, s, (exec h s).1, (exec h s).2⟩

/-- The turns of hooks that are run one after the other. -/
def turns : List Hook → Session σ → List (Turn σ)
  | [], _ => []
  | h :: hooks, s => turn exec h s :: turns hooks (exec h s).2

theorem turns_map_hook (hooks : List Hook) (s : Session σ) :
    (turns exec hooks s).map Turn.hook = hooks := by
  induction hooks generalizing s with
  | nil => rfl
  | cons h hooks ih => rw [turns, List.map_cons, ih, turn]

theorem turns_map_verdict (hooks : List Hook) (s : Session σ) :
    (turns exec hooks s).map Turn.verdict = verdicts exec hooks s := by
  induction hooks generalizing s with
  | nil => rfl
  | cons h hooks ih => rw [turns, List.map_cons, ih, verdicts_cons, turn]

theorem turns_map_result (hooks : List Hook) (s : Session σ) :
    (turns exec hooks s).map Turn.result = hooks.zip (verdicts exec hooks s) := by
  induction hooks generalizing s with
  | nil => rfl
  | cons h hooks ih => rw [turns, List.map_cons, ih, verdicts_cons, List.zip_cons_cons]; rfl

theorem turns_take (hooks : List Hook) (n : Nat) (s : Session σ) :
    turns exec (hooks.take n) s = (turns exec hooks s).take n := by
  induction hooks generalizing n s with
  | nil => simp [turns]
  | cons h hooks ih =>
    cases n with
    | zero => rfl
    | succ n => rw [List.take_succ_cons, turns, ih, turns, List.take_succ_cons]

theorem eq_turn_of_mem {hooks : List Hook} {s : Session σ} {t : Turn σ}
    (ht : t ∈ turns exec hooks s) : t = turn exec t.hook t.found := by
  induction hooks generalizing s with
  | nil => cases ht
  | cons h hooks ih =>
    rcases List.mem_cons.1 ht with rfl | hrest
    · rfl
    · exact ih hrest

/-! ## In order -/

/-- A run in order has the turns of the hooks up to the first that blocks. -/
theorem untilBlocked_turns (hooks : List Hook) (s : Session σ) :
    untilBlocked exec hooks s =
      ((turns exec (hooks.take (span exec hooks s)) s).map Turn.result,
        ((hooks.take (span exec hooks s)).mapM exec s).2) := by
  rw [untilBlocked_run, turns_take, List.map_take, turns_map_result]

/-- Nothing stands behind the first blocking member of a list that is cut there. -/
theorem behind_take_findIdx {α : Type} {p : α → Bool} {l before behind : List α} {a : α}
    (hl : l.take (l.findIdx p + 1) = before ++ a :: behind) (ha : p a = true) : behind = [] := by
  have hget : l[before.length]? = some a := by
    have htake := congrArg (·[before.length]?) hl
    simp only [List.getElem?_append_right (Nat.le_refl _), Nat.sub_self, List.getElem?_cons_zero,
      List.getElem?_take] at htake
    split at htake
    · exact htake
    · cases htake
  obtain ⟨hlt, hval⟩ := List.getElem?_eq_some_iff.1 hget
  have hfirst : l.findIdx p ≤ before.length :=
    Nat.le_of_not_lt fun hless => by simpa [hval, ha] using List.not_of_lt_findIdx hless
  have hlength := congrArg List.length hl
  simp only [List.length_take, List.length_append, List.length_cons] at hlength
  exact List.eq_nil_of_length_eq_zero (by omega)

theorem span_eq (hooks : List Hook) (s : Session σ) :
    span exec hooks s = (turns exec hooks s).findIdx (·.verdict.blocks) + 1 := by
  rw [span, ← turns_map_verdict, List.findIdx_map]
  rfl

theorem last_of_blocks {hooks : List Hook} {s : Session σ} {before behind : List (Turn σ)}
    {t : Turn σ}
    (hturns : turns exec (hooks.take (span exec hooks s)) s = before ++ t :: behind)
    (hblocks : t.verdict.blocks = true) : behind = [] := by
  rw [turns_take, span_eq] at hturns
  exact behind_take_findIdx hturns hblocks

/-- Where no turn blocks, every hook has had its turn. -/
theorem take_span_of_none {hooks : List Hook} {s : Session σ}
    (hnone : ∀ t ∈ turns exec (hooks.take (span exec hooks s)) s, t.verdict.blocks = false) :
    hooks.take (span exec hooks s) = hooks := by
  rw [turns_take, span_eq] at hnone
  have hany : (turns exec hooks s).any (·.verdict.blocks) = false := by
    rw [← Report.any_take_findIdx]
    exact List.any_eq_false.2 fun t ht => by simp [hnone t ht]
  rw [← turns_map_hook exec (hooks.take (span exec hooks s)) s, turns_take, span_eq,
    Report.take_findIdx_of_none hany, turns_map_hook]

/-! ## Side by side -/

/-- The hooks that indices stand for. -/
def arrived (hooks : List Hook) (is : List Nat) : List Hook := is.filterMap (hooks[·]?)

/-- What a list of arrivals says of a hook. -/
def resultAt (hooks : List Hook) (done : List (Nat × Verdict)) (i : Nat) :
    Option (Hook × Verdict) :=
  hooks[i]?.bind fun h => (done.lookup i).map (h, ·)

theorem inArrival_turns (hooks : List Hook) (is : List Nat) (s : Session σ) :
    (inArrival exec hooks is s).1.filterMap (fun p => hooks[p.1]?.map (·, p.2)) =
        (turns exec (arrived hooks is) s).map Turn.result ∧
      (inArrival exec hooks is s).2 = ((arrived hooks is).mapM exec s).2 := by
  induction is generalizing s with
  | nil => exact ⟨rfl, rfl⟩
  | cons i is ih =>
    rw [inArrival_cons_run]
    cases hi : hooks[i]? with
    | none =>
      -- an index that stands for no hook takes no turn
      rw [show arrived hooks (i :: is) = arrived hooks is from List.filterMap_cons_none hi]
      exact ih s
    | some h =>
      obtain ⟨hresults, hsession⟩ := ih (exec h s).2
      rw [show arrived hooks (i :: is) = h :: arrived hooks is from List.filterMap_cons_some hi]
      refine ⟨?_, ?_⟩
      · rw [List.filterMap_cons_some (by rw [hi, Option.map_some]), hresults]
        rfl
      · rw [mapM_cons_run, hsession]

theorem inArrival_indices {hooks : List Hook} {is : List Nat} (hall : ∀ i ∈ is, i < hooks.length)
    (s : Session σ) : (inArrival exec hooks is s).1.map (·.1) = is := by
  induction is generalizing s with
  | nil => rfl
  | cons i is ih =>
    obtain ⟨hi, hrest⟩ := List.forall_mem_cons.1 hall
    rw [inArrival_cons_run, List.getElem?_eq_getElem hi]
    dsimp only
    rw [List.map_cons, ih hrest]

theorem arrange_eq_resultAt (hooks : List Hook) (done : List (Nat × Verdict)) :
    arrange hooks done = (List.range hooks.length).filterMap (resultAt hooks done) := by
  have hfound : ∀ p ∈ hooks.zipIdx,
      (done.lookup p.2).map (p.1, ·) = resultAt hooks done p.2 := by
    intro p hp
    rw [resultAt, List.mem_zipIdx_iff_getElem?.1 hp, Option.bind_some]
  calc arrange hooks done
      = hooks.zipIdx.filterMap (resultAt hooks done ∘ (·.2)) := List.filterMap_congr hfound
    _ = (hooks.zipIdx.map (·.2)).filterMap (resultAt hooks done) := by rw [List.filterMap_map]
    _ = (List.range hooks.length).filterMap (resultAt hooks done) := by
        rw [List.zipIdx_map_snd, List.range_eq_range']

/-- Where every hook has arrived, each has a verdict in the arrangement, in its own place. -/
theorem arrange_hooks {hooks : List Hook} {done : List (Nat × Verdict)}
    (hdone : (done.map (·.1)).Perm (List.range hooks.length)) :
    (arrange hooks done).map (·.1) = hooks := by
  have hkept : ∀ p ∈ hooks.zipIdx,
      ((done.lookup p.2).map (p.1, ·)).map (·.1) = some p.1 := by
    intro p hp
    have hlt : p.2 < hooks.length :=
      (List.getElem?_eq_some_iff.1 (List.mem_zipIdx_iff_getElem?.1 hp)).1
    obtain ⟨q, hq, hindex⟩ := List.mem_map.1 (hdone.mem_iff.2 (List.mem_range.2 hlt))
    rw [← hindex, (lookup_eq_some_iff_mem (hdone.nodup_iff.2 List.nodup_range)).2 hq]
    rfl
  calc (arrange hooks done).map (·.1)
      = hooks.zipIdx.filterMap fun p => some p.1 := by
        rw [arrange, List.map_filterMap]
        exact List.filterMap_congr hkept
    _ = hooks := by rw [List.filterMap_eq_map', List.zipIdx_map_fst]

/-- Arranging verdicts that have arrived moves them and does nothing else. -/
theorem arrange_perm {hooks : List Hook} {done : List (Nat × Verdict)}
    (hdone : (done.map (·.1)).Perm (List.range hooks.length)) :
    (arrange hooks done).Perm (done.filterMap fun p => hooks[p.1]?.map (·, p.2)) := by
  have hnodup : (done.map (·.1)).Nodup := hdone.nodup_iff.2 List.nodup_range
  have hown : ∀ p ∈ done, resultAt hooks done p.1 = hooks[p.1]?.map (·, p.2) := by
    intro p hp
    rw [resultAt, (lookup_eq_some_iff_mem hnodup).2 hp]
    cases hooks[p.1]? <;> rfl
  -- both sides take the same results, by the order of the hooks and by that of the arrivals
  rw [arrange_eq_resultAt]
  refine (hdone.symm.filterMap _).trans ?_
  rw [List.filterMap_map]
  exact List.Perm.of_eq (List.filterMap_congr hown)

/-! ## In the order of the policy -/

/-- The turns of hooks that come to their end side by side, each with the index of its hook. -/
def turnsAt (hooks : List Hook) : List Nat → Session σ → List (Nat × Turn σ)
  | [], _ => []
  | i :: is, s =>
    match hooks[i]? with
    | none => turnsAt hooks is s
    | some h => (i, turn exec h s) :: turnsAt hooks is (exec h s).2

theorem inArrival_eq_turnsAt (hooks : List Hook) (is : List Nat) (s : Session σ) :
    (inArrival exec hooks is s).1 =
      (turnsAt exec hooks is s).map fun p => (p.1, p.2.verdict) := by
  induction is generalizing s with
  | nil => rfl
  | cons i is ih =>
    rw [inArrival_cons_run, turnsAt]
    cases hi : hooks[i]? with
    | none => exact ih s
    | some h =>
      dsimp only
      rw [ih (exec h s).2, List.map_cons]
      rfl

theorem turnsAt_spec {hooks : List Hook} {is : List Nat} {s : Session σ} {p : Nat × Turn σ}
    (hp : p ∈ turnsAt exec hooks is s) :
    hooks[p.1]? = some p.2.hook ∧ p.2 = turn exec p.2.hook p.2.found := by
  induction is generalizing s with
  | nil => cases hp
  | cons i is ih =>
    rw [turnsAt] at hp
    cases hi : hooks[i]? with
    | none =>
      rw [hi] at hp
      exact ih hp
    | some h =>
      rw [hi] at hp
      rcases List.mem_cons.1 hp with rfl | hrest
      · exact ⟨hi, rfl⟩
      · exact ih hrest

/-- The turns of hooks in the order of the policy. Side by side every hook that has arrived has a
turn, and in order those have one that are run until one blocks. -/
def turnsOf (parallel : Bool) (arrival : Nat → List Nat) (hooks : List Hook) (s : Session σ) :
    List (Turn σ) :=
  if parallel then
    (List.range hooks.length).filterMap
      ((turnsAt exec hooks (arrival hooks.length) s).lookup ·)
  else turns exec (hooks.take (span exec hooks s)) s

variable {parallel : Bool} {arrival : Nat → List Nat} {hooks : List Hook} {s : Session σ}

theorem turnsOf_spec {t : Turn σ} (ht : t ∈ turnsOf exec parallel arrival hooks s) :
    t = turn exec t.hook t.found := by
  unfold turnsOf at ht
  split at ht
  · obtain ⟨i, -, hi⟩ := List.mem_filterMap.1 ht
    exact (turnsAt_spec exec (mem_of_lookup_eq_some hi)).2
  · exact eq_turn_of_mem exec ht

/-- What is run side by side or in order, as turns. -/
theorem results_eq_turnsOf (parallel : Bool) (arrival : Nat → List Nat) (hooks : List Hook)
    (s : Session σ) :
    (if parallel then (all exec arrival hooks s).1 else (untilBlocked exec hooks s).1) =
      (turnsOf exec parallel arrival hooks s).map Turn.result := by
  unfold turnsOf
  split
  · show arrange hooks (inArrival exec hooks (arrival hooks.length) s).1 = _
    rw [arrange_eq_resultAt, inArrival_eq_turnsAt, List.map_filterMap]
    apply List.filterMap_congr
    intro i _
    rw [resultAt, lookup_map_values fun _ => Turn.verdict]
    cases hi : (turnsAt exec hooks (arrival hooks.length) s).lookup i with
    | none => cases hooks[i]? <;> rfl
    | some t =>
      rw [(turnsAt_spec exec (mem_of_lookup_eq_some hi)).1]
      rfl
  · rw [untilBlocked_turns]

theorem turnsOf_parallel_hooks
    (harrival : (arrival hooks.length).Perm (List.range hooks.length)) :
    (turnsOf exec true arrival hooks s).map Turn.hook = hooks := by
  have hdone : ((inArrival exec hooks (arrival hooks.length) s).1.map (·.1)).Perm
      (List.range hooks.length) := by
    rw [inArrival_indices exec fun i hi => List.mem_range.1 (harrival.mem_iff.1 hi)]
    exact harrival
  have hresults : (all exec arrival hooks s).1 =
      (turnsOf exec true arrival hooks s).map Turn.result :=
    results_eq_turnsOf exec true arrival hooks s
  calc (turnsOf exec true arrival hooks s).map Turn.hook
      = ((turnsOf exec true arrival hooks s).map Turn.result).map (·.1) := by
        rw [List.map_map]
        rfl
    _ = (arrange hooks (inArrival exec hooks (arrival hooks.length) s).1).map (·.1) := by
        rw [← hresults]
        rfl
    _ = hooks := arrange_hooks hdone

theorem turnsOf_in_order_hooks :
    (turnsOf exec false arrival hooks s).map Turn.hook <+: hooks := by
  rw [show turnsOf exec false arrival hooks s = turns exec (hooks.take (span exec hooks s)) s
    from rfl, turns_map_hook]
  exact List.take_prefix _ _

end Run

end HookPolicy
