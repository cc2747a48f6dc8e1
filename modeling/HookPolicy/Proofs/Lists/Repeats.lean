import Mathlib.Data.List.Nodup

/-!
# Dropping repeats

A list without its repeats keeps each element once, where it first stands.
-/

namespace HookPolicy

variable {α β : Type} [BEq β]

theorem eraseDups_eq_nil_iff {bs : List β} : bs.eraseDups = [] ↔ bs = [] := by
  cases bs with
  | nil => exact iff_of_true rfl rfl
  | cons b bs =>
    rw [List.eraseDups_cons]
    exact iff_of_false (List.cons_ne_nil _ _) (List.cons_ne_nil _ _)

variable [LawfulBEq β]

theorem eraseDups_filter (p : β → Bool) (bs : List β) :
    (bs.filter p).eraseDups = bs.eraseDups.filter p := by
  induction hn : bs.length using Nat.strongRecOn generalizing bs with
  | _ n ih =>
    cases bs with
    | nil => rfl
    | cons b bs =>
      have hrest : (bs.filter fun c => !c == b).length < n := by
        rw [← hn, List.length_cons]
        exact Nat.lt_succ_of_le (List.length_filter_le _ _)
      have hwithout : ((bs.filter p).filter fun c => !c == b).eraseDups =
          (bs.filter fun c => !c == b).eraseDups.filter p := by
        rw [← ih _ hrest _ rfl, List.filter_filter, List.filter_filter]
        simp only [Bool.and_comm]
      rw [List.eraseDups_cons, List.filter_cons, List.filter_cons]
      split
      · rw [List.eraseDups_cons, hwithout]
      · rename_i hp
        -- the first element is not kept, so leaving its repeats out changes nothing
        have hsame : (bs.filter p).filter (fun c => !c == b) = bs.filter p := by
          refine List.filter_eq_self.2 fun c hc => ?_
          rw [Bool.not_eq_true', beq_eq_false_iff_ne]
          rintro rfl
          exact hp (List.mem_filter.1 hc).2
        rw [← hwithout, hsame]

theorem nodup_eraseDups (bs : List β) : bs.eraseDups.Nodup := by
  induction hn : bs.length using Nat.strongRecOn generalizing bs with
  | _ n ih =>
    cases bs with
    | nil => exact List.nodup_nil
    | cons b bs =>
      have hrest : (bs.filter fun c => !c == b).length < n := by
        rw [← hn, List.length_cons]
        exact Nat.lt_succ_of_le (List.length_filter_le _ _)
      rw [List.eraseDups_cons]
      refine List.nodup_cons.2 ⟨fun hmem => ?_, ih _ hrest _ rfl⟩
      rw [List.mem_eraseDups, List.mem_filter, beq_self_eq_true] at hmem
      exact absurd hmem.2 Bool.false_ne_true

/-- A run of one value counts as the value once. -/
theorem eraseDups_replicate_append {n : Nat} (hn : n ≠ 0) (b : β) (bs : List β) :
    (List.replicate n b ++ bs).eraseDups = (b :: bs).eraseDups := by
  obtain ⟨k, rfl⟩ := Nat.exists_eq_succ_of_ne_zero hn
  rw [List.replicate_succ, List.cons_append, List.eraseDups_cons, List.eraseDups_cons,
    List.filter_append, List.filter_replicate, beq_self_eq_true]
  rfl

/-- When each element gives its value some number of times, those that give it at all count. -/
theorem eraseDups_flatMap_replicate (as : List α) (n : α → Nat) (f : α → β) :
    (as.flatMap fun a => List.replicate (n a) (f a)).eraseDups =
      ((as.filter fun a => n a != 0).map f).eraseDups := by
  induction as with
  | nil => rfl
  | cons a as ih =>
    rw [List.flatMap_cons, List.filter_cons]
    by_cases ha : n a = 0
    · rw [ha, List.replicate_zero, List.nil_append, ih]
      rfl
    · rw [eraseDups_replicate_append ha, if_pos (bne_iff_ne.2 ha), List.map_cons,
        List.eraseDups_cons, List.eraseDups_cons, eraseDups_filter, eraseDups_filter, ih]

end HookPolicy
