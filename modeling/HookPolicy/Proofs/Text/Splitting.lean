import HookPolicy.Text.Pieces
import Mathlib.Data.List.Basic

/-!
# Cutting at a separator

A text is cut where the separator stands, and nowhere else.
-/

namespace HookPolicy.Text

variable {sep : Char} {cs : List Char}

theorem splitAt_cons (sep c : Char) (cs : List Char) : splitAt sep (c :: cs) =
    if c == sep then [] :: splitAt sep cs
    else match splitAt sep cs with
      | piece :: more => (c :: piece) :: more
      | [] => [[c]] := rfl

theorem splitAt_sep (sep : Char) (cs : List Char) :
    splitAt sep (sep :: cs) = [] :: splitAt sep cs := by
  rw [splitAt_cons, if_pos (beq_self_eq_true sep)]

theorem exists_splitAt_eq_cons (sep : Char) (cs : List Char) :
    ∃ piece more, splitAt sep cs = piece :: more := by
  induction cs with
  | nil => exact ⟨[], [], rfl⟩
  | cons c cs ih =>
    obtain ⟨piece, more, hsplit⟩ := ih
    rw [splitAt_cons, hsplit]
    split
    · exact ⟨_, _, rfl⟩
    · exact ⟨_, _, rfl⟩

theorem splitAt_cons_of_ne {c : Char} (hc : c ≠ sep) {piece : List Char} {more : List (List Char)}
    (h : splitAt sep cs = piece :: more) : splitAt sep (c :: cs) = (c :: piece) :: more := by
  rw [splitAt_cons, if_neg (by simpa using hc), h]

theorem splitAt_of_notMem (h : sep ∉ cs) : splitAt sep cs = [cs] := by
  induction cs with
  | nil => rfl
  | cons c cs ih =>
    rw [List.mem_cons, not_or] at h
    exact splitAt_cons_of_ne (Ne.symm h.1) (ih h.2)

theorem splitAt_append_sep (sep : Char) (as bs : List Char) :
    splitAt sep (as ++ sep :: bs) = splitAt sep as ++ splitAt sep bs := by
  induction as with
  | nil => exact splitAt_sep sep bs
  | cons a as ih =>
    rw [List.cons_append]
    by_cases ha : a = sep
    · rw [ha, splitAt_sep, splitAt_sep, ih, List.cons_append]
    · obtain ⟨piece, more, hsplit⟩ := exists_splitAt_eq_cons sep as
      rw [hsplit] at ih
      rw [splitAt_cons_of_ne ha ih, splitAt_cons_of_ne ha hsplit]
      rfl

theorem notMem_of_mem_splitAt {piece : List Char} (h : piece ∈ splitAt sep cs) : sep ∉ piece := by
  induction cs generalizing piece with
  | nil =>
    rw [List.mem_singleton.1 h]
    exact List.not_mem_nil
  | cons c cs ih =>
    by_cases hc : c = sep
    · rw [hc, splitAt_sep] at h
      rcases List.mem_cons.1 h with rfl | h
      · exact List.not_mem_nil
      · exact ih h
    · obtain ⟨first, more, hsplit⟩ := exists_splitAt_eq_cons sep cs
      rw [hsplit, List.forall_mem_cons] at ih
      rw [splitAt_cons_of_ne hc hsplit] at h
      rcases List.mem_cons.1 h with rfl | h
      · exact List.not_mem_cons_of_ne_of_not_mem (Ne.symm hc) ih.1
      · exact ih.2 _ h

theorem intercalate_splitAt (sep : Char) (cs : List Char) :
    [sep].intercalate (splitAt sep cs) = cs := by
  induction cs with
  | nil => rfl
  | cons c cs ih =>
    obtain ⟨piece, more, hsplit⟩ := exists_splitAt_eq_cons sep cs
    rw [hsplit] at ih
    by_cases hc : c = sep
    · rw [hc, splitAt_sep, hsplit, List.intercalate_cons_cons, ih]
      rfl
    · rw [splitAt_cons_of_ne hc hsplit]
      cases more with
      | nil =>
        rw [List.intercalate_singleton] at ih ⊢
        rw [ih]
      | cons second more =>
        rw [List.intercalate_cons_cons] at ih ⊢
        rw [List.cons_append, List.cons_append, ih]

theorem splitAt_intercalate {pieces : List (List Char)} (hne : pieces ≠ [])
    (hpieces : ∀ piece ∈ pieces, sep ∉ piece) :
    splitAt sep ([sep].intercalate pieces) = pieces := by
  induction pieces with
  | nil => exact absurd rfl hne
  | cons first more ih =>
    rw [List.forall_mem_cons] at hpieces
    cases more with
    | nil => rw [List.intercalate_singleton, splitAt_of_notMem hpieces.1]
    | cons second more =>
      rw [List.intercalate_cons_cons, List.append_assoc, List.singleton_append, splitAt_append_sep,
        splitAt_of_notMem hpieces.1, List.singleton_append,
        ih (List.cons_ne_nil _ _) hpieces.2]

/-- What is cut after pieces were put together is one of them, or the empty piece of an empty
list. -/
theorem mem_of_mem_splitAt_intercalate {pieces : List (List Char)}
    (hpieces : ∀ piece ∈ pieces, sep ∉ piece) {piece : List Char}
    (h : piece ∈ splitAt sep ([sep].intercalate pieces)) : piece = [] ∨ piece ∈ pieces := by
  by_cases hne : pieces = []
  · rw [hne] at h
    exact .inl (List.mem_singleton.1 h)
  · rw [splitAt_intercalate hne hpieces] at h
    exact .inr h

end HookPolicy.Text
