import HookPolicy.Proofs.Number.Digits

/-!
# Ends without blanks

A text that is trimmed has no blank at either end, and a text without blanks at its ends is not
changed by trimming.
-/

namespace HookPolicy.Text

variable {c : Char} {cs : List Char} {s : String}

/-- Neither the first nor the last character is a blank. -/
structure BareEnds (cs : List Char) : Prop where
  front : ∀ c ∈ cs.head?, isBlank c = false
  back : ∀ c ∈ cs.getLast?, isBlank c = false

theorem BareEnds.trim_eq (h : BareEnds cs) : trim cs = cs :=
  Decimal.trimBy_of_ends h.front h.back

theorem notBlank_of_head? (h : c ∈ (cs.dropWhile isBlank).head?) : isBlank c = false := by
  have hhead := List.head?_dropWhile_not isBlank cs
  rw [h] at hhead
  exact hhead

/-- What is taken off behind leaves the front as it is. -/
theorem trim_prefix (cs : List Char) : trim cs <+: cs.dropWhile isBlank := by
  rw [trim, trimBy, ← List.reverse_suffix, List.reverse_reverse]
  exact List.dropWhile_suffix isBlank

theorem bareEnds_trim (cs : List Char) : BareEnds (trim cs) where
  front c hc := by
    obtain ⟨rest, hrest⟩ := trim_prefix cs
    have hfront : c ∈ (cs.dropWhile isBlank).head? := by
      rw [← hrest, List.head?_append, hc]
      rfl
    exact notBlank_of_head? hfront
  back c hc := by
    rw [trim, trimBy, List.getLast?_reverse] at hc
    exact notBlank_of_head? hc

theorem trim_trim (cs : List Char) : trim (trim cs) = trim cs := (bareEnds_trim cs).trim_eq

theorem trimmed_trimmed (s : String) : trimmed (trimmed s) = trimmed s := by
  rw [trimmed, trimmed, String.toList_ofList, trim_trim]

theorem trimmed_eq_self (h : BareEnds s.toList) : trimmed s = s := by
  rw [trimmed, h.trim_eq, String.ofList_toList]

/-- A character that is no blank keeps its place in front. -/
theorem trim_cons (h : isBlank c = false) (cs : List Char) :
    ∃ rest, trim (c :: cs) = c :: rest := by
  have hne : trim (c :: cs) ≠ [] := by
    intro hnil
    rw [trim, trimBy, List.reverse_eq_nil_iff, List.dropWhile_eq_nil_iff,
      List.dropWhile_cons_of_neg (Bool.eq_false_iff.1 h)] at hnil
    exact Bool.eq_false_iff.1 h (hnil c (List.mem_reverse.2 List.mem_cons_self))
  obtain ⟨d, rest, htrim⟩ := List.exists_cons_of_ne_nil hne
  have hprefix := trim_prefix (c :: cs)
  rw [htrim, List.dropWhile_cons_of_neg (Bool.eq_false_iff.1 h), List.cons_prefix_cons] at hprefix
  exact ⟨rest, by rw [htrim, hprefix.1]⟩

end HookPolicy.Text
