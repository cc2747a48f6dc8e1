import HookPolicy.Files.Path
import HookPolicy.Proofs.Text.Splitting
import Mathlib.Data.List.Basic

/-!
# Climbing

A path is followed segment by segment: an empty one and a dot stay, `..` climbs one step up or stays
at the root, and any other goes down. Where this leads is what `cancel` leaves of a path from the
root.
-/

namespace HookPolicy.Path

variable {p : String} {text dir path : String} {parts : List String}

/-- The texts between the slashes. -/
def segments (text : String) : List String := (Text.splitAt '/' text.toList).map String.ofList

def climb (reached : List String) (p : String) : List String :=
  if p = "" ∨ p = "." then reached else if p = ".." then reached.dropLast else reached ++ [p]

/-- The names from the root to where the text leads. -/
def climbed (text : String) : List String := (segments text).foldl climb []

/-! ## One step -/

/-- A name that goes one step down. -/
structure Descends (p : String) : Prop where
  ne_empty : p ≠ ""
  ne_dot : p ≠ "."
  ne_dots : p ≠ ".."
  one : '/' ∉ p.toList

theorem climb_of_stays (h : p = "" ∨ p = ".") (reached : List String) :
    climb reached p = reached := by
  rw [climb, if_pos h]

theorem climb_up (reached : List String) : climb reached ".." = reached.dropLast := by
  rw [climb, if_neg (by decide), if_pos rfl]

theorem climb_down (hstays : ¬ (p = "" ∨ p = ".")) (hdots : p ≠ "..") (reached : List String) :
    climb reached p = reached ++ [p] := by
  rw [climb, if_neg hstays, if_neg hdots]

theorem climb_descends {reached : List String} (hreached : ∀ q ∈ reached, Descends q)
    (hp : '/' ∉ p.toList) : ∀ q ∈ climb reached p, Descends q := by
  unfold climb
  split
  · exact hreached
  · rename_i hstays
    rw [not_or] at hstays
    split
    · exact fun q hq => hreached q (List.dropLast_subset _ hq)
    · rename_i hdots
      intro q hq
      rcases List.mem_append.1 hq with hq | hq
      · exact hreached q hq
      · rw [List.mem_singleton.1 hq]
        exact ⟨hstays.1, hstays.2, hdots, hp⟩

/-! ## The whole way -/

theorem notMem_of_mem_segments (h : p ∈ segments text) : '/' ∉ p.toList := by
  obtain ⟨piece, hpiece, rfl⟩ := List.mem_map.1 h
  rw [String.toList_ofList]
  exact Text.notMem_of_mem_splitAt hpiece

theorem climbed_descends (text : String) : ∀ p ∈ climbed text, Descends p :=
  List.foldlRecOn (motive := fun reached => ∀ p ∈ reached, Descends p) (segments text) climb
    (List.forall_mem_nil _) fun _ hreached _ hp =>
      climb_descends hreached (notMem_of_mem_segments hp)

theorem parts_ofString (text : String) :
    (ofString text).parts = (segments text).filter fun p => ¬ (p = "" ∨ p = ".") := by
  have hparts : (ofString text).parts = ((Text.splitAt '/' text.toList).filter
      fun piece => !piece.isEmpty && piece != ['.']).map String.ofList := rfl
  have hdot : ∀ piece, String.ofList piece = "." ↔ piece = ['.'] := fun piece => by
    rw [← String.toList_inj, String.toList_ofList]
    rfl
  rw [hparts, segments, List.filter_map]
  congr 1
  refine List.filter_congr fun piece _ => ?_
  rw [Function.comp_apply, Bool.eq_iff_iff, decide_eq_true_iff, String.ofList_eq_empty_iff, hdot]
  simp

theorem foldl_climb_parts (text : String) (reached : List String) :
    (ofString text).parts.foldl climb reached = (segments text).foldl climb reached := by
  rw [parts_ofString, List.foldl_filter]
  congr 1
  funext reached p
  by_cases hstays : p = "" ∨ p = "."
  · rw [if_neg (by simp [hstays]), climb_of_stays hstays]
  · rw [if_pos (decide_eq_true hstays)]

theorem cancelOnto_down (rooted : Bool) (stack : List String) (hp : p ≠ "..") :
    cancelOnto rooted stack (p :: parts) = cancelOnto rooted (p :: stack) parts := by
  rw [cancelOnto.eq_def]
  dsimp only
  rw [if_pos (bne_iff_ne.2 hp)]

/-- Above a name that is none of the ways up, one step up takes it away. -/
theorem cancelOnto_up {stack : List String} (hstack : ".." ∉ stack) :
    cancelOnto true stack (".." :: parts) = cancelOnto true stack.tail parts := by
  cases stack with
  | nil => rfl
  | cons q below =>
    rw [List.mem_cons, not_or] at hstack
    have hq : (q == "..") = false := beq_eq_false_iff_ne.2 (Ne.symm hstack.1)
    rw [cancelOnto.eq_def]
    dsimp only
    rw [if_neg (by decide), hq, if_neg Bool.false_ne_true, List.tail_cons]

theorem reverse_cancelOnto (stack : List String) (hstack : ".." ∉ stack)
    (hparts : ∀ p ∈ parts, ¬ (p = "" ∨ p = ".")) :
    (cancelOnto true stack parts).reverse = parts.foldl climb stack.reverse := by
  -- the stack holds the names reached, last first; from the root no `..` ever gets onto it
  induction parts generalizing stack with
  | nil => rfl
  | cons p parts ih =>
    rw [List.forall_mem_cons] at hparts
    rw [List.foldl_cons]
    by_cases hp : p = ".."
    · have htail : ".." ∉ stack.tail := fun hmem => hstack (List.mem_of_mem_tail hmem)
      rw [hp, cancelOnto_up hstack, climb_up, List.dropLast_reverse, ih _ htail hparts.2]
    · have hmore := List.not_mem_cons_of_ne_of_not_mem (Ne.symm hp) hstack
      rw [cancelOnto_down true stack hp, climb_down hparts.1 hp, ← List.reverse_cons,
        ih _ hmore hparts.2]

/-- What is left of a path from the root leads the same way. -/
theorem parts_cancel (h : (ofString text).isAbsolute = true) :
    (ofString text).cancel.parts = climbed text := by
  have hparts : ∀ p ∈ (ofString text).parts, ¬ (p = "" ∨ p = ".") := by
    intro p hp
    rw [parts_ofString] at hp
    exact of_decide_eq_true (List.mem_filter.1 hp).2
  rw [cancel, h, climbed, ← foldl_climb_parts]
  exact reverse_cancelOnto [] List.not_mem_nil hparts

/-! ## Slashes in front -/

section

variable {cs : List Char}

theorem leadingSlashes_of_head_ne (h : cs.head? ≠ some '/') : leadingSlashes cs = 0 := by
  unfold leadingSlashes
  split <;> simp_all

theorem leadingSlashes_one (h : cs.head? ≠ some '/') : leadingSlashes ('/' :: cs) = 1 := by
  cases cs with
  | nil => rfl
  | cons c cs =>
    unfold leadingSlashes
    split <;> simp_all

theorem leadingSlashes_two (h : cs.head? ≠ some '/') : leadingSlashes ('/' :: '/' :: cs) = 2 := by
  unfold leadingSlashes
  split
  · rename_i heq
    cases heq
    exact absurd rfl h
  · rfl
  · rename_i hone heq
    cases heq
    exact absurd rfl (hone _)
  · rename_i hnone
    exact absurd rfl (hnone _)

theorem leadingSlashes_pos_iff : 0 < leadingSlashes cs ↔ cs.head? = some '/' := by
  constructor
  · contrapose
    intro hhead
    rw [leadingSlashes_of_head_ne hhead]
    exact Nat.lt_irrefl 0
  · intro hhead
    obtain ⟨rest, rfl⟩ := List.head?_eq_some_iff.1 hhead
    unfold leadingSlashes
    split <;> simp_all

end

theorem startsWith_slash_iff : text.startsWith "/" = true ↔ ∃ rest, text.toList = '/' :: rest := by
  rw [String.startsWith_string_iff]
  constructor
  · rintro ⟨rest, hrest⟩
    exact ⟨rest, hrest.symm⟩
  · rintro ⟨rest, hrest⟩
    exact ⟨rest, hrest.symm⟩

theorem isAbsolute_ofString (text : String) :
    (ofString text).isAbsolute = text.startsWith "/" := by
  have habsolute : (ofString text).isAbsolute = true ↔ 0 < leadingSlashes text.toList :=
    decide_eq_true_iff
  rw [Bool.eq_iff_iff, habsolute, leadingSlashes_pos_iff, startsWith_slash_iff,
    List.head?_eq_some_iff]

theorem toString_of_isAbsolute {p : Path} (h : p.isAbsolute = true) :
    p.toString = slashText p.slashes ++ "/".intercalate p.parts := by
  have hslashes : (p.slashes == 0) = false :=
    beq_eq_false_iff_ne.2 (Nat.ne_of_gt (of_decide_eq_true h))
  rw [toString, hslashes, Bool.false_and, if_neg Bool.false_ne_true]

theorem startsWith_slash_toString {p : Path} (h : p.isAbsolute = true) :
    p.toString.startsWith "/" = true := by
  obtain ⟨slashes, hslashes⟩ : ∃ slashes, p.slashes = slashes + 1 :=
    Nat.exists_eq_succ_of_ne_zero (Nat.ne_of_gt (of_decide_eq_true h))
  rw [startsWith_slash_iff, toString_of_isAbsolute h, hslashes, String.toList_append, slashText,
    String.toList_ofList, List.replicate_succ]
  exact ⟨_, List.cons_append⟩

/-- What follows does not add to the slashes in front, unless slashes meet. -/
theorem leadingSlashes_append {as bs : List Char} (hsome : as ≠ [])
    (hseam : as.getLast? = some '/' → bs.head? ≠ some '/') :
    leadingSlashes (as ++ bs) = leadingSlashes as := by
  have hhead : ∀ {c : Char} {rest : List Char}, c ≠ '/' → (c :: rest).head? ≠ some '/' :=
    fun hc heq => hc (Option.some.inj heq)
  have hnil : ([] : List Char).head? ≠ some '/' := by simp
  -- three slashes count as one, so what counts is how the first three characters begin
  rcases as with - | ⟨a, as⟩
  · exact absurd rfl hsome
  by_cases ha : a = '/'
  · subst ha
    rcases as with - | ⟨b, as⟩
    · exact (leadingSlashes_one (hseam rfl)).trans (leadingSlashes_one hnil).symm
    by_cases hb : b = '/'
    · subst hb
      rcases as with - | ⟨c, as⟩
      · exact (leadingSlashes_two (hseam rfl)).trans (leadingSlashes_two hnil).symm
      by_cases hc : c = '/'
      · subst hc
        rfl
      · exact (leadingSlashes_two (hhead hc)).trans (leadingSlashes_two (hhead hc)).symm
    · exact (leadingSlashes_one (hhead hb)).trans (leadingSlashes_one (hhead hb)).symm
  · exact (leadingSlashes_of_head_ne (hhead ha)).trans (leadingSlashes_of_head_ne (hhead ha)).symm

/-! ## One path behind another -/

/-- The text of one path behind another; an absolute one stands alone. -/
def joinedText (dir path : String) : String :=
  if path.startsWith "/" then path
  else if dir = "" ∨ dir.toList.getLast? = some '/' then dir ++ path
  else dir ++ "/" ++ path

theorem isAbsolute_join {p : Path} (h : p.isAbsolute = true) (q : Path) :
    (p.join q).isAbsolute = true := by
  rw [join]
  split
  · assumption
  · exact h

theorem join_assoc (p q r : Path) : (p.join q).join r = p.join (q.join r) := by
  unfold join
  by_cases hr : r.isAbsolute = true
  · simp [hr]
  · by_cases hq : q.isAbsolute = true
    · have hslashes : (⟨q.slashes, q.parts ++ r.parts⟩ : Path).isAbsolute = true := hq
      simp [hr, hq, hslashes]
    · have hslashes : ¬ (⟨q.slashes, q.parts ++ r.parts⟩ : Path).isAbsolute = true := hq
      simp [hr, hq, hslashes]

theorem parts_ofChars_append (as bs : List Char) :
    (ofChars (as ++ '/' :: bs)).parts = (ofChars as).parts ++ (ofChars bs).parts := by
  rw [ofChars, ofChars, ofChars, Text.splitAt_append_sep, List.filter_append, List.map_append]

theorem ofChars_behind {as bs : List Char} (hlast : as.getLast? = some '/')
    (hhead : bs.head? ≠ some '/') :
    ofChars (as ++ bs) = ⟨leadingSlashes as, (ofChars as).parts ++ (ofChars bs).parts⟩ := by
  obtain ⟨front, rfl⟩ := List.getLast?_eq_some_iff.1 hlast
  have hparts : (ofChars (front ++ ['/'] ++ bs)).parts =
      (ofChars (front ++ ['/'])).parts ++ (ofChars bs).parts := by
    have hnone : (ofChars []).parts = [] := rfl
    rw [List.append_assoc, List.singleton_append, parts_ofChars_append, parts_ofChars_append, hnone,
      List.append_nil]
  have hslashes : leadingSlashes (front ++ ['/'] ++ bs) = leadingSlashes (front ++ ['/']) :=
    leadingSlashes_append (by simp) fun _ => hhead
  rw [← hparts, ← hslashes]
  rfl

theorem ofChars_between {as : List Char} (hsome : as ≠ []) (hlast : as.getLast? ≠ some '/')
    (bs : List Char) :
    ofChars (as ++ '/' :: bs) = ⟨leadingSlashes as, (ofChars as).parts ++ (ofChars bs).parts⟩ := by
  have hslashes : leadingSlashes (as ++ '/' :: bs) = leadingSlashes as :=
    leadingSlashes_append hsome fun h => absurd h hlast
  rw [← parts_ofChars_append, ← hslashes]
  rfl

theorem ofString_joinedText (dir path : String) :
    ofString (joinedText dir path) = (ofString dir).join (ofString path) := by
  rw [join, isAbsolute_ofString, joinedText]
  split
  · rfl
  · rename_i hrelative
    rw [startsWith_slash_iff, ← List.head?_eq_some_iff] at hrelative
    split
    · rename_i hends
      rcases hends with rfl | hlast
      · rw [String.empty_append, ofString, ofChars, leadingSlashes_of_head_ne hrelative]
        rfl
      · rw [ofString, String.toList_append]
        exact ofChars_behind hlast hrelative
    · rename_i hends
      rw [not_or] at hends
      have hsome : dir.toList ≠ [] := fun hnil => hends.1 (String.toList_eq_nil_iff.1 hnil)
      rw [ofString, String.toList_append, String.toList_append, List.append_assoc]
      exact ofChars_between hsome hends.2 path.toList

theorem startsWith_slash_joinedText (h : dir.startsWith "/" = true) (path : String) :
    (joinedText dir path).startsWith "/" = true := by
  rw [← isAbsolute_ofString] at h ⊢
  rw [ofString_joinedText]
  exact isAbsolute_join h _

/-! ## Settled texts -/

/-- The text of the place that a text from the root leads to. -/
def settledText (text : String) : String :=
  slashText (leadingSlashes text.toList) ++ "/".intercalate (climbed text)

theorem toString_cancel (h : text.startsWith "/" = true) :
    (ofString text).cancel.toString = settledText text := by
  rw [← isAbsolute_ofString] at h
  rw [toString_of_isAbsolute (p := (ofString text).cancel) h, parts_cancel h]
  rfl

theorem segments_slashText_append (n : Nat) (text : String) :
    ∀ p ∈ segments (slashText n ++ text), p = "" ∨ p ∈ segments text := by
  induction n with
  | zero =>
    intro p hp
    rw [slashText, List.replicate_zero, String.ofList_nil, String.empty_append] at hp
    exact .inr hp
  | succ n ih =>
    intro p hp
    have hmore : segments (slashText (n + 1) ++ text) = "" :: segments (slashText n ++ text) := by
      rw [segments, segments, slashText, slashText, List.replicate_succ, String.toList_append,
        String.toList_append, String.toList_ofList, String.toList_ofList, List.cons_append,
        Text.splitAt_sep, List.map_cons]
    rw [hmore] at hp
    rcases List.mem_cons.1 hp with rfl | hp
    · exact .inl rfl
    · exact ih p hp

theorem segments_intercalate (hparts : ∀ p ∈ parts, '/' ∉ p.toList) :
    ∀ p ∈ segments ("/".intercalate parts), p = "" ∨ p ∈ parts := by
  intro p hp
  obtain ⟨piece, hpiece, rfl⟩ := List.mem_map.1 hp
  rw [String.toList_intercalate] at hpiece
  have hpieces : ∀ piece ∈ parts.map String.toList, '/' ∉ piece :=
    List.forall_mem_map.2 hparts
  rcases Text.mem_of_mem_splitAt_intercalate hpieces hpiece with rfl | hmem
  · exact .inl rfl
  · obtain ⟨q, hq, rfl⟩ := List.mem_map.1 hmem
    rw [String.ofList_toList]
    exact .inr hq

/-- No segment of a settled text is a dot or climbs. -/
theorem segments_settledText (text : String) :
    ∀ p ∈ segments (settledText text), p ≠ "." ∧ p ≠ ".." := by
  intro p hp
  have hempty : "" ≠ "." ∧ "" ≠ ".." := by decide
  rcases segments_slashText_append _ _ p hp with rfl | hp
  · exact hempty
  · rcases segments_intercalate (fun q hq => (climbed_descends text q hq).one) p hp with rfl | hp
    · exact hempty
    · have hdescends := climbed_descends text p hp
      exact ⟨hdescends.ne_dot, hdescends.ne_dots⟩

example : settledText "//a/./b/../../../c//d" = "//c/d" := by decide +kernel

end HookPolicy.Path
