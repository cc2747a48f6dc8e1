import HookPolicy.Condition.Manifest
import HookPolicy.Proofs.Text.Casing

/-!
# Spellings of a name

A name of a distribution is spelled in either case, and with any run of separators for any other.
Two texts have one normal form exactly where they are spellings of one name
(`normalName_eq_iff_respells`). A requirement is read as the normal form of the name that it starts
with (`requirementName?_eq_some_iff`).
-/

namespace HookPolicy.Condition

variable {c d : Char} {cs ds run other name lead requirement : List Char}

/-! ## The characters of a name -/

theorem isSeparator_iff : isSeparator c = true ↔ c = '-' ∨ c = '_' ∨ c = '.' := by
  simp [isSeparator, or_assoc]

theorem toNat_of_isAsciiAlnum (h : Text.isAsciiAlnum c = true) :
    (0x30 ≤ c.toNat ∧ c.toNat ≤ 0x39) ∨ (0x41 ≤ c.toNat ∧ c.toNat ≤ 0x5A) ∨
      (0x61 ≤ c.toNat ∧ c.toNat ≤ 0x7A) := by
  simp only [Text.isAsciiAlnum, Text.isAsciiLetter, Text.isAsciiDigit, Bool.or_eq_true,
    Bool.and_eq_true, decide_eq_true_eq, Char.le_def, UInt32.le_iff_toNat_le] at h
  have hcodes : '0'.val.toNat = 0x30 ∧ '9'.val.toNat = 0x39 ∧ 'A'.val.toNat = 0x41 ∧
      'Z'.val.toNat = 0x5A ∧ 'a'.val.toNat = 0x61 ∧ 'z'.val.toNat = 0x7A := by decide
  have hc : c.toNat = c.val.toNat := rfl
  omega

theorem ascii_of_isSeparator (h : isSeparator c = true) : c.toNat < 128 := by
  rcases isSeparator_iff.1 h with rfl | rfl | rfl <;> decide

theorem not_isSeparator_of_isAsciiAlnum (h : Text.isAsciiAlnum c = true) :
    isSeparator c = false := by
  rw [Bool.eq_false_iff]
  intro hsep
  rcases isSeparator_iff.1 hsep with rfl | rfl | rfl <;> exact absurd h (by decide)

theorem not_isBlank_of_isAsciiAlnum (h : Text.isAsciiAlnum c = true) : Text.isBlank c = false := by
  have hcode := toNat_of_isAsciiAlnum h
  simp only [Text.isBlank, Bool.or_eq_false_iff, Bool.and_eq_false_iff, beq_eq_false_iff_ne,
    decide_eq_false_iff_not]
  omega

theorem isNameChar_iff :
    isNameChar c = true ↔ Text.isAsciiAlnum c = true ∨ isSeparator c = true := by
  rw [isNameChar, Bool.or_eq_true]

theorem ascii_of_isNameChar (h : isNameChar c = true) : c.toNat < 128 := by
  rcases isNameChar_iff.1 h with halnum | hsep
  · have hcode := toNat_of_isAsciiAlnum halnum
    omega
  · exact ascii_of_isSeparator hsep

theorem lowerChar_of_isSeparator (h : isSeparator c = true) : Text.lowerChar c = c := by
  rcases isSeparator_iff.1 h with rfl | rfl | rfl <;> decide +kernel

theorem ascii_lowerChar (h : c.toNat < 128) : (Text.lowerChar c).toNat < 128 := by
  rw [Text.lowerChar, if_pos h, Text.asciiLower]
  split
  · rename_i hupper
    have hcode := Text.isAsciiUpper_iff.1 hupper
    rw [Char.toNat_ofNat]
    split <;> omega
  · exact h

/-- The lower case of a letter or digit is no separator. -/
theorem not_isSeparator_of_lowerChar_eq (h : Text.isAsciiAlnum c = true)
    (hlow : Text.lowerChar d = Text.lowerChar c) : isSeparator d = false := by
  rw [Bool.eq_false_iff]
  intro hsep
  rw [lowerChar_of_isSeparator hsep] at hlow
  -- nothing else is sent to a separator, so the letter would be one itself
  have hself : c = d := by
    refine Text.eq_of_lowerChar_eq hlow.symm ?_
    rcases isSeparator_iff.1 hsep with rfl | rfl | rfl <;> decide +kernel
  rw [← hself, not_isSeparator_of_isAsciiAlnum h] at hsep
  cases hsep

/-! ## Runs of separators -/

theorem joinSeparators_letter (h : isSeparator c = false) (after : Bool) (cs : List Char) :
    joinSeparators after (c :: cs) = c :: joinSeparators false cs := by
  rw [joinSeparators, if_neg (Bool.eq_false_iff.1 h)]

theorem joinSeparators_of_letter_ahead (h : ∀ c ∈ cs.head?, isSeparator c = false)
    (after : Bool) : joinSeparators after cs = joinSeparators false cs := by
  cases cs with
  | nil => rfl
  | cons c cs =>
    have hc := h c rfl
    rw [joinSeparators_letter hc, joinSeparators_letter hc]

theorem joinSeparators_within (h : ∀ c ∈ run, isSeparator c = true) (cs : List Char) :
    joinSeparators true (run ++ cs) = joinSeparators true cs := by
  induction run with
  | nil => rfl
  | cons c run ih =>
    obtain ⟨hc, hrun⟩ := List.forall_mem_cons.1 h
    rw [List.cons_append, joinSeparators, if_pos hc, if_pos rfl, ih hrun]

/-- Separators, one at least. -/
def IsRun (run : List Char) : Prop := run ≠ [] ∧ ∀ c ∈ run, isSeparator c = true

theorem IsRun.joinSeparators_append (h : IsRun run) (after : Bool) (cs : List Char) :
    joinSeparators after (run ++ cs) = (if after then [] else ['-']) ++ joinSeparators true cs := by
  obtain ⟨hne, hall⟩ := h
  cases after with
  | true => exact joinSeparators_within hall cs
  | false =>
    cases run with
    | nil => exact absurd rfl hne
    | cons c run =>
      obtain ⟨hc, hrun⟩ := List.forall_mem_cons.1 hall
      rw [List.cons_append, joinSeparators, if_pos hc, if_neg Bool.false_ne_true,
        joinSeparators_within hrun]
      rfl

theorem mem_joinSeparators {after : Bool} (h : c ∈ joinSeparators after cs) :
    c ∈ cs ∨ c = '-' := by
  induction cs generalizing after with
  | nil => exact absurd h List.not_mem_nil
  | cons d cs ih =>
    have hbehind : ∀ after, c ∈ joinSeparators after cs → c ∈ d :: cs ∨ c = '-' :=
      fun after hmem => (ih hmem).imp_left (List.mem_cons_of_mem d)
    rw [joinSeparators] at h
    split at h
    · split at h
      · exact hbehind _ h
      · exact (List.mem_cons.1 h).elim .inr (hbehind _)
    · exact (List.mem_cons.1 h).elim (fun heq => .inl (heq ▸ List.mem_cons_self)) (hbehind _)

theorem mem_joinSeparators_of_letter (h : c ∈ cs) (hc : isSeparator c = false) (after : Bool) :
    c ∈ joinSeparators after cs := by
  induction cs generalizing after with
  | nil => cases h
  | cons d cs ih =>
    rcases List.mem_cons.1 h with rfl | hmem
    · rw [joinSeparators_letter hc]
      exact List.mem_cons_self
    · rw [joinSeparators]
      split
      · split
        · exact ih hmem _
        · exact List.mem_cons_of_mem _ (ih hmem _)
      · exact List.mem_cons_of_mem _ (ih hmem _)

/-! ## Spellings -/

/-- The second text is a spelling of the name that the first one is: letters and digits have the same
lower case, and a run of separators stands where one stands in the first. -/
inductive Respells : List Char → List Char → Prop
  | nil : Respells [] []
  | letter {c d : Char} {cs ds : List Char} : Text.isAsciiAlnum c = true →
      Text.lower [d] = Text.lower [c] → Respells cs ds → Respells (c :: cs) (d :: ds)
  | run {run other cs ds : List Char} : IsRun run → IsRun other → Respells cs ds →
      Respells (run ++ cs) (other ++ ds)

theorem isPlain_of_isNameChar (h : isNameChar c = true) : Text.IsPlain c :=
  Text.isPlain_of_ascii (ascii_of_isNameChar h)

/-- A letter or digit has the same lower case as another character where both have it on their own. -/
theorem lower_singleton_eq_iff (h : Text.isAsciiAlnum c = true) :
    Text.lower [d] = Text.lower [c] ↔ Text.IsPlain d ∧ Text.lowerChar d = Text.lowerChar c := by
  have hc : Text.lower [c] = [Text.lowerChar c] :=
    Text.lower_of_isPlain fun e he =>
      List.mem_singleton.1 he ▸ isPlain_of_isNameChar (isNameChar_iff.2 (.inl h))
  have hascii := ascii_lowerChar (ascii_of_isNameChar (isNameChar_iff.2 (.inl h)))
  constructor
  · intro hlow
    have hplain : ∀ c ∈ [d], Text.IsPlain c := by
      refine Text.isPlain_of_lower_ascii fun e he => ?_
      rw [hlow, hc] at he
      rwa [List.mem_singleton.1 he]
    rw [List.forall_mem_singleton] at hplain
    rw [Text.lower_of_isPlain fun e he => List.mem_singleton.1 he ▸ hplain, hc] at hlow
    exact ⟨hplain, List.head_eq_of_cons_eq hlow⟩
  · rintro ⟨hplain, hlow⟩
    rw [Text.lower_of_isPlain fun e he => List.mem_singleton.1 he ▸ hplain, hc, List.map_singleton,
      hlow]

/-- Two spellings agree letter by letter once their runs are joined. -/
theorem Respells.joined (h : Respells name other) (after : Bool) :
    (∀ c ∈ joinSeparators after other, Text.IsPlain c) ∧
      (joinSeparators after other).map Text.lowerChar =
        (joinSeparators after name).map Text.lowerChar := by
  induction h generalizing after with
  | nil => exact ⟨fun _ hmem => absurd hmem List.not_mem_nil, rfl⟩
  | letter hc hlow _ ih =>
    obtain ⟨hd, hsame⟩ := (lower_singleton_eq_iff hc).1 hlow
    obtain ⟨hplain, hmap⟩ := ih false
    rw [joinSeparators_letter (not_isSeparator_of_isAsciiAlnum hc),
      joinSeparators_letter (not_isSeparator_of_lowerChar_eq hc hsame)]
    exact ⟨List.forall_mem_cons.2 ⟨hd, hplain⟩, by rw [List.map_cons, List.map_cons, hsame, hmap]⟩
  | run hrun hother _ ih =>
    obtain ⟨hplain, hmap⟩ := ih true
    rw [hrun.joinSeparators_append, hother.joinSeparators_append]
    refine ⟨fun c hc => ?_, by rw [List.map_append, List.map_append, hmap]⟩
    rcases List.mem_append.1 hc with hmem | hmem
    · cases after with
      | true => exact absurd hmem List.not_mem_nil
      | false => exact List.mem_singleton.1 hmem ▸ Text.isPlain_of_ascii (by decide)
    · exact hplain c hmem

theorem normalName_of_nameChars (h : ∀ c ∈ name, isNameChar c = true) :
    normalName name = (joinSeparators false name).map Text.lowerChar := by
  refine Text.lower_of_isPlain fun c hc => ?_
  rcases mem_joinSeparators hc with hmem | rfl
  · exact isPlain_of_isNameChar (h c hmem)
  · exact isPlain_of_isNameChar (by decide)

theorem Respells.normalName_eq (h : Respells name other) (hname : ∀ c ∈ name, isNameChar c = true) :
    normalName other = normalName name := by
  obtain ⟨hplain, hmap⟩ := h.joined false
  rw [normalName_of_nameChars hname, ← hmap]
  exact Text.lower_of_isPlain hplain

/-- A text with a separator in front starts with a run that is as long as can be. -/
theorem exists_run (h : isSeparator c = true) (cs : List Char) :
    ∃ run rest, c :: cs = run ++ rest ∧ IsRun run ∧ (∀ d ∈ rest.head?, isSeparator d = false) ∧
      rest.length ≤ cs.length := by
  refine ⟨c :: cs.takeWhile isSeparator, cs.dropWhile isSeparator, ?_, ⟨List.cons_ne_nil _ _, ?_⟩,
    fun d hd => ?_, List.length_dropWhile_le _ _⟩
  · rw [List.cons_append, List.takeWhile_append_dropWhile]
  · exact List.forall_mem_cons.2 ⟨h, fun d hd => List.mem_takeWhile_imp hd⟩
  · have hhead := List.head?_dropWhile_not isSeparator cs
    rw [hd] at hhead
    exact hhead

theorem IsRun.joinSeparators_ahead (h : IsRun run) (hcs : ∀ c ∈ cs.head?, isSeparator c = false) :
    joinSeparators false (run ++ cs) = '-' :: joinSeparators false cs := by
  rw [h.joinSeparators_append, if_neg Bool.false_ne_true, List.singleton_append,
    joinSeparators_of_letter_ahead hcs]

theorem joinSeparators_ne_nil (c : Char) (cs : List Char) : joinSeparators false (c :: cs) ≠ [] := by
  rw [joinSeparators]
  split
  · exact List.cons_ne_nil _ _
  · exact List.cons_ne_nil _ _

theorem respells_of_joined (hname : ∀ c ∈ name, isNameChar c = true)
    (hplain : ∀ c ∈ other, isSeparator c = false → Text.IsPlain c)
    (hmap : (joinSeparators false other).map Text.lowerChar =
      (joinSeparators false name).map Text.lowerChar) : Respells name other := by
  -- a run is longer than the one hyphen that stands for it, so the length of the name goes down
  induction hlength : name.length using Nat.strong_induction_on generalizing name other with
  | _ n ih =>
    subst hlength
    cases name with
    | nil =>
      cases other with
      | nil => exact .nil
      | cons d ds =>
        exact absurd (List.map_eq_nil_iff.1 hmap) (joinSeparators_ne_nil d ds)
    | cons c cs =>
      cases hc : isSeparator c with
      | false =>
        have halnum : Text.isAsciiAlnum c = true :=
          (isNameChar_iff.1 (hname c List.mem_cons_self)).resolve_right (Bool.eq_false_iff.1 hc)
        rw [joinSeparators_letter hc, List.map_cons] at hmap
        cases other with
        | nil => cases hmap
        | cons d ds =>
          cases hd : isSeparator d with
          | false =>
            rw [joinSeparators_letter hd, List.map_cons, List.cons.injEq] at hmap
            refine .letter halnum ((lower_singleton_eq_iff halnum).2
              ⟨hplain d List.mem_cons_self hd, hmap.1⟩) (ih cs.length (Nat.lt_succ_self _) ?_ ?_
              hmap.2 rfl)
            · exact fun e he => hname e (List.mem_cons_of_mem c he)
            · exact fun e he => hplain e (List.mem_cons_of_mem d he)
          | true =>
            rw [joinSeparators, if_pos hd, if_neg Bool.false_ne_true, List.map_cons,
              List.cons.injEq] at hmap
            cases not_isSeparator_of_lowerChar_eq halnum hmap.1
      | true =>
        obtain ⟨run, rest, hsplit, hrun, hrest, hshort⟩ := exists_run hc cs
        rw [hsplit] at hname hmap ⊢
        rw [hrun.joinSeparators_ahead hrest, List.map_cons] at hmap
        cases other with
        | nil => cases hmap
        | cons d ds =>
          have hd : isSeparator d = true := by
            rw [← Bool.not_eq_false]
            intro hletter
            rw [joinSeparators_letter hletter, List.map_cons, List.cons.injEq] at hmap
            have hhyphen : d = '-' := Text.eq_of_lowerChar_eq hmap.1 (by decide +kernel)
            rw [hhyphen] at hletter
            cases hletter
          obtain ⟨run', rest', hsplit', hrun', hrest', -⟩ := exists_run hd ds
          rw [hsplit'] at hplain hmap ⊢
          rw [hrun'.joinSeparators_ahead hrest', List.map_cons, List.cons.injEq] at hmap
          refine .run hrun hrun' (ih rest.length (Nat.lt_succ_of_le hshort) ?_ ?_ hmap.2 rfl)
          · exact fun e he => hname e (List.mem_append_right run he)
          · exact fun e he => hplain e (List.mem_append_right run' he)

/-- The normal form tells the spellings of a name from all other texts. -/
theorem normalName_eq_iff_respells (hname : ∀ c ∈ name, isNameChar c = true) :
    normalName other = normalName name ↔ Respells name other := by
  refine ⟨fun hnormal => ?_, fun h => h.normalName_eq hname⟩
  have hascii : ∀ d ∈ Text.lower (joinSeparators false other), d.toNat < 128 := by
    have hlow : Text.lower (joinSeparators false other) =
        (joinSeparators false name).map Text.lowerChar :=
      hnormal.trans (normalName_of_nameChars hname)
    intro d hd
    rw [hlow] at hd
    obtain ⟨c, hc, rfl⟩ := List.mem_map.1 hd
    refine ascii_lowerChar ?_
    rcases mem_joinSeparators hc with hmem | rfl
    · exact ascii_of_isNameChar (hname c hmem)
    · decide
  have hplain := Text.isPlain_of_lower_ascii hascii
  refine respells_of_joined hname (fun c hc hletter => ?_) ?_
  · exact hplain c (mem_joinSeparators_of_letter hc hletter false)
  · rw [← Text.lower_of_isPlain hplain, ← normalName_of_nameChars hname]
    exact hnormal

/-! ## Requirements -/

/-- A name of a distribution: letters, digits and separators, with no separator in front. -/
def IsDistName (name : List Char) : Prop :=
  (∃ c ∈ name.head?, Text.isAsciiAlnum c = true) ∧ ∀ c ∈ name, isNameChar c = true

/-- The requirement is the name with blanks in front and, behind it, a text that does not go on with
the name: a version, extras, a marker, a place. -/
structure Leads (name requirement : List Char) : Prop where
  isName : IsDistName name
  written : ∃ blanks rest, requirement = blanks ++ name ++ rest ∧
    (∀ c ∈ blanks, Text.isBlank c = true) ∧ ∀ c ∈ rest.head?, isNameChar c = false

theorem requirementName?_eq_some_iff :
    requirementName? requirement = some other ↔
      ∃ name, Leads name requirement ∧ normalName name = other := by
  constructor
  · intro h
    unfold requirementName? at h
    split at h
    · rename_i c cs hdrop
      split at h
      · rename_i halnum
        cases h
        have hblanks := List.takeWhile_append_dropWhile (p := Text.isBlank) (l := requirement)
        have hname := List.takeWhile_append_dropWhile (p := isNameChar) (l := cs)
        refine ⟨c :: cs.takeWhile isNameChar, ⟨⟨⟨c, rfl, halnum⟩, ?_⟩,
          requirement.takeWhile Text.isBlank, cs.dropWhile isNameChar, ?_, ?_, fun d hd => ?_⟩, rfl⟩
        · exact List.forall_mem_cons.2
            ⟨isNameChar_iff.2 (.inl halnum), fun d hd => List.mem_takeWhile_imp hd⟩
        · rw [List.append_assoc, List.cons_append, hname, ← hdrop, hblanks]
        · exact fun d hd => List.mem_takeWhile_imp hd
        · have hhead := List.head?_dropWhile_not isNameChar cs
          rw [hd] at hhead
          exact hhead
      · cases h
    · cases h
  · rintro ⟨name, ⟨⟨⟨c, hc, halnum⟩, hall⟩, blanks, rest, rfl, hblanks, hrest⟩, rfl⟩
    obtain ⟨cs, rfl⟩ := List.head?_eq_some_iff.1 hc
    have hdrop : (blanks ++ (c :: cs) ++ rest).dropWhile Text.isBlank = c :: (cs ++ rest) := by
      rw [List.append_assoc, List.dropWhile_append_of_pos hblanks, List.cons_append,
        List.dropWhile_cons_of_neg (Bool.eq_false_iff.1 (not_isBlank_of_isAsciiAlnum halnum))]
    have htake : (cs ++ rest).takeWhile isNameChar = cs := by
      rw [List.takeWhile_append_of_pos (List.forall_mem_cons.1 hall).2]
      cases rest with
      | nil => exact List.append_nil cs
      | cons d rest =>
        rw [List.takeWhile_cons_of_neg (Bool.eq_false_iff.1 (hrest d rfl)), List.append_nil]
    rw [requirementName?, hdrop]
    dsimp only
    rw [if_pos halnum, htake]

end HookPolicy.Condition
