import HookPolicy.Proofs.Text.Trimming
import HookPolicy.Text.Case

/-!
# Case once and case twice

Where one of the case tables sends a character, none of them sends it any further, and no table
leads to a blank. So a text in lower case stays as it is in lower case (`lower_lower`), a character
that begins some upper case is its own upper case (`upperChar_of_head`), and a change of case leaves
the ends of a text without blanks.
-/

namespace HookPolicy.Text

/-! ## Numbers as bits -/

/-- The number whose bits are the listed ones. Two lists with no number in common are told apart by
one operation on such numbers, however long they are. -/
def bits (ns : List Nat) : Nat := ns.foldr (fun n rest => rest ||| 2 ^ n) 0

theorem testBit_bits {ns : List Nat} {n : Nat} : (bits ns).testBit n = true ↔ n ∈ ns := by
  induction ns with
  | nil => simp [bits]
  | cons m ns ih =>
    have hbits : bits (m :: ns) = bits ns ||| 2 ^ m := rfl
    rw [hbits, Nat.testBit_or, Bool.or_eq_true, ih, Nat.testBit_two_pow, decide_eq_true_iff,
      List.mem_cons, or_comm, eq_comm]

theorem notMem_of_bits {ns ms : List Nat} (h : bits ns &&& bits ms = 0) {n : Nat} (hn : n ∈ ns) :
    n ∉ ms := by
  intro hm
  have hboth := Nat.testBit_and (bits ns) (bits ms) n
  rw [h, testBit_bits.2 hn, testBit_bits.2 hm, Nat.zero_testBit] at hboth
  cases hboth

/-! ## Runs of a table -/

abbrev CaseRun := Nat × Nat × Nat × Int

/-- The characters that a run sends somewhere. -/
def sources (r : CaseRun) : List Nat := List.range' r.1 ((r.2.1 - r.1) / r.2.2.1 + 1) r.2.2.1

/-- Where a run sends them. -/
def targets (r : CaseRun) : List Nat := (sources r).map fun n : Nat => Int.toNat (n + r.2.2.2)

def lowerTable : List CaseRun := (0x41, 0x5A, 1, 32) :: lowerRuns.toList

def upperTable : List CaseRun := (0x61, 0x7A, 1, -32) :: upperRuns.toList

def expanded : List Nat := upperExpansions.toList.map Prod.fst

def expansionHeads : List Nat := upperExpansions.toList.map fun e => e.2.headD 0

def blankCodes : List Nat :=
  [0x09, 0x0A, 0x0B, 0x0C, 0x0D, 0x1C, 0x1D, 0x1E, 0x1F, 0x20, 0x85, 0xA0, 0x1680, 0x2000, 0x2001,
    0x2002, 0x2003, 0x2004, 0x2005, 0x2006, 0x2007, 0x2008, 0x2009, 0x200A, 0x2028, 0x2029, 0x202F,
    0x205F, 0x3000]

/-- Codes that are no characters stand for the character of code zero, hence the zero in front. -/
theorem lower_targets_apart : bits (0 :: lowerTable.flatMap targets) &&&
    bits (lowerTable.flatMap sources ++ blankCodes) = 0 := by
  decide +kernel

theorem upper_targets_apart : bits (0 :: (upperTable.flatMap targets ++ expansionHeads)) &&&
    bits (upperTable.flatMap sources ++ expanded ++ blankCodes) = 0 := by
  decide +kernel

theorem expansions_apart :
    bits (0 :: upperExpansions.toList.flatMap Prod.snd) &&& bits blankCodes = 0 := by
  decide +kernel

theorem toNat_ofNat_mem {n : Nat} {ns : List Nat} (h : n ∈ ns) :
    (Char.ofNat n).toNat ∈ 0 :: ns := by
  by_cases hvalid : n.isValidChar
  · rw [Char.toNat_ofNat, if_pos hvalid]
    exact List.mem_cons_of_mem 0 h
  · rw [Char.toNat_ofNat, if_neg hvalid]
    exact List.mem_cons_self

theorem mem_blankCodes {c : Char} (h : isBlank c = true) : c.toNat ∈ blankCodes := by
  simp only [isBlank, Bool.or_eq_true, Bool.and_eq_true, beq_iff_eq, decide_eq_true_eq] at h
  simp only [blankCodes, List.mem_cons, List.not_mem_nil, or_false]
  omega

theorem isBlank_of_targets {ns ms : List Nat} (h : bits ns &&& bits (ms ++ blankCodes) = 0)
    {c : Char} (hc : c.toNat ∈ ns) : isBlank c = false := by
  rw [Bool.eq_false_iff]
  intro hblank
  exact notMem_of_bits h hc (List.mem_append_right ms (mem_blankCodes hblank))

theorem mem_sources {a b step n : Nat} {delta : Int} (ha : a ≤ n) (hb : n ≤ b)
    (hon : (n - a) % step = 0) : n ∈ sources (a, b, step, delta) := by
  have hsteps : n = a + step * ((n - a) / step) := by
    have hsplit := Nat.div_add_mod (n - a) step
    omega
  have hfew : (n - a) / step ≤ (b - a) / step := Nat.div_le_div_right (Nat.sub_le_sub_right hb a)
  exact List.mem_range'.2 ⟨(n - a) / step, Nat.lt_succ_of_le hfew, hsteps⟩

theorem runAt_eq_some {runs : Array CaseRun} {n lo hi m : Nat} (h : runAt runs n lo hi = some m) :
    ∃ r ∈ runs.toList, n ∈ sources r ∧ m = Int.toNat (n + r.2.2.2) := by
  fun_induction runAt runs n lo hi with
  | case1 => cases h
  | case2 _ _ _ _ _ _ _ _ _ _ ih => exact ih h
  | case3 _ _ _ _ _ _ _ _ _ _ _ ih => exact ih h
  | case4 lo hi hlt mid a b step delta hrun ha hb hon =>
    cases h
    refine ⟨_, Array.mem_toList_iff.2 (Array.mem_of_getElem? hrun), ?_, rfl⟩
    exact mem_sources (not_lt.1 ha) (not_lt.1 hb) (beq_iff_eq.1 hon)
  | case5 => cases h
  | case6 => cases h

/-- A character is sent to another one by some run of a table. -/
def Sends (table : List CaseRun) (c d : Char) : Prop :=
  c.toNat ∈ table.flatMap sources ∧ d.toNat ∈ 0 :: table.flatMap targets

theorem sends_of_mem {table : List CaseRun} {r : CaseRun} {c : Char} (hr : r ∈ table)
    (hc : c.toNat ∈ sources r) :
    Sends table c (Char.ofNat (Int.toNat (c.toNat + r.2.2.2))) :=
  ⟨List.mem_flatMap.2 ⟨r, hr, hc⟩,
    toNat_ofNat_mem (List.mem_flatMap.2 ⟨r, hr, List.mem_map_of_mem hc⟩)⟩

theorem shiftBy_cases (runs : Array CaseRun) (c : Char) :
    shiftBy runs c = c ∨ Sends runs.toList c (shiftBy runs c) := by
  cases hrun : runAt runs c.toNat 0 runs.size with
  | none => exact .inl (by rw [shiftBy, hrun])
  | some n =>
    obtain ⟨r, hr, hc, rfl⟩ := runAt_eq_some hrun
    rw [shiftBy, hrun]
    exact .inr (sends_of_mem hr hc)

theorem Sends.cons {table : List CaseRun} {c d : Char} (h : Sends table c d) (r : CaseRun) :
    Sends (r :: table) c d := by
  refine ⟨List.mem_append_right _ h.1, ?_⟩
  rcases List.mem_cons.1 h.2 with hzero | hmem
  · exact hzero ▸ List.mem_cons_self
  · exact List.mem_cons_of_mem 0 (List.mem_append_right _ hmem)

theorem isAsciiUpper_iff {c : Char} : isAsciiUpper c = true ↔ 0x41 ≤ c.toNat ∧ c.toNat ≤ 0x5A := by
  simp [isAsciiUpper, Char.le_def, UInt32.le_iff_toNat_le]

theorem isAsciiLower_iff {c : Char} : isAsciiLower c = true ↔ 0x61 ≤ c.toNat ∧ c.toNat ≤ 0x7A := by
  simp [isAsciiLower, Char.le_def, UInt32.le_iff_toNat_le]

theorem asciiLower_cases (c : Char) :
    asciiLower c = c ∨ Sends lowerTable c (asciiLower c) := by
  unfold asciiLower
  split
  · rename_i hupper
    obtain ⟨ha, hz⟩ := isAsciiUpper_iff.1 hupper
    have hsource : c.toNat ∈ sources (0x41, 0x5A, 1, 32) := mem_sources ha hz (Nat.mod_one _)
    have hcode : c.toNat + 32 = Int.toNat (c.toNat + 32) := by omega
    rw [hcode]
    exact .inr (sends_of_mem List.mem_cons_self hsource)
  · exact .inl rfl

theorem asciiUpper_cases (c : Char) :
    asciiUpper c = c ∨ Sends upperTable c (asciiUpper c) := by
  unfold asciiUpper
  split
  · rename_i hlower
    obtain ⟨ha, hz⟩ := isAsciiLower_iff.1 hlower
    have hsource : c.toNat ∈ sources (0x61, 0x7A, 1, -32) := mem_sources ha hz (Nat.mod_one _)
    have hcode : c.toNat - 32 = Int.toNat (c.toNat + -32) := by omega
    rw [hcode]
    exact .inr (sends_of_mem List.mem_cons_self hsource)
  · exact .inl rfl

/-! ## Lower case -/

theorem lowerChar_cases (c : Char) : lowerChar c = c ∨ Sends lowerTable c (lowerChar c) := by
  unfold lowerChar
  split
  · exact asciiLower_cases c
  · exact (shiftBy_cases lowerRuns c).imp_right fun h => h.cons _

theorem lowerChar_of_notMem {c : Char} (h : c.toNat ∉ lowerTable.flatMap sources) :
    lowerChar c = c :=
  (lowerChar_cases c).resolve_right fun hsends => h hsends.1

theorem lowerChar_lowerChar (c : Char) : lowerChar (lowerChar c) = lowerChar c := by
  rcases lowerChar_cases c with hself | hsends
  · rw [hself, hself]
  · exact lowerChar_of_notMem fun hmem =>
      notMem_of_bits lower_targets_apart hsends.2 (List.mem_append_left _ hmem)

theorem isBlank_lowerChar {c : Char} (h : isBlank c = false) : isBlank (lowerChar c) = false := by
  rcases lowerChar_cases c with hself | hsends
  · rw [hself, h]
  · exact isBlank_of_targets lower_targets_apart hsends.2

/-- Small letters, and all characters that have no case. -/
def IsLower (c : Char) : Prop := lowerChar c = c

instance (c : Char) : Decidable (IsLower c) := instDecidableEqChar _ _

/-- The letters that stand for a character in lower case, the last one first. -/
def lowOf (before : List Char) (c : Char) (rest : List Char) : List Char :=
  if c == 'Σ' then if nextIsCased before && !nextIsCased rest then ['ς'] else ['σ']
  else if c == 'İ' then ['\u0307', 'i']
  else [lowerChar c]

theorem lowerAfter_cons (before out : List Char) (c : Char) (rest : List Char) :
    lowerAfter before out (c :: rest) =
      lowerAfter (c :: before) (lowOf before c rest ++ out) rest := rfl

theorem isLower_lowOf {before rest : List Char} {c d : Char} (h : d ∈ lowOf before c rest) :
    IsLower d := by
  unfold lowOf at h
  split at h
  · split at h
    · rw [List.mem_singleton.1 h]
      decide +kernel
    · rw [List.mem_singleton.1 h]
      decide +kernel
  · split at h
    · simp only [List.mem_cons, List.not_mem_nil, or_false] at h
      rcases h with rfl | rfl
      · decide +kernel
      · decide +kernel
    · rw [List.mem_singleton.1 h]
      exact lowerChar_lowerChar c

theorem isLower_lowerAfter {before out cs : List Char} (hout : ∀ d ∈ out, IsLower d) :
    ∀ d ∈ lowerAfter before out cs, IsLower d := by
  induction cs generalizing before out with
  | nil => exact fun d hd => hout d (List.mem_reverse.1 hd)
  | cons c cs ih =>
    rw [lowerAfter_cons]
    apply ih
    intro d hd
    exact (List.mem_append.1 hd).elim isLower_lowOf (hout d)

theorem isLower_lower (cs : List Char) : ∀ d ∈ lower cs, IsLower d :=
  isLower_lowerAfter nofun

theorem lowOf_of_isLower {c : Char} (h : IsLower c) (before rest : List Char) :
    lowOf before c rest = [c] := by
  have hsigma : c ≠ 'Σ' := by
    rintro rfl
    exact absurd h (by decide +kernel)
  have hdotted : c ≠ 'İ' := by
    rintro rfl
    exact absurd h (by decide +kernel)
  rw [lowOf, if_neg (by simpa using hsigma), if_neg (by simpa using hdotted), h]

theorem lowerAfter_of_isLower {cs : List Char} (h : ∀ c ∈ cs, IsLower c) (before out : List Char) :
    lowerAfter before out cs = out.reverse ++ cs := by
  induction cs generalizing before out with
  | nil => exact (List.append_nil _).symm
  | cons c cs ih =>
    obtain ⟨hc, hcs⟩ := List.forall_mem_cons.1 h
    rw [lowerAfter_cons, lowOf_of_isLower hc, ih hcs, List.singleton_append, List.reverse_cons,
      List.append_assoc, List.singleton_append]

theorem lower_of_isLower {cs : List Char} (h : ∀ c ∈ cs, IsLower c) : lower cs = cs :=
  lowerAfter_of_isLower h [] []

theorem lower_lower (cs : List Char) : lower (lower cs) = lower cs :=
  lower_of_isLower (isLower_lower cs)

theorem lowOf_ends {c : Char} (h : isBlank c = false) (before rest : List Char) :
    ∃ d more, lowOf before c rest = d :: more ∧ isBlank d = false := by
  unfold lowOf
  split
  · split
    · exact ⟨_, _, rfl, by decide⟩
    · exact ⟨_, _, rfl, by decide⟩
  · split
    · exact ⟨_, _, rfl, by decide⟩
    · exact ⟨_, _, rfl, isBlank_lowerChar h⟩

theorem lowerAfter_ends {c : Char} (h : isBlank c = false) (before out cs : List Char) :
    ∃ front d, lowerAfter before out (cs ++ [c]) = front ++ [d] ∧ isBlank d = false := by
  induction cs generalizing before out with
  | nil =>
    obtain ⟨d, more, hlow, hd⟩ := lowOf_ends h before []
    refine ⟨(more ++ out).reverse, d, ?_, hd⟩
    rw [List.nil_append, lowerAfter_cons, hlow]
    exact List.reverse_cons
  | cons x cs ih => exact ih (x :: before) _

theorem getLast?_lower {c : Char} (h : isBlank c = false) (cs : List Char) :
    ∀ d ∈ (lower (cs ++ [c])).getLast?, isBlank d = false := by
  obtain ⟨front, e, hends, he⟩ := lowerAfter_ends h [] [] cs
  intro d hd
  rw [lower, hends, List.getLast?_concat] at hd
  cases hd
  exact he

/-- Neither of the two capitals whose lower case depends on their place or is no single letter. -/
def IsPlain (c : Char) : Prop := c ≠ 'Σ' ∧ c ≠ 'İ'

theorem isPlain_of_ascii {c : Char} (h : c.toNat < 128) : IsPlain c := by
  constructor
  · rintro rfl
    exact absurd h (by decide)
  · rintro rfl
    exact absurd h (by decide)

theorem lowOf_of_isPlain {c : Char} (h : IsPlain c) (before rest : List Char) :
    lowOf before c rest = [lowerChar c] := by
  rw [lowOf, if_neg (by simpa using h.1), if_neg (by simpa using h.2)]

theorem lowerAfter_of_isPlain {cs : List Char} (h : ∀ c ∈ cs, IsPlain c) (before out : List Char) :
    lowerAfter before out cs = out.reverse ++ cs.map lowerChar := by
  induction cs generalizing before out with
  | nil => exact (List.append_nil _).symm
  | cons c cs ih =>
    obtain ⟨hc, hcs⟩ := List.forall_mem_cons.1 h
    rw [lowerAfter_cons, lowOf_of_isPlain hc, ih hcs, List.singleton_append, List.reverse_cons,
      List.append_assoc, List.singleton_append, List.map_cons]

theorem lower_of_isPlain {cs : List Char} (h : ∀ c ∈ cs, IsPlain c) :
    lower cs = cs.map lowerChar :=
  lowerAfter_of_isPlain h [] []

theorem subset_lowerAfter (before out cs : List Char) : out ⊆ lowerAfter before out cs := by
  induction cs generalizing before out with
  | nil => exact fun d hd => List.mem_reverse.2 hd
  | cons c cs ih => exact fun d hd => ih _ _ (List.mem_append_right _ hd)

theorem exists_lowOf_subset {c : Char} {cs : List Char} (h : c ∈ cs) (before out : List Char) :
    ∃ front behind, lowOf front c behind ⊆ lowerAfter before out cs := by
  induction cs generalizing before out with
  | nil => cases h
  | cons x cs ih =>
    rw [lowerAfter_cons]
    rcases List.mem_cons.1 h with rfl | hmem
    · exact ⟨before, cs, fun d hd => subset_lowerAfter _ _ _ (List.mem_append_left _ hd)⟩
    · exact ih hmem _ _

theorem isPlain_of_lower_ascii {cs : List Char} (h : ∀ d ∈ lower cs, d.toNat < 128) :
    ∀ c ∈ cs, IsPlain c := by
  intro c hc
  obtain ⟨front, behind, hsubset⟩ := exists_lowOf_subset hc [] []
  have hascii : ∀ d ∈ lowOf front c behind, d.toNat < 128 := fun d hd => h d (hsubset hd)
  constructor
  · rintro rfl
    rw [lowOf, if_pos (by decide)] at hascii
    split at hascii
    · exact absurd (hascii _ List.mem_cons_self) (by decide)
    · exact absurd (hascii _ List.mem_cons_self) (by decide)
  · rintro rfl
    exact absurd (hascii '\u0307' (by simp [lowOf])) (by decide)

/-- A character that no run of the table leads to is the lower case of itself at most. -/
theorem eq_of_lowerChar_eq {c d : Char} (h : lowerChar c = d)
    (hd : (bits (0 :: lowerTable.flatMap targets)).testBit d.toNat = false) : c = d := by
  rcases lowerChar_cases c with hself | hsends
  · exact hself.symm.trans h
  · have hmem := testBit_bits.2 hsends.2
    rw [h, hd] at hmem
    cases hmem

/-! ## Upper case -/

theorem upperChar_cases (c : Char) :
    upperChar c = [c] ∨ (∃ d, Sends upperTable c d ∧ upperChar c = [d]) ∨
      ∃ e ∈ upperExpansions.toList, e.1 = c.toNat ∧ upperChar c = e.2.map Char.ofNat := by
  unfold upperChar
  split
  · rcases asciiUpper_cases c with hself | hsends
    · exact .inl (by rw [hself])
    · exact .inr (.inl ⟨_, hsends, rfl⟩)
  · split
    · rename_i code ns hfind
      have hcode := Array.find?_some hfind
      exact .inr (.inr ⟨_, Array.mem_toList_iff.2 (Array.mem_of_find?_eq_some hfind),
        beq_iff_eq.1 hcode, rfl⟩)
    · rcases shiftBy_cases upperRuns c with hself | hsends
      · exact .inl (by rw [hself])
      · exact .inr (.inl ⟨_, hsends.cons _, rfl⟩)

theorem upperChar_of_notMem {c : Char} (h : c.toNat ∉ upperTable.flatMap sources ++ expanded) :
    upperChar c = [c] := by
  rcases upperChar_cases c with hself | ⟨d, hsends, -⟩ | ⟨e, he, hcode, -⟩
  · exact hself
  · exact absurd (List.mem_append_left _ hsends.1) h
  · exact absurd (List.mem_append_right _ (hcode ▸ List.mem_map_of_mem he)) h

theorem expansions_ne_nil : ∀ e ∈ upperExpansions.toList, e.2 ≠ [] := by
  decide +kernel

theorem upperChar_ne_nil (c : Char) : upperChar c ≠ [] := by
  rcases upperChar_cases c with hself | ⟨d, -, hd⟩ | ⟨e, he, -, hexpands⟩
  · rw [hself]
    exact List.cons_ne_nil c []
  · rw [hd]
    exact List.cons_ne_nil d []
  · rw [hexpands]
    exact mt List.map_eq_nil_iff.1 (expansions_ne_nil e he)

theorem upperChar_of_target {d : Char}
    (h : d.toNat ∈ 0 :: (upperTable.flatMap targets ++ expansionHeads)) : upperChar d = [d] :=
  upperChar_of_notMem fun hmem =>
    notMem_of_bits upper_targets_apart h (List.mem_append_left _ hmem)

/-- The first letter of an upper case is its own upper case. -/
theorem upperChar_of_head {c d : Char} {ds : List Char} (h : upperChar c = d :: ds) :
    upperChar d = [d] := by
  rcases upperChar_cases c with hself | ⟨d', hsends, hd⟩ | ⟨e, he, -, hexpands⟩
  · cases hself.symm.trans h
    exact hself
  · cases hd.symm.trans h
    refine upperChar_of_target ?_
    rcases List.mem_cons.1 hsends.2 with hzero | hmem
    · exact hzero ▸ List.mem_cons_self
    · exact List.mem_cons_of_mem 0 (List.mem_append_left _ hmem)
  · rw [hexpands] at h
    obtain ⟨n, ns, hns, rfl, -⟩ := List.map_eq_cons_iff.1 h
    refine upperChar_of_target (toNat_ofNat_mem (List.mem_append_right _ ?_))
    exact List.mem_map.2 ⟨e, he, by rw [hns, List.headD_cons]⟩

theorem isBlank_upperChar {c : Char} (h : isBlank c = false) :
    ∀ d ∈ upperChar c, isBlank d = false := by
  rcases upperChar_cases c with hself | ⟨d', hsends, hd⟩ | ⟨e, he, -, hexpands⟩
  · rw [hself]
    intro d hd
    rwa [List.mem_singleton.1 hd]
  · rw [hd]
    intro d hd
    rw [List.mem_singleton.1 hd]
    refine isBlank_of_targets upper_targets_apart ?_
    rcases List.mem_cons.1 hsends.2 with hzero | hmem
    · exact hzero ▸ List.mem_cons_self
    · exact List.mem_cons_of_mem 0 (List.mem_append_left _ hmem)
  · rw [hexpands]
    intro d hd
    obtain ⟨n, hn, rfl⟩ := List.mem_map.1 hd
    have hcode := toNat_ofNat_mem (List.mem_flatMap.2 ⟨e, he, hn⟩)
    rw [Bool.eq_false_iff]
    exact fun hblank => notMem_of_bits expansions_apart hcode (mem_blankCodes hblank)

end HookPolicy.Text
