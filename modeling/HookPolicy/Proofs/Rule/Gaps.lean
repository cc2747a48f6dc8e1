import HookPolicy.Proofs.Rule.Wording
import HookPolicy.Proofs.Text.Casing

/-!
# Gaps between texts

A blank is a divider, so where blanks stand between two texts, the tokens are those of the first
text and then those of the second. The only texts in front for which this fails are those that end
inside a literal: there the blanks become a part of it (`tokenize_around_gap`).
-/

namespace HookPolicy.Rule

open Text

variable {quote c : Char} {cs : List Char}

/-! ## Blanks -/

theorem not_isWord_of_blankCodes : ∀ n ∈ blankCodes, isWord (Char.ofNat n) = false := by
  decide +kernel

theorem divides_of_isBlank (h : isBlank c = true) : Divides c where
  noWord := by
    rw [← Char.ofNat_toNat c]
    exact not_isWord_of_blankCodes _ (mem_blankCodes h)
  noMark := by
    have hmarks : ['=', '!', '&', '|', '.'].any isBlank = false := by decide
    rw [List.any_eq_false] at hmarks
    exact fun hmem => hmarks c hmem h

/-! ## Literals that are left open -/

/-- What was taken for a literal stays its beginning. -/
theorem reverse_prefix_readLiteral (quote : Char) (taken cs : List Char) :
    taken.reverse <+: (readLiteral quote taken cs).1 := by
  have hcons : ∀ (c : Char) (taken : List Char), taken.reverse <+: (c :: taken).reverse :=
    fun c taken => List.reverse_prefix.2 (List.suffix_cons c taken)
  fun_induction readLiteral quote taken cs with
  | case1 taken => exact List.prefix_rfl
  | case2 taken c hc => exact List.prefix_rfl
  | case3 taken c hc => exact hcons c taken
  | case4 taken c d rest hc => exact List.prefix_rfl
  | case5 taken c d rest hc hback ih => exact (hcons d taken).trans ih
  | case6 taken c d rest hc hback ih => exact (hcons c taken).trans ih

theorem readLiteral_open (h : closes quote cs = false) (taken : List Char) :
    (readLiteral quote taken cs).2 = [] := by
  fun_induction closes quote cs generalizing taken with
  | case1 => rfl
  | case2 c => rw [readLiteral, h, if_neg Bool.false_ne_true]
  | case3 c d rest hc => cases h
  | case4 c d rest hc hback ih =>
    rw [readLiteral, if_neg hc, if_pos hback]
    exact ih h _
  | case5 c d rest hc hback ih =>
    rw [readLiteral, if_neg hc, if_neg hback]
    exact ih h _

/-- A character that ends no literal and escapes nothing becomes a part of the literal. -/
theorem reverse_cons_prefix_readLiteral (hquote : c ≠ quote) (hback : c ≠ '\\')
    (taken rest : List Char) :
    (c :: taken).reverse <+: (readLiteral quote taken (c :: rest)).1 := by
  cases rest with
  | nil => rw [readLiteral, if_neg (by simpa using hquote)]
  | cons d rest =>
    rw [readLiteral, if_neg (by simpa using hquote), if_neg (by simpa using hback)]
    exact reverse_prefix_readLiteral quote (c :: taken) (d :: rest)

theorem readLiteral_open_append (hopen : closes quote cs = false) (hquote : c ≠ quote)
    (hback : c ≠ '\\') (taken rest : List Char) :
    (readLiteral quote taken (cs ++ c :: rest)).1 ≠ (readLiteral quote taken cs).1 := by
  -- a longer literal is another one
  have hlonger : ∀ {taken out : List Char},
      (c :: taken).reverse <+: out → out ≠ taken.reverse := by
    rintro taken out hprefix rfl
    have hlength := hprefix.length_le
    rw [List.length_reverse, List.length_reverse, List.length_cons] at hlength
    exact Nat.lt_irrefl _ hlength
  fun_induction closes quote cs generalizing taken with
  | case1 => exact hlonger (reverse_cons_prefix_readLiteral hquote hback taken rest)
  | case2 e =>
    rw [List.singleton_append, readLiteral, readLiteral, hopen, if_neg Bool.false_ne_true,
      if_neg Bool.false_ne_true]
    split
    · -- the backslash that ended the text was taken as it is, and now stands for the character
      rename_i hescape
      intro heq
      have hprefix := reverse_prefix_readLiteral quote (c :: taken) rest
      rw [heq, List.reverse_prefix] at hprefix
      have hsame := hprefix.eq_of_length rfl
      rw [List.cons.injEq] at hsame
      exact hback (hsame.1.trans (eq_of_beq hescape))
    · exact hlonger (reverse_cons_prefix_readLiteral hquote hback (e :: taken) rest)
  | case3 e d rest hc => cases hopen
  | case4 e d more he hescape ih =>
    rw [List.cons_append, List.cons_append, readLiteral, readLiteral, if_neg he, if_neg he,
      if_pos hescape, if_pos hescape]
    exact ih hopen _
  | case5 e d more he hescape ih =>
    rw [List.cons_append, List.cons_append, readLiteral, readLiteral, if_neg he, if_neg he,
      if_neg hescape, if_neg hescape]
    exact ih hopen _

/-! ## The tokens around a gap -/

theorem tokensFrom_append (found before : List Token) (cs : List Char) :
    tokensFrom (found ++ before) cs = before.reverse ++ tokensFrom found cs := by
  fun_induction tokensFrom found cs with
  | case1 found => simp [tokensFrom]
  | case2 found c rest token behind hscan ih =>
    rw [tokensFrom_token hscan, ← List.cons_append, ih]
  | case3 found c rest behind hscan ih =>
    rw [tokensFrom_skip hscan, ih]

theorem tokensFrom_eq_append (found : List Token) (cs : List Char) :
    tokensFrom found cs = found.reverse ++ tokensFrom [] cs :=
  tokensFrom_append [] found cs

theorem tokensFrom_nil_cons (d : Char) (cs : List Char) :
    tokensFrom [] (d :: cs) = (scan d cs).1.toList ++ tokensFrom [] (scan d cs).2 := by
  rw [tokensFrom_cons, tokensFrom_eq_append, List.append_nil]
  cases (scan d cs).1 <;> rfl

theorem dropLast_tokensFrom (d : Char) (cs : List Char) :
    (tokensFrom [] (d :: cs)).dropLast =
      (scan d cs).1.toList ++ (tokensFrom [] (scan d cs).2).dropLast := by
  obtain ⟨ts, -, -, hts⟩ := exists_tokensFrom_eq [] (scan d cs).2
  rw [tokensFrom_nil_cons, hts, List.reverse_nil, List.nil_append, ← List.append_assoc,
    List.dropLast_concat, List.dropLast_concat]

theorem not_isBlank_of_isQuotationMark (h : isQuotationMark quote = true) :
    isBlank quote = false := by
  rcases isQuotationMark_iff.1 h with rfl | rfl <;> decide

theorem scan_quotationMark (h : isQuotationMark quote = true) (cs : List Char) :
    scan quote cs = (some (.literal (String.ofList (readLiteral quote [] cs).1)),
      (readLiteral quote [] cs).2) := by
  rcases isQuotationMark_iff.1 h with rfl | rfl <;> rfl

/-- Where the text in front ends inside a literal, its tokens are not those in front of the gap. -/
theorem not_prefix_of_endsOpen (hopen : endsOpen cs = true) (hblank : isBlank c = true)
    (rest : List Char) :
    ¬ (tokensFrom [] cs).dropLast <+: tokensFrom [] (cs ++ c :: rest) := by
  have hne : ∀ {d : Char}, isBlank d = false → c ≠ d := by
    rintro d hd rfl
    rw [hblank] at hd
    cases hd
  fun_induction endsOpen cs with
  | case1 => cases hopen
  | case2 d cs ih =>
    rw [dropLast_tokensFrom, List.cons_append, tokensFrom_nil_cons]
    by_cases hmark : isQuotationMark d = true ∧ closes d cs = false
    · rw [scan_quotationMark hmark.1, scan_quotationMark hmark.1, readLiteral_open hmark.2]
      intro hprefix
      have hsame := (List.cons_prefix_cons.1 hprefix).1
      rw [Token.literal.injEq, String.ofList_inj] at hsame
      have hquote := hne (not_isBlank_of_isQuotationMark hmark.1)
      exact readLiteral_open_append hmark.2 hquote (hne (by decide)) [] rest hsame.symm
    · have hclosed : isQuotationMark d = true → closes d cs = true := fun hd => by
        simpa [hd] using hmark
      have hbehind : endsOpen (scan d cs).2 = true := by
        simpa [hmark] using hopen
      rw [(divides_of_isBlank hblank).scan_append hclosed, List.prefix_append_right_inj]
      exact ih hbehind

theorem tokenize_append (before gap after : String) :
    tokenize (before ++ gap ++ after) =
      tokensFrom [] (before.toList ++ (gap.toList ++ after.toList)) := by
  rw [tokenize, String.toList_append, String.toList_append, List.append_assoc]

theorem exists_blank_cons {gap : String} (hgap : gap ≠ "")
    (hblank : gap.toList.all isBlank = true) :
    ∃ c more, isBlank c = true ∧ gap.toList = c :: more := by
  obtain ⟨c, more, hcons⟩ := List.exists_cons_of_ne_nil (mt String.toList_eq_nil_iff.1 hgap)
  rw [hcons, List.all_cons, Bool.and_eq_true] at hblank
  exact ⟨c, more, hblank.1, hcons⟩

theorem tokenize_gap {before gap : String} (hclosed : endsOpen before.toList = false)
    (hgap : gap ≠ "") (hblank : gap.toList.all isBlank = true) (after : String) :
    tokenize (before ++ gap ++ after) = (tokenize before).dropLast ++ tokenize after := by
  obtain ⟨c, more, hc, hcons⟩ := exists_blank_cons hgap hblank
  obtain ⟨ts, -, halone, hdivided⟩ := exists_tokens_before_divider hclosed
  have hbefore : (tokenize before).dropLast = ts := by
    rw [tokenize, halone, List.dropLast_concat, List.reverse_nil, List.nil_append]
  calc tokenize (before ++ gap ++ after)
      = tokensFrom [] (before.toList ++ (gap.toList ++ after.toList)) := tokenize_append _ _ _
    _ = tokensFrom ts.reverse (gap.toList ++ after.toList) := by
        rw [hcons, List.cons_append, hdivided c (divides_of_isBlank hc), List.append_nil]
    _ = tokensFrom ts.reverse after.toList := scans_blanks hblank _ _
    _ = ts ++ tokensFrom [] after.toList := by rw [tokensFrom_eq_append, List.reverse_reverse]
    _ = (tokenize before).dropLast ++ tokenize after := by rw [hbefore, tokenize]

/-- Blanks between two texts part the tokens of the two exactly if the text in front does not end
inside a literal. Every text has the mark of the end as its last token and nowhere else. -/
theorem tokenize_around_gap {gap : String} (hgap : gap ≠ "")
    (hblank : gap.toList.all isBlank = true) (before after : String) :
    (endsOpen before.toList = false ↔
      tokenize (before ++ gap ++ after) = (tokenize before).dropLast ++ tokenize after) ∧
    ∀ text, ∃ ts, Token.finish ∉ ts ∧ tokenize text = ts ++ [.finish] := by
  refine ⟨⟨fun hclosed => tokenize_gap hclosed hgap hblank after, fun heq => ?_⟩, fun text => ?_⟩
  · obtain ⟨c, more, hc, hcons⟩ := exists_blank_cons hgap hblank
    rw [tokenize_append, hcons, List.cons_append] at heq
    rw [← Bool.not_eq_true]
    exact fun hopen => not_prefix_of_endsOpen hopen hc _ ⟨tokenize after, heq.symm⟩
  · obtain ⟨ts, hfinish, -, hts⟩ := exists_wordable_tokens text
    exact ⟨ts, hfinish, hts⟩

/-- A `!` in front of the gap and an `=` behind it make no operator. -/
theorem tokenize_around_gap_halves :
    "\t \u2003" ≠ "" ∧ "\t \u2003".toList.all isBlank = true ∧
      endsOpen "tool !".toList = false ∧
      tokenize ("tool !" ++ "\t \u2003" ++ "= 'a b'") =
        [.path "tool", .negate, .literal "a b", .finish] := by
  have hgap : "\t \u2003" ≠ "" := by decide
  have hblank : "\t \u2003".toList.all isBlank = true := by decide +kernel
  have hclosed : endsOpen "tool !".toList = false := by decide +kernel
  have hbefore : tokenize "tool !" = [.path "tool", .negate, .finish] := by decide +kernel
  have hafter : tokenize "= 'a b'" = [.literal "a b", .finish] := by decide +kernel
  have htokens := (tokenize_around_gap hgap hblank "tool !" "= 'a b'").1.1 hclosed
  rw [hbefore, hafter] at htokens
  exact ⟨hgap, hblank, hclosed, htokens⟩

end HookPolicy.Rule
