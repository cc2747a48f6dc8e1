import Mathlib.Data.List.Basic
import HookPolicy.Proofs.Rule.Scanning

/-!
# Texts side by side

The lexer looks behind the character it stands at: for the end of a word, for the second character
of an operator, for the next name of a path, for the closing quotation mark of a literal. A divider
is a character at which all of this comes to an end, so that the tokens before it are those of the
text before it alone, as long as that text does not end inside a literal
(`exists_tokens_before_divider`).
-/

namespace HookPolicy.Rule

open Text

/-! ## Literals that are left open -/

def isQuotationMark (c : Char) : Bool := c == '\x27' || c == '"'

theorem isQuotationMark_iff {c : Char} : isQuotationMark c = true ↔ c = '\x27' ∨ c = '"' := by
  rw [isQuotationMark, Bool.or_eq_true, beq_iff_eq, beq_iff_eq]

/-- The text behind an opening quotation mark holds the closing one. -/
def closes (quote : Char) : List Char → Bool
  | [] => false
  | [c] => c == quote
  | c :: d :: rest =>
    if c == quote then true
    else if c == '\\' then closes quote rest
    else closes quote (d :: rest)

/-- The lexer reaches the end of the text inside a literal. -/
def endsOpen : List Char → Bool
  | [] => false
  | c :: rest => isQuotationMark c && !closes c rest || endsOpen (scan c rest).2
termination_by cs => cs.length
decreasing_by exact Nat.lt_succ_of_le (scan_length c rest)

theorem readLiteral_append {quote : Char} {cs : List Char} (h : closes quote cs = true)
    (taken more : List Char) :
    readLiteral quote taken (cs ++ more) =
      ((readLiteral quote taken cs).1, (readLiteral quote taken cs).2 ++ more) := by
  fun_induction closes quote cs generalizing taken with
  | case1 => cases h
  | case2 c =>
    obtain rfl := eq_of_beq h
    rw [List.singleton_append, readLiteral_close, readLiteral_close]
    rfl
  | case3 c d rest hc =>
    obtain rfl := eq_of_beq hc
    rw [List.cons_append, readLiteral_close, readLiteral_close]
  | case4 c d rest hc hback ih =>
    simp only [List.cons_append, readLiteral, hc, hback, Bool.false_eq_true, if_true, if_false]
    exact ih h (d :: taken)
  | case5 c d rest hc hback ih =>
    simp only [List.cons_append, readLiteral, hc, hback, Bool.false_eq_true, if_false]
    exact ih h (c :: taken)

/-! ## Dividers -/

/-- A character with which no token goes on. -/
structure Divides (c : Char) : Prop where
  noWord : isWord c = false
  noMark : c ∉ ['=', '!', '&', '|', '.']

theorem divides_rparen : Divides ')' := ⟨by decide, by decide⟩

variable {c : Char}

theorem Divides.not_isNameChar (hc : Divides c) : isNameChar c = false := by
  cases h : isNameChar c with
  | false => rfl
  | true => rw [← hc.noWord, isWord_of_isNameChar h]

theorem Divides.not_isNameStart (hc : Divides c) : isNameStart c = false := by
  cases h : isNameStart c with
  | false => rfl
  | true => rw [← hc.not_isNameChar, isNameChar_of_isNameStart h]

theorem operatorForms_chars : ∀ form ∈ operatorForms,
    form.1.all (fun d => isWord d || ['=', '!', '&', '|', '.'].contains d) = true := by decide

theorem Divides.notMem_form (hc : Divides c) {form : List Char × Bool × Operator}
    (hform : form ∈ operatorForms) : c ∉ form.1 := by
  intro hin
  have hchar := List.all_eq_true.1 (operatorForms_chars form hform) c hin
  rw [hc.noWord, Bool.false_or, List.contains_iff_mem] at hchar
  exact hc.noMark hchar

theorem rest?_append {w : List Char} (hw : c ∉ w) (cs rest : List Char) :
    rest? w (cs ++ c :: rest) = (rest? w cs).map (· ++ c :: rest) := by
  induction w generalizing cs with
  | nil => rfl
  | cons a w ih =>
    obtain ⟨hne, hw⟩ := not_or.1 (mt List.mem_cons.2 hw)
    cases cs with
    | nil => simp [rest?, Ne.symm hne]
    | cons d cs =>
      rw [List.cons_append, rest?, rest?, ih hw]
      split <;> rfl

theorem Divides.atWordEnd_append (hc : Divides c) (cs rest : List Char) :
    atWordEnd (cs ++ c :: rest) = atWordEnd cs := by
  cases cs with
  | nil => simp [atWordEnd, hc.noWord]
  | cons d cs => rfl

theorem Divides.readForm_append (hc : Divides c) {form : List Char × Bool × Operator}
    (hform : form ∈ operatorForms) (cs rest : List Char) :
    readForm (cs ++ c :: rest) form =
      (readForm cs form).map fun found => (found.1, found.2 ++ c :: rest) := by
  unfold readForm
  rw [rest?_append (hc.notMem_form hform)]
  cases rest? form.1 cs with
  | none => rfl
  | some behind =>
    rw [Option.map_some]
    dsimp only
    rw [hc.atWordEnd_append]
    split <;> rfl

theorem Divides.readOperator_append (hc : Divides c) (cs rest : List Char) :
    readOperator (cs ++ c :: rest) =
      (readOperator cs).map fun found => (found.1, found.2 ++ c :: rest) := by
  unfold readOperator
  rw [List.map_findSome?, ← List.head?_filterMap, ← List.head?_filterMap]
  congr 1
  exact List.filterMap_congr fun form hform => hc.readForm_append hform cs rest

theorem Divides.readLogical_append (hc : Divides c) (d : Char) (cs rest : List Char) :
    readLogical d (cs ++ c :: rest) =
      (readLogical d cs).map fun found => (found.1, found.2 ++ c :: rest) := by
  cases cs with
  | nil =>
    have hand : c ≠ '&' := by
      rintro rfl
      exact hc.noMark (by decide)
    have hor : c ≠ '|' := by
      rintro rfl
      exact hc.noMark (by decide)
    simp only [List.nil_append, readLogical.eq_def]
    split <;> simp_all
  | cons e cs =>
    unfold readLogical
    split <;> simp_all

theorem Divides.readPath_append (hc : Divides c) (taken cs rest : List Char) :
    readPath taken (cs ++ c :: rest) =
      ((readPath taken cs).1, (readPath taken cs).2 ++ c :: rest) := by
  fun_induction readPath taken cs with
  | case1 taken =>
    refine readPath_stop hc.not_isNameChar ?_ taken
    rintro rfl
    exact absurd (by decide) hc.noMark
  | case2 taken d cs hd ih =>
    rw [List.cons_append, readPath_nameChar hd, ih]
  | case3 taken d cs hd hd' ih =>
    rw [List.cons_append, List.cons_append, readPath_dot hd, ih]
  | case4 taken d cs hd hd' =>
    refine readPath_stop (by decide) (fun _ e more heq => ?_) taken
    rw [← (List.cons.inj heq).1]
    simpa using hd
  | case5 taken d cs hd hother =>
    refine readPath_stop (by simpa using hd) (fun hdot e more heq => ?_) taken
    -- a dot with more behind it belongs to the cases before, so the divider is what follows it
    cases cs with
    | nil => rw [← (List.cons.inj heq).1, hc.not_isNameStart]
    | cons e' cs => exact absurd rfl (hother e' cs hdot)

/-- The token at a character is the same with a divider behind the text. -/
theorem Divides.scan_append (hc : Divides c) {d : Char} {cs : List Char}
    (hclosed : isQuotationMark d = true → closes d cs = true) (rest : List Char) :
    scan d (cs ++ c :: rest) = ((scan d cs).1, (scan d cs).2 ++ c :: rest) := by
  unfold scan
  split
  · rfl
  · split
    · rfl
    · split
      · rfl
      · split
        · rename_i hmark
          rw [readLiteral_append (hclosed hmark)]
        · rw [← List.cons_append, hc.readOperator_append]
          cases readOperator (d :: cs) with
          | some found => rfl
          | none =>
            rw [Option.map_none, hc.readLogical_append]
            dsimp only
            cases readLogical d cs with
            | some found => rfl
            | none =>
              rw [Option.map_none, hc.readPath_append]
              dsimp only
              split <;> rfl

/-! ## The tokens before a divider -/

theorem tokensFrom_cons (found : List Token) (d : Char) (cs : List Char) :
    tokensFrom found (d :: cs) =
      tokensFrom ((scan d cs).1.toList ++ found) (scan d cs).2 := by
  cases h : scan d cs with
  | mk token behind =>
    cases token with
    | none => exact tokensFrom_skip h found
    | some t => exact tokensFrom_token h found

/-- The mark of the end is made at the end of the text and nowhere else. -/
theorem scan_ne_finish (d : Char) (cs : List Char) : (scan d cs).1 ≠ some .finish := by
  have hlogical : ∀ found, readLogical d cs = some found → found.1 ≠ .finish := by
    intro found hfound
    unfold readLogical at hfound
    split at hfound <;> cases hfound <;> exact nofun
  unfold scan
  split
  · exact nofun
  · split
    · exact nofun
    · split
      · exact nofun
      · split
        · exact nofun
        · split
          · exact nofun
          · split
            · rename_i hfound
              exact fun heq => hlogical _ hfound (Option.some.inj heq)
            · split
              · exact nofun
              · exact nofun

/-- The tokens of a text that does not end inside a literal are found whatever follows a divider
behind it. -/
theorem exists_tokens_before_divider {cs : List Char} (hclosed : endsOpen cs = false) :
    ∃ ts, Token.finish ∉ ts ∧ (∀ found, tokensFrom found cs = found.reverse ++ ts ++ [.finish]) ∧
      ∀ c, Divides c → ∀ found rest,
        tokensFrom found (cs ++ c :: rest) = tokensFrom (ts.reverse ++ found) (c :: rest) := by
  fun_induction endsOpen cs with
  | case1 => exact ⟨[], nofun, fun found => by simp [tokensFrom], fun _ _ _ _ => rfl⟩
  | case2 d cs ih =>
    rw [Bool.or_eq_false_iff, Bool.and_eq_false_imp] at hclosed
    obtain ⟨hmark, hbehind⟩ := hclosed
    obtain ⟨ts, hfinish, halone, hdivided⟩ := ih hbehind
    have hscan : ∀ c, Divides c → ∀ rest,
        scan d (cs ++ c :: rest) = ((scan d cs).1, (scan d cs).2 ++ c :: rest) :=
      fun c hc => hc.scan_append fun hd => by simpa using hmark hd
    refine ⟨(scan d cs).1.toList ++ ts, ?_, fun found => ?_, fun c hc found rest => ?_⟩
    · rw [List.mem_append, Option.mem_toList, not_or]
      exact ⟨scan_ne_finish d cs, hfinish⟩
    · rw [tokensFrom_cons, halone]
      cases (scan d cs).1 <;> simp
    · rw [List.cons_append, tokensFrom_cons, hscan c hc, hdivided c hc]
      cases (scan d cs).1 <;> simp

/-- A text in parentheses scans by itself, as long as it does not end inside a literal. -/
theorem exists_scans_group {text : String} (hclosed : endsOpen text.toList = false) :
    ∃ ts, Token.finish ∉ ts ∧ tokenize text = ts ++ [.finish] ∧
      Scans ('(' :: (text.toList ++ [')'])) (.lparen :: (ts ++ [.rparen])) := by
  obtain ⟨ts, hfinish, halone, hdivided⟩ := exists_tokens_before_divider hclosed
  refine ⟨ts, hfinish, by rw [tokenize, halone]; rfl, fun found rest => ?_⟩
  have hopen := scans_lparen found (text.toList ++ ')' :: rest)
  have hclose := scans_rparen (ts.reverse ++ .lparen :: found) rest
  rw [List.cons_append, List.append_assoc, List.singleton_append]
  calc tokensFrom found ('(' :: (text.toList ++ ')' :: rest))
      = tokensFrom (.lparen :: found) (text.toList ++ ')' :: rest) := hopen
    _ = tokensFrom (ts.reverse ++ .lparen :: found) (')' :: rest) := hdivided _ divides_rparen _ _
    _ = tokensFrom (.rparen :: (ts.reverse ++ .lparen :: found)) rest := hclose
    _ = tokensFrom ((.lparen :: (ts ++ [.rparen])).reverse ++ found) rest := by simp

end HookPolicy.Rule
