import HookPolicy.Proofs.Rule.Seams

/-!
# Texts for tokens

Every token that the lexer finds has a text that is read as this token alone, wherever it stands
(`wordable_of_scan`). So the tokens of different texts can be put side by side, and there is a text
that they are the tokens of (`exists_tokenize_eq`).

A blank behind a token ends it. A word of the notation alone needs more: the lexer reads it as a name
only where a word character follows that is no part of the name.
-/

namespace HookPolicy.Rule

open Text

/-- There is a text that is read as the token, and as nothing else, wherever it stands. -/
def Wordable (t : Token) : Prop := ∃ cs, Scans cs [t]

theorem divides_space : Divides ' ' := ⟨by decide, by decide⟩

theorem wordable_negate : Wordable .negate := by
  have hneg : Negatable [' '] := fun _ => rfl
  exact ⟨_, scans_space.negate hneg⟩

theorem wordable_literal (value : String) : Wordable (.literal value) :=
  ⟨_, scans_literal .single value⟩

theorem wordable_operator (op : Operator) : Wordable (.operator op) := ⟨_, scans_operator op⟩

/-! ## Names -/

/-- The characters that are read as a path are read so when nothing stands behind them. -/
theorem exists_readPath_eq (taken cs : List Char) :
    ∃ used, cs = used ++ (readPath taken cs).2 ∧ readPath taken used = ((readPath taken cs).1, []) := by
  fun_induction readPath taken cs with
  | case1 taken => exact ⟨[], rfl, rfl⟩
  | case2 taken c rest hc ih =>
    obtain ⟨used, hrest, hread⟩ := ih
    refine ⟨c :: used, ?_, ?_⟩
    · rw [List.cons_append, ← hrest]
    · rw [readPath_nameChar hc, hread]
  | case3 taken d rest hd _ ih =>
    obtain ⟨used, hrest, hread⟩ := ih
    refine ⟨'.' :: d :: used, ?_, ?_⟩
    · rw [List.cons_append, List.cons_append, ← hrest]
    · rw [readPath_dot hd, hread]
  | case4 taken d rest hdot hd => exact ⟨[], rfl, rfl⟩
  | case5 taken c rest hc hother => exact ⟨[], rfl, rfl⟩

theorem isWord_eAcute : isWord 'é' = true := by decide +kernel

theorem skips_eAcute : Scans ['é'] [] := fun found _ => tokensFrom_skip rfl found

/-- A name is no operator where a word character follows that is no part of it, be it a word of the
notation. -/
theorem readOperator_unended_name {c d : Char} {w : List Char} (hw : isName (c :: w) = true)
    (hd : isNameChar d = false) (hword : isWord d = true) (rest : List Char) :
    readOperator (c :: (w ++ d :: rest)) = none := by
  rw [readOperator_eq_none_iff (Bool.and_eq_true_iff.1 hw).1]
  intro v hv behind heq
  cases hend : atWordEnd behind with
  | false => rfl
  | true =>
    -- a word of the notation that starts the name and ends is the whole name, and here none ends
    have hname : ((c :: w) ++ d :: rest).takeWhile isNameChar = c :: w := by
      rw [List.takeWhile_append_of_pos (List.all_eq_true.1 (isName_all hw)), List.takeWhile_cons, hd,
        if_neg (by decide), List.append_nil]
    rw [List.cons_append, heq, takeWhile_name (reservedWords_all v hv) hend] at hname
    rw [hname, ← List.cons_append, List.append_cancel_left_eq] at heq
    rw [← heq, atWordEnd, hword] at hend
    cases hend

theorem scans_name {w : List Char} (hw : isName w = true) :
    Scans (w ++ ['é']) [.path (String.ofList w)] := by
  intro found rest
  cases w with
  | nil => exact absurd hw (by decide)
  | cons c w =>
    obtain ⟨hc, hall⟩ := Bool.and_eq_true_iff.1 hw
    have hread : readPath [c] (w ++ 'é' :: rest) = (c :: w, 'é' :: rest) := by
      rw [readPath_name hall, readPath_stop (by decide) (fun h => absurd h (by decide))]
      simp
    have hscan := scan_name hc (readOperator_unended_name hw (by decide) isWord_eAcute rest)
    rw [hread] at hscan
    have hsplit : c :: w ++ ['é'] ++ rest = c :: (w ++ 'é' :: rest) := by simp
    rw [hsplit, tokensFrom_token hscan]
    exact skips_eAcute _ rest

theorem isName_of_mem_reservedWords : ∀ w ∈ reservedWords, isName w = true := by decide

/-- Where the lexer reads a path, the characters of the path alone are an operator only if they are
the whole of its word. -/
theorem mem_reservedWords_of_readOperator {c : Char} (hc : isNameStart c = true)
    {used behind : List Char} (hfree : readOperator (c :: (used ++ behind)) = none)
    (hop : readOperator (c :: used) ≠ none) : c :: used ∈ reservedWords := by
  rw [ne_eq, readOperator_eq_none_iff hc] at hop
  push Not at hop
  obtain ⟨v, hv, more, heq, hend⟩ := hop
  have hlonger := (readOperator_eq_none_iff hc _).1 hfree v hv (more ++ behind)
    (by rw [← List.append_assoc, ← heq, List.cons_append])
  cases more with
  | nil => rwa [heq, List.append_nil]
  | cons d more => exact absurd hlonger hend

/-- A path that the lexer reads has a text, whatever stood behind the one it was read from. -/
theorem wordable_path {c : Char} {rest : List Char} (hc : isNameStart c = true)
    (hfree : readOperator (c :: rest) = none) :
    Wordable (.path (String.ofList (readPath [c] rest).1)) := by
  obtain ⟨used, hrest, hread⟩ := exists_readPath_eq [c] rest
  by_cases hword : readOperator (c :: used) = none
  · refine ⟨c :: (used ++ [' ']), fun found more => ?_⟩
    have hop : readOperator (c :: (used ++ ' ' :: more)) = none := by
      rw [← List.cons_append, divides_space.readOperator_append, hword, Option.map_none]
    have hscan := scan_name hc hop
    rw [divides_space.readPath_append, hread] at hscan
    have hsplit : c :: (used ++ [' ']) ++ more = c :: (used ++ ' ' :: more) := by simp
    rw [hsplit, tokensFrom_token hscan]
    exact scans_space _ more
  · rw [hrest] at hfree
    have hmem := mem_reservedWords_of_readOperator hc hfree hword
    have hname := isName_of_mem_reservedWords _ hmem
    have hpath : readPath [c] used = (c :: used, []) := by
      rw [← List.append_nil used, readPath_name (Bool.and_eq_true_iff.1 hname).2, readPath]
      simp
    rw [hread, Prod.mk.injEq] at hpath
    rw [hpath.1]
    exact ⟨_, scans_name hname⟩

/-! ## The tokens of a text -/

theorem wordable_of_readLogical {c : Char} {rest behind : List Char} {t : Token}
    (h : readLogical c rest = some (t, behind)) : Wordable t := by
  unfold readLogical at h
  split at h <;> cases h
  · exact ⟨_, scans_conj⟩
  · exact ⟨_, scans_disj⟩
  · exact wordable_negate

theorem wordable_of_scan {c : Char} {rest : List Char} {t : Token}
    (h : (scan c rest).1 = some t) : Wordable t := by
  unfold scan at h
  split at h
  · cases h
  · split at h
    · cases h
      exact ⟨_, scans_lparen⟩
    · split at h
      · cases h
        exact ⟨_, scans_rparen⟩
      · split at h
        · cases h
          exact wordable_literal _
        · split at h
          · cases h
            exact wordable_operator _
          · rename_i hfree
            split at h
            · rename_i hlogical
              cases h
              exact wordable_of_readLogical hlogical
            · split at h
              · rename_i hc
                cases h
                exact wordable_path hc hfree
              · cases h

theorem exists_tokensFrom_eq (found : List Token) (cs : List Char) :
    ∃ ts, Token.finish ∉ ts ∧ (∀ t ∈ ts, Wordable t) ∧
      tokensFrom found cs = found.reverse ++ ts ++ [.finish] := by
  fun_induction tokensFrom found cs with
  | case1 found => exact ⟨[], by simp, by simp, by simp⟩
  | case2 found c rest token behind hscan ih =>
    obtain ⟨ts, hfinish, hword, hts⟩ := ih
    have htoken : (scan c rest).1 = some token := by rw [hscan]
    refine ⟨token :: ts, ?_, ?_, by rw [hts]; simp⟩
    · rw [List.mem_cons, not_or]
      refine ⟨?_, hfinish⟩
      rintro rfl
      exact scan_ne_finish c rest htoken
    · exact List.forall_mem_cons.2 ⟨wordable_of_scan htoken, hword⟩
  | case3 found c rest behind hscan ih => exact ih

theorem exists_wordable_tokens (text : String) :
    ∃ ts, Token.finish ∉ ts ∧ (∀ t ∈ ts, Wordable t) ∧ tokenize text = ts ++ [.finish] :=
  exists_tokensFrom_eq [] text.toList

theorem exists_scans_of_wordable {ts : List Token} (h : ∀ t ∈ ts, Wordable t) :
    ∃ cs, Scans cs ts := by
  induction ts with
  | nil => exact ⟨[], fun _ _ => rfl⟩
  | cons t ts ih =>
    obtain ⟨ht, hts⟩ := List.forall_mem_cons.1 h
    obtain ⟨cs, hcs⟩ := ht
    obtain ⟨ds, hds⟩ := ih hts
    exact ⟨cs ++ ds, hcs.append hds⟩

/-- Tokens that have a text each are the tokens of one text. -/
theorem exists_tokenize_eq {ts : List Token} (h : ∀ t ∈ ts, Wordable t) :
    ∃ text, tokenize text = ts ++ [.finish] := by
  obtain ⟨cs, hcs⟩ := exists_scans_of_wordable h
  exact ⟨_, hcs.tokenize_eq⟩

end HookPolicy.Rule
