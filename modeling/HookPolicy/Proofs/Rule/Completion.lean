import HookPolicy.Proofs.Rule.Position
import HookPolicy.Proofs.Rule.Printing
import HookPolicy.Proofs.Rule.Wording

/-!
# What an error of the parser says

Where a reader meets a token in place of another, the tokens before can be completed from that other
one on, with tokens that open nothing (`Completes`). So they start a rule, and they do so with the
token that was expected; with the one that was met they start none, because the parser would stop
there whatever followed (`parse_error_located`).
-/

namespace HookPolicy.Rule

variable {connective : Token} {join : Expr → Expr → Expr}
variable {reader operand : List Token → Standing} {plain : List Token → Parsed Expr}
variable {level low high : Level}

/-! ## What the tokens before can be completed to -/

/-- Tokens that complete a rule and open nothing. -/
def closers : List Token := [.path "x", .operator .equal, .literal "", .rparen]

/-- The kind of the next token; behind the last one it is the mark of the end. -/
def kindAhead (ts : List Token) : Token.Kind := (ts.head?.getD .finish).kind

/-- A token of the kind, and closers behind it, complete the tokens to what derives from the line. -/
def Completable (level : Level) (us : List Token) (kind : Token.Kind) : Prop :=
  ∃ t vs a, t.kind = kind ∧ t :: vs ⊆ closers ∧ Derives level (us ++ t :: vs) a

/-- Where the reader meets a token in place of another, that other one completes those before it. -/
def Completes (level : Level) (reader : List Token → Standing) : Prop :=
  ∀ ⦃ts expected actual rest⦄, reader ts = ⟨.error (.unexpected expected actual), rest⟩ →
    actual = kindAhead rest ∧ ∃ us, ts = us ++ rest ∧ Completable level us expected

/-- A reading fails at once or behind what was taken first. -/
theorem Standing.eq_of_andThen_error {s : Standing} {next : Expr → List Token → Standing}
    {err : ParseError} {rest : List Token} (h : s.andThen next = ⟨.error err, rest⟩) :
    s = ⟨.error err, rest⟩ ∨ ∃ a behind, s = ⟨.ok a, behind⟩ ∧ next a behind = ⟨.error err, rest⟩ := by
  rcases Standing.eq_of_andThen h with ⟨err', herr, hfail⟩ | hnext
  · rw [← herr] at hfail
    exact .inl hfail
  · exact .inr hnext

theorem refuse_eq_error {expected expected' actual : Token.Kind} {ts rest : List Token}
    (h : refuse expected' ts = ⟨.error (.unexpected expected actual), rest⟩) :
    expected' = expected ∧ actual = kindAhead rest ∧ ts = rest := by
  cases h
  exact ⟨rfl, rfl, rfl⟩

theorem consume_eq_error {α : Type} {expected expected' actual : Token.Kind}
    {pick : Token → Option α} {next : α → List Token → Standing} {ts rest : List Token}
    (h : consume expected' pick next ts = ⟨.error (.unexpected expected actual), rest⟩) :
    (expected' = expected ∧ actual = kindAhead rest ∧ ts = rest) ∨
      ∃ t v behind, ts = t :: behind ∧ pick t = some v ∧
        next v behind = ⟨.error (.unexpected expected actual), rest⟩ := by
  rcases consume_cases expected' pick next ts with ⟨-, hrefuse⟩ | ⟨t, v, behind, hts, hpick, hnext⟩
  · exact .inl (refuse_eq_error (hrefuse ▸ h))
  · exact .inr ⟨t, v, behind, hts, hpick, hnext ▸ h⟩

theorem completable_path : Completable .comparison [] .identifier :=
  ⟨.path "x", [.operator .equal, .literal ""], _, rfl, by decide, .withLiteral _ _ _⟩

theorem completable_operator (name : String) :
    Completable .comparison [.path name] .operator :=
  ⟨.operator .equal, [.literal ""], _, rfl, by decide, .withLiteral name _ _⟩

theorem completable_value (name : String) (op : Operator) :
    Completable .comparison [.path name, .operator op] .identifier :=
  ⟨.path "x", [], _, rfl, by decide, .withPath name op _⟩

theorem eq_of_pathOf? {t : Token} {name : String} (h : pathOf? t = some name) : t = .path name := by
  cases t with
  | path _ => exact congrArg Token.path (Option.some.inj h)
  | _ => cases h

theorem eq_of_operatorOf? {t : Token} {op : Operator} (h : operatorOf? t = some op) :
    t = .operator op := by
  cases t with
  | operator _ => exact congrArg Token.operator (Option.some.inj h)
  | _ => cases h

theorem completes_comparison : Completes .comparison standComparison := by
  intro ts expected actual rest h
  rcases consume_eq_error h with ⟨rfl, hactual, rfl⟩ | ⟨t, name, ts, rfl, hpath, hname⟩
  · exact ⟨hactual, [], rfl, completable_path⟩
  obtain rfl := eq_of_pathOf? hpath
  rcases consume_eq_error hname with ⟨rfl, hactual, rfl⟩ | ⟨t, op, ts, rfl, hop, hoperator⟩
  · exact ⟨hactual, [.path name], rfl, completable_operator name⟩
  obtain rfl := eq_of_operatorOf? hop
  rcases consume_eq_error hoperator with ⟨rfl, hactual, rfl⟩ | ⟨t, value, ts, rfl, -, hok⟩
  · exact ⟨hactual, [.path name, .operator op], rfl, completable_value name op⟩
  · cases hok

theorem Completable.map {us : List Token} {kind : Token.Kind} (h : Completable low us kind)
    (before behind : List Token) (hbehind : behind ⊆ closers)
    (hmap : ∀ ts a, Derives low ts a → ∃ b, Derives high (before ++ ts ++ behind) b) :
    Completable high (before ++ us) kind := by
  obtain ⟨t, ws, a, hkind, hclosers, hderives⟩ := h
  obtain ⟨b, hb⟩ := hmap _ _ hderives
  refine ⟨t, ws ++ behind, b, hkind, ?_, by simpa using hb⟩
  rw [← List.cons_append]
  exact List.append_subset.2 ⟨hclosers, hbehind⟩

/-- A chain of operands from one line makes up the other line. -/
structure Chains (connective : Token) (join : Expr → Expr → Expr) (low high : Level) : Prop where
  first : ∀ ⦃ts a⦄, Derives low ts a → Derives high ts a
  more : ∀ ⦃ts us a b⦄, Derives high ts a → Derives low us b →
    Derives high (ts ++ connective :: us) (join a b)

theorem chains_conj : Chains .conj .conj .unary .conjunction :=
  ⟨fun _ _ h => h.to_conjunction, fun _ _ _ _ ha hb => ha.conj hb⟩

theorem chains_disj : Chains .disj .disj .conjunction .disjunction :=
  ⟨fun _ _ h => h.to_disjunction, fun _ _ _ _ ha hb => ha.disj hb⟩

theorem Agrees.derives {ts rest : List Token} {a : Expr} (hg : Agrees reader plain)
    (hs : Sound level plain) (h : reader ts = ⟨.ok a, rest⟩) :
    ∃ us, ts = us ++ rest ∧ Derives level us a := by
  have hread := hg ts
  rw [h] at hread
  exact hs hread.symm

theorem Completes.standMore (hch : Chains connective join low high) (ho : Completes low operand)
    (hg : Agrees operand plain) (hs : Sound low plain) {n : Nat} {left : Expr}
    {before ts rest : List Token} {expected actual : Token.Kind} (hleft : Derives high before left)
    (h : standMore connective join operand n left ts
      = ⟨.error (.unexpected expected actual), rest⟩) :
    actual = kindAhead rest ∧ ∃ us, ts = us ++ rest ∧ Completable high (before ++ us) expected := by
  induction n generalizing left before ts with
  | zero => cases h
  | succ n ih =>
    by_cases hc : ts.head? = some connective
    · obtain ⟨ts, rfl⟩ := List.head?_eq_some_iff.1 hc
      rw [Rule.standMore, if_pos rfl] at h
      rcases Standing.eq_of_andThen_error h with hfail | ⟨right, behind, hread, hmore⟩
      · obtain ⟨hactual, us, rfl, hcompletable⟩ := ho hfail
        refine ⟨hactual, connective :: us, rfl, ?_⟩
        have hjoin := hcompletable.map (before ++ [connective]) [] (List.nil_subset _)
          fun ts a ha => ⟨_, by simpa using hch.more hleft ha⟩
        simpa using hjoin
      · obtain ⟨us, rfl, hright⟩ := hg.derives hs hread
        obtain ⟨hactual, vs, rfl, hcompletable⟩ := ih (hch.more hleft hright) hmore
        exact ⟨hactual, connective :: (us ++ vs), by simp, by simpa using hcompletable⟩
    · rw [standMore_stop hc] at h
      cases h

theorem Completes.chain (hch : Chains connective join low high) (ho : Completes low operand)
    (hg : Agrees operand plain) (hs : Sound low plain) :
    Completes high (standChain connective join operand) := by
  intro ts expected actual rest h
  rcases Standing.eq_of_andThen_error h with hfail | ⟨left, behind, hread, hmore⟩
  · obtain ⟨hactual, us, rfl, hcompletable⟩ := ho hfail
    refine ⟨hactual, us, rfl, ?_⟩
    exact hcompletable.map [] [] (List.nil_subset _)
      fun ts a ha => ⟨a, by simpa using hch.first ha⟩
  · obtain ⟨us, rfl, hleft⟩ := hg.derives hs hread
    obtain ⟨hactual, vs, rfl, hcompletable⟩ := ho.standMore hch hg hs (hch.first hleft) hmore
    exact ⟨hactual, us ++ vs, (List.append_assoc _ _ _).symm, hcompletable⟩

theorem Completes.disjunction (ho : Completes .unary operand) (hg : Agrees operand plain)
    (hs : Sound .unary plain) : Completes .disjunction (standDisjunction operand) :=
  (ho.chain chains_conj hg hs).chain chains_disj hg.chain hs.conjunction

theorem Completes.negate (ho : Completes .unary operand) {ts rest : List Token}
    {expected actual : Token.Kind}
    (h : ((operand ts).andThen fun a rest => ⟨.ok (.negate a), rest⟩)
      = ⟨.error (.unexpected expected actual), rest⟩) :
    actual = kindAhead rest ∧
      ∃ us, .negate :: ts = us ++ rest ∧ Completable .unary us expected := by
  rcases Standing.eq_of_andThen_error h with hfail | ⟨a, behind, hread, hok⟩
  · obtain ⟨hactual, us, rfl, hcompletable⟩ := ho hfail
    refine ⟨hactual, .negate :: us, rfl, ?_⟩
    exact hcompletable.map [.negate] [] (List.nil_subset _)
      fun ts a ha => ⟨_, by simpa using ha.negate⟩
  · cases hok

theorem Completes.group (ho : Completes .disjunction operand) (hg : Agrees operand plain)
    (hs : Sound .disjunction plain) {ts rest : List Token} {expected actual : Token.Kind}
    (h : (operand ts).andThen closeGroup = ⟨.error (.unexpected expected actual), rest⟩) :
    actual = kindAhead rest ∧
      ∃ us, .lparen :: ts = us ++ rest ∧ Completable .unary us expected := by
  rcases Standing.eq_of_andThen_error h with hfail | ⟨a, behind, hread, hclose⟩
  · obtain ⟨hactual, us, rfl, hcompletable⟩ := ho hfail
    refine ⟨hactual, .lparen :: us, rfl, ?_⟩
    exact hcompletable.map [.lparen] [.rparen] (by decide) fun ts a ha => ⟨_, .primary (.group ha)⟩
  · obtain ⟨us, rfl, hus⟩ := hg.derives hs hread
    rcases consume_eq_error hclose with ⟨rfl, hactual, rfl⟩ | ⟨t, v, behind, rfl, -, hok⟩
    · exact ⟨hactual, .lparen :: us, rfl,
        .rparen, [], a, rfl, by decide, .primary (.group hus)⟩
    · cases hok

theorem completes_unary (depth : Nat) : Completes .unary (standUnary depth) := by
  induction depth with
  | zero => exact nofun
  | succ depth ih =>
    intro ts expected actual rest h
    by_cases hnegate : ts.head? = some .negate
    · obtain ⟨ts, rfl⟩ := List.head?_eq_some_iff.1 hnegate
      exact ih.negate h
    · by_cases hgroup : ts.head? = some .lparen
      · obtain ⟨ts, rfl⟩ := List.head?_eq_some_iff.1 hgroup
        have hagrees := agrees_unary depth
        have hsound := parseUnary_sound depth
        exact (ih.disjunction hagrees hsound).group hagrees.disjunction hsound.disjunction h
      · rw [standUnary_comparison hnegate hgroup] at h
        obtain ⟨hactual, us, rfl, hcompletable⟩ := completes_comparison h
        refine ⟨hactual, us, rfl, ?_⟩
        exact hcompletable.map [] [] (List.nil_subset _)
          fun ts a ha => ⟨a, by simpa using Derives.primary (.comparison ha)⟩

/-- A token of the kind may stand behind the tokens, which start a rule or are one. -/
def Awaits (us : List Token) (kind : Token.Kind) : Prop :=
  Completable .disjunction us kind ∨ kind = .eof ∧ ∃ a, Derives .disjunction us a

theorem Awaits.no_finish {us : List Token} {kind : Token.Kind} (h : Awaits us kind) :
    Token.finish ∉ us := by
  rcases h with ⟨t, vs, a, -, -, hderives⟩ | ⟨-, a, hderives⟩
  · exact fun hin => hderives.no_finish (List.mem_append_left _ hin)
  · exact hderives.no_finish

theorem standWithin_refuses {limit : Nat} {ts rest : List Token} {expected actual : Token.Kind}
    (h : standWithin limit ts = ⟨.error (.unexpected expected actual), rest⟩) :
    actual = kindAhead rest ∧ ∃ us, ts = us ++ rest ∧ Awaits us expected := by
  have hsound := parseUnary_sound (limit + 1)
  have hagrees := agrees_unary (limit + 1)
  rcases Standing.eq_of_andThen_error h with hfail | ⟨a, behind, hread, hclose⟩
  · obtain ⟨hactual, us, hts, hcompletable⟩ :=
      (completes_unary (limit + 1)).disjunction hagrees hsound hfail
    exact ⟨hactual, us, hts, .inl hcompletable⟩
  · obtain ⟨us, rfl, hus⟩ := hagrees.disjunction.derives hsound.disjunction hread
    by_cases hfinish : behind.head? = some .finish
    · obtain ⟨behind, rfl⟩ := List.head?_eq_some_iff.1 hfinish
      cases hclose
    · rw [closeRule_refuse hfinish] at hclose
      obtain ⟨rfl, hactual, rfl⟩ := refuse_eq_error hclose
      exact ⟨hactual, us, rfl, .inr ⟨rfl, a, hus⟩⟩

/-! ## Closers do not nest more deeply -/

/-- No more than `n` of `!` and parentheses stand around the next token, now or once any of the open
parentheses are closed. -/
structure Enclosing.Within (s : Enclosing) (n : Nat) : Prop where
  here_le : s.here ≤ n
  base_le : s.base ≤ n
  outer_le : ∀ m ∈ s.outer, m ≤ n

variable {s : Enclosing} {n : Nat}

theorem Enclosing.Within.close (h : s.Within n) : (s.after .rparen).Within n := by
  obtain ⟨here, base, outer⟩ := s
  have houter := h.outer_le
  cases outer with
  | nil => exact ⟨Nat.zero_le n, Nat.zero_le n, nofun⟩
  | cons m outer =>
    obtain ⟨hm, hrest⟩ := List.forall_mem_cons.1 houter
    exact ⟨hm, hm, hrest⟩

theorem Enclosing.Within.after (h : s.Within n) {t : Token} (hhere : (s.after t).here ≤ n) :
    (s.after t).Within n := by
  cases t with
  | lparen => exact ⟨hhere, hhere, List.forall_mem_cons.2 ⟨h.base_le, h.outer_le⟩⟩
  | rparen => exact h.close
  | _ => exact ⟨hhere, h.base_le, h.outer_le⟩

theorem Enclosing.Within.afterAll (h : s.Within n) {ts : List Token} (hdeep : s.deepest ts ≤ n) :
    (s.afterAll ts).Within n := by
  induction ts generalizing s with
  | nil => exact h
  | cons t ts ih =>
    have hrest := Nat.le_trans (s.deepest_after_le t ts) hdeep
    exact ih (h.after (Nat.le_trans (Enclosing.here_le_deepest _ ts) hrest)) hrest

theorem Enclosing.Within.deepest_closers_le (h : s.Within n) {vs : List Token}
    (hvs : vs ⊆ closers) : s.deepest vs ≤ n := by
  induction vs generalizing s with
  | nil => exact h.here_le
  | cons t vs ih =>
    obtain ⟨ht, hrest⟩ := List.cons_subset.1 hvs
    have hafter : (s.after t).Within n := by
      simp only [closers, List.mem_cons, List.not_mem_nil, or_false] at ht
      rcases ht with rfl | rfl | rfl | rfl
      · exact h
      · exact h
      · exact h
      · exact h.close
    exact Nat.max_le.2 ⟨h.here_le, ih hafter hrest⟩

theorem nesting_append_closers_le {us vs : List Token} (hus : nesting us ≤ n)
    (hvs : vs ⊆ closers) : nesting (us ++ vs) ≤ n := by
  have hstart : Enclosing.start.Within n := ⟨Nat.zero_le n, Nat.zero_le n, nofun⟩
  rw [nesting, Enclosing.deepest_append]
  exact Nat.max_le.2 ⟨hus, (hstart.afterAll hus).deepest_closers_le hvs⟩

/-! ## The place of an error -/

/-- The tokens start those of a text that the parser takes. -/
def Viable (limit : Nat) (ts : List Token) : Prop :=
  ∃ text a, parseWithin limit (tokenize text) = .ok a ∧ ts <+: tokenize text

theorem Derives.viable {limit : Nat} {ws : List Token} {a : Expr} (h : Derives .disjunction ws a)
    (hword : ∀ t ∈ ws, Wordable t) (hnest : nesting ws ≤ limit) {ts : List Token}
    (hts : ts <+: ws ++ [.finish]) : Viable limit ts := by
  obtain ⟨text, htext⟩ := exists_tokenize_eq hword
  refine ⟨text, a, ?_, htext ▸ hts⟩
  rw [htext]
  exact h.parseWithin_eq hnest

theorem wordable_of_mem_closers : ∀ t ∈ closers, Wordable t := by
  have hx : Wordable (.path "x") := ⟨_, scans_path (by decide)⟩
  simp only [closers, List.forall_mem_cons]
  exact ⟨hx, wordable_operator _, wordable_literal _, ⟨_, scans_rparen⟩, nofun⟩

theorem Awaits.viable {limit : Nat} {us : List Token} {kind : Token.Kind} (h : Awaits us kind)
    (hword : ∀ t ∈ us, Wordable t) (hnest : nesting us ≤ limit) :
    Viable limit us ∧ ∃ u : Token, u.kind = kind ∧ Viable limit (us ++ [u]) := by
  rcases h with ⟨u, vs, a, hkind, hclosers, hderives⟩ | ⟨rfl, a, hderives⟩
  · have hwords : ∀ t ∈ us ++ u :: vs, Wordable t :=
      List.forall_mem_append.2 ⟨hword, fun t ht => wordable_of_mem_closers t (hclosers ht)⟩
    have hnested := nesting_append_closers_le hnest hclosers
    have hbefore : us <+: us ++ u :: vs ++ [.finish] := ⟨u :: vs ++ [.finish], by simp⟩
    have hwith : us ++ [u] <+: us ++ u :: vs ++ [.finish] := ⟨vs ++ [.finish], by simp⟩
    exact ⟨hderives.viable hwords hnested hbefore, u, hkind, hderives.viable hwords hnested hwith⟩
  · exact ⟨hderives.viable hword hnest (List.prefix_append _ _), .finish, rfl,
      hderives.viable hword hnest (List.prefix_refl _)⟩

/-- No text that the parser takes starts with the tokens up to the one that it stops at: it stops
there whatever follows. -/
theorem not_viable_of_stop {limit : Nat} {us behind : List Token} {t : Token} {err : ParseError}
    (h : standWithin limit (us ++ t :: behind) = ⟨.error err, t :: behind⟩) :
    ¬ Viable limit (us ++ [t]) := by
  rintro ⟨text, a, htaken, more, htext⟩
  obtain ⟨us', hus, hsame⟩ := oneAhead_within limit h
  obtain rfl := List.append_cancel_right hus
  have hstops : standWithin limit (tokenize text) = ⟨.error err, t :: more⟩ := by
    rw [← htext, List.append_assoc, List.singleton_append]
    exact hsame _ rfl
  rw [← standWithin_answer, hstops] at htaken
  cases htaken

theorem exists_cons_of_append_eq {us rest all : List Token}
    (h : us ++ rest = all ++ [.finish]) (hend : Token.finish ∉ us) :
    us <+: all ∧ ∃ t behind, rest = t :: behind := by
  have hall : us ≠ all ++ [.finish] := by
    rintro rfl
    exact hend List.mem_concat_self
  refine ⟨(List.prefix_concat_iff.1 ⟨rest, h⟩).resolve_left hall, List.exists_cons_of_ne_nil ?_⟩
  rintro rfl
  exact hall (by rwa [List.append_nil] at h)

/-- Where the parser fails on the tokens of a text, it stops at one of them that is of another kind
than those it could take there. -/
theorem exists_stop {limit : Nat} {text : String} {err : ParseError}
    (hnest : nesting (tokenize text) ≤ limit)
    (hfail : parseWithin limit (tokenize text) = .error err) :
    ∃ us t behind expected, tokenize text = us ++ t :: behind ∧
      standWithin limit (tokenize text) = ⟨.error err, t :: behind⟩ ∧
      err = .unexpected expected t.kind ∧ Viable limit us ∧
      ∃ u : Token, u.kind = expected ∧ Viable limit (us ++ [u]) := by
  obtain ⟨all, hfinish, hword, htext⟩ := exists_wordable_tokens text
  rw [htext] at hnest hfail ⊢
  have hshallow := Nat.le_trans (Enclosing.start.deepest_left_le all [.finish]) hnest
  cases err with
  | tooDeep => exact absurd hfail (parseWithin_ne_tooDeep hfinish hshallow)
  | unexpected expected actual =>
    have hstand : standWithin limit (all ++ [.finish])
        = ⟨.error (.unexpected expected actual), (standWithin limit (all ++ [.finish])).ahead⟩ := by
      rw [← hfail, ← standWithin_answer]
    obtain ⟨hactual, us, hsplit, hawaits⟩ := standWithin_refuses hstand
    obtain ⟨⟨more, rfl⟩, t, behind, hahead⟩ := exists_cons_of_append_eq hsplit.symm hawaits.no_finish
    rw [hahead] at hstand hactual hsplit
    have hviable := hawaits.viable (fun t ht => hword t (List.mem_append_left _ ht))
      (Nat.le_trans (Enclosing.start.deepest_left_le us more) hshallow)
    exact ⟨us, t, behind, expected, hsplit, hstand, by rw [hactual]; rfl, hviable⟩

/-- The parser fails at the first token that no rule has behind those before it, and says so: they
start the tokens of a text that it takes, and with that token they start those of none; the error
names the kind of that token, and a kind of which some token could stand there instead. -/
theorem parse_error_located {limit : Nat} {text : String} {err : ParseError}
    (hnest : nesting (tokenize text) ≤ limit)
    (hfail : parseWithin limit (tokenize text) = .error err) :
    let ts := tokenize text
    let i := position limit ts
    standWithin limit ts = ⟨.error err, ts.drop i⟩ ∧
    Viable limit (ts.take i) ∧ ¬ Viable limit (ts.take (i + 1)) ∧
    ∃ t expected, ts[i]? = some t ∧ err = .unexpected expected t.kind ∧
      ∃ u : Token, u.kind = expected ∧ Viable limit (ts.take i ++ [u]) := by
  obtain ⟨us, t, behind, expected, hsplit, hstand, herr, hviable, hwith⟩ := exists_stop hnest hfail
  dsimp only
  have hposition : position limit (tokenize text) = us.length := by
    rw [position, hstand, hsplit, List.length_append, Nat.add_sub_cancel]
  rw [hposition]
  rw [hsplit] at hstand ⊢
  have hnext : (us ++ t :: behind).take (us.length + 1) = us ++ [t] :=
    List.take_length_add_append 1
  have hat : (us ++ t :: behind)[us.length]? = some t := by simp
  rw [List.drop_left, List.take_left, hnext]
  exact ⟨hstand, hviable, not_viable_of_stop hstand, t, expected, hat, herr, hwith⟩

/-- The operator behind `iné`, which is read as the name `in`, stands where the parenthesis would have
to end. -/
def unclosedText : String := "tool == 'a' && (path in iné == 'x')"

theorem parse_error_located_unclosed :
    nesting (tokenize unclosedText) ≤ nestingLimit ∧
    compile unclosedText = .error (.unexpected .rparen .operator) ∧
    position nestingLimit (tokenize unclosedText) = 8 ∧
    Viable nestingLimit ((tokenize unclosedText).take 8) ∧
    ¬ Viable nestingLimit ((tokenize unclosedText).take 9) ∧
    ∃ u : Token, u.kind = .rparen ∧
      Viable nestingLimit ((tokenize unclosedText).take 8 ++ [u]) := by
  have hnest : nesting (tokenize unclosedText) ≤ nestingLimit := by decide +kernel
  have hfail : compile unclosedText = .error (.unexpected .rparen .operator) := by decide +kernel
  have hposition : position nestingLimit (tokenize unclosedText) = 8 := by decide +kernel
  obtain ⟨-, hviable, hnone, t, expected, -, herr, hwith⟩ := parse_error_located hnest hfail
  obtain ⟨rfl, -⟩ := ParseError.unexpected.inj herr
  rw [hposition] at hviable hnone hwith
  exact ⟨hnest, hfail, hposition, hviable, hnone, hwith⟩

end HookPolicy.Rule
