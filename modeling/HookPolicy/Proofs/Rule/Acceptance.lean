import Mathlib.Data.List.Basic
import HookPolicy.Proofs.Rule.Grammar

/-!
# The parser accepts its grammar

Every stage of the parser takes a stretch that derives from its line and takes nothing when there is
none. Three facts about a stage pass through its loops: it is sound, it never meets the bound when
the tokens are nested less deeply, and it never looks behind the mark of the end.
-/

namespace HookPolicy.Rule

variable {connective : Token} {join : Expr → Expr → Expr} {operand : List Token → Parsed Expr}
variable {level : Level}

/-- The stage of the parser for a line of the grammar, at a nesting. -/
def Level.read (depth : Nat) : Level → List Token → Parsed Expr
  | .disjunction => parseDisjunction (parseUnary depth)
  | .conjunction => parseChain .conj .conj (parseUnary depth)
  | .unary | .primary => parseUnary depth
  | .comparison => parseComparison

/-! ## What is taken derives -/

def Sound (level : Level) (operand : List Token → Parsed Expr) : Prop :=
  ∀ ⦃ts a rest⦄, operand ts = .ok (a, rest) → ∃ us, ts = us ++ rest ∧ Derives level us a

theorem parseMore_sound (hs : Sound level operand) {n : Nat} {left a : Expr} {ts rest : List Token}
    (h : parseMore connective join operand n left ts = .ok (a, rest)) :
    ∃ more, ts = chainTokens connective more ++ rest ∧ (∀ p ∈ more, Derives level p.1 p.2) ∧
      a = chainTree join left more := by
  have stop : ∀ {left : Expr} {ts : List Token}, (.ok (left, ts) : Parsed Expr) = .ok (a, rest) →
      ∃ more, ts = chainTokens connective more ++ rest ∧ (∀ p ∈ more, Derives level p.1 p.2) ∧
        a = chainTree join left more := by
    intro left ts h
    cases h
    exact ⟨[], rfl, by simp, rfl⟩
  induction n generalizing left ts with
  | zero => exact stop h
  | succ n ih =>
    cases ts with
    | nil => exact stop h
    | cons t ts =>
      rw [parseMore] at h
      split at h
      · rename_i hc
        subst hc
        split at h
        · rename_i right behind hop
          obtain ⟨us, rfl, hus⟩ := hs hop
          obtain ⟨more, rfl, hmore, rfl⟩ := ih h
          refine ⟨(us, right) :: more, by simp [chainTokens], ?_, rfl⟩
          intro p hp
          rcases List.mem_cons.1 hp with rfl | hp
          · exact hus
          · exact hmore p hp
        · exact absurd h (by simp)
      · exact stop h

theorem parseChain_sound (hs : Sound level operand) {ts rest : List Token} {a : Expr}
    (h : parseChain connective join operand ts = .ok (a, rest)) :
    ∃ us first more, ts = us ++ chainTokens connective more ++ rest ∧ Derives level us first ∧
      (∀ p ∈ more, Derives level p.1 p.2) ∧ a = chainTree join first more := by
  rw [parseChain] at h
  split at h
  · rename_i first behind hop
    obtain ⟨us, rfl, hus⟩ := hs hop
    obtain ⟨more, rfl, hmore, rfl⟩ := parseMore_sound hs h
    exact ⟨us, first, more, (List.append_assoc _ _ _).symm, hus, hmore, rfl⟩
  · exact absurd h (by simp)

theorem Sound.conjunction (hs : Sound .unary operand) :
    Sound .conjunction (parseChain .conj .conj operand) := by
  intro ts a rest h
  obtain ⟨us, first, more, rfl, hus, hmore, rfl⟩ := parseChain_sound hs h
  exact ⟨_, rfl, .conjunction more hus hmore⟩

theorem Sound.disjunction (hs : Sound .unary operand) :
    Sound .disjunction (parseDisjunction operand) := by
  intro ts a rest h
  obtain ⟨us, first, more, rfl, hus, hmore, rfl⟩ := parseChain_sound hs.conjunction h
  exact ⟨_, rfl, .disjunction more hus hmore⟩

theorem parseComparison_sound : Sound .comparison parseComparison := by
  intro ts a rest h
  unfold parseComparison at h
  split at h
  · split at h
    · split at h
      · cases h
        exact ⟨_, rfl, .withLiteral _ _ _⟩
      · cases h
        exact ⟨_, rfl, .withPath _ _ _⟩
      · exact absurd h (by simp [unexpected])
    · exact absurd h (by simp [unexpected])
  · exact absurd h (by simp [unexpected])

theorem parseUnary_sound (depth : Nat) : Sound .unary (parseUnary depth) := by
  induction depth with
  | zero =>
    intro ts a rest h
    exact absurd h (by simp [parseUnary])
  | succ depth ih =>
    intro ts a rest h
    unfold parseUnary at h
    split at h
    · split at h
      · rename_i hin
        cases h
        obtain ⟨us, rfl, hus⟩ := ih hin
        exact ⟨.negate :: us, rfl, .negate hus⟩
      · exact absurd h (by simp)
    · split at h
      · rename_i hin
        cases h
        obtain ⟨us, rfl, hus⟩ := ih.disjunction hin
        exact ⟨.lparen :: (us ++ [.rparen]), by simp, .primary (.group hus)⟩
      · exact absurd h (by simp [unexpected])
      · exact absurd h (by simp)
    · obtain ⟨us, rfl, hus⟩ := parseComparison_sound h
      exact ⟨us, rfl, .primary (.comparison hus)⟩

/-! ## What derives is taken -/

/-- What may follow a stretch for it to be taken whole. -/
def Level.Stops : Level → List Token → Prop
  | .disjunction, tail => tail.head? ≠ some .conj ∧ tail.head? ≠ some .disj
  | .conjunction, tail => tail.head? ≠ some .conj
  | _, _ => True

/-- A connective ends every `!` before it up to the enclosing parenthesis. -/
def Separates (connective : Token) : Prop :=
  ∀ s : Enclosing, s.after connective = { s with here := s.base }

theorem separates_conj : Separates .conj := fun _ => rfl

theorem separates_disj : Separates .disj := fun _ => rfl

theorem deepest_operand_le (hc : Separates connective) {more : List (List Token × Expr)}
    (hmore : ∀ p ∈ more, Balanced p.1) {p : List Token × Expr} (hp : p ∈ more) (s : Enclosing) :
    ∃ s' : Enclosing, s'.here = s.base ∧ s'.base = s.base ∧
      s'.deepest p.1 ≤ s.deepest (chainTokens connective more) := by
  induction more generalizing s with
  | nil => exact absurd hp List.not_mem_nil
  | cons q more ih =>
    have hq := hmore q List.mem_cons_self
    have hsplit : chainTokens connective (q :: more)
        = connective :: q.1 ++ chainTokens connective more := rfl
    rcases List.mem_cons.1 hp with rfl | hin
    · refine ⟨s.after connective, by rw [hc s], by rw [hc s], ?_⟩
      rw [hsplit]
      exact Nat.le_trans (s.deepest_after_le connective p.1) (s.deepest_left_le _ _)
    · obtain ⟨s', hhere, hbase, hdeep⟩ :=
        ih (fun r hr => hmore r (List.mem_cons_of_mem q hr)) hin (s.afterAll (connective :: q.1))
      have hs : (s.afterAll (connective :: q.1)).base = s.base := by
        rw [Enclosing.afterAll_cons, (hq _).1, hc s]
      rw [hsplit]
      exact ⟨s', hhere.trans hs, hbase.trans hs, Nat.le_trans hdeep (s.deepest_right_le _ _)⟩

/-- Where a chain is not nested too deeply, neither is its first operand nor any of the others. -/
theorem deepest_chain_le (hc : Separates connective) {us : List Token}
    {more : List (List Token × Expr)} (hus : Balanced us) (hmore : ∀ p ∈ more, Balanced p.1)
    {s : Enclosing} {n : Nat} (hat : s.here = s.base)
    (hdeep : s.deepest (us ++ chainTokens connective more) ≤ s.here + n) :
    s.deepest us ≤ s.here + n ∧
      ∀ p ∈ more, ∃ s' : Enclosing, s'.here = s'.base ∧ s'.deepest p.1 ≤ s'.here + n := by
  refine ⟨Nat.le_trans (s.deepest_left_le _ _) hdeep, fun p hp => ?_⟩
  obtain ⟨s', hhere, hbase, hle⟩ := deepest_operand_le hc hmore hp (s.afterAll us)
  have hright := Nat.le_trans hle (Nat.le_trans (s.deepest_right_le _ _) hdeep)
  rw [(hus s).1] at hhere hbase
  exact ⟨s', hhere.trans hbase.symm, by omega⟩

theorem parseMore_complete {good : List Token → Prop} (hgood : ∀ ts, good (connective :: ts))
    {more : List (List Token × Expr)}
    (hmore : ∀ p ∈ more, ∀ tail, good tail → operand (p.1 ++ tail) = .ok (p.2, tail))
    {tail : List Token} (htail : good tail) (hstop : tail.head? ≠ some connective) (n : Nat)
    (hn : more.length ≤ n) (left : Expr) :
    parseMore connective join operand n left (chainTokens connective more ++ tail)
      = .ok (chainTree join left more, tail) := by
  induction more generalizing n left with
  | nil =>
    cases n with
    | zero => rfl
    | succ n =>
      cases tail with
      | nil => rfl
      | cons t tail =>
        have ht : t ≠ connective := fun h => hstop (congrArg some h)
        exact if_neg ht
  | cons p more ih =>
    cases n with
    | zero => exact absurd hn (by simp)
    | succ n =>
      have hnext : good (chainTokens connective more ++ tail) := by
        cases more with
        | nil => exact htail
        | cons q more => exact hgood _
      have hp := hmore p List.mem_cons_self _ hnext
      have hrest := ih (fun q hq => hmore q (List.mem_cons_of_mem p hq)) n
        (Nat.le_of_succ_le_succ hn) (join left p.2)
      have hsplit : chainTokens connective (p :: more) ++ tail
          = connective :: (p.1 ++ (chainTokens connective more ++ tail)) := by
        simp [chainTokens]
      rw [hsplit, parseMore, if_pos rfl, hp]
      exact hrest

theorem length_le_chainTokens (connective : Token) (more : List (List Token × Expr)) :
    more.length ≤ (chainTokens connective more).length := by
  induction more with
  | nil => exact Nat.le_refl _
  | cons p more ih =>
    simp only [chainTokens, List.flatMap_cons, List.length_append, List.length_cons] at ih ⊢
    omega

theorem parseChain_complete {good : List Token → Prop} (hgood : ∀ ts, good (connective :: ts))
    {us : List Token} {first : Expr} {more : List (List Token × Expr)}
    (hfirst : ∀ tail, good tail → operand (us ++ tail) = .ok (first, tail))
    (hmore : ∀ p ∈ more, ∀ tail, good tail → operand (p.1 ++ tail) = .ok (p.2, tail))
    {tail : List Token} (htail : good tail) (hstop : tail.head? ≠ some connective) :
    parseChain connective join operand (us ++ chainTokens connective more ++ tail)
      = .ok (chainTree join first more, tail) := by
  have hnext : good (chainTokens connective more ++ tail) := by
    cases more with
    | nil => exact htail
    | cons q more => exact hgood _
  have hlen : more.length ≤ (chainTokens connective more ++ tail).length := by
    have := length_le_chainTokens connective more
    rw [List.length_append]
    omega
  rw [List.append_assoc, parseChain, hfirst _ hnext]
  exact parseMore_complete hgood hmore htail hstop _ hlen first

theorem Derives.read_eq {us : List Token} {e : Expr} (h : Derives level us e) (s : Enclosing)
    {n : Nat} {tail : List Token}
    (hbase : level = .disjunction ∨ level = .conjunction → s.here = s.base)
    (hdeep : s.deepest us ≤ s.here + n) (hstop : level.Stops tail) :
    level.read (n + 1) (us ++ tail) = .ok (e, tail) := by
  -- `n` is what the bound leaves for the stretch; a `!` or a parenthesis takes one of it
  induction h generalizing s n tail with
  | disjunction more hfirst hmore ihfirst ihmore =>
    have hgood : ∀ ts, Level.conjunction.Stops (.disj :: ts) := by simp [Level.Stops]
    obtain ⟨hleft, hright⟩ := deepest_chain_le separates_disj hfirst.balanced
      (fun p hp => (hmore p hp).balanced) (hbase (.inl rfl)) hdeep
    refine parseChain_complete hgood ?_ ?_ hstop.1 hstop.2
    · intro tail htail
      exact ihfirst s (fun _ => hbase (.inl rfl)) hleft htail
    · intro p hp tail htail
      obtain ⟨s', hat, hle⟩ := hright p hp
      exact ihmore p hp s' (fun _ => hat) hle htail
  | conjunction more hfirst hmore ihfirst ihmore =>
    have hgood : ∀ ts, Level.unary.Stops (.conj :: ts) := fun _ => trivial
    obtain ⟨hleft, hright⟩ := deepest_chain_le separates_conj hfirst.balanced
      (fun p hp => (hmore p hp).balanced) (hbase (.inr rfl)) hdeep
    refine parseChain_complete hgood ?_ ?_ trivial hstop
    · intro tail htail
      exact ihfirst s (by simp) hleft htail
    · intro p hp tail htail
      obtain ⟨s', hat, hle⟩ := hright p hp
      exact ihmore p hp s' (by simp) hle htail
  | @negate us e _ ih =>
    have hin := Nat.le_trans (s.deepest_after_le .negate us) hdeep
    have hhere := (s.after .negate).here_le_deepest us
    have hstep : (s.after .negate).here = s.here + 1 := rfl
    cases n with
    | zero => omega
    | succ n =>
      have hread : parseUnary (n + 1) (us ++ tail) = .ok (e, tail) :=
        ih (s.after .negate) (by simp) (by omega) trivial
      change parseUnary (n + 1 + 1) (.negate :: (us ++ tail)) = _
      rw [parseUnary, hread]
  | primary _ ih => exact ih s (by simp) hdeep trivial
  | @group us e _ ih =>
    have hin := Nat.le_trans ((s.after .lparen).deepest_left_le us [.rparen])
      (Nat.le_trans (s.deepest_after_le .lparen _) hdeep)
    have hhere := (s.after .lparen).here_le_deepest us
    have hstep : (s.after .lparen).here = s.here + 1 := rfl
    cases n with
    | zero => omega
    | succ n =>
      have hread : parseDisjunction (parseUnary (n + 1)) (us ++ .rparen :: tail)
          = .ok (e, .rparen :: tail) :=
        ih (s.after .lparen) (fun _ => rfl) (by omega) (by simp [Level.Stops])
      have hsplit : .lparen :: (us ++ [.rparen]) ++ tail = .lparen :: (us ++ .rparen :: tail) := by
        simp
      change parseUnary (n + 1 + 1) (.lparen :: (us ++ [.rparen]) ++ tail) = _
      rw [hsplit, parseUnary, hread]
  | comparison h _ => cases h <;> rfl
  | withLiteral path op value => rfl
  | withPath path op value => rfl

/-! ## The bound on the nesting -/

/-- A reader that starts an operand and meets the bound only where the tokens are nested more
deeply. -/
def Shallow (n : Nat) (operand : List Token → Parsed Expr) : Prop :=
  ∀ (s : Enclosing) (ts : List Token), s.here = s.base → s.deepest ts ≤ s.base + n →
    operand ts ≠ .error .tooDeep

theorem Shallow.parseMore_ne {n : Nat} (hsh : Shallow n operand) (hs : Sound level operand)
    (hc : Separates connective) (fuel : Nat) (left : Expr) (s : Enclosing) (ts : List Token)
    (hdeep : s.deepest ts ≤ s.base + n) :
    parseMore connective join operand fuel left ts ≠ .error .tooDeep := by
  induction fuel generalizing left s ts with
  | zero => exact nofun
  | succ fuel ih =>
    cases ts with
    | nil => exact nofun
    | cons t ts =>
      rw [parseMore]
      split
      · rename_i ht
        subst ht
        have hafter : s.after t = { s with here := s.base } := hc s
        have hin := Nat.le_trans (s.deepest_after_le t ts) hdeep
        rw [hafter] at hin
        split
        · rename_i right rest hop
          obtain ⟨us, rfl, hus⟩ := hs hop
          have hb := (hus.balanced { s with here := s.base }).1
          have hrest := Nat.le_trans (Enclosing.deepest_right_le _ us rest) hin
          exact ih _ _ _ (by rw [hb]; exact hrest)
        · rename_i err hop
          have hne := hsh { s with here := s.base } ts rfl hin
          rwa [hop] at hne
      · exact nofun

theorem Shallow.parseChain {n : Nat} (hsh : Shallow n operand) (hs : Sound level operand)
    (hc : Separates connective) : Shallow n (parseChain connective join operand) := by
  intro s ts hat hdeep
  rw [Rule.parseChain]
  split
  · rename_i left rest hop
    obtain ⟨us, rfl, hus⟩ := hs hop
    have hb := (hus.balanced s).1
    have hrest := Nat.le_trans (s.deepest_right_le us rest) hdeep
    exact hsh.parseMore_ne hs hc _ _ _ _ (by rw [hb]; exact hrest)
  · rename_i err hop
    have hne := hsh s ts hat hdeep
    rwa [hop] at hne

theorem Shallow.disjunction {n : Nat} (hsh : Shallow n operand) (hs : Sound .unary operand) :
    Shallow n (parseDisjunction operand) :=
  (hsh.parseChain hs separates_conj).parseChain hs.conjunction separates_disj

theorem parseComparison_ne_tooDeep (ts : List Token) :
    parseComparison ts ≠ .error .tooDeep := by
  unfold parseComparison
  repeat' split
  all_goals simp [unexpected]

theorem parseUnary_ne_tooDeep (n : Nat) (s : Enclosing) (ts : List Token)
    (hdeep : s.deepest ts ≤ s.here + n) : parseUnary (n + 1) ts ≠ .error .tooDeep := by
  induction n generalizing s ts with
  | zero =>
    unfold parseUnary
    split
    · rename_i rest
      have hin := Nat.le_trans (s.deepest_after_le .negate rest) hdeep
      have hhere := (s.after .negate).here_le_deepest rest
      have hstep : (s.after .negate).here = s.here + 1 := rfl
      omega
    · rename_i rest
      have hin := Nat.le_trans (s.deepest_after_le .lparen rest) hdeep
      have hhere := (s.after .lparen).here_le_deepest rest
      have hstep : (s.after .lparen).here = s.here + 1 := rfl
      omega
    · exact parseComparison_ne_tooDeep ts
  | succ n ih =>
    have hsh : Shallow n (parseUnary (n + 1)) := fun s ts hat h => ih s ts (hat ▸ h)
    unfold parseUnary
    split
    · rename_i rest
      have hin := Nat.le_trans (s.deepest_after_le .negate rest) hdeep
      have hstep : (s.after .negate).here = s.here + 1 := rfl
      have hne := ih (s.after .negate) rest (by omega)
      split
      · exact nofun
      · rename_i err hop
        rwa [hop] at hne
    · rename_i rest
      have hin := Nat.le_trans (s.deepest_after_le .lparen rest) hdeep
      have hstep : (s.after .lparen).base = s.here + 1 := rfl
      have hne := hsh.disjunction (parseUnary_sound _) (s.after .lparen) rest rfl (by omega)
      split
      · exact nofun
      · simp [unexpected]
      · rename_i err hop
        rwa [hop] at hne
    · exact parseComparison_ne_tooDeep ts

/-! ## The mark of the end -/

/-- What a reader gives when more tokens stand behind those it has read. -/
def Parsed.before (r : Parsed Expr) (tail : List Token) : Parsed Expr :=
  r.map fun p => (p.1, p.2 ++ tail)

@[simp] theorem Parsed.before_ok (a : Expr) (rest tail : List Token) :
    Parsed.before (.ok (a, rest)) tail = .ok (a, rest ++ tail) := rfl

@[simp] theorem Parsed.before_error (err : ParseError) (tail : List Token) :
    Parsed.before (.error err) tail = .error err := rfl

/-- A reader that takes the mark of the end for the end, whatever stands behind it. -/
def Local (operand : List Token → Parsed Expr) : Prop :=
  ∀ us, Token.finish ∉ us → ∀ behind,
    operand (us ++ .finish :: behind) = Parsed.before (operand us) (.finish :: behind)

theorem parseMore_local (hl : Local operand) (hs : Sound level operand)
    (hc : Token.finish ≠ connective) (behind : List Token) (m n : Nat) (left : Expr)
    (us : List Token) (hm : us.length ≤ m) (hn : us.length ≤ n) (hend : Token.finish ∉ us) :
    parseMore connective join operand n left (us ++ .finish :: behind)
      = Parsed.before (parseMore connective join operand m left us) (.finish :: behind) := by
  have stop : ∀ n left, parseMore connective join operand n left (.finish :: behind)
      = .ok (left, .finish :: behind) := by
    intro n left
    cases n with
    | zero => rfl
    | succ n => exact if_neg hc
  -- both loops have turns enough for the tokens before the mark, so neither ends for want of them
  induction m generalizing n left us with
  | zero =>
    have hnil : us = [] := List.length_eq_zero_iff.1 (Nat.le_zero.1 hm)
    subst hnil
    exact stop n left
  | succ m ih =>
    cases us with
    | nil => exact stop n left
    | cons t us =>
      have hus : Token.finish ∉ us := fun h => hend (List.mem_cons_of_mem t h)
      obtain ⟨n, rfl⟩ := Nat.exists_eq_succ_of_ne_zero (Nat.ne_zero_of_lt hn)
      rw [List.cons_append, parseMore, parseMore, hl us hus behind]
      by_cases ht : t = connective
      · rw [if_pos ht, if_pos ht]
        cases hop : operand us with
        | error err => rfl
        | ok p =>
          obtain ⟨vs, rfl, -⟩ := hs hop
          simp only [List.length_cons, List.length_append] at hm hn
          exact ih n (join left p.1) p.2 (by omega) (by omega)
            (fun h => hus (List.mem_append_right vs h))
      · rw [if_neg ht, if_neg ht]
        rfl

theorem Local.parseChain (hl : Local operand) (hs : Sound level operand)
    (hc : Token.finish ≠ connective) : Local (parseChain connective join operand) := by
  intro us hend behind
  rw [Rule.parseChain, Rule.parseChain, hl us hend behind]
  cases hop : operand us with
  | error err => rfl
  | ok p =>
    obtain ⟨vs, rfl, -⟩ := hs hop
    exact parseMore_local hl hs hc behind _ _ p.1 p.2 (Nat.le_refl _) (by simp)
      (fun h => hend (List.mem_append_right vs h))

theorem Local.disjunction (hl : Local operand) (hs : Sound .unary operand) :
    Local (parseDisjunction operand) :=
  (hl.parseChain hs (by simp)).parseChain hs.conjunction (by simp)

theorem parseComparison_local : Local parseComparison := by
  intro us hend behind
  cases us with
  | nil => rfl
  | cons t us =>
    cases t with
    | path name =>
      cases us with
      | nil => rfl
      | cons t us =>
        cases t with
        | operator op =>
          cases us with
          | nil => rfl
          | cons t us => cases t <;> rfl
        | _ => rfl
    | _ => rfl

theorem parseUnary_local (depth : Nat) : Local (parseUnary depth) := by
  induction depth with
  | zero => exact fun us _ _ => rfl
  | succ depth ih =>
    intro us hend behind
    cases us with
    | nil => rfl
    | cons t us =>
      have hus : Token.finish ∉ us := fun h => hend (List.mem_cons_of_mem t h)
      cases t with
      | negate =>
        rw [List.cons_append, parseUnary, parseUnary, ih us hus behind]
        cases parseUnary depth us <;> rfl
      | lparen =>
        rw [List.cons_append, parseUnary, parseUnary,
          ih.disjunction (parseUnary_sound depth) us hus behind]
        cases parseDisjunction (parseUnary depth) us with
        | error err => rfl
        | ok p =>
          obtain ⟨a, rest⟩ := p
          cases rest with
          | nil => rfl
          | cons t rest => cases t <;> rfl
      | _ => exact parseComparison_local _ hend behind

theorem parseWithin_eq (limit : Nat) {ts : List Token} (hend : Token.finish ∉ ts)
    (behind : List Token) :
    parseWithin limit (ts ++ .finish :: behind)
      = match parseDisjunction (parseUnary (limit + 1)) ts with
        | .ok (a, []) => .ok a
        | .ok (_, rest) => unexpected .eof rest
        | .error e => .error e := by
  have hs := parseUnary_sound (limit + 1)
  rw [parseWithin, (parseUnary_local (limit + 1)).disjunction hs ts hend behind]
  cases hread : parseDisjunction (parseUnary (limit + 1)) ts with
  | error err => rfl
  | ok p =>
    obtain ⟨a, rest⟩ := p
    obtain ⟨us, rfl, -⟩ := hs.disjunction hread
    cases rest with
    | nil => rfl
    | cons t rest =>
      have ht : t ≠ .finish := by
        rintro rfl
        exact hend (List.mem_append_right us List.mem_cons_self)
      cases t with
      | finish => exact absurd rfl ht
      | _ => rfl

theorem Derives.parseWithin_eq {ts : List Token} {a : Expr} (h : Derives .disjunction ts a)
    {limit : Nat} (hnest : nesting ts ≤ limit) :
    parseWithin limit (ts ++ [.finish]) = .ok a := by
  have hread : parseDisjunction (parseUnary (limit + 1)) (ts ++ []) = .ok (a, []) :=
    h.read_eq .start (fun _ => rfl) (by simpa [Enclosing.start, nesting] using hnest)
      (by simp [Level.Stops])
  rw [List.append_nil] at hread
  rw [Rule.parseWithin_eq limit h.no_finish [], hread]

theorem parseWithin_sound {limit : Nat} {ts : List Token} (hend : Token.finish ∉ ts) {a : Expr}
    (h : parseWithin limit (ts ++ [.finish]) = .ok a) : Derives .disjunction ts a := by
  rw [parseWithin_eq limit hend []] at h
  split at h
  · rename_i hread
    obtain ⟨us, rfl, hus⟩ := (parseUnary_sound (limit + 1)).disjunction hread
    cases h
    rwa [List.append_nil]
  · exact absurd h (by simp [unexpected])
  · exact absurd h (by simp)

theorem Derives.unique {ts : List Token} {a b : Expr} (ha : Derives .disjunction ts a)
    (hb : Derives .disjunction ts b) : a = b := by
  have hread := ha.parseWithin_eq (Nat.le_refl _)
  rw [hb.parseWithin_eq (Nat.le_refl _)] at hread
  exact (Except.ok.inj hread).symm

theorem parseWithin_ne_tooDeep {limit : Nat} {ts : List Token} (hend : Token.finish ∉ ts)
    (hnest : nesting ts ≤ limit) :
    parseWithin limit (ts ++ [.finish]) ≠ .error .tooDeep := by
  have hsh : Shallow limit (parseUnary (limit + 1)) := fun s ts hat h =>
    parseUnary_ne_tooDeep limit s ts (hat ▸ h)
  have hne := hsh.disjunction (parseUnary_sound _) .start ts rfl
    (by simpa [Enclosing.start, nesting] using hnest)
  rw [parseWithin_eq limit hend []]
  split
  · exact nofun
  · simp [unexpected]
  · rename_i err hread
    rw [hread] at hne
    simpa using hne

/-- The parser gives a tree to exactly the tokens that derive from a disjunction, and it is the tree
of their derivation; to all others, it answers with the token it met in place of another. Nothing is
read behind the mark of the end. -/
theorem parseWithin_iff_derives (limit : Nat) {ts : List Token} (hend : Token.finish ∉ ts)
    (hnest : nesting ts ≤ limit) :
    (∀ a, parseWithin limit (ts ++ [.finish]) = .ok a ↔ Derives .disjunction ts a) ∧
    (∀ a b, Derives .disjunction ts a → Derives .disjunction ts b → a = b) ∧
    ((¬ ∃ a, Derives .disjunction ts a) → ∃ expected actual,
      parseWithin limit (ts ++ [.finish]) = .error (.unexpected expected actual)) ∧
    ∀ behind, parseWithin limit (ts ++ .finish :: behind) = parseWithin limit (ts ++ [.finish]) := by
  refine ⟨fun a => ⟨parseWithin_sound hend, fun h => h.parseWithin_eq hnest⟩,
    fun a b ha hb => ha.unique hb, ?_, ?_⟩
  · intro hnone
    cases h : parseWithin limit (ts ++ [.finish]) with
    | ok a => exact absurd ⟨a, parseWithin_sound hend h⟩ hnone
    | error err =>
      cases err with
      | tooDeep => exact absurd h (parseWithin_ne_tooDeep hend hnest)
      | unexpected expected actual => exact ⟨expected, actual, rfl⟩
  · intro behind
    rw [parseWithin_eq limit hend behind, parseWithin_eq limit hend []]

/-- The tokens of `!(tool == 'Bash') && path in roots || path matches '*'`. -/
def guardedTokens : List Token :=
  [.negate, .lparen, .path "tool", .operator .equal, .literal "Bash", .rparen, .conj, .path "path",
    .operator .among, .path "roots", .disj, .path "path", .operator .matches, .literal "*"]

theorem parse_guardedTokens :
    (Token.finish ∉ guardedTokens ∧ nesting guardedTokens ≤ nestingLimit) ∧
    Derives .disjunction guardedTokens
      (.disj (.conj (.negate (.compare "tool" .equal "Bash")) (.compare "path" .among "roots"))
        (.compare "path" .matches "*")) ∧
    ¬ ∃ a, Derives .disjunction (guardedTokens ++ [.rparen]) a := by
  have hend : Token.finish ∉ guardedTokens := by decide
  have hnest : nesting guardedTokens ≤ nestingLimit := by decide
  have htree := (parseWithin_iff_derives nestingLimit hend hnest).1
  have hend' : Token.finish ∉ guardedTokens ++ [.rparen] := by decide
  have hnest' : nesting (guardedTokens ++ [.rparen]) ≤ nestingLimit := by decide
  have hmore := (parseWithin_iff_derives nestingLimit hend' hnest').1
  have hleft : parseWithin nestingLimit (guardedTokens ++ [.rparen] ++ [.finish])
      = .error (.unexpected .eof .rparen) := rfl
  refine ⟨⟨hend, hnest⟩, (htree _).1 rfl, ?_⟩
  rintro ⟨a, ha⟩
  have hok := (hmore a).2 ha
  rw [hleft] at hok
  exact absurd hok (by simp)

end HookPolicy.Rule
