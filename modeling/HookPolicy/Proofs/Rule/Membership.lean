import HookPolicy.Number.IntText
import HookPolicy.Proofs.Json.Fields
import HookPolicy.Proofs.Rule.Patterns

/-!
# Lists as equalities

Of a text, `in` says the same as the equalities with the trimmed pieces of the list do together, and
it says so of nothing too. Truth values and whole numbers equal no text, and `in` looks their own
text up instead (`among_as_equalities`).
-/

namespace HookPolicy.Rule

open Text

variable {v w : Json} {context : Json} {path list text : String}

/-! ## Pieces of a list -/

/-- What stands between the commas of a list. -/
structure Pieces (list : String) (pieces : List String) : Prop where
  joined : ",".intercalate pieces = list
  apart : ∀ p ∈ pieces, ',' ∉ p.toList

theorem exists_pieces (list : String) : ∃ first more, Pieces list (first :: more) := by
  obtain ⟨first, more, hsplit⟩ := exists_splitAt_eq_cons ',' list.toList
  refine ⟨String.ofList first, more.map String.ofList, ?_⟩
  rw [← List.map_cons, ← hsplit]
  constructor
  · have hid : String.toList ∘ String.ofList = id := funext fun cs => String.toList_ofList
    rw [← String.toList_inj, String.toList_intercalate, List.map_map, hid, List.map_id]
    exact intercalate_splitAt ',' list.toList
  · intro p hp
    obtain ⟨piece, hpiece, rfl⟩ := List.mem_map.1 hp
    rw [String.toList_ofList]
    exact notMem_of_mem_splitAt hpiece

theorem Pieces.members_eq {first : String} {more : List String}
    (h : Pieces list (first :: more)) : members list = (first :: more).map trimmed := by
  have hsplit : splitAt ',' list.toList = (first :: more).map String.toList := by
    rw [← h.joined, String.toList_intercalate]
    exact splitAt_intercalate (List.cons_ne_nil _ _) (List.forall_mem_map.2 h.apart)
  rw [members, hsplit, List.map_map]
  rfl

/-! ## Texts and nothing -/

inductive TextOrNothing : Json → Prop
  | text (s : String) : TextOrNothing (.string s)
  | nothing : TextOrNothing .null

theorem compareWith_among (h : TextOrNothing v) (list : String) :
    compareWith .among v list = .ok ((members list).any (equals v)) := by
  cases h with
  | text s =>
    rw [compareWith, List.contains_eq_any_beq]
    rfl
  | nothing =>
    have hnone : (members list).any (equals .null) = false :=
      List.any_eq_false.2 fun _ _ => Bool.false_ne_true
    rw [compareWith, hnone]
    rfl

/-- The path equals one of the texts. -/
def anyEqual (path first : String) (more : List String) : Expr :=
  more.foldl (fun e m => .disj e (.compare path .equal m)) (.compare path .equal first)

theorem anyEqual_concat (path first : String) (more : List String) (m : String) :
    anyEqual path first (more ++ [m]) =
      .disj (anyEqual path first more) (.compare path .equal m) :=
  List.foldl_concat _ _ _ _

theorem eval_anyEqual (context : Json) (path first : String) {more : List String} {n : Nat}
    (h : more.length < n) : (anyEqual path first more).eval context n =
      .ok ((first :: more).any (equals (resolve context path))) := by
  -- the chain groups to the left, so its last equality is the first to be taken off
  induction more using List.reverseRecOn generalizing n with
  | nil =>
    obtain ⟨k, rfl⟩ := Nat.exists_eq_succ_of_ne_zero (Nat.ne_of_gt h)
    rw [List.any_cons, List.any_nil, Bool.or_false]
    rfl
  | append_singleton more m ih =>
    rw [List.length_append, List.length_singleton] at h
    obtain ⟨k, rfl⟩ := Nat.exists_eq_add_of_lt h
    have hmore : more.length < more.length + 1 + k := by omega
    have hlast : (Expr.compare path .equal m).eval context (more.length + 1 + k) =
        .ok (equals (resolve context path) m) := by
      rw [Nat.add_right_comm]
      rfl
    rw [anyEqual_concat, Expr.eval, ih hmore, hlast, ← List.cons_append, List.any_append]
    cases (first :: more).any (equals (resolve context path)) <;> simp

/-! ## Truth values and whole numbers -/

/-- The text of a truth value, or of a whole number that is not too long to be written out. -/
inductive StandsAs : Json → String → Prop
  | yes : StandsAs (.bool true) "true"
  | no : StandsAs (.bool false) "false"
  | number {n : Int} : n.natAbs < 10 ^ intDigitLimit → StandsAs (.int n) (toString n)

theorem ofList_intChars (n : Int) : String.ofList (Decimal.intChars n) = toString n := by
  cases n with
  | ofNat n =>
    have hnonneg : ¬ Int.ofNat n < 0 := Int.not_lt.2 (Int.natCast_nonneg n)
    rw [Decimal.intChars, if_neg hnonneg]
    rfl
  | negSucc n =>
    have hdigits : (Nat.repr (n + 1)).toList = Decimal.digits (n + 1) := String.toList_ofList
    have htext : toString (Int.negSucc n) = "-" ++ Nat.repr (n + 1) := rfl
    rw [Decimal.intChars, if_pos (Int.negSucc_lt_zero n), htext, ← String.toList_inj,
      String.toList_ofList, String.toList_append, hdigits]
    rfl

theorem StandsAs.memberText_eq (h : StandsAs v text) : memberText v = text := by
  cases h with
  | yes => rfl
  | no => rfl
  | number => exact ofList_intChars _

theorem StandsAs.compareWith_among (h : StandsAs v text) (list : String) :
    compareWith .among v list = compareWith .among (.string text) list := by
  have htext : memberText (.string text) = text := rfl
  have hsome : v.isNull = false := by cases h <;> rfl
  rw [compareWith, compareWith, h.memberText_eq, htext, hsome]
  rfl

/-! ## Another value at the end of a path -/

/-- The value with another one in the place that the names lead to. -/
def replaceAt (w : Json) : List String → Json → Json
  | [], _ => w
  | name :: names, .object fields =>
    .object (Fields.set fields name (replaceAt w names ((Json.object fields).field name)))
  | _ :: _, v => v

theorem foldl_field_null (names : List String) : names.foldl Json.field .null = .null := by
  induction names with
  | nil => rfl
  | cons name names ih => exact ih

theorem foldl_field_replaceAt {names : List String} (h : names.foldl Json.field v ≠ .null) :
    names.foldl Json.field (replaceAt w names v) = w := by
  induction names generalizing v with
  | nil => rfl
  | cons name names ih =>
    cases v with
    | object fields =>
      have hfield : (replaceAt w (name :: names) (.object fields)).field name =
          replaceAt w names ((Json.object fields).field name) := by
        rw [replaceAt, Json.field, Fields.get?_set, if_pos rfl, Option.getD_some]
      rw [List.foldl_cons, hfield]
      exact ih h
    | _ => exact absurd (foldl_field_null names) h

theorem resolve_replaceAt (h : resolve context path ≠ .null) (w : Json) :
    resolve (replaceAt w (segments path) context) path = w :=
  foldl_field_replaceAt h

/-! ## Membership -/

theorem StandsAs.ne_null (h : StandsAs v text) : v ≠ .null := by
  cases h <;> exact nofun

theorem holds_comparison_of_ok {op : Operator} {value : String} {answer : Bool}
    (hpath : isPlainPath path = true) (s : Style)
    (h : compareWith op (resolve context path) value = .ok answer) :
    holds ((Expr.compare path op value).render s) context = answer := by
  rw [Bool.eq_iff_iff, holds_comparison_iff hpath, h, Except.ok.injEq]

theorem Pieces.eval_among {first : String} {more : List String}
    (h : Pieces list (first :: more)) (hvalue : TextOrNothing (resolve context path)) (n : Nat) :
    (Expr.compare path .among list).eval context (n + 1) =
      .ok ((first :: more).any fun p => equals (resolve context path) (trimmed p)) := by
  have hany := compareWith_among hvalue list
  rw [h.members_eq, List.any_map] at hany
  exact hany

/-- The chain of equalities needs as many levels as it has members. -/
theorem Pieces.eval_among_eq_anyEqual {first : String} {more : List String} {n : Nat}
    (h : Pieces list (first :: more)) (hvalue : TextOrNothing (resolve context path))
    (hn : (first :: more).length ≤ n) :
    (Expr.compare path .among list).eval context n =
      (anyEqual path (trimmed first) (more.map trimmed)).eval context n := by
  obtain ⟨k, rfl⟩ := Nat.exists_eq_add_of_le' hn
  have hshort : (more.map trimmed).length < k + (first :: more).length := by
    rw [List.length_map, List.length_cons]
    omega
  rw [eval_anyEqual context path _ hshort, ← List.map_cons, List.any_map]
  exact h.eval_among hvalue _

theorem Pieces.holds_among {first : String} {more : List String}
    (h : Pieces list (first :: more)) (hvalue : TextOrNothing (resolve context path))
    (hpath : isPlainPath path = true) (s s' : Style) :
    holds ((Expr.compare path .among list).render s) context =
      (first :: more).any fun p =>
        holds ((Expr.compare path .equal (trimmed p)).render s') context := by
  have hmatch : ∀ p, holds ((Expr.compare path .equal (trimmed p)).render s') context =
      equals (resolve context path) (trimmed p) :=
    fun p => holds_comparison_of_ok hpath s' rfl
  simp only [hmatch]
  exact holds_comparison_of_ok hpath s (h.eval_among hvalue 0)

/-- Where a path leads to a text or to nothing, `in` says what the equalities with the trimmed
pieces of the list say, each by itself and joined to one rule. Where it leads to a truth value or a
whole number, `in` says what it says of the text of that value. -/
theorem among_as_equalities (path list : String) (context : Json) :
    (∃ first more, Pieces list (first :: more)) ∧ ∀ first more, Pieces list (first :: more) →
      let pieces := first :: more
      let member := Expr.compare path .among list
      let equality := fun p => Expr.compare path .equal (trimmed p)
      (TextOrNothing (resolve context path) →
        (∀ n,
          (∃ p ∈ pieces, (equality p).eval context (n + 1) = .ok true) ∧
              member.eval context (n + 1) = .ok true ∨
            (∀ p ∈ pieces, (equality p).eval context (n + 1) = .ok false) ∧
              member.eval context (n + 1) = .ok false) ∧
        (∀ n, pieces.length ≤ n →
          member.eval context n =
            (anyEqual path (trimmed first) (more.map trimmed)).eval context n) ∧
        (isPlainPath path = true → ∀ s s' : Style,
          holds (member.render s) context =
            pieces.any fun p => holds ((equality p).render s') context)) ∧
      (∀ text, StandsAs (resolve context path) text →
        let replaced := replaceAt (.string text) (segments path) context
        resolve replaced path = .string text ∧
        (∀ n, member.eval context n = member.eval replaced n) ∧
        (isPlainPath path = true → ∀ s : Style,
          holds (member.render s) context = holds (member.render s) replaced)) := by
  refine ⟨exists_pieces list, ?_⟩
  intro first more hpieces pieces member equality
  constructor
  · intro hvalue
    refine ⟨fun n => ?_, fun n hn => hpieces.eval_among_eq_anyEqual hvalue hn,
      fun hpath s s' => hpieces.holds_among hvalue hpath s s'⟩
    have hequality : ∀ p, (equality p).eval context (n + 1) =
        .ok (equals (resolve context path) (trimmed p)) := fun p => rfl
    have hmember := hpieces.eval_among hvalue n
    cases hfound : pieces.any fun p => equals (resolve context path) (trimmed p) with
    | true =>
      obtain ⟨p, hp, hequal⟩ := List.any_eq_true.1 hfound
      exact .inl ⟨⟨p, hp, by rw [hequality, hequal]⟩, by rw [hmember, hfound]⟩
    | false =>
      refine .inr ⟨fun p hp => ?_, by rw [hmember, hfound]⟩
      rw [hequality, Bool.eq_false_iff.2 (List.any_eq_false.1 hfound p hp)]
  · intro text htext replaced
    have hreplaced : resolve replaced path = .string text := resolve_replaceAt htext.ne_null _
    have hsame : compareWith .among (resolve context path) list =
        compareWith .among (resolve replaced path) list := by
      rw [hreplaced]
      exact htext.compareWith_among list
    refine ⟨hreplaced, fun n => ?_, fun hpath s => ?_⟩
    · cases n with
      | zero => rfl
      | succ n => exact hsame
    · rw [Bool.eq_iff_iff, holds_comparison_iff hpath, holds_comparison_iff hpath, hsame]

def paramsContext : Json :=
  .object [("params", .object [("note", .string "a b"), ("count", .int (-7))])]

def paramsList : String := " x,\ta b ,, -7"

theorem among_as_equalities_params :
    (Pieces paramsList [" x", "\ta b ", "", " -7"] ∧
      isPlainPath "params.note" = true ∧ isPlainPath "params.count" = true ∧
      TextOrNothing (resolve paramsContext "params.note") ∧
      StandsAs (resolve paramsContext "params.count") "-7") ∧
    ∀ s : Style,
      holds ((Expr.compare "params.note" .among paramsList).render s) paramsContext = true ∧
      holds ((Expr.compare "params.count" .among paramsList).render s) paramsContext = true := by
  have hpieces : Pieces paramsList [" x", "\ta b ", "", " -7"] := ⟨by decide, by decide⟩
  have hnote : isPlainPath "params.note" = true := by cbv
  have hcount : isPlainPath "params.count" = true := by cbv
  have hvalue : resolve paramsContext "params.note" = .string "a b" := by cbv
  have hnumber : resolve paramsContext "params.count" = .int (-7) := by cbv
  have htext : TextOrNothing (resolve paramsContext "params.note") := hvalue ▸ .text "a b"
  have hshort : (-7 : Int).natAbs < 10 ^ intDigitLimit :=
    Nat.lt_of_lt_of_le (by decide : (-7 : Int).natAbs < 10 ^ 1)
      (Nat.pow_le_pow_right (by decide) (by decide))
  have hstands : StandsAs (resolve paramsContext "params.count") "-7" := hnumber ▸ .number hshort
  have hevery := fun path context => (among_as_equalities path paramsList context).2 _ _ hpieces
  refine ⟨⟨hpieces, hnote, hcount, htext, hstands⟩, fun s => ⟨?_, ?_⟩⟩
  · obtain ⟨-, -, hany⟩ := (hevery "params.note" paramsContext).1 htext
    rw [hany hnote s s, List.any_eq_true]
    refine ⟨"\ta b ", by simp, holds_comparison_of_ok hnote s ?_⟩
    rw [hvalue]
    decide
  · obtain ⟨hreplaced, -, hsame⟩ := (hevery "params.count" paramsContext).2 _ hstands
    have htext := TextOrNothing.text "-7"
    rw [← hreplaced] at htext
    obtain ⟨-, -, hany⟩ := (hevery "params.count" _).1 htext
    rw [hsame hcount s, hany hcount s s, List.any_eq_true]
    refine ⟨" -7", by simp, holds_comparison_of_ok hcount s ?_⟩
    rw [hreplaced]
    decide

end HookPolicy.Rule
