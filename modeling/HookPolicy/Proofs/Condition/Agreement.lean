import HookPolicy.Condition.Eval
import HookPolicy.Policy.Lint
import Mathlib.Data.List.Basic

/-!
# The two readers of conditions

The lint reads a condition strictly, the evaluation looks for a call inside each part. Where the
strict reader succeeds, both read the same calls, so the evaluation runs the known checks among them
from left to right (`eval_of_parse`).
-/

namespace HookPolicy.Condition

/-! ## Calls -/

variable {cs rest word arg after : List Char} {call : Call}

theorem findAfter_append (hword : ∀ c ∈ word, Text.isWord c = true) (seen rest : List Char) :
    findAfter seen (word ++ rest) = findAfter (word.reverse ++ seen) rest := by
  induction word generalizing seen with
  | nil => rfl
  | cons c word ih =>
    rw [List.cons_append, findAfter, if_pos (hword c List.mem_cons_self),
      ih fun d hd => hword d (List.mem_cons_of_mem _ hd), List.reverse_cons, List.append_assoc,
      List.singleton_append]

theorem findAfter_argument (hseen : word ≠ []) (harg : argument? rest = some (arg, after)) :
    findAfter word ('(' :: rest) = some (.ofChars word.reverse arg) := by
  have hstep : ('(' == '(' && !word.isEmpty) = true := by
    cases word with
    | nil => exact absurd rfl hseen
    | cons c word => rfl
  rw [findAfter, if_neg (by decide), if_pos hstep, harg]

/-- What the strict reader takes for a call: a name, and an argument that ends the text. -/
theorem Call.ofText?_eq_some (h : Call.ofText? cs = some call) :
    ∃ name rest arg, cs = name ++ '(' :: rest ∧ name ≠ [] ∧
      (∀ c ∈ name, Text.isWord c = true) ∧ argument? rest = some (arg, []) ∧
      call = .ofChars name arg := by
  have hsplit := List.takeWhile_append_dropWhile (p := Text.isWord) (l := cs)
  have hword : ∀ c ∈ cs.takeWhile Text.isWord, Text.isWord c = true :=
    List.all_eq_true.1 List.all_takeWhile
  unfold Call.ofText? at h
  split at h
  · cases h
  · rename_i rest hrest hname
    split at h
    · rename_i arg harg
      cases h
      refine ⟨_, rest, arg, ?_, hname, hword, harg, rfl⟩
      rw [← hrest, hsplit]
    · cases h
  · cases h

theorem find_of_ofText? (h : Call.ofText? cs = some call) : find cs = some call := by
  obtain ⟨name, rest, arg, rfl, hname, hword, harg, rfl⟩ := Call.ofText?_eq_some h
  have hseen : name.reverse ≠ [] := by simpa using hname
  rw [find, findAfter_append hword, List.append_nil, findAfter_argument hseen harg,
    List.reverse_reverse]

variable {ps : List (List Char)} {calls : List Call}

theorem map_find_of_parseParts (h : parseParts ps = .ok calls) : ps.map find = calls.map some := by
  induction ps generalizing calls with
  | nil =>
    cases h
    rfl
  | cons p ps ih =>
    unfold parseParts at h
    split at h
    · cases h
    · rename_i c more hcall hmore
      cases h
      rw [List.map_cons, List.map_cons, find_of_ofText? hcall, ih hmore]
    · cases h

/-! ## Runs of checks -/

variable {w : World} {dir : Path} {cwd condition : String} {p : List Char} {c : Check × String}

/-- The registered check that a call names, with its argument. -/
def Call.check? (call : Call) : Option (Check × String) :=
  (Check.ofName? call.name).map (·, call.arg)

/-- The registered check that a part of a condition calls, with its argument. -/
def checkOf? (p : List Char) : Option (Check × String) := (find p).bind Call.check?

/-- What the checks of the parts answer from left to right, up to the first that does not hold or
that fails. -/
def answer (w : World) (dir : Path) (checks : List (Check × String)) : Except CheckFault Bool :=
  checks.allM fun c => c.1.run w dir c.2

theorem evalParts_skip (h : checkOf? p = none) :
    (evalParts w dir (p :: ps)).result = (evalParts w dir ps).result := by
  rw [evalParts]
  cases hfind : find p with
  | none =>
    dsimp only
    split <;> rfl
  | some call =>
    rw [checkOf?, hfind, Option.bind_some, Call.check?, Option.map_eq_none_iff] at h
    dsimp only
    rw [h]
    rfl

theorem evalParts_pass (h : checkOf? p = some c) (hrun : c.1.run w dir c.2 = .ok true) :
    evalParts w dir (p :: ps) = evalParts w dir ps := by
  obtain ⟨call, hfind, hcheck⟩ := Option.bind_eq_some_iff.1 h
  obtain ⟨check, hname, rfl⟩ := Option.map_eq_some_iff.1 hcheck
  simp only [evalParts, hfind, hname, hrun]

theorem evalParts_stop (h : checkOf? p = some c) (hrun : c.1.run w dir c.2 ≠ .ok true) :
    evalParts w dir (p :: ps) = ⟨[], c.1.run w dir c.2⟩ := by
  obtain ⟨call, hfind, hcheck⟩ := Option.bind_eq_some_iff.1 h
  obtain ⟨check, hname, rfl⟩ := Option.map_eq_some_iff.1 hcheck
  dsimp only at hrun ⊢
  cases hanswer : check.run w dir call.arg with
  | error fault => simp only [evalParts, hfind, hname, hanswer]
  | ok holds =>
    cases holds with
    | false => simp only [evalParts, hfind, hname, hanswer]
    | true => exact absurd hanswer hrun

/-- An evaluation answers what the registered checks of the parts answer, in their order. -/
theorem evalParts_result (w : World) (dir : Path) (ps : List (List Char)) :
    (evalParts w dir ps).result = answer w dir (ps.filterMap checkOf?) := by
  induction ps with
  | nil => rfl
  | cons p ps ih =>
    cases hcheck : checkOf? p with
    | none => rw [evalParts_skip hcheck, List.filterMap_cons_none hcheck, ih]
    | some c =>
      rw [List.filterMap_cons_some hcheck, answer, List.allM]
      cases hrun : c.1.run w dir c.2 with
      | error fault =>
        rw [evalParts_stop hcheck (by rw [hrun]; nofun), hrun]
        rfl
      | ok holds =>
        cases holds with
        | false =>
          rw [evalParts_stop hcheck (by rw [hrun]; nofun), hrun]
          rfl
        | true =>
          rw [evalParts_pass hcheck hrun]
          exact ih

/-- Whether an evaluation goes on behind a call: the call names no registered check, or its check
holds. -/
def Call.passes (w : World) (dir : Path) (call : Call) : Bool :=
  match call.check? with
  | none => true
  | some c => decide (c.1.run w dir c.2 = .ok true)

/-- Unknown names leave their remarks up to the place where the evaluation stops. -/
theorem evalParts_remarks (hfind : ps.map find = calls.map some) :
    (evalParts w dir ps).remarks =
      ((calls.takeWhile (·.passes w dir)).filter (·.check?.isNone)).map (.unknown ·.name) := by
  induction ps generalizing calls with
  | nil =>
    obtain rfl : calls = [] := List.map_eq_nil_iff.1 hfind.symm
    rfl
  | cons p ps ih =>
    cases calls with
    | nil => cases hfind
    | cons call calls =>
      obtain ⟨hcall, hrest⟩ := List.cons.inj hfind
      -- a name that is not known leaves a remark, and a check that does not hold ends the run
      cases hcheck : call.check? with
      | none =>
        have hname : Check.ofName? call.name = none := Option.map_eq_none_iff.1 hcheck
        have hpasses : call.passes w dir = true := by rw [Call.passes, hcheck]
        rw [evalParts, hcall]
        dsimp only
        rw [hname, List.takeWhile_cons_of_pos hpasses,
          List.filter_cons_of_pos (by rw [hcheck]; rfl), List.map_cons, ← ih hrest]
        rfl
      | some c =>
        have hpart : checkOf? p = some c := by rw [checkOf?, hcall, Option.bind_some, hcheck]
        have hpasses : call.passes w dir = decide (c.1.run w dir c.2 = .ok true) := by
          rw [Call.passes, hcheck]
        by_cases hrun : c.1.run w dir c.2 = .ok true
        · rw [evalParts_pass hpart hrun,
            List.takeWhile_cons_of_pos (by rw [hpasses, decide_eq_true hrun]),
            List.filter_cons_of_neg (by rw [hcheck]; exact Bool.false_ne_true)]
          exact ih hrest
        · rw [evalParts_stop hpart hrun,
            List.takeWhile_cons_of_neg (by rw [hpasses]; exact mt of_decide_eq_true hrun)]
          rfl

/-- The directory in which a condition is evaluated. -/
def directory (w : World) (cwd : String) : Path := if cwd == "" then w.dir else Path.ofString cwd

theorem eval_result (w : World) (cwd condition : String) :
    (eval w cwd condition).result =
      answer w (directory w cwd) ((parts condition).filterMap checkOf?) :=
  evalParts_result w (directory w cwd) (parts condition)

theorem filterMap_checkOf? (hfind : ps.map find = calls.map some) :
    ps.filterMap checkOf? = calls.filterMap Call.check? := by
  have hparts : checkOf? = (·.bind Call.check?) ∘ find := rfl
  rw [hparts, ← List.filterMap_map, hfind, List.filterMap_map]
  rfl

theorem check?_of_conditionDefect? (hparse : parse condition = .ok calls)
    (h : Policy.conditionDefect? condition = none) {call : Call} (hcall : call ∈ calls) :
    call.check?.isSome = true := by
  rw [Policy.conditionDefect?, hparse, Option.map_eq_none_iff, List.find?_eq_none] at h
  have hknown := h call hcall
  simpa [Call.check?, Option.isSome_iff_ne_none] using hknown

/-- Where the strict reader reads a condition, the evaluation finds the same calls, answers what the
registered checks among them answer, and passes over nothing but the unknown names that it comes to.
In a condition in which the lint finds nothing every part calls a registered check and nothing is
passed over. -/
theorem eval_of_parse (h : parse condition = .ok calls) :
    (parts condition).map find = calls.map some ∧
    (∀ w cwd, (eval w cwd condition).result =
      answer w (directory w cwd) (calls.filterMap Call.check?)) ∧
    (∀ w cwd, (eval w cwd condition).remarks =
      ((calls.takeWhile (·.passes w (directory w cwd))).filter (·.check?.isNone)).map
        (.unknown ·.name)) ∧
    (Policy.conditionDefect? condition = none →
      (∀ p ∈ parts condition, (checkOf? p).isSome = true) ∧
      ∀ w cwd, (eval w cwd condition).remarks = []) := by
  have hfind := map_find_of_parseParts h
  have hremarks : ∀ w cwd, (eval w cwd condition).remarks = _ :=
    fun w cwd => evalParts_remarks hfind
  refine ⟨hfind, fun w cwd => ?_, hremarks, fun hlint => ⟨fun p hp => ?_, fun w cwd => ?_⟩⟩
  · rw [eval_result, filterMap_checkOf? hfind]
  · have hmem : find p ∈ calls.map some := hfind ▸ List.mem_map_of_mem hp
    obtain ⟨call, hcall, hsome⟩ := List.mem_map.1 hmem
    rw [checkOf?, ← hsome]
    exact check?_of_conditionDefect? h hlint hcall
  · rw [hremarks, List.map_eq_nil_iff, List.filter_eq_nil_iff]
    intro call hcall hnone
    have hmem : call ∈ calls := List.takeWhile_subset _ hcall
    have hsome := check?_of_conditionDefect? h hlint hmem
    rw [← Option.not_isNone, hnone] at hsome
    cases hsome

def siteCondition : String := "file_exists('a.txt') && nope(\"x\") && env_set('CI')"

def siteCalls : List Call := [⟨"file_exists", "a.txt"⟩, ⟨"nope", "x"⟩, ⟨"env_set", "CI"⟩]

def site : World := ⟨⟨[(["a.txt"], .file [] false)]⟩, "/", [], .ofSeconds 0 0, "/"⟩

/-- The variable is not set, so the last check does not hold; the unknown name comes before it. -/
theorem eval_siteCondition :
    parse siteCondition = .ok siteCalls ∧
      siteCalls.filterMap Call.check? = [(.fileExists, "a.txt"), (.envSet, "CI")] ∧
      (eval site "" siteCondition).result = .ok false ∧
      (eval site "" siteCondition).remarks = [.unknown "nope"] := by
  have hparse : parse siteCondition = .ok siteCalls := by decide +kernel
  obtain ⟨-, hresult, hremarks, -⟩ := eval_of_parse hparse
  refine ⟨hparse, by decide, ?_, ?_⟩
  · rw [hresult]
    decide +kernel
  · rw [hremarks]
    decide +kernel

end HookPolicy.Condition
