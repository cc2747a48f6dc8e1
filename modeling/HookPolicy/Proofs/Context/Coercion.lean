import HookPolicy.Context.Gather
import HookPolicy.Proofs.Json.Fields

/-!
# Values of the kind of their field

Every source of a context gives its fields under their inner names, and coercion brings each value
to the kind of its field or to null. Only an infinite exit code has no such value.
-/

namespace HookPolicy

open Context

/-! ## Values that are given -/

/-- The first value other than null, null if there is none. -/
def firstGiven : List Json → Json
  | [] => .null
  | v :: rest => if v.isNull then firstGiven rest else v

theorem Json.isNull_iff {v : Json} : v.isNull = true ↔ v = .null := by
  cases v <;> simp [Json.isNull]

@[simp]
theorem firstGiven_null (rest : List Json) : firstGiven (.null :: rest) = firstGiven rest := rfl

theorem firstGiven_of_ne_null {v : Json} (h : v ≠ .null) (rest : List Json) :
    firstGiven (v :: rest) = v := by
  rw [firstGiven, if_neg (by rwa [Json.isNull_iff])]

@[simp]
theorem firstGiven_singleton (v : Json) : firstGiven [v] = v := by
  by_cases hnull : v = .null
  · rw [hnull]
    rfl
  · exact firstGiven_of_ne_null hnull []

theorem firstGiven_pair (v w : Json) : firstGiven [v, w] = if v.isNull then w else v := by
  rw [firstGiven, firstGiven_singleton]

@[simp]
theorem firstGiven_pair_null (v : Json) : firstGiven [v, .null] = v := by
  by_cases hnull : v = .null
  · rw [hnull]
    rfl
  · exact firstGiven_of_ne_null hnull _

theorem firstGiven_append (vs ws : List Json) :
    firstGiven (vs ++ ws) = firstGiven [firstGiven vs, firstGiven ws] := by
  induction vs with
  | nil =>
    show firstGiven ws = firstGiven [.null, firstGiven ws]
    rw [firstGiven_null, firstGiven_singleton]
  | cons v vs ih =>
    by_cases hnull : v = .null
    · subst hnull
      exact ih
    · rw [List.cons_append, firstGiven_of_ne_null hnull, firstGiven_of_ne_null hnull,
        firstGiven_of_ne_null hnull]

namespace Fields

variable {fields more : Fields} {name : String}

theorem value_mem (h : value fields name ≠ .null) : (name, value fields name) ∈ fields := by
  cases hget : get? fields name with
  | none => exact absurd (by rw [value, hget]; rfl) h
  | some v =>
    rw [value_eq_of_get? hget]
    exact mem_of_get? hget

theorem value_cons (f : String × Json) (fields : Fields) (name : String) :
    value (f :: fields) name = if f.1 = name then f.2 else value fields name := by
  rw [value, get?_cons]
  split <;> rfl

theorem value_eq_null_of_notMem (h : name ∉ fields.map Prod.fst) : value fields name = .null := by
  rw [value, get?_eq_none_iff.2 h]
  rfl

end Fields

namespace Context

/-! ## Kinds of fields -/

inductive Kind
  | text
  | int
  | bool
  | object
  | any
  deriving DecidableEq, Repr

/-- What a field holds; fields without a place of their own hold anything. -/
def kindOf (name : String) : Kind :=
  if name == "exit_code" then .int
  else if name == "success" then .bool
  else if textNames.contains name then .text
  else if name == "params" then .object
  else .any

/-- A value of the kind, or null. -/
inductive Kind.Holds : Kind → Json → Prop
  | null (k : Kind) : Holds k .null
  | text (s : String) : Holds .text (.string s)
  | int (n : Int) : Holds .int (.int n)
  | bool (b : Bool) : Holds .bool (.bool b)
  | object (fields : Fields) : Holds .object (.object fields)
  | any (v : Json) : Holds .any v

theorem holds_ofInt (n : Option Int) : Kind.Holds .int (ofInt n) := by
  cases n with
  | none => exact .null _
  | some n => exact .int n

/-- An infinite number has no whole part. -/
def IsInfinite (v : Json) : Prop := ∃ negative, v = .float (.infinite negative)

theorem intOf_cases (v : Json) :
    (IsInfinite v ∧ intOf v = .error .infiniteNumber) ∨
      ¬ IsInfinite v ∧ ∃ w, intOf v = .ok w ∧ Kind.Holds .int w := by
  cases v with
  | float x =>
    cases x with
    | infinite negative => exact .inl ⟨⟨negative, rfl⟩, rfl⟩
    | finite negative code => exact .inr ⟨nofun, _, rfl, holds_ofInt _⟩
    | nan => exact .inr ⟨nofun, _, rfl, holds_ofInt _⟩
  | bool b => exact .inr ⟨nofun, _, rfl, .int _⟩
  | int n => exact .inr ⟨nofun, _, rfl, .int _⟩
  | string s => exact .inr ⟨nofun, _, rfl, holds_ofInt _⟩
  | null => exact .inr ⟨nofun, _, rfl, .null _⟩
  | array items => exact .inr ⟨nofun, _, rfl, .null _⟩
  | object fields => exact .inr ⟨nofun, _, rfl, .null _⟩

theorem holds_boolOf (v : Json) : Kind.Holds .bool (boolOf v) := by
  cases v with
  | null => exact .null _
  | _ => exact .bool _

def objectOf : Json → Json
  | .object fields => .object fields
  | v => .object [("raw", v)]

theorem holds_objectOf (v : Json) : Kind.Holds .object (objectOf v) := by
  cases v <;> exact .object _

theorem coerce_of_ne_null {name : String} {v : Json} (h : v ≠ .null) :
    coerce name v = match kindOf name with
      | .int => intOf v
      | .bool => .ok (boolOf v)
      | .text => .ok (.string v.display)
      | .object => .ok (objectOf v)
      | .any => .ok v := by
  have hnull : v.isNull = false := by
    rw [Bool.eq_false_iff, ne_eq, Json.isNull_iff]
    exact h
  unfold coerce kindOf
  rw [hnull, if_neg Bool.false_ne_true]
  cases name == "exit_code" with
  | true => rfl
  | false =>
    cases name == "success" with
    | true => rfl
    | false =>
      cases textNames.contains name with
      | true => rfl
      | false =>
        cases name == "params" with
        | true => cases v <;> rfl
        | false => rfl

theorem coerce_holds {name : String} {v w : Json} (h : coerce name v = .ok w) :
    (kindOf name).Holds w := by
  by_cases hnull : v = .null
  · subst hnull
    cases h
    exact .null _
  · rw [coerce_of_ne_null hnull] at h
    cases hkind : kindOf name with
    | int =>
      rw [hkind] at h
      rcases intOf_cases v with ⟨-, hfault⟩ | ⟨-, u, hu, hholds⟩
      · rw [hfault] at h
        cases h
      · rw [hu] at h
        cases h
        exact hholds
    | bool =>
      rw [hkind] at h
      cases h
      exact holds_boolOf v
    | text =>
      rw [hkind] at h
      cases h
      exact .text _
    | object =>
      rw [hkind] at h
      cases h
      exact holds_objectOf v
    | any => exact .any w

theorem kindOf_eq_int_iff {name : String} : kindOf name = .int ↔ name = "exit_code" := by
  unfold kindOf
  repeat' split
  all_goals simp_all

theorem coerce_eq_error_iff {name : String} {v : Json} {e : ReadFault} :
    coerce name v = .error e ↔ name = "exit_code" ∧ IsInfinite v ∧ e = .infiniteNumber := by
  constructor
  · intro h
    have hnull : v ≠ .null := by
      rintro rfl
      cases h
    rw [coerce_of_ne_null hnull] at h
    cases hkind : kindOf name with
    | int =>
      rw [hkind] at h
      rcases intOf_cases v with ⟨hinf, hfault⟩ | ⟨-, u, hu, -⟩
      · rw [hfault] at h
        cases h
        exact ⟨kindOf_eq_int_iff.1 hkind, hinf, rfl⟩
      · rw [hu] at h
        cases h
    | _ =>
      rw [hkind] at h
      cases h
  · rintro ⟨rfl, ⟨negative, rfl⟩, rfl⟩
    rfl

/-! ## Coercing all fields -/

theorem coerceAll_cons (f : String × Json) (fields : Fields) :
    coerceAll (f :: fields) = match coerce f.1 f.2, coerceAll fields with
      | .ok v, .ok rest => .ok ((f.1, v) :: rest)
      | .error e, _ => .error e
      | _, .error e => .error e := rfl

theorem coerceAll_eq_ok {fields out : Fields} (h : coerceAll fields = .ok out) :
    List.Forall₂ (fun f g => g.1 = f.1 ∧ coerce f.1 f.2 = .ok g.2) fields out := by
  induction fields generalizing out with
  | nil =>
    cases h
    exact .nil
  | cons f fields ih =>
    rw [coerceAll_cons] at h
    cases hv : coerce f.1 f.2 with
    | error e =>
      rw [hv] at h
      cases h
    | ok v =>
      cases hrest : coerceAll fields with
      | error e =>
        rw [hv, hrest] at h
        cases h
      | ok rest =>
        rw [hv, hrest] at h
        cases h
        exact .cons ⟨rfl, hv⟩ (ih hrest)

theorem coerceAll_eq_error_iff {fields : Fields} {e : ReadFault} :
    coerceAll fields = .error e ↔
      e = .infiniteNumber ∧ ∃ v, ("exit_code", v) ∈ fields ∧ IsInfinite v := by
  induction fields with
  | nil => simp [coerceAll]
  | cons f fields ih =>
    obtain ⟨name, v⟩ := f
    rw [coerceAll_cons]
    cases hv : coerce name v with
    | error e' =>
      obtain ⟨rfl, hinf, rfl⟩ := coerce_eq_error_iff.1 hv
      constructor
      · intro h
        cases h
        exact ⟨rfl, v, List.mem_cons_self, hinf⟩
      · rintro ⟨rfl, -⟩
        rfl
    | ok w =>
      have hthis : ¬ (name = "exit_code" ∧ IsInfinite v) := by
        rintro ⟨hname, hinf⟩
        rw [coerce_eq_error_iff.2 ⟨hname, hinf, rfl⟩] at hv
        cases hv
      have hmem : (∃ u, ("exit_code", u) ∈ (name, v) :: fields ∧ IsInfinite u) ↔
          ∃ u, ("exit_code", u) ∈ fields ∧ IsInfinite u := by
        constructor
        · rintro ⟨u, hu, hinf⟩
          rcases List.mem_cons.1 hu with heq | hrest
          · cases heq
            exact absurd ⟨rfl, hinf⟩ hthis
          · exact ⟨u, hrest, hinf⟩
        · rintro ⟨u, hu, hinf⟩
          exact ⟨u, List.mem_cons_of_mem _ hu, hinf⟩
      rw [hmem, ← ih]
      cases coerceAll fields <;> simp

theorem map_fst_coerceAll {fields out : Fields} (h : coerceAll fields = .ok out) :
    out.map Prod.fst = fields.map Prod.fst := by
  have hall := coerceAll_eq_ok h
  clear h
  induction hall with
  | nil => rfl
  | cons hfg _ ih => rw [List.map_cons, List.map_cons, hfg.1, ih]

end Context

end HookPolicy
