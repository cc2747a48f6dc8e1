import HookPolicy.Json.Basic
import HookPolicy.Proofs.Lists.Lookup
import Mathlib

/-!
# Fields under names

What each operation on fields does to the value found under a name, and that no operation gives a
name twice.
-/

namespace HookPolicy.Fields

variable {fields more : Fields} {name key : String} {v : Json}

@[simp]
theorem get?_nil (name : String) : get? [] name = none := rfl

theorem get?_cons (f : String × Json) (fields : Fields) (name : String) :
    get? (f :: fields) name = if f.1 = name then some f.2 else get? fields name := by
  obtain ⟨key, v⟩ := f
  rw [get?, List.lookup_cons]
  by_cases hname : key = name
  · simp [hname]
  · rw [if_neg hname, beq_eq_false_iff_ne.2 (Ne.symm hname)]
    rfl

theorem get?_append (fields more : Fields) (name : String) :
    get? (fields ++ more) name = (get? fields name).or (get? more name) :=
  List.lookup_append

theorem get?_eq_none_iff : get? fields name = none ↔ name ∉ fields.map Prod.fst :=
  lookup_eq_none_iff_notMem

theorem has_iff : has fields name = true ↔ name ∈ fields.map Prod.fst := by
  rw [has, Option.isSome_iff_ne_none, ne_eq, get?_eq_none_iff, not_not]

theorem mem_of_get? (h : get? fields name = some v) : (name, v) ∈ fields :=
  mem_of_lookup_eq_some h

/-- No name is given twice. -/
def Keyed (fields : Fields) : Prop := (fields.map Prod.fst).Nodup

@[simp]
theorem keyed_nil : Keyed [] := List.nodup_nil

theorem keyed_cons {f : String × Json} :
    Keyed (f :: fields) ↔ f.1 ∉ fields.map Prod.fst ∧ Keyed fields :=
  List.nodup_cons

theorem Keyed.get?_eq_some_iff (h : Keyed fields) :
    get? fields name = some v ↔ (name, v) ∈ fields :=
  lookup_eq_some_iff_mem h

theorem Keyed.get?_reverse (h : Keyed fields) (name : String) :
    get? fields.reverse name = get? fields name := by
  have hreverse : Keyed fields.reverse := by
    rw [Keyed, List.map_reverse]
    exact List.nodup_reverse.2 h
  refine Option.ext fun v => ?_
  rw [hreverse.get?_eq_some_iff, h.get?_eq_some_iff, List.mem_reverse]

/-! ## Giving a field a value -/

theorem get?_map_replace (fields : Fields) (key name : String) (v : Json) :
    get? (fields.map fun f => if f.1 == key then (key, v) else f) name =
      if key = name ∧ has fields key then some v else get? fields name := by
  induction fields with
  | nil => simp [has]
  | cons f fields ih =>
    rw [List.map_cons, get?_cons, ih, get?_cons, has, has, get?_cons]
    by_cases hkey : f.1 = key
    · by_cases hname : key = name <;> simp [hkey, hname]
    · by_cases hname : key = name
      · subst hname
        simp [hkey]
      · simp [hkey, hname]

theorem get?_set (fields : Fields) (key : String) (v : Json) (name : String) :
    get? (set fields key v) name = if key = name then some v else get? fields name := by
  rw [set]
  cases hhas : has fields key with
  | true =>
    rw [if_pos rfl, get?_map_replace, hhas]
    simp
  | false =>
    rw [if_neg Bool.false_ne_true, get?_append, get?_cons, get?_nil]
    by_cases hname : key = name
    · subst hname
      have hnone : get? fields key = none := by simpa [has] using hhas
      simp [hnone]
    · simp [hname]

theorem set_of_fresh (h : key ∉ fields.map Prod.fst) (v : Json) :
    set fields key v = fields ++ [(key, v)] := by
  rw [set, if_neg (by rwa [has_iff])]

theorem map_fst_set (fields : Fields) (key : String) (v : Json) :
    (set fields key v).map Prod.fst =
      if has fields key then fields.map Prod.fst else fields.map Prod.fst ++ [key] := by
  rw [set]
  split
  · rw [List.map_map]
    apply List.map_congr_left
    intro f hf
    by_cases hkey : f.1 = key <;> simp [hkey]
  · rw [List.map_append]
    rfl

theorem Keyed.set (h : Keyed fields) (key : String) (v : Json) : Keyed (set fields key v) := by
  rw [Keyed, map_fst_set]
  split
  · exact h
  · rename_i hhas
    rw [has_iff] at hhas
    exact List.nodup_append.2 ⟨h, List.nodup_singleton key, by grind⟩

theorem mem_set {f : String × Json} (h : f ∈ set fields key v) : f = (key, v) ∨ f ∈ fields := by
  rw [Fields.set] at h
  split at h
  · obtain ⟨g, hg, rfl⟩ := List.mem_map.1 h
    split
    · exact .inl rfl
    · exact .inr hg
  · rcases List.mem_append.1 h with hf | hf
    · exact .inr hf
    · exact .inl (List.mem_singleton.1 hf)

/-! ## Taking fields away -/

theorem get?_filter (p : String → Bool) (fields : Fields) (name : String) :
    get? (fields.filter fun f => p f.1) name = if p name then get? fields name else none :=
  lookup_filter_key p fields name

theorem filter_set (p : String → Bool) (fields : Fields) (key : String) (v : Json) :
    (Fields.set fields key v).filter (fun f => p f.1) =
      if p key then Fields.set (fields.filter fun f => p f.1) key v
      else fields.filter fun f => p f.1 := by
  have hhas : p key = true → has (fields.filter fun f => p f.1) key = has fields key := by
    intro hp
    rw [has, has, get?_filter, if_pos hp]
  have hname : ∀ f : String × Json, (if f.1 == key then (key, v) else f).1 = f.1 := by
    intro f
    split
    · rename_i hkey
      exact (beq_iff_eq.1 hkey).symm
    · rfl
  have hmap : (fields.map fun f => if f.1 == key then (key, v) else f).filter (fun f => p f.1) =
      (fields.filter fun f => p f.1).map fun f => if f.1 == key then (key, v) else f := by
    rw [List.filter_map]
    congr 1
    exact List.filter_congr fun f _ => congrArg p (hname f)
  rw [Fields.set]
  cases hp : p key with
  | true =>
    rw [if_pos rfl, Fields.set, hhas hp]
    split
    · exact hmap
    · simp [hp]
  | false =>
    rw [if_neg Bool.false_ne_true]
    split
    · rw [hmap]
      refine (List.map_congr_left fun f hf => ?_).trans (List.map_id _)
      have hne : f.1 ≠ key := by
        rintro rfl
        exact absurd (List.mem_filter.1 hf).2 (by simp [hp])
      rw [if_neg (by simpa using hne), id]
    · rw [List.filter_append, List.filter_cons_of_neg (by simp [hp]), List.filter_nil,
        List.append_nil]

theorem get?_erase (fields : Fields) (key name : String) :
    get? (erase fields key) name = if name = key then none else get? fields name := by
  rw [erase, get?_filter (· != key)]
  by_cases hname : name = key <;> simp [hname]

theorem Keyed.of_sublist (h : Keyed fields) (hsub : more.Sublist fields) : Keyed more :=
  List.Nodup.sublist (hsub.map Prod.fst) h

/-! ## Giving many fields values -/

theorem get?_setAll (fields more : Fields) (name : String) :
    get? (setAll fields more) name = (get? more.reverse name).or (get? fields name) := by
  induction more generalizing fields with
  | nil => rfl
  | cons f more ih =>
    have hstep : setAll fields (f :: more) = setAll (set fields f.1 f.2) more := rfl
    rw [hstep, ih, get?_set, List.reverse_cons, get?_append, get?_cons, get?_nil]
    cases get? more.reverse name <;> by_cases hname : f.1 = name <;> simp [hname]

theorem has_setAll (fields more : Fields) (name : String) :
    has (setAll fields more) name = (has fields name || has more name) := by
  have hreverse : has more.reverse name = has more name := by
    rw [Bool.eq_iff_iff, has_iff, has_iff, List.map_reverse, List.mem_reverse]
  rw [has, get?_setAll, Option.isSome_or, Bool.or_comm]
  exact congrArg (has fields name || ·) hreverse

theorem filter_setAll (p : String → Bool) (fields more : Fields) :
    (setAll fields more).filter (fun f => p f.1) =
      setAll (fields.filter fun f => p f.1) (more.filter fun f => p f.1) := by
  induction more generalizing fields with
  | nil => rfl
  | cons f more ih =>
    have hstep : setAll fields (f :: more) = setAll (Fields.set fields f.1 f.2) more := rfl
    rw [hstep, ih, filter_set, List.filter_cons]
    split <;> rfl

theorem keyed_setAll (h : Keyed fields) (more : Fields) : Keyed (setAll fields more) :=
  List.foldlRecOn more _ h fun _ h f _ => h.set f.1 f.2

theorem get?_ofPairs (pairs : List (String × Json)) (name : String) :
    get? (ofPairs pairs) name = get? pairs.reverse name := by
  have h := get?_setAll [] pairs name
  rwa [setAll, get?_nil, Option.or_none] at h

theorem keyed_ofPairs (pairs : List (String × Json)) : Keyed (ofPairs pairs) :=
  keyed_setAll keyed_nil pairs

theorem setAll_of_fresh (h : Keyed (fields ++ more)) : setAll fields more = fields ++ more := by
  induction more generalizing fields with
  | nil => rw [List.append_nil]; rfl
  | cons f more ih =>
    have hfresh : f.1 ∉ fields.map Prod.fst := by
      rw [Keyed, List.map_append, List.map_cons] at h
      exact fun hmem => (List.nodup_append.1 h).2.2 f.1 hmem f.1 List.mem_cons_self rfl
    have hstep : setAll fields (f :: more) = setAll (set fields f.1 f.2) more := rfl
    rw [List.append_cons] at h ⊢
    rw [hstep, set_of_fresh hfresh, ih h]

theorem Keyed.ofPairs_eq (h : Keyed fields) : ofPairs fields = fields :=
  setAll_of_fresh h

theorem mem_setAll {f : String × Json} (h : f ∈ setAll fields more) : f ∈ fields ∨ f ∈ more := by
  induction more generalizing fields with
  | nil => exact .inl h
  | cons g more ih =>
    rcases ih h with hset | hmore
    · rcases mem_set hset with rfl | hmem
      · exact .inr List.mem_cons_self
      · exact .inl hmem
    · exact .inr (List.mem_cons_of_mem _ hmore)

theorem mem_ofPairs {pairs : List (String × Json)} {f : String × Json} (h : f ∈ ofPairs pairs) :
    f ∈ pairs :=
  (mem_setAll h).resolve_left List.not_mem_nil

/-! ## Values -/

/-- The value under a name, null where there is none. -/
def value (fields : Fields) (name : String) : Json := (get? fields name).getD .null

theorem value_eq_of_get? (h : get? fields name = some v) : value fields name = v := by
  rw [value, h, Option.getD_some]

theorem value_set (fields : Fields) (key : String) (v : Json) (name : String) :
    value (Fields.set fields key v) name = if key = name then v else value fields name := by
  rw [value, get?_set]
  split <;> rfl

end HookPolicy.Fields
