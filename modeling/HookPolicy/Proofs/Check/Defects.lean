import HookPolicy.Check.Basic
import Mathlib.Data.List.Basic

/-!
# The defects of a check

The defects of a check of several parts are those of the parts, in order, each further from the
root. A check that is not good has a defect to tell.
-/

namespace HookPolicy

namespace Checked

variable {α β : Type}

@[simp]
theorem defects_map (f : α → β) (a : Checked α) : (f <$> a).defects = a.defects := by
  cases a <;> rfl

@[simp]
theorem defects_seq (f : Checked (α → β)) (a : Checked α) :
    (f <*> a).defects = f.defects ++ a.defects := by
  cases f with
  | good f =>
    cases a with
    | good x => rfl
    | bad ds => rfl
  | bad es =>
    cases a with
    | good x => rfl
    | bad ds => rfl

end Checked

/-- The same defect, seen from one step closer to the root. -/
def Defect.below (step : Step) (d : Defect) : Defect := { d with place := step :: d.place }

theorem Checked.defects_under {α : Type} (step : Step) (a : Checked α) :
    (a.under step).defects = a.defects.map (Defect.below step) := by
  cases a <;> rfl

variable {α : Type} {check : Json → Checked α} {fields : Fields} {name : String} {v : Json}

theorem defects_checkItems (check : Json → Checked α) (start : Nat) (items : List Json) :
    (checkItems check start items).defects =
      (items.zipIdx start).flatMap fun p => (check p.1).defects.map (Defect.below (.index p.2)) := by
  induction items generalizing start with
  | nil => rfl
  | cons v items ih =>
    rw [checkItems, Checked.defects_seq, Checked.defects_map, Checked.defects_under, ih,
      List.zipIdx_cons, List.flatMap_cons]

theorem defects_checkFields (check : Json → Checked α) (fields : Fields) :
    (checkFields check fields).defects =
      fields.flatMap fun f => (check f.2).defects.map (Defect.below (.key f.1)) := by
  induction fields with
  | nil => rfl
  | cons f fields ih =>
    rw [checkFields, Checked.defects_seq, Checked.defects_map, Checked.defects_under, ih,
      List.flatMap_cons]

theorem defects_defaulting (hget : fields.get? name = some v) (default : α) :
    (defaulting fields name default check).defects =
      (check v).defects.map (Defect.below (.key name)) := by
  rw [defaulting, hget, Checked.defects_under]

/-- All defects of a field with a default lie below its name. -/
theorem place_of_mem_defects_defaulting {default : α} {d : Defect}
    (h : d ∈ (defaulting fields name default check).defects) :
    ∃ rest, d.place = .key name :: rest := by
  cases hget : fields.get? name with
  | none =>
    rw [defaulting, hget] at h
    cases h
  | some v =>
    rw [defects_defaulting hget] at h
    obtain ⟨inner, -, rfl⟩ := List.mem_map.1 h
    exact ⟨_, rfl⟩

/-! ## Checks that tell what is wrong -/

namespace Checked

variable {α β : Type}

/-- The check is good or has a defect to tell. -/
def Telling (a : Checked α) : Prop := a.defects = [] → ∃ x, a = .good x

theorem telling_good (x : α) : Telling (.good x) := fun _ => ⟨x, rfl⟩

theorem telling_bad {ds : List Defect} (h : ds ≠ []) : Telling (.bad ds : Checked α) :=
  fun hds => absurd hds h

theorem telling_one (problem : Problem) : Telling (.one problem : Checked α) :=
  telling_bad (List.cons_ne_nil _ _)

theorem Telling.map {a : Checked α} (h : a.Telling) (f : α → β) : (f <$> a).Telling := by
  intro hds
  rw [defects_map] at hds
  obtain ⟨x, rfl⟩ := h hds
  exact ⟨f x, rfl⟩

theorem Telling.seq {f : Checked (α → β)} {a : Checked α} (hf : f.Telling) (ha : a.Telling) :
    (f <*> a).Telling := by
  intro hds
  rw [defects_seq, List.append_eq_nil_iff] at hds
  obtain ⟨g, rfl⟩ := hf hds.1
  obtain ⟨x, rfl⟩ := ha hds.2
  exact ⟨g x, rfl⟩

theorem Telling.under {a : Checked α} (h : a.Telling) (step : Step) : (a.under step).Telling := by
  intro hds
  rw [defects_under, List.map_eq_nil_iff] at hds
  obtain ⟨x, rfl⟩ := h hds
  exact ⟨x, rfl⟩

theorem defects_eq_nil_iff {a : Checked α} (h : a.Telling) : a.defects = [] ↔ ∃ x, a = .good x := by
  refine ⟨h, ?_⟩
  rintro ⟨x, rfl⟩
  rfl

end Checked

open Checked

theorem telling_required (h : ∀ v, (check v).Telling) (fields : Fields) (name : String) :
    (required fields name check).Telling := by
  unfold required
  split
  · exact (h _).under _
  · exact telling_bad (List.cons_ne_nil _ _)

theorem telling_defaulting (h : ∀ v, (check v).Telling) (fields : Fields) (name : String)
    (default : α) : (defaulting fields name default check).Telling := by
  unfold defaulting
  split
  · exact (h _).under _
  · exact telling_good _

theorem telling_checkText (v : Json) : (checkText v).Telling := by
  unfold checkText
  split
  · exact telling_good _
  · exact telling_one _

theorem telling_checkOptional (h : ∀ v, (check v).Telling) (v : Json) :
    (checkOptional check v).Telling := by
  unfold checkOptional
  split
  · exact telling_good _
  · exact (h _).map _

theorem telling_checkWord (read : String → Option α) (v : Json) : (checkWord read v).Telling := by
  unfold checkWord
  split
  · split
    · exact telling_good _
    · exact telling_one _
  · exact telling_one _

theorem telling_checkBool (v : Json) : (checkBool v).Telling := by
  unfold checkBool
  split
  · exact telling_good _
  · split_ifs <;> first | exact telling_good _ | exact telling_one _
  · split_ifs <;> first | exact telling_good _ | exact telling_one _
  · dsimp only
    split_ifs <;> first | exact telling_good _ | exact telling_one _
  · exact telling_one _

end HookPolicy
