import HookPolicy.Policy.Dump
import HookPolicy.Proofs.Json.Fields

/-!
# What is inside a document

The values inside a document, how deep they stand, and what becomes of them when numbers that are
not finite are left out.
-/

namespace HookPolicy

namespace Json

/-- Induction over documents: an array follows from its items and an object from its fields. -/
@[elab_as_elim]
theorem inductionOn {motive : Json → Prop} (v : Json) (null : motive .null)
    (bool : ∀ b, motive (.bool b)) (int : ∀ n, motive (.int n)) (float : ∀ x, motive (.float x))
    (string : ∀ s, motive (.string s))
    (array : ∀ items : List Json, (∀ w ∈ items, motive w) → motive (.array items))
    (object : ∀ fields : Fields, (∀ f ∈ fields, motive f.2) → motive (.object fields)) :
    motive v := by
  refine @Json.rec motive (fun items => ∀ w ∈ items, motive w)
    (fun fields => ∀ f ∈ fields, motive f.2) (fun f => motive f.2) null bool int float string array
    object nofun ?_ nofun ?_ (fun _ _ h => h) v
  · intro w items hw hitems u hu
    rcases List.mem_cons.1 hu with rfl | hu
    · exact hw
    · exact hitems u hu
  · intro f fields hf hfields g hg
    rcases List.mem_cons.1 hg with rfl | hg
    · exact hf
    · exact hfields g hg

/-- The value is the document or stands in it, at any depth. -/
inductive Inside (v : Json) : Json → Prop
  | self : Inside v v
  | item {items : List Json} {w : Json} : w ∈ items → Inside v w → Inside v (.array items)
  | field {fields : Fields} {f : String × Json} :
    f ∈ fields → Inside v f.2 → Inside v (.object fields)

variable {v w : Json} {items : List Json} {fields : Fields}

theorem Inside.trans {u : Json} (h : Inside u v) (hv : Inside v w) : Inside u w := by
  induction hv with
  | self => exact h
  | item hmem _ ih => exact .item hmem ih
  | field hmem _ ih => exact .field hmem ih

@[simp]
theorem inside_leaf (harray : ∀ items, w ≠ .array items) (hobject : ∀ fields, w ≠ .object fields) :
    Inside v w ↔ v = w := by
  refine ⟨fun hin => ?_, fun heq => heq ▸ .self⟩
  cases hin with
  | self => rfl
  | item => exact absurd rfl (harray _)
  | field => exact absurd rfl (hobject _)

theorem inside_array : Inside v (.array items) ↔ v = .array items ∨ ∃ w ∈ items, Inside v w := by
  constructor
  · rintro (_ | ⟨hmem, hin⟩)
    · exact .inl rfl
    · exact .inr ⟨_, hmem, hin⟩
  · rintro (rfl | ⟨w, hmem, hin⟩)
    · exact .self
    · exact .item hmem hin

theorem inside_object :
    Inside v (.object fields) ↔ v = .object fields ∨ ∃ f ∈ fields, Inside v f.2 := by
  constructor
  · rintro (_ | _ | ⟨hmem, hin⟩)
    · exact .inl rfl
    · exact .inr ⟨_, hmem, hin⟩
  · rintro (rfl | ⟨f, hmem, hin⟩)
    · exact .self
    · exact .field hmem hin

/-! ## Nesting -/

mutual

/-- How many arrays and objects stand around the innermost value, the outermost one included. -/
def nesting : Json → Nat
  | .array items => nestingItems items + 1
  | .object fields => nestingFields fields + 1
  | _ => 0

def nestingItems : List Json → Nat
  | [] => 0
  | v :: rest => max (nesting v) (nestingItems rest)

def nestingFields : List (String × Json) → Nat
  | [] => 0
  | (_, v) :: rest => max (nesting v) (nestingFields rest)

end

theorem nesting_le_of_mem {f : String × Json} (h : f ∈ fields) :
    f.2.nesting ≤ nestingFields fields := by
  induction fields with
  | nil => cases h
  | cons g fields ih =>
    rw [nestingFields]
    rcases List.mem_cons.1 h with rfl | h
    · exact Nat.le_max_left _ _
    · exact (ih h).trans (Nat.le_max_right _ _)

/-! ## Numbers that are not finite -/

theorem finiteItems_eq (items : List Json) : finiteItems items = items.map finite := by
  induction items with
  | nil => rfl
  | cons v items ih => rw [finiteItems, ih, List.map_cons]

end Json

open Json

variable {v w : Json} {items : List Json} {fields : Fields}

theorem finiteFields_eq (fields : Fields) :
    finiteFields fields = fields.map fun f => (f.1, f.2.finite) := by
  induction fields with
  | nil => rfl
  | cons f fields ih =>
    obtain ⟨name, v⟩ := f
    rw [finiteFields, ih, List.map_cons]

namespace Json

theorem finite_array (items : List Json) : (array items).finite = .array (items.map finite) := by
  rw [finite, finiteItems_eq]

theorem finite_object (fields : Fields) :
    (object fields).finite = .object (fields.map fun f => (f.1, f.2.finite)) := by
  rw [finite, finiteFields_eq]

theorem finite_float (x : Binary64) :
    (float x).finite = if x.isFinite then .float x else .null := by
  rw [finite]

theorem finite_eq_self (h : ∀ x, Inside (.float x) v → x.isFinite = true) : v.finite = v := by
  induction v using inductionOn with
  | null => rfl
  | bool => rfl
  | int => rfl
  | string => rfl
  | float x => rw [finite_float, if_pos (h x .self)]
  | array items ih =>
    rw [finite_array, List.map_congr_left fun w hw => ih w hw fun x hx => h x (.item hw hx),
      List.map_id']
  | object fields ih =>
    have hfields : ∀ f ∈ fields, (f.1, f.2.finite) = f := fun f hf => by
      rw [ih f hf fun x hx => h x (.field hf hx)]
    rw [finite_object, List.map_congr_left hfields, List.map_id']

theorem int_of_finite {n : Int} (h : v.finite = .int n) : v = .int n := by
  cases v with
  | float x =>
    rw [finite_float] at h
    split at h <;> cases h
  | int m => exact h
  | _ => cases h

theorem object_of_finite (h : v.finite = .object fields) :
    ∃ inner, v = .object inner ∧ fields = finiteFields inner := by
  cases v with
  | float x =>
    rw [finite_float] at h
    split at h <;> cases h
  | object inner =>
    cases h
    exact ⟨inner, rfl, rfl⟩
  | _ => cases h

theorem nesting_finite (v : Json) : v.finite.nesting = v.nesting := by
  induction v using inductionOn with
  | null => rfl
  | bool => rfl
  | int => rfl
  | string => rfl
  | float x =>
    rw [finite_float]
    split <;> rfl
  | array items ih =>
    have hitems : ∀ items : List Json, (∀ w ∈ items, w.finite.nesting = w.nesting) →
        nestingItems (items.map finite) = nestingItems items := by
      intro items
      induction items with
      | nil => exact fun _ => rfl
      | cons w items ihitems =>
        intro h
        rw [List.map_cons, nestingItems, nestingItems, h w List.mem_cons_self,
          ihitems fun u hu => h u (List.mem_cons_of_mem w hu)]
    rw [finite_array, nesting, nesting, hitems items ih]
  | object fields ih =>
    have hfields : ∀ fields : Fields, (∀ f ∈ fields, f.2.finite.nesting = f.2.nesting) →
        nestingFields (fields.map fun f => (f.1, f.2.finite)) = nestingFields fields := by
      intro fields
      induction fields with
      | nil => exact fun _ => rfl
      | cons f fields ihfields =>
        intro h
        rw [List.map_cons, nestingFields, nestingFields, h f List.mem_cons_self,
          ihfields fun g hg => h g (List.mem_cons_of_mem f hg)]
    rw [finite_object, nesting, nesting, hfields fields ih]

/-- What is left inside comes from what was there. -/
theorem Inside.of_finite (h : Inside v w.finite) : ∃ u, Inside u w ∧ v = u.finite := by
  induction w using inductionOn with
  | null =>
    cases h
    exact ⟨_, .self, rfl⟩
  | bool =>
    cases h
    exact ⟨_, .self, rfl⟩
  | int =>
    cases h
    exact ⟨_, .self, rfl⟩
  | string =>
    cases h
    exact ⟨_, .self, rfl⟩
  | float x =>
    refine ⟨_, .self, ?_⟩
    rw [finite_float] at h ⊢
    split at h <;> rename_i hx <;> cases h
    · rw [if_pos hx]
    · rw [if_neg hx]
  | array items ih =>
    rw [finite_array, inside_array] at h
    rcases h with rfl | ⟨w, hw, hin⟩
    · exact ⟨_, .self, (finite_array items).symm⟩
    · obtain ⟨w', hw', rfl⟩ := List.mem_map.1 hw
      obtain ⟨u, hu, rfl⟩ := ih w' hw' hin
      exact ⟨u, .item hw' hu, rfl⟩
  | object fields ih =>
    rw [finite_object, inside_object] at h
    rcases h with rfl | ⟨f, hf, hin⟩
    · exact ⟨_, .self, (finite_object fields).symm⟩
    · obtain ⟨f', hf', rfl⟩ := List.mem_map.1 hf
      obtain ⟨u, hu, rfl⟩ := ih f' hf' hin
      exact ⟨u, .field hf' hu, rfl⟩

theorem isFinite_of_inside_finite {x : Binary64} (h : Inside (.float x) v.finite) :
    x.isFinite = true := by
  obtain ⟨u, -, heq⟩ := h.of_finite
  cases u with
  | float y =>
    rw [finite_float] at heq
    split at heq
    · rename_i hy
      cases heq
      exact hy
    · cases heq
  | _ => cases heq

theorem finite_eq_self_iff : v.finite = v ↔ ∀ x, Inside (.float x) v → x.isFinite = true :=
  ⟨fun h _ hx => isFinite_of_inside_finite (h.symm ▸ hx), finite_eq_self⟩

end Json

end HookPolicy
