import HookPolicy.Check.Basic
import Mathlib

/-!
# When a check is good

A check of several parts is good when all parts are, and its value is put together from theirs.
-/

namespace HookPolicy

namespace Checked

variable {α β : Type}

@[simp]
theorem map_eq_good {f : α → β} {a : Checked α} {b : β} :
    f <$> a = .good b ↔ ∃ x, a = .good x ∧ f x = b := by
  cases a with
  | good x => simp [Functor.map, map]
  | bad ds => simp [Functor.map, map]

@[simp]
theorem seq_eq_good {f : Checked (α → β)} {a : Checked α} {b : β} :
    f <*> a = .good b ↔ ∃ g, f = .good g ∧ ∃ x, a = .good x ∧ g x = b := by
  cases f <;> cases a <;> simp [Seq.seq, apply]

@[simp]
theorem under_eq_good {step : Step} {a : Checked α} {x : α} :
    a.under step = .good x ↔ a = .good x := by
  cases a <;> simp [under]

@[simp]
theorem one_ne_good {problem : Problem} {a : α} : (one problem : Checked α) ≠ .good a := nofun

end Checked

variable {α : Type} {check : Json → Checked α}

theorem defaulting_eq_good_iff {fields : Fields} {name : String} {default a : α} :
    defaulting fields name default check = .good a ↔
      (fields.get? name = none ∧ default = a) ∨
        ∃ v, fields.get? name = some v ∧ check v = .good a := by
  unfold defaulting
  cases fields.get? name <;> simp

theorem checkOptional_ofOption (s : Option String) :
    checkOptional checkText (.ofOption s) = .good s := by
  cases s <;> rfl

/-- What is checked item by item is read back item by item. -/
theorem checkItems_map {write : α → Json} (hread : ∀ a, check (write a) = .good a) (start : Nat)
    (items : List α) : checkItems check start (items.map write) = .good items := by
  induction items generalizing start with
  | nil => rfl
  | cons a items ih =>
    rw [List.map_cons, checkItems, hread, ih]
    rfl

theorem checkFields_map (write : α → Json) (hread : ∀ a, check (write a) = .good a)
    (fields : List (String × α)) :
    checkFields check (fields.map fun f => (f.1, write f.2)) = .good fields := by
  induction fields with
  | nil => rfl
  | cons f fields ih =>
    rw [List.map_cons, checkFields, hread, ih]
    rfl

end HookPolicy
