import HookPolicy.Json.Reader
import HookPolicy.Proofs.Json.Inside

/-!
# Objects that are read

An object of a text gives no name twice, however deep it stands: the reader keeps the last value of
each name.
-/

namespace HookPolicy.Json

open Fields

variable {fuel depth : Nat} {c c' : Cursor} {v : Json}

/-- No object inside the document gives a name twice. -/
def KeyedThroughout (v : Json) : Prop := ∀ fields, Inside (.object fields) v → Keyed fields

theorem keyedThroughout_of_leaf (harray : ∀ items, v ≠ .array items)
    (hobject : ∀ fields, v ≠ .object fields) : KeyedThroughout v := by
  intro fields hin
  rw [inside_leaf harray hobject] at hin
  exact absurd hin.symm (hobject fields)

theorem keyedThroughout_array {items : List Json} (h : ∀ w ∈ items, KeyedThroughout w) :
    KeyedThroughout (.array items) := by
  intro fields hin
  rcases inside_array.1 hin with heq | ⟨w, hw, hin⟩
  · cases heq
  · exact h w hw fields hin

theorem keyedThroughout_object {fields : Fields} (hkeyed : Keyed fields)
    (h : ∀ f ∈ fields, KeyedThroughout f.2) : KeyedThroughout (.object fields) := by
  intro inner hin
  rcases inside_object.1 hin with heq | ⟨f, hf, hin⟩
  · cases heq
    exact hkeyed
  · exact h f hf inner hin

theorem KeyedThroughout.keyed {fields : Fields} (h : KeyedThroughout (.object fields)) :
    Keyed fields :=
  h fields .self

theorem KeyedThroughout.of_get? {fields : Fields} {name : String}
    (h : KeyedThroughout (.object fields)) (hget : get? fields name = some v) :
    KeyedThroughout v :=
  fun inner hin => h inner (.field (mem_of_get? hget) hin)

/-! ## Words and numbers -/

theorem keyedThroughout_of_readWord (h : readWord c = some (v, c')) : KeyedThroughout v := by
  have hwords : ∀ w ∈ words, KeyedThroughout w.2 := by
    intro w hw
    simp only [words, List.mem_cons, List.not_mem_nil, or_false] at hw
    rcases hw with rfl | rfl | rfl | rfl | rfl | rfl <;> exact keyedThroughout_of_leaf nofun nofun
  obtain ⟨w, hw, hrest⟩ := List.exists_of_findSome?_eq_some h
  obtain ⟨rest, -, heq⟩ := Option.map_eq_some_iff.1 hrest
  cases heq
  exact hwords w hw

theorem keyedThroughout_of_readNumber (h : readNumber c = .ok (v, c')) : KeyedThroughout v := by
  unfold readNumber at h
  split at h
  · cases h
  · split at h
    · rename_i t rest htext w hw
      cases h
      unfold NumberText.value at hw
      split at hw
      · split at hw <;> cases hw
        exact keyedThroughout_of_leaf nofun nofun
      · cases hw
        exact keyedThroughout_of_leaf nofun nofun
    · cases h

/-! ## Arrays and objects -/

/-- What is read with the fuel gives no name twice. -/
def ReadsKeyed (fuel : Nat) : Prop :=
  ∀ {depth : Nat} {c c' : Cursor} {v : Json},
    readValue fuel depth c = .ok (v, c') → KeyedThroughout v

theorem keyedThroughout_of_readItems (hread : ∀ less < fuel, ReadsKeyed less) {items : List Json}
    (hitems : ∀ w ∈ items, KeyedThroughout w) (h : readItems fuel depth items c = .ok (v, c')) :
    KeyedThroughout v := by
  induction fuel generalizing items c with
  | zero => cases h
  | succ fuel ih =>
    rw [readItems] at h
    split at h
    · cases h
    · rename_i w next hvalue
      have hmore : ∀ u ∈ w :: items, KeyedThroughout u :=
        List.forall_mem_cons.2 ⟨hread fuel fuel.lt_succ_self hvalue, hitems⟩
      dsimp only at h
      split at h
      · cases h
        exact keyedThroughout_array fun u hu => hmore u (List.mem_reverse.1 hu)
      · exact ih (fun less hless => hread less (Nat.lt_succ_of_lt hless)) hmore h
      · cases h

theorem keyedThroughout_of_readFields (hread : ∀ less < fuel, ReadsKeyed less)
    {fields : List (String × Json)} (hfields : ∀ f ∈ fields, KeyedThroughout f.2)
    (h : readFields fuel depth fields c = .ok (v, c')) : KeyedThroughout v := by
  induction fuel generalizing fields c with
  | zero => cases h
  | succ fuel ih =>
    rw [readFields] at h
    split at h
    · split at h
      · cases h
      · rename_i name next hname
        dsimp only at h
        split at h
        · split at h
          · cases h
          · rename_i w behind hvalue
            have hmore : ∀ f ∈ (name, w) :: fields, KeyedThroughout f.2 :=
              List.forall_mem_cons.2 ⟨hread fuel fuel.lt_succ_self hvalue, hfields⟩
            split at h
            · cases h
              exact keyedThroughout_object (keyed_ofPairs _) fun f hf =>
                hmore f (List.mem_reverse.1 (mem_ofPairs hf))
            · exact ih (fun less hless => hread less (Nat.lt_succ_of_lt hless)) hmore h
            · cases h
        · cases h
    · cases h

theorem readsKeyed (fuel : Nat) : ReadsKeyed fuel := by
  induction fuel using Nat.strong_induction_on with
  | _ fuel ih =>
    intro depth c c' v h
    cases fuel with
    | zero => cases h
    | succ fuel =>
      have hless : ∀ less < fuel, ReadsKeyed less := fun less hlt => ih less (Nat.lt_succ_of_lt hlt)
      rw [readValue] at h
      -- a text, an object, an array, or a word or number
      split at h
      · split at h <;> cases h
        exact keyedThroughout_of_leaf nofun nofun
      · split at h
        · cases h
        · dsimp only at h
          split at h
          · cases h
            exact keyedThroughout_object keyed_nil (List.forall_mem_nil _)
          · exact keyedThroughout_of_readFields hless (List.forall_mem_nil _) h
      · split at h
        · cases h
        · dsimp only at h
          split at h
          · cases h
            exact keyedThroughout_array (List.forall_mem_nil _)
          · exact keyedThroughout_of_readItems hless (List.forall_mem_nil _) h
      · split at h
        · rename_i found hword
          cases h
          exact keyedThroughout_of_readWord hword
        · exact keyedThroughout_of_readNumber h

theorem keyedThroughout_of_readChars {cs : List Char} (h : readChars cs = .ok v) :
    KeyedThroughout v := by
  unfold readChars at h
  split at h
  · cases h
  · split at h
    · cases h
    · rename_i hvalue
      dsimp only at h
      split at h
      · cases h
        exact readsKeyed _ hvalue
      · cases h

/-- No object that is read gives a name twice. -/
theorem keyed_of_readChars {cs : List Char} {fields : Fields}
    (h : readChars cs = .ok (.object fields)) : Keyed fields :=
  (keyedThroughout_of_readChars h).keyed

end HookPolicy.Json
