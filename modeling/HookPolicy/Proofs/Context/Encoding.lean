import HookPolicy.Proofs.Context.Export
import HookPolicy.Proofs.Context.Wire
import HookPolicy.Proofs.Json.Spelling

/-!
# What a handler can read

A handler is told of its operation by variables. The documents among them are read as what the
context holds: its parameters and its wire form, with everything inside.
-/

namespace HookPolicy.Context

open Fields Json

variable {c : Context} {s : Setting} {fields : Fields} {v : Json}

/-! ## Inside the wire form -/

theorem finite_ofOption (t : Option String) : (Json.ofOption t).finite = .ofOption t := by
  cases t <;> rfl

theorem finite_ofInt (n : Option Int) : (ofInt n).finite = ofInt n := by
  cases n <;> rfl

theorem finite_ofBool (b : Option Bool) : (ofBool b).finite = ofBool b := by
  cases b <;> rfl

theorem map_snd_wireFields (c : Context) :
    c.wireFields.map Prod.snd = (finiteFields (c.declared ++ c.extras)).map Prod.snd := by
  have hstring : ∀ t, (Json.string t).finite = .string t := fun _ => rfl
  simp [wireFields_eq, finiteFields_eq, wireHead, declared, finite_ofOption, finite_ofInt,
    finite_ofBool, hstring]

/-- What is inside the wire form, but for the form itself, comes from what the context holds. -/
theorem inside_wire (h : Inside v c.wire) :
    v = c.wire ∨ ∃ f ∈ c.declared ++ c.extras, ∃ u, Inside u f.2 ∧ v = u.finite := by
  rcases inside_object.1 h with rfl | ⟨g, hg, hin⟩
  · exact .inl rfl
  · have hvalue : g.2 ∈ (finiteFields (c.declared ++ c.extras)).map Prod.snd :=
      map_snd_wireFields c ▸ List.mem_map_of_mem hg
    rw [finiteFields_eq, List.map_map] at hvalue
    obtain ⟨f, hf, heq⟩ := List.mem_map.1 hvalue
    have hin : Inside v f.2.finite := by
      rw [← heq] at hin
      exact hin
    exact .inr ⟨f, hf, hin.of_finite⟩

/-- The objects among the fields are those of the parameters. -/
theorem inside_declared {f : String × Json} {inner : Fields} (hf : f ∈ c.declared)
    (h : Inside (.object inner) f.2) :
    ∃ p, c.params = some p ∧ Inside (.object inner) (.object p) := by
  have htext : ∀ t, ¬ Inside (.object inner) (Json.ofOption t) := by
    intro t ht
    cases t <;> cases ht
  simp only [declared, List.mem_cons, List.not_mem_nil, or_false] at hf
  rcases hf with rfl | rfl | rfl | rfl | rfl | rfl | rfl | rfl | rfl | rfl | rfl
  · cases h
  · exact absurd h (htext _)
  · exact absurd h (htext _)
  · exact absurd h (htext _)
  · exact absurd h (htext _)
  · exact absurd h (htext _)
  · cases hn : c.exitCode <;> rw [hn] at h <;> cases h
  · cases hb : c.success <;> rw [hb] at h <;> cases h
  · cases h
  · exact absurd h (htext _)
  · cases hp : c.params with
    | none =>
      rw [hp] at h
      cases h
    | some p =>
      rw [hp] at h
      exact ⟨p, rfl, h⟩

/-! ## What is inside a checked context -/

theorem inside_of_check (h : check s fields = .good c) {f : String × Json} {inner : Fields}
    (hf : f ∈ c.declared ++ c.extras) (hin : Inside (.object inner) f.2) :
    Inside (.object inner) (.object fields) := by
  obtain ⟨-, hparams, hextras⟩ := of_check h
  rcases List.mem_append.1 hf with hf | hf
  · obtain ⟨p, hp, hin⟩ := inside_declared hf hin
    rw [hp] at hparams
    rcases checkField_eq_good hparams with heq | ⟨g, hg, hcheck⟩
    · cases heq
    · obtain ⟨name, v⟩ := g
      have hv : v = .object p := by
        cases v <;> cases hcheck
        rfl
      exact .field hg (hv ▸ hin)
  · rw [hextras] at hf
    exact .field (List.mem_of_mem_filter hf) hin

variable (hfields : ∀ inner, Inside (.object inner) (.object fields) → Keyed inner)

include hfields in
theorem keyed_wireFields (h : check s fields = .good c) : Keyed c.wireFields := by
  obtain ⟨-, -, hextras⟩ := of_check h
  have hkeyed : Keyed c.extras := by
    rw [hextras]
    exact (hfields _ .self).of_sublist List.filter_sublist
  rw [Keyed, wireFields_eq, List.map_append, map_fst_wireHead, map_fst_finiteFields]
  refine List.nodup_append.2 ⟨by decide, hkeyed, ?_⟩
  rintro name hname other hother rfl
  obtain ⟨p, hp, rfl⟩ := List.mem_map.1 hname
  rw [hextras] at hother
  exact notMem_extrasOf hp fields hother

include hfields in
theorem readable_wire (h : check s fields = .good c)
    (hints : ∀ n, Inside (.int n) c.record → n.natAbs < 10 ^ digitLimit) : Readable c.wire where
  ints n hn := by
    rcases inside_wire hn with heq | ⟨f, hf, u, hu, heq⟩
    · cases heq
    · exact hints n (.field hf (int_of_finite heq.symm ▸ hu))
  keyed inner hinner := by
    rcases inside_wire hinner with heq | ⟨f, hf, u, hu, heq⟩
    · cases heq
      exact keyed_wireFields hfields h
    · obtain ⟨given, rfl, rfl⟩ := object_of_finite heq.symm
      rw [Keyed, map_fst_finiteFields]
      exact hfields given (inside_of_check h hf hu)

theorem mem_declared_params {p : Fields} (h : c.params = some p) :
    ("params", Json.object p) ∈ c.declared ++ c.extras := by
  simp [declared, h, ofFields]

include hfields in
theorem readable_params (h : check s fields = .good c)
    (hints : ∀ n, Inside (.int n) c.record → n.natAbs < 10 ^ digitLimit) {p : Fields}
    (hp : c.params = some p) : Readable (.object p) where
  ints n hn := hints n (.field (mem_declared_params hp) hn)
  keyed inner hinner := hfields inner (inside_of_check h (mem_declared_params hp) hinner)

theorem nesting_params_le {p : Fields} (hp : c.params = some p) :
    (Json.object p).nesting ≤ c.wire.nesting := by
  have hmem : ("params", (Json.object p).finite) ∈ c.wireFields := by
    simp [wireFields_eq, wireHead, hp, ofFields]
  have hle := nesting_le_of_mem hmem
  rw [nesting_finite] at hle
  exact hle.trans (Nat.le_succ _)

/-! ## What is read -/

end HookPolicy.Context
