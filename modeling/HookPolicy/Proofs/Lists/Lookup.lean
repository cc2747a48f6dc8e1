import Mathlib.Data.List.Nodup

/-!
# Looking up in lists of pairs

Where no name stands twice, what is found under a name is what stands there. The other facts say what
is found once pairs are changed, taken away, put in their place, or laid over others.
-/

namespace HookPolicy

section

variable {α β γ : Type} [BEq α] [LawfulBEq α]

theorem mem_of_lookup_eq_some {l : List (α × β)} {a : α} {b : β} (h : l.lookup a = some b) :
    (a, b) ∈ l := by
  obtain ⟨before, behind, rfl, -⟩ := List.lookup_eq_some_iff.1 h
  exact List.mem_append_right before List.mem_cons_self

theorem lookup_eq_some_iff_mem {l : List (α × β)} (h : (l.map Prod.fst).Nodup) {a : α} {b : β} :
    l.lookup a = some b ↔ (a, b) ∈ l := by
  refine ⟨mem_of_lookup_eq_some, fun hmem => ?_⟩
  obtain ⟨before, behind, rfl⟩ := List.append_of_mem hmem
  rw [List.map_append, List.map_cons, List.nodup_append] at h
  refine List.lookup_eq_some_iff.2 ⟨before, behind, rfl, fun p hp => ?_⟩
  have hne : p.1 ≠ a := h.2.2 p.1 (List.mem_map_of_mem hp) a List.mem_cons_self
  exact bne_iff_ne.2 hne.symm

theorem lookup_map_values (g : α → β → γ) (l : List (α × β)) (a : α) :
    (l.map fun p => (p.1, g p.1 p.2)).lookup a = (l.lookup a).map (g a) := by
  induction l with
  | nil => rfl
  | cons p l ih =>
    obtain ⟨key, v⟩ := p
    rw [List.map_cons, List.lookup_cons, List.lookup_cons, ih]
    by_cases hkey : a = key
    · rw [hkey, beq_self_eq_true]
      rfl
    · rw [beq_eq_false_iff_ne.2 hkey]

end

variable {β : Type}

theorem lookup_filter_key (p : String → Bool) (l : List (String × β)) (name : String) :
    (l.filter fun x => p x.1).lookup name = if p name then l.lookup name else none := by
  induction l with
  | nil => simp
  | cons x l ih =>
    obtain ⟨key, v⟩ := x
    rw [List.filter_cons, List.lookup_cons]
    by_cases hname : name = key
    · subst hname
      cases hp : p name <;> simp [hp, ih]
    · cases hp : p key <;> simp [List.lookup_cons, ih, beq_eq_false_iff_ne.2 hname]

theorem lookup_filter_ne (l : List (String × β)) (key name : String) :
    (l.filter (·.1 != key)).lookup name = if key = name then none else l.lookup name := by
  rw [lookup_filter_key (· != key)]
  by_cases hkey : key = name
  · simp [hkey]
  · simp [hkey, Ne.symm hkey]

theorem lookup_replace (l : List (String × β)) (key : String) (v : β) (name : String) :
    (l.filter (·.1 != key) ++ [(key, v)]).lookup name =
      if key = name then some v else l.lookup name := by
  rw [List.lookup_append, lookup_filter_ne, List.lookup_cons, List.lookup_nil]
  by_cases hkey : key = name
  · simp [hkey]
  · simp [hkey, beq_eq_false_iff_ne.2 (Ne.symm hkey)]

theorem lookup_eq_none_iff_notMem {l : List (String × β)} {name : String} :
    l.lookup name = none ↔ name ∉ l.map Prod.fst := by
  rw [List.lookup_eq_none_iff, List.mem_map]
  simp only [bne_iff_ne, ne_eq, not_exists, not_and]
  exact forall₂_congr fun _ _ => not_congr eq_comm

section

variable {α : Type} {names : List α} {key : α → String} {f g : α → Option (String × β)}

theorem map_fst_filterMap_sublist (hf : ∀ p x, f p = some x → x.1 = key p) (names : List α) :
    ((names.filterMap f).map Prod.fst).Sublist (names.map key) := by
  induction names with
  | nil => exact List.Sublist.refl _
  | cons p names ih =>
    cases hp : f p with
    | none =>
      rw [List.filterMap_cons_none hp]
      exact ih.cons _
    | some x =>
      rw [List.filterMap_cons_some hp, List.map_cons, List.map_cons, hf p x hp]
      exact ih.cons_cons _

theorem lookup_filterMap (hnames : (names.map key).Nodup)
    (hf : ∀ p x, f p = some x → x.1 = key p) (name : String) :
    (names.filterMap f).lookup name =
      (names.find? (key · = name)).bind fun p => (f p).map Prod.snd := by
  induction names with
  | nil => rfl
  | cons p names ih =>
    rw [List.map_cons, List.nodup_cons] at hnames
    have hrest := ih hnames.2
    by_cases hname : key p = name
    · rw [List.find?_cons_of_pos (by simpa using hname), Option.bind_some]
      cases hp : f p with
      | none =>
        have hbehind : names.find? (key · = name) = none := by
          simp only [List.find?_eq_none, decide_eq_true_eq]
          rintro q hq rfl
          exact hnames.1 (hname ▸ List.mem_map_of_mem hq)
        rw [List.filterMap_cons_none hp, hrest, hbehind]
        rfl
      | some x =>
        rw [List.filterMap_cons_some hp, List.lookup_cons, hf p x hp, hname, beq_self_eq_true]
        rfl
    · rw [List.find?_cons_of_neg (by simpa using hname)]
      cases hp : f p with
      | none => rw [List.filterMap_cons_none hp, hrest]
      | some x =>
        rw [List.filterMap_cons_some hp, List.lookup_cons, hf p x hp,
          beq_eq_false_iff_ne.2 (Ne.symm hname), hrest]

theorem lookup_filterMap_of_mem (hnames : (names.map key).Nodup)
    (hf : ∀ p x, f p = some x → x.1 = key p) {p : α} (hp : p ∈ names) :
    (names.filterMap f).lookup (key p) = (f p).map Prod.snd := by
  rw [lookup_filterMap hnames hf]
  cases hfind : names.find? (key · = key p) with
  | none => exact absurd (List.find?_eq_none.1 hfind p hp) (by simp)
  | some q =>
    have hq : key q = key p := by simpa using List.find?_some hfind
    rw [List.inj_on_of_nodup_map hnames (List.mem_of_find?_eq_some hfind) hp hq, Option.bind_some]

theorem lookup_filterMap_or (hnames : (names.map key).Nodup)
    (hf : ∀ p x, f p = some x → x.1 = key p) (hg : ∀ p x, g p = some x → x.1 = key p)
    (name : String) :
    (names.filterMap fun p => (f p).or (g p)).lookup name =
      ((names.filterMap f).lookup name).or ((names.filterMap g).lookup name) := by
  have hor : ∀ p x, (f p).or (g p) = some x → x.1 = key p := by
    intro p x h
    rcases Option.or_eq_some_iff.1 h with h | ⟨-, h⟩
    · exact hf p x h
    · exact hg p x h
  rw [lookup_filterMap hnames hor, lookup_filterMap hnames hf, lookup_filterMap hnames hg]
  cases names.find? (key · = name) with
  | none => rfl
  | some p => simp [Option.map_or]

end

end HookPolicy
