import HookPolicy.Proofs.Context.Coercion

/-!
# What the sources of a context give

Each source gives proper fields: under inner names, each once, and with values of their kind. Taking
over what is still missing gives every field the first value that some source has for it.
-/

namespace HookPolicy.Context

open Fields

variable {fields more out payload : Fields} {name : String}

/-! ## Inner names -/

theorem innerName_of_mem : ∀ p ∈ fieldNames, innerName p.2 = p.2 := by decide

theorem innerName_cases (name : String) :
    innerName name = name ∨ (name, innerName name) ∈ fieldNames := by
  cases hlookup : fieldNames.lookup name with
  | none => exact .inl (by rw [innerName, hlookup, Option.getD_none])
  | some inner =>
    obtain ⟨before, after, hnames, -⟩ := List.lookup_eq_some_iff.1 hlookup
    rw [innerName, hlookup, Option.getD_some, hnames]
    exact .inr (List.mem_append_right _ List.mem_cons_self)

theorem innerName_innerName (name : String) : innerName (innerName name) = innerName name := by
  rcases innerName_cases name with hself | hmem
  · rw [hself, hself]
  · exact innerName_of_mem _ hmem

/-- Fields as a source gives them. -/
structure Proper (fields : Fields) : Prop where
  keyed : Keyed fields
  named : ∀ f ∈ fields, innerName f.1 = f.1
  kinds : ∀ f ∈ fields, (kindOf f.1).Holds f.2

namespace Proper

theorem nil : Proper [] := ⟨keyed_nil, nofun, nofun⟩

theorem value_holds (h : Proper fields) (name : String) :
    (kindOf name).Holds (value fields name) := by
  by_cases hnull : value fields name = .null
  · rw [hnull]
    exact .null _
  · exact h.kinds _ (value_mem hnull)

theorem set {v : Json} (h : Proper fields) (hname : innerName name = name)
    (hkind : (kindOf name).Holds v) : Proper (fields.set name v) where
  keyed := h.keyed.set name v
  named f hf := by
    rcases mem_set hf with rfl | hmem
    · exact hname
    · exact h.named f hmem
  kinds f hf := by
    rcases mem_set hf with rfl | hmem
    · exact hkind
    · exact h.kinds f hmem

theorem of_coerceAll (h : coerceAll fields = .ok out) (hkeyed : Keyed fields)
    (hnamed : ∀ f ∈ fields, innerName f.1 = f.1) : Proper out where
  keyed := by
    rw [Keyed, map_fst_coerceAll h]
    exact hkeyed
  named g hg := by
    have hmem : g.1 ∈ fields.map Prod.fst := by
      rw [← map_fst_coerceAll h]
      exact List.mem_map_of_mem hg
    obtain ⟨f, hf, hfg⟩ := List.mem_map.1 hmem
    rw [← hfg]
    exact hnamed f hf
  kinds := by
    have hall := coerceAll_eq_ok h
    clear h hkeyed hnamed
    induction hall with
    | nil =>
      intro g hg
      cases hg
    | cons hfg _ ih =>
      intro g hg
      rcases List.mem_cons.1 hg with rfl | hrest
      · rw [hfg.1]
        exact coerce_holds hfg.2
      · exact ih g hrest

end Proper

theorem get?_coerceAll (h : coerceAll fields = .ok out) (name : String) :
    (get? fields name = none ∧ get? out name = none) ∨
      ∃ v w, get? fields name = some v ∧ get? out name = some w ∧ coerce name v = .ok w := by
  have hall := coerceAll_eq_ok h
  clear h
  induction hall with
  | nil => exact .inl ⟨rfl, rfl⟩
  | @cons f g fields out hfg _ ih =>
    rw [get?_cons, get?_cons, hfg.1]
    by_cases hname : f.1 = name
    · subst hname
      rw [if_pos rfl, if_pos rfl]
      exact .inr ⟨f.2, g.2, rfl, rfl, hfg.2⟩
    · rw [if_neg hname, if_neg hname]
      exact ih

theorem coerce_value (h : coerceAll fields = .ok out) (name : String) :
    coerce name (value fields name) = .ok (value out name) := by
  rcases get?_coerceAll h name with ⟨hnone, hnone'⟩ | ⟨v, w, hv, hw, hvw⟩
  · rw [value, value, hnone, hnone']
    rfl
  · rw [value_eq_of_get? hv, value_eq_of_get? hw]
    exact hvw

/-! ## Filling in -/

theorem fillIn_cons (fields : Fields) (f : String × Json) (more : Fields) :
    fillIn fields (f :: more) =
      fillIn (if (value fields f.1).isNull then fields.set f.1 f.2 else fields) more := rfl

theorem value_fill (fields : Fields) (f : String × Json) (name : String) :
    value (if (value fields f.1).isNull then fields.set f.1 f.2 else fields) name =
      if f.1 = name then firstGiven [value fields name, f.2] else value fields name := by
  rw [firstGiven_pair]
  by_cases hname : f.1 = name
  · subst hname
    rw [if_pos rfl]
    split
    · rw [value_set, if_pos rfl]
    · rfl
  · rw [if_neg hname]
    split
    · rw [value_set, if_neg hname]
    · rfl

theorem value_fillIn (hmore : Keyed more) (fields : Fields) (name : String) :
    value (fillIn fields more) name = firstGiven [value fields name, value more name] := by
  induction more generalizing fields with
  | nil => exact (firstGiven_pair_null _).symm
  | cons f more ih =>
    obtain ⟨hfresh, hrest⟩ := keyed_cons.1 hmore
    -- what has been filled once is not filled again, as no name comes back
    rw [fillIn_cons, ih hrest, value_fill, value_cons]
    by_cases hname : f.1 = name
    · subst hname
      rw [value_eq_null_of_notMem hfresh, if_pos rfl, if_pos rfl, firstGiven_pair_null]
    · rw [if_neg hname, if_neg hname]

theorem keyed_fillIn (h : Keyed fields) (more : Fields) : Keyed (fillIn fields more) := by
  induction more generalizing fields with
  | nil => exact h
  | cons f more ih =>
    rw [fillIn_cons]
    split
    · exact ih (h.set f.1 f.2)
    · exact ih h

theorem mem_fillIn {g : String × Json} (h : g ∈ fillIn fields more) : g ∈ fields ∨ g ∈ more := by
  induction more generalizing fields with
  | nil => exact .inl h
  | cons f more ih =>
    rw [fillIn_cons] at h
    rcases ih h with hmem | hmem
    · split at hmem
      · rcases mem_set hmem with rfl | hg
        · exact .inr List.mem_cons_self
        · exact .inl hg
      · exact .inl hmem
    · exact .inr (List.mem_cons_of_mem _ hmem)

theorem get?_fillIn_of_notMem (fields : Fields) (h : name ∉ more.map Prod.fst) :
    get? (fillIn fields more) name = get? fields name := by
  induction more generalizing fields with
  | nil => rfl
  | cons f more ih =>
    rw [List.map_cons, List.mem_cons, not_or] at h
    rw [fillIn_cons, ih _ h.2]
    split
    · rw [get?_set, if_neg (Ne.symm h.1)]
    · rfl

theorem mem_map_fst_fillIn (h : name ∈ fields.map Prod.fst) (more : Fields) :
    name ∈ (fillIn fields more).map Prod.fst := by
  induction more generalizing fields with
  | nil => exact h
  | cons f more ih =>
    rw [fillIn_cons]
    apply ih
    split
    · rw [map_fst_set]
      split
      · exact h
      · exact List.mem_append_left _ h
    · exact h

/-! ## Merging -/

theorem merge_eq_fillIn (fields more : Fields) :
    merge fields more = fillIn fields (more.filter fun f => !f.2.isNull) := by
  induction more generalizing fields with
  | nil => rfl
  | cons f more ih =>
    have hstep : merge fields (f :: more) =
        merge (if (value fields f.1).isNull && !f.2.isNull then fields.set f.1 f.2 else fields)
          more := rfl
    rw [hstep, ih, List.filter_cons]
    cases hnull : f.2.isNull with
    | true => simp
    | false =>
      simp only [Bool.not_false, Bool.and_true, if_true]
      rw [fillIn_cons]

theorem value_filter_given (h : Keyed fields) (name : String) :
    value (fields.filter fun f => !f.2.isNull) name = value fields name := by
  induction fields with
  | nil => rfl
  | cons f fields ih =>
    obtain ⟨hfresh, hrest⟩ := keyed_cons.1 h
    rw [List.filter_cons, value_cons]
    cases hnull : f.2.isNull with
    | false =>
      rw [Bool.not_false, if_pos rfl, value_cons, ih hrest]
    | true =>
      rw [Bool.not_true, if_neg Bool.false_ne_true, ih hrest]
      by_cases hname : f.1 = name
      · subst hname
        rw [if_pos rfl, value_eq_null_of_notMem hfresh, Json.isNull_iff.1 hnull]
      · rw [if_neg hname]

theorem value_merge (hmore : Keyed more) (fields : Fields) (name : String) :
    value (merge fields more) name = firstGiven [value fields name, value more name] := by
  rw [merge_eq_fillIn, value_fillIn (hmore.of_sublist List.filter_sublist),
    value_filter_given hmore]

theorem mem_merge {g : String × Json} (h : g ∈ merge fields more) :
    g ∈ fields ∨ g ∈ more ∧ g.2 ≠ .null := by
  rw [merge_eq_fillIn] at h
  refine (mem_fillIn h).imp_right fun hmem => ?_
  obtain ⟨hg, hnull⟩ := List.mem_filter.1 hmem
  refine ⟨hg, fun heq => ?_⟩
  rw [heq] at hnull
  cases hnull

theorem Proper.merge (h : Proper fields) (hmore : Proper more) : Proper (merge fields more) where
  keyed := by
    rw [merge_eq_fillIn]
    exact keyed_fillIn h.keyed _
  named f hf := (mem_merge hf).elim (h.named f) fun hmem => hmore.named f hmem.1
  kinds f hf := (mem_merge hf).elim (h.kinds f) fun hmem => hmore.kinds f hmem.1

/-! ## Documents -/

/-- The fields of a document under their inner names. -/
def renamed (payload : Fields) : Fields := ofPairs (payload.map fun f => (innerName f.1, f.2))

/-- The value that a document gives a field, directly or in the host's own way. -/
def givenBy (payload : Fields) (name : String) : Json :=
  firstGiven [value (renamed payload) name, value (hostFields payload) name]

def hostNames : List String :=
  ["tool", "command", "path", "content", "params", "session_id", "exit_code", "success"]

theorem map_fst_hostFields (payload : Fields) :
    ((hostFields payload).map Prod.fst).Sublist hostNames := by
  have hone : ∀ (c : Bool) (name : String) (v : Json),
      ((if c then [(name, v)] else []).map Prod.fst).Sublist [name] := by
    intro c name v
    cases c with
    | true => exact List.Sublist.refl _
    | false => exact List.nil_sublist _
  have hnotNull : ∀ (name : String) (v : Json),
      ((if v.isNull then [] else [(name, v)]).map Prod.fst).Sublist [name] := by
    intro name v
    cases v.isNull with
    | true => exact List.nil_sublist _
    | false => exact List.Sublist.refl _
  have hnames : hostNames = ["tool"] ++ (["command"] ++ ["path"] ++ ["content"] ++ ["params"]) ++
      ["session_id"] ++ ["exit_code", "success"] := rfl
  rw [hnames, hostFields]
  simp only [List.map_append]
  refine (((hone _ _ _).append ?_).append (hone _ _ _)).append ?_
  · split
    · simp only [List.map_append]
      refine ((List.Sublist.append ?_ ?_).append (hnotNull _ _)).append (List.Sublist.refl _)
      · split
        · exact List.Sublist.refl _
        · exact List.nil_sublist _
      · split
        · exact List.Sublist.refl _
        · exact List.nil_sublist _
    · exact List.nil_sublist _
  · split
    · rename_i response hresponse
      rw [List.filterMap_cons, List.filterMap_cons, List.filterMap_nil]
      cases get? response "exit_code" <;> cases get? response "success" <;> simp
    · exact List.nil_sublist _

theorem keyed_hostFields (payload : Fields) : Keyed (hostFields payload) :=
  List.Nodup.sublist (map_fst_hostFields payload) (by decide)

theorem mem_hostNames {f : String × Json} (h : f ∈ hostFields payload) : f.1 ∈ hostNames :=
  (map_fst_hostFields payload).subset (List.mem_map_of_mem h)

theorem innerName_of_mem_hostNames : ∀ name ∈ hostNames, innerName name = name := by decide

def uncoerced (payload : Fields) : Fields :=
  ((fillIn (renamed payload) (hostFields payload)).erase "source").erase "timestamp"

theorem payloadFields_eq (payload : Fields) :
    payloadFields payload = coerceAll (uncoerced payload) := rfl

theorem get?_uncoerced (payload : Fields) (name : String) :
    get? (uncoerced payload) name = if name = "source" ∨ name = "timestamp" then none
      else get? (fillIn (renamed payload) (hostFields payload)) name := by
  rw [uncoerced, get?_erase, get?_erase]
  by_cases hsource : name = "source" <;> by_cases htime : name = "timestamp" <;>
    simp [hsource, htime]

theorem keyed_uncoerced (payload : Fields) : Keyed (uncoerced payload) :=
  (keyed_fillIn (keyed_ofPairs _) _).of_sublist (List.filter_sublist.trans List.filter_sublist)

theorem value_uncoerced (payload : Fields) {name : String} (hsource : name ≠ "source")
    (htime : name ≠ "timestamp") : value (uncoerced payload) name = givenBy payload name := by
  rw [value, get?_uncoerced, if_neg (not_or.2 ⟨hsource, htime⟩)]
  exact value_fillIn (keyed_hostFields payload) _ _

theorem named_uncoerced {f : String × Json} (h : f ∈ uncoerced payload) :
    innerName f.1 = f.1 := by
  have hmem : f ∈ fillIn (renamed payload) (hostFields payload) :=
    List.mem_of_mem_filter (List.mem_of_mem_filter h)
  rcases mem_fillIn hmem with hrenamed | hhost
  · obtain ⟨g, -, rfl⟩ := List.mem_map.1 (mem_ofPairs hrenamed)
    exact innerName_innerName g.1
  · exact innerName_of_mem_hostNames f.1 (mem_hostNames hhost)

theorem payloadFields_eq_error_iff {e : ReadFault} :
    payloadFields payload = .error e ↔
      e = .infiniteNumber ∧ IsInfinite (givenBy payload "exit_code") := by
  rw [payloadFields_eq, coerceAll_eq_error_iff,
    ← value_uncoerced payload (by decide : "exit_code" ≠ "source") (by decide)]
  refine and_congr_right fun _ => ⟨?_, ?_⟩
  · rintro ⟨v, hmem, hinf⟩
    rwa [value_eq_of_get? ((keyed_uncoerced payload).get?_eq_some_iff.2 hmem)]
  · intro hinf
    have hne : value (uncoerced payload) "exit_code" ≠ .null := by
      obtain ⟨negative, hv⟩ := hinf
      rw [hv]
      nofun
    exact ⟨_, value_mem hne, hinf⟩

/-- Fields that are read from a document: each is what the document gives it, coerced. The document
gives neither source nor clock. -/
structure Reads (payload fields : Fields) : Prop where
  proper : Proper fields
  source : get? fields "source" = none
  timestamp : get? fields "timestamp" = none
  value : ∀ name, name ≠ "source" → name ≠ "timestamp" →
    coerce name (givenBy payload name) = .ok (fields.value name)

theorem absent_of_coerceAll (h : coerceAll (uncoerced payload) = .ok fields)
    (hname : name = "source" ∨ name = "timestamp") : get? fields name = none := by
  rcases get?_coerceAll h name with ⟨-, hnone⟩ | ⟨v, w, hv, -, -⟩
  · exact hnone
  · rw [get?_uncoerced, if_pos hname] at hv
    cases hv

theorem reads_of_payloadFields (h : payloadFields payload = .ok fields) :
    Reads payload fields where
  proper := .of_coerceAll h (keyed_uncoerced payload) fun _ => named_uncoerced
  source := absent_of_coerceAll h (.inl rfl)
  timestamp := absent_of_coerceAll h (.inr rfl)
  value name hsource htime := by
    rw [← value_uncoerced payload hsource htime]
    exact coerce_value h name

end HookPolicy.Context
