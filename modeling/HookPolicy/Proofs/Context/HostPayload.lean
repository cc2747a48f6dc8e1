import HookPolicy.Proofs.Context.Input
import HookPolicy.Proofs.Context.Priority
import HookPolicy.Proofs.Json.Reading
import HookPolicy.Proofs.Rule.Scanning
import HookPolicy.Rule.Eval

/-!
# A document that is read and a document that is handed over

The host writes a document on standard input or hands it over itself. Nulls that the document gives
are dropped on the first way and kept on the second. No field and no path can tell the two contexts
apart, but a directory that is given as null makes the second way fail.
-/

namespace HookPolicy.Context

open Fields

variable {payload fields more : Fields} {name : String}

/-! ## Names of a document -/

theorem innerName_eq_iff (inner : String) (hself : innerName inner = inner)
    (hone : ∀ p ∈ fieldNames, p.2 = inner → p.1 = inner) (name : String) :
    innerName name = inner ↔ name = inner := by
  constructor
  · intro h
    rcases innerName_cases name with hname | hmem
    · rwa [hname] at h
    · exact hone _ hmem h
  · rintro rfl
    exact hself

theorem mem_renamed {v : Json} (h : get? (renamed payload) name = some v) :
    ∃ f ∈ payload, innerName f.1 = name ∧ f.2 = v := by
  obtain ⟨f, hf, heq⟩ := List.mem_map.1 (mem_ofPairs (mem_of_get? h))
  cases heq
  exact ⟨f, hf, rfl, rfl⟩

theorem mem_map_fst_renamed {f : String × Json} (h : f ∈ payload) :
    innerName f.1 ∈ (renamed payload).map Prod.fst := by
  by_contra hnot
  rw [← get?_eq_none_iff, renamed, get?_ofPairs, get?_eq_none_iff, List.map_reverse,
    List.mem_reverse, List.map_map] at hnot
  exact hnot (List.mem_map.2 ⟨f, h, rfl⟩)

theorem get?_renamed_cwd (h : Keyed payload) :
    get? (renamed payload) "cwd" = get? payload "cwd" := by
  have hcwd := innerName_eq_iff "cwd" (by decide) (by decide)
  cases hget : get? (renamed payload) "cwd" with
  | some v =>
    obtain ⟨f, hf, hname, rfl⟩ := mem_renamed hget
    rw [hcwd] at hname
    rw [h.get?_eq_some_iff.2 (show ("cwd", f.2) ∈ payload from hname ▸ hf)]
  | none =>
    symm
    rw [get?_eq_none_iff] at hget ⊢
    intro hmem
    obtain ⟨f, hf, hname⟩ := List.mem_map.1 hmem
    apply hget
    rw [← (hcwd f.1).2 hname]
    exact mem_map_fst_renamed hf

theorem get?_cwd_eq_null_iff (h : Keyed payload) (hread : payloadFields payload = .ok fields) :
    get? fields "cwd" = some .null ↔ get? payload "cwd" = some .null := by
  have huncoerced : get? (uncoerced payload) "cwd" = get? payload "cwd" := by
    rw [get?_uncoerced, if_neg (by decide), get?_fillIn_of_notMem, get?_renamed_cwd h]
    exact fun hmem => absurd ((map_fst_hostFields payload).subset hmem) (by decide)
  rw [payloadFields_eq] at hread
  rw [← huncoerced]
  rcases get?_coerceAll hread "cwd" with ⟨hnone, hnone'⟩ | ⟨v, w, hv, hw, hvw⟩
  · rw [hnone, hnone']
  · rw [hv, hw]
    by_cases hnull : v = .null
    · subst hnull
      cases hvw
      exact Iff.rfl
    · rw [coerce_of_ne_null hnull] at hvw
      cases hvw
      simp [hnull]

theorem ne_nil_of_payloadFields (hread : payloadFields payload = .ok fields)
    (hgiven : ∃ f ∈ payload, f.1 ≠ "source" ∧ f.1 ≠ "timestamp") : fields ≠ [] := by
  obtain ⟨f, hf, hsource, htime⟩ := hgiven
  have hsource' := mt (innerName_eq_iff "source" (by decide) (by decide) f.1).1 hsource
  have htime' := mt (innerName_eq_iff "timestamp" (by decide) (by decide) f.1).1 htime
  have hmem : innerName f.1 ∈ (uncoerced payload).map Prod.fst := by
    by_contra hnot
    rw [← get?_eq_none_iff, get?_uncoerced, if_neg (not_or.2 ⟨hsource', htime'⟩),
      get?_eq_none_iff] at hnot
    exact hnot (mem_map_fst_fillIn (mem_map_fst_renamed hf) _)
  rw [payloadFields_eq] at hread
  rw [← map_fst_coerceAll hread] at hmem
  rintro rfl
  cases hmem

/-! ## Contexts that differ in nulls only -/

theorem value_append_congr (fields : Fields) {more other : Fields}
    (h : value more name = value other name) :
    value (fields ++ more) name = value (fields ++ other) name := by
  rw [value, value, get?_append, get?_append]
  cases get? fields name with
  | none => exact h
  | some v => rfl

theorem value_finiteFields (fields : Fields) (name : String) :
    value (finiteFields fields) name = (value fields name).finite := by
  induction fields with
  | nil => rfl
  | cons f fields ih =>
    have hstep : finiteFields (f :: fields) = (f.1, f.2.finite) :: finiteFields fields := rfl
    rw [hstep, value_cons, value_cons, ih]
    split <;> rfl

/-- Contexts that hold the same but for extras that are null. -/
structure Alike (c d : Context) : Prop where
  fields : { d with extras := c.extras } = c
  extras : ∀ name, value c.extras name = value d.extras name

theorem Alike.field_wire {c d : Context} (h : Alike c d) (name : String) :
    c.wire.field name = d.wire.field name := by
  have hextras : value (finiteFields c.extras) name = value (finiteFields d.extras) name := by
    rw [value_finiteFields, value_finiteFields, h.extras]
  have hc : c.wire.field name = ({ d with extras := c.extras } : Context).wire.field name := by
    rw [h.fields]
  rw [hc]
  exact value_append_congr _ hextras

theorem resolve_congr {v w : Json} (h : ∀ name, v.field name = w.field name) (path : String) :
    Rule.resolve v path = Rule.resolve w path := by
  obtain ⟨first, more, hsplit, -⟩ := Rule.exists_splitAt_dot_eq path.toList
  rw [Rule.resolve, Rule.resolve, Rule.segments, hsplit, List.map_cons, List.foldl_cons,
    List.foldl_cons, h]

theorem Alike.resolve_wire {c d : Context} (h : Alike c d) (path : String) :
    Rule.resolve c.wire path = Rule.resolve d.wire path :=
  resolve_congr h.field_wire path

theorem Proper.alike (h : Proper fields) (hmore : Proper more)
    (hvalue : ∀ name, value fields name = value more name) (source : Option Source) (t : Timestamp)
    (cwd : String) : Alike (ofProper fields source t cwd) (ofProper more source t cwd) where
  fields := by simp only [ofProper, hvalue]
  extras name := by
    change value (extrasOf fields) name = value (extrasOf more) name
    rw [value, value, h.get?_extrasOf, hmore.get?_extrasOf]
    split
    · rfl
    · exact hvalue name

/-! ## The two ways -/

def fromStdin (fields : Fields) : Fields := fields.set "source" (.string "stdin")

theorem proper_fromStdin (h : Proper fields) : Proper (fromStdin fields) :=
  h.set (by decide : innerName "source" = "source") (.any _)

theorem get?_normal_source (fields : Fields) (processDir : String) :
    get? (normalFields processDir (fromStdin fields)) "source" =
      some (.ofOption ((some Source.stdin).map Source.word)) := by
  rw [get?_normalFields_of_notMem _ _ (by decide), fromStdin, get?_set, if_pos rfl]
  rfl

theorem get?_normal_other (fields : Fields) (name processDir : String) (hname : name ∉ normalNames)
    (hsource : "source" ≠ name) :
    get? (normalFields processDir (fromStdin fields)) name = get? fields name := by
  rw [get?_normalFields_of_notMem _ _ hname, fromStdin, get?_set, if_neg hsource]

theorem checkField_clock (h : get? fields "timestamp" = none) (s : Setting) :
    checkField (normalFields s.cwd (fromStdin fields)) "timestamp" "timestamp" s.now checkTime =
      .good s.now := by
  rw [checkField, givenKey_self, get?_normal_other _ _ _ (by decide) (by decide), h]

def ofStdin (s : Setting) (fields : Fields) : Context :=
  ofProper (normalFields s.cwd (fromStdin fields)) (some .stdin) s.now
    ((value fields "cwd").text?.getD s.cwd)

theorem check_ofStdin (h : Proper fields) (s : Setting) (htime : get? fields "timestamp" = none)
    (hcwd : get? fields "cwd" ≠ some .null) :
    check s (normalFields s.cwd (fromStdin fields)) = .good (ofStdin s fields) := by
  have hdir := get?_normal_other fields "cwd" s.cwd (by decide) (by decide)
  rw [((proper_fromStdin h).normalFields s.cwd).check_good
    (get?_normal_source fields s.cwd) (by rwa [hdir]) (checkField_clock htime s), value, hdir]
  rfl

theorem check_nullDir (h : Proper fields) (s : Setting) (htime : get? fields "timestamp" = none)
    (hcwd : get? fields "cwd" = some .null) :
    check s (normalFields s.cwd (fromStdin fields)) = .bad [⟨[.key "cwd"], .notText⟩] := by
  have hdir := get?_normal_other fields "cwd" s.cwd (by decide) (by decide)
  exact ((proper_fromStdin h).normalFields s.cwd).check_bad
    (get?_normal_source fields s.cwd) (by rw [hdir, hcwd]) (checkField_clock htime s)

theorem alike_ofStdin (h : Proper fields) (hmore : Proper more)
    (hvalue : ∀ name, value fields name = value more name) (s : Setting) :
    Alike (ofStdin s fields) (ofStdin s more) := by
  have hsourced : ∀ name, value (fromStdin fields) name = value (fromStdin more) name := by
    intro name
    rw [fromStdin, fromStdin, value_set, value_set, hvalue]
  have hnormal : ∀ name, value (normalFields s.cwd (fromStdin fields)) name =
      value (normalFields s.cwd (fromStdin more)) name := by
    intro name
    rw [value_normalFields, value_normalFields, dirOf, dirOf, hsourced, hsourced]
  rw [ofStdin, ofStdin, hvalue]
  exact ((proper_fromStdin h).normalFields s.cwd).alike
    ((proper_fromStdin hmore).normalFields s.cwd) hnormal _ _ _

theorem ofPayload_of_payloadFields (s : Setting) (hread : payloadFields payload = .ok fields) :
    ofPayload s "stdin" payload = accepted (check s (normalFields s.cwd (fromStdin fields))) := by
  rw [ofPayload, hread]
  rfl

/-- Only standard input says anything about the operation. -/
structure InputAlone (o : Origin) (text : String) : Prop where
  input : o.input = some (.text text)
  env : (o.env.lookup (variableName "TOOL")).getD "" = ""
  args : o.args = []
  cwd : o.cwd = none

theorem InputAlone.gather_eq {s : Setting} {o : Origin} {text : String} (h : InputAlone o text)
    (hread : stdinFields (.text text) o.wait = .ok (some fields)) (hsome : fields ≠ [])
    (hreads : Reads payload fields) :
    gather s o = .ok (ofStdin s (merge [] fields)) := by
  -- merging drops the nulls, so neither a clock nor a null directory is left
  have hmerged : mergedFields o = .ok (merge [] fields, some .stdin) := by
    obtain ⟨f, rest, rfl⟩ := List.exists_cons_of_ne_nil hsome
    unfold mergedFields
    simp only [takeEnv_eq, h.input, hread, h.env, h.args, Origin.envGiven]
    rfl
  have hcompleted : completed o (merge [] fields) (some .stdin) = fromStdin (merge [] fields) := by
    rw [completed, h.cwd]
    rfl
  have htime : get? (merge [] fields) "timestamp" = none := by
    rw [merge_eq_fillIn, get?_fillIn_of_notMem]
    · rfl
    · intro hmem
      apply get?_eq_none_iff.1 hreads.timestamp
      exact (List.filter_sublist.map Prod.fst).subset hmem
  have hcwd : get? (merge [] fields) "cwd" ≠ some .null := by
    intro hnull
    exact ne_null_of_merge_nil fields _ (mem_of_get? hnull) rfl
  rw [gather_of_mergedFields s hmerged, hcompleted,
    check_ofStdin (Proper.nil.merge hreads.proper) s htime hcwd]
  rfl

/-- A document that is read from standard input and the same document handed over give contexts that
no field and no path can tell apart, unless it gives null for the directory. Then the first way
takes the directory of the process, and the second way fails. -/
theorem gather_agrees_ofPayload {s : Setting} {o : Origin} {text : String} (h : InputAlone o text)
    (hdocument : document text = .ok (.object payload))
    (hread : stdinFields (.text text) o.wait = .ok (some fields))
    (hgiven : ∃ f ∈ payload, f.1 ≠ "source" ∧ f.1 ≠ "timestamp") :
    (get? payload "cwd" ≠ some .null → ∃ c d, gather s o = .ok c ∧
        ofPayload s "stdin" payload = .ok d ∧ { d with extras := c.extras } = c ∧
        ∀ path, Rule.resolve c.wire path = Rule.resolve d.wire path) ∧
      (get? payload "cwd" = some .null → (∃ c, gather s o = .ok c ∧ c.cwd = s.cwd) ∧
        ofPayload s "stdin" payload = .error (.invalid [⟨[.key "cwd"], .notText⟩])) := by
  obtain ⟨_, _, htext, hobject, hfields⟩ := payloadFields_of_stdinFields hread
  cases htext
  cases hdocument.symm.trans hobject
  have hreads := reads_of_payloadFields hfields
  have hmerged : Proper (merge [] fields) := Proper.nil.merge hreads.proper
  have hvalue : ∀ name, value (merge [] fields) name = value fields name := by
    intro name
    rw [value_merge hreads.proper.keyed]
    exact firstGiven_singleton _
  have hgather := h.gather_eq (s := s) hread (ne_nil_of_payloadFields hfields hgiven) hreads
  have hnull := get?_cwd_eq_null_iff (Json.keyed_of_readChars hdocument) hfields
  constructor
  · intro hcwd
    rw [ne_eq, ← hnull] at hcwd
    have halike := alike_ofStdin hmerged hreads.proper hvalue s
    refine ⟨_, ofStdin s fields, hgather, ?_, halike.fields, halike.resolve_wire⟩
    rw [ofPayload_of_payloadFields s hfields, check_ofStdin hreads.proper s hreads.timestamp hcwd]
    rfl
  · intro hcwd
    rw [← hnull] at hcwd
    refine ⟨⟨_, hgather, ?_⟩, ?_⟩
    · change (value (merge [] fields) "cwd").text?.getD s.cwd = s.cwd
      rw [hvalue, value, hcwd]
      rfl
    · rw [ofPayload_of_payloadFields s hfields,
        check_nullDir hreads.proper s hreads.timestamp hcwd]
      rfl

/-- A report of the host, with a null that only one of the two contexts keeps. -/
def handedText : String :=
  "\x7b\"tool_name\": \"bash\", \"tool_input\": \x7b\"command\": \"ls\"\x7d, " ++
    "\"cwd\": \"/work\", \"note\": null\x7d"

def handedInput : Json := .object [("command", .string "ls")]

def handedPayload : Fields :=
  [("tool_name", .string "bash"), ("tool_input", handedInput), ("cwd", .string "/work"),
   ("note", .null)]

def handedFields : Fields :=
  handedPayload ++ [("tool", .string "bash"), ("command", .string "ls"), ("params", handedInput)]

def inputOrigin (text : String) : Origin where
  input := some (.text text)
  wait := 5000
  env := []
  args := []
  cwd := none

theorem inputAlone_inputOrigin (text : String) : InputAlone (inputOrigin text) text :=
  ⟨rfl, rfl, rfl, rfl⟩

theorem document_handedText : document handedText = .ok (.object handedPayload) := by
  cbv

theorem stdinFields_handedText :
    stdinFields (.text handedText) 5000 = .ok (some handedFields) := by
  cbv

theorem gather_agrees_ofPayload_handed :
    InputAlone (inputOrigin handedText) handedText ∧
      document handedText = .ok (.object handedPayload) ∧
      stdinFields (.text handedText) 5000 = .ok (some handedFields) ∧
      get? handedPayload "cwd" ≠ some .null ∧
      ∃ c d, gather rootSetting (inputOrigin handedText) = .ok c ∧
        ofPayload rootSetting "stdin" handedPayload = .ok d ∧ { d with extras := c.extras } = c ∧
        Rule.resolve c.wire "params.command" = Rule.resolve d.wire "params.command" := by
  have halone := inputAlone_inputOrigin handedText
  have hgiven : ∃ f ∈ handedPayload, f.1 ≠ "source" ∧ f.1 ≠ "timestamp" :=
    ⟨_, List.mem_cons_self, by decide, by decide⟩
  have hcwd : get? handedPayload "cwd" ≠ some .null := by
    have hget : get? handedPayload "cwd" = some (.string "/work") := by cbv
    rw [hget]
    intro hnull
    cases hnull
  obtain ⟨hagree, -⟩ := gather_agrees_ofPayload (s := rootSetting) halone document_handedText
    stdinFields_handedText hgiven
  obtain ⟨c, d, hgather, hpayload, hfields, hresolve⟩ := hagree hcwd
  exact ⟨halone, document_handedText, stdinFields_handedText, hcwd, c, d, hgather, hpayload,
    hfields, hresolve _⟩

def nullText : String := "\x7b\"tool\": \"Bash\", \"cwd\": null\x7d"

def nullPayload : Fields := [("tool", .string "Bash"), ("cwd", .null)]

/-- A null for the directory is dropped on standard input, and refused when it is handed over. -/
theorem ofPayload_fails_on_null_directory :
    document nullText = .ok (.object nullPayload) ∧
      (∃ c, gather rootSetting (inputOrigin nullText) = .ok c ∧ c.cwd = "/") ∧
      ofPayload rootSetting "stdin" nullPayload =
        .error (.invalid [⟨[.key "cwd"], .notText⟩]) := by
  have hdocument : document nullText = .ok (.object nullPayload) := by cbv
  have hpayload : ofPayload rootSetting "stdin" nullPayload =
      .error (.invalid [⟨[.key "cwd"], .notText⟩]) := by cbv
  exact ⟨hdocument, ⟨_, by cbv, rfl⟩, hpayload⟩

end HookPolicy.Context
