import HookPolicy.Proofs.Context.Checking
import HookPolicy.Proofs.Context.Input
import HookPolicy.Proofs.Lists.Lookup

/-!
# The priority of sources

A context is gathered from standard input, from the environment and from arguments, in this order.
What it holds in a field is the first value that one of them gives, in its normal form.
-/

namespace HookPolicy.Context

open Fields

variable {fields more : Fields} {s : Setting} {o : Origin}

/-! ## The environment -/

def envField (env : List (String × String)) (p : String × String) : Option (String × Json) :=
  match env.lookup (variableName p.1) with
  | some s =>
    match coerce p.2 (.string s) with
    | .ok v => if v.isNull then none else some (p.2, v)
    | .error _ => none
  | none => none

theorem envFields_eq (env : List (String × String)) :
    envFields env = envNames.filterMap (envField env) := rfl

theorem envField_eq_some {env : List (String × String)} {p : String × String} {f : String × Json}
    (h : envField env p = some f) : f.1 = p.2 ∧ (kindOf f.1).Holds f.2 := by
  unfold envField at h
  split at h
  · split at h
    · rename_i v hv
      split at h
      · cases h
      · cases h
        exact ⟨rfl, coerce_holds hv⟩
    · cases h
  · cases h

theorem map_fst_filterMap_envField (env : List (String × String)) (names : List (String × String)) :
    ((names.filterMap (envField env)).map Prod.fst).Sublist (names.map Prod.snd) :=
  map_fst_filterMap_sublist (fun _ _ hfield => (envField_eq_some hfield).1) names

theorem proper_envFields (env : List (String × String)) : Proper (envFields env) where
  keyed := List.Nodup.sublist (map_fst_filterMap_envField env envNames) (by decide)
  named f hf := by
    have hnames : ∀ name ∈ envNames.map Prod.snd, innerName name = name := by decide
    exact hnames _ ((map_fst_filterMap_envField env envNames).subset (List.mem_map_of_mem hf))
  kinds f hf := by
    obtain ⟨p, -, hfield⟩ := List.mem_filterMap.1 hf
    exact (envField_eq_some hfield).2

theorem get?_envFields_tool (env : List (String × String)) :
    get? (envFields env) "tool" = (env.lookup (variableName "TOOL")).map .string := by
  have hnames : envNames = ("TOOL", "tool") :: envNames.tail := rfl
  rw [envFields_eq, hnames]
  cases htool : env.lookup (variableName "TOOL") with
  | none =>
    have hfield : envField env ("TOOL", "tool") = none := by rw [envField, htool]
    have hother : "tool" ∉ envNames.tail.map Prod.snd := by decide
    rw [List.filterMap_cons_none hfield, get?_eq_none_iff.2]
    · rfl
    · exact fun hmem => hother ((map_fst_filterMap_envField env _).subset hmem)
  | some s =>
    have hfield : envField env ("TOOL", "tool") = some ("tool", .string s) := by
      rw [envField, htool]
      rfl
    rw [List.filterMap_cons_some hfield, get?_cons, if_pos rfl]
    rfl

/-! ## Arguments -/

theorem optionFields_keeps {P : Fields → Prop}
    (hset : ∀ fields name v, P fields → innerName name = name → P (fields.set name v))
    {first : Bool} {args : List String} {out : Fields} (hstart : P fields)
    (h : optionFields first fields args = .ok out) : P out := by
  have htool : ∀ (c : Bool) (arg : String) (fields : Fields), P fields →
      P (if c then fields.set "tool" (.string arg) else fields) := by
    intro c arg fields hfields
    cases c with
    | true => exact hset _ _ _ hfields (by decide)
    | false => exact hfields
  fun_induction optionFields first fields args with
  | case1 =>
    cases h
    exact hstart
  | case2 =>
    cases h
    exact htool _ _ _ hstart
  | case3 _ _ _ _ _ _ _ ih => exact ih hstart h
  | case4 _ _ _ _ _ _ _ _ _ _ ih => exact ih (hset _ _ _ hstart (innerName_innerName _)) h
  | case5 => cases h
  | case6 _ _ _ _ _ _ _ ih => exact ih (htool _ _ _ hstart) h

theorem proper_argFields {args : List String} (h : argFields args = .ok fields) :
    Proper fields := by
  rw [argFields] at h
  split at h
  · rename_i out hout
    have hkeeps : Keyed out ∧ ∀ f ∈ out, innerName f.1 = f.1 := by
      refine optionFields_keeps
        (P := fun fields => Keyed fields ∧ ∀ f ∈ fields, innerName f.1 = f.1) ?_
        ⟨keyed_nil, nofun⟩ hout
      rintro fields name v ⟨hkeyed, hnamed⟩ hname
      refine ⟨hkeyed.set name v, fun f hf => ?_⟩
      rcases mem_set hf with rfl | hmem
      · exact hname
      · exact hnamed f hmem
    exact .of_coerceAll h hkeeps.1 hkeeps.2
  · cases h

/-! ## The three sources -/

namespace Origin

/-- The fields that standard input gives, none if it is left out or holds no object. -/
def inputFields (o : Origin) : Except ReadFault Fields :=
  match o.input with
  | none => .ok []
  | some input => (stdinFields input o.wait).map (·.getD [])

/-- The fields that the environment gives, none unless it names a tool. -/
def envGiven (o : Origin) : Fields :=
  if (o.env.lookup (variableName "TOOL")).getD "" = "" then [] else envFields o.env

theorem proper_inputFields (h : o.inputFields = .ok fields) : Proper fields := by
  unfold inputFields at h
  split at h
  · cases h
    exact .nil
  · rename_i input hinput
    cases hread : stdinFields input o.wait with
    | error e =>
      rw [hread] at h
      cases h
    | ok read =>
      rw [hread] at h
      cases h
      cases read with
      | none => exact .nil
      | some fields =>
        obtain ⟨-, payload, -, -, hpayload⟩ := payloadFields_of_stdinFields hread
        exact (reads_of_payloadFields hpayload).proper

theorem proper_envGiven (o : Origin) : Proper o.envGiven := by
  unfold envGiven
  split
  · exact .nil
  · exact proper_envFields o.env

theorem isTruthy_tool (o : Origin) :
    ((get? (envFields o.env) "tool").getD .null).isTruthy =
      !((o.env.lookup (variableName "TOOL")).getD "" == "") := by
  rw [get?_envFields_tool]
  cases o.env.lookup (variableName "TOOL") <;> rfl

/-- What the three sources give a field: standard input first, arguments last. -/
def given (o : Origin) (input args : Fields) (name : String) : Json :=
  firstGiven [input.value name, o.envGiven.value name, args.value name]

end Origin

theorem takeArgs_eq (args : List String) (merged : Fields) (source : Option Source) :
    (if args.isEmpty then .ok (merged, source)
      else match argFields args with
        | .ok fields => .ok (merge merged fields, source.or (some .args))
        | .error e => .error e : Except ReadFault (Fields × Option Source)) =
      (argFields args).map fun fields =>
        (merge merged fields, if args = [] then source else source.or (some .args)) := by
  cases args with
  | nil => rfl
  | cons arg args =>
    rw [List.isEmpty_cons, if_neg Bool.false_ne_true]
    cases argFields (arg :: args) <;> rfl

theorem takeEnv_eq (o : Origin) (merged : Fields) (source : Option Source) :
    (if ((get? (envFields o.env) "tool").getD .null).isTruthy
      then (merge merged (envFields o.env), source.or (some .env))
      else (merged, source)) =
      (merge merged o.envGiven, if (o.env.lookup (variableName "TOOL")).getD "" = "" then source
        else source.or (some .env)) := by
  rw [o.isTruthy_tool, Origin.envGiven]
  by_cases hempty : (o.env.lookup (variableName "TOOL")).getD "" = ""
  · simp [hempty, merge]
  · simp [hempty]

def mergedOf (o : Origin) (input args : Fields) : Fields :=
  merge (merge (merge [] input) o.envGiven) args

variable {input args : Fields}

/-- The first source that was asked and had anything to hand over, be it a null. -/
def askedSource (o : Origin) (input : Fields) : Option Source :=
  if input ≠ [] then some .stdin
  else if (o.env.lookup (variableName "TOOL")).getD "" ≠ "" then some .env
  else if o.args ≠ [] then some .args
  else none

theorem askedSource_eq (o : Origin) (input : Fields) (first : Option Source)
    (hfirst : first = if input = [] then none else some .stdin) :
    (if o.args = [] then
        if (o.env.lookup (variableName "TOOL")).getD "" = "" then first else first.or (some .env)
      else
        (if (o.env.lookup (variableName "TOOL")).getD "" = "" then first
          else first.or (some .env)).or (some .args)) = askedSource o input := by
  subst hfirst
  unfold askedSource
  by_cases hinput : input = [] <;>
    by_cases hargs : o.args = [] <;>
    by_cases htool : (o.env.lookup (variableName "TOOL")).getD "" = "" <;>
    simp [hinput, hargs, htool]

theorem mergedFields_eq (o : Origin) :
    mergedFields o = o.inputFields.bind fun input =>
      (argFields o.args).map fun args => (mergedOf o input args, askedSource o input) := by
  unfold mergedFields Origin.inputFields
  simp only [takeEnv_eq, ← askedSource_eq o _ _ rfl]
  -- no input and an empty one leave the same fields, but an error of the input ends it all
  cases o.input with
  | none => exact takeArgs_eq _ _ _
  | some input =>
    dsimp only
    cases stdinFields input o.wait with
    | error e => rfl
    | ok read =>
      rcases read with - | - | ⟨f, fields⟩ <;> exact takeArgs_eq _ _ _

theorem ne_null_of_merge (fields more : Fields) (h : ∀ f ∈ fields, f.2 ≠ .null) :
    ∀ f ∈ merge fields more, f.2 ≠ .null :=
  fun f hf => (mem_merge hf).elim (h f) fun hmem => hmem.2

theorem ne_null_of_merge_nil (fields : Fields) : ∀ f ∈ merge [] fields, f.2 ≠ .null :=
  ne_null_of_merge _ _ fun _ hf => absurd hf List.not_mem_nil

theorem value_mergedOf (o : Origin) (hinput : Proper input) (hargs : Proper args) (name : String) :
    value (mergedOf o input args) name = o.given input args name := by
  rw [mergedOf, value_merge hargs.keyed, value_merge o.proper_envGiven.keyed,
    value_merge hinput.keyed, Origin.given]
  have hnil : value [] name = .null := rfl
  rw [hnil, firstGiven_null, firstGiven_singleton]
  have hfirst := firstGiven_append [value input name, value o.envGiven name] [value args name]
  rw [firstGiven_singleton] at hfirst
  exact hfirst.symm

theorem proper_mergedOf (o : Origin) (hinput : Proper input) (hargs : Proper args) :
    Proper (mergedOf o input args) :=
  ((Proper.nil.merge hinput).merge o.proper_envGiven).merge hargs

theorem ne_null_of_mergedOf (o : Origin) (input args : Fields) :
    ∀ f ∈ mergedOf o input args, f.2 ≠ .null :=
  ne_null_of_merge _ _ (ne_null_of_merge _ _ (ne_null_of_merge_nil input))

/-! ## Normal forms -/

theorem Proper.trimField (h : Proper fields) (name : String) (hname : innerName name = name)
    (hkind : kindOf name = .text) : Proper (trimField fields name) := by
  unfold Context.trimField
  split
  · refine h.set hname ?_
    rw [hkind]
    exact .text _
  · exact h

theorem Proper.resolveField (h : Proper fields) (processDir : String) :
    Proper (resolveField processDir fields) := by
  unfold Context.resolveField
  split
  · split
    · exact h
    · exact h.set (by decide) (.text _)
  · exact h

theorem Proper.nameField (h : Proper fields) : Proper (nameField fields) := by
  unfold Context.nameField
  split
  · split
    · exact h
    · exact h.set (by decide) (.text _)
  · exact h

theorem Proper.normalFields (h : Proper fields) (processDir : String) :
    Proper (normalFields processDir fields) := by
  have htool := h.trimField "tool" (by decide) (by decide)
  have hcommand := htool.trimField "command" (by decide) (by decide)
  have hpath := hcommand.trimField "path" (by decide) (by decide)
  exact (hpath.resolveField processDir).nameField

/-- An empty directory and none are the same to a relative path. -/
theorem normalValue_getD (processDir name : String) (dir : Option String) (v : Json) :
    normalValue processDir (dir.getD "") name v =
      normalValue processDir (dir.getD processDir) name v := by
  cases dir with
  | some dir => rfl
  | none =>
    have hdir : (if processDir = "" then processDir else processDir) = processDir := ite_self _
    rw [normalValue_eq, normalValue_eq, Option.getD_none, Option.getD_none, hdir, if_pos rfl]

theorem Proper.holding_of_check (h : Proper fields) (hgiven : get? fields "cwd" ≠ some .null)
    {s : Setting} {source : Option Source} {c : Context}
    (hsource : get? fields "source" = some (.ofOption (source.map Source.word)))
    (hc : check s (Context.normalFields s.cwd fields) = .good c) :
    c.cwd = (value fields "cwd").text?.getD s.cwd ∧
      (∀ name, name ≠ "source" → name ≠ "timestamp" → name ≠ "cwd" →
        c.holding name = normalValue s.cwd c.cwd name (value fields name)) ∧
      c.extras = extrasOf (Context.normalFields s.cwd fields) := by
  have hsource' : get? (Context.normalFields s.cwd fields) "source" =
      some (.ofOption (source.map Source.word)) := by
    rw [get?_normalFields_of_notMem _ _ (by decide), hsource]
  have hcwd : get? (Context.normalFields s.cwd fields) "cwd" = get? fields "cwd" :=
    get?_normalFields_of_notMem _ _ (by decide)
  obtain ⟨t, rfl⟩ := (h.normalFields s.cwd).eq_of_check hsource' (by rwa [hcwd]) hc
  have hdir : (value (Context.normalFields s.cwd fields) "cwd").text?.getD s.cwd =
      (value fields "cwd").text?.getD s.cwd := by
    rw [value, hcwd, value]
  refine ⟨hdir, fun name hnotSource htime hnotCwd => ?_, rfl⟩
  rw [(h.normalFields s.cwd).holding_ofProper source t _ hnotSource htime hnotCwd,
    value_normalFields, dirOf, normalValue_getD]
  exact congrArg (fun dir => normalValue s.cwd dir name (value fields name)) hdir.symm

/-! ## What a gathered context holds -/

theorem mergedFields_eq_ok {source : Option Source} (h : mergedFields o = .ok (fields, source)) :
    ∃ input args, o.inputFields = .ok input ∧ argFields o.args = .ok args ∧
      fields = mergedOf o input args ∧ source = askedSource o input := by
  rw [mergedFields_eq] at h
  cases hinput : o.inputFields with
  | error e =>
    rw [hinput] at h
    cases h
  | ok input =>
    cases hargs : argFields o.args with
    | error e =>
      rw [hinput, hargs] at h
      cases h
    | ok args =>
      rw [hinput, hargs] at h
      cases h
      exact ⟨input, args, rfl, rfl, rfl, rfl⟩

/-- The fields that are brought to normal form and read: the directory that is asked for and the
source are set last. -/
def completed (o : Origin) (merged : Fields) (source : Option Source) : Fields :=
  (match o.cwd with
    | some dir => merged.set "cwd" (.string dir)
    | none => merged).set "source" (.ofOption (source.map Source.word))

theorem get?_completed (o : Origin) (merged : Fields) (source : Option Source) (name : String) :
    get? (completed o merged source) name =
      if "source" = name then some (.ofOption (source.map Source.word))
      else if "cwd" = name then (o.cwd.map .string).or (get? merged "cwd")
      else get? merged name := by
  rw [completed, get?_set]
  cases o.cwd with
  | none => by_cases hcwd : "cwd" = name <;> simp [hcwd]
  | some dir => simp [get?_set]

theorem Proper.completed (h : Proper fields) (o : Origin) (source : Option Source) :
    Proper (completed o fields source) := by
  refine Proper.set ?_ (by decide) (.any _)
  cases o.cwd with
  | none => exact h
  | some dir => exact h.set (by decide) (.text _)

theorem completed_cwd_ne_null (hnulls : ∀ f ∈ fields, f.2 ≠ .null) (o : Origin)
    (source : Option Source) : get? (completed o fields source) "cwd" ≠ some .null := by
  rw [get?_completed, if_neg (by decide), if_pos rfl]
  cases o.cwd with
  | none => exact fun hnull => hnulls _ (mem_of_get? hnull) rfl
  | some dir => nofun

theorem Proper.mem_extras (h : Proper fields) {f : String × Json} (hf : f ∈ extrasOf fields) :
    f.1 ∉ innerNames ∧ get? fields f.1 = some f.2 := by
  obtain ⟨hmem, hunused⟩ := List.mem_filter.1 hf
  rw [h.usedKeys_eq] at hunused
  exact ⟨by simpa using hunused, h.keyed.get?_eq_some_iff.2 hmem⟩

def accepted : Checked Context → Except Refusal Context
  | .good c => .ok c
  | .bad ds => .error (.invalid ds)

theorem accepted_eq_ok_iff {x : Checked Context} {c : Context} :
    accepted x = .ok c ↔ x = .good c := by
  cases x <;> simp [accepted]

theorem gather_of_mergedFields {source : Option Source} (s : Setting)
    (h : mergedFields o = .ok (fields, source)) :
    gather s o = accepted (check s (normalFields s.cwd (completed o fields source))) := by
  rw [gather, h]
  rfl

theorem gather_eq_ok {s : Setting} {c : Context} (h : gather s o = .ok c) :
    ∃ merged source, mergedFields o = .ok (merged, source) ∧
      check s (normalFields s.cwd (completed o merged source)) = .good c := by
  cases hmerged : mergedFields o with
  | error e =>
    rw [gather, hmerged] at h
    cases h
  | ok p =>
    rw [gather_of_mergedFields s hmerged] at h
    exact ⟨p.1, p.2, rfl, accepted_eq_ok_iff.1 h⟩

theorem normalNames_subset : normalNames ⊆ innerNames := by decide

theorem ne_null_of_mem_extras (h : Proper fields) (hnulls : ∀ f ∈ fields, f.2 ≠ .null) (o : Origin)
    {source : Option Source} {s : Setting} {f : String × Json}
    (hf : f ∈ extrasOf (normalFields s.cwd (completed o fields source))) :
    f.1 ∉ innerNames ∧ f.2 ≠ .null := by
  obtain ⟨hname, hget⟩ := ((h.completed o source).normalFields s.cwd).mem_extras hf
  -- an extra is named after no field, so neither completing nor normalizing touches it
  have hne : ∀ name ∈ innerNames, name ≠ f.1 := by
    rintro name hmem rfl
    exact hname hmem
  rw [get?_normalFields_of_notMem _ _ fun hmem => hname (normalNames_subset hmem), get?_completed,
    if_neg (hne "source" (by decide)), if_neg (hne "cwd" (by decide))] at hget
  exact ⟨hname, hnulls _ (mem_of_get? hget)⟩

theorem text_completed_cwd (h : Proper fields) (o : Origin) (source : Option Source)
    (default : String) :
    .string ((value (completed o fields source) "cwd").text?.getD default) =
      firstGiven [.ofOption o.cwd, value fields "cwd", .string default] := by
  have hvalue : value (completed o fields source) "cwd" =
      ((o.cwd.map .string).or (get? fields "cwd")).getD .null := by
    rw [value, get?_completed, if_neg (by decide), if_pos rfl]
  rw [hvalue]
  cases o.cwd with
  | some dir => rfl
  | none =>
    have hkind : Kind.Holds .text (value fields "cwd") := h.value_holds "cwd"
    have hdir : ∀ v, Kind.Holds .text v →
        .string (v.text?.getD default) = firstGiven [.null, v, .string default] := by
      intro v hv
      cases hv <;> rfl
    exact hdir _ hkind

/-- A gathered context holds in every field the first value that a source gives, in normal form, and
nothing else. Its directory is the one that is asked for, the first that a source gives, or the one
of the process. -/
theorem gather_takes_first_given {s : Setting} {c : Context} (h : gather s o = .ok c) :
    ∃ input args, o.inputFields = .ok input ∧ argFields o.args = .ok args ∧
      (∀ name, name ≠ "source" → name ≠ "timestamp" → name ≠ "cwd" →
        c.holding name = normalValue s.cwd c.cwd name (o.given input args name)) ∧
      Keyed c.extras ∧ (∀ f ∈ c.extras, f.1 ∉ innerNames ∧ f.2 ≠ .null) ∧
      .string c.cwd = firstGiven [.ofOption o.cwd, o.given input args "cwd", .string s.cwd] := by
  obtain ⟨merged, source, hmerged, hc⟩ := gather_eq_ok h
  obtain ⟨input, args, hinput, hargs, rfl, -⟩ := mergedFields_eq_ok hmerged
  have hgiven := value_mergedOf o (o.proper_inputFields hinput) (proper_argFields hargs)
  have hproper := proper_mergedOf o (o.proper_inputFields hinput) (proper_argFields hargs)
  have hnulls := ne_null_of_mergedOf o input args
  have hsource : get? (completed o (mergedOf o input args) source) "source" =
      some (.ofOption (source.map Source.word)) := by rw [get?_completed, if_pos rfl]
  obtain ⟨hdir, hholding, hextras⟩ :=
    (hproper.completed o source).holding_of_check (completed_cwd_ne_null hnulls o source) hsource hc
  refine ⟨input, args, hinput, hargs, ?_, ?_, ?_, ?_⟩
  · intro name hnotSource htime hnotCwd
    have hvalue : value (completed o (mergedOf o input args) source) name =
        o.given input args name := by
      rw [value, get?_completed, if_neg hnotSource.symm, if_neg hnotCwd.symm]
      exact hgiven name
    rw [hholding name hnotSource htime hnotCwd, hvalue]
  · rw [hextras]
    exact ((hproper.completed o source).normalFields s.cwd).keyed.of_sublist List.filter_sublist
  · intro f hf
    rw [hextras] at hf
    exact ne_null_of_mem_extras hproper hnulls o hf
  · rw [hdir, text_completed_cwd hproper, hgiven]

def mixedOrigin : Origin where
  input := some (.text "\x7b\"tool\": null, \"command\": \" ls \", \"note\": null\x7d")
  wait := 5000
  env := [("HOOKWARDEN_TOOL", "shell"), ("HOOKWARDEN_COMMAND", "pwd")]
  args := ["Write", "--path", "a.txt", "--note", "kept"]
  cwd := some "/work"

def mixedInput : Fields := [("tool", .null), ("command", .string " ls "), ("note", .null)]

def mixedArgs : Fields :=
  [("tool", .string "Write"), ("path", .string "a.txt"), ("note", .string "kept")]

def rootSetting : Setting := ⟨⟨2026, 1, 1, 0, 0, 0, 0, none⟩, "/"⟩

def mixedContext : Context where
  timestamp := rootSetting.now
  source := some .stdin
  tool := some "Bash"
  command := some "ls"
  path := some "/work/a.txt"
  content := none
  exitCode := none
  success := none
  cwd := "/work"
  sessionId := none
  params := none
  extras := [("note", .string "kept")]

theorem inputFields_mixedOrigin : mixedOrigin.inputFields = .ok mixedInput := by
  cbv

theorem argFields_mixedOrigin : argFields mixedOrigin.args = .ok mixedArgs := by
  cbv

theorem gather_mixedOrigin : gather rootSetting mixedOrigin = .ok mixedContext := by
  cbv

theorem gather_takes_first_given_mixed :
    gather rootSetting mixedOrigin = .ok mixedContext ∧
      mixedOrigin.inputFields = .ok mixedInput ∧ argFields mixedOrigin.args = .ok mixedArgs ∧
      mixedContext.holding "tool" = .string "Bash" ∧
      mixedContext.holding "command" = .string "ls" ∧
      mixedContext.holding "path" = .string "/work/a.txt" ∧
      mixedContext.holding "note" = .string "kept" := by
  obtain ⟨input, args, hinput, hargs, hholding, -, -, -⟩ :=
    gather_takes_first_given gather_mixedOrigin
  rw [inputFields_mixedOrigin] at hinput
  rw [argFields_mixedOrigin] at hargs
  cases hinput
  cases hargs
  refine ⟨gather_mixedOrigin, inputFields_mixedOrigin, argFields_mixedOrigin, ?_, ?_, ?_, ?_⟩
  · rw [hholding "tool" (by decide) (by decide) (by decide)]
    cbv
  · rw [hholding "command" (by decide) (by decide) (by decide)]
    cbv
  · have hpath : mixedOrigin.given mixedInput mixedArgs "path" = .string "a.txt" := by cbv
    have hrelative : ¬ (Text.trimmed "a.txt" = "" ∨ (Text.trimmed "a.txt").startsWith "/") := by
      decide +kernel
    rw [hholding "path" (by decide) (by decide) (by decide), hpath, normalValue,
      if_pos (by decide), normalText, if_neg (by decide), if_pos rfl, if_neg hrelative]
    cbv
  · rw [hholding "note" (by decide) (by decide) (by decide)]
    cbv

end HookPolicy.Context
