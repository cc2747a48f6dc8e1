import HookPolicy.Proofs.Context.Normalizing
import HookPolicy.Proofs.Context.Priority
import HookPolicy.Proofs.Files.Climbing
import HookPolicy.Proofs.Text.Casing

/-!
# Normal forms once and twice

A normal form, and a context that is gathered or handed over, has a normal form itself, and that is
the same but for two things. A path that was resolved against a directory whose name ends in blanks
loses these blanks, since trimming comes before resolving. A tool stays if it is in title case
(`TitleCased`), as it is unless several letters are the upper case of its first one.
-/

namespace HookPolicy.Context

open Fields

variable {c n : Context} {s : Setting} {o : Origin} {fields payload : Fields}
  {name dir base later other text tool : String}

/-! ## Tools -/

/-- The known names of tools, and the texts without any capital behind the first letter. -/
def TitleCased (tool : String) : Prop :=
  tool ∈ toolNames.map Prod.snd ∨ ∀ c ∈ tool.toList.tail, Text.IsLower c

instance (tool : String) : Decidable (TitleCased tool) := inferInstanceAs (Decidable (_ ∨ _))

theorem canonicalTool_known : ∀ tool ∈ toolNames.map Prod.snd, canonicalTool tool = tool := by
  decide +kernel

theorem canonicalTool_cases (tool : String) :
    canonicalTool tool ∈ toolNames.map Prod.snd ∨
      (canonicalTool tool = capitalized tool ∧ toolNames.lookup (capitalized tool) = none) := by
  cases hlookup : toolNames.lookup (capitalized tool) with
  | none => exact .inr ⟨by rw [canonicalTool, hlookup]; rfl, rfl⟩
  | some known =>
    rw [canonicalTool, hlookup]
    exact .inl (List.mem_map_of_mem (mem_of_lookup_eq_some hlookup))

theorem toList_capitalized {d : Char} {ds : List Char} (h : tool.toList = d :: ds) :
    (capitalized tool).toList = Text.upperChar d ++ Text.lower ds := by
  rw [capitalized, h]
  exact String.toList_ofList

theorem capitalized_of_toList_eq_nil (h : tool.toList = []) : capitalized tool = "" := by
  rw [capitalized, h]

theorem capitalized_capitalized (h : ∀ c ∈ (capitalized tool).toList.tail, Text.IsLower c) :
    capitalized (capitalized tool) = capitalized tool := by
  cases htool : tool.toList with
  | nil =>
    rw [capitalized_of_toList_eq_nil htool]
    rfl
  | cons c cs =>
    obtain ⟨d, ds, hupper⟩ := List.exists_cons_of_ne_nil (Text.upperChar_ne_nil c)
    have hletters : (capitalized tool).toList = d :: (ds ++ Text.lower cs) := by
      rw [toList_capitalized htool, hupper, List.cons_append]
    rw [hletters, List.tail_cons] at h
    rw [← String.toList_inj, toList_capitalized hletters, Text.upperChar_of_head hupper,
      Text.lower_of_isLower h, hletters, List.singleton_append]

theorem canonicalTool_canonicalTool (h : TitleCased (canonicalTool tool)) :
    canonicalTool (canonicalTool tool) = canonicalTool tool := by
  rcases canonicalTool_cases tool with hknown | ⟨hself, hlookup⟩
  · exact canonicalTool_known _ hknown
  · rcases h with hknown | hlower
    · exact canonicalTool_known _ hknown
    · rw [hself] at hlower ⊢
      rw [canonicalTool, capitalized_capitalized hlower, hlookup]
      rfl

theorem titleCased_canonicalTool {d : Char} {ds : List Char} (h : tool.toList = d :: ds)
    (hone : (Text.upperChar d).length = 1) : TitleCased (canonicalTool tool) := by
  rcases canonicalTool_cases tool with hknown | ⟨hself, -⟩
  · exact .inl hknown
  · obtain ⟨upper, hupper⟩ := List.length_eq_one_iff.1 hone
    right
    rw [hself, toList_capitalized h, hupper, List.singleton_append, List.tail_cons]
    exact Text.isLower_lower ds

example : canonicalTool "ßx" = "SSx" ∧ canonicalTool "SSx" = "Ssx" := by decide +kernel

theorem bareEnds_known :
    ∀ tool ∈ toolNames.map Prod.snd, Text.trimmed tool = tool := by
  decide +kernel

theorem bareEnds_capitalized (h : Text.BareEnds tool.toList) :
    Text.BareEnds (capitalized tool).toList := by
  cases htool : tool.toList with
  | nil =>
    rw [capitalized_of_toList_eq_nil htool]
    exact ⟨nofun, nofun⟩
  | cons c cs =>
    rw [htool] at h
    have hc : Text.isBlank c = false := h.front c rfl
    obtain ⟨d, ds, hupper⟩ := List.exists_cons_of_ne_nil (Text.upperChar_ne_nil c)
    rw [toList_capitalized htool]
    refine ⟨fun e he => ?_, fun e he => ?_⟩
    · rw [hupper, List.cons_append, List.head?_cons, Option.mem_some_iff] at he
      exact Text.isBlank_upperChar hc e (by rw [hupper, he]; exact List.mem_cons_self)
    · rcases List.eq_nil_or_concat cs with rfl | ⟨front, last, rfl⟩
      · have hnil : Text.lower [] = [] := rfl
        rw [hnil, List.append_nil] at he
        exact Text.isBlank_upperChar hc e (List.mem_of_getLast? he)
      · rw [List.concat_eq_append] at h he
        have hlast : Text.isBlank last = false :=
          h.back last (by rw [← List.cons_append]; exact List.getLast?_concat)
        rw [List.getLast?_append] at he
        rcases Option.or_eq_some_iff.1 he with hlower | ⟨-, hfirst⟩
        · exact Text.getLast?_lower hlast front e hlower
        · exact Text.isBlank_upperChar hc e (List.mem_of_getLast? hfirst)

theorem trimmed_canonicalTool (h : Text.BareEnds tool.toList) :
    Text.trimmed (canonicalTool tool) = canonicalTool tool := by
  rcases canonicalTool_cases tool with hknown | ⟨hself, -⟩
  · exact bareEnds_known _ hknown
  · rw [hself]
    exact Text.trimmed_eq_self (bareEnds_capitalized h)

/-! ## Paths -/

theorem startsWith_slash_trimmed (h : text.startsWith "/" = true) :
    (Text.trimmed text).startsWith "/" = true := by
  obtain ⟨rest, hrest⟩ := Path.startsWith_slash_iff.1 h
  obtain ⟨front, hfront⟩ := Text.trim_cons (by decide : Text.isBlank '/' = false) rest
  rw [Path.startsWith_slash_iff]
  exact ⟨front, by rw [Text.trimmed, hrest, hfront, String.toList_ofList]⟩

theorem startsWith_slash_absolutePath (h : dir.startsWith "/" = true) (base path : String) :
    (absolutePath dir base path).startsWith "/" = true := by
  rw [← Path.isAbsolute_ofString] at h
  exact Path.startsWith_slash_toString (Path.isAbsolute_join (Path.isAbsolute_join h _) _)

/-! ## Normal texts -/

theorem normalText_tool (dir base text : String) : normalText dir base "tool" text =
    if Text.trimmed text = "" then "" else canonicalTool (Text.trimmed text) := by
  rw [normalText, if_pos rfl]

theorem normalText_path (dir base text : String) : normalText dir base "path" text =
    if Text.trimmed text = "" ∨ (Text.trimmed text).startsWith "/" then Text.trimmed text
    else absolutePath dir (if base = "" then dir else base) (Text.trimmed text) := by
  rw [normalText, if_neg (by decide), if_pos rfl]

theorem normalText_tool_again (h : TitleCased (normalText dir base "tool" text))
    (later other : String) :
    normalText later other "tool" (normalText dir base "tool" text) =
      normalText dir base "tool" text := by
  rw [normalText_tool dir] at h ⊢
  split at h
  · rename_i hempty
    rw [if_pos hempty]
    rfl
  · rename_i hsome
    have hbare : Text.BareEnds (Text.trimmed text).toList := by
      rw [Text.trimmed, String.toList_ofList]
      exact Text.bareEnds_trim _
    rw [if_neg hsome, normalText_tool, trimmed_canonicalTool hbare]
    split
    · rename_i hempty
      exact hempty.symm
    · exact canonicalTool_canonicalTool h

theorem normalText_command_again (dir base later other text : String) :
    normalText later other "command" (normalText dir base "command" text) =
      normalText dir base "command" text :=
  Text.trimmed_trimmed text

theorem normalText_path_again (h : dir.startsWith "/" = true) (base later other text : String) :
    normalText later other "path" (normalText dir base "path" text) =
      Text.trimmed (normalText dir base "path" text) := by
  have hstays : Text.trimmed (normalText dir base "path" text) = "" ∨
      (Text.trimmed (normalText dir base "path" text)).startsWith "/" = true := by
    rw [normalText_path]
    split
    · rename_i hstays
      rwa [Text.trimmed_trimmed]
    · exact .inr (startsWith_slash_trimmed (startsWith_slash_absolutePath h _ _))
  rw [normalText_path later, if_pos hstays]

/-! ## Contexts in normal form -/

theorem keyed_trimField (h : Keyed fields) (name : String) : Keyed (trimField fields name) := by
  unfold trimField
  split
  · exact h.set _ _
  · exact h

theorem keyed_resolveField (h : Keyed fields) (dir : String) : Keyed (resolveField dir fields) := by
  unfold resolveField
  split
  · split
    · exact h
    · exact h.set _ _
  · exact h

theorem keyed_nameField (h : Keyed fields) : Keyed (nameField fields) := by
  unfold nameField
  split
  · split
    · exact h
    · exact h.set _ _
  · exact h

theorem keyed_normalFields (h : Keyed fields) (dir : String) : Keyed (normalFields dir fields) :=
  have htrimmed := keyed_trimField (keyed_trimField (keyed_trimField h "tool") "command") "path"
  keyed_nameField (keyed_resolveField htrimmed dir)

theorem has_normalFields (dir : String) (fields : Fields) (name : String) :
    (normalFields dir fields).has name = fields.has name := by
  rw [has, get?_normalFields, Option.isSome_map]
  rfl

theorem twiceGiven_normalFields (dir : String) :
    TwiceGiven (normalFields dir fields) ↔ TwiceGiven fields := by
  simp only [TwiceGiven, has_normalFields]

theorem Proper.not_twiceGiven (h : Proper fields) : ¬ TwiceGiven fields := by
  rintro ⟨p, hp, hne, hwire, -⟩
  obtain ⟨f, hf, hname⟩ := List.mem_map.1 (has_iff.1 hwire)
  have hself := h.named f hf
  rw [hname, innerName_of_mem_fieldNames p hp] at hself
  exact hne hself.symm

theorem Apart.not_twiceGiven (h : Apart c.extras) : ¬ TwiceGiven c.innerFields := by
  have hwire : ∀ wire ∈ twoNamed.map Prod.fst, c.innerFields.has wire = false := by
    intro wire hwire
    have hnames : ∀ wire ∈ twoNamed.map Prod.fst, wire ∈ wireNames ∧ wire ∉ headNames := by decide
    obtain ⟨hname, hhead⟩ := hnames wire hwire
    rw [← map_fst_innerHead c, ← get?_eq_none_iff] at hhead
    rw [has, h.get?_innerFields, h.wire wire hname, hhead]
    rfl
  rw [twiceGiven_iff, hwire "exitCode" (by decide), hwire "sessionId" (by decide)]
  simp

theorem keyed_innerFields (c : Context) : Keyed c.innerFields :=
  keyed_setAll (show (c.innerHead.map Prod.fst).Nodup by rw [map_fst_innerHead]; decide) c.extras

/-- What was brought to normal form: the tool, the command and the path are normal texts, and no
extra has the name of a field. -/
structure Settled (dir : String) (c : Context) : Prop where
  apart : Apart c.extras
  code : get? c.extras "exit_code" = none
  session : get? c.extras "session_id" = none
  tool : ∀ t ∈ c.tool, ∃ base text, t = normalText dir base "tool" text
  command : ∀ t ∈ c.command, ∃ base text, t = normalText dir base "command" text
  path : ∀ t ∈ c.path, ∃ base text, t = normalText dir base "path" text

theorem exists_normalText_eq (hname : name ∈ normalNames)
    (h : checkField (normalFields dir fields) name name none (checkOptional checkText) =
      .good (some text)) : ∃ base given, text = normalText dir base name given := by
  rw [checkField, givenKey_self, get?_normalFields] at h
  cases hget : get? fields name with
  | none =>
    rw [hget] at h
    cases h
  | some v =>
    rw [hget, Option.map_some] at h
    dsimp only at h
    rw [Checked.under_eq_good] at h
    cases v with
    | string given =>
      rw [normalValue, if_pos hname] at h
      cases h
      exact ⟨_, _, rfl⟩
    | _ => cases h

theorem settled_of_check (hkeyed : Keyed fields) (honce : ¬ TwiceGiven fields)
    (h : check s (normalFields dir fields) = .good c) : Settled dir c := by
  have hchecks := checks_of_check h
  rw [← twiceGiven_normalFields dir, not_twiceGiven_iff hchecks.extras] at honce
  refine ⟨apart_of_check (keyed_normalFields hkeyed dir) h, honce.1, honce.2, ?_, ?_, ?_⟩
  · intro t ht
    exact exists_normalText_eq (by decide) (ht ▸ hchecks.tool)
  · intro t ht
    exact exists_normalText_eq (by decide) (ht ▸ hchecks.command)
  · intro t ht
    exact exists_normalText_eq (by decide) (ht ▸ hchecks.path)

theorem exists_check_of_normalize (h : normalize dir c = .good n) :
    ∃ m, check ⟨c.timestamp, dir⟩ (normalFields dir c.innerFields) = .good m ∧
      { m with source := c.source } = n :=
  Checked.map_eq_good.1 h

theorem settled_of_normalize (hc : Apart c.extras) (h : normalize dir c = .good n) :
    Settled dir n := by
  obtain ⟨m, hm, rfl⟩ := exists_check_of_normalize h
  obtain ⟨hapart, hcode, hsession, htool, hcommand, hpath⟩ :=
    settled_of_check (keyed_innerFields c) hc.not_twiceGiven hm
  exact ⟨hapart, hcode, hsession, htool, hcommand, hpath⟩

theorem settled_of_gather (h : gather s o = .ok c) : Settled s.cwd c := by
  obtain ⟨merged, source, hmerged, hc⟩ := gather_eq_ok h
  obtain ⟨input, args, hinput, hargs, rfl, -⟩ := mergedFields_eq_ok hmerged
  have hsources := proper_mergedOf o (o.proper_inputFields hinput) (proper_argFields hargs)
  have hproper := hsources.completed o source
  exact settled_of_check hproper.keyed hproper.not_twiceGiven hc

theorem settled_of_ofPayload {source : String} (h : ofPayload s source payload = .ok c) :
    Settled s.cwd c := by
  rw [ofPayload] at h
  split at h
  · cases h
  · rename_i fields hread
    have hproper : Proper (fields.set "source" (.string source)) :=
      (reads_of_payloadFields hread).proper.set (by decide) (.any _)
    split at h
    · rename_i hc
      cases h
      exact settled_of_check hproper.keyed hproper.not_twiceGiven hc
    · cases h

/-! ## Once and twice -/

/-- The second of two contexts has the path of the first without the blanks behind it, and its tool
if that is in title case. All else is the same. -/
structure Again (c n : Context) : Prop where
  path : n.path = c.path.map Text.trimmed
  tool : (∀ t ∈ c.tool, TitleCased t) → n.tool = c.tool
  others : { n with tool := c.tool, path := c.path } = c

theorem Settled.again (h : Settled dir c) (hdir : dir.startsWith "/" = true) (later : String) :
    ∃ n, normalize later c = .good n ∧ Again c n := by
  refine ⟨_, normalize_of_no_twoNamed h.apart h.code h.session later, ?_, fun hcased => ?_, ?_⟩
  · refine Option.map_congr fun t ht => ?_
    obtain ⟨base, text, rfl⟩ := h.path t ht
    exact normalText_path_again hdir base later c.cwd text
  · refine (Option.map_congr fun t ht => ?_).trans Option.map_id'
    obtain ⟨base, text, rfl⟩ := h.tool t ht
    exact normalText_tool_again (hcased _ ht) later c.cwd
  · have hcommand : c.command.map (normalText later c.cwd "command") = c.command := by
      refine (Option.map_congr fun t ht => ?_).trans Option.map_id'
      obtain ⟨base, text, rfl⟩ := h.command t ht
      exact normalText_command_again dir base later c.cwd text
    rw [normalized, hcommand]

/-- A context as it comes from reading fields, or from bringing such a context to normal form. -/
inductive Made : Context → Prop
  | read {s : Setting} {fields : Fields} {c : Context} (hkeyed : Keyed fields)
      (hcheck : check s fields = .good c) : Made c
  | normal {dir : String} {c n : Context} (hc : Made c) (hn : normalize dir c = .good n) : Made n

theorem Made.apart (h : Made c) : Apart c.extras := by
  induction h with
  | read hkeyed hcheck => exact apart_of_check hkeyed hcheck
  | normal _ hnormal ih => exact (settled_of_normalize ih hnormal).apart

/-- Bringing a context to normal form again, from any directory, leaves it as it is, but for blanks
behind its path and for a tool that is not in title case. The same holds of a context that was
gathered or handed over. -/
theorem normalize_again (c : Context) (later : String) :
    (∀ dir n, Made c → dir.startsWith "/" = true → normalize dir c = .good n →
      ∃ n', normalize later n = .good n' ∧ Again n n') ∧
    ∀ s : Setting, s.cwd.startsWith "/" = true →
      ((∃ o, gather s o = .ok c) ∨ ∃ source payload, ofPayload s source payload = .ok c) →
      ∃ n, normalize later c = .good n ∧ Again c n := by
  constructor
  · intro dir n hc hdir hn
    exact (settled_of_normalize hc.apart hn).again hdir later
  · rintro s hdir (⟨o, hc⟩ | ⟨source, payload, hc⟩)
    · exact (settled_of_gather hc).again hdir later
    · exact (settled_of_ofPayload hc).again hdir later

/-- A path that is resolved against a directory with a blank behind its name. -/
def blankFields : Fields :=
  [("source", .string "stdin"), ("tool", .string "bash"), ("path", .string "."),
   ("cwd", .string "/x ")]

def blankContext : Context where
  timestamp := rootSetting.now
  source := some .stdin
  tool := some "bash"
  command := none
  path := some "."
  content := none
  exitCode := none
  success := none
  cwd := "/x "
  sessionId := none
  params := none
  extras := []

def resolvedContext : Context := { blankContext with tool := some "Bash", path := some "/x " }

theorem check_blankFields : check rootSetting blankFields = .good blankContext := by
  cbv

theorem normalize_blankContext : normalize "/" blankContext = .good resolvedContext := by
  cbv

theorem ofPayload_blankFields :
    ofPayload rootSetting "stdin" blankFields.tail = .ok resolvedContext := by
  cbv

theorem normalize_again_blank :
    Made blankContext ∧ rootSetting.cwd.startsWith "/" = true ∧
      normalize "/" blankContext = .good resolvedContext ∧
      gather rootSetting mixedOrigin = .ok mixedContext ∧
      (∃ n, normalize "/tmp" resolvedContext = .good n ∧ n.tool = some "Bash" ∧
        n.path = some "/x") ∧
      ∃ n, normalize "/tmp" mixedContext = .good n ∧ n.tool = some "Bash" ∧
        n.path = some "/work/a.txt" := by
  have hmade : Made blankContext :=
    .read (by decide : (blankFields.map Prod.fst).Nodup) check_blankFields
  have hroot : rootSetting.cwd.startsWith "/" = true := by decide +kernel
  have hcased : ∀ t ∈ some "Bash", TitleCased t := by
    rintro _ ⟨⟩
    decide
  obtain ⟨n, hn, hagain⟩ :=
    (normalize_again blankContext "/tmp").1 "/" _ hmade hroot normalize_blankContext
  obtain ⟨m, hm, hgathered⟩ :=
    (normalize_again mixedContext "/tmp").2 rootSetting hroot (.inl ⟨_, gather_mixedOrigin⟩)
  refine ⟨hmade, hroot, normalize_blankContext, gather_mixedOrigin,
    ⟨n, hn, hagain.tool hcased, ?_⟩, m, hm, hgathered.tool hcased, ?_⟩
  · rw [hagain.path]
    cbv
  · rw [hgathered.path]
    cbv

/-- The blank behind the name of the directory stays when the path is resolved, and goes when the
normal form is brought to normal form again. -/
theorem normalize_trims_resolved :
    check rootSetting blankFields = .good blankContext ∧
      normalize "/" blankContext = .good resolvedContext ∧
      ofPayload rootSetting "stdin" blankFields.tail = .ok resolvedContext ∧
      resolvedContext.path = some "/x " ∧
      normalize "/" resolvedContext = .good { resolvedContext with path := some "/x" } :=
  ⟨check_blankFields, normalize_blankContext, ofPayload_blankFields, rfl, by cbv⟩

end HookPolicy.Context
