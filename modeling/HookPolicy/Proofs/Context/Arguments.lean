import HookPolicy.Cli.Command
import HookPolicy.Proofs.Context.Sources

/-!
# Operations as arguments

An operation on a command line is handed on as arguments, from which its fields are read again. What
is read is what was named, but for options whose text looks like an option itself: these are lost.
-/

namespace HookPolicy

open Context Fields

namespace Context

def optionField (option : String) : String := innerName (optionName option.toList)

def takeOption (fields : Fields) (p : String × String) : Except ReadFault Fields :=
  (optionValue (optionName p.1.toList) p.2).map (fields.set (optionField p.1))

def pairArgs (pairs : List (String × String)) : List String := pairs.flatMap fun p => [p.1, p.2]

variable {pairs : List (String × String)}

/-- A text that looks like an option is passed over where an option follows it. -/
theorem optionFields_cons_option (hoptions : ∀ p ∈ pairs, isOption p.1 = true) (first : Bool)
    (fields : Fields) {text : String} (htext : isOption text = true) :
    optionFields first fields (text :: pairArgs pairs) =
      optionFields false fields (pairArgs pairs) := by
  cases pairs with
  | nil =>
    show Except.ok (if !isOption text && first && !text.startsWith "-" then _ else fields) = _
    rw [htext]
    rfl
  | cons p pairs =>
    have hp : isOption p.1 = true := hoptions p List.mem_cons_self
    show optionFields first fields (text :: p.1 :: p.2 :: pairArgs pairs) = _
    rw [optionFields, if_pos htext, if_pos hp]
    rfl

theorem optionFields_pairArgs (hoptions : ∀ p ∈ pairs, isOption p.1 = true) (first : Bool)
    (fields : Fields) :
    optionFields first fields (pairArgs pairs) =
      (pairs.filter fun p => !isOption p.2).foldlM takeOption fields := by
  induction pairs generalizing first fields with
  | nil => rfl
  | cons p pairs ih =>
    obtain ⟨hp, hrest⟩ := List.forall_mem_cons.1 hoptions
    show optionFields first fields (p.1 :: p.2 :: pairArgs pairs) = _
    rw [optionFields, if_pos hp, List.filter_cons]
    -- a text that looks like an option is met again, with the next option behind it
    cases htext : isOption p.2 with
    | true =>
      rw [if_pos rfl, optionFields_cons_option hrest false fields htext, ih hrest]
      rfl
    | false =>
      rw [if_neg Bool.false_ne_true, Bool.not_false, if_pos rfl, List.foldlM_cons, takeOption]
      dsimp only
      cases optionValue (optionName p.1.toList) p.2 with
      | error e => rfl
      | ok v => exact ih hrest false _

theorem isOption_eq_false {text : String} (h : text.startsWith "-" = false) :
    isOption text = false := by
  rw [Bool.eq_false_iff] at h ⊢
  intro hoption
  apply h
  rw [String.startsWith_string_iff]
  exact List.IsPrefix.trans ⟨['-'], rfl⟩ (String.startsWith_string_iff.1 hoption)

theorem optionFields_tool {tool : String} (htool : tool.startsWith "-" = false)
    (args : List String) :
    optionFields true [] (tool :: args) = optionFields false [("tool", .string tool)] args := by
  have hoption : isOption tool = false := isOption_eq_false htool
  cases args with
  | nil =>
    show Except.ok (if !isOption tool && true && !tool.startsWith "-" then _ else _) = _
    rw [hoption, htool]
    rfl
  | cons value rest =>
    rw [optionFields, hoption, if_neg Bool.false_ne_true, htool]
    rfl

def readTexts (read : String → String → Except ReadFault Json) (texts : List (String × String)) :
    Except ReadFault Fields :=
  texts.mapM fun p => (read p.1 p.2).map (p.1, ·)

variable {read : String → String → Except ReadFault Json} {texts : List (String × String)}

theorem readTexts_cons (read : String → String → Except ReadFault Json) (p : String × String)
    (texts : List (String × String)) :
    readTexts read (p :: texts) = match read p.1 p.2, readTexts read texts with
      | .ok v, .ok rest => .ok ((p.1, v) :: rest)
      | .error e, _ => .error e
      | _, .error e => .error e := by
  rw [readTexts, List.mapM_cons]
  cases read p.1 p.2 with
  | error e => rfl
  | ok v =>
    show (readTexts read texts).bind _ = _
    cases readTexts read texts <;> rfl

theorem readTexts_eq_ok_iff {fields : Fields} :
    readTexts read texts = .ok fields ↔
      List.Forall₂ (fun p f => f.1 = p.1 ∧ read p.1 p.2 = .ok f.2) texts fields := by
  induction texts generalizing fields with
  | nil =>
    rw [List.forall₂_nil_left_iff]
    exact ⟨fun h => (Except.ok.inj h).symm, fun h => h ▸ rfl⟩
  | cons p texts ih =>
    rw [readTexts_cons, List.forall₂_cons_left_iff]
    constructor
    · intro h
      split at h
      · rename_i v rest hv hrest
        cases h
        exact ⟨_, _, ⟨rfl, hv⟩, ih.1 hrest, rfl⟩
      · cases h
      · cases h
    · rintro ⟨f, rest, ⟨hname, hv⟩, hrest, rfl⟩
      rw [hv, ih.2 hrest, ← hname]

/-- Where at most one text cannot be read, its fault is that of all. -/
theorem readTexts_eq_error_iff (hone : ∀ p ∈ texts, ∀ q ∈ texts, ∀ e e',
    read p.1 p.2 = .error e → read q.1 q.2 = .error e' → e = e') {e : ReadFault} :
    readTexts read texts = .error e ↔ ∃ p ∈ texts, read p.1 p.2 = .error e := by
  induction texts with
  | nil => exact ⟨nofun, nofun⟩
  | cons p texts ih =>
    have hrest := ih fun q hq q' hq' =>
      hone q (List.mem_cons_of_mem _ hq) q' (List.mem_cons_of_mem _ hq')
    rw [readTexts_cons]
    constructor
    · intro h
      split at h
      · cases h
      · rename_i hp
        cases h
        exact ⟨p, List.mem_cons_self, hp⟩
      · rename_i hfault _
        cases h
        obtain ⟨q, hq, hread⟩ := hrest.1 hfault
        exact ⟨q, List.mem_cons_of_mem _ hq, hread⟩
    · rintro ⟨q, hq, hread⟩
      cases hp : read p.1 p.2 with
      | error e' => rw [hone p List.mem_cons_self q hq e' e hp hread]
      | ok v =>
        rcases List.mem_cons.1 hq with rfl | hmem
        · cases hp.symm.trans hread
        · rw [hrest.2 ⟨q, hmem, hread⟩]

def fieldTexts (pairs : List (String × String)) : List (String × String) :=
  pairs.map fun p => (optionField p.1, p.2)

theorem foldlM_takeOption (fields : Fields)
    (hnames : ∀ p ∈ pairs, optionName p.1.toList = optionField p.1)
    (hfresh : (fields.map Prod.fst ++ (fieldTexts pairs).map Prod.fst).Nodup) :
    pairs.foldlM takeOption fields =
      (readTexts optionValue (fieldTexts pairs)).map (fields ++ ·) := by
  induction pairs generalizing fields with
  | nil =>
    show Except.ok fields = Except.ok (fields ++ [])
    rw [List.append_nil]
  | cons p pairs ih =>
    obtain ⟨hp, hrest⟩ := List.forall_mem_cons.1 hnames
    rw [fieldTexts, List.map_cons, List.map_cons, ← fieldTexts] at hfresh
    have hnew : optionField p.1 ∉ fields.map Prod.fst := by
      intro hmem
      exact (List.nodup_append.1 hfresh).2.2 _ hmem _ List.mem_cons_self rfl
    rw [List.foldlM_cons, takeOption, hp, fieldTexts, List.map_cons, ← fieldTexts, readTexts_cons]
    cases optionValue (optionField p.1) p.2 with
    | error e => rfl
    | ok v =>
      -- the field is new, so it is set behind all others
      show pairs.foldlM takeOption (fields.set (optionField p.1) v) = _
      rw [set_of_fresh hnew, ih _ hrest (by simpa using hfresh)]
      cases readTexts optionValue (fieldTexts pairs) with
      | error e => rfl
      | ok rest => simp [Except.map]

/-- The value of a field as its text says. -/
def readText (name text : String) : Except ReadFault Json :=
  if name = "exit_code" then .ok (ofInt (readInt text.toList))
  else if name = "success" then
    .ok (.bool (Text.lower (Text.trim text.toList) == ['t', 'r', 'u', 'e']))
  else if name = "params" then
    match Json.read text with
    | .ok .null => .ok .null
    | .ok v => .ok (objectOf v)
    | .error (.malformed _ _) => .ok (.object [("raw", .string text)])
    | .error e => .error (.document e)
  else .ok (.string text)

def argNames : List String :=
  ["tool", "command", "path", "content", "session_id", "exit_code", "success", "params"]

theorem coerce_params (v : Json) :
    coerce "params" v = .ok (if v.isNull then .null else objectOf v) := by
  by_cases hnull : v = .null
  · rw [hnull]
    rfl
  · rw [coerce_of_ne_null hnull, if_neg (by rwa [Json.isNull_iff])]
    rfl

/-- What stands for an option is brought to the kind of its field without fail. -/
theorem coerce_optionValue {name : String} (hname : name ∈ argNames) (text : String) :
    (∃ v w, optionValue name text = .ok v ∧ coerce name v = .ok w ∧
      readText name text = .ok w) ∨
    ∃ e, optionValue name text = .error e ∧ readText name text = .error e := by
  by_cases hparams : name = "params"
  · subst hparams
    rw [optionValue, if_pos (beq_self_eq_true _), readText, if_neg (by decide),
      if_neg (by decide), if_pos rfl]
    cases hread : Json.read text with
    | ok v =>
      refine .inl ⟨v, _, rfl, coerce_params v, ?_⟩
      cases v <;> rfl
    | error e =>
      cases e with
      | malformed fault offset => exact .inl ⟨_, _, rfl, coerce_params _, rfl⟩
      | tooDeep inObject => exact .inr ⟨_, rfl, rfl⟩
      | tooManyDigits count => exact .inr ⟨_, rfl, rfl⟩
  · have hvalue : optionValue name text = .ok (.string text) := by
      rw [optionValue, if_neg (by simpa using hparams)]
    refine .inl ⟨_, (if name = "exit_code" then ofInt (readInt text.toList)
      else if name = "success" then
        .bool (Text.lower (Text.trim text.toList) == ['t', 'r', 'u', 'e'])
      else .string text), hvalue, ?_, ?_⟩
    · simp only [argNames, List.mem_cons, List.not_mem_nil, or_false, hparams] at hname
      rcases hname with rfl | rfl | rfl | rfl | rfl | rfl | rfl <;> rfl
    · rw [readText, if_neg hparams]
      split
      · rfl
      · split <;> rfl

theorem coerceAll_readTexts (hnames : ∀ p ∈ texts, p.1 ∈ argNames) :
    (readTexts optionValue texts).bind coerceAll = readTexts readText texts := by
  induction texts with
  | nil => rfl
  | cons p texts ih =>
    obtain ⟨hp, hrest⟩ := List.forall_mem_cons.1 hnames
    rw [readTexts_cons, readTexts_cons, ← ih hrest]
    rcases coerce_optionValue hp p.2 with ⟨v, w, hv, hw, hread⟩ | ⟨e, hv, hread⟩
    · rw [hv, hread]
      cases readTexts optionValue texts with
      | error e => rfl
      | ok fields =>
        show coerceAll ((p.1, v) :: fields) = _
        rw [coerceAll_cons, hw]
        rfl
    · rw [hv, hread]
      rfl

end Context

namespace Cli.Operation

def texts (o : Operation) : List (String × Option String) :=
  [("command", o.command), ("path", o.path), ("content", o.content), ("session_id", o.sessionId),
   ("exit_code", o.exitCode), ("success", o.success), ("params", o.params)]

def givenTexts (texts : List (String × Option String)) : List (String × String) :=
  texts.filterMap fun p => p.2.map (p.1, ·)

/-- The fields that an operation names, with their texts. An empty tool is none. -/
def named (o : Operation) : List (String × String) :=
  (o.tool.filter (· != "")).toList.map ("tool", ·) ++ givenTexts o.texts

theorem optionField_of_mem : ∀ name ∈ operationNames,
    isOption name = true ∧ optionName name.toList = optionField name := by
  decide +kernel

theorem fieldTexts_givenTexts (options : List (String × Option String)) :
    fieldTexts (givenTexts options) =
      givenTexts (options.map fun p => (optionField p.1, p.2)) := by
  induction options with
  | nil => rfl
  | cons p options ih =>
    obtain ⟨name, text⟩ := p
    cases text with
    | none => exact ih
    | some text => exact congrArg _ ih

theorem map_options (o : Operation) :
    o.options.map (fun p => (optionField p.1, p.2)) = o.texts := by
  cbv

theorem flatMap_options (options : List (String × Option String)) :
    (options.flatMap fun (name, value) => match value with
      | some v => [name, v]
      | none => []) = pairArgs (givenTexts options) := by
  induction options with
  | nil => rfl
  | cons p options ih =>
    obtain ⟨name, value⟩ := p
    rw [List.flatMap_cons, ih]
    cases value <;> rfl

theorem mem_operationNames {o : Operation} {p : String × String}
    (hp : p ∈ givenTexts o.options) : p.1 ∈ operationNames := by
  obtain ⟨q, hq, hgiven⟩ := List.mem_filterMap.1 hp
  obtain ⟨text, -, rfl⟩ := Option.map_eq_some_iff.1 hgiven
  have hnames : o.options.map Prod.fst = operationNames := rfl
  rw [← hnames]
  exact List.mem_map_of_mem hq

theorem map_fst_givenTexts (options : List (String × Option String)) :
    ((givenTexts options).map Prod.fst).Sublist (options.map Prod.fst) := by
  induction options with
  | nil => exact List.Sublist.refl _
  | cons p options ih =>
    obtain ⟨name, text⟩ := p
    cases text with
    | none => exact ih.cons _
    | some text => exact ih.cons_cons _

/-- The fields that arrive: those whose text does not look like an option. -/
def arriving (o : Operation) : List (String × String) := o.named.filter fun p => !isOption p.2

theorem mem_argNames {o : Operation} {p : String × String} (hp : p ∈ o.arriving) :
    p.1 ∈ argNames := by
  rcases List.mem_append.1 (List.mem_of_mem_filter hp) with htool | htext
  · obtain ⟨tool, -, rfl⟩ := List.mem_map.1 htool
    exact List.mem_cons_self
  · have hname : p.1 ∈ o.texts.map Prod.fst :=
      (map_fst_givenTexts o.texts).subset (List.mem_map_of_mem htext)
    exact List.mem_cons_of_mem _ hname

theorem optionFields_args {o : Operation}
    (htool : ∀ t, o.tool = some t → t.startsWith "-" = false) :
    optionFields true [] o.args = readTexts optionValue o.arriving := by
  have hargs : o.args =
      (o.tool.filter (· != "")).toList ++ pairArgs (givenTexts o.options) :=
    congrArg ((o.tool.filter (· != "")).toList ++ ·) (flatMap_options o.options)
  have hoptions : ∀ p ∈ givenTexts o.options, isOption p.1 = true :=
    fun p hp => (optionField_of_mem _ (mem_operationNames hp)).1
  have hnames : ∀ p ∈ (givenTexts o.options).filter fun p => !isOption p.2,
      optionName p.1.toList = optionField p.1 :=
    fun p hp => (optionField_of_mem _ (mem_operationNames (List.mem_of_mem_filter hp))).2
  have htexts : fieldTexts ((givenTexts o.options).filter fun p => !isOption p.2) =
      (givenTexts o.texts).filter fun p => !isOption p.2 := by
    rw [← map_options, ← fieldTexts_givenTexts, fieldTexts, fieldTexts, List.filter_map]
    rfl
  have hdistinct : ("tool" :: o.texts.map Prod.fst).Nodup := (by decide : argNames.Nodup)
  have hsub : (((givenTexts o.texts).filter fun p => !isOption p.2).map Prod.fst).Sublist
      (o.texts.map Prod.fst) :=
    (List.filter_sublist.map _).trans (map_fst_givenTexts o.texts)
  rw [hargs, arriving, named, List.filter_append, ← htexts]
  rw [← htexts] at hsub
  cases hfilter : o.tool.filter (· != "") with
  | none =>
    have hfold := foldlM_takeOption [] hnames (hdistinct.sublist (hsub.cons _))
    show optionFields true [] (pairArgs (givenTexts o.options)) = _
    rw [optionFields_pairArgs hoptions, hfold, Option.toList_none, List.map_nil, List.filter_nil,
      List.nil_append]
    cases readTexts optionValue (fieldTexts _) <;> rfl
  | some tool =>
    have hdash : tool.startsWith "-" = false := by
      obtain ⟨hmem, -⟩ := Option.filter_eq_some_iff.1 hfilter
      exact htool tool hmem
    have hfold := foldlM_takeOption [("tool", .string tool)] hnames
      (hdistinct.sublist (hsub.cons_cons _))
    show optionFields true [] (tool :: pairArgs (givenTexts o.options)) = _
    have hkept : (("tool", tool) :: []).filter (fun p => !isOption p.2) = [("tool", tool)] :=
      List.filter_cons_of_pos (by rw [isOption_eq_false hdash]; rfl)
    have hvalue : optionValue "tool" tool = .ok (.string tool) := rfl
    rw [optionFields_tool hdash, optionFields_pairArgs hoptions, hfold, Option.toList_some,
      List.map_singleton, hkept, List.singleton_append, readTexts_cons, hvalue]
    cases readTexts optionValue (fieldTexts _) <;> rfl

theorem argFields_eq {o : Operation}
    (htool : ∀ t, o.tool = some t → t.startsWith "-" = false) :
    argFields o.args = readTexts readText o.arriving := by
  rw [argFields, optionFields_args htool, ← coerceAll_readTexts fun p => mem_argNames]
  cases readTexts optionValue o.arriving <;> rfl

theorem mem_named_params {o : Operation} {text : String} :
    ("params", text) ∈ o.named ↔ o.params = some text := by
  simp [named, givenTexts, texts, eq_comm]

theorem readText_eq_error {name text : String} {e : ReadFault}
    (h : readText name text = .error e) : name = "params" := by
  by_contra hname
  rw [readText, if_neg hname] at h
  split at h
  · cases h
  · split at h <;> cases h

theorem argFields_eq_error_iff {o : Operation}
    (htool : ∀ t, o.tool = some t → t.startsWith "-" = false) {e : ReadFault} :
    argFields o.args = .error e ↔ ∃ text, o.params = some text ∧ isOption text = false ∧
      readText "params" text = .error e := by
  have hparams : ∀ p ∈ o.arriving, ∀ e, readText p.1 p.2 = .error e →
      p.1 = "params" ∧ o.params = some p.2 := by
    intro p hp e he
    have hname := readText_eq_error he
    refine ⟨hname, mem_named_params.1 ?_⟩
    rw [← hname]
    exact List.mem_of_mem_filter hp
  rw [argFields_eq htool, readTexts_eq_error_iff]
  · constructor
    · rintro ⟨p, hp, he⟩
      obtain ⟨hname, htext⟩ := hparams p hp e he
      rw [hname] at he
      exact ⟨p.2, htext, by simpa using (List.mem_filter.1 hp).2, he⟩
    · rintro ⟨text, htext, hoption, he⟩
      refine ⟨("params", text), List.mem_filter.2 ⟨mem_named_params.2 htext, ?_⟩, he⟩
      rw [hoption]
      rfl
  · intro p hp q hq e e' he he'
    obtain ⟨hname, htext⟩ := hparams p hp e he
    obtain ⟨hname', htext'⟩ := hparams q hq e' he'
    have hsame : p.2 = q.2 := Option.some.inj (htext.symm.trans htext')
    rw [hname, hsame] at he
    rw [hname'] at he'
    exact Except.error.inj (he.symm.trans he')

/-- The fields that are read from the arguments of an operation are exactly those that it names,
each with the value that its text says, but for the ones whose text looks like an option: these are
lost. Reading fails exactly if the params arrive and are beyond the reader of documents. -/
theorem argFields_args {o : Operation}
    (htool : ∀ t, o.tool = some t → t.startsWith "-" = false) :
    (∀ fields, argFields o.args = .ok fields ↔
      List.Forall₂ (fun p f => f.1 = p.1 ∧ readText p.1 p.2 = .ok f.2)
        (o.named.filter fun p => !isOption p.2) fields) ∧
    (∀ e, argFields o.args = .error e ↔ ∃ text, o.params = some text ∧ isOption text = false ∧
      readText "params" text = .error e) ∧
    ((∀ p ∈ o.named, isOption p.2 = false) → ∀ fields, argFields o.args = .ok fields ↔
      List.Forall₂ (fun p f => f.1 = p.1 ∧ readText p.1 p.2 = .ok f.2) o.named fields) := by
  have hok : ∀ fields, argFields o.args = .ok fields ↔
      List.Forall₂ (fun p f => f.1 = p.1 ∧ readText p.1 p.2 = .ok f.2) o.arriving fields := by
    intro fields
    rw [argFields_eq htool]
    exact readTexts_eq_ok_iff
  refine ⟨hok, fun e => argFields_eq_error_iff htool, fun hplain fields => ?_⟩
  have hall : o.arriving = o.named := by
    apply List.filter_eq_self.2
    intro p hp
    rw [hplain p hp]
    rfl
  rw [hok, hall]

/-- An edit that is reported with an exit code and params, but without a tool. -/
def edit : Operation where
  path := some "/srv/-x"
  sessionId := some "--none"
  exitCode := some " 7 "
  success := some "TRUE"
  params := some "[1]"

theorem argFields_edit :
    (∀ t, edit.tool = some t → t.startsWith "-" = false) ∧
      argFields edit.args = .ok [("path", .string "/srv/-x"), ("exit_code", .int 7),
        ("success", .bool true), ("params", .object [("raw", .array [.int 1])])] := by
  have htool : ∀ t, edit.tool = some t → t.startsWith "-" = false := nofun
  have harriving : (edit.named.filter fun p => !isOption p.2) = [("path", "/srv/-x"),
      ("exit_code", " 7 "), ("success", "TRUE"), ("params", "[1]")] := by
    cbv
  have hcode : readText "exit_code" " 7 " = .ok (.int 7) := by cbv
  have hsuccess : readText "success" "TRUE" = .ok (.bool true) := by cbv
  have hparams : readText "params" "[1]" = .ok (.object [("raw", .array [.int 1])]) := by cbv
  refine ⟨htool, ((argFields_args htool).1 _).2 ?_⟩
  rw [harriving]
  exact .cons ⟨rfl, rfl⟩ (.cons ⟨rfl, hcode⟩ (.cons ⟨rfl, hsuccess⟩ (.cons ⟨rfl, hparams⟩ .nil)))

def note : Operation where
  tool := some "Write"
  content := some "--- title"

/-- A command line that gives a content, which is read as given and then lost. -/
theorem content_of_note_is_lost :
    (Invocation.ofArgs ["run", "PreToolUse", "Write", "--content", "--- title"]).map
        (·.command) =
      .ok (.run ⟨"PreToolUse", note, none, true, none, false, false⟩) ∧
      argFields note.args = .ok [("tool", .string "Write")] := by
  constructor
  · decide +kernel
  · cbv

end Cli.Operation

end HookPolicy
