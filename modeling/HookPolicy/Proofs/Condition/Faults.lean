import HookPolicy.Proofs.Condition.Agreement

/-!
# Where conditions fail

An evaluation gives no answer exactly where it comes to a check that fails (`eval_fails_iff`). A
check fails on names that are too long, on project files that are no text or that are cut off by a
bound of their reader, and on settings whose sections have the wrong kind. Files that are absent or
malformed only declare nothing.
-/

namespace HookPolicy.Condition

variable {w : World} {dir p : Path} {f : CheckFault}

/-! ## Files -/

/-- The text of a file cannot be had. -/
inductive ReadFails (w : World) (p : Path) : CheckFault → Prop
  | nameTooLong : w.find p = .error .nameTooLong → ReadFails w p (.nameTooLong p.toString)
  | notText {place : List String} {bytes : List UInt8} {executable : Bool} {issue : Utf8.Issue} :
      w.find p = .ok (place, .file bytes executable) → Utf8.decode bytes = .error issue →
      ReadFails w p (.notText bytes issue)

theorem fileText?_eq_error_iff : fileText? w p = .error f ↔ ReadFails w p f := by
  constructor
  · intro h
    unfold fileText? at h
    split at h
    · rename_i bytes executable hfile
      split at h
      · cases h
      · rename_i issue hissue
        cases h
        exact .notText hfile hissue
    · rename_i hlong
      cases h
      exact .nameTooLong hlong
    · cases h
  · intro h
    cases h with
    | nameTooLong hlong => rw [fileText?, hlong]
    | notText hfile hissue =>
      rw [fileText?, hfile]
      dsimp only
      rw [hissue]

/-- There is no file at the place: nothing, or a directory, or links that lead nowhere. -/
def Missing (w : World) (p : Path) : Prop :=
  w.find p ≠ .error .nameTooLong ∧
    ∀ place bytes executable, w.find p ≠ .ok (place, .file bytes executable)

theorem Missing.fileText?_eq (h : Missing w p) : fileText? w p = .ok none := by
  unfold fileText?
  split
  · rename_i hfile
    exact absurd hfile (h.2 _ _ _)
  · rename_i hlong
    exact absurd hlong h.1
  · rfl

/-! ## Package documents -/

/-- The bounds of the reader cut a document off; one that is only malformed is passed over. -/
inductive PackageFails (w : World) (dir : Path) : CheckFault → Prop
  | read {f : CheckFault} : ReadFails w (inDir dir "package.json") f → PackageFails w dir f
  | document {cs : List Char} {e : Json.ReadError} :
      fileText? w (inDir dir "package.json") = .ok (some cs) → Json.readChars cs = .error e →
      (∀ fault offset, e ≠ .malformed fault offset) → PackageFails w dir (.document e)

theorem packageNames_eq_error_iff : packageNames w dir = .error f ↔ PackageFails w dir f := by
  constructor
  · intro h
    unfold packageNames at h
    split at h
    · rename_i e hread
      cases h
      exact .read (fileText?_eq_error_iff.1 hread)
    · cases h
    · rename_i cs htext
      split at h
      · cases h
      · cases h
      · rename_i e hcut hdoc
        cases h
        exact .document htext hdoc fun fault offset he => hcut fault offset he
  · intro h
    cases h with
    | read hread => rw [packageNames, fileText?_eq_error_iff.2 hread]
    | document htext hdoc hcut =>
      rename_i e
      rw [packageNames, htext]
      dsimp only
      rw [hdoc]
      cases e with
      | malformed fault offset => exact absurd rfl (hcut fault offset)
      | tooDeep inObject => rfl
      | tooManyDigits count => rfl

/-! ## Settings documents -/

/-- A value whose items can be gone through. -/
def isList : Toml → Bool
  | .array _ | .string _ | .table _ => true
  | _ => false

def isText : Toml → Bool
  | .string _ => true
  | _ => false

variable {v project : Toml} {vs items : List Toml}

theorem itemsOf_eq_error_iff :
    itemsOf v = .error f ↔ isList v = false ∧ f = .notList v.kind := by
  cases v <;> simp [itemsOf, isList, eq_comm]

theorem exists_itemsOf_iff : (∃ items, itemsOf v = .ok items) ↔ isList v = true := by
  cases v <;> simp [itemsOf, isList]

theorem itemsOfAll_eq_error_iff :
    itemsOfAll vs = .error f ↔ ∃ v, vs.find? (!isList ·) = some v ∧ f = .notList v.kind := by
  induction vs with
  | nil => simp [itemsOfAll]
  | cons v vs ih =>
    cases hlist : isList v with
    | false =>
      have hitems := itemsOf_eq_error_iff.2 ⟨hlist, rfl⟩
      rw [itemsOfAll, hitems, List.find?_cons_of_pos (by rw [hlist]; rfl)]
      simp [eq_comm]
    | true =>
      obtain ⟨items, hitems⟩ := exists_itemsOf_iff.2 hlist
      rw [itemsOfAll, hitems, List.find?_cons_of_neg (by rw [hlist]; exact Bool.false_ne_true),
        ← ih]
      cases itemsOfAll vs with
      | error e => rfl
      | ok more => exact iff_of_false nofun nofun

theorem namesOfItems_eq_error_iff :
    namesOfItems items = .error f ↔
      ∃ v, items.find? (!isText ·) = some v ∧ f = .notRequirement v.kind := by
  induction items with
  | nil => simp [namesOfItems]
  | cons v items ih =>
    cases v with
    | string s =>
      rw [namesOfItems, List.find?_cons_of_neg (by exact Bool.false_ne_true), ← ih]
      cases namesOfItems items with
      | error e => rfl
      | ok names => exact iff_of_false nofun nofun
    | _ => simp [namesOfItems, isText, eq_comm]

def dependenciesOf (fields : List (String × Toml)) : Toml :=
  (fields.lookup "dependencies").getD (.array [])

def groupsOf (fields : List (String × Toml)) : Toml :=
  (fields.lookup "optional-dependencies").getD (.table [])

def projectOf (fields : List (String × Toml)) : Toml := (fields.lookup "project").getD (.table [])

/-- The project section has the wrong kind somewhere: the first such place counts. -/
inductive SectionFails : Toml → CheckFault → Prop
  | noTable {project : Toml} : (∀ fields, project ≠ .table fields) →
      SectionFails project (.notTable project.kind "get")
  | dependencies {fields : List (String × Toml)} : isList (dependenciesOf fields) = false →
      SectionFails (.table fields) (.notList (dependenciesOf fields).kind)
  | groups {fields : List (String × Toml)} : isList (dependenciesOf fields) = true →
      (∀ groups, groupsOf fields ≠ .table groups) →
      SectionFails (.table fields) (.notTable (groupsOf fields).kind "values")
  | group {fields groups : List (String × Toml)} {v : Toml} :
      isList (dependenciesOf fields) = true → groupsOf fields = .table groups →
      (groups.map (·.2)).find? (!isList ·) = some v → SectionFails (.table fields) (.notList v.kind)

theorem requirementItems_table (fields : List (String × Toml)) :
    requirementItems (.table fields) =
      match itemsOf (dependenciesOf fields) with
      | .error e => .error e
      | .ok items =>
        match groupsOf fields with
        | .table groups => (itemsOfAll (groups.map (·.2))).map (items ++ ·)
        | v => .error (.notTable v.kind "values") := by
  rfl

theorem requirementItems_eq_error_iff :
    requirementItems project = .error f ↔ SectionFails project f := by
  constructor
  · intro h
    cases project with
    | table fields =>
      rw [requirementItems_table] at h
      cases hitems : itemsOf (dependenciesOf fields) with
      | error e =>
        obtain ⟨hlist, rfl⟩ := itemsOf_eq_error_iff.1 hitems
        rw [hitems] at h
        cases h
        exact .dependencies hlist
      | ok items =>
        have hlist := exists_itemsOf_iff.1 ⟨items, hitems⟩
        rw [hitems] at h
        dsimp only at h
        split at h
        · rename_i groups hgroups
          cases hall : itemsOfAll (groups.map (·.2)) with
          | error e =>
            obtain ⟨v, hfind, rfl⟩ := itemsOfAll_eq_error_iff.1 hall
            rw [hall] at h
            cases h
            exact .group hlist hgroups hfind
          | ok more =>
            rw [hall] at h
            cases h
        · rename_i hgroups
          cases h
          exact .groups hlist hgroups
    | _ =>
      cases h
      exact .noTable nofun
  · intro h
    cases h with
    | noTable hkind =>
      unfold requirementItems
      split
      · exact absurd rfl (hkind _)
      · rfl
    | dependencies hlist =>
      rw [requirementItems_table, itemsOf_eq_error_iff.2 ⟨hlist, rfl⟩]
    | groups hlist hkind =>
      obtain ⟨items, hitems⟩ := exists_itemsOf_iff.2 hlist
      rw [requirementItems_table, hitems]
      dsimp only
      split
      · rename_i hgroups
        exact absurd hgroups (hkind _)
      · rfl
    | group hlist hgroups hfind =>
      obtain ⟨items, hitems⟩ := exists_itemsOf_iff.2 hlist
      rw [requirementItems_table, hitems, hgroups]
      dsimp only
      rw [itemsOfAll_eq_error_iff.2 ⟨_, hfind, rfl⟩]
      rfl

/-- A settings document is cut off by a bound of its reader, or its project section has the wrong
kind somewhere; one that is only malformed is passed over. -/
inductive SettingsFails (w : World) (dir : Path) : CheckFault → Prop
  | read {f : CheckFault} : ReadFails w (inDir dir "pyproject.toml") f → SettingsFails w dir f
  | tooDeep {cs : List Char} : fileText? w (inDir dir "pyproject.toml") = .ok (some cs) →
      Toml.read cs = .error .tooDeep → SettingsFails w dir .settingsTooDeep
  | digits {cs : List Char} {count : Nat} :
      fileText? w (inDir dir "pyproject.toml") = .ok (some cs) →
      Toml.read cs = .error (.tooManyDigits count) → SettingsFails w dir (.settingsDigits count)
  | project {cs : List Char} {fields : List (String × Toml)} {f : CheckFault} :
      fileText? w (inDir dir "pyproject.toml") = .ok (some cs) → Toml.read cs = .ok fields →
      SectionFails (projectOf fields) f → SettingsFails w dir f
  | requirement {cs : List Char} {fields : List (String × Toml)} {items : List Toml} {v : Toml} :
      fileText? w (inDir dir "pyproject.toml") = .ok (some cs) → Toml.read cs = .ok fields →
      requirementItems (projectOf fields) = .ok items → items.find? (!isText ·) = some v →
      SettingsFails w dir (.notRequirement v.kind)

theorem settingsNames_eq_error_iff : settingsNames w dir = .error f ↔ SettingsFails w dir f := by
  constructor
  · intro h
    unfold settingsNames at h
    split at h
    · rename_i e hread
      cases h
      exact .read (fileText?_eq_error_iff.1 hread)
    · cases h
    · rename_i cs htext
      split at h
      · rename_i fields hdoc
        split at h
        · rename_i items hitems
          obtain ⟨v, hfind, rfl⟩ := namesOfItems_eq_error_iff.1 h
          exact .requirement htext hdoc hitems hfind
        · rename_i e hitems
          cases h
          exact .project htext hdoc (requirementItems_eq_error_iff.1 hitems)
      · cases h
      · rename_i hdoc
        cases h
        exact .tooDeep htext hdoc
      · rename_i count hdoc
        cases h
        exact .digits htext hdoc
  · intro h
    cases h with
    | read hread => rw [settingsNames, fileText?_eq_error_iff.2 hread]
    | tooDeep htext hdoc =>
      rw [settingsNames, htext]
      dsimp only
      rw [hdoc]
    | digits htext hdoc =>
      rw [settingsNames, htext]
      dsimp only
      rw [hdoc]
    | project htext hdoc hsection =>
      rw [projectOf, ← requirementItems_eq_error_iff] at hsection
      rw [settingsNames, htext]
      dsimp only
      rw [hdoc]
      dsimp only
      rw [hsection]
    | requirement htext hdoc hitems hfind =>
      rw [projectOf] at hitems
      rw [settingsNames, htext]
      dsimp only
      rw [hdoc]
      dsimp only
      rw [hitems]
      exact namesOfItems_eq_error_iff.2 ⟨_, hfind, rfl⟩

/-! ## Checks -/

theorem listedNames_eq_error_iff :
    listedNames w dir = .error f ↔ ReadFails w (inDir dir "requirements.txt") f := by
  rw [← fileText?_eq_error_iff, listedNames]
  cases fileText? w (inDir dir "requirements.txt") with
  | error e =>
    constructor <;>
    · intro h
      cases h
      rfl
  | ok text? =>
    cases text? with
    | none => exact iff_of_false nofun nofun
    | some cs => exact iff_of_false nofun nofun

/-- The run of a check with its argument fails. Settings and requirements are only read for a name
that the package document does not declare, and the settings come first. -/
inductive Fails (w : World) (dir : Path) : Check × String → CheckFault → Prop
  | path {arg : String} : w.find (dir.join (Path.ofString arg)) = .error .nameTooLong →
      Fails w dir (.fileExists, arg) (.nameTooLong (dir.join (Path.ofString arg)).toString)
  | package {name : String} {f : CheckFault} : PackageFails w dir f →
      Fails w dir (.hasDependency, name) f
  | settings {name : String} {names : List String} {f : CheckFault} :
      packageNames w dir = .ok names → name ∉ names → SettingsFails w dir f →
      Fails w dir (.hasDependency, name) f
  | requirements {name : String} {names : List String} {settings : List (List Char)}
      {f : CheckFault} : packageNames w dir = .ok names → name ∉ names →
      settingsNames w dir = .ok settings → ReadFails w (inDir dir "requirements.txt") f →
      Fails w dir (.hasDependency, name) f

theorem declares_of_package {names : List String} {name : String}
    (hnames : packageNames w dir = .ok names) (hname : name ∉ names) :
    declares w dir name = match settingsNames w dir, listedNames w dir with
      | .ok settings, .ok listed =>
        let wanted := normalName name.toList
        .ok (settings.contains wanted || listed.contains wanted)
      | .error e, _ => .error e
      | _, .error e => .error e := by
  have hmissing : names.contains name = false := by
    simpa [List.contains_iff_mem] using hname
  rw [declares, hnames]
  dsimp only
  rw [hmissing]
  rfl

theorem declares_eq_error_iff {name : String} :
    declares w dir name = .error f ↔ Fails w dir (.hasDependency, name) f := by
  constructor
  · intro h
    -- the cases follow the order in which the files are read
    cases hnames : packageNames w dir with
    | error e =>
      rw [declares, hnames] at h
      cases h
      exact .package (packageNames_eq_error_iff.1 hnames)
    | ok names =>
      by_cases hname : name ∈ names
      · rw [declares, hnames] at h
        dsimp only at h
        rw [if_pos (List.contains_iff_mem.2 hname)] at h
        cases h
      · rw [declares_of_package hnames hname] at h
        cases hsettings : settingsNames w dir with
        | error e =>
          rw [hsettings] at h
          cases h
          exact .settings hnames hname (settingsNames_eq_error_iff.1 hsettings)
        | ok settings =>
          rw [hsettings] at h
          cases hlisted : listedNames w dir with
          | error e =>
            rw [hlisted] at h
            cases h
            exact .requirements hnames hname hsettings (listedNames_eq_error_iff.1 hlisted)
          | ok listed =>
            rw [hlisted] at h
            cases h
  · intro h
    cases h with
    | package hpackage => rw [declares, packageNames_eq_error_iff.2 hpackage]
    | settings hnames hname hsettings =>
      rw [declares_of_package hnames hname, settingsNames_eq_error_iff.2 hsettings]
    | requirements hnames hname hsettings hread =>
      rw [declares_of_package hnames hname, hsettings, listedNames_eq_error_iff.2 hread]

theorem run_eq_error_iff {c : Check × String} :
    c.1.run w dir c.2 = .error f ↔ Fails w dir c f := by
  obtain ⟨check, arg⟩ := c
  cases check with
  | envSet => exact iff_of_false nofun nofun
  | fileExists =>
    constructor
    · intro h
      dsimp only [Check.run, World.finds] at h
      split at h
      · cases h
      · rename_i hfinds
        cases h
        refine .path ?_
        split at hfinds
        · cases hfinds
        · assumption
        · cases hfinds
    · intro h
      cases h with
      | path hlong =>
        dsimp only [Check.run, World.finds]
        rw [hlong]
  | hasDependency => exact declares_eq_error_iff

/-! ## Evaluations -/

def holds (w : World) (dir : Path) (c : Check × String) : Bool :=
  decide (c.1.run w dir c.2 = .ok true)

/-- The first check that does not hold gives the answer. -/
theorem answer_eq (w : World) (dir : Path) (checks : List (Check × String)) :
    answer w dir checks = match checks.find? (!holds w dir ·) with
      | some c => c.1.run w dir c.2
      | none => .ok true := by
  induction checks with
  | nil => rfl
  | cons c checks ih =>
    rw [answer, List.allM, List.find?_cons, holds]
    cases hrun : c.1.run w dir c.2 with
    | error e => exact hrun.symm
    | ok passes =>
      cases passes with
      | false => exact hrun.symm
      | true => exact ih

theorem answer_eq_error_iff {checks : List (Check × String)} :
    answer w dir checks = .error f ↔ ∃ before c after, checks = before ++ c :: after ∧
      (∀ b ∈ before, b.1.run w dir b.2 = .ok true) ∧ Fails w dir c f := by
  rw [answer_eq]
  constructor
  · intro h
    split at h
    · rename_i c hfind
      obtain ⟨-, before, after, hchecks, hbefore⟩ := List.find?_eq_some_iff_append.1 hfind
      refine ⟨before, c, after, hchecks, fun b hb => ?_, run_eq_error_iff.1 h⟩
      simpa [holds] using hbefore b hb
    · cases h
  · rintro ⟨before, c, after, hchecks, hbefore, hfails⟩
    have hrun := run_eq_error_iff.2 hfails
    have hfind : checks.find? (!holds w dir ·) = some c := by
      refine List.find?_eq_some_iff_append.2 ⟨?_, before, after, hchecks, fun b hb => ?_⟩
      · simp [holds, hrun]
      · simp [holds, hbefore b hb]
    rw [hfind]
    exact hrun

/-- There is no package document, or a malformed one. -/
def PackageUnread (w : World) (dir : Path) : Prop :=
  Missing w (inDir dir "package.json") ∨ ∃ cs fault offset,
    fileText? w (inDir dir "package.json") = .ok (some cs) ∧
      Json.readChars cs = .error (.malformed fault offset)

/-- There is no settings document, or a malformed one. -/
def SettingsUnread (w : World) (dir : Path) : Prop :=
  Missing w (inDir dir "pyproject.toml") ∨ ∃ cs,
    fileText? w (inDir dir "pyproject.toml") = .ok (some cs) ∧ Toml.read cs = .error .malformed

theorem PackageUnread.packageNames_eq (h : PackageUnread w dir) : packageNames w dir = .ok [] := by
  rcases h with hmissing | ⟨cs, fault, offset, htext, hdoc⟩
  · rw [packageNames, hmissing.fileText?_eq]
  · rw [packageNames, htext]
    dsimp only
    rw [hdoc]

theorem SettingsUnread.settingsNames_eq (h : SettingsUnread w dir) :
    settingsNames w dir = .ok [] := by
  rcases h with hmissing | ⟨cs, htext, hdoc⟩
  · rw [settingsNames, hmissing.fileText?_eq]
  · rw [settingsNames, htext]
    dsimp only
    rw [hdoc]

theorem Missing.listedNames_eq (h : Missing w (inDir dir "requirements.txt")) :
    listedNames w dir = .ok [] := by
  rw [listedNames, h.fileText?_eq]

/-- An evaluation gives no answer exactly where it comes, behind checks that hold, to a check that
fails. Project files that are absent or malformed fail no check; they declare nothing. -/
theorem eval_fails_iff (w : World) (cwd condition : String) :
    (∀ f, (eval w cwd condition).result = .error f ↔
      ∃ before c after, (parts condition).filterMap checkOf? = before ++ c :: after ∧
        (∀ b ∈ before, b.1.run w (directory w cwd) b.2 = .ok true) ∧
        Fails w (directory w cwd) c f) ∧
    ∀ dir, (PackageUnread w dir → packageNames w dir = .ok []) ∧
      (SettingsUnread w dir → settingsNames w dir = .ok []) ∧
      (Missing w (inDir dir "requirements.txt") → listedNames w dir = .ok []) := by
  refine ⟨fun f => ?_, fun dir => ⟨?_, ?_, ?_⟩⟩
  · rw [eval_result]
    exact answer_eq_error_iff
  · exact PackageUnread.packageNames_eq
  · exact SettingsUnread.settingsNames_eq
  · exact Missing.listedNames_eq

/-- A project whose package document is one byte that starts no character. -/
def spoiled : World := { site with tree := ⟨[(["package.json"], .file [0xff] false)]⟩ }

theorem eval_fails_on_spoiled :
    (eval spoiled "" "has_dependency('left-pad')").result =
      .error (.notText [0xff] ⟨0, 1, 0xff, .badStart⟩) := by
  decide +kernel

end HookPolicy.Condition
