import HookPolicy.Proofs.Condition.Faults
import HookPolicy.Proofs.Condition.Spelling
import HookPolicy.Proofs.Json.Fields

/-!
# What a project declares

Where the three files of a project can be read, the check answers yes exactly for the keys of the
package document and for the spellings of the names that requirements start with
(`run_hasDependency`).
-/

namespace HookPolicy.Condition

variable {w : World} {dir : Path} {names : List String}

/-! ## Files that can be read -/

/-- The file is not there, or its text is read as the given value. -/
def Yields {ε α : Type} (w : World) (p : Path) (read : List Char → Except ε α) : Option α → Prop
  | none => Missing w p
  | some a => ∃ cs, fileText? w p = .ok (some cs) ∧ read cs = .ok a

/-- What the three files of a project hold: the package document, the settings document, and the
lines of the list of requirements. -/
structure Holds (w : World) (dir : Path) (package : Option Json)
    (settings : Option (List (String × Toml))) (listed : Option (List (List Char))) : Prop where
  package : Yields w (inDir dir "package.json") Json.readChars package
  settings : Yields w (inDir dir "pyproject.toml") Toml.read settings
  listed : Yields w (inDir dir "requirements.txt")
    (fun cs => (.ok (Text.lines cs) : Except CheckFault _)) listed

/-! ## Package documents -/

def sections : List String := ["dependencies", "devDependencies"]

/-- The name is a key of one of the two sections. -/
def IsKey (package : Option Json) (name : String) : Prop :=
  ∃ fields key entries, package = some (.object fields) ∧ key ∈ sections ∧
    Fields.get? fields key = some (.object entries) ∧ name ∈ entries.map Prod.fst

theorem mem_sectionNames {document : Json} {key name : String} :
    name ∈ sectionNames document key ↔ ∃ fields entries, document = .object fields ∧
      Fields.get? fields key = some (.object entries) ∧ name ∈ entries.map Prod.fst := by
  constructor
  · intro h
    unfold sectionNames at h
    split at h
    · rename_i entries hfield
      cases document with
      | object fields =>
        rw [Json.field] at hfield
        cases hget : Fields.get? fields key with
        | none =>
          rw [hget] at hfield
          cases hfield
        | some v =>
          rw [hget] at hfield
          exact ⟨fields, entries, rfl, hget.trans (congrArg some hfield), h⟩
      | _ => cases hfield
    · cases h
  · rintro ⟨fields, entries, rfl, hget, hname⟩
    rw [sectionNames, Json.field, hget]
    exact hname

theorem exists_packageNames_eq {package : Option Json}
    (h : Yields w (inDir dir "package.json") Json.readChars package) :
    ∃ names, packageNames w dir = .ok names ∧ ∀ name, name ∈ names ↔ IsKey package name := by
  cases package with
  | none =>
    refine ⟨[], PackageUnread.packageNames_eq (.inl h), fun name => ?_⟩
    exact iff_of_false List.not_mem_nil (by rintro ⟨_, _, _, ⟨⟩, _⟩)
  | some document =>
    obtain ⟨cs, htext, hread⟩ := h
    refine ⟨sectionNames document "dependencies" ++ sectionNames document "devDependencies", ?_,
      fun name => ?_⟩
    · rw [packageNames, htext]
      dsimp only
      rw [hread]
    · rw [List.mem_append, mem_sectionNames, mem_sectionNames]
      constructor
      · rintro (⟨fields, entries, rfl, hget, hname⟩ | ⟨fields, entries, rfl, hget, hname⟩)
        · exact ⟨fields, "dependencies", entries, rfl, by decide, hget, hname⟩
        · exact ⟨fields, "devDependencies", entries, rfl, by decide, hget, hname⟩
      · rintro ⟨fields, key, entries, hdoc, hkey, hget, hname⟩
        cases hdoc
        simp only [sections, List.mem_cons, List.not_mem_nil, or_false] at hkey
        rcases hkey with rfl | rfl
        · exact .inl ⟨fields, entries, rfl, hget, hname⟩
        · exact .inr ⟨fields, entries, rfl, hget, hname⟩

/-! ## Settings documents -/

/-- The text is among the items of a value: a list has items, and so do a text, which is gone through
by characters, and a table, which is gone through by names. -/
def Lists : Toml → String → Prop
  | .array items, s => Toml.string s ∈ items
  | .string text, s => ∃ c ∈ text.toList, s = c.toString
  | .table fields, s => s ∈ fields.map (·.1)
  | _, _ => False

/-- The value can be gone through, and all its items are texts. -/
def ListsTexts : Toml → Prop
  | .array items => ∀ v ∈ items, isText v = true
  | .string _ => True
  | .table _ => True
  | _ => False

/-- The settings have a project section whose lists of requirements hold texts only. Sections that are
left out are empty. -/
def TextsOnly (fields : List (String × Toml)) : Prop :=
  ∃ project groups, projectOf fields = .table project ∧ ListsTexts (dependenciesOf project) ∧
    groupsOf project = .table groups ∧ ∀ g ∈ groups, ListsTexts g.2

/-- The settings list the text as a requirement, always or on demand. -/
inductive Asks (fields : List (String × Toml)) (s : String) : Prop
  | always {project : List (String × Toml)} : projectOf fields = .table project →
      Lists (dependenciesOf project) s → Asks fields s
  | onDemand {project groups : List (String × Toml)} {g : String × Toml} :
      projectOf fields = .table project → groupsOf project = .table groups → g ∈ groups →
      Lists g.2 s → Asks fields s

theorem exists_map_string {items : List Toml} (h : ∀ v ∈ items, isText v = true) :
    ∃ texts : List String, items = texts.map .string := by
  induction items with
  | nil => exact ⟨[], rfl⟩
  | cons v items ih =>
    obtain ⟨hv, hitems⟩ := List.forall_mem_cons.1 h
    obtain ⟨texts, rfl⟩ := ih hitems
    cases v with
    | string s => exact ⟨s :: texts, rfl⟩
    | _ => cases hv

theorem exists_itemsOf_eq {v : Toml} (h : ListsTexts v) :
    ∃ texts : List String, itemsOf v = .ok (texts.map .string) ∧ ∀ s, s ∈ texts ↔ Lists v s := by
  cases v with
  | array items =>
    obtain ⟨texts, rfl⟩ := exists_map_string h
    refine ⟨texts, rfl, fun s => ?_⟩
    rw [Lists, List.mem_map_of_injective fun _ _ heq => Toml.string.inj heq]
  | string text =>
    refine ⟨text.toList.map Char.toString, ?_, fun s => ?_⟩
    · rw [itemsOf, List.map_map]
      rfl
    · rw [Lists, List.mem_map]
      exact exists_congr fun c => and_congr_right fun _ => eq_comm
  | table fields =>
    refine ⟨fields.map (·.1), ?_, fun s => Iff.rfl⟩
    rw [itemsOf, List.map_map]
    rfl
  | _ => exact h.elim

theorem exists_itemsOfAll_eq {vs : List Toml} (h : ∀ v ∈ vs, ListsTexts v) :
    ∃ texts : List String, itemsOfAll vs = .ok (texts.map .string) ∧
      ∀ s, s ∈ texts ↔ ∃ v ∈ vs, Lists v s := by
  induction vs with
  | nil => exact ⟨[], rfl, fun s => iff_of_false List.not_mem_nil (by rintro ⟨v, ⟨⟩, -⟩)⟩
  | cons v vs ih =>
    obtain ⟨hv, hvs⟩ := List.forall_mem_cons.1 h
    obtain ⟨texts, hitems, htexts⟩ := exists_itemsOf_eq hv
    obtain ⟨more, hall, hmore⟩ := ih hvs
    refine ⟨texts ++ more, ?_, fun s => ?_⟩
    · rw [itemsOfAll, hitems, hall, List.map_append]
    · rw [List.mem_append, htexts, hmore, List.exists_mem_cons_iff]

theorem namesOfItems_map (texts : List String) :
    namesOfItems (texts.map .string) =
      .ok (texts.filterMap fun s => requirementName? s.toList) := by
  induction texts with
  | nil => rfl
  | cons s texts ih =>
    rw [List.map_cons, namesOfItems, ih, List.filterMap_cons]
    cases requirementName? s.toList <;> rfl

theorem exists_requirementItems_eq {fields : List (String × Toml)} (h : TextsOnly fields) :
    ∃ texts : List String, requirementItems (projectOf fields) = .ok (texts.map .string) ∧
      ∀ s, s ∈ texts ↔ Asks fields s := by
  obtain ⟨project, groups, hproject, hdependencies, hgroups, hgroup⟩ := h
  obtain ⟨texts, hitems, htexts⟩ := exists_itemsOf_eq hdependencies
  have hlists : ∀ v ∈ groups.map Prod.snd, ListsTexts v := by
    intro v hv
    obtain ⟨g, hg, rfl⟩ := List.mem_map.1 hv
    exact hgroup g hg
  obtain ⟨more, hall, hmore⟩ := exists_itemsOfAll_eq hlists
  refine ⟨texts ++ more, ?_, fun s => ?_⟩
  · rw [hproject, requirementItems_table, hitems, hgroups]
    dsimp only
    rw [hall, List.map_append]
    rfl
  · rw [List.mem_append, htexts, hmore]
    constructor
    · rintro (hlist | ⟨v, hv, hlist⟩)
      · exact .always hproject hlist
      · obtain ⟨g, hg, rfl⟩ := List.mem_map.1 hv
        exact .onDemand hproject hgroups hg hlist
    · rintro (⟨hproject', hlist⟩ | ⟨hproject', hgroups', hg, hlist⟩)
      · cases hproject.symm.trans hproject'
        exact .inl hlist
      · cases hproject.symm.trans hproject'
        cases hgroups.symm.trans hgroups'
        exact .inr ⟨_, List.mem_map_of_mem hg, hlist⟩

theorem exists_settingsNames_eq {settings : Option (List (String × Toml))}
    (h : Yields w (inDir dir "pyproject.toml") Toml.read settings)
    (htexts : ∀ fields ∈ settings, TextsOnly fields) :
    ∃ names, settingsNames w dir = .ok names ∧ ∀ name, name ∈ names ↔
      ∃ fields ∈ settings, ∃ s, Asks fields s ∧ requirementName? s.toList = some name := by
  cases settings with
  | none =>
    refine ⟨[], SettingsUnread.settingsNames_eq (.inl h), fun name => ?_⟩
    exact iff_of_false List.not_mem_nil (by rintro ⟨_, ⟨⟩, -⟩)
  | some fields =>
    obtain ⟨cs, htext, hread⟩ := h
    obtain ⟨texts, hitems, hasks⟩ := exists_requirementItems_eq (htexts fields rfl)
    refine ⟨texts.filterMap fun s => requirementName? s.toList, ?_, fun name => ?_⟩
    · rw [projectOf] at hitems
      rw [settingsNames, htext]
      dsimp only
      rw [hread]
      dsimp only
      rw [hitems]
      exact namesOfItems_map texts
    · rw [List.mem_filterMap]
      constructor
      · rintro ⟨s, hs, hname⟩
        exact ⟨fields, rfl, s, (hasks s).1 hs, hname⟩
      · rintro ⟨_, ⟨⟩, s, hs, hname⟩
        exact ⟨s, (hasks s).2 hs, hname⟩

/-! ## Lists of requirements -/

/-- A comment or an option, behind blanks. -/
def IsAside (line : List Char) : Prop :=
  ∃ blanks c rest, line = blanks ++ c :: rest ∧ (∀ d ∈ blanks, Text.isBlank d = true) ∧
    (c = '#' ∨ c = '-')

theorem isRequirementLine_eq_false_iff {line : List Char} :
    isRequirementLine line = false ↔ IsAside line := by
  constructor
  · intro h
    have hsplit := List.takeWhile_append_dropWhile (p := Text.isBlank) (l := line)
    unfold isRequirementLine at h
    split at h
    · rename_i c rest hdrop
      refine ⟨line.takeWhile Text.isBlank, c, rest, hdrop ▸ hsplit.symm,
        fun d hd => List.mem_takeWhile_imp hd, ?_⟩
      simpa only [Bool.and_eq_false_iff, bne_eq_false_iff_eq] using h
    · cases h
  · rintro ⟨blanks, c, rest, rfl, hblanks, hc⟩
    have hvisible : Text.isBlank c = false := by rcases hc with rfl | rfl <;> decide
    rw [isRequirementLine, List.dropWhile_append_of_pos hblanks,
      List.dropWhile_cons_of_neg (Bool.eq_false_iff.1 hvisible)]
    rcases hc with rfl | rfl <;> rfl

theorem exists_listedNames_eq {listed : Option (List (List Char))}
    (h : Yields w (inDir dir "requirements.txt")
      (fun cs => (.ok (Text.lines cs) : Except CheckFault _)) listed) :
    ∃ names, listedNames w dir = .ok names ∧ ∀ name, name ∈ names ↔
      ∃ lines ∈ listed, ∃ line ∈ lines, ¬ IsAside line ∧ requirementName? line = some name := by
  cases listed with
  | none =>
    refine ⟨[], Missing.listedNames_eq h, fun name => ?_⟩
    exact iff_of_false List.not_mem_nil (by rintro ⟨_, ⟨⟩, -⟩)
  | some lines =>
    obtain ⟨cs, htext, hlines⟩ := h
    cases hlines
    refine ⟨_, by rw [listedNames, htext], fun name => ?_⟩
    simp only [List.mem_filterMap, List.mem_filter, ← isRequirementLine_eq_false_iff,
      Bool.not_eq_false, and_assoc, Option.mem_some_iff, exists_eq_left']

/-! ## The check -/

/-- A requirement of the project: one that the settings ask for, or a line that is listed. -/
inductive Requires (settings : Option (List (String × Toml))) (listed : Option (List (List Char)))
    (requirement : List Char) : Prop
  | asked {fields : List (String × Toml)} {s : String} : settings = some fields → Asks fields s →
      requirement = s.toList → Requires settings listed requirement
  | listed {lines : List (List Char)} : listed = some lines → requirement ∈ lines →
      ¬ IsAside requirement → Requires settings listed requirement

variable {package : Option Json} {settings : Option (List (String × Toml))}
  {listed : Option (List (List Char))}

theorem exists_declares_eq (h : Holds w dir package settings listed)
    (htexts : ∀ fields ∈ settings, TextsOnly fields) (name : String) :
    ∃ yes, declares w dir name = .ok yes ∧ (yes = true ↔ IsKey package name ∨
      ∃ requirement, Requires settings listed requirement ∧
        requirementName? requirement = some (normalName name.toList)) := by
  obtain ⟨keys, hkeys, hkey⟩ := exists_packageNames_eq h.package
  obtain ⟨asked, hasked, hask⟩ := exists_settingsNames_eq h.settings htexts
  obtain ⟨lined, hlined, hline⟩ := exists_listedNames_eq h.listed
  by_cases hmem : name ∈ keys
  · refine ⟨true, ?_, iff_of_true rfl (.inl ((hkey name).1 hmem))⟩
    rw [declares, hkeys]
    exact if_pos (List.contains_iff_mem.2 hmem)
  · refine ⟨_, by rw [declares_of_package hkeys hmem, hasked, hlined], ?_⟩
    rw [Bool.or_eq_true, List.contains_iff_mem, List.contains_iff_mem, hask, hline, ← hkey,
      or_iff_right hmem]
    constructor
    · rintro (⟨fields, hfields, s, hs, hname⟩ | ⟨lines, hlines, line, hmem, hkept, hname⟩)
      · exact ⟨s.toList, .asked hfields hs rfl, hname⟩
      · exact ⟨line, .listed hlines hmem hkept, hname⟩
    · rintro ⟨requirement, hrequires, hname⟩
      cases hrequires with
      | asked hfields hs htext =>
        subst htext
        exact .inl ⟨_, hfields, _, hs, hname⟩
      | listed hlines hmem hkept => exact .inr ⟨_, hlines, _, hmem, hkept, hname⟩

/-- Where the files of a project can be read and list texts only, the check has an answer for every
name. It is yes exactly for the keys of the package document, letter by letter, and for the names
with the same normal form as the name that a requirement starts with. So every spelling of a name
that a requirement starts with is found. -/
theorem run_hasDependency (h : Holds w dir package settings listed)
    (htexts : ∀ fields ∈ settings, TextsOnly fields) :
    (∀ name, ∃ yes, Check.hasDependency.run w dir name = .ok yes ∧
      (yes = true ↔ IsKey package name ∨
        ∃ requirement lead, Requires settings listed requirement ∧ Leads lead requirement ∧
          normalName name.toList = normalName lead)) ∧
    ∀ requirement lead, Requires settings listed requirement → Leads lead requirement →
      (∀ name, normalName name = normalName lead ↔ Respells lead name) ∧
      ∀ name, Respells lead name.toList → Check.hasDependency.run w dir name = .ok true := by
  have hanswer : ∀ name, ∃ yes, Check.hasDependency.run w dir name = .ok yes ∧
      (yes = true ↔ IsKey package name ∨
        ∃ requirement lead, Requires settings listed requirement ∧ Leads lead requirement ∧
          normalName name.toList = normalName lead) := by
    intro name
    obtain ⟨yes, hyes, hiff⟩ := exists_declares_eq h htexts name
    refine ⟨yes, hyes, hiff.trans (or_congr_right (exists_congr fun requirement => ?_))⟩
    rw [requirementName?_eq_some_iff, ← exists_and_left]
    exact exists_congr fun lead => and_congr_right fun _ => and_congr_right fun _ => eq_comm
  refine ⟨hanswer, fun requirement lead hrequires hleads => ?_⟩
  have hspelled : ∀ name, normalName name = normalName lead ↔ Respells lead name :=
    fun _ => normalName_eq_iff_respells hleads.isName.2
  refine ⟨hspelled, fun name hname => ?_⟩
  obtain ⟨yes, hyes, hiff⟩ := hanswer name
  rw [hyes, hiff.2 (.inr ⟨requirement, lead, hrequires, hleads, (hspelled _).2 hname⟩)]

def workshopPackageText : String := "\x7b\"devDependencies\":\x7b\"@a/b\":1\x7d\x7d"

def workshopPackage : Json := .object [("devDependencies", .object [("@a/b", .int 1)])]

def workshopSettingsText : String := "[project]\ndependencies=['Zope.Event>5']"

def workshopSettings : List (String × Toml) :=
  [("project", .table [("dependencies", .array [.string "Zope.Event>5"])])]

def workshopListText : String := "#\n ruff[x]\n-e ."

def workshopLines : List (List Char) := ["#".toList, " ruff[x]".toList, "-e .".toList]

/-- A project with a package document, settings and a list of requirements. -/
def workshop : World where
  tree := ⟨[(["package.json"], .file (Utf8.encode workshopPackageText) false),
    (["pyproject.toml"], .file (Utf8.encode workshopSettingsText) false),
    (["requirements.txt"], .file (Utf8.encode workshopListText) false)]⟩
  cwd := "/"
  env := []
  now := .ofSeconds 0 0
  home := "/"

theorem holds_workshop :
    Holds workshop workshop.dir workshopPackage workshopSettings workshopLines where
  package := ⟨workshopPackageText.toList, by decide +kernel, by cbv⟩
  settings := ⟨workshopSettingsText.toList, by decide +kernel, by cbv⟩
  listed := ⟨workshopListText.toList, by decide +kernel, by decide +kernel⟩

theorem textsOnly_workshop : ∀ fields ∈ some workshopSettings, TextsOnly fields := by
  rintro _ ⟨⟩
  refine ⟨_, _, rfl, fun v hv => ?_, rfl, nofun⟩
  rw [List.mem_singleton.1 hv]
  rfl

theorem requires_workshop :
    Requires (some workshopSettings) (some workshopLines) "Zope.Event>5".toList ∧
      Requires (some workshopSettings) (some workshopLines) " ruff[x]".toList := by
  refine ⟨.asked rfl (.always rfl List.mem_cons_self) rfl, .listed rfl (by decide) ?_⟩
  rw [← isRequirementLine_eq_false_iff]
  decide

theorem leads_workshop : Leads "Zope.Event".toList "Zope.Event>5".toList ∧
    Leads "ruff".toList " ruff[x]".toList := by
  have hzope : "Zope.Event".toList.all isNameChar = true := by decide
  have hruff : "ruff".toList.all isNameChar = true := by decide
  refine ⟨⟨⟨⟨'Z', by decide, by decide⟩, List.all_eq_true.1 hzope⟩, [], ">5".toList, by decide,
    nofun, fun c hc => ?_⟩, ⟨⟨⟨'r', by decide, by decide⟩, List.all_eq_true.1 hruff⟩, [' '],
    "[x]".toList, by decide, List.forall_mem_singleton.2 (by decide), fun c hc => ?_⟩⟩
  · cases hc
    decide
  · cases hc
    decide

theorem run_hasDependency_workshop :
    Holds workshop workshop.dir workshopPackage workshopSettings workshopLines ∧
      (∀ fields ∈ some workshopSettings, TextsOnly fields) ∧
      Requires (some workshopSettings) (some workshopLines) "Zope.Event>5".toList ∧
      Requires (some workshopSettings) (some workshopLines) " ruff[x]".toList ∧
      Check.hasDependency.run workshop workshop.dir "zope_-EVENT" = .ok true ∧
      Check.hasDependency.run workshop workshop.dir "Ruff" = .ok true ∧
      Check.hasDependency.run workshop workshop.dir "@a/b" = .ok true := by
  obtain ⟨hasked, hlisted⟩ := requires_workshop
  obtain ⟨hzope, hruff⟩ := leads_workshop
  obtain ⟨hanswer, hspelled⟩ := run_hasDependency holds_workshop textsOnly_workshop
  obtain ⟨hsame, hfound⟩ := hspelled _ _ hasked hzope
  obtain ⟨hsame', hfound'⟩ := hspelled _ _ hlisted hruff
  refine ⟨holds_workshop, textsOnly_workshop, hasked, hlisted, hfound _ ?_, hfound' _ ?_, ?_⟩
  · rw [← hsame]
    decide +kernel
  · rw [← hsame']
    decide +kernel
  · obtain ⟨yes, hyes, hiff⟩ := hanswer "@a/b"
    rw [hyes, hiff.2 (.inl ⟨_, "devDependencies", _, rfl, by decide, rfl, by decide⟩)]

end HookPolicy.Condition
