import HookPolicy.Log.Place
import HookPolicy.Proofs.Files.Climbing
import HookPolicy.Proofs.Text.Finding

/-!
# Names of files in log lines

Where the text of a path begins with the text of the home directory, a `~` takes its place, and of
any other path the last part is shown. For paths as they are written this tells what lies below the
home directory, unless the path goes on within the last name of that directory: then it lies
elsewhere, and yet the `~` stands in front of it (`placeText_tells`).
-/

namespace HookPolicy

namespace Path

variable {p q : Path} {part text rest : String}

/-- The second path is the first or lies below it, part by part. -/
structure Below (p q : Path) : Prop where
  slashes : q.slashes = p.slashes
  parts : p.parts <+: q.parts

/-- The text is written as its path is. -/
def Canonical (text : String) : Prop := (ofString text).toString = text

theorem mem_parts (h : part ∈ (ofString text).parts) : part ≠ "" ∧ '/' ∉ part.toList := by
  rw [parts_ofString, List.mem_filter] at h
  exact ⟨fun hempty => of_decide_eq_true h.2 (.inl hempty), notMem_of_mem_segments h.1⟩

theorem slash_notMem_name (text : String) : '/' ∉ (ofString text).name.toList := by
  rw [name]
  cases hlast : (ofString text).parts.getLast? with
  | none => exact List.not_mem_nil
  | some part => exact (mem_parts (List.mem_of_getLast? hlast)).2

theorem toString_of_parts (h : p.parts ≠ []) :
    p.toString = slashText p.slashes ++ "/".intercalate p.parts := by
  have hparts : p.parts.isEmpty = false := List.isEmpty_eq_false_iff.2 h
  rw [toString, hparts, Bool.and_false, if_neg Bool.false_ne_true]

/-- Behind a path that ends in a name, what lies below it goes on with a slash. -/
theorem Below.toString_eq (h : Below p q) (hparts : p.parts ≠ []) :
    ∃ rest, q.toString = p.toString ++ rest ∧ (rest = "" ∨ rest.startsWith "/" = true) := by
  obtain ⟨more, hmore⟩ := h.parts
  have hparts' : q.parts ≠ [] := by
    rw [← hmore]
    exact List.append_ne_nil_of_left_ne_nil hparts more
  rw [toString_of_parts hparts, toString_of_parts hparts', h.slashes, ← hmore]
  by_cases hnil : more = []
  · exact ⟨"", by rw [hnil, List.append_nil, String.append_empty], .inl rfl⟩
  · have hslash : ("/" ++ "/".intercalate more).startsWith "/" = true :=
      startsWith_slash_iff.2 ⟨("/".intercalate more).toList, by rw [String.toList_append]; rfl⟩
    refine ⟨"/" ++ "/".intercalate more, ?_, .inr hslash⟩
    rw [String.intercalate_append_of_ne_nil hparts hnil, String.append_assoc, String.append_assoc]

theorem Canonical.exists_suffix (h : Canonical text) (hparts : (ofString text).parts ≠ []) :
    ∃ part ∈ (ofString text).parts, part.toList <:+ text.toList := by
  obtain ⟨front, part, hlast⟩ := (List.eq_nil_or_concat' _).resolve_left hparts
  refine ⟨part, by rw [hlast]; exact List.mem_append_right _ (List.mem_singleton_self part), ?_⟩
  rw [Canonical, toString_of_parts hparts, hlast] at h
  rw [← h]
  by_cases hfront : front = []
  · rw [hfront, List.nil_append, String.intercalate_singleton, String.toList_append]
    exact List.suffix_append _ _
  · rw [String.intercalate_append_of_ne_nil hfront (List.cons_ne_nil _ _),
      String.intercalate_singleton, ← String.append_assoc, String.toList_append]
    exact List.suffix_append _ _

/-- What goes on with a slash behind a text that ends in a name lies below it. -/
theorem Canonical.below_append (h : Canonical text) (hparts : (ofString text).parts ≠ [])
    (hrest : rest = "" ∨ rest.startsWith "/" = true) :
    Below (ofString text) (ofString (text ++ rest)) := by
  rcases hrest with rfl | hslash
  · rw [String.append_empty]
    exact ⟨rfl, List.prefix_rfl⟩
  · obtain ⟨more, hmore⟩ := startsWith_slash_iff.1 hslash
    obtain ⟨part, hpart, front, htext⟩ := h.exists_suffix hparts
    obtain ⟨hsome, hone⟩ := mem_parts hpart
    rw [← String.toList_inj.ne] at hsome
    have hne : text.toList ≠ [] := by
      rw [← htext]
      exact List.append_ne_nil_of_right_ne_nil front hsome
    have hlast : text.toList.getLast? ≠ some '/' := by
      rw [← htext, List.getLast?_append_of_ne_nil _ hsome]
      exact fun hslash => hone (List.mem_of_getLast? hslash)
    have hlist : (text ++ rest).toList = text.toList ++ '/' :: more := by
      rw [String.toList_append, hmore]
    rw [ofString, ofString, hlist, ofChars_between hne hlast more]
    exact ⟨rfl, List.prefix_append _ _⟩

/-- Among texts as they are written, what lies below a directory with a name is what goes on with a
slash behind it. -/
theorem below_iff {home path : String} (hhome : Canonical home)
    (hparts : (ofString home).parts ≠ []) (hpath : Canonical path) :
    Below (ofString home) (ofString path) ↔
      ∃ rest, path = home ++ rest ∧ (rest = "" ∨ rest.startsWith "/" = true) := by
  constructor
  · intro h
    obtain ⟨rest, htext, hrest⟩ := h.toString_eq hparts
    rw [hpath, hhome] at htext
    exact ⟨rest, htext, hrest⟩
  · rintro ⟨rest, rfl, hrest⟩
    exact hhome.below_append hparts hrest

end Path

namespace Log

variable {env : Env} {home path rest : String}

/-! ## What is shown -/

theorem placeText_of_append (hhome : env.textOf "HOME" = home) (hsome : home ≠ "")
    (h : path = home ++ rest) : placeText env path = "~" ++ rest := by
  have hlist : home.toList ≠ [] := mt String.toList_eq_nil_iff.1 hsome
  have hpath : path ≠ "" := by
    rw [h, ← String.toList_inj.ne, String.toList_append]
    exact List.append_ne_nil_of_left_ne_nil hlist _
  have hrest : Text.rest? home.toList path.toList = some rest.toList := by
    rw [Text.rest?_eq_some_iff, h, String.toList_append]
  rw [placeText, if_neg (by simpa using hpath), hhome]
  dsimp only
  rw [if_neg (by simpa using hsome), hrest, ← String.toList_inj, String.toList_ofList,
    String.toList_append]
  rfl

theorem placeText_of_not_prefix (hhome : env.textOf "HOME" = home) (hpath : path ≠ "")
    (h : home = "" ∨ ¬ home.toList <+: path.toList) :
    placeText env path = (Path.ofString path).name := by
  rw [placeText, if_neg (by simpa using hpath), hhome]
  dsimp only
  by_cases hsome : home = ""
  · rw [if_pos (by simpa using hsome)]
  · have hnone : Text.rest? home.toList path.toList = none := by
      rw [Option.eq_none_iff_forall_ne_some]
      intro rest hrest
      exact h.resolve_left hsome ⟨rest, (Text.rest?_eq_some_iff.1 hrest).symm⟩
    rw [if_neg (by simpa using hsome), hnone]

/-- The text tells what follows the home directory in a path that lies there, and of any other path
it tells the last part. -/
structure Tells (home path shown : String) : Prop where
  below : home ≠ "" → Path.Below (.ofString home) (.ofString path) →
    ∃ rest, shown = "~" ++ rest ∧ Path.ofString (home ++ rest) = .ofString path
  other : (home = "" ∨ ¬ Path.Below (.ofString home) (.ofString path)) →
    shown = (Path.ofString path).name

/-- The path goes on within the last name of the home directory. -/
def RunsOn (home path : String) : Prop :=
  ∃ c rest, path.toList = home.toList ++ c :: rest ∧ c ≠ '/'

theorem prefix_iff : home.toList <+: path.toList ↔ ∃ rest, path = home ++ rest := by
  constructor
  · rintro ⟨rest, hrest⟩
    refine ⟨String.ofList rest, ?_⟩
    rw [← String.toList_inj, String.toList_append, String.toList_ofList, hrest]
  · rintro ⟨rest, rfl⟩
    rw [String.toList_append]
    exact List.prefix_append _ _

/-- The law holds where a path begins with the text of the home directory exactly if it lies below
it. -/
theorem tells_of_iff (hhome : env.textOf "HOME" = home) (hpath : path ≠ "")
    (h : home ≠ "" → (home.toList <+: path.toList ↔
      Path.Below (.ofString home) (.ofString path))) :
    Tells home path (placeText env path) where
  below hsome hbelow := by
    obtain ⟨rest, hrest⟩ := prefix_iff.1 ((h hsome).2 hbelow)
    exact ⟨rest, placeText_of_append hhome hsome hrest, by rw [hrest]⟩
  other hother := by
    refine placeText_of_not_prefix hhome hpath (or_iff_not_imp_left.2 fun hsome => ?_)
    exact mt (h hsome).1 (hother.resolve_left hsome)

theorem RunsOn.not_below (hhome : Path.Canonical home) (hparts : (Path.ofString home).parts ≠ [])
    (hpath : Path.Canonical path) (h : RunsOn home path) :
    ¬ Path.Below (.ofString home) (.ofString path) := by
  rw [Path.below_iff hhome hparts hpath]
  rintro ⟨rest, rfl, hrest⟩
  obtain ⟨c, more, htext, hc⟩ := h
  rw [String.toList_append, List.append_cancel_left_eq] at htext
  rcases hrest with rfl | hslash
  · cases htext
  · obtain ⟨behind, hbehind⟩ := Path.startsWith_slash_iff.1 hslash
    rw [htext, List.cons.injEq] at hbehind
    exact hc hbehind.1

theorem prefix_iff_below (hhome : Path.Canonical home) (hparts : (Path.ofString home).parts ≠ [])
    (hpath : Path.Canonical path) (h : ¬ RunsOn home path) :
    home.toList <+: path.toList ↔ Path.Below (.ofString home) (.ofString path) := by
  rw [prefix_iff, Path.below_iff hhome hparts hpath]
  refine exists_congr fun rest => ⟨fun hrest => ⟨hrest, ?_⟩, And.left⟩
  cases hlist : rest.toList with
  | nil => exact .inl (String.toList_eq_nil_iff.1 hlist)
  | cons c more =>
    have hc : c = '/' := by
      by_contra hne
      exact h ⟨c, more, by rw [hrest, String.toList_append, hlist], hne⟩
    exact .inr (Path.startsWith_slash_iff.2 ⟨more, by rw [hlist, hc]⟩)

/-- A `~` stands for the text of the home directory, and any other path is shown by its last part.
So the law holds where a path begins with the text of that directory exactly if it lies below it.
Among paths as they are written only those break it that go on within the last name of that
directory, unless what is shown of them happens to be their last part. -/
theorem placeText_tells (env : Env) (hpath : path ≠ "") :
    let home := env.textOf "HOME"
    let shown := placeText env path
    (∀ rest, home ≠ "" → path = home ++ rest → shown = "~" ++ rest) ∧
    (home = "" ∨ ¬ home.toList <+: path.toList →
      shown = (Path.ofString path).name ∧ '/' ∉ shown.toList) ∧
    ((home ≠ "" → (home.toList <+: path.toList ↔
      Path.Below (.ofString home) (.ofString path))) → Tells home path shown) ∧
    (Path.Canonical home → (Path.ofString home).parts ≠ [] → Path.Canonical path →
      (Tells home path shown ↔ ¬ RunsOn home path ∨ shown = (Path.ofString path).name)) := by
  intro home shown
  refine ⟨fun rest hsome h => placeText_of_append rfl hsome h, fun h => ?_,
    fun h => tells_of_iff rfl hpath h, fun hhome hparts hcanonical => ⟨fun h => ?_, fun h => ?_⟩⟩
  · have hname : shown = (Path.ofString path).name := placeText_of_not_prefix rfl hpath h
    rw [hname]
    exact ⟨rfl, Path.slash_notMem_name path⟩
  · by_cases hruns : RunsOn home path
    · exact .inr (h.other (.inr (hruns.not_below hhome hparts hcanonical)))
    · exact .inl hruns
  · by_cases hruns : RunsOn home path
    · have hbelow := hruns.not_below hhome hparts hcanonical
      exact ⟨fun _ hin => absurd hin hbelow, fun _ => h.resolve_left (not_not_intro hruns)⟩
    · exact tells_of_iff rfl hpath fun _ => prefix_iff_below hhome hparts hcanonical hruns

def devEnv : Env := [("HOME", "/home/dev")]

theorem placeText_tells_hooks :
    ("/home/dev/.hookwarden/hooks.json" ≠ "" ∧ devEnv.textOf "HOME" = "/home/dev" ∧
      Path.Canonical "/home/dev" ∧ (Path.ofString "/home/dev").parts ≠ [] ∧
      Path.Canonical "/home/dev/.hookwarden/hooks.json" ∧
      ¬ RunsOn "/home/dev" "/home/dev/.hookwarden/hooks.json") ∧
    placeText devEnv "/home/dev/.hookwarden/hooks.json" = "~/.hookwarden/hooks.json" ∧
    Tells "/home/dev" "/home/dev/.hookwarden/hooks.json"
      (placeText devEnv "/home/dev/.hookwarden/hooks.json") := by
  have hpath : "/home/dev/.hookwarden/hooks.json" ≠ "" := by decide
  have hhome : Path.Canonical "/home/dev" := by unfold Path.Canonical; decide +kernel
  have hparts : (Path.ofString "/home/dev").parts ≠ [] := by decide +kernel
  have hcanonical : Path.Canonical "/home/dev/.hookwarden/hooks.json" := by
    unfold Path.Canonical
    decide +kernel
  have hruns : ¬ RunsOn "/home/dev" "/home/dev/.hookwarden/hooks.json" := by
    rintro ⟨c, rest, htext, hc⟩
    have hsplit : "/home/dev/.hookwarden/hooks.json".toList =
        "/home/dev".toList ++ '/' :: ".hookwarden/hooks.json".toList := by decide
    rw [hsplit, List.append_cancel_left_eq, List.cons.injEq] at htext
    exact hc htext.1.symm
  obtain ⟨hbehind, -, -, htells⟩ := placeText_tells devEnv hpath
  exact ⟨⟨hpath, rfl, hhome, hparts, hcanonical, hruns⟩,
    hbehind "/.hookwarden/hooks.json" (by decide) (by decide),
    (htells hhome hparts hcanonical).2 (.inl hruns)⟩

/-- A directory beside the home directory whose name begins as that one does is shown behind a `~`,
with the rest of its name. -/
theorem placeText_beside_home :
    RunsOn "/home/dev" "/home/devother/hooks.json" ∧
      placeText devEnv "/home/devother/hooks.json" = "~other/hooks.json" ∧
      (Path.ofString "/home/devother/hooks.json").name = "hooks.json" ∧
      ¬ Tells "/home/dev" "/home/devother/hooks.json"
        (placeText devEnv "/home/devother/hooks.json") := by
  have hshown : placeText devEnv "/home/devother/hooks.json" = "~other/hooks.json" := by
    decide +kernel
  have hname : (Path.ofString "/home/devother/hooks.json").name = "hooks.json" := by
    decide +kernel
  have hbeside : ¬ Path.Below (.ofString "/home/dev") (.ofString "/home/devother/hooks.json") := by
    intro hbelow
    have hparts := hbelow.parts
    revert hparts
    decide +kernel
  refine ⟨⟨'o', "ther/hooks.json".toList, rfl, by decide⟩, hshown, hname, fun htells => ?_⟩
  have hother := htells.other (.inr hbeside)
  rw [hshown, hname] at hother
  exact absurd hother (by decide)

end Log

end HookPolicy
