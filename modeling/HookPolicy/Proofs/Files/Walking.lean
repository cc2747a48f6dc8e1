import HookPolicy.World
import Mathlib.Data.List.Basic

/-!
# Walking to places

Where a walk comes to an end, or stops before names that only lead down, the names can be settled
first: a walk straight to the settled place comes to the same end or the same stop (`Solid.settles`).
A walk that stops before a name such as `..` may have gone astray, since settling takes such names
away without looking.
-/

namespace HookPolicy

namespace FileTree

variable {t : FileTree} {reached names rest : List String} {p : String} {n d : Nat}

/-- A name that leads one step down. -/
def LeadsDown (name : String) : Prop := staysPut name = false ∧ name ≠ ".."

/-- The walk may be astray: a name ahead does not lead down, or there are too many links. -/
def Stop.Strays (s : Stop) : Prop := s.why = .tooManyLinks ∨ ∃ name ∈ s.ahead, ¬ LeadsDown name

theorem Stop.leadsDown_of_not_strays {s : Stop} (h : ¬ s.Strays) :
    ∀ name ∈ s.ahead, LeadsDown name :=
  fun name hname => not_not.1 fun hup => h (.inr ⟨name, hname, hup⟩)

/-! ## One step of a walk -/

theorem walk_eq (t : FileTree) (n : Nat) : ∃ follow, t.walk n = t.walkBy follow := by
  cases n with
  | zero => exact ⟨_, rfl⟩
  | succ n => exact ⟨_, rfl⟩

theorem walk_nil (t : FileTree) (n : Nat) (reached : List String) :
    t.walk n reached [] = .ok reached := by
  obtain ⟨follow, hwalk⟩ := walk_eq t n
  rw [hwalk, walkBy]

/-- A walk ends where there is no directory, whatever names are ahead. -/
theorem walk_blocked (hdir : t.at? reached.reverse ≠ some .directory) :
    ∃ why, ∀ n p rest, t.walk n reached (p :: rest) = .error ⟨why, p :: rest⟩ := by
  have hwhy : ∃ why, ∀ follow p rest,
      t.walkBy follow reached (p :: rest) = .error ⟨why, p :: rest⟩ := by
    cases hat : t.at? reached.reverse with
    | none => exact ⟨.absent, fun _ _ _ => by rw [walkBy, hat]⟩
    | some e =>
      cases e with
      | directory => exact absurd hat hdir
      | file bytes executable => exact ⟨.notDirectory, fun _ _ _ => by rw [walkBy, hat]⟩
      | link target => exact ⟨.notDirectory, fun _ _ _ => by rw [walkBy, hat]⟩
  obtain ⟨why, hwhy⟩ := hwhy
  refine ⟨why, fun n p rest => ?_⟩
  obtain ⟨follow, hwalk⟩ := walk_eq t n
  rw [hwalk, hwhy]

theorem walk_stays (hdir : t.at? reached.reverse = some .directory) (hp : staysPut p = true) :
    t.walk n reached (p :: rest) = t.walk n reached rest := by
  obtain ⟨follow, hwalk⟩ := walk_eq t n
  rw [hwalk, walkBy, hdir]
  dsimp only
  rw [if_pos hp]

theorem walk_up (hdir : t.at? reached.reverse = some .directory) :
    t.walk n reached (".." :: rest) = t.walk n reached.tail rest := by
  obtain ⟨follow, hwalk⟩ := walk_eq t n
  rw [hwalk, walkBy, hdir]
  dsimp only
  rw [if_neg (by decide), if_pos (by decide)]

theorem walk_tooLong (hdir : t.at? reached.reverse = some .directory) (hp : LeadsDown p)
    (hlong : nameLimit < p.utf8ByteSize) :
    t.walk n reached (p :: rest) = .error ⟨.nameTooLong, p :: rest⟩ := by
  obtain ⟨follow, hwalk⟩ := walk_eq t n
  rw [hwalk, walkBy, hdir]
  dsimp only
  rw [if_neg (by simp [hp.1]), if_neg (by simp [hp.2]), if_pos hlong]

section

variable (hdir : t.at? reached.reverse = some .directory) (hp : LeadsDown p)
  (hshort : p.utf8ByteSize ≤ nameLimit)

include hdir hp hshort

theorem walkBy_link {follow : List String → List String → Except Stop (List String)}
    {target : String} (hlink : t.at? (p :: reached).reverse = some (.link target)) :
    t.walkBy follow reached (p :: rest) =
      follow (linkStart target reached) (linkNames target ++ rest) := by
  rw [walkBy, hdir]
  dsimp only
  rw [if_neg (by simp [hp.1]), if_neg (by simp [hp.2]), if_neg (Nat.not_lt.2 hshort), hlink]

theorem walk_down (hnone : ∀ target, t.at? (p :: reached).reverse ≠ some (.link target)) :
    t.walk n reached (p :: rest) = t.walk n (p :: reached) rest := by
  obtain ⟨follow, hwalk⟩ := walk_eq t n
  rw [hwalk, walkBy, hdir]
  dsimp only
  rw [if_neg (by simp [hp.1]), if_neg (by simp [hp.2]), if_neg (Nat.not_lt.2 hshort)]
  split
  · rename_i target hlink
    exact absurd hlink (hnone target)
  · rfl

end

/-! ## Solid parts -/

theorem isDirectory_iff {parts : List String} :
    t.isDirectory parts = true ↔ t.at? parts = some .directory := by
  unfold isDirectory
  split
  · rename_i hat
    simp [hat]
  · rename_i hat
    exact iff_of_false (by simp) hat

/-- Parts, stored last first, that a walk from the root reaches without links. -/
inductive Solid (t : FileTree) : List String → Prop
  | root : Solid t []
  | step {p : String} {reached : List String} : Solid t reached →
      t.at? reached.reverse = some .directory → LeadsDown p → p.utf8ByteSize ≤ nameLimit →
      (∀ target, t.at? (p :: reached).reverse ≠ some (.link target)) → Solid t (p :: reached)

namespace Solid

theorem tail (h : Solid t reached) : Solid t reached.tail := by
  cases h with
  | root => exact .root
  | step hbelow => exact hbelow

theorem linkStart (h : Solid t reached) (target : String) : Solid t (linkStart target reached) := by
  unfold FileTree.linkStart
  split
  · exact .root
  · exact h

theorem walk_eq (h : Solid t reached) (n : Nat) (names : List String) :
    t.walk n [] (reached.reverse ++ names) = t.walk n reached names := by
  induction h generalizing names with
  | root => rfl
  | step hsolid hdir hp hshort hnone ih =>
    rw [List.reverse_cons, List.append_assoc, ih]
    exact walk_down hdir hp hshort hnone

theorem lookAt?_eq (h : Solid t reached) (name : String) :
    t.lookAt? reached name =
      if t.isDirectory reached.reverse && name.utf8ByteSize ≤ nameLimit then
        t.at? (name :: reached).reverse
      else none := by
  have hwalk := h.walk_eq linkLimit []
  rw [List.append_nil, walk_nil] at hwalk
  rw [lookAt?, hwalk]

end Solid

/-! ## Settling -/

section

variable {follow follow' : List String → List String → Except (List String) (List String)}
  {q : List String}

theorem settleBy_cons_eq_ok :
    t.settleBy follow reached (p :: rest) = .ok q ↔
      ∃ next, t.settleName follow reached p = .ok next ∧ t.settleBy follow next rest = .ok q := by
  rw [settleBy]
  cases t.settleName follow reached p with
  | ok next => simp
  | error left => simp

theorem settleBy_append_eq_ok :
    t.settleBy follow reached (names ++ rest) = .ok q ↔
      ∃ next, t.settleBy follow reached names = .ok next ∧ t.settleBy follow next rest = .ok q := by
  induction names generalizing reached with
  | nil => simp [settleBy]
  | cons p names ih =>
    simp only [List.cons_append, settleBy_cons_eq_ok, ih]
    constructor
    · rintro ⟨first, hfirst, next, hnext, hq⟩
      exact ⟨next, ⟨first, hfirst, hnext⟩, hq⟩
    · rintro ⟨next, ⟨first, hfirst, hnext⟩, hq⟩
      exact ⟨first, hfirst, next, hnext, hq⟩

theorem settleBy_mono
    (hfollow : ∀ start names q, follow start names = .ok q → follow' start names = .ok q)
    (hq : t.settleBy follow reached names = .ok q) : t.settleBy follow' reached names = .ok q := by
  induction names generalizing reached with
  | nil => exact hq
  | cons p names ih =>
    obtain ⟨next, hnext, hrest⟩ := settleBy_cons_eq_ok.1 hq
    refine settleBy_cons_eq_ok.2 ⟨next, ?_, ih hrest⟩
    unfold settleName at hnext ⊢
    split_ifs at hnext ⊢
    · exact hnext
    · exact hnext
    · split at hnext
      · exact hfollow _ _ _ hnext
      · exact hnext

theorem settleName_stays (hp : staysPut p = true) :
    t.settleName follow reached p = .ok reached := if_pos hp

theorem settleName_up : t.settleName follow reached ".." = .ok reached.tail := by
  rw [settleName, if_neg (by decide), if_pos (by decide)]

theorem settleName_down (hp : LeadsDown p)
    (hnone : ∀ target, t.lookAt? reached p ≠ some (.link target)) :
    t.settleName follow reached p = .ok (p :: reached) := by
  rw [settleName, if_neg (by simp [hp.1]), if_neg (by simp [hp.2])]
  split
  · rename_i target hlink
    exact absurd hlink (hnone target)
  · rfl

theorem settleName_link (hp : LeadsDown p) {target : String}
    (hlink : t.lookAt? reached p = some (.link target)) :
    t.settleName follow reached p = follow (linkStart target reached) (linkNames target) := by
  rw [settleName, if_neg (by simp [hp.1]), if_neg (by simp [hp.2]), hlink]

/-- Behind a name at which a walk stops, names that lead down are taken as they stand. -/
theorem settleBy_blocked (hsolid : Solid t reached)
    (hblocked : ∀ rest, ∃ s, t.walk linkLimit reached (p :: rest) = .error s)
    (hnone : ∀ target, t.lookAt? reached p ≠ some (.link target))
    (hdown : ∀ name ∈ p :: rest, LeadsDown name) :
    t.settleBy follow reached (p :: rest) = .ok ((p :: rest).reverse ++ reached) := by
  -- a look at any name behind `p` stops at `p`, so none of them is seen to be a link
  have hunseen : ∀ passed name, t.lookAt? (passed ++ p :: reached) name = none := by
    intro passed name
    obtain ⟨s, hstop⟩ := hblocked passed.reverse
    rw [← hsolid.walk_eq] at hstop
    rw [lookAt?, List.reverse_append, List.reverse_cons, List.append_assoc]
    rw [List.singleton_append, hstop]
  have hbehind : ∀ names, (∀ name ∈ names, LeadsDown name) → ∀ passed,
      t.settleBy follow (passed ++ p :: reached) names =
        .ok (names.reverse ++ (passed ++ p :: reached)) := by
    intro names
    induction names with
    | nil => exact fun _ _ => rfl
    | cons name names ih =>
      intro hnames passed
      obtain ⟨hname, hnames⟩ := List.forall_mem_cons.1 hnames
      refine settleBy_cons_eq_ok.2 ⟨name :: passed ++ p :: reached, ?_, ?_⟩
      · exact settleName_down hname (by simp [hunseen])
      · rw [ih hnames (name :: passed)]
        simp
  obtain ⟨hp, hrest⟩ := List.forall_mem_cons.1 hdown
  refine settleBy_cons_eq_ok.2 ⟨p :: reached, settleName_down hp hnone, ?_⟩
  rw [show t.settleBy follow (p :: reached) rest = _ from hbehind rest hrest []]
  simp

end

theorem settle_eq (t : FileTree) (d : Nat) : ∃ follow, t.settle d = t.settleBy follow := by
  cases d with
  | zero => exact ⟨_, rfl⟩
  | succ d => exact ⟨_, rfl⟩

theorem settle_succ {q : List String} (hq : t.settle d reached names = .ok q) :
    t.settle (d + 1) reached names = .ok q := by
  induction d generalizing reached names q with
  | zero => exact settleBy_mono (fun _ _ _ h => by cases h) hq
  | succ d ih => exact settleBy_mono (fun _ _ _ h => ih h) hq

theorem settle_cons {next : List String}
    (hnext : ∀ follow, t.settleName follow reached p = .ok next) (d : Nat) :
    t.settle d reached (p :: rest) = t.settle d next rest := by
  obtain ⟨follow, hsettle⟩ := settle_eq t d
  rw [hsettle, settleBy, hnext follow]

/-! ## Settling and walking -/

/-- The names can be settled at any depth that is not less than the number of links that a walk may
follow, and a walk straight to the settled place comes to the same as the walk along the names. -/
def Settles (t : FileTree) (n : Nat) (reached names : List String) : Prop :=
  ∃ q, (∀ d, n ≤ d → t.settle d reached names = .ok q) ∧
    ∀ k, t.walk k [] q.reverse = t.walk n reached names

theorem Settles.step {next : List String} (h : Settles t n next rest)
    (hwalk : t.walk n reached (p :: rest) = t.walk n next rest)
    (hnext : ∀ follow, t.settleName follow reached p = .ok next) :
    Settles t n reached (p :: rest) := by
  obtain ⟨q, hsettle, hplace⟩ := h
  refine ⟨q, fun d hd => ?_, fun k => ?_⟩
  · rw [settle_cons hnext, hsettle d hd]
  · rw [hwalk, hplace]

theorem Solid.settles_nil (hsolid : Solid t reached) : Settles t n reached [] := by
  refine ⟨reached, fun d _ => ?_, fun k => ?_⟩
  · obtain ⟨follow, hsettle⟩ := settle_eq t d
    rw [hsettle, settleBy]
  · rw [← List.append_nil reached.reverse, hsolid.walk_eq, walk_nil, walk_nil]

theorem Solid.settles_blocked (hsolid : Solid t reached) {why : Miss}
    (hwhy : ∀ k rest, t.walk k reached (p :: rest) = .error ⟨why, p :: rest⟩)
    (hnone : t.lookAt? reached p = none) (hdown : ∀ name ∈ p :: rest, LeadsDown name) :
    Settles t n reached (p :: rest) := by
  refine ⟨(p :: rest).reverse ++ reached, fun d _ => ?_, fun k => ?_⟩
  · obtain ⟨follow, hsettle⟩ := settle_eq t d
    rw [hsettle]
    exact settleBy_blocked hsolid (fun rest => ⟨_, hwhy _ rest⟩) (by simp [hnone]) hdown
  · rw [List.reverse_append, List.reverse_reverse, hsolid.walk_eq, hwhy, hwhy]

/-- A walk takes the rest along when it follows a link, and settling comes back for it. -/
theorem Settles.link {target : String}
    (h : Settles t n (FileTree.linkStart target reached) (linkNames target ++ rest))
    (hwalk : t.walk (n + 1) reached (p :: rest) =
      t.walk n (FileTree.linkStart target reached) (linkNames target ++ rest))
    (hnext : ∀ follow, t.settleName follow reached p =
      follow (FileTree.linkStart target reached) (linkNames target)) :
    Settles t (n + 1) reached (p :: rest) := by
  obtain ⟨q, hsettle, hplace⟩ := h
  refine ⟨q, fun d hd => ?_, fun k => ?_⟩
  · obtain ⟨d, rfl⟩ : ∃ m, d = m + 1 := ⟨d - 1, by omega⟩
    obtain ⟨follow, hfollow⟩ := settle_eq t d
    have hall := hsettle d (by omega)
    rw [hfollow] at hall
    -- behind the link, the rest was settled with one link less inside one another
    obtain ⟨inner, hinner, hrest⟩ := settleBy_append_eq_ok.1 hall
    rw [← hfollow] at hinner hrest
    refine settleBy_cons_eq_ok.2 ⟨inner, ?_, settle_succ hrest⟩
    rw [hnext, hinner]
  · rw [hwalk, hplace]

theorem Solid.settles_leadsDown (hsolid : Solid t reached)
    (hdir : t.at? reached.reverse = some .directory) (hp : LeadsDown p)
    (hstop : ∀ s, t.walk n reached (p :: rest) = .error s → ¬ s.Strays)
    (ih : ∀ m < n, ∀ {reached names}, Solid t reached →
      (∀ s, t.walk m reached names = .error s → ¬ s.Strays) → Settles t m reached names)
    (ihrest : ∀ {reached}, Solid t reached →
      (∀ s, t.walk n reached rest = .error s → ¬ s.Strays) → Settles t n reached rest) :
    Settles t n reached (p :: rest) := by
  by_cases hshort : p.utf8ByteSize ≤ nameLimit
  · have hlook := hsolid.lookAt?_eq p
    rw [if_pos (by simp [isDirectory_iff, hdir, hshort])] at hlook
    by_cases hlink : ∃ target, t.at? (p :: reached).reverse = some (.link target)
    · obtain ⟨target, hlink⟩ := hlink
      cases n with
      | zero =>
        -- one more link would be too many, and such a stop may be astray
        exact absurd (.inl rfl) (hstop _ (walkBy_link hdir hp hshort hlink))
      | succ m =>
        have hwalk : t.walk (m + 1) reached (p :: rest) = _ := walkBy_link hdir hp hshort hlink
        rw [hwalk] at hstop
        exact (ih m (Nat.lt_succ_self m) (hsolid.linkStart target) hstop).link hwalk fun _ =>
          settleName_link hp (hlook.trans hlink)
    · have hnone : ∀ target, t.at? (p :: reached).reverse ≠ some (.link target) :=
        fun target h => hlink ⟨target, h⟩
      have hwalk : t.walk n reached (p :: rest) = t.walk n (p :: reached) rest :=
        walk_down hdir hp hshort hnone
      rw [hwalk] at hstop
      exact (ihrest (.step hsolid hdir hp hshort hnone) hstop).step hwalk fun _ =>
        settleName_down hp (by simpa [hlook] using hnone)
  · have hlong := Nat.lt_of_not_le hshort
    refine hsolid.settles_blocked (fun k rest => walk_tooLong hdir hp hlong) ?_
      (Stop.leadsDown_of_not_strays (hstop _ (walk_tooLong hdir hp hlong)))
    simp [hsolid.lookAt?_eq, hshort]

/-- Where a walk does not go astray, its names can be settled first. -/
theorem Solid.settles (hsolid : Solid t reached)
    (hstop : ∀ s, t.walk n reached names = .error s → ¬ s.Strays) : Settles t n reached names := by
  -- a link puts new names ahead and leaves fewer links, any other name leaves fewer names
  induction n using Nat.strongRecOn generalizing reached names with
  | ind n ih =>
    induction names generalizing reached with
    | nil => exact hsolid.settles_nil
    | cons p rest ihrest =>
      by_cases hdir : t.at? reached.reverse = some .directory
      · by_cases hstays : staysPut p = true
        · have hwalk : t.walk n reached (p :: rest) = t.walk n reached rest :=
            walk_stays hdir hstays
          rw [hwalk] at hstop
          exact (ihrest hsolid hstop).step hwalk fun _ => settleName_stays hstays
        · by_cases hup : p = ".."
          · subst hup
            have hwalk : t.walk n reached (".." :: rest) = t.walk n reached.tail rest :=
              walk_up hdir
            rw [hwalk] at hstop
            exact (ihrest hsolid.tail hstop).step hwalk fun _ => settleName_up
          · exact hsolid.settles_leadsDown hdir ⟨by simpa using hstays, hup⟩ hstop ih ihrest
      · obtain ⟨why, hwhy⟩ := walk_blocked hdir
        refine hsolid.settles_blocked (fun k rest => hwhy k p rest) ?_
          (Stop.leadsDown_of_not_strays (hstop _ (hwhy n p rest)))
        simp [hsolid.lookAt?_eq, isDirectory_iff, hdir]

end FileTree

namespace World

variable {w : World} {p : Path} {b : Bool}

def Strays (w : World) (p : Path) : Prop :=
  ∃ s, w.tree.walk FileTree.linkLimit [] (w.dir.join p).parts = .error s ∧ s.Strays

theorem resolve_eq (hway : ¬ w.Strays p) :
    ∃ q : List String, w.resolve p = ⟨1, q.reverse⟩ ∧ ∀ k, w.tree.walk k [] q.reverse =
      w.tree.walk FileTree.linkLimit [] (w.dir.join p).parts := by
  have hstop : ∀ s, w.tree.walk FileTree.linkLimit [] (w.dir.join p).parts = .error s →
      ¬ s.Strays := fun s hs hstrays => hway ⟨s, hs, hstrays⟩
  obtain ⟨q, hsettle, hplace⟩ := FileTree.Solid.root.settles hstop
  refine ⟨q, ?_, hplace⟩
  rw [resolve, FileTree.place, hsettle _ (Nat.le_add_left _ _)]

/-- A path whose walk does not go astray leads to the same as its place. -/
theorem find_resolve (hway : ¬ w.Strays p) (hshort : p.toString.utf8ByteSize ≤ FileTree.pathLimit)
    (hplace : (w.resolve p).toString.utf8ByteSize ≤ FileTree.pathLimit) :
    w.find (w.resolve p) = w.find p := by
  obtain ⟨q, hresolve, hwalk⟩ := resolve_eq hway
  have hjoin : (w.dir.join (w.resolve p)).parts = q.reverse := by
    rw [hresolve]
    rfl
  rw [find, find, FileTree.find, FileTree.find, if_neg (Nat.not_lt.2 hplace),
    if_neg (Nat.not_lt.2 hshort), hjoin, hwalk]

theorem short_of_finds (hfinds : w.finds p = .ok b) :
    p.toString.utf8ByteSize ≤ FileTree.pathLimit := by
  by_contra hlong
  rw [finds, find, FileTree.find, if_pos (Nat.lt_of_not_le hlong)] at hfinds
  cases hfinds

theorem finds_resolve {b' : Bool} (hway : ¬ w.Strays p) (hfinds : w.finds p = .ok b)
    (hplace : w.finds (w.resolve p) = .ok b') : b' = b := by
  have hfind := find_resolve hway (short_of_finds hfinds) (short_of_finds hplace)
  rw [finds, hfind] at hplace
  rw [finds] at hfinds
  exact Except.ok.inj (hplace.symm.trans hfinds)

theorem not_strays_of_finds (hfinds : w.finds p = .ok true) : ¬ w.Strays p := by
  rintro ⟨s, hs, -⟩
  rw [finds, find, FileTree.find, if_neg (Nat.not_lt.2 (short_of_finds hfinds)), hs] at hfinds
  cases hwhy : s.why <;> simp [hwhy] at hfinds

end World

end HookPolicy
