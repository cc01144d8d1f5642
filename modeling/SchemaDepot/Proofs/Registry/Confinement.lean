/-
# Which files a registry is built from

Building looks up the manifest and the paths that it names, in order, and nothing else.
So of two trees that hold the same there, no file or files with the same bytes, the same
registry is built, or both fail, with the same records; and as the paths lie below the
resource folder, a file elsewhere or one that is not named makes no difference.

In one respect the folders count as well. A name that is too long for a file is refused
by the tree, with an error of its own, only where the folders before it are there; where
one is missing, no file is found. So two trees with the same files can end a building in
two ways, but only if a path has a long name and the trees do not have the same folders
(`Registry.build_confined`).

Key definitions: `Outcome.Alike`, `Run.Alike`, `Registry.Agrees`, `Registry.Looks`.
Key theorems: `Host.read_alike`, `Registry.ofManifest_alike`, `Registry.build_alike`,
`Registry.below_of_looks`, `Registry.build_confined`.
-/
import SchemaDepot.Proofs.Host
import SchemaDepot.Proofs.Manifest.Containment
import SchemaDepot.Proofs.Registry

namespace SchemaDepot

/-! ### Outcomes that are alike -/

namespace Outcome

variable {α β : Type} {odd : Prop}

/-- Two outcomes are the same, or both are failures and just one of them is for a name that
is too long, which is odd. -/
inductive Alike (odd : Prop) : Except Error α → Except Error α → Prop
  | same (x : Except Error α) : Alike odd x x
  | left (h : odd) {e : Error} (he : e ≠ .nameTooLong) :
      Alike odd (.error .nameTooLong) (.error e)
  | right (h : odd) {e : Error} (he : e ≠ .nameTooLong) :
      Alike odd (.error e) (.error .nameTooLong)

namespace Alike

variable {x y : Except Error α}

theorem mono {odd' : Prop} (h : Alike odd x y) (hodd : odd → odd') : Alike odd' x y := by
  cases h with
  | same => exact .same x
  | left h he => exact .left (hodd h) he
  | right h he => exact .right (hodd h) he

theorem bind (h : Alike odd x y) {f g : α → Except Error β}
    (hfg : ∀ a, x = .ok a → Alike odd (f a) (g a)) : Alike odd (x >>= f) (y >>= g) := by
  cases h with
  | same =>
    cases x with
    | ok a => exact hfg a rfl
    | error e => exact .same _
  | left h he => exact .left h he
  | right h he => exact .right h he

theorem eq_iff (h : Alike odd x y) :
    x = y ↔ (x = .error .nameTooLong ↔ y = .error .nameTooLong) := by
  cases h with
  | same => simp
  | left h he => simp [Ne.symm he, he]
  | right h he => simp [he]

theorem odd_of_ne (h : Alike odd x y) (hne : x ≠ y) : odd := by
  cases h with
  | same => exact absurd rfl hne
  | left h he => exact h
  | right h he => exact h

end Alike

end Outcome

open Outcome (Alike)

namespace Run

variable {α β : Type} {odd : Prop} {r s : Run α}

/-- Two runs left the same records, and their outcomes are alike. -/
def Alike (odd : Prop) (r s : Run α) : Prop :=
  r.records = s.records ∧ Outcome.Alike odd r.outcome s.outcome

theorem Alike.refl (r : Run α) : Alike odd r r := ⟨rfl, .same _⟩

theorem Alike.mono {odd' : Prop} (h : Alike odd r s) (hodd : odd → odd') : Alike odd' r s :=
  ⟨h.1, h.2.mono hodd⟩

theorem Alike.ofExcept {x y : Except Error α} (h : Outcome.Alike odd x y) :
    Alike odd (.ofExcept x) (.ofExcept y) :=
  ⟨rfl, h⟩

theorem Alike.bind (h : Alike odd r s) {f g : α → Run β}
    (hfg : ∀ a, s.outcome = .ok a → Alike odd (f a) (g a)) : Alike odd (r >>= f) (s >>= g) := by
  obtain ⟨records, x⟩ := r
  obtain ⟨records', y⟩ := s
  obtain ⟨hrecords, houtcome⟩ := h
  obtain rfl : records = records' := hrecords
  change Outcome.Alike odd x y at houtcome
  change Alike odd (Run.bind ⟨records, x⟩ f) (Run.bind ⟨records, y⟩ g)
  cases houtcome with
  | same =>
    cases x with
    | error e => exact .refl _
    | ok a =>
      obtain ⟨hnext, hend⟩ := hfg a rfl
      exact ⟨congrArg (records ++ ·) hnext, hend⟩
  | left h he => exact ⟨rfl, .left h he⟩
  | right h he => exact ⟨rfl, .right h he⟩

theorem Alike.eq_iff (h : Alike odd r s) : r = s ↔ r.outcome = s.outcome := by
  obtain ⟨records, x⟩ := r
  obtain ⟨records', y⟩ := s
  obtain rfl : records = records' := h.1
  simp

end Run

/-! ### Reading one file -/

namespace Host

variable {h : Host} {t : Tree} {p : Path}

/-- The path has a long name, and the trees do not have the same folders. -/
def OddAt (h : Host) (t : Tree) (p : Path) : Prop :=
  ¬ Tree.SameFolders t h.tree ∧ p.HasLongName

/-- Where two trees hold the same at a path, reading it ends alike. -/
theorem read_alike (hsame : t.bytesAt? h.workingFolder p = h.tree.bytesAt? h.workingFolder p)
    {absent : Error} (habsent : absent ≠ .nameTooLong) :
    Alike (h.OddAt t p) (({ h with tree := t } : Host).read p absent) (h.read p absent) := by
  unfold read
  rcases Tree.find_eq_or_of_bytesAt?_eq hsame with heq | ⟨hodd, ⟨hrefused, hnone⟩ | ⟨hnone, hrefused⟩⟩
  · simp only [heq]
    exact .same _
  · simp only [hrefused, hnone]
    exact .left hodd habsent
  · simp only [hrefused, hnone]
    exact .right hodd habsent

theorem readSchema_alike
    (hsame : t.bytesAt? h.workingFolder p = h.tree.bytesAt? h.workingFolder p) :
    Alike (h.OddAt t p) (({ h with tree := t } : Host).readSchema p) (h.readSchema p) :=
  (read_alike hsame (by simp)).bind fun _ _ => .same _

end Host

/-! ### Operations done one after the other -/

theorem Listing.traverseEntries_alike {α β : Type} {odd : Prop} {f g : α → Except Error β} :
    ∀ {es : List (String × α)}, (∀ e ∈ es, Alike odd (f e.2) (g e.2)) →
      Alike odd (traverseEntries f es) (traverseEntries g es)
  | [], _ => .same _
  | e :: es, h => by
    have hrest := traverseEntries_alike fun e' he' => h e' (List.mem_cons_of_mem _ he')
    exact (h e List.mem_cons_self).bind fun b _ => hrest.bind fun rest _ => .same _

theorem Listing.traverse_alike {α β : Type} {odd : Prop} {f g : α → Except Error β}
    {l : Listing α} (h : ∀ v ∈ l.values, Alike odd (f v) (g v)) :
    Alike odd (l.traverse f) (l.traverse g) :=
  (traverseEntries_alike fun e he => h e.2 (List.mem_map.mpr ⟨e, he, rfl⟩)).bind fun _ _ => .same _

theorem TemplateSet.gatherFrom_alike {α : Type} {odd : Prop}
    {build build' : α → Except Error Template} :
    ∀ {items : List α} {held : Listing Template}, (∀ a ∈ items, Alike odd (build a) (build' a)) →
      Alike odd (gatherFrom build held items) (gatherFrom build' held items)
  | [], _, _ => .same _
  | a :: items, held, h => by
    refine (h a List.mem_cons_self).bind fun t _ => ?_
    split
    · exact .same _
    · exact gatherFrom_alike fun a' ha' => h a' (List.mem_cons_of_mem _ ha')

namespace Registry

open SchemaDepot.Path (Below follow follow_append follow_of_not_mem parent_child)
open SchemaDepot.Tree (SameFolders bytesAt? find_congr start target target_eq_settle)

variable {h : Host} {settings : Settings} {t : Tree}

/-! ### Building -/

/-- From a manifest registries are made alike of trees that hold the same at its paths. -/
theorem ofManifest_alike {m : Manifest} (hsame : ∀ p ∈ m.paths,
      t.bytesAt? h.workingFolder p = h.tree.bytesAt? h.workingFolder p) :
    Alike (∃ p ∈ m.paths, h.OddAt t p) (ofManifest { h with tree := t } settings m)
      (ofManifest h settings m) := by
  have hread : ∀ p ∈ m.paths, Alike (∃ p ∈ m.paths, h.OddAt t p)
      (({ h with tree := t } : Host).readSchema p) (h.readSchema p) := fun p hp =>
    (Host.readSchema_alike (hsame p hp)).mono fun hodd => ⟨p, hp, hodd⟩
  have hfixed := Listing.traverse_alike fun p hp => hread p (List.mem_append_left _ hp)
  have hload : ∀ e ∈ m.dynamic.values, Alike (∃ p ∈ m.paths, h.OddAt t p)
      (loadTemplate { h with tree := t } e) (loadTemplate h e) := fun e he =>
    (hread e.path (List.mem_append_right _ (List.mem_map.mpr ⟨e, he, rfl⟩))).bind fun _ _ => .same _
  have hgather : Alike (∃ p ∈ m.paths, h.OddAt t p)
      (TemplateSet.gather (loadTemplate { h with tree := t }) settings.strict m.dynamic.values)
      (TemplateSet.gather (loadTemplate h) settings.strict m.dynamic.values) :=
    (TemplateSet.gatherFrom_alike hload).bind fun _ _ => .same _
  exact hfixed.bind fun schemas _ => (Alike.same _).bind fun catalogue _ =>
    hgather.bind fun templates _ => .same _

/-- The tree holds the same as that of the surroundings at the manifest and at every path
that it names: no file, or a file with the same bytes. -/
structure Agrees (h : Host) (settings : Settings) (t : Tree) : Prop where
  manifest : t.bytesAt? h.workingFolder settings.manifestPath =
    h.tree.bytesAt? h.workingFolder settings.manifestPath
  named : ∀ m, (Manifest.load h settings.manifestPath).outcome = .ok m → ∀ p ∈ m.paths,
    t.bytesAt? h.workingFolder p = h.tree.bytesAt? h.workingFolder p

/-- The path is that of the manifest, or one that it names. -/
def Looks (h : Host) (settings : Settings) (p : Path) : Prop :=
  p = settings.manifestPath ∨
    ∃ m, (Manifest.load h settings.manifestPath).outcome = .ok m ∧ p ∈ m.paths

theorem load_alike {path : Path}
    (hsame : t.bytesAt? h.workingFolder path = h.tree.bytesAt? h.workingFolder path) :
    Run.Alike (h.OddAt t path) (Manifest.load { h with tree := t } path) (Manifest.load h path) := by
  have hread : Alike (h.OddAt t path) (Manifest.read { h with tree := t } path)
      (Manifest.read h path) :=
    (Host.read_alike hsame (by simp)).bind fun _ _ => .same _
  exact (Run.Alike.ofExcept hread).bind fun m _ => .refl _

/-- Of trees that agree registries are built alike. -/
theorem build_alike (ht : Agrees h settings t) :
    Run.Alike (∃ p, Looks h settings p ∧ h.OddAt t p) (build { h with tree := t } settings)
      (build h settings) := by
  refine ((load_alike ht.manifest).mono fun hodd => ⟨_, Or.inl rfl, hodd⟩).bind fun m hm => ?_
  have hmake : Alike (∃ p, Looks h settings p ∧ h.OddAt t p)
      (ofManifest { h with tree := t } settings m) (ofManifest h settings m) :=
    (ofManifest_alike (ht.named m hm)).mono fun ⟨p, hp, hodd⟩ => ⟨p, Or.inr ⟨m, hm, hp⟩, hodd⟩
  exact (Run.Alike.ofExcept hmake).bind fun r _ => .refl _

/-- What is looked up in a folder whose manifest is known. -/
theorem looks_iff_of_load {ps : List Path}
    (hm : (Manifest.load h settings.manifestPath).outcome.toOption.map Manifest.paths = some ps)
    {p : Path} : Looks h settings p ↔ p ∈ settings.manifestPath :: ps := by
  obtain ⟨m, hload, rfl⟩ := Option.map_eq_some_iff.mp hm
  have hload := Outcome.eq_ok_of_toOption hload
  rw [List.mem_cons]
  apply or_congr_right
  constructor
  · rintro ⟨m', hm', hp⟩
    cases hload.symm.trans hm'
    exact hp
  · exact fun hp => ⟨m, hload, hp⟩

/-- Every path that is looked up leads to a place strictly below the resource folder. -/
theorem below_of_looks (habsolute : settings.resourceFolder.anchor ≠ .here) {p : Path}
    (hp : Looks h settings p) :
    Below (target h.workingFolder p) (settings.resourceFolder.settle h.workingFolder) := by
  rcases hp with rfl | ⟨m, hm, hp⟩
  · refine ⟨[Settings.manifestName], List.cons_ne_nil _ _, ?_⟩
    calc target h.workingFolder settings.manifestPath
        = follow (target h.workingFolder settings.resourceFolder) [Settings.manifestName] :=
          follow_append _ settings.resourceFolder.parts _
      _ = target h.workingFolder settings.resourceFolder ++ [Settings.manifestName] :=
          follow_of_not_mem (by decide) _
      _ = settings.resourceFolder.settle h.workingFolder ++ [Settings.manifestName] := by
          rw [target_eq_settle habsolute]
  · obtain ⟨-, d, -, -, hdata⟩ := Manifest.exists_of_load hm
    obtain ⟨hanchor, hup, hbelow⟩ := Manifest.below_of_mem_paths hdata hp
    have htop : start h.workingFolder p = [] := by
      unfold start
      rw [hanchor]
    rw [target, htop, follow_of_not_mem hup, List.nil_append]
    rwa [Settings.manifestPath, parent_child] at hbelow

/-- Trees with the same folders that hold the same files at the paths that are looked up
agree. -/
theorem agrees_of_sameFolders (hfolders : SameFolders t h.tree)
    (hfiles : ∀ p, Looks h settings p →
      t.fileAt? (target h.workingFolder p) = h.tree.fileAt? (target h.workingFolder p)) :
    Agrees h settings t := by
  have hbytes : ∀ p, Looks h settings p →
      t.bytesAt? h.workingFolder p = h.tree.bytesAt? h.workingFolder p := by
    intro p hp
    unfold bytesAt?
    rw [find_congr hfolders (hfiles p hp)]
  exact ⟨hbytes _ (Or.inl rfl), fun m hm p hp => hbytes p (Or.inr ⟨m, hm, hp⟩)⟩

/-- **Registries are confined.** All paths that building looks up lead to places strictly
below the resource folder. Of a tree that holds the same there the same registry is built,
or building fails with the same error, with the same records; unless just one of the two
buildings is refused for a name that is too long. This needs a long name in a path, and a
folder that is in one of the trees only. So where the folders are the same, no other file
makes a difference. -/
theorem build_confined (habsolute : settings.resourceFolder.anchor ≠ .here) :
    (∀ p, Looks h settings p →
      Below (target h.workingFolder p) (settings.resourceFolder.settle h.workingFolder)) ∧
    (∀ t, Agrees h settings t →
      (build { h with tree := t } settings).records = (build h settings).records ∧
      (build { h with tree := t } settings = build h settings ↔
        ((build { h with tree := t } settings).outcome = .error .nameTooLong ↔
          (build h settings).outcome = .error .nameTooLong)) ∧
      (build { h with tree := t } settings ≠ build h settings →
        ¬ SameFolders t h.tree ∧ ∃ p, Looks h settings p ∧ p.HasLongName)) ∧
    ∀ t, SameFolders t h.tree →
      (∀ p, Looks h settings p →
        t.fileAt? (target h.workingFolder p) = h.tree.fileAt? (target h.workingFolder p)) →
      build { h with tree := t } settings = build h settings := by
  have hodd : ∀ {t}, Agrees h settings t →
      build { h with tree := t } settings ≠ build h settings →
        ¬ SameFolders t h.tree ∧ ∃ p, Looks h settings p ∧ p.HasLongName := by
    intro t ht hne
    have halike := build_alike ht
    obtain ⟨p, hp, hfolders, hlong⟩ := halike.2.odd_of_ne fun e => hne (halike.eq_iff.mpr e)
    exact ⟨hfolders, p, hp, hlong⟩
  refine ⟨fun p hp => below_of_looks habsolute hp, fun t ht => ?_, fun t hfolders hfiles => ?_⟩
  · have halike := build_alike ht
    exact ⟨halike.1, halike.eq_iff.trans halike.2.eq_iff, hodd ht⟩
  · by_contra hne
    exact (hodd (agrees_of_sameFolders hfolders hfiles) hne).1 hfolders

set_option maxRecDepth 100000 in
/-- A schema file that the manifest does not name makes no difference. -/
theorem build_confined_stray_file :
    bundledSettings.resourceFolder.anchor ≠ .here ∧
    (∃ r, (build sampleHost bundledSettings).outcome = .ok r) ∧
    build { sampleHost with tree := sampleHost.tree.write ["r", "b.sql"] "B;".toUTF8 }
      bundledSettings = build sampleHost bundledSettings := by
  have habsolute : bundledSettings.resourceFolder.anchor ≠ .here := by decide
  have hbuilt : (build sampleHost bundledSettings).outcome.isOk = true := by decide +kernel
  have hlooks := @looks_iff_of_load sampleHost bundledSettings [⟨.top, ["r", "a.sql"]⟩]
    (by decide +kernel)
  obtain ⟨-, -, hsame⟩ := build_confined (h := sampleHost) habsolute
  refine ⟨habsolute, ?_, hsame _ (fun place => rfl) fun p hp => ?_⟩
  · cases hr : (build sampleHost bundledSettings).outcome with
    | error e =>
      rw [hr] at hbuilt
      cases hbuilt
    | ok r => exact ⟨r, rfl⟩
  · have hp := hlooks.mp hp
    simp only [List.mem_cons, List.not_mem_nil, or_false] at hp
    rcases hp with rfl | rfl
    · rfl
    · rfl

/-- A name that is longer than a file name may be. -/
def longName : String := String.ofList (List.replicate 64 '𝑛')

/-- Settings for a folder with a long name. -/
abbrev longNameSettings : Settings := ⟨⟨.top, ["x", longName]⟩, true⟩

set_option maxRecDepth 100000 in
/-- Where the folder before it is missing too, no manifest is found; with that folder, which
a file beside it makes, the long name is refused. -/
theorem stray_file_changes_failure :
    Agrees sampleHost longNameSettings (sampleHost.tree.write ["x", "b.sql"] "B;".toUTF8) ∧
    (build sampleHost longNameSettings).outcome =
      .error (.resource (.manifestAbsent longNameSettings.manifestPath.text)) ∧
    (build { sampleHost with tree := sampleHost.tree.write ["x", "b.sql"] "B;".toUTF8 }
      longNameSettings).outcome = .error .nameTooLong := by
  have hnone : sampleHost.tree.find [] longNameSettings.manifestPath = .ok none := by
    decide +kernel
  have hrefused : (sampleHost.tree.write ["x", "b.sql"] "B;".toUTF8).find []
      longNameSettings.manifestPath = .error .nameTooLong := by
    decide +kernel
  have hload : (Manifest.load sampleHost longNameSettings.manifestPath).outcome =
      .error (.resource (.manifestAbsent longNameSettings.manifestPath.text)) := by
    refine Manifest.load_outcome_eq_error_iff.mpr (Outcome.bind_eq_error_iff.mpr (Or.inl ?_))
    exact Host.read_eq_error_iff.mpr (Or.inr ⟨hnone, rfl⟩)
  refine ⟨⟨?_, fun m hm => ?_⟩, build_outcome_eq_error_iff.mpr (Or.inl hload),
    build_outcome_eq_error_iff.mpr (Or.inl ?_)⟩
  · change bytesAt? _ [] _ = bytesAt? _ [] _
    rw [bytesAt?, bytesAt?, hnone, hrefused]
  · cases hload.symm.trans hm
  · refine Manifest.load_outcome_eq_error_iff.mpr (Outcome.bind_eq_error_iff.mpr (Or.inl ?_))
    exact Host.read_eq_error_iff.mpr (Or.inl (.nameTooLong hrefused))

end Registry

end SchemaDepot
