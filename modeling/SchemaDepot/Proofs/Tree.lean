/-
# What looking up a path depends on

A path is looked up name by name. Whether this leads anywhere depends on the folders on
the way; what is found there depends on the one file at the end (`Tree.find_congr`). The
only failure is a name or a path that is too long, and a long name is met only where the
folders before it are there (`Tree.eq_nameTooLong_of_find`,
`Tree.find_eq_error_congr`).

So two trees that hold the same at a path, no file or files with the same bytes, can be
told apart there only by a long name: in one of them it is met, in the other a folder
before it is missing (`Tree.find_eq_or_of_bytesAt?_eq`).

A file that was written is found at its place, if the names to it can be followed, and stays
there whatever is written elsewhere (`Tree.holds_write`, `Tree.Holds.find`). A file that was
found can be written anew where it is (`Tree.find_write`).

Key definitions: `Tree.bytesAt?`, `Tree.target`, `Path.HasLongName`, `Tree.Holds`,
`Tree.IsOpen`.
Key theorems: `Tree.find_congr`, `Tree.find_eq_error_congr`,
`Tree.find_eq_or_of_bytesAt?_eq`, `Tree.holds_write`, `Tree.find_write`, `Tree.Holds.find`.
-/
import SchemaDepot.Proofs.Outcome
import SchemaDepot.Proofs.Path
import SchemaDepot.Tree

namespace SchemaDepot

/-- A component of the path is longer than a file name may be. -/
def Path.HasLongName (p : Path) : Prop := ∃ c ∈ p.parts, Tree.nameLimit < Text.fileSize c

namespace Tree

variable {t t' : Tree} {workingFolder : List String} {p : Path}

/-- The bytes of the file at a path, if the path leads to one. -/
def bytesAt? (t : Tree) (workingFolder : List String) (p : Path) : Option ByteArray :=
  match t.find workingFolder p with
  | .ok found? => found?
  | .error _ => none

/-- The place from which a path is looked up. -/
def start (workingFolder : List String) (p : Path) : List String :=
  match p.anchor with
  | .here => workingFolder
  | _ => []

/-- Where a path leads if all folders on the way are there. -/
def target (workingFolder : List String) (p : Path) : List String :=
  Path.follow (start workingFolder p) p.parts

theorem target_eq_settle (h : p.anchor ≠ .here) : target workingFolder p = p.settle workingFolder := by
  unfold target start Path.settle Path.absoluteParts
  cases ha : p.anchor with
  | here => exact absurd ha h
  | top => rfl
  | doubleTop => rfl

/-- Both trees have the same folders. -/
def SameFolders (t t' : Tree) : Prop := ∀ place, t.isFolder place = t'.isFolder place

/-! ### Walking -/

theorem walk_cons (place : List String) (name : String) (names : List String) :
    t.walk place (name :: names) =
      if !t.isFolder place then .ok none
      else if Text.fileSize name > nameLimit then .error .nameTooLong
      else t.walk (if name = Path.up then place.dropLast else place ++ [name]) names := rfl

theorem walk_congr (h : SameFolders t t') (place names : List String) :
    t.walk place names = t'.walk place names := by
  induction names generalizing place with
  | nil => rfl
  | cons name names ih => rw [walk_cons, walk_cons, h place, ih]

/-- Names that can be walked lead where following them leads. -/
theorem eq_follow_of_walk {place names end_ : List String}
    (h : t.walk place names = .ok (some end_)) : end_ = Path.follow place names := by
  induction names generalizing place with
  | nil =>
    cases h
    rfl
  | cons name names ih =>
    rw [walk_cons] at h
    rw [Path.follow_cons]
    split at h
    · cases h
    · split at h
      · cases h
      · exact ih h

theorem of_walk_eq_error {place names : List String} {e : Error}
    (h : t.walk place names = .error e) :
    e = .nameTooLong ∧ ∃ name ∈ names, nameLimit < Text.fileSize name := by
  induction names generalizing place with
  | nil => cases h
  | cons name names ih =>
    rw [walk_cons] at h
    split at h
    · cases h
    · split at h
      · rename_i hlong
        cases h
        exact ⟨rfl, name, List.mem_cons_self, hlong⟩
      · obtain ⟨he, long, hmem, hlong⟩ := ih h
        exact ⟨he, long, List.mem_cons_of_mem _ hmem, hlong⟩

/-! ### Looking up -/

theorem find_eq : t.find workingFolder p =
    if p.parts.any fun c => (Path.partFault? c).isSome then .ok none
    else if Text.fileSize p.text ≥ pathLimit then .error .nameTooLong
    else (t.walk (start workingFolder p) p.parts).map fun place? => place?.bind t.fileAt? := by
  unfold find
  split
  · rfl
  · split
    · rfl
    · change (do
        let place? ← t.walk (start workingFolder p) p.parts
        Except.ok (place?.bind t.fileAt?)) = _
      cases t.walk (start workingFolder p) p.parts <;> rfl

/-- What is found at a path depends on the folders and the file at its end. -/
theorem find_congr (h : SameFolders t t')
    (hfile : t.fileAt? (target workingFolder p) = t'.fileAt? (target workingFolder p)) :
    t.find workingFolder p = t'.find workingFolder p := by
  rw [find_eq, find_eq, walk_congr h]
  cases hwalk : t'.walk (start workingFolder p) p.parts with
  | error e => rfl
  | ok place? =>
    cases place? with
    | none => rfl
    | some place =>
      have hplace : place = target workingFolder p := eq_follow_of_walk hwalk
      simp only [Except.map, Option.bind_some, hplace, hfile]

theorem eq_nameTooLong_of_find {e : Error} (h : t.find workingFolder p = .error e) :
    e = .nameTooLong := by
  rw [find_eq] at h
  split at h
  · cases h
  · split at h
    · cases h
      rfl
    · cases hwalk : t.walk (start workingFolder p) p.parts with
      | ok place? =>
        rw [hwalk] at h
        cases h
      | error e' =>
        rw [hwalk] at h
        cases h
        exact (of_walk_eq_error hwalk).1

/-- What is refused in one tree is refused in the other, if they have the same folders or
no name is long. -/
theorem find_eq_error_congr (h : SameFolders t t' ∨ ¬ p.HasLongName) {e : Error}
    (he : t.find workingFolder p = .error e) : t'.find workingFolder p = .error e := by
  rw [find_eq] at he ⊢
  split at he
  · cases he
  · rename_i hfault
    rw [if_neg hfault]
    split at he
    · rename_i hlimit
      rw [if_pos hlimit]
      exact he
    · rename_i hlimit
      rw [if_neg hlimit]
      cases hwalk : t.walk (start workingFolder p) p.parts with
      | ok place? =>
        rw [hwalk] at he
        cases he
      | error e' =>
        rw [hwalk] at he
        cases he
        rcases h with hsame | hshort
        · rw [← walk_congr hsame, hwalk]
          rfl
        · exact absurd (of_walk_eq_error hwalk).2 hshort

/-- A path that only one of two trees refuses has a long name, and the folders are not the
same. -/
theorem of_find_eq_error_ok {e : Error} {found? : Option ByteArray}
    (he : t.find workingFolder p = .error e) (hok : t'.find workingFolder p = .ok found?) :
    ¬ SameFolders t t' ∧ p.HasLongName := by
  by_contra hnot
  rw [not_and_or, not_not] at hnot
  cases hok.symm.trans (find_eq_error_congr hnot he)

/-- Where two trees hold the same at a path, the path is found the same in both, or it has a
long name, the folders are not the same, and only one of the trees refuses it. -/
theorem find_eq_or_of_bytesAt?_eq (h : t.bytesAt? workingFolder p = t'.bytesAt? workingFolder p) :
    t.find workingFolder p = t'.find workingFolder p ∨
      (¬ SameFolders t t' ∧ p.HasLongName) ∧
        ((t.find workingFolder p = .error .nameTooLong ∧ t'.find workingFolder p = .ok none) ∨
          (t.find workingFolder p = .ok none ∧ t'.find workingFolder p = .error .nameTooLong)) := by
  unfold bytesAt? at h
  cases hx : t.find workingFolder p with
  | ok found? =>
    cases hy : t'.find workingFolder p with
    | ok found'? =>
      rw [hx, hy] at h
      exact Or.inl (congrArg Except.ok h)
    | error e =>
      rw [hx, hy] at h
      obtain rfl : found? = none := h
      obtain ⟨hfolders, hlong⟩ := of_find_eq_error_ok hy hx
      refine Or.inr ⟨⟨fun hsame => hfolders fun place => (hsame place).symm, hlong⟩, Or.inr ⟨rfl, ?_⟩⟩
      rw [eq_nameTooLong_of_find hy]
  | error e =>
    have he := eq_nameTooLong_of_find hx
    cases hy : t'.find workingFolder p with
    | ok found'? =>
      rw [hx, hy] at h
      obtain rfl : none = found'? := h
      refine Or.inr ⟨of_find_eq_error_ok hx hy, Or.inl ⟨?_, rfl⟩⟩
      rw [he]
    | error e' =>
      rw [he, eq_nameTooLong_of_find hy]
      exact Or.inl rfl

/-! ### Writing -/

/-- There is a file with these bytes at the place, and a folder at each place above. -/
structure Holds (t : Tree) (place : List String) (bytes : ByteArray) : Prop where
  file : t.fileAt? place = some bytes
  folder : ∀ above, above <+: place → above ≠ place → t.isFolder above = true

/-- Looking up can follow the names to the place: none is too long or cannot be a file name,
none leads upwards, and together they are not too long. -/
structure IsOpen (place : List String) : Prop where
  named : ∀ name ∈ place, Path.partFault? name = none
  downwards : Path.up ∉ place
  short : ∀ name ∈ place, Text.fileSize name ≤ nameLimit
  short_text : Text.fileSize (Path.text ⟨.top, place⟩) < pathLimit

instance (place : List String) : Decidable (IsOpen place) :=
  decidable_of_iff
    ((∀ name ∈ place, Path.partFault? name = none) ∧ Path.up ∉ place ∧
      (∀ name ∈ place, Text.fileSize name ≤ nameLimit) ∧
      Text.fileSize (Path.text ⟨.top, place⟩) < pathLimit)
    ⟨fun ⟨h1, h2, h3, h4⟩ => ⟨h1, h2, h3, h4⟩,
      fun h => ⟨h.named, h.downwards, h.short, h.short_text⟩⟩

variable {place above : List String} {bytes : ByteArray}

theorem mem_lineage : above ∈ lineage place ↔ above <+: place ∧ above ≠ [] := by
  unfold lineage
  simp only [List.mem_map, List.mem_range]
  constructor
  · rintro ⟨n, hn, rfl⟩
    refine ⟨List.take_prefix _ _, fun hnil => ?_⟩
    have hlength := congrArg List.length hnil
    simp only [List.length_take, List.length_nil] at hlength
    omega
  · rintro ⟨hstart, hne⟩
    have hpos := List.length_pos_iff.mpr hne
    have hle := hstart.length_le
    refine ⟨above.length - 1, by omega, ?_⟩
    rw [Nat.sub_add_cancel hpos]
    exact (List.prefix_iff_eq_take.mp hstart).symm

theorem fileAt?_write (place' : List String) :
    (t.write place bytes).fileAt? place' =
      if place' = place then some bytes else t.fileAt? place' := by
  unfold fileAt? write makeFolder
  rw [List.lookup_cons]
  by_cases h : place' = place
  · simp [h]
  · rw [if_neg h, beq_false_of_ne h]
    dsimp only
    -- files at other places are kept
    induction t.files with
    | nil => rfl
    | cons f fs ih =>
      rw [List.filter_cons, List.lookup_cons]
      by_cases hf : f.1 = place
      · rw [if_neg (by simp [hf]), ih, hf, beq_false_of_ne h]
      · rw [if_pos (by simp [hf]), List.lookup_cons, ih]

theorem isFolder_write (place' : List String) :
    (t.write place bytes).isFolder place' = true ↔
      t.isFolder place' = true ∨ place' ∈ lineage place.dropLast := by
  unfold isFolder write makeFolder
  simp only [Bool.or_eq_true, List.contains_iff_mem, List.mem_append, List.mem_filter]
  by_cases h : place' ∈ t.folders <;> simp [h]

theorem holds_write (t : Tree) (place : List String) (bytes : ByteArray) :
    (t.write place bytes).Holds place bytes := by
  refine ⟨by rw [fileAt?_write, if_pos rfl], fun above habove hne => ?_⟩
  rw [isFolder_write]
  by_cases hnil : above = []
  · exact Or.inl (by rw [hnil]; rfl)
  · refine Or.inr (mem_lineage.mpr ⟨?_, hnil⟩)
    have hle := habove.length_le
    have hlt : above.length ≠ place.length := fun h => hne (habove.eq_of_length h)
    rw [List.prefix_iff_eq_take.mp habove, List.dropLast_eq_take]
    exact List.take_prefix_take_left (by omega)

/-- Writing elsewhere changes nothing about a file. -/
theorem Holds.write {place' : List String} {bytes' : ByteArray} (h : t.Holds place bytes)
    (hne : place ≠ place') : (t.write place' bytes').Holds place bytes where
  file := by rw [fileAt?_write, if_neg hne, h.file]
  folder above habove hne' := (isFolder_write above).mpr (Or.inl (h.folder above habove hne'))

theorem walk_write {place' names end_ : List String}
    (h : t.walk place' names = .ok (some end_)) :
    (t.write place bytes).walk place' names = .ok (some end_) := by
  induction names generalizing place' with
  | nil => exact h
  | cons name names ih =>
    rw [walk_cons] at h ⊢
    by_cases hfolder : t.isFolder place' = true
    · have hstill : (t.write place bytes).isFolder place' = true :=
        (isFolder_write place').mpr (Or.inl hfolder)
      simp only [hfolder, hstill, Bool.not_true, Bool.false_eq_true, if_false] at h ⊢
      by_cases hlong : nameLimit < Text.fileSize name
      · rw [if_pos hlong] at h
        cases h
      · rw [if_neg hlong] at h ⊢
        exact ih h
    · rw [if_pos (by simp [hfolder])] at h
      cases h

/-- A file that was found is found with other bytes once these were written where it is. -/
theorem find_write {found : ByteArray} (h : t.find workingFolder p = .ok (some found)) :
    (t.write (target workingFolder p) bytes).find workingFolder p = .ok (some bytes) := by
  rw [find_eq] at h ⊢
  split at h
  · cases h
  · rename_i hnamed
    rw [if_neg hnamed]
    split at h
    · cases h
    · rename_i hshort
      rw [if_neg hshort]
      cases hwalk : t.walk (start workingFolder p) p.parts with
      | error e =>
        rw [hwalk] at h
        cases h
      | ok place? =>
        cases place? with
        | none =>
          rw [hwalk] at h
          cases h
        | some place =>
          have hplace : place = target workingFolder p := eq_follow_of_walk hwalk
          rw [walk_write hwalk]
          simp only [Except.map, Option.bind_some, fileAt?_write, if_pos hplace]

/-- Names lead downwards through folders. -/
theorem walk_eq_append {names : List String}
    (hfolder : ∀ above, place <+: above → above <+: place ++ names → above ≠ place ++ names →
      t.isFolder above = true)
    (hshort : ∀ name ∈ names, Text.fileSize name ≤ nameLimit) (hup : Path.up ∉ names) :
    t.walk place names = .ok (some (place ++ names)) := by
  induction names generalizing place with
  | nil => rw [List.append_nil]; rfl
  | cons name names ih =>
    rw [List.forall_mem_cons] at hshort
    rw [List.mem_cons, not_or] at hup
    have hhere : t.isFolder place = true :=
      hfolder place List.prefix_rfl (List.prefix_append _ _) (by simp)
    have hassoc : place ++ name :: names = place ++ [name] ++ names := by simp
    rw [walk_cons, hhere, if_neg (by simp), if_neg (Nat.not_lt.mpr hshort.1),
      if_neg (Ne.symm hup.1), hassoc]
    refine ih (fun above hle => ?_) hshort.2 hup.2
    rw [← hassoc]
    exact hfolder above ((List.prefix_append _ _).trans hle)

/-- A file that is held is found, if its place can be followed. -/
theorem Holds.find (h : t.Holds place bytes) (hopen : IsOpen place) :
    t.find workingFolder ⟨.top, place⟩ = .ok (some bytes) := by
  have hnamed : ¬ (place.any fun c => (Path.partFault? c).isSome) = true := by
    simp only [List.any_eq_true, Option.isSome_iff_ne_none, not_exists, not_and, not_not]
    exact hopen.named
  have hwalk : t.walk [] place = .ok (some place) :=
    walk_eq_append (fun above _ => h.folder above) hopen.short hopen.downwards
  rw [find_eq, if_neg hnamed, if_neg (Nat.not_le.mpr hopen.short_text), start, hwalk]
  exact congrArg Except.ok h.file

end Tree

end SchemaDepot
