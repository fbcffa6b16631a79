import BotBindings.Files.Output
import BotBindings.Proofs.Files.Walk

/-!
# What operations on files change

Every operation that writes changes the tree at the place of its path or below it, and the creation
of a directory with the missing ones above it changes the places of those paths. This file states
for each operation what a success has done, and for a whole list of steps, however far they get,
which places they leave as they were.
-/

namespace BotBindings

namespace FileTree

variable {t t' : FileTree}

/-! ## Single operations -/

/-- The tree `t'` is `t` with an entry put at a place, instead of what was there. -/
structure Puts (t : FileTree) (place : Place) (entry : Entry) (t' : FileTree) : Prop where
  workingPlace_eq : t'.workingPlace = t.workingPlace
  limits_eq : t'.limits = t.limits
  get?_eq : ∀ other, t'.get? other = if other = place then some entry else t.get? other

private theorem puts_set {parent place : Place} {name : String} (entry : Entry)
    (hplace : parent ++ [name] = place) (hparent hkeep) :
    t.Puts place entry (t.set parent name entry hparent hkeep) := by
  subst hplace
  exact ⟨rfl, rfl, t.get?_set parent name entry hparent hkeep⟩

/-- No directory is lost where a directory is put, or where there was none. -/
theorem Puts.keepsDirectories {place : Place} {entry : Entry} (h : t.Puts place entry t')
    (hentry : t.get? place ≠ some .directory ∨ entry = .directory) : t.KeepsDirectories t' where
  workingPlace_eq := h.workingPlace_eq
  limits_eq := h.limits_eq
  get?_eq := by
    intro other hdir
    rw [h.get?_eq]
    split
    · rename_i heq
      subst heq
      rcases hentry with hnot | rfl
      · exact absurd hdir hnot
      · rfl
    · exact hdir

private theorem setFile_eq_ok {place : Place} {text : String} (h : t.setFile place text = .ok t') :
    t.get? place ≠ some .directory ∧ t.Puts place (.file text) t' := by
  unfold setFile at h
  cases hlast : place.getLast? with
  | none => simp [hlast] at h
  | some name =>
    have hplace : place.dropLast ++ [name] = place := List.dropLast_append_getLast? name hlast
    simp only [hlast] at h
    split at h
    · split at h
      · cases h
      · rename_i hparent hnot
        cases h
        refine ⟨?_, puts_set (.file text) hplace hparent (fun hdir => absurd hdir hnot)⟩
        rwa [hplace] at hnot
    · cases h

/-- A file that was written is found at the place of its path, and nothing else has changed. -/
theorem writeFile_eq_ok {path : Path} {text : String} (h : t.writeFile path text = .ok t') :
    t.locate path = .ok (t.placeOf path) ∧ t.get? (t.placeOf path) ≠ some .directory ∧
      t.Puts (t.placeOf path) (.file text) t' := by
  unfold writeFile at h
  cases hlocate : t.locate path with
  | error e => simp [hlocate] at h
  | ok place =>
    obtain rfl := locate_eq_ok hlocate
    rw [hlocate] at h
    exact ⟨rfl, setFile_eq_ok h⟩

/-- A directory that was created is found at the place of its path, where nothing was before. -/
theorem createDir_eq_ok {path : Path} (h : t.createDir path = .ok t') :
    t.get? (t.placeOf path) = none ∧ t.Puts (t.placeOf path) .directory t' := by
  unfold createDir at h
  cases hfollow : t.follow path path.trimmedNames with
  | error e => simp [hfollow] at h
  | ok place =>
    have hplaceOf : place = t.placeOf path := by
      rw [follow_eq_ok hfollow, Path.follow_trimmedNames, placeOf]
    rw [← hplaceOf]
    simp only [hfollow, setDirectory] at h
    cases hlast : place.getLast? with
    | none => simp [hlast] at h
    | some name =>
      have hplace : place.dropLast ++ [name] = place := List.dropLast_append_getLast? name hlast
      simp only [hlast] at h
      split at h
      · cases h
      · rename_i hnone
        split at h
        · rename_i hparent
          cases h
          exact ⟨by simpa using hnone, puts_set .directory hplace hparent (fun _ => rfl)⟩
        · cases h

/-- A directory that was removed is gone with all that was below it, and nothing else is. -/
theorem removeDirAll_eq_ok {path : Path} (h : t.removeDirAll path = .ok t') :
    t' = t.erase (t.placeOf path) := by
  unfold removeDirAll at h
  cases hlocate : t.locate path with
  | error e => simp [hlocate] at h
  | ok place =>
    obtain rfl := locate_eq_ok hlocate
    simp only [hlocate] at h
    split at h <;> cases h
    rfl

/-- Where nothing is, nothing is below. -/
theorem get?_append_eq_none {place : Place} (h : t.get? place = none) (more : List String) :
    t.get? (place ++ more) = none := by
  induction more using List.reverseRecOn with
  | nil => simpa using h
  | append_singleton more name ih =>
    rw [← List.append_assoc]
    by_contra hsome
    have hparent := t.parent_isDirectory (place ++ more) name (Option.isSome_iff_ne_none.mpr hsome)
    change t.get? (place ++ more) = some .directory at hparent
    rw [ih] at hparent
    cases hparent

/-! ## Creating a directory with those above it -/

/-- The tree `t'` is `t` with some new directories, which some paths lead to. -/
structure AddsDirectories (t : FileTree) (paths : List Path) (t' : FileTree) : Prop where
  keepsDirectories : t.KeepsDirectories t'
  get?_eq_or : ∀ place, t'.get? place = t.get? place ∨
    (t.get? place = none ∧ t'.get? place = some .directory ∧ ∃ path ∈ paths, place = t.placeOf path)

/-- A tree that was not changed has no directories added to it. -/
theorem AddsDirectories.refl (t : FileTree) (paths : List Path) : t.AddsDirectories paths t :=
  ⟨.refl t, fun _ => Or.inl rfl⟩

/-- Directories added one after the other are added together. -/
theorem AddsDirectories.trans {t'' : FileTree} {paths : List Path} (h : t.AddsDirectories paths t')
    (h' : t'.AddsDirectories paths t'') : t.AddsDirectories paths t'' where
  keepsDirectories := h.keepsDirectories.trans h'.keepsDirectories
  get?_eq_or := by
    intro place
    rcases h.get?_eq_or place with heq | ⟨hnone, hdir, hpath⟩
    · rcases h'.get?_eq_or place with heq' | ⟨hnone', hdir', path, hmem, hplace⟩
      · exact Or.inl (heq'.trans heq)
      · rw [h.keepsDirectories.placeOf_eq] at hplace
        exact Or.inr ⟨heq.symm.trans hnone', hdir', path, hmem, hplace⟩
    · exact Or.inr ⟨hnone, h'.keepsDirectories.get?_eq place hdir, hpath⟩

/-- Directories above some paths are directories above more paths. -/
theorem AddsDirectories.mono {paths others : List Path} (h : t.AddsDirectories paths t')
    (hsubset : paths ⊆ others) : t.AddsDirectories others t' where
  keepsDirectories := h.keepsDirectories
  get?_eq_or := fun place => (h.get?_eq_or place).imp_right fun ⟨hnone, hdir, path, hmem, hplace⟩ =>
    ⟨hnone, hdir, path, hsubset hmem, hplace⟩

private theorem addsDirectories_of_createDir {path : Path} (h : t.createDir path = .ok t') :
    t.AddsDirectories [path] t' := by
  obtain ⟨hnone, hputs⟩ := createDir_eq_ok h
  refine ⟨hputs.keepsDirectories (Or.inr rfl), fun place => ?_⟩
  rw [hputs.get?_eq]
  split
  · rename_i heq
    exact Or.inr ⟨heq ▸ hnone, rfl, path, by simp, heq⟩
  · exact Or.inl rfl

private theorem addsDirectories_ensureDir (t : FileTree) (path : Path) :
    t.AddsDirectories [path] (t.ensureDir path).1 := by
  unfold ensureDir
  cases hcreate : t.createDir path with
  | ok t' => exact addsDirectories_of_createDir hcreate
  | error e => exact .refl t [path]

/-- Whether it succeeds or not, a chain of directories adds directories of the chain only. -/
theorem addsDirectories_ensureChain (t : FileTree) (paths : List Path) :
    t.AddsDirectories paths (t.ensureChain paths).1 := by
  induction paths with
  | nil => exact .refl t []
  | cons path above ih =>
    rw [ensureChain]
    split
    · rename_i t' hcreate
      exact (addsDirectories_of_createDir hcreate).mono (by simp)
    · have habove := ih.mono (List.subset_cons_self path above)
      split
      · rename_i t' hchain
        rw [hchain] at habove
        exact habove.trans ((t'.addsDirectories_ensureDir path).mono (by simp))
      · exact habove
    · exact .refl t (path :: above)

/-- Whether it succeeds or not, creating a directory adds that directory and some above it only. -/
theorem addsDirectories_createDirAll (t : FileTree) (path : Path) :
    t.AddsDirectories path.ancestors (t.createDirAll path).1 := by
  unfold createDirAll
  split
  · exact .refl t path.ancestors
  · exact t.addsDirectories_ensureChain path.ancestors

end FileTree

end BotBindings
