import BotBindings.Files.Tree
import BotBindings.Proofs.Text.Split
import Mathlib.Data.List.TakeWhile

/-!
# Where paths lead

There are no links in a tree of files. So a path that can be followed leads to a place that depends
on its names only: the tree decides whether the way is there, but not where it goes. This file names
that place, says how it changes when a name is joined to a path, and proves that a way stays open as
long as no directory is lost.
-/

namespace BotBindings

/-! ## Places without a tree -/

/-- The place that a name leads to from a directory. -/
def Place.next (place : Place) (name : String) : Place :=
  if name.isEmpty || name == "." then place
  else if name == ".." then place.dropLast
  else place ++ [name]

/-- The place that names lead to one after the other. -/
def Place.follow (place : Place) (names : List String) : Place :=
  names.foldl Place.next place

/-- A name of a file: a single name that does not stand for a directory which is there already. -/
structure IsFileName (name : String) : Prop where
  slash_not_mem : '/' ∉ name.toList
  ne_empty : name ≠ ""
  ne_dot : name ≠ "."
  ne_dots : name ≠ ".."

/-- A step by a name that a directory can hold leads to the place below by that name. -/
theorem IsFileName.next_eq {name : String} (h : IsFileName name) (place : Place) :
    Place.next place name = place ++ [name] := by
  simp [Place.next, h.ne_empty, h.ne_dot, h.ne_dots]

/-- An empty name leads nowhere else. -/
@[simp] theorem Place.next_empty (place : Place) : Place.next place "" = place := by
  simp [next]

/-- Names that follow others are followed from the place to which those lead. -/
theorem Place.follow_append (place : Place) (names others : List String) :
    follow place (names ++ others) = follow (follow place names) others := by
  simp [follow]

private theorem Place.follow_of_isEmpty {names : List String} (h : ∀ name ∈ names, name = "")
    (place : Place) : follow place names = place := by
  induction names with
  | nil => rfl
  | cons name names ih =>
    rw [follow, List.foldl_cons, h name (by simp), next_empty]
    exact ih fun other hother => h other (by simp [hother])

/-- Slashes at the end of a path lead nowhere else. -/
theorem Path.follow_trimmedNames (path : Path) (place : Place) :
    Place.follow place path.trimmedNames = Place.follow place path.names := by
  have hsplit : path.names
      = path.trimmedNames ++ (path.names.reverse.takeWhile (·.isEmpty)).reverse := by
    rw [trimmedNames, ← List.reverse_append, List.takeWhile_append_dropWhile, List.reverse_reverse]
  have hempty : ∀ name ∈ (path.names.reverse.takeWhile (·.isEmpty)).reverse, name = "" := by
    intro name hname
    simpa using List.mem_takeWhile_imp (List.mem_reverse.mp hname)
  rw [hsplit, Place.follow_append, Place.follow_of_isEmpty hempty]

/-! ## Names of a joined path -/

namespace Path

variable {name : String}

/-- A path without a slash has one name, itself. -/
theorem names_eq_singleton (hname : '/' ∉ name.toList) : (mk name).names = [name] := by
  rw [names, Text.split_of_not_mem hname]
  simp

/-- A name behind a last slash is the last name of the path. -/
theorem names_append_slash (text : String) (hname : '/' ∉ name.toList) :
    (mk (text ++ "/" ++ name)).names = (mk text).names ++ [name] := by
  have htext : (text ++ "/" ++ name).toList = text.toList ++ '/' :: name.toList := by simp
  rw [names, htext, Text.split_append_cons, Text.split_of_not_mem hname]
  simp [names]

private theorem not_isAbsolute (h : IsFileName name) : (mk name).isAbsolute = false := by
  cases hlist : name.toList with
  | nil => simp [isAbsolute, hlist]
  | cons c rest =>
    have hne : c ≠ '/' := by
      intro heq
      exact h.slash_not_mem (by simp [hlist, heq])
    simp [isAbsolute, hlist, hne]

/-- A joined path is the path, a slash unless there is one already, and the name. -/
theorem join_cases (dir : Path) (h : IsFileName name) :
    (dir.text = "" ∧ dir.join name = ⟨name⟩) ∨
      (∃ text, dir = ⟨text ++ "/" ++ ""⟩ ∧ dir.join name = ⟨text ++ "/" ++ name⟩) ∨
      (dir.text ≠ "" ∧ dir.join name = ⟨dir.text ++ "/" ++ name⟩) := by
  rw [join, not_isAbsolute h]
  by_cases hempty : dir.text = ""
  · exact Or.inl ⟨hempty, by simp [hempty]⟩
  · by_cases hslash : dir.text.toList.getLast? = some '/'
    · obtain ⟨front, hfront⟩ := List.getLast?_eq_some_iff.mp hslash
      have htext : dir.text = String.ofList front ++ "/" := by
        rw [← String.toList_inj]
        simpa using hfront
      refine Or.inr (Or.inl ⟨String.ofList front, ?_, by simp [htext]⟩)
      rw [String.append_empty, ← htext]
    · exact Or.inr (Or.inr ⟨hempty, by simp [hempty, hslash]⟩)

private theorem isAbsolute_append {text : String} (hne : text ≠ "") (more : String) :
    (mk (text ++ more)).isAbsolute = (mk text).isAbsolute := by
  cases hlist : text.toList with
  | nil => exact absurd (String.toList_inj.mp hlist) hne
  | cons c rest => simp [isAbsolute, hlist]

/-- A joined path starts at the root exactly if the path does. -/
theorem isAbsolute_join (dir : Path) (h : IsFileName name) :
    (dir.join name).isAbsolute = dir.isAbsolute := by
  rcases dir.join_cases h with ⟨hempty, hjoin⟩ | ⟨text, rfl, hjoin⟩ | ⟨hne, hjoin⟩
  · rw [hjoin, not_isAbsolute h]
    simp [isAbsolute, hempty]
  · have hfront : text ++ "/" ≠ "" := by simp
    rw [hjoin]
    exact (isAbsolute_append hfront name).trans (isAbsolute_append hfront "").symm
  · rw [hjoin, String.append_assoc, isAbsolute_append hne]

/-- The names of a joined path lead to the name in the place that the path leads to. -/
theorem follow_names_join (dir : Path) (h : IsFileName name) (place : Place) :
    Place.follow place (dir.join name).names = Place.follow place dir.names ++ [name] := by
  rcases dir.join_cases h with ⟨hempty, hjoin⟩ | ⟨text, rfl, hjoin⟩ | ⟨-, hjoin⟩
  · have hdir : dir.names = [""] := by
      have hnil : dir = ⟨""⟩ := by rw [← hempty]
      rw [hnil, names_eq_singleton (by simp)]
    rw [hjoin, hdir, names_eq_singleton h.slash_not_mem]
    simp [Place.follow, h.next_eq]
  · rw [hjoin, names_append_slash _ h.slash_not_mem, names_append_slash _ (by simp)]
    simp [Place.follow, h.next_eq]
  · rw [hjoin, names_append_slash _ h.slash_not_mem, Place.follow_append]
    simp [Place.follow, h.next_eq]

end Path

namespace FileTree

variable {t t' : FileTree}

/-- The place that a path leads to, if the way is there. -/
def placeOf (t : FileTree) (path : Path) : Place :=
  Place.follow (if path.isAbsolute then [] else t.workingPlace) path.names

/-- Where a path leads depends on the working directory only. -/
theorem placeOf_eq_of_workingPlace_eq (h : t'.workingPlace = t.workingPlace) (path : Path) :
    t'.placeOf path = t.placeOf path := by
  rw [placeOf, placeOf, h]

/-- A name that is joined to a path leads to that name in the place of the path. -/
theorem placeOf_join (t : FileTree) (dir : Path) {name : String} (h : IsFileName name) :
    t.placeOf (dir.join name) = t.placeOf dir ++ [name] := by
  rw [placeOf, placeOf, dir.isAbsolute_join h, dir.follow_names_join h]

/-! ## Ways through a tree -/

private theorem step_eq_ok {place next : Place} {name : String} (h : t.step place name = .ok next) :
    t.get? place = some .directory ∧ next = Place.next place name := by
  unfold step at h
  split at h
  · cases h
  · cases h
  · rename_i hdir
    refine ⟨hdir, ?_⟩
    unfold Place.next
    split at h
    · cases h
      rw [if_pos ‹_›]
    · rw [if_neg ‹_›]
      split at h
      · cases h
        rw [if_pos ‹_›]
      · rw [if_neg ‹_›]
        split at h <;> cases h
        rfl

private theorem walk_eq_ok {place last : Place} {names : List String}
    (h : t.walk place names = .ok last) :
    last = Place.follow place names := by
  induction names generalizing place with
  | nil => simpa [walk, Place.follow] using h.symm
  | cons name names ih =>
    rw [walk] at h
    cases hstep : t.step place name with
    | error e => simp [hstep] at h
    | ok next =>
      rw [hstep] at h
      rw [ih h, (step_eq_ok hstep).2]
      rfl

/-- Names that could be followed in the tree lead where they lead as names, from the root or from
the working place. -/
theorem follow_eq_ok {path : Path} {names : List String} {place : Place}
    (h : t.follow path names = .ok place) :
    place = Place.follow (if path.isAbsolute then [] else t.workingPlace) names := by
  unfold follow at h
  split at h
  · cases h
  · split at h
    · cases h
    · split at h
      · exact walk_eq_ok h
      · cases h

/-- A path that can be followed leads to its place. -/
theorem locate_eq_ok {path : Path} {place : Place} (h : t.locate path = .ok place) :
    place = t.placeOf path :=
  follow_eq_ok h

/-- What is a directory in `t` is one in `t'`, and paths are read in the same way. -/
structure KeepsDirectories (t t' : FileTree) : Prop where
  workingPlace_eq : t'.workingPlace = t.workingPlace
  limits_eq : t'.limits = t.limits
  get?_eq : ∀ place, t.get? place = some .directory → t'.get? place = some .directory

/-- A tree that was not changed keeps its directories. -/
theorem KeepsDirectories.refl (t : FileTree) : t.KeepsDirectories t :=
  ⟨rfl, rfl, fun _ h => h⟩

/-- Directories that are kept by two changes are kept by both together. -/
theorem KeepsDirectories.trans {t'' : FileTree} (h : t.KeepsDirectories t')
    (h' : t'.KeepsDirectories t'') : t.KeepsDirectories t'' where
  workingPlace_eq := h'.workingPlace_eq.trans h.workingPlace_eq
  limits_eq := h'.limits_eq.trans h.limits_eq
  get?_eq := fun place hdir => h'.get?_eq place (h.get?_eq place hdir)

private theorem KeepsDirectories.step {place next : Place} {name : String}
    (h : t.KeepsDirectories t')
    (hstep : t.step place name = .ok next) : t'.step place name = .ok next := by
  have hdir := (step_eq_ok hstep).1
  simpa only [FileTree.step, hdir, h.get?_eq place hdir, h.limits_eq] using hstep

private theorem KeepsDirectories.walk {place last : Place} {names : List String}
    (h : t.KeepsDirectories t') (hwalk : t.walk place names = .ok last) :
    t'.walk place names = .ok last := by
  induction names generalizing place with
  | nil => exact hwalk
  | cons name names ih =>
    rw [FileTree.walk] at hwalk
    cases hstep : t.step place name with
    | error e => simp [hstep] at hwalk
    | ok next =>
      rw [hstep] at hwalk
      rw [FileTree.walk, h.step hstep]
      exact ih hwalk

/-- A way stays open as long as no directory is lost. -/
theorem KeepsDirectories.locate {path : Path} {place : Place} (h : t.KeepsDirectories t')
    (hlocate : t.locate path = .ok place) : t'.locate path = .ok place := by
  unfold FileTree.locate follow at hlocate ⊢
  rw [h.limits_eq, h.workingPlace_eq]
  split at hlocate
  · cases hlocate
  · rw [if_neg ‹_›]
    split at hlocate
    · cases hlocate
    · rw [if_neg ‹_›]
      split at hlocate
      · rw [if_pos ‹_›]
        exact h.walk hlocate
      · cases hlocate

/-- As long as directories are kept, a path leads to the same place. -/
theorem KeepsDirectories.placeOf_eq (h : t.KeepsDirectories t') (path : Path) :
    t'.placeOf path = t.placeOf path :=
  placeOf_eq_of_workingPlace_eq h.workingPlace_eq path

end FileTree

end BotBindings
