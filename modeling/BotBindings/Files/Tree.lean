import BotBindings.Files.Path

/-!
# File trees

A tree of files and directories without links. The entries are held by their places, a place being
the names on the way from the root, and each entry lies in a directory. `get?` is the view of a
tree: `get?_set` and `get?_erase` say what the two ways to change a tree do to it.

A path is followed name by name. Every name has to be looked up in a directory, so a path through a
file or through a missing directory leads nowhere.
-/

namespace BotBindings

/-- The names on the way from the root. -/
abbrev Place := List String

/-- What is found at a place. -/
inductive Entry
  | file (text : String)
  | directory
  deriving DecidableEq, Repr

/-- Why an operation on files failed. -/
inductive FileError
  /-- Nothing is there, or a directory on the way is missing. -/
  | notFound
  /-- A file stands where a directory is needed. -/
  | notDirectory
  /-- A directory stands where a file is needed. -/
  | isDirectory
  /-- Something is there already. -/
  | alreadyExists
  /-- A name or the whole path is too long. -/
  | nameTooLong
  /-- The path contains the null character. -/
  | nullInName
  deriving DecidableEq, Repr

/-- The text of a failure. -/
def FileError.message : FileError → String
  | .notFound => "No such file or directory (os error 2)"
  | .notDirectory => "Not a directory (os error 20)"
  | .isDirectory => "Is a directory (os error 21)"
  | .alreadyExists => "File exists (os error 17)"
  | .nameTooLong => "File name too long (os error 36)"
  | .nullInName => "file name contained an unexpected NUL byte"

/-- The most bytes that names and paths may have. -/
structure Limits where
  /-- The limit on one name, if there is one. -/
  name : Option Nat := none
  /-- The limit on a written path, if there is one. -/
  path : Option Nat := none
  deriving DecidableEq, Repr

/-- The limits of most systems. -/
def Limits.usual : Limits where
  name := some 255
  path := some 4095

/-- Whether a text stays within a limit. -/
def withinLimit (limit : Option Nat) (text : String) : Bool :=
  match limit with
  | none => true
  | some most => text.utf8ByteSize ≤ most

/-- The entry at a place. The root is always a directory. -/
def entryAt (entries : List (Place × Entry)) (place : Place) : Option Entry :=
  if place = [] then some .directory else entries.lookup place

/-- A tree of files, seen from a working directory. -/
structure FileTree where
  /-- The entries below the root, by place. -/
  entries : List (Place × Entry)
  /-- The place from which relative paths lead. -/
  workingPlace : Place
  /-- How long names and paths may be. -/
  limits : Limits
  /-- Every entry lies in a directory. -/
  parent_isDirectory : ∀ place name, (entryAt entries (place ++ [name])).isSome →
    entryAt entries place = some .directory

namespace FileTree

/-- The tree that has only a root. -/
def empty (limits : Limits) : FileTree where
  entries := []
  workingPlace := []
  limits := limits
  parent_isDirectory := by
    intro place name h
    simp [entryAt] at h

/-- What is at a place. -/
def get? (t : FileTree) (place : Place) : Option Entry :=
  entryAt t.entries place

/-- The same tree seen from another working directory. -/
def workIn (t : FileTree) (place : Place) : FileTree :=
  { t with workingPlace := place }

/-- The root of a tree is a directory, even though no entry stands for it. -/
@[simp] theorem get?_root (t : FileTree) : t.get? [] = some .directory := by
  simp [get?, entryAt]

/-- Dropping entries by their places keeps what is found at the others. -/
theorem lookup_filter (entries : List (Place × Entry)) (keep : Place → Bool) (place : Place) :
    (entries.filter fun entry => keep entry.1).lookup place
      = if keep place then entries.lookup place else none := by
  induction entries with
  | nil => simp
  | cons entry rest ih =>
    obtain ⟨p, e⟩ := entry
    by_cases ho : place = p
    · subst ho
      cases hk : keep place with
      | true => simp [hk]
      | false => rw [List.filter_cons_of_neg (by simp [hk]), ih, hk]; simp
    · have hb : (place == p) = false := by simpa using ho
      cases hk : keep p <;> simp [hk, List.lookup_cons, hb, ih]

/-- The entries with one more, or with another entry at a place. -/
def setEntry (entries : List (Place × Entry)) (place : Place) (entry : Entry) :
    List (Place × Entry) :=
  (place, entry) :: entries.filter fun other => other.1 != place

private theorem entryAt_setEntry (entries : List (Place × Entry)) (place other : Place)
    (entry : Entry)
    (h : place ≠ []) :
    entryAt (setEntry entries place entry) other
      = if other = place then some entry else entryAt entries other := by
  by_cases hroot : other = []
  · subst hroot
    simp [entryAt, h.symm]
  · by_cases ho : other = place
    · simp [entryAt, setEntry, ho, h]
    · have hb : (other == place) = false := by simpa using ho
      simp [entryAt, setEntry, hroot, List.lookup_cons, hb, ho, lookup_filter _ (· != place)]

/-- Puts an entry into a directory. A directory is not replaced by a file. -/
def set (t : FileTree) (parent : Place) (name : String) (entry : Entry)
    (hparent : t.get? parent = some .directory)
    (hkeep : t.get? (parent ++ [name]) = some .directory → entry = .directory) : FileTree where
  entries := setEntry t.entries (parent ++ [name]) entry
  workingPlace := t.workingPlace
  limits := t.limits
  parent_isDirectory := by
    intro place n hsome
    rw [entryAt_setEntry _ _ _ _ (by simp)] at hsome ⊢
    have hold : t.get? (place ++ [n]) ≠ none → t.get? place = some .directory := fun hne =>
      t.parent_isDirectory place n (Option.isSome_iff_ne_none.mpr hne)
    by_cases hself : place = parent ++ [name]
    · subst hself
      have hne : parent ++ [name] ++ [n] ≠ parent ++ [name] := by simp
      rw [if_neg hne] at hsome
      rw [if_pos rfl, hkeep (hold (Option.isSome_iff_ne_none.mp hsome))]
    · rw [if_neg hself]
      by_cases hnew : place ++ [n] = parent ++ [name]
      · have := List.append_inj_left' hnew rfl
        subst this
        exact hparent
      · rw [if_neg hnew] at hsome
        exact hold (Option.isSome_iff_ne_none.mp hsome)

/-- An entry is found at its place and changes no other place. -/
theorem get?_set (t : FileTree) (parent : Place) (name : String) (entry : Entry) (hparent hkeep)
    (other : Place) :
    (t.set parent name entry hparent hkeep).get? other
      = if other = parent ++ [name] then some entry else t.get? other :=
  entryAt_setEntry t.entries (parent ++ [name]) other entry (by simp)

/-- Removes what is at a place and all below it. The root itself stays. -/
def erase (t : FileTree) (place : Place) : FileTree where
  entries := t.entries.filter fun entry => !place.isPrefixOf entry.1
  workingPlace := t.workingPlace
  limits := t.limits
  parent_isDirectory := by
    intro p n hsome
    simp only [entryAt, lookup_filter _ (fun p => !place.isPrefixOf p), List.append_eq_nil_iff,
      List.cons_ne_self, and_false, if_false] at hsome ⊢
    by_cases hroot : p = []
    · simp [hroot]
    · by_cases hpre : place.isPrefixOf (p ++ [n])
      · simp [hpre] at hsome
      · simp only [hpre, Bool.not_false, if_true] at hsome
        have hp : ¬ place.isPrefixOf p := fun h => hpre (by
          rw [List.isPrefixOf_iff_prefix] at h ⊢
          exact h.trans (List.prefix_append p [n]))
        have := t.parent_isDirectory p n (by simpa [entryAt] using hsome)
        simpa [entryAt, hroot, hp] using this

/-- An erased place and all below it are gone, and nothing else is. -/
theorem get?_erase (t : FileTree) (place other : Place) :
    (t.erase place).get? other
      = if other ≠ [] ∧ place.isPrefixOf other then none else t.get? other := by
  by_cases hroot : other = []
  · simp [hroot]
  · by_cases hpre : place.isPrefixOf other <;>
      simp [get?, erase, entryAt, lookup_filter _ (fun p => !place.isPrefixOf p), hroot, hpre]

/-- Follows one name from a place. -/
def step (t : FileTree) (place : Place) (name : String) : Except FileError Place :=
  match t.get? place with
  | none => .error .notFound
  | some (.file _) => .error .notDirectory
  | some .directory =>
    if name.isEmpty || name == "." then .ok place
    else if name == ".." then .ok place.dropLast
    else if withinLimit t.limits.name name then .ok (place ++ [name])
    else .error .nameTooLong

/-- Follows names from a place. The last name need not be there. -/
def walk (t : FileTree) (place : Place) : List String → Except FileError Place
  | [] => .ok place
  | name :: rest =>
    match t.step place name with
    | .ok next => t.walk next rest
    | .error e => .error e

/-- The place to which the names of a path lead. -/
def follow (t : FileTree) (path : Path) (names : List String) : Except FileError Place :=
  if path.text.toList.contains '\x00' then .error .nullInName
  else if path.text.isEmpty then .error .notFound
  else if withinLimit t.limits.path path.text then
    t.walk (if path.isAbsolute then [] else t.workingPlace) names
  else .error .nameTooLong

/-- The place of a path. -/
def locate (t : FileTree) (path : Path) : Except FileError Place :=
  t.follow path path.names

/-- Whether a path leads to a directory. -/
def isDirectory (t : FileTree) (path : Path) : Bool :=
  match t.locate path with
  | .ok place => t.get? place == some .directory
  | .error _ => false

/-- The text of a file. -/
def readFile (t : FileTree) (path : Path) : Except FileError String :=
  match t.locate path with
  | .error e => .error e
  | .ok place =>
    match t.get? place with
    | none => .error .notFound
    | some .directory => .error .isDirectory
    | some (.file text) => .ok text

/-- Puts a file at a place, in place of the file that may be there. -/
def setFile (t : FileTree) (place : Place) (text : String) : Except FileError FileTree :=
  match place.getLast? with
  | none => .error .isDirectory
  | some name =>
    if hparent : t.get? place.dropLast = some .directory then
      if hfile : t.get? (place.dropLast ++ [name]) = some .directory then .error .isDirectory
      else .ok (t.set place.dropLast name (.file text) hparent (fun hdir => absurd hdir hfile))
    else .error .notFound

/-- Writes a file, in place of the file that may be there. -/
def writeFile (t : FileTree) (path : Path) (text : String) : Except FileError FileTree :=
  match t.locate path with
  | .error e => .error e
  | .ok place => t.setFile place text

/-- Puts a new directory at a place. -/
def setDirectory (t : FileTree) (place : Place) : Except FileError FileTree :=
  match place.getLast? with
  | none => .error .alreadyExists
  | some name =>
    if (t.get? place).isSome then .error .alreadyExists
    else if hparent : t.get? place.dropLast = some .directory then
      .ok (t.set place.dropLast name .directory hparent (fun _ => rfl))
    else .error .notFound

/-- Creates one directory. -/
def createDir (t : FileTree) (path : Path) : Except FileError FileTree :=
  match t.follow path path.trimmedNames with
  | .error e => .error e
  | .ok place => t.setDirectory place

/-- Creates one directory unless it is there. -/
def ensureDir (t : FileTree) (path : Path) : FileTree × Option FileError :=
  match t.createDir path with
  | .ok t => (t, none)
  | .error e => (t, if t.isDirectory path then none else some e)

/-- Creates the first of some directories, of which each lies in the next, and before it those of
the others that are missing. -/
def ensureChain (t : FileTree) : List Path → FileTree × Option FileError
  | [] => (t, none)
  | path :: above =>
    match t.createDir path with
    | .ok t => (t, none)
    | .error .notFound =>
      match t.ensureChain above with
      | (t, none) => t.ensureDir path
      | failed => failed
    | .error e => (t, if t.isDirectory path then none else some e)

/-- Creates a directory and the missing directories above it. Those stay even if it fails. -/
def createDirAll (t : FileTree) (path : Path) : FileTree × Option FileError :=
  if path.text.isEmpty then (t, none) else t.ensureChain path.ancestors

/-- Removes a directory and all below it. -/
def removeDirAll (t : FileTree) (path : Path) : Except FileError FileTree :=
  match t.locate path with
  | .error e => .error e
  | .ok place =>
    match t.get? place with
    | none => .error .notFound
    | some (.file _) => .error .notDirectory
    | some .directory => .ok (t.erase place)

/-- Removes whatever a path leads to, if it leads anywhere. -/
def remove (t : FileTree) (path : Path) : FileTree :=
  match t.locate path with
  | .error _ => t
  | .ok place => t.erase place

/-- The entries below the working directory, with the rest of their places. -/
def below (t : FileTree) : List (Place × Entry) :=
  t.entries.filterMap fun (place, entry) =>
    if t.workingPlace.isPrefixOf place && place != t.workingPlace then
      some (place.drop t.workingPlace.length, entry)
    else none

end FileTree

end BotBindings
