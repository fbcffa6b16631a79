import BotBindings.Proofs.Files.Effect
import BotBindings.Proofs.Text.Casing

/-!
# Plain relative paths

A plain path is relative and all of its names are names of files, so it leads down from the working
directory and nowhere else. Where names have no limit such a path can be followed as far as there
are directories on the way. This file says what the operations on files do at plain paths: in
particular a directory can be created with the directories above it exactly if no file stands on the
way.
-/

namespace BotBindings

/-- A relative path of names of files. Slashes may be repeated, and may stand at the end. -/
structure Path.IsPlain (path : Path) : Prop where
  isAbsolute_eq : path.isAbsolute = false
  null_not_mem : '\x00' ∉ path.text.toList
  isFileName : ∀ name ∈ path.names, name ≠ "" → IsFileName name

private theorem Place.next_of_plain {name : String} (h : name ≠ "" → IsFileName name)
    (place : Place) :
    Place.next place name = place ++ [name].filter (· ≠ "") := by
  by_cases hempty : name = ""
  · simp [hempty]
  · simp [(h hempty).next_eq, hempty]

/-- Plain names lead down by those of them that are not empty. -/
theorem Place.follow_of_plain {names : List String}
    (h : ∀ name ∈ names, name ≠ "" → IsFileName name) (place : Place) :
    Place.follow place names = place ++ names.filter (· ≠ "") := by
  induction names generalizing place with
  | nil => simp [follow]
  | cons name names ih =>
    have hrest := ih (fun other hother => h other (List.mem_cons_of_mem name hother))
      (Place.next place name)
    rw [follow, List.foldl_cons]
    refine hrest.trans ?_
    rw [Place.next_of_plain (h name List.mem_cons_self), List.append_assoc, ← List.filter_append]
    rfl

/-! ## The names of plain paths -/

namespace Path

variable {path : Path}

private theorem names_ne_nil (path : Path) : path.names ≠ [] := by
  simp [names, Text.split_ne_nil]

/-- A path that is not empty and does not start with a slash has a first name. -/
theorem head?_names_ne (hrelative : path.isAbsolute = false) (hne : path.text ≠ "") :
    path.names.head? ≠ some "" := by
  intro hhead
  rw [names, Text.split] at hhead
  split at hhead
  · apply hne
    simpa using hhead
  · rename_i before after hcut
    have hbefore : before = [] := by simpa using hhead
    obtain ⟨-, heq⟩ := Text.eq_append_of_cut hcut
    rw [isAbsolute, heq, hbefore] at hrelative
    cases hrelative

/-- Without the slashes at its end a path ends with a name, unless it has none. -/
theorem IsPlain.exists_trimmedNames_eq (h : path.IsPlain) (hne : path.text ≠ "") :
    ∃ front last, path.trimmedNames = front ++ [last] ∧ IsFileName last ∧
      ∀ name ∈ front, name ≠ "" → IsFileName name := by
  have hmem : ∀ name ∈ path.trimmedNames, name ∈ path.names := by
    intro name hname
    rw [trimmedNames, List.mem_reverse] at hname
    exact List.mem_reverse.mp ((List.dropWhile_sublist _).subset hname)
  have hhead : (path.names.reverse.dropWhile (·.isEmpty)) ≠ [] := by
    intro hnil
    obtain ⟨first, rest, hnames⟩ := List.exists_cons_of_ne_nil path.names_ne_nil
    have hempty := List.dropWhile_eq_nil_iff.mp hnil first (by simp [hnames])
    apply head?_names_ne h.isAbsolute_eq hne
    rw [hnames]
    simpa using hempty
  obtain ⟨last, front, hfront⟩ := List.exists_cons_of_ne_nil hhead
  have hlast : last.isEmpty = false := by
    have hnot := List.head_dropWhile_not String.isEmpty hhead
    simp only [hfront, List.head_cons] at hnot
    exact hnot
  have htrimmed : path.trimmedNames = front.reverse ++ [last] := by
    rw [trimmedNames, hfront, List.reverse_cons]
  refine ⟨front.reverse, last, htrimmed, ?_, fun name hname => ?_⟩
  · exact h.isFileName last (hmem last (by simp [htrimmed])) (by simpa using hlast)
  · exact h.isFileName name (hmem name (by simp [htrimmed, List.mem_reverse.mp hname]))

/-- The names of a joined path are those that lead to the directory and the name itself. -/
theorem IsPlain.exists_names_join (h : path.IsPlain) {name : String} (hname : IsFileName name) :
    ∃ front, (path.join name).names = front ++ [name] ∧
      (∀ other ∈ front, other ≠ "" → IsFileName other) ∧
      ∀ place, Place.follow place front = Place.follow place path.names := by
  have hslash := hname.slash_not_mem
  rcases path.join_cases hname with ⟨hempty, hjoin⟩ | ⟨text, hpath, hjoin⟩ | ⟨-, hjoin⟩
  · have hnames : path.names = [""] := by
      have hnil : path = ⟨""⟩ := by rw [← hempty]
      rw [hnil, names_eq_singleton (by simp)]
    refine ⟨[], by rw [hjoin, names_eq_singleton hslash]; rfl, by simp, fun place => ?_⟩
    rw [hnames]
    simp [Place.follow]
  · have hnames : path.names = (Path.mk text).names ++ [""] := by
      rw [hpath, names_append_slash text (by simp)]
    refine ⟨(Path.mk text).names, by rw [hjoin, names_append_slash _ hslash], ?_, fun place => ?_⟩
    · intro other hother
      exact h.isFileName other (by simp [hnames, hother])
    · rw [hnames, Place.follow_append]
      simp [Place.follow]
  · exact ⟨path.names, by rw [hjoin, names_append_slash _ hslash], h.isFileName, fun _ => rfl⟩

private theorem null_not_mem_join (h : '\x00' ∉ path.text.toList) {name : String}
    (hname : IsFileName name) (hnull : '\x00' ∉ name.toList) :
    '\x00' ∉ (path.join name).text.toList := by
  rcases path.join_cases hname with ⟨-, hjoin⟩ | ⟨text, rfl, hjoin⟩ | ⟨-, hjoin⟩
  · rwa [hjoin]
  · rw [hjoin]
    simp_all
  · rw [hjoin]
    simp_all

/-- A plain path stays plain if a name that a directory can hold is joined to it. -/
theorem IsPlain.join (h : path.IsPlain) {name : String} (hname : IsFileName name)
    (hnull : '\x00' ∉ name.toList) : (path.join name).IsPlain where
  isAbsolute_eq := (path.isAbsolute_join hname).trans h.isAbsolute_eq
  null_not_mem := null_not_mem_join h.null_not_mem hname hnull
  isFileName := by
    obtain ⟨front, hnames, hfront, -⟩ := h.exists_names_join hname
    intro other hother hne
    rw [hnames, List.mem_append, List.mem_singleton] at hother
    rcases hother with hother | rfl
    · exact hfront other hother hne
    · exact hname

/-- A path to which a name was joined is not empty. -/
theorem join_text_ne (path : Path) {name : String} (hname : IsFileName name) :
    (path.join name).text ≠ "" := by
  have hne := hname.ne_empty
  rcases path.join_cases hname with ⟨-, hjoin⟩ | ⟨text, -, hjoin⟩ | ⟨-, hjoin⟩ <;>
    simp [hjoin, hne]

/-- The components of a plain path are its names that are not empty. -/
theorem IsPlain.components_eq (h : path.IsPlain) :
    path.components = path.names.filter (· ≠ "") := by
  have hcounts : ∀ names : List String, (∀ name ∈ names, name ≠ "" → IsFileName name) →
      (names.filter fun name => !name.isEmpty && name != ".") = names.filter (· ≠ "") := by
    intro names hnames
    refine List.filter_congr fun name hname => ?_
    by_cases hempty : name = ""
    · simp [hempty]
    · simp [hempty, (hnames name hname hempty).ne_dot]
  rw [components]
  split
  · rename_i rest hnames
    exact absurd rfl (h.isFileName "." (by simp [hnames]) (by simp)).ne_dot
  · exact hcounts path.names h.isFileName

/-- The components of a plain path are names that a directory can hold. -/
theorem IsPlain.isFileName_of_mem_components (h : path.IsPlain) {name : String}
    (hname : name ∈ path.components) : IsFileName name := by
  rw [h.components_eq, List.mem_filter] at hname
  exact h.isFileName name hname.1 (by simpa using hname.2)

/-- No component of a plain path holds a null character. -/
theorem IsPlain.null_not_mem_of_mem_components (h : path.IsPlain) {name : String}
    (hname : name ∈ path.components) : '\x00' ∉ name.toList := by
  rw [h.components_eq, List.mem_filter, names, List.mem_map] at hname
  obtain ⟨⟨piece, hpiece, rfl⟩, -⟩ := hname
  rw [String.toList_ofList]
  exact fun hnull => h.null_not_mem ((Text.infix_of_mem_split hpiece).subset hnull)

private theorem IsPlain.components_ne_nil (h : path.IsPlain) (hne : path.text ≠ "") :
    path.components ≠ [] := by
  intro hnil
  obtain ⟨first, rest, hnames⟩ := List.exists_cons_of_ne_nil path.names_ne_nil
  apply head?_names_ne h.isAbsolute_eq hne
  rw [h.components_eq, List.filter_eq_nil_iff] at hnil
  rw [hnames]
  simpa using hnil first (by simp [hnames])

/-- A relative path that is made of names of files has these names. -/
theorem names_ofNames {names : List String} (hne : names ≠ [])
    (hnames : ∀ name ∈ names, IsFileName name) : (ofNames false names).names = names := by
  have htext : (ofNames false names).text.toList = ['/'].intercalate (names.map String.toList) := by
    simp [ofNames, String.toList_intercalate]
  rw [Path.names, htext, Text.split_intercalate (by simp) (by simpa using hne), List.map_map]
  · simp [Function.comp_def]
  · intro piece hpiece
    obtain ⟨name, hname, rfl⟩ := List.mem_map.mp hpiece
    exact Text.clear_of_not_mem (hnames name hname).slash_not_mem

/-- A path from names of files is plain and has them as its components. -/
theorem isPlain_ofNames {names : List String} (hne : names ≠ [])
    (hnames : ∀ name ∈ names, IsFileName name) (hnull : ∀ name ∈ names, '\x00' ∉ name.toList) :
    (ofNames false names).IsPlain ∧ (ofNames false names).text ≠ "" ∧
      (ofNames false names).components = names := by
  have hsame := names_ofNames hne hnames
  have hempty : "" ∉ names := fun hmem => (hnames "" hmem).ne_empty rfl
  have hplain : (ofNames false names).IsPlain := by
    refine ⟨?_, fun hmem => ?_, fun name hname _ => hnames name (hsame ▸ hname)⟩
    · -- A slash in front would have an empty name before it.
      by_contra habsolute
      rw [Bool.not_eq_false, isAbsolute, beq_iff_eq, List.head?_eq_some_iff] at habsolute
      obtain ⟨more, hmore⟩ := habsolute
      apply hempty
      rw [← hsame, Path.names, hmore, ← List.nil_append ('/' :: more), Text.split_append_cons,
        Text.split_of_not_mem List.not_mem_nil]
      simp
    · have htext : (ofNames false names).text.toList
          = ((names.map String.toList).intersperse ['/']).flatten := by
        simp [ofNames, String.toList_intercalate, List.intercalate]
      rw [htext, List.mem_flatten] at hmem
      obtain ⟨piece, hpiece, hmem⟩ := hmem
      rcases Text.mem_of_mem_intersperse hpiece with rfl | hpiece
      · exact absurd hmem (by decide)
      · obtain ⟨name, hname, rfl⟩ := List.mem_map.mp hpiece
        exact hnull name hname hmem
  refine ⟨hplain, fun htext => ?_, ?_⟩
  · apply hempty
    have hpath : ofNames false names = ⟨""⟩ := by rw [← htext]
    rw [← hsame, hpath, names_eq_singleton (by simp)]
    exact List.mem_singleton_self ""
  · rw [hplain.components_eq, hsame, List.filter_eq_self]
    exact fun name hname => by simpa using (hnames name hname).ne_empty

end Path

namespace FileTree

variable {t t' : FileTree} {path : Path}

/-! ## Directories on the way -/

/-- What lies above something that is there is a directory. -/
theorem isDirectory_above {place more : Place} (h : t.get? (place ++ more) ≠ none)
    (hmore : more ≠ []) : t.get? place = some .directory := by
  induction more using List.reverseRecOn with
  | nil => exact absurd rfl hmore
  | append_singleton more name ih =>
    rw [← List.append_assoc] at h
    have hparent : t.get? (place ++ more) = some .directory :=
      t.parent_isDirectory _ name (Option.isSome_iff_ne_none.mpr h)
    by_cases hnil : more = []
    · rwa [hnil, List.append_nil] at hparent
    · exact ih (by simp [hparent]) hnil

/-- No file stands at a place or above it. -/
def FreeAlong (t : FileTree) (place : Place) : Prop :=
  ∀ above, above <+: place → ∀ text, t.get? above ≠ some (.file text)

private theorem FreeAlong.of_prefix {place below : Place} (h : t.FreeAlong below)
    (hle : place <+: below) :
    t.FreeAlong place :=
  fun above habove => h above (habove.trans hle)

private theorem FreeAlong.get?_eq_or {place : Place} (h : t.FreeAlong place) :
    t.get? place = some .directory ∨ t.get? place = none := by
  have hfile := h place List.prefix_rfl
  cases hplace : t.get? place with
  | none => exact Or.inr rfl
  | some entry =>
    cases entry with
    | directory => exact Or.inl rfl
    | file text => exact absurd hplace (hfile text)

/-- A directory is no file, and neither is anything above it. -/
theorem freeAlong_of_directory {place : Place} (h : t.get? place = some .directory) :
    t.FreeAlong place := by
  rintro above ⟨more, rfl⟩ text hfile
  by_cases hmore : more = []
  · rw [hmore, List.append_nil, hfile] at h
    cases h
  · rw [isDirectory_above (by simp [h]) hmore] at hfile
    cases hfile

/-! ## Walks along plain names -/

private theorem walk_append (t : FileTree) (place : Place) (names others : List String) :
    t.walk place (names ++ others) = match t.walk place names with
      | .ok next => t.walk next others
      | .error e => .error e := by
  induction names generalizing place with
  | nil => rfl
  | cons name names ih =>
    rw [List.cons_append, walk, walk]
    cases t.step place name with
    | error e => rfl
    | ok next => exact ih next

variable (hlimits : t.limits = {})

include hlimits

private theorem step_of_isDirectory {place : Place} (hplace : t.get? place = some .directory)
    {name : String} (hname : name ≠ "" → IsFileName name) :
    t.step place name = .ok (Place.next place name) := by
  rw [step, hplace, hlimits, Place.next]
  by_cases hempty : name = ""
  · simp [hempty]
  · simp [hempty, (hname hempty).ne_dot, (hname hempty).ne_dots, withinLimit]

/-- A walk to a directory meets directories only. -/
theorem walk_of_isDirectory {place : Place} {names : List String}
    (hnames : ∀ name ∈ names, name ≠ "" → IsFileName name)
    (h : t.get? (Place.follow place names) = some .directory) :
    t.walk place names = .ok (Place.follow place names) := by
  induction names generalizing place with
  | nil => rfl
  | cons name names ih =>
    have hplace : t.get? place = some .directory := by
      rw [Place.follow_of_plain hnames] at h
      by_cases hmore : (name :: names).filter (· ≠ "") = []
      · rwa [hmore, List.append_nil] at h
      · exact isDirectory_above (by rw [h]; simp) hmore
    rw [walk, step_of_isDirectory hlimits hplace (hnames name List.mem_cons_self)]
    exact ih (fun other hother => hnames other (List.mem_cons_of_mem name hother)) h

/-- A name below a directory can be walked to, whether it is there or not. -/
theorem walk_below_directory {place : Place} {names : List String} {last : String}
    (hnames : ∀ name ∈ names, name ≠ "" → IsFileName name) (hlast : IsFileName last)
    (h : t.get? (Place.follow place names) = some .directory) :
    t.walk place (names ++ [last]) = .ok (Place.follow place names ++ [last]) := by
  rw [walk_append, walk_of_isDirectory hlimits hnames h]
  simp only [walk, step_of_isDirectory hlimits h fun _ => hlast, hlast.next_eq]

/-- A walk below a place where nothing is finds nothing, unless it meets a file. -/
theorem walk_below_none {place : Place} {names : List String} {last : String}
    (hnames : ∀ name ∈ names, name ≠ "" → IsFileName name)
    (hfree : t.FreeAlong (Place.follow place names))
    (h : t.get? (Place.follow place names) = none) :
    t.walk place (names ++ [last]) = .error .notFound := by
  have hnone : t.get? place = none → ∀ rest, t.walk place (rest ++ [last]) = .error .notFound := by
    intro hplace rest
    cases rest <;> simp [walk, step, hplace]
  induction names generalizing place with
  | nil => exact hnone h []
  | cons name names ih =>
    have hname := hnames name List.mem_cons_self
    have hrest : ∀ other ∈ names, other ≠ "" → IsFileName other :=
      fun other hother => hnames other (List.mem_cons_of_mem name hother)
    have hbelow : place <+: Place.follow place (name :: names) := by
      rw [Place.follow_of_plain hnames]
      exact List.prefix_append _ _
    rcases (hfree.of_prefix hbelow).get?_eq_or with hdir | hplace
    · rw [List.cons_append, walk, step_of_isDirectory hlimits hdir hname]
      refine ih hrest hfree h fun hnext rest => ?_
      cases rest <;> simp [walk, step, hnext]
    · exact hnone hplace (name :: names)

/-! ## Operations at plain paths -/

variable (hpath : path.IsPlain)

include hpath

private theorem follow_of_isPlain (hne : path.text ≠ "") (names : List String) :
    t.follow path names = t.walk t.workingPlace names := by
  have hnull := hpath.null_not_mem
  simp [follow, hnull, hne, hlimits, withinLimit, hpath.isAbsolute_eq]

omit hlimits in
/-- A plain path leads from the working place down its components, whatever the tree holds. -/
theorem placeOf_of_isPlain (t : FileTree) :
    t.placeOf path = t.workingPlace ++ path.components := by
  rw [placeOf, hpath.isAbsolute_eq, hpath.components_eq]
  exact Place.follow_of_plain hpath.isFileName t.workingPlace

/-- A plain path to a directory can be followed. -/
theorem locate_of_isDirectory (hne : path.text ≠ "")
    (h : t.get? (t.placeOf path) = some .directory) : t.locate path = .ok (t.placeOf path) := by
  have hplace : t.placeOf path = Place.follow t.workingPlace path.names := by
    rw [placeOf, hpath.isAbsolute_eq]
    rfl
  rw [hplace] at h ⊢
  rw [locate, follow_of_isPlain hlimits hpath hne]
  exact walk_of_isDirectory hlimits hpath.isFileName h

private theorem isDirectory_of_get? (hne : path.text ≠ "")
    (h : t.get? (t.placeOf path) = some .directory) : t.isDirectory path = true := by
  rw [isDirectory, locate_of_isDirectory hlimits hpath hne h]
  simp [h]

/-- A name in a directory can be followed, whether it is there or not. -/
theorem locate_join (h : t.get? (t.placeOf path) = some .directory) {name : String}
    (hname : IsFileName name) (hnull : '\x00' ∉ name.toList) :
    t.locate (path.join name) = .ok (t.placeOf path ++ [name]) := by
  obtain ⟨front, hnames, hfront, hfollow⟩ := hpath.exists_names_join hname
  have hplace : t.placeOf path = Place.follow t.workingPlace front := by
    rw [placeOf, hpath.isAbsolute_eq]
    exact (hfollow _).symm
  rw [locate, follow_of_isPlain hlimits (hpath.join hname hnull) (path.join_text_ne hname), hnames,
    hplace]
  exact walk_below_directory hlimits hfront hname (hplace ▸ h)

omit hlimits in
/-- A plain path to a name in a directory ends with that name. -/
theorem exists_trimmedNames_of_placeOf (hne : path.text ≠ "") {parent : Place} {name : String}
    (hplace : t.placeOf path = parent ++ [name]) :
    ∃ front, path.trimmedNames = front ++ [name] ∧ IsFileName name ∧
      (∀ other ∈ front, other ≠ "" → IsFileName other) ∧
      Place.follow t.workingPlace front = parent := by
  obtain ⟨front, last, htrimmed, hlast, hfront⟩ := hpath.exists_trimmedNames_eq hne
  have hfollow : t.placeOf path = Place.follow t.workingPlace front ++ [last] := by
    rw [placeOf, hpath.isAbsolute_eq, ← Path.follow_trimmedNames, htrimmed, Place.follow_append]
    simp [Place.follow, hlast.next_eq]
  obtain ⟨hparent, hnames⟩ := List.append_inj' (hplace.symm.trans hfollow) rfl
  obtain rfl := List.singleton_inj.mp hnames
  exact ⟨front, htrimmed, hlast, hfront, hparent.symm⟩

/-- A directory is created in a directory, unless something is there already. -/
theorem createDir_in_directory (hne : path.text ≠ "") {parent : Place} {name : String}
    (hplace : t.placeOf path = parent ++ [name]) (h : t.get? parent = some .directory) :
    t.createDir path = t.setDirectory (parent ++ [name]) := by
  obtain ⟨front, htrimmed, hname, hfront, rfl⟩ := exists_trimmedNames_of_placeOf hpath hne hplace
  rw [createDir, follow_of_isPlain hlimits hpath hne, htrimmed,
    walk_below_directory hlimits hfront hname h]

/-- Where the directory above is missing, a directory is not created. -/
theorem createDir_below_none (hne : path.text ≠ "") {parent : Place} {name : String}
    (hplace : t.placeOf path = parent ++ [name]) (hfree : t.FreeAlong parent)
    (h : t.get? parent = none) : t.createDir path = .error .notFound := by
  obtain ⟨front, htrimmed, hname, hfront, rfl⟩ := exists_trimmedNames_of_placeOf hpath hne hplace
  rw [createDir, follow_of_isPlain hlimits hpath hne, htrimmed,
    walk_below_none hlimits hfront hfree h]

omit hpath hlimits in
/-- A directory that is set in a directory is new, or else something is there already. -/
theorem setDirectory_cases {parent : Place} (h : t.get? parent = some .directory) (name : String) :
    (t.get? (parent ++ [name]) = none ∧ ∃ t', t.setDirectory (parent ++ [name]) = .ok t') ∨
      (t.get? (parent ++ [name]) ≠ none ∧
        t.setDirectory (parent ++ [name]) = .error .alreadyExists) := by
  have hlast : (parent ++ [name]).getLast? = some name := by simp
  cases hsome : t.get? (parent ++ [name]) with
  | none => simp [setDirectory, hlast, hsome, h]
  | some entry => simp [setDirectory, hlast, hsome]

/-- A directory is there after it was ensured in a directory, unless a file is in its place. -/
theorem exists_ensureDir (hne : path.text ≠ "") {parent : Place} {name : String}
    (hplace : t.placeOf path = parent ++ [name]) (h : t.get? parent = some .directory)
    (hfile : ∀ text, t.get? (parent ++ [name]) ≠ some (.file text)) :
    ∃ t', t.ensureDir path = (t', none) := by
  rw [ensureDir, createDir_in_directory hlimits hpath hne hplace h]
  rcases setDirectory_cases h name with ⟨-, t', hset⟩ | ⟨hsome, hset⟩
  · rw [hset]
    exact ⟨t', rfl⟩
  · have hdir : t.get? (parent ++ [name]) = some .directory := by
      cases hentry : t.get? (parent ++ [name]) with
      | none => exact absurd hentry hsome
      | some entry =>
        cases entry with
        | directory => rfl
        | file text => exact absurd hentry (hfile text)
    have hisDir := isDirectory_of_get? hlimits hpath hne (hplace ▸ hdir)
    rw [hset]
    exact ⟨t, by simp [hisDir]⟩

/-! ## Directories with those above them -/

omit hlimits hpath in
private theorem get?_of_isDirectory (h : t.isDirectory path = true) :
    t.get? (t.placeOf path) = some .directory := by
  unfold isDirectory at h
  cases hlocate : t.locate path with
  | error e => simp [hlocate] at h
  | ok place =>
    rw [← locate_eq_ok hlocate]
    simpa [hlocate] using h

omit hlimits hpath in
private theorem get?_of_ensureDir (h : t.ensureDir path = (t', none)) :
    t'.get? (t.placeOf path) = some .directory := by
  unfold ensureDir at h
  cases hcreate : t.createDir path with
  | ok made =>
    rw [hcreate] at h
    cases h
    rw [(createDir_eq_ok hcreate).2.get?_eq, if_pos rfl]
  | error e =>
    rw [hcreate] at h
    cases hdir : t.isDirectory path with
    | false => simp [hdir] at h
    | true =>
      obtain rfl : t = t' := by simpa [hdir] using h
      exact get?_of_isDirectory hdir

omit hlimits hpath in
/-- After a chain of directories was ensured, the first of them is there. -/
theorem get?_of_ensureChain {above : List Path} (h : t.ensureChain (path :: above) = (t', none)) :
    t'.get? (t.placeOf path) = some .directory := by
  rw [ensureChain] at h
  split at h
  · rename_i made hcreate
    cases h
    rw [(createDir_eq_ok hcreate).2.get?_eq, if_pos rfl]
  · split at h
    · rename_i made hchain
      have hkeeps := (t.addsDirectories_ensureChain above).keepsDirectories
      rw [hchain] at hkeeps
      rw [← hkeeps.placeOf_eq]
      exact get?_of_ensureDir h
    · rename_i hfailed
      exact absurd h (hfailed t')
  · cases hdir : t.isDirectory path with
    | false => simp [hdir] at h
    | true =>
      obtain rfl : t = t' := by simpa [hdir] using h
      exact get?_of_isDirectory hdir

/-- A chain of directories can be ensured if the directory above the first one can, and no file is
in the way. -/
theorem exists_ensureChain_cons (hne : path.text ≠ "") {parent : Place} {name : String}
    (hplace : t.placeOf path = parent ++ [name]) (hfree : t.FreeAlong (parent ++ [name]))
    {above : List Path} (habove : ∃ t', t.ensureChain above = (t', none) ∧
      t'.get? parent = some .directory) :
    ∃ t', t.ensureChain (path :: above) = (t', none) := by
  have hparent : t.FreeAlong parent := hfree.of_prefix (List.prefix_append parent [name])
  rw [ensureChain]
  rcases hparent.get?_eq_or with hdir | hnone
  · have hensure := exists_ensureDir hlimits hpath hne hplace hdir (hfree _ List.prefix_rfl)
    rw [ensureDir, createDir_in_directory hlimits hpath hne hplace hdir] at hensure
    rw [createDir_in_directory hlimits hpath hne hplace hdir]
    rcases setDirectory_cases hdir name with ⟨-, t', hset⟩ | ⟨-, hset⟩
    · rw [hset]
      exact ⟨t', rfl⟩
    · rw [hset] at hensure ⊢
      exact hensure
  · -- The directory above is missing and is made first.
    rw [createDir_below_none hlimits hpath hne hplace hparent hnone]
    obtain ⟨made, hchain, hdir⟩ := habove
    have hadds := t.addsDirectories_ensureChain above
    rw [hchain] at hadds
    simp only [hchain]
    refine exists_ensureDir (hadds.keepsDirectories.limits_eq.trans hlimits) hpath hne
      ((hadds.keepsDirectories.placeOf_eq path).trans hplace) hdir fun text hfile => ?_
    rcases hadds.get?_eq_or (parent ++ [name]) with heq | ⟨-, hmade, -⟩
    · exact hfree _ List.prefix_rfl text (heq.symm.trans hfile)
    · rw [hmade] at hfile
      cases hfile

/-- The directories from the working directory down can be ensured if no file stands on the way. -/
theorem exists_ensureChain_components (hworking : t.get? t.workingPlace = some .directory)
    (hfree : t.FreeAlong (t.workingPlace ++ path.components)) {m : Nat}
    (hm : m ≤ path.components.length) :
    ∃ t', t.ensureChain ((List.range m).reverse.map fun i =>
        .ofNames false (path.components.take (i + 1))) = (t', none) ∧
      t'.get? (t.workingPlace ++ path.components.take m) = some .directory := by
  induction m with
  | zero => exact ⟨t, rfl, by simpa using hworking⟩
  | succ m ih =>
    have hlt : m < path.components.length := hm
    have hnames : ∀ name ∈ path.components.take (m + 1), name ∈ path.components :=
      fun name hname => List.mem_of_mem_take hname
    have htaken : path.components.take (m + 1) ≠ [] := by
      rw [← List.length_pos_iff, List.length_take]
      omega
    obtain ⟨hplain, hne, hcomponents⟩ := Path.isPlain_ofNames htaken
      (fun name hname => hpath.isFileName_of_mem_components (hnames name hname))
      (fun name hname => hpath.null_not_mem_of_mem_components (hnames name hname))
    have htake : path.components.take (m + 1)
        = path.components.take m ++ [path.components[m]] := by
      rw [List.take_add_one, List.getElem?_eq_getElem hlt]
      rfl
    have hplace : t.placeOf (.ofNames false (path.components.take (m + 1)))
        = t.workingPlace ++ path.components.take m ++ [path.components[m]] := by
      rw [placeOf_of_isPlain hplain t, hcomponents, htake, List.append_assoc]
    have hparent : (t.workingPlace ++ path.components.take m) ++ [path.components[m]]
        <+: t.workingPlace ++ path.components := by
      rw [List.append_assoc, ← htake]
      exact (List.prefix_append_right_inj _).mpr (List.take_prefix _ _)
    obtain ⟨t', hchain⟩ := exists_ensureChain_cons hlimits hplain hne hplace
      (hfree.of_prefix hparent) (ih (Nat.le_of_lt hlt))
    refine ⟨t', by rw [List.range_succ]; simpa using hchain, ?_⟩
    have hmade := get?_of_ensureChain hchain
    rwa [placeOf_of_isPlain hplain t, hcomponents] at hmade

/-- A plain directory can be created with those above it if no file stands on the way. -/
theorem exists_createDirAll (hworking : t.get? t.workingPlace = some .directory)
    (hfree : t.FreeAlong (t.placeOf path)) : ∃ t', t.createDirAll path = (t', none) := by
  rw [createDirAll]
  by_cases hne : path.text = ""
  · exact ⟨t, by simp [hne]⟩
  · rw [placeOf_of_isPlain hpath t] at hfree
    obtain hnil | ⟨front, last, hlast⟩ := List.eq_nil_or_concat path.components
    · exact absurd hnil (hpath.components_ne_nil hne)
    rw [List.concat_eq_append] at hlast
    have hplace : t.placeOf path = t.workingPlace ++ front ++ [last] := by
      rw [placeOf_of_isPlain hpath t, hlast, List.append_assoc]
    have habove := exists_ensureChain_components hlimits hpath hworking hfree
      (Nat.sub_le path.components.length 1)
    have htake : path.components.take (path.components.length - 1) = front := by simp [hlast]
    rw [htake] at habove
    rw [if_neg (by simpa using hne), Path.ancestors, hpath.isAbsolute_eq]
    refine exists_ensureChain_cons hlimits hpath hne hplace ?_ habove
    rwa [List.append_assoc, ← hlast]

omit hlimits hpath in
/-- After a directory was created with those above it, it is there. -/
theorem get?_of_createDirAll (hworking : t.get? t.workingPlace = some .directory)
    (h : t.createDirAll path = (t', none)) : t'.get? (t.placeOf path) = some .directory := by
  rw [createDirAll] at h
  by_cases hne : path.text = ""
  · have hempty : path = ⟨""⟩ := by rw [← hne]
    obtain rfl : t = t' := by simpa [hne] using h
    rw [placeOf, hempty, Path.names_eq_singleton (by simp)]
    simpa [Path.isAbsolute, Place.follow] using hworking
  · rw [if_neg (by simpa using hne)] at h
    exact get?_of_ensureChain h

omit hlimits hpath in
/-- Where a directory was created with those above it, no file was on the way. -/
theorem freeAlong_of_createDirAll (hworking : t.get? t.workingPlace = some .directory)
    (h : t.createDirAll path = (t', none)) : t.FreeAlong (t.placeOf path) := by
  have hfree := freeAlong_of_directory (get?_of_createDirAll hworking h)
  have hadds := t.addsDirectories_createDirAll path
  rw [h] at hadds
  intro above habove text hfile
  rcases hadds.get?_eq_or above with heq | ⟨hnone, -, -⟩
  · exact hfree above habove text (heq.trans hfile)
  · rw [hnone] at hfile
    cases hfile

end FileTree

end BotBindings
