import BotBindings.Proofs.Files.Plain
import BotBindings.Proofs.Files.Written

/-!
# Writing generated code anew

Whether generated code can be written into a directory depends on three things: that no file stands
on the way to the directory, that the file of types is no directory, and that the directory of
requests is no file. If it is written, then what the output was before does not matter: it holds the
code and nothing else. So to write the same code once more changes nothing.
-/

namespace BotBindings

open FileTree

namespace OutputStep

private theorem applyAll_cons_of_ok {t t' : FileTree} {step : OutputStep} {steps : List OutputStep}
    (h : step.apply t = (t', none)) : applyAll t (step :: steps) = applyAll t' steps := by
  rw [applyAll, h]

private theorem applyAll_cons_of_error {t t' : FileTree} {step : OutputStep}
    {steps : List OutputStep}
    {e : FileError} (h : step.apply t = (t', some e)) :
    applyAll t (step :: steps) = (t', some (step.failure e.message)) := by
  rw [applyAll, h]

end OutputStep

/-! ## Single steps in a directory -/

namespace FileTree

variable {t t' : FileTree} {dir : Path} {name : String}
variable (hlimits : t.limits = {}) (hdir : dir.IsPlain)
  (hhome : t.get? (t.placeOf dir) = some .directory) (hname : IsFileName name)
  (hnull : '\x00' ∉ name.toList)

include hlimits hdir hhome hname hnull

/-- A file is written into a directory, unless a directory has its name. -/
theorem writeFile_join (text : String) :
    (t.get? (t.placeOf dir ++ [name]) = some .directory ∧
      t.writeFile (dir.join name) text = .error .isDirectory) ∨
    (t.get? (t.placeOf dir ++ [name]) ≠ some .directory ∧
      ∃ t', t.writeFile (dir.join name) text = .ok t') := by
  have hlast : (t.placeOf dir ++ [name]).getLast? = some name := by simp
  rw [writeFile, locate_join hlimits hdir hhome hname hnull]
  by_cases hentry : t.get? (t.placeOf dir ++ [name]) = some .directory <;>
    simp [setFile, hlast, hhome, hentry]

/-- A directory that may be there is cleared away with all below it, unless a file has its name. -/
theorem clear_join :
    ((∃ text, t.get? (t.placeOf dir ++ [name]) = some (.file text)) ∧
      (OutputStep.clear (dir.join name)).apply t = (t, some .notDirectory)) ∨
    ((∀ text, t.get? (t.placeOf dir ++ [name]) ≠ some (.file text)) ∧
      ∃ t', (OutputStep.clear (dir.join name)).apply t = (t', none) ∧
        t'.workingPlace = t.workingPlace ∧ t'.limits = t.limits ∧
        ∀ place, t'.get? place
          = if t.placeOf dir ++ [name] <+: place then none else t.get? place) := by
  rw [OutputStep.apply, removeDirAll, locate_join hlimits hdir hhome hname hnull]
  cases hentry : t.get? (t.placeOf dir ++ [name]) with
  | none =>
    simp only [hentry]
    refine Or.inr ⟨by simp, t, rfl, rfl, rfl, fun place => ?_⟩
    split
    · rename_i hbelow
      obtain ⟨more, rfl⟩ := hbelow
      exact get?_append_eq_none hentry more
    · rfl
  | some entry =>
    cases entry with
    | file text =>
      simp only [hentry]
      exact Or.inl ⟨⟨text, rfl⟩, rfl⟩
    | directory =>
      simp only [hentry]
      refine Or.inr ⟨by simp, _, rfl, rfl, rfl, fun place => ?_⟩
      have hroot : t.placeOf dir ++ [name] <+: place → place ≠ [] := by
        rintro ⟨more, rfl⟩
        simp
      by_cases hbelow : t.placeOf dir ++ [name] <+: place <;>
        simp [get?_erase, hbelow, hroot]

/-- A directory is created where nothing is. -/
theorem createDir_join (hnone : t.get? (t.placeOf dir ++ [name]) = none) :
    ∃ t', t.createDir (dir.join name) = .ok t' := by
  rw [createDir_in_directory hlimits (hdir.join hname hnull) (dir.join_text_ne hname)
    (t.placeOf_join dir hname) hhome]
  rcases setDirectory_cases hhome name with ⟨-, hset⟩ | ⟨hsome, -⟩
  · exact hset
  · exact absurd hnone hsome

omit hlimits hdir hhome hname hnull

/-- A plain directory lies below all the places where directories are made on its way. -/
theorem placeOf_ancestor (hdir : dir.IsPlain) {above : Path} (habove : above ∈ dir.ancestors) :
    t.placeOf above <+: t.placeOf dir := by
  rw [Path.ancestors, List.mem_cons, List.mem_map] at habove
  rcases habove with rfl | ⟨i, hi, rfl⟩
  · exact List.prefix_rfl
  · have hlt : i < dir.components.length - 1 := by simpa using hi
    have hsub : ∀ name ∈ dir.components.take (i + 1), name ∈ dir.components :=
      fun name hname => List.mem_of_mem_take hname
    have hne : dir.components.take (i + 1) ≠ [] := by
      rw [← List.length_pos_iff, List.length_take]
      omega
    obtain ⟨hplain, -, hcomponents⟩ := Path.isPlain_ofNames hne
      (fun name hname => hdir.isFileName_of_mem_components (hsub name hname))
      (fun name hname => hdir.null_not_mem_of_mem_components (hsub name hname))
    rw [hdir.isAbsolute_eq, placeOf_of_isPlain hplain t, placeOf_of_isPlain hdir t, hcomponents]
    exact (List.prefix_append_right_inj _).mpr (List.take_prefix _ _)

/-- After a plain directory was created there are directories on the way to it, and elsewhere the
tree is what it was. -/
theorem get?_createDirAll (hdir : dir.IsPlain) (hworking : t.get? t.workingPlace = some .directory)
    (h : t.createDirAll dir = (t', none)) (place : Place) :
    t'.get? place = if place <+: t.placeOf dir then some .directory else t.get? place := by
  have hmade := get?_of_createDirAll hworking h
  have hadds := t.addsDirectories_createDirAll dir
  rw [h] at hadds
  split
  · rename_i hbelow
    obtain ⟨more, hplace⟩ := hbelow
    by_cases hmore : more = []
    · rw [hmore, List.append_nil] at hplace
      rwa [hplace]
    · exact isDirectory_above (by rw [hplace, hmade]; simp) hmore
  · rename_i hnot
    rcases hadds.get?_eq_or place with heq | ⟨-, -, above, habove, rfl⟩
    · exact heq
    · exact absurd (placeOf_ancestor hdir habove) hnot

end FileTree

namespace OutputStep

/-- Files are written into a directory, unless a directory has the name of one of them. -/
theorem exists_applyAll_writes {dir : Path} {files : List (String × String)}
    (hnames : ∀ file ∈ files, IsFileName file.1 ∧ '\x00' ∉ file.1.toList) {t : FileTree}
    (hlimits : t.limits = {}) (hdir : dir.IsPlain)
    (hhome : t.get? (t.placeOf dir) = some .directory)
    (hfree : ∀ file ∈ files, t.get? (t.placeOf dir ++ [file.1]) ≠ some .directory) :
    ∃ t', applyAll t (writes dir files) = (t', none) := by
  induction files generalizing t with
  | nil => exact ⟨t, rfl⟩
  | cons file files ih =>
    obtain ⟨hname, hnull⟩ := hnames file List.mem_cons_self
    rcases writeFile_join hlimits hdir hhome hname hnull file.2 with ⟨htaken, -⟩ | ⟨-, t₁, hwrite⟩
    · exact absurd htaken (hfree file List.mem_cons_self)
    · obtain ⟨-, hnot, hputs⟩ := writeFile_eq_ok hwrite
      have hkeeps := hputs.keepsDirectories (Or.inl hnot)
      have hstep : (OutputStep.write (dir.join file.1) file.2).apply t = (t₁, none) := by
        rw [apply, hwrite, settle]
      obtain ⟨t', hrest⟩ := ih (fun other hother => hnames other (List.mem_cons_of_mem file hother))
        (hkeeps.limits_eq.trans hlimits) (by
          rw [hkeeps.placeOf_eq]
          exact hkeeps.get?_eq _ hhome) (fun other hother => by
          rw [hkeeps.placeOf_eq, hputs.get?_eq]
          split
          · simp
          · exact hfree other (List.mem_cons_of_mem file hother))
      refine ⟨t', ?_⟩
      rw [writes, List.map_cons, applyAll_cons_of_ok hstep]
      exact hrest

/-- Files that are written into a directory change nothing but places in it. -/
theorem get?_applyAll_writes {dir : Path} {files : List (String × String)}
    (hnames : ∀ file ∈ files, IsFileName file.1) {t t' : FileTree}
    (h : applyAll t (writes dir files) = (t', none)) {place : Place}
    (hplace : ∀ name, place ≠ t.placeOf dir ++ [name]) : t'.get? place = t.get? place := by
  have houtside := sameOutside_applyAll t (writes dir files)
  rw [h] at houtside
  refine houtside.get?_eq place ?_
  rintro ⟨step, hstep, htouches⟩
  obtain ⟨file, hfile, rfl⟩ := List.mem_map.mp hstep
  exact hplace file.1 (htouches.trans (t.placeOf_join dir (hnames file hfile)))

end OutputStep

/-! ## Generated code in a directory -/

/-- The text of the last item of a name is found by searching the items backwards. -/
theorem lookup_map_reverse {α : Type} (items : List α) (name text : α → String) (wanted : String) :
    (items.map fun item => (name item, text item)).reverse.lookup wanted
      = (items.reverse.find? (name · == wanted)).map text := by
  rw [← List.map_reverse]
  induction items.reverse with
  | nil => rfl
  | cons item items ih =>
    by_cases hname : name item = wanted
    · simp [hname]
    · have hbeq : (wanted == name item) = false := beq_eq_false_iff_ne.mpr (Ne.symm hname)
      simp [List.lookup_cons, ih, hname, hbeq]

namespace GeneratedCode

/-- The directory of the requests of generated code is at a place, and holds nothing else. -/
structure HoldsRequests (code : GeneratedCode) (place : Place) (t : FileTree) : Prop where
  isDirectory : t.get? place = some .directory
  requestsMod : t.get? (place ++ [requestsModFile]) = some (.file code.requestsMod)
  /-- Of the requests of one stem the last one is there. -/
  request : ∀ stem, stem ≠ "mod" → t.get? (place ++ [stem ++ ".rs"])
    = (code.requests.reverse.find? (·.fileStem == stem)).map (.file ·.source)
  noOtherName : ∀ name, (∀ stem, name ≠ stem ++ ".rs") → t.get? (place ++ [name]) = none
  nothingBelow : ∀ name more, more ≠ [] → t.get? (place ++ name :: more) = none

/-- The tree `t'` is `t` with generated code in the directory at `home`. -/
structure WrittenTo (code : GeneratedCode) (home : Place) (t t' : FileTree) : Prop where
  workingPlace_eq : t'.workingPlace = t.workingPlace
  limits_eq : t'.limits = t.limits
  onTheWay : ∀ place, place <+: home → t'.get? place = some .directory
  types : t'.get? (home ++ [typesFile]) = some (.file code.types)
  requests : code.HoldsRequests (home ++ [requestsDir]) t'
  elsewhere : ∀ place, ¬place <+: home → ¬InOutput home place → t'.get? place = t.get? place

/-- A directory of requests depends on the code only. -/
theorem HoldsRequests.get?_eq {code : GeneratedCode} {place : Place} {t t' : FileTree}
    (h : code.HoldsRequests place t) (h' : code.HoldsRequests place t') (more : Place) :
    t'.get? (place ++ more) = t.get? (place ++ more) := by
  match more with
  | [] => rw [List.append_nil, h.isDirectory, h'.isDirectory]
  | [name] =>
    by_cases hname : ∃ stem, name = stem ++ ".rs"
    · obtain ⟨stem, rfl⟩ := hname
      by_cases hmod : stem = "mod"
      · subst hmod
        exact h'.requestsMod.trans h.requestsMod.symm
      · rw [h.request stem hmod, h'.request stem hmod]
    · rw [not_exists] at hname
      rw [h.noOtherName name hname, h'.noOtherName name hname]
  | name :: below :: more =>
    rw [h.nothingBelow name _ (by simp), h'.nothingBelow name _ (by simp)]

/-- To write the same code twice is to write it once. -/
theorem WrittenTo.get?_again {code : GeneratedCode} {home : Place} {t t' t'' : FileTree}
    (h : code.WrittenTo home t t') (h' : code.WrittenTo home t' t'') (place : Place) :
    t''.get? place = t'.get? place := by
  by_cases hhome : place <+: home
  · rw [h'.onTheWay place hhome, h.onTheWay place hhome]
  · by_cases hout : InOutput home place
    · rcases hout with rfl | ⟨more, rfl⟩
      · rw [h'.types, h.types]
      · exact h.requests.get?_eq h'.requests more
    · exact h'.elsewhere place hhome hout

/-- What is looked up among the files of the requests is known from the requests. -/
theorem lookup_requestFiles (code : GeneratedCode) (name : String) :
    code.requestFiles.reverse.lookup name = if name = requestsModFile then some code.requestsMod
      else (code.requests.reverse.find? (·.fileStem ++ ".rs" == name)).map (·.source) := by
  rw [requestFiles, List.reverse_append, List.reverse_singleton, List.singleton_append,
    List.lookup_cons, lookup_map_reverse code.requests (·.fileStem ++ ".rs") (·.source)]
  by_cases hname : name = requestsModFile
  · simp [hname]
  · simp [hname, beq_eq_false_iff_ne.mpr hname]

/-- A new directory that the files of the requests were written into holds the requests. -/
theorem holdsRequests_of_lookup {code : GeneratedCode} {place : Place} {t : FileTree}
    (hdir : t.get? place = some .directory)
    (hnames : ∀ name, t.get? (place ++ [name])
      = (code.requestFiles.reverse.lookup name).map Entry.file)
    (hbelow : ∀ name more, more ≠ [] → t.get? (place ++ name :: more) = none) :
    code.HoldsRequests place t where
  isDirectory := hdir
  requestsMod := by rw [hnames, lookup_requestFiles, if_pos rfl, Option.map_some]
  request := by
    intro stem hmod
    have hother : stem ++ ".rs" ≠ requestsModFile := fun heq =>
      hmod (String.append_left_inj ".rs" |>.mp heq)
    have hsame : ∀ request : GeneratedRequest, (request.fileStem ++ ".rs" == stem ++ ".rs")
        = (request.fileStem == stem) := by simp
    rw [hnames, lookup_requestFiles, if_neg hother, Option.map_map]
    simp only [hsame]
    rfl
  noOtherName := by
    intro name hname
    have hnone : code.requests.reverse.find? (·.fileStem ++ ".rs" == name) = none := by
      rw [List.find?_eq_none]
      exact fun request _ heq => hname request.fileStem (beq_iff_eq.mp heq).symm
    have hother : name ≠ requestsModFile := hname "mod"
    rw [hnames, lookup_requestFiles, if_neg hother, hnone]
    rfl
  nothingBelow := hbelow

/-- The steps that make the directory of the requests anew. -/
def requestSteps (code : GeneratedCode) (requests : Path) : List OutputStep :=
  .clear requests :: .create requests :: OutputStep.writes requests code.requestFiles

/-- The code is in a directory once its types and its requests are, and nothing else is new but
directories on the way. -/
theorem writtenTo_of_get? {code : GeneratedCode} {home : Place} {t t' : FileTree}
    (hworking : t'.workingPlace = t.workingPlace) (hlimits : t'.limits = t.limits)
    (hrequests : code.HoldsRequests (home ++ [requestsDir]) t')
    (hget : ∀ place, ¬home ++ [requestsDir] <+: place → t'.get? place
      = if place = home ++ [typesFile] then some (.file code.types)
        else if place <+: home then some .directory else t.get? place) :
    code.WrittenTo home t t' where
  workingPlace_eq := hworking
  limits_eq := hlimits
  onTheWay := by
    intro place hle
    have hshort := hle.length_le
    rw [hget place fun hbelow => absurd (hbelow.length_le.trans hshort) (by simp),
      if_neg fun heq => absurd (heq ▸ hshort) (by simp), if_pos hle]
  types := by
    have hnot : ¬home ++ [requestsDir] <+: home ++ [typesFile] := by
      rw [List.prefix_append_right_inj]
      decide
    rw [hget _ hnot, if_pos rfl]
  requests := hrequests
  elsewhere := by
    intro place hnot hout
    rw [hget place fun hbelow => hout (Or.inr hbelow), if_neg fun heq => hout (Or.inl heq),
      if_neg hnot]

section Writing

variable {code : GeneratedCode} {dir : Path} {t : FileTree}
variable (hstems : ∀ request ∈ code.requests, '/' ∉ request.fileStem.toList ∧
  '\x00' ∉ request.fileStem.toList)
variable (hlimits : t.limits = {}) (hdir : dir.IsPlain)

include hstems in
private theorem isFileName_of_mem_requestFiles (file : String × String)
    (hfile : file ∈ code.requestFiles) :
    IsFileName file.1 ∧ '\x00' ∉ file.1.toList := by
  rcases List.mem_append.mp hfile with hfile | hfile
  · obtain ⟨request, hrequest, rfl⟩ := List.mem_map.mp hfile
    obtain ⟨hslash, hnull⟩ := hstems request hrequest
    exact ⟨isFileName_append_rs hslash, by simp [hnull]⟩
  · have hnull : '\x00' ∉ requestsModFile.toList := by decide
    rw [List.mem_singleton.mp hfile]
    exact ⟨isFileName_requestsModFile, hnull⟩

include hstems hlimits hdir

/-- A directory that is empty holds the requests once their files were written into it. -/
theorem applyAll_requestFiles (hhome : t.get? (t.placeOf dir) = some .directory)
    (hempty : ∀ name more, t.get? (t.placeOf dir ++ name :: more) = none) :
    ∃ t', OutputStep.applyAll t (OutputStep.writes dir code.requestFiles) = (t', none) ∧
      t'.workingPlace = t.workingPlace ∧ t'.limits = t.limits ∧
      code.HoldsRequests (t.placeOf dir) t' ∧
      ∀ place, ¬t.placeOf dir <+: place → t'.get? place = t.get? place := by
  have hnames := isFileName_of_mem_requestFiles hstems
  have hfiles : ∀ file ∈ code.requestFiles, IsFileName file.1 := fun file hf => (hnames file hf).1
  obtain ⟨t', hwrites⟩ := OutputStep.exists_applyAll_writes hnames hlimits hdir hhome
    fun file _ => by rw [hempty file.1 []]; simp
  obtain ⟨hkeeps, -, hwritten⟩ := OutputStep.get?_writes hfiles hwrites
  have hothers : ∀ place, (∀ name, place ≠ t.placeOf dir ++ [name]) →
      t'.get? place = t.get? place := fun place => OutputStep.get?_applyAll_writes hfiles hwrites
  refine ⟨t', hwrites, hkeeps.workingPlace_eq, hkeeps.limits_eq, ?_, fun place hnot => ?_⟩
  · refine holdsRequests_of_lookup ?_ (fun name => ?_) fun name more hmore => ?_
    · rw [hothers _ (by simp), hhome]
    · rw [hwritten, hempty name [], Option.or_none]
    · rw [hothers _ fun other heq => hmore (by simpa using congrArg List.length heq), hempty]
  · exact hothers place fun name heq => hnot ⟨[name], heq.symm⟩

omit hstems in
/-- Where no file has its name, the directory of the requests is made anew, and nothing is in it. -/
theorem exists_emptyRequestsDir (hhome : t.get? (t.placeOf dir) = some .directory)
    (hfree : ∀ text, t.get? (t.placeOf dir ++ [requestsDir]) ≠ some (.file text)) :
    ∃ made, (∀ steps, OutputStep.applyAll t (.clear (dir.join requestsDir) ::
          .create (dir.join requestsDir) :: steps) = OutputStep.applyAll made steps) ∧
      made.workingPlace = t.workingPlace ∧ made.limits = t.limits ∧
      made.get? (t.placeOf dir ++ [requestsDir]) = some .directory ∧
      (∀ name more, made.get? (t.placeOf dir ++ [requestsDir] ++ name :: more) = none) ∧
      ∀ place, ¬t.placeOf dir ++ [requestsDir] <+: place → made.get? place = t.get? place := by
  have hnull : '\x00' ∉ requestsDir.toList := by decide
  rcases clear_join hlimits hdir hhome isFileName_requestsDir hnull with
    ⟨⟨text, hfile⟩, -⟩ | ⟨-, cleared, hclear, hworking, hlimit, hget⟩
  · exact absurd hfile (hfree text)
  · have hplace : cleared.placeOf dir = t.placeOf dir := placeOf_eq_of_workingPlace_eq hworking dir
    have hkept : cleared.get? (t.placeOf dir) = some .directory := by
      rw [hget, if_neg fun hle => absurd hle.length_le (by simp)]
      exact hhome
    have hgone : cleared.get? (t.placeOf dir ++ [requestsDir]) = none := by
      rw [hget, if_pos List.prefix_rfl]
    obtain ⟨made, hcreate⟩ := createDir_join (hlimit.trans hlimits) hdir (hplace.symm ▸ hkept)
      isFileName_requestsDir hnull (hplace.symm ▸ hgone)
    have hputs := (createDir_eq_ok hcreate).2
    rw [cleared.placeOf_join dir isFileName_requestsDir, hplace] at hputs
    have hstep : (OutputStep.create (dir.join requestsDir)).apply cleared = (made, none) := by
      rw [OutputStep.apply, hcreate, OutputStep.settle]
    refine ⟨made, fun steps => ?_, hputs.workingPlace_eq.trans hworking,
      hputs.limits_eq.trans hlimit, ?_, fun name more => ?_, fun place hnot => ?_⟩
    · rw [OutputStep.applyAll_cons_of_ok hclear, OutputStep.applyAll_cons_of_ok hstep]
    · rw [hputs.get?_eq, if_pos rfl]
    · rw [hputs.get?_eq, if_neg (by simp)]
      exact get?_append_eq_none hgone (name :: more)
    · have hne : place ≠ t.placeOf dir ++ [requestsDir] := fun heq => hnot (heq ▸ List.prefix_rfl)
      rw [hputs.get?_eq, if_neg hne, hget, if_neg hnot]

/-- The steps for the directory of the requests fail where a file has its name. Otherwise they make
it anew and change nothing else. -/
theorem applyAll_requestSteps (hhome : t.get? (t.placeOf dir) = some .directory) :
    ((∃ text, t.get? (t.placeOf dir ++ [requestsDir]) = some (.file text)) ∧
      ∃ t' reason, OutputStep.applyAll t (code.requestSteps (dir.join requestsDir))
        = (t', some ⟨.removeDir, dir.join requestsDir, reason⟩)) ∨
    ((∀ text, t.get? (t.placeOf dir ++ [requestsDir]) ≠ some (.file text)) ∧
      ∃ t', OutputStep.applyAll t (code.requestSteps (dir.join requestsDir)) = (t', none) ∧
        t'.workingPlace = t.workingPlace ∧ t'.limits = t.limits ∧
        code.HoldsRequests (t.placeOf dir ++ [requestsDir]) t' ∧
        ∀ place, ¬t.placeOf dir ++ [requestsDir] <+: place → t'.get? place = t.get? place) := by
  have hnull : '\x00' ∉ requestsDir.toList := by decide
  rcases clear_join hlimits hdir hhome isFileName_requestsDir hnull with
    ⟨hfile, hclear⟩ | ⟨hfree, -⟩
  · exact Or.inl ⟨hfile, t, _, OutputStep.applyAll_cons_of_error hclear⟩
  · obtain ⟨made, hsteps, hworking, hlimit, hrequestsDir, hempty, hkept⟩ :=
      exists_emptyRequestsDir hlimits hdir hhome hfree
    have hrequests : made.placeOf (dir.join requestsDir) = t.placeOf dir ++ [requestsDir] := by
      rw [placeOf_eq_of_workingPlace_eq hworking, t.placeOf_join dir isFileName_requestsDir]
    obtain ⟨t', hfiles, hworking', hlimit', hholds, hothers⟩ := applyAll_requestFiles hstems
      (hlimit.trans hlimits) (hdir.join isFileName_requestsDir hnull)
      (by rw [hrequests, hrequestsDir]) (by rw [hrequests]; exact hempty)
    rw [hrequests] at hholds hothers
    refine Or.inr ⟨hfree, t', ?_, hworking'.trans hworking, hlimit'.trans hlimit, hholds,
      fun place hnot => (hothers place hnot).trans (hkept place hnot)⟩
    rw [requestSteps, hsteps, hfiles]

omit hstems in
/-- Where no file is on the way, the directory is made and the types are written into it, unless a
directory has the name of their file. -/
theorem writeTo_typesFile (hworking : t.get? t.workingPlace = some .directory)
    (hfree : t.FreeAlong (t.placeOf dir)) :
    (t.get? (t.placeOf dir ++ [typesFile]) = some .directory ∧
      ∃ t' reason, code.writeTo dir t = (t', some ⟨.write, dir.join typesFile, reason⟩)) ∨
    (t.get? (t.placeOf dir ++ [typesFile]) ≠ some .directory ∧
      ∃ t', code.writeTo dir t
          = OutputStep.applyAll t' (code.requestSteps (dir.join requestsDir)) ∧
        t'.workingPlace = t.workingPlace ∧ t'.limits = t.limits ∧
        ∀ place, t'.get? place
          = if place = t.placeOf dir ++ [typesFile] then some (.file code.types)
            else if place <+: t.placeOf dir then some .directory else t.get? place) := by
  obtain ⟨made, hcreate⟩ := exists_createDirAll hlimits hdir hworking hfree
  have hkeeps := (t.addsDirectories_createDirAll dir).keepsDirectories
  have hget := get?_createDirAll hdir hworking hcreate
  rw [hcreate] at hkeeps
  have hhome : made.get? (made.placeOf dir) = some .directory := by
    rw [hkeeps.placeOf_eq, hget, if_pos List.prefix_rfl]
  have hin : made.get? (t.placeOf dir ++ [typesFile]) = t.get? (t.placeOf dir ++ [typesFile]) := by
    rw [hget, if_neg fun hle => absurd hle.length_le (by simp)]
  have hmade : (OutputStep.createAll dir).apply t = (made, none) := hcreate
  have htypes := writeFile_join (hkeeps.limits_eq.trans hlimits) hdir hhome isFileName_typesFile
    (by decide) code.types
  rw [hkeeps.placeOf_eq, hin] at htypes
  rw [writeTo, outputSteps_eq, OutputStep.applyAll_cons_of_ok hmade]
  rcases htypes with ⟨htaken, hwrite⟩ | ⟨hnot, written, hwrite⟩
  · have hstep : (OutputStep.write (dir.join typesFile) code.types).apply made
        = (made, some .isDirectory) := by
      rw [OutputStep.apply, hwrite, OutputStep.settle]
    exact Or.inl ⟨htaken, made, _, OutputStep.applyAll_cons_of_error hstep⟩
  · have hstep : (OutputStep.write (dir.join typesFile) code.types).apply made
        = (written, none) := by
      rw [OutputStep.apply, hwrite, OutputStep.settle]
    have hputs := (writeFile_eq_ok hwrite).2.2
    rw [made.placeOf_join dir isFileName_typesFile, hkeeps.placeOf_eq] at hputs
    refine Or.inr ⟨hnot, written, ?_, ?_, ?_, fun place => ?_⟩
    · rw [OutputStep.applyAll_cons_of_ok hstep, requestSteps]
    · rw [hputs.workingPlace_eq, hkeeps.workingPlace_eq]
    · rw [hputs.limits_eq, hkeeps.limits_eq]
    · rw [hputs.get?_eq, hget]

/-- Generated code is written unless something is in the way: a file on the way to the directory, a
directory with the name of the file of types, or a file with the name of the directory of requests.
The first of these stops it. -/
theorem writeTo_cases (hworking : t.get? t.workingPlace = some .directory) :
    (¬t.FreeAlong (t.placeOf dir) ∧
      ∃ t' reason, code.writeTo dir t = (t', some ⟨.createDir, dir, reason⟩)) ∨
    (t.FreeAlong (t.placeOf dir) ∧ t.get? (t.placeOf dir ++ [typesFile]) = some .directory ∧
      ∃ t' reason, code.writeTo dir t = (t', some ⟨.write, dir.join typesFile, reason⟩)) ∨
    (t.FreeAlong (t.placeOf dir) ∧ t.get? (t.placeOf dir ++ [typesFile]) ≠ some .directory ∧
      (∃ text, t.get? (t.placeOf dir ++ [requestsDir]) = some (.file text)) ∧
      ∃ t' reason, code.writeTo dir t = (t', some ⟨.removeDir, dir.join requestsDir, reason⟩)) ∨
    (t.FreeAlong (t.placeOf dir) ∧ t.get? (t.placeOf dir ++ [typesFile]) ≠ some .directory ∧
      (∀ text, t.get? (t.placeOf dir ++ [requestsDir]) ≠ some (.file text)) ∧
      ∃ t', code.writeTo dir t = (t', none) ∧ code.WrittenTo (t.placeOf dir) t t') := by
  by_cases hfree : t.FreeAlong (t.placeOf dir)
  · rcases @writeTo_typesFile code dir t hlimits hdir hworking hfree with
      ⟨htaken, hfailed⟩ | ⟨hnot, made, hwrite, hplace, hlimit, hget⟩
    · exact Or.inr (Or.inl ⟨hfree, htaken, hfailed⟩)
    · have hsame : made.placeOf dir = t.placeOf dir := placeOf_eq_of_workingPlace_eq hplace dir
      have hrequests : made.get? (t.placeOf dir ++ [requestsDir])
          = t.get? (t.placeOf dir ++ [requestsDir]) := by
        rw [hget, if_neg (by simp [requestsDir, typesFile]),
          if_neg fun hle => absurd hle.length_le (by simp)]
      have hhome : made.get? (made.placeOf dir) = some .directory := by
        rw [hsame, hget, if_neg (by simp), if_pos List.prefix_rfl]
      have hsteps := applyAll_requestSteps hstems (hlimit.trans hlimits) hdir hhome
      rw [hsame, hrequests, ← hwrite] at hsteps
      rcases hsteps with ⟨hfile, hfailed⟩ | ⟨hnofile, t', hdone, hplace', hlimit', hholds, hkept⟩
      · exact Or.inr (Or.inr (Or.inl ⟨hfree, hnot, hfile, hfailed⟩))
      · have hwritten : code.WrittenTo (t.placeOf dir) t t' :=
          writtenTo_of_get? (hplace'.trans hplace) (hlimit'.trans hlimit) hholds
            fun place hout => by rw [hkept place hout, hget]
        exact Or.inr (Or.inr (Or.inr ⟨hfree, hnot, hnofile, t', hdone, hwritten⟩))
  · refine Or.inl ⟨hfree, ?_⟩
    cases hcreate : t.createDirAll dir with
    | mk made failure =>
      cases failure with
      | none => exact absurd (freeAlong_of_createDirAll hworking hcreate) hfree
      | some e =>
        have hstep : (OutputStep.createAll dir).apply t = (made, some e) := hcreate
        rw [writeTo, outputSteps_eq]
        exact ⟨made, _, OutputStep.applyAll_cons_of_error hstep⟩

/-- Where generated code is, it can be written again. -/
theorem WrittenTo.exists_again {t' : FileTree} (h : code.WrittenTo (t.placeOf dir) t t') :
    ∃ t'', code.writeTo dir t' = (t'', none) ∧ code.WrittenTo (t.placeOf dir) t' t'' := by
  have hsame : t'.placeOf dir = t.placeOf dir := placeOf_eq_of_workingPlace_eq h.workingPlace_eq dir
  have hworking : t'.get? t'.workingPlace = some .directory := by
    rw [h.workingPlace_eq]
    refine h.onTheWay _ ?_
    rw [placeOf_of_isPlain hdir]
    exact List.prefix_append _ _
  have hfree : t'.FreeAlong (t'.placeOf dir) :=
    freeAlong_of_directory (hsame ▸ h.onTheWay _ List.prefix_rfl)
  have hcases := writeTo_cases hstems (h.limits_eq.trans hlimits) hdir hworking
  rw [hsame, h.types, h.requests.isDirectory] at hcases
  rw [hsame] at hfree
  rcases hcases with ⟨hnot, -⟩ | ⟨-, htypes, -⟩ | ⟨-, -, ⟨text, hfile⟩, -⟩ | ⟨-, -, -, hdone⟩
  · exact absurd hfree hnot
  · cases htypes
  · cases hfile
  · exact hdone

end Writing

/-- Writing generated code rebuilds its part of the tree. It fails if and only if something is in
the way, with an error that says what. Otherwise it leaves the code in the directory, with nothing
else among the requests, and to write the code once more succeeds and changes nothing. -/
theorem writeTo_rebuilds (code : GeneratedCode) (dir : Path) (t : FileTree)
    (hstems : ∀ request ∈ code.requests, '/' ∉ request.fileStem.toList ∧
      '\x00' ∉ request.fileStem.toList)
    (hdir : dir.IsPlain) (hlimits : t.limits = {})
    (hworking : t.get? t.workingPlace = some .directory) :
    let home := t.workingPlace ++ dir.components
    let fileOnTheWay := ∃ place text, place <+: home ∧ t.get? place = some (.file text)
    let typesTaken := t.get? (home ++ [typesFile]) = some .directory
    let requestsTaken := ∃ text, t.get? (home ++ [requestsDir]) = some (.file text)
    let failsWith := fun kind path =>
      ∃ t' reason, code.writeTo dir t = (t', some ⟨kind, path, reason⟩)
    (failsWith .createDir dir ↔ fileOnTheWay) ∧
    (failsWith .write (dir.join typesFile) ↔ ¬fileOnTheWay ∧ typesTaken) ∧
    (failsWith .removeDir (dir.join requestsDir) ↔ ¬fileOnTheWay ∧ ¬typesTaken ∧ requestsTaken) ∧
    ((∃ t', code.writeTo dir t = (t', none)) ↔
      ¬fileOnTheWay ∧ ¬typesTaken ∧ ¬requestsTaken) ∧
    ∀ t', code.writeTo dir t = (t', none) → code.WrittenTo home t t' ∧
      ∃ t'', code.writeTo dir t' = (t'', none) ∧ t''.workingPlace = t'.workingPlace ∧
        t''.limits = t'.limits ∧ ∀ place, t''.get? place = t'.get? place := by
  intro home fileOnTheWay typesTaken requestsTaken failsWith
  have hhome : t.placeOf dir = home := placeOf_of_isPlain hdir t
  have hway : fileOnTheWay ↔ ¬t.FreeAlong home := by
    simp [fileOnTheWay, FreeAlong]
  have hrequests : requestsTaken
      ↔ ¬∀ text, t.get? (home ++ [requestsDir]) ≠ some (.file text) := by
    simp [requestsTaken]
  have hcases := writeTo_cases hstems hlimits hdir hworking
  rw [hhome] at hcases
  rw [hway, hrequests, not_not, not_not]
  rcases hcases with ⟨hfile, t₁, reason, hwrite⟩ | ⟨hfree, htypes, t₁, reason, hwrite⟩ |
    ⟨hfree, htypes, hfile, t₁, reason, hwrite⟩ | ⟨hfree, htypes, hnofile, t₁, hwrite, hwritten⟩
  · simp [failsWith, hwrite, hfile]
  · simp [failsWith, hwrite, hfree, typesTaken, htypes]
  · have hnot : ¬∀ text, t.get? (home ++ [requestsDir]) ≠ some (.file text) :=
      hrequests.mp hfile
    simp [failsWith, hwrite, hfree, typesTaken, htypes, hnot]
  · refine ⟨by simp [failsWith, hwrite, hfree], by simp [failsWith, hwrite, typesTaken, htypes],
      by simp [failsWith, hwrite, hnofile],
      by simp [hwrite, hfree, typesTaken, htypes, hnofile], ?_⟩
    intro t' ht'
    obtain rfl : t₁ = t' := congrArg Prod.fst (hwrite.symm.trans ht')
    obtain ⟨t'', hagain, hwritten'⟩ := (hhome ▸ hwritten).exists_again hstems hlimits hdir
    exact ⟨hwritten, t'', hagain, hwritten'.workingPlace_eq, hwritten'.limits_eq,
      hwritten.get?_again (hhome ▸ hwritten')⟩

/-! ## Code in place of older code -/

/-- A directory with a file of its own and a request of an operation that is gone. -/
def olderOutput : FileTree :=
  (OutputStep.applyAll (.empty {}) [.createAll ⟨"out/requests"⟩, .write ⟨"out/notes.txt"⟩ "notes",
    .write ⟨"out/requests/gone.rs"⟩ "gone"]).1

/-- Code with two requests of one stem, and one with the stem of the file that declares them. -/
def repeatedStems : GeneratedCode where
  types := "types"
  requests := [⟨"get", "first"⟩, ⟨"mod", "hidden"⟩, ⟨"get", "last"⟩]
  requestsMod := "pub mod get;"

/-- The code replaces the older request and leaves the other file. Of its requests the last one of
the repeated stem is there, and the declaration stands in place of the other. -/
theorem writeTo_rebuilds_olderOutput :
    (∀ request ∈ repeatedStems.requests, '/' ∉ request.fileStem.toList ∧
      '\x00' ∉ request.fileStem.toList) ∧
    (Path.mk "out/").IsPlain ∧ olderOutput.limits = {} ∧
    olderOutput.get? olderOutput.workingPlace = some .directory ∧
    ∃ t', repeatedStems.writeTo ⟨"out/"⟩ olderOutput = (t', none) ∧
      repeatedStems.WrittenTo ["out"] olderOutput t' ∧
      t'.get? ["out", "requests", "gone.rs"] = none ∧
      t'.get? ["out", "requests", "get.rs"] = some (.file "last") ∧
      t'.get? ["out", "requests", "mod.rs"] = some (.file "pub mod get;") ∧
      t'.get? ["out", "notes.txt"] = some (.file "notes") := by
  have hstems : ∀ request ∈ repeatedStems.requests, '/' ∉ request.fileStem.toList ∧
      '\x00' ∉ request.fileStem.toList := by decide
  have hdir : (Path.mk "out/").IsPlain := by
    refine ⟨by decide, by decide, fun name hname hne => ?_⟩
    have hnames : (Path.mk "out/").names = ["out", ""] := by decide +kernel
    rw [hnames, List.mem_pair] at hname
    obtain rfl := hname.resolve_right hne
    constructor <;> decide
  have hlimits : olderOutput.limits = {} := by decide +kernel
  have hworking : olderOutput.get? olderOutput.workingPlace = some .directory := by decide +kernel
  have hout : olderOutput.get? ["out"] = some .directory := by decide +kernel
  have htypes : olderOutput.get? ["out", typesFile] = none := by decide +kernel
  have hrequests : olderOutput.get? ["out", requestsDir] = some .directory := by decide +kernel
  have hnotes : olderOutput.get? ["out", "notes.txt"] = some (.file "notes") := by decide +kernel
  have hhome : olderOutput.workingPlace ++ (Path.mk "out/").components = ["out"] := by
    decide +kernel
  obtain ⟨-, -, -, hsucceeds, hdone⟩ :=
    writeTo_rebuilds repeatedStems ⟨"out/"⟩ olderOutput hstems hdir hlimits hworking
  rw [hhome] at hsucceeds hdone
  obtain ⟨t', hwrite⟩ := hsucceeds.mpr ⟨fun ⟨place, text, hle, hfile⟩ =>
      freeAlong_of_directory hout place hle text hfile,
    by simp [htypes], by simp [hrequests]⟩
  obtain ⟨hwritten, -⟩ := hdone t' hwrite
  refine ⟨hstems, hdir, hlimits, hworking, t', hwrite, hwritten, ?_, ?_, ?_, ?_⟩
  · exact hwritten.requests.request "gone" (by decide)
  · exact hwritten.requests.request "get" (by decide)
  · exact hwritten.requests.requestsMod
  · have hnot : ¬InOutput ["out"] ["out", "notes.txt"] := by
      unfold InOutput
      decide
    exact (hwritten.elsewhere _ (by decide) hnot).trans hnotes

end GeneratedCode

end BotBindings
