import BotBindings.Proofs.Files.Output

/-!
# What a directory of requests holds

The directory of the requests is new when its files are written. So it holds what was written and
nothing else, and of two files that were written under one name it holds the later one.
-/

namespace BotBindings

namespace OutputStep

open FileTree

private theorem applyAll_cons_eq_ok {t t' : FileTree} {step : OutputStep} {steps : List OutputStep}
    (h : applyAll t (step :: steps) = (t', none)) :
    ∃ t₁, step.apply t = (t₁, none) ∧ applyAll t₁ steps = (t', none) := by
  rw [applyAll] at h
  cases hstep : step.apply t with
  | mk t₁ failure =>
    rw [hstep] at h
    cases failure with
    | none => exact ⟨t₁, rfl, h⟩
    | some e => cases h

/-- An operation on a file tree that was settled without a failure gave the new tree. -/
theorem eq_ok_of_settle {t t' : FileTree} {result : Except FileError FileTree}
    (h : settle t result = (t', none)) : result = .ok t' := by
  cases result with
  | error e => cases h
  | ok t₁ =>
    cases h
    rfl

/-- The steps that write files into a directory, by their names. -/
def writes (dir : Path) (files : List (String × String)) : List OutputStep :=
  files.map fun (name, text) => .write (dir.join name) text

/-- After files were written into a directory each of them is there, with the text that it was
written with last, and under other names there is what was there before. -/
theorem get?_writes {dir : Path} {files : List (String × String)}
    (hnames : ∀ file ∈ files, IsFileName file.1) {t t' : FileTree}
    (h : applyAll t (writes dir files) = (t', none)) :
    t.KeepsDirectories t' ∧
      (∀ file ∈ files, t'.locate (dir.join file.1) = .ok (t.placeOf dir ++ [file.1])) ∧
      ∀ name, t'.get? (t.placeOf dir ++ [name])
        = ((files.reverse.lookup name).map Entry.file).or (t.get? (t.placeOf dir ++ [name])) := by
  induction files generalizing t with
  | nil =>
    cases h
    exact ⟨.refl _, by simp, by simp⟩
  | cons file files ih =>
    obtain ⟨written, last⟩ := file
    obtain ⟨t₁, hstep, hrest⟩ := applyAll_cons_eq_ok h
    obtain ⟨hlocate, hnot, hputs⟩ := writeFile_eq_ok (eq_ok_of_settle hstep)
    have hkeeps := hputs.keepsDirectories (Or.inl hnot)
    obtain ⟨hkeeps', hfound, hget⟩ := ih (fun f hf => hnames f (by simp [hf])) hrest
    rw [t.placeOf_join dir (hnames _ List.mem_cons_self)] at hlocate hputs
    simp only [hkeeps.placeOf_eq] at hfound hget
    refine ⟨hkeeps.trans hkeeps', ?_, fun name => ?_⟩
    · intro other hother
      rcases List.mem_cons.mp hother with rfl | hother
      · exact (hkeeps.trans hkeeps').locate hlocate
      · exact hfound other hother
    · -- A later file of the same name comes first in the reversed list.
      rw [hget, hputs.get?_eq, List.reverse_cons, List.lookup_append]
      by_cases hname : name = written
      · subst hname
        cases files.reverse.lookup name <;> simp
      · simp [hname, List.lookup_cons, beq_eq_false_iff_ne.mpr hname]

/-- A file that is found was written last under its name, if nothing was there before. -/
theorem readFile_writes_iff {dir : Path} {files : List (String × String)}
    (hnames : ∀ file ∈ files, IsFileName file.1) {t t' : FileTree}
    (h : applyAll t (writes dir files) = (t', none)) {name : String} (hname : IsFileName name)
    (hnone : t.get? (t.placeOf dir ++ [name]) = none) (text : String) :
    t'.readFile (dir.join name) = .ok text ↔ files.reverse.lookup name = some text := by
  obtain ⟨hkeeps, hfound, hget⟩ := get?_writes hnames h
  have hplace := hget name
  rw [hnone, Option.or_none] at hplace
  unfold readFile
  constructor
  · intro hread
    cases hlocate : t'.locate (dir.join name) with
    | error e => simp [hlocate] at hread
    | ok place =>
      have hjoin : place = t.placeOf dir ++ [name] := by
        rw [locate_eq_ok hlocate, hkeeps.placeOf_eq, t.placeOf_join dir hname]
      simp only [hlocate, hjoin, hplace] at hread
      cases hlookup : files.reverse.lookup name with
      | none => simp [hlookup] at hread
      | some found => simpa [hlookup] using hread
  · intro hlookup
    have hmem : (name, text) ∈ files := by
      obtain ⟨front, back, heq, -⟩ := List.lookup_eq_some_iff.mp hlookup
      exact List.mem_reverse.mp (heq ▸ by simp)
    simp only [hfound _ hmem, hplace, hlookup, Option.map_some]

end OutputStep

namespace GeneratedCode

open FileTree

/-- The files of the directory of requests, in the order in which they are written. -/
def requestFiles (code : GeneratedCode) : List (String × String) :=
  code.requests.map (fun request => (request.fileStem ++ ".rs", request.source))
    ++ [(requestsModFile, code.requestsMod)]

/-- Writing makes the output directory and the file of types, and then fills an emptied directory
with the files of the requests. -/
theorem outputSteps_eq (code : GeneratedCode) (dir : Path) :
    code.outputSteps dir
      = .createAll dir :: .write (dir.join typesFile) code.types ::
        .clear (dir.join requestsDir) :: .create (dir.join requestsDir) ::
        OutputStep.writes (dir.join requestsDir) code.requestFiles := by
  simp [outputSteps, OutputStep.writes, requestFiles, Function.comp_def]

/-- After code was written the directory of requests has exactly the files of the code, each with
the text that comes last under its name. -/
theorem readFile_writeTo_iff {code : GeneratedCode}
    (hstems : ∀ request ∈ code.requests, '/' ∉ request.fileStem.toList) {dir : Path}
    {t t' : FileTree} (h : code.writeTo dir t = (t', none)) {name : String}
    (hname : IsFileName name) (text : String) :
    t'.readFile ((dir.join requestsDir).join name) = .ok text
      ↔ code.requestFiles.reverse.lookup name = some text := by
  have hnames : ∀ file ∈ code.requestFiles, IsFileName file.1 := by
    intro file hfile
    rcases List.mem_append.mp hfile with hfile | hfile
    · obtain ⟨request, hrequest, rfl⟩ := List.mem_map.mp hfile
      exact isFileName_append_rs (hstems request hrequest)
    · rw [List.mem_singleton.mp hfile]
      exact isFileName_requestsModFile
  rw [writeTo, outputSteps_eq] at h
  obtain ⟨t₁, -, h⟩ := OutputStep.applyAll_cons_eq_ok h
  obtain ⟨t₂, -, h⟩ := OutputStep.applyAll_cons_eq_ok h
  obtain ⟨t₃, -, h⟩ := OutputStep.applyAll_cons_eq_ok h
  obtain ⟨t₄, hcreate, h⟩ := OutputStep.applyAll_cons_eq_ok h
  obtain ⟨hnone, hputs⟩ := createDir_eq_ok (OutputStep.eq_ok_of_settle hcreate)
  have hkeeps := hputs.keepsDirectories (Or.inr rfl)
  refine OutputStep.readFile_writes_iff hnames h hname ?_ text
  rw [hkeeps.placeOf_eq, hputs.get?_eq, if_neg (by simp)]
  exact get?_append_eq_none hnone [name]

end GeneratedCode

end BotBindings
