import BotBindings.Proofs.Files.Effect

/-!
# What writing generated code changes

Writing goes through a fixed list of steps and may stop at any of them. Each step touches known
places only, so what lies elsewhere stays as it was, however far the steps get. The main statement
says which places those are for generated code: the file of types, the directory of requests and all
below it, and the directories that had to be created on the way.
-/

namespace BotBindings

/-- The places that a step may change in a tree. -/
def OutputStep.Touches (step : OutputStep) (t : FileTree) (place : Place) : Prop :=
  match step with
  | .createAll path => ∃ above ∈ path.ancestors, place = t.placeOf above
  | .create path => place = t.placeOf path
  | .clear path => t.placeOf path <+: place
  | .write path _ => place = t.placeOf path

namespace FileTree

/-- The tree `t'` is `t` but for some places, and paths are read in the same way. -/
structure SameOutside (t : FileTree) (touched : Place → Prop) (t' : FileTree) : Prop where
  workingPlace_eq : t'.workingPlace = t.workingPlace
  limits_eq : t'.limits = t.limits
  get?_eq : ∀ place, ¬touched place → t'.get? place = t.get? place

variable {t t' : FileTree} {touched : Place → Prop}

/-- A tree is the same as itself outside of any places. -/
theorem SameOutside.refl (t : FileTree) (touched : Place → Prop) : t.SameOutside touched t :=
  ⟨rfl, rfl, fun _ _ => rfl⟩

/-- Two changes that stay within the same places stay within them together. -/
theorem SameOutside.trans {t'' : FileTree} (h : t.SameOutside touched t')
    (h' : t'.SameOutside touched t'') : t.SameOutside touched t'' where
  workingPlace_eq := h'.workingPlace_eq.trans h.workingPlace_eq
  limits_eq := h'.limits_eq.trans h.limits_eq
  get?_eq := fun place hplace => (h'.get?_eq place hplace).trans (h.get?_eq place hplace)

/-- A change that stays within some places stays within more places. -/
theorem SameOutside.mono {others : Place → Prop} (h : t.SameOutside touched t')
    (hsubset : ∀ place, touched place → others place) : t.SameOutside others t' where
  workingPlace_eq := h.workingPlace_eq
  limits_eq := h.limits_eq
  get?_eq := fun place hplace => h.get?_eq place fun htouched => hplace (hsubset place htouched)

private theorem Puts.sameOutside {place : Place} {entry : Entry} (h : t.Puts place entry t') :
    t.SameOutside (· = place) t' where
  workingPlace_eq := h.workingPlace_eq
  limits_eq := h.limits_eq
  get?_eq := by
    intro other hne
    rw [h.get?_eq, if_neg hne]

end FileTree

namespace OutputStep

open FileTree

private theorem touches_iff_of_workingPlace_eq {step : OutputStep} {t t' : FileTree}
    (h : t'.workingPlace = t.workingPlace) (place : Place) :
    step.Touches t' place ↔ step.Touches t place := by
  cases step <;> simp only [Touches, placeOf_eq_of_workingPlace_eq h]

/-- A step changes the places that it touches only, whether it succeeds or not. -/
theorem sameOutside_apply (step : OutputStep) (t : FileTree) :
    t.SameOutside (step.Touches t) (step.apply t).1 := by
  cases step with
  | createAll path =>
    have hadds := t.addsDirectories_createDirAll path
    refine ⟨hadds.keepsDirectories.workingPlace_eq, hadds.keepsDirectories.limits_eq, ?_⟩
    intro place hplace
    rcases hadds.get?_eq_or place with heq | ⟨-, -, habove⟩
    · exact heq
    · exact absurd habove hplace
  | create path =>
    rw [apply]
    cases hcreate : t.createDir path with
    | error e => exact .refl t _
    | ok t' => exact (createDir_eq_ok hcreate).2.sameOutside
  | write path text =>
    rw [apply]
    cases hwrite : t.writeFile path text with
    | error e => exact .refl t _
    | ok t' => exact (writeFile_eq_ok hwrite).2.2.sameOutside
  | clear path =>
    rw [apply]
    cases hremove : t.removeDirAll path with
    | error e => cases e <;> exact .refl t _
    | ok t' =>
      rw [removeDirAll_eq_ok hremove]
      refine ⟨rfl, rfl, fun place hplace => ?_⟩
      have hnot : ¬((t.placeOf path).isPrefixOf place = true) := by
        rwa [List.isPrefixOf_iff_prefix]
      change (t.erase (t.placeOf path)).get? place = t.get? place
      rw [get?_erase, if_neg fun h => hnot h.2]

/-- Steps change the places that one of them touches only, however far they get. -/
theorem sameOutside_applyAll (t : FileTree) (steps : List OutputStep) :
    t.SameOutside (fun place => ∃ step ∈ steps, step.Touches t place) (applyAll t steps).1 := by
  induction steps generalizing t with
  | nil => exact .refl t _
  | cons step steps ih =>
    have hstep : t.SameOutside (fun place => ∃ other ∈ step :: steps, other.Touches t place)
        (step.apply t).1 :=
      (step.sameOutside_apply t).mono fun place hplace => ⟨step, by simp, hplace⟩
    rw [applyAll]
    cases hresult : step.apply t with
    | mk t' failure =>
      rw [hresult] at hstep
      cases failure with
      | some e => exact hstep
      | none =>
        refine hstep.trans ((ih t').mono fun place hplace => ?_)
        obtain ⟨other, hmem, hother⟩ := hplace
        exact ⟨other, by simp [hmem],
          (touches_iff_of_workingPlace_eq hstep.workingPlace_eq place).mp hother⟩

end OutputStep

/-! ## Where generated code is written -/

/-- A name with an extension is the name of a file, unless it holds a slash. -/
theorem isFileName_append_rs {stem : String} (h : '/' ∉ stem.toList) :
    IsFileName (stem ++ ".rs") := by
  have hlast : (stem ++ ".rs").toList.getLast? = some 's' := by simp
  refine ⟨by simp [h], ?_, ?_, ?_⟩
  all_goals
    intro heq
    rw [heq] at hlast
    revert hlast
    decide

namespace GeneratedCode

/-- The file of types has a name that a directory can hold. -/
theorem isFileName_typesFile : IsFileName typesFile := by
  constructor <;> decide

/-- The directory of requests has a name that a directory can hold. -/
theorem isFileName_requestsDir : IsFileName requestsDir := by
  constructor <;> decide

/-- The file that declares the requests has a name that a directory can hold. -/
theorem isFileName_requestsModFile : IsFileName requestsModFile := by
  constructor <;> decide

/-- The place of what is written belongs to the output: it is that of the file of types, or that of
the directory of requests or below it. -/
def InOutput (home place : Place) : Prop :=
  place = home ++ [typesFile] ∨ home ++ [requestsDir] <+: place

/-- After its directory was created, writing touches places of the output only. -/
theorem inOutput_of_touches {code : GeneratedCode} {dir : Path} {t : FileTree}
    (hstems : ∀ request ∈ code.requests, '/' ∉ request.fileStem.toList) {step : OutputStep}
    (hstep : step ∈ (code.outputSteps dir).tail) {place : Place} (h : step.Touches t place) :
    InOutput (t.placeOf dir) place := by
  have hrequests : t.placeOf (dir.join requestsDir) = t.placeOf dir ++ [requestsDir] :=
    t.placeOf_join dir isFileName_requestsDir
  simp only [outputSteps, List.cons_append, List.nil_append, List.tail_cons, List.mem_cons,
    List.mem_append, List.mem_map, List.not_mem_nil, or_false] at hstep
  rcases hstep with rfl | rfl | rfl | ⟨request, hrequest, rfl⟩ | rfl
  · exact Or.inl (h.trans (t.placeOf_join dir isFileName_typesFile))
  · exact Or.inr (hrequests ▸ h)
  · exact Or.inr (by rw [h, hrequests])
  · have hplace := t.placeOf_join (dir.join requestsDir)
      (isFileName_append_rs (hstems request hrequest))
    rw [hrequests] at hplace
    exact Or.inr ⟨_, (h.trans hplace).symm⟩
  · have hplace := t.placeOf_join (dir.join requestsDir) isFileName_requestsModFile
    rw [hrequests] at hplace
    exact Or.inr ⟨_, (h.trans hplace).symm⟩

/-- Writing generated code changes the output only, however far it gets. Elsewhere there may be new
directories: the one that is written to, and some above it. -/
theorem get?_writeTo {code : GeneratedCode}
    (hstems : ∀ request ∈ code.requests, '/' ∉ request.fileStem.toList) (dir : Path) (t : FileTree)
    {place : Place} (hplace : ¬InOutput (t.placeOf dir) place) :
    (code.writeTo dir t).1.get? place = t.get? place ∨
      (t.get? place = none ∧ (code.writeTo dir t).1.get? place = some .directory ∧
        ∃ above ∈ dir.ancestors, place = t.placeOf above) := by
  have hmade := t.addsDirectories_createDirAll dir
  have hsteps : code.outputSteps dir = .createAll dir :: (code.outputSteps dir).tail := rfl
  rw [writeTo, hsteps, OutputStep.applyAll, OutputStep.apply]
  cases hcreate : t.createDirAll dir with
  | mk made failure =>
    rw [hcreate] at hmade
    cases failure with
    | some e => exact hmade.get?_eq_or place
    | none =>
      have hrest := OutputStep.sameOutside_applyAll made (code.outputSteps dir).tail
      have hkept : (OutputStep.applyAll made (code.outputSteps dir).tail).1.get? place
          = made.get? place := by
        refine hrest.get?_eq place ?_
        rintro ⟨step, hstep, htouches⟩
        have hin := inOutput_of_touches hstems hstep htouches
        rw [hmade.keepsDirectories.placeOf_eq] at hin
        exact hplace hin
      rw [hkept]
      exact hmade.get?_eq_or place

end GeneratedCode

end BotBindings
