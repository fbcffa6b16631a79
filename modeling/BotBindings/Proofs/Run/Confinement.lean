import BotBindings.Proofs.Files.Output
import BotBindings.Proofs.Request.Stages
import BotBindings.Proofs.Text.Casing
import BotBindings.Run

/-!
# What a run leaves alone

A run that fails before it has any code to write leaves all files as they were. Any other run writes
to one file and one directory, and this holds whatever the page says: the names of the files are in
snake case, which has neither slashes nor dots, so no heading leads out of that directory.
-/

namespace BotBindings

open GeneratedCode

/-- Code for a page is generated from the registry that the page is read as. -/
theorem bindings_eq_ok {page typesModule : String} {code : GeneratedCode}
    (h : bindings page typesModule = .ok code) :
    ∃ registry, (extract page).result = .ok registry ∧
      generate registry typesModule = .ok code := by
  unfold bindings at h
  cases hextract : (extract page).result with
  | error e => simp [hextract] at h
  | ok registry =>
    simp only [hextract] at h
    cases hgenerate : generate registry typesModule with
    | error e => simp [hgenerate] at h
    | ok generated =>
      simp only [hgenerate, Except.ok.injEq] at h
      exact ⟨registry, rfl, h ▸ hgenerate⟩

/-- The code that a run is to write was generated from the registry of a page. -/
theorem prepare_eq_ok {download : String → Except String String} {arguments : Arguments}
    {t : FileTree} {code : GeneratedCode} (h : prepare download arguments t = .ok code) :
    ∃ page registry, loadPage download arguments.input t = .ok page ∧
      (extract page).result = .ok registry ∧
      generate registry arguments.typesModule = .ok code := by
  unfold prepare at h
  cases hload : loadPage download arguments.input t with
  | error e => simp [hload] at h
  | ok page =>
    rw [hload] at h
    obtain ⟨registry, hextract, hgenerate⟩ := bindings_eq_ok h
    exact ⟨page, registry, rfl, hextract, hgenerate⟩

/-- A run that does not reach the output leaves the files as they were. -/
theorem run_eq_of_prepare_eq_error {download : String → Except String String}
    {arguments : Arguments} {t : FileTree} {e : RunError}
    (h : prepare download arguments t = .error e) : run download arguments t = (t, some e) := by
  rw [run, h]

/-- A run that reaches the output leaves the files as writing its code leaves them. -/
theorem run_of_prepare_eq_ok {download : String → Except String String} {arguments : Arguments}
    {t : FileTree} {code : GeneratedCode} (h : prepare download arguments t = .ok code) :
    run download arguments t = ((code.writeTo ⟨arguments.output⟩ t).1,
      (code.writeTo ⟨arguments.output⟩ t).2.map RunError.output) := by
  rw [run, h]
  cases hwrite : code.writeTo ⟨arguments.output⟩ t with
  | mk after failure => cases failure <;> simp [hwrite]

/-- A run that fails for another reason than its output leaves all files as they were. Any run
leaves each place as it was that is neither that of the file of types, nor that of the directory of
requests or below it; only the output directory and directories above it may be new. No name of a
request file leads anywhere else, because snake case has no slashes and no dots. -/
theorem run_changes_output_only (download : String → Except String String) (arguments : Arguments)
    (t : FileTree) :
    let after := (run download arguments t).1
    let failure := (run download arguments t).2
    let home := t.placeOf ⟨arguments.output⟩
    (∀ e, failure = some e → (∀ reason, e ≠ .output reason) → after = t) ∧
      (∀ place, ¬(place = home ++ ["types.rs"] ∨ home ++ ["requests"] <+: place) →
        (∀ text, after.get? place = some (.file text) ↔ t.get? place = some (.file text)) ∧
        (after.get? place = t.get? place ∨
          (t.get? place = none ∧ after.get? place = some .directory ∧
            ∃ above ∈ (Path.mk arguments.output).ancestors, place = t.placeOf above))) ∧
      ∀ key, '/' ∉ (Text.snakeCase key).toList ∧ '.' ∉ (Text.snakeCase key).toList := by
  intro after failure home
  have hnames : ∀ key, '/' ∉ (Text.snakeCase key).toList ∧ '.' ∉ (Text.snakeCase key).toList :=
    fun key => ⟨Text.not_mem_snakeCase (by decide) (by decide) key,
      Text.not_mem_snakeCase (by decide) (by decide) key⟩
  refine ⟨fun e he hreason => ?_, fun place hplace => ?_, hnames⟩
  · cases hprepare : prepare download arguments t with
    | error other =>
      change (run download arguments t).1 = t
      rw [run_eq_of_prepare_eq_error hprepare]
    | ok code =>
      change (run download arguments t).2 = some e at he
      rw [run_of_prepare_eq_ok hprepare] at he
      obtain ⟨reason, -, hout⟩ := Option.map_eq_some_iff.mp he
      exact absurd hout.symm (hreason reason)
  · have hchange : after.get? place = t.get? place ∨
        (t.get? place = none ∧ after.get? place = some .directory ∧
          ∃ above ∈ (Path.mk arguments.output).ancestors, place = t.placeOf above) := by
      cases hprepare : prepare download arguments t with
      | error e =>
        left
        change (run download arguments t).1.get? place = t.get? place
        rw [run_eq_of_prepare_eq_error hprepare]
      | ok code =>
        obtain ⟨page, registry, -, -, hgenerate⟩ := prepare_eq_ok hprepare
        have hstems : ∀ request ∈ code.requests, '/' ∉ request.fileStem.toList := by
          intro request hrequest
          obtain ⟨o, -, hstem⟩ := Code.exists_operation_of_mem_requests hgenerate hrequest
          rw [hstem]
          exact (hnames o.key).1
        have hwrite := get?_writeTo hstems ⟨arguments.output⟩ t hplace
        have hafter : after = (code.writeTo ⟨arguments.output⟩ t).1 :=
          congrArg Prod.fst (run_of_prepare_eq_ok hprepare)
        rwa [hafter]
    refine ⟨fun text => ?_, hchange⟩
    rcases hchange with heq | ⟨hnone, hdir, -⟩
    · rw [heq]
    · simp [hnone, hdir]

/-- A page with a heading that looks like a way out of the directory of requests. -/
def escapingPage : String :=
  "<div id=dev_page_content><h4><a class=anchor name=x></a>a/../../b</h4></div>"

/-- The page beside a file that the heading seems to lead to. -/
def escapingTree : FileTree :=
  ((FileTree.empty {}).set [] "api.html" (.file escapingPage) (by simp) (by decide +kernel)).set []
    "b.rs" (.file "kept") (by simp) (by decide +kernel)

/-- The run that writes the code for a page of that tree into a directory. -/
def runOn (input : String) : FileTree × Option RunError :=
  run (fun _ => .error "") { input := input, output := "out" } escapingTree

private theorem runOn_escapingPage : (runOn "api.html").2 = none := by
  decide +kernel

private theorem runOn_missingPage :
    (runOn "none.html").2 = some (.readInput ⟨"none.html"⟩ FileError.notFound.message) := by
  decide +kernel

/-- The file is left alone, and so is all when the page is not found. -/
theorem run_changes_output_only_escapingTree :
    ((runOn "api.html").2 = none ∧ (runOn "api.html").1.get? ["b.rs"] = some (.file "kept")) ∧
      (runOn "none.html").2 = some (.readInput ⟨"none.html"⟩ FileError.notFound.message) ∧
      (runOn "none.html").1 = escapingTree := by
  obtain ⟨-, hother, -⟩ := run_changes_output_only (fun _ => .error "")
    { input := "api.html", output := "out" } escapingTree
  obtain ⟨hunchanged, -, -⟩ := run_changes_output_only (fun _ => .error "")
    { input := "none.html", output := "out" } escapingTree
  exact ⟨⟨runOn_escapingPage,
      ((hother ["b.rs"] (by decide +kernel)).1 "kept").mpr (by decide +kernel)⟩,
    runOn_missingPage, hunchanged _ runOn_missingPage (by simp)⟩

end BotBindings
