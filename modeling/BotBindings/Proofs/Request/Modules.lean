import BotBindings.Proofs.Code.Identifier
import BotBindings.Proofs.Files.Written
import BotBindings.Proofs.OrderedMap.Content
import BotBindings.Proofs.Request.Stages
import BotBindings.Proofs.Text.Casing

/-!
# The modules of the requests

The file that declares the modules of the requests names each by an identifier, while the file of a
request is named by the snake case of its key as it is. The two agree exactly if snake case gives an
identifier. Files under one name replace each other, so no two operations may share a name either,
nor may one of them take the name of the file of declarations.
-/

namespace BotBindings

open GeneratedCode

namespace Code

/-! ## Reading declarations -/

/-- The module that a line declares, without the escape of a keyword. -/
def declaredModule? (line : List Char) : Option String :=
  match Text.stripFront "pub mod ".toList line with
  | none => none
  | some rest =>
    if rest.getLast? = some ';' then
      let name := rest.dropLast
      some (String.ofList ((Text.stripFront "r#".toList name).getD name))
    else none

/-- The modules that a file declares, line by line. -/
def declaredModules (source : String) : List String :=
  (Text.split ['\n'] source.toList).filterMap declaredModule?

private theorem declaredModules_append_newline (front back : String) :
    declaredModules (front ++ "\n" ++ back) = declaredModules front ++ declaredModules back := by
  have hlines : (front ++ "\n" ++ back).toList = front.toList ++ '\n' :: back.toList := by simp
  rw [declaredModules, hlines, Text.split_append_cons, List.filterMap_append]
  rfl

/-- The declaration of an identifier declares its text. -/
theorem declaredModules_declaration {name : Identifier}
    (hchars : ∀ c ∈ name.text.toList, isIdentifierChar c = true) :
    declaredModules ("pub mod " ++ name.source ++ ";") = [name.text] := by
  have hsource : ∀ c ∈ name.source.toList, c = 'r' ∨ c = '#' ∨ isIdentifierChar c = true := by
    intro c hc
    rw [Identifier.source] at hc
    split at hc
    · rw [String.toList_append, List.mem_append] at hc
      rcases hc with hc | hc
      · simp at hc
        tauto
      · exact Or.inr (Or.inr (hchars c hc))
    · exact Or.inr (Or.inr (hchars c hc))
  have hline : '\n' ∉ ("pub mod " ++ name.source ++ ";").toList := by
    simp only [String.toList_append, List.mem_append, not_or]
    refine ⟨⟨by decide, fun hmem => ?_⟩, by decide⟩
    rcases hsource _ hmem with h | h | h <;> revert h <;> decide
  have hescape : (Text.stripFront "r#".toList name.source.toList).getD name.source.toList
      = name.text.toList := by
    rw [Identifier.source]
    split
    · rw [String.toList_append, Text.stripFront_append]
      rfl
    · -- No identifier holds the second character of the escape.
      have hnone : Text.stripFront "r#".toList name.text.toList = none := by
        rw [Text.stripFront_eq_none_iff]
        intro hstarts
        have hmem := hchars '#' (hstarts.subset (by decide))
        revert hmem
        decide
      rw [hnone]
      rfl
  have hparts : ("pub mod " ++ name.source ++ ";").toList
      = "pub mod ".toList ++ (name.source.toList ++ [';']) := by simp
  rw [declaredModules, Text.split_of_not_mem hline, hparts]
  simp only [List.filterMap_cons, List.filterMap_nil, declaredModule?, Text.stripFront_append,
    List.getLast?_concat, if_true, List.dropLast_concat, hescape, String.ofList_toList]

/-- The file of declarations declares the modules that it is made from, in their order. -/
theorem declaredModules_modulesSource {modules : List Identifier}
    (hchars : ∀ name ∈ modules, ∀ c ∈ name.text.toList, isIdentifierChar c = true) :
    declaredModules (modulesSource modules) = modules.map Identifier.text := by
  have hdeclarations : declaredModules
      (String.join (modules.map fun name => "pub mod " ++ name.source ++ ";\n"))
        = modules.map Identifier.text := by
    induction modules with
    | nil => decide +kernel
    | cons name modules ih =>
      have hfirst : "pub mod " ++ name.source ++ ";\n"
          = "pub mod " ++ name.source ++ ";" ++ "\n" := by
        simp [String.append_assoc]
      rw [List.map_cons, String.join_cons, hfirst, declaredModules_append_newline,
        declaredModules_declaration (hchars name (by simp)),
        ih fun other hother => hchars other (by simp [hother])]
      rfl
  have hhead : fileHead = "//! Generated by dt-botdoc-generator 0.1.0\n"
      ++ "#![allow(dead_code, unused_imports, unused_variables)]" ++ "\n" := by decide +kernel
  have hnone : declaredModules ("//! Generated by dt-botdoc-generator 0.1.0\n"
      ++ "#![allow(dead_code, unused_imports, unused_variables)]") = [] := by decide +kernel
  rw [modulesSource, hhead, declaredModules_append_newline, hnone, hdeclarations, List.nil_append]

end Code

/-! ## Operations and their files -/

namespace Registry

/-- The names under which the requests of all operations are written. -/
def fileStems (r : Registry) : List String :=
  r.operations.values.map fun o => Text.snakeCase o.key

/-- Each operation has one of some modules, and the file that the module names holds the code that
is generated for the operation. -/
structure RequestsInPlace (r : Registry) (typesModule : String) (requests : Path) (t : FileTree)
    (modules : List String) : Prop where
  nodup : modules.Nodup
  mod_not_mem : "mod" ∉ modules
  found : ∃ operations, operations.Perm r.operations.values ∧
    List.Forall₂ (fun o name => ∃ file,
      Code.requestFile typesModule (r.planRequest o) = .ok file ∧
        t.readFile (requests.join (name ++ ".rs")) = .ok file.source) operations modules

private theorem fileStems_perm (r : Registry) :
    (r.planRequests.map RequestPlan.fileStem).Perm r.fileStems := by
  rw [planRequests_eq_map, List.map_map]
  exact (List.mergeSort_perm _ _).map _

end Registry

variable {r : Registry} {typesModule : String} {code : GeneratedCode} {dir : Path}
  {t t' : FileTree}

private theorem slash_not_mem_fileStem (hgenerate : generate r typesModule = .ok code)
    {request : GeneratedRequest} (hrequest : request ∈ code.requests) :
    '/' ∉ request.fileStem.toList := by
  obtain ⟨o, -, hstem⟩ := Code.exists_operation_of_mem_requests hgenerate hrequest
  rw [hstem]
  exact Text.not_mem_snakeCase (by decide) (by decide) o.key

/-- The requests are written under the names of the plans, in their order. -/
theorem map_fileStem_requests (hgenerate : generate r typesModule = .ok code) :
    code.requests.map GeneratedRequest.fileStem = r.planRequests.map RequestPlan.fileStem := by
  obtain ⟨_, files, -, hfiles, -, hrequests, -⟩ := Code.generate_eq_ok hgenerate
  have hlength : r.planRequests.length = files.length := (mapM_eq_ok_iff.mp hfiles).length_eq
  rw [hrequests, List.map_map]
  conv_rhs => rw [← List.map_fst_zip (Nat.le_of_eq hlength), List.map_map]
  rfl

/-- The file of declarations is written last, so it is there in any case. -/
theorem readFile_requestsModFile (hgenerate : generate r typesModule = .ok code)
    (hwrite : code.writeTo dir t = (t', none)) :
    t'.readFile ((dir.join requestsDir).join requestsModFile) = .ok code.requestsMod := by
  rw [readFile_writeTo_iff (fun _ => slash_not_mem_fileStem hgenerate) hwrite
    isFileName_requestsModFile]
  simp [requestFiles]

/-- A file beside the file of declarations is that of a request. -/
theorem mem_fileStems_of_readFile (hgenerate : generate r typesModule = .ok code)
    (hwrite : code.writeTo dir t = (t', none)) {name text : String} (hslash : '/' ∉ name.toList)
    (hmod : name ≠ "mod")
    (hread : t'.readFile ((dir.join requestsDir).join (name ++ ".rs")) = .ok text) :
    name ∈ r.fileStems := by
  rw [readFile_writeTo_iff (fun _ => slash_not_mem_fileStem hgenerate) hwrite
    (isFileName_append_rs hslash)] at hread
  obtain ⟨front, back, heq, -⟩ := List.lookup_eq_some_iff.mp hread
  have hmem : (name ++ ".rs", text) ∈ code.requestFiles :=
    List.mem_reverse.mp (heq ▸ by simp)
  rcases List.mem_append.mp hmem with hmem | hmem
  · obtain ⟨request, hrequest, hname⟩ := List.mem_map.mp hmem
    have hstem : request.fileStem = name :=
      (String.append_left_inj ".rs").mp (congrArg Prod.fst hname)
    refine r.fileStems_perm.mem_iff.mp ?_
    rw [← map_fileStem_requests hgenerate, ← hstem]
    exact List.mem_map_of_mem hrequest
  · have hname : name ++ ".rs" = "mod" ++ ".rs" :=
      congrArg Prod.fst (List.mem_singleton.mp hmem)
    exact absurd ((String.append_left_inj ".rs").mp hname) hmod

/-- If no two files share a name, each request is found in its file. -/
theorem readFile_of_mem_requests (hgenerate : generate r typesModule = .ok code)
    (hwrite : code.writeTo dir t = (t', none)) (hnodup : r.fileStems.Nodup)
    (hmod : "mod" ∉ r.fileStems) {request : GeneratedRequest} (hrequest : request ∈ code.requests) :
    t'.readFile ((dir.join requestsDir).join (request.fileStem ++ ".rs")) = .ok request.source := by
  have hstems : r.fileStems.Perm (code.requests.map GeneratedRequest.fileStem) :=
    map_fileStem_requests hgenerate ▸ r.fileStems_perm.symm
  have hne : request.fileStem ≠ "mod" := fun h =>
    hmod (hstems.mem_iff.mpr (h ▸ List.mem_map_of_mem hrequest))
  have hkeys : ((code.requests.map fun request =>
      (request.fileStem ++ ".rs", request.source)).map Prod.fst).Nodup := by
    rw [List.map_map]
    have hcompose : Prod.fst ∘ (fun request : GeneratedRequest =>
        (request.fileStem ++ ".rs", request.source))
          = (· ++ ".rs") ∘ GeneratedRequest.fileStem := rfl
    rw [hcompose, ← List.map_map]
    exact (hstems.nodup_iff.mp hnodup).map fun _ _ => (String.append_left_inj ".rs").mp
  rw [readFile_writeTo_iff (fun _ => slash_not_mem_fileStem hgenerate) hwrite
    (isFileName_append_rs (slash_not_mem_fileStem hgenerate hrequest)), requestFiles,
    List.reverse_append, List.lookup_append]
  have hlast : List.lookup (request.fileStem ++ ".rs") [(requestsModFile, code.requestsMod)].reverse
      = none := by
    have hname : request.fileStem ++ ".rs" ≠ requestsModFile :=
      fun h => hne ((String.append_left_inj ".rs").mp h)
    simp [List.lookup_cons, beq_eq_false_iff_ne.mpr hname]
  rw [hlast, Option.none_or, lookup_eq_some_iff_mem (by rwa [List.map_reverse, List.nodup_reverse])]
  exact List.mem_reverse.mpr (List.mem_map.mpr ⟨request, hrequest, rfl⟩)

/-- Each request is declared by the identifier of the name of its file. -/
theorem declaredModules_requestsMod (hgenerate : generate r typesModule = .ok code) :
    Code.declaredModules code.requestsMod
      = (r.planRequests.map RequestPlan.fileStem).map
        fun stem => (Code.Identifier.ofName stem).text := by
  obtain ⟨_, _, -, -, -, -, hmod⟩ := Code.generate_eq_ok hgenerate
  rw [hmod, Code.declaredModules_modulesSource, List.map_map, List.map_map]
  · rfl
  · intro name hname c hc
    obtain ⟨plan, -, rfl⟩ := List.mem_map.mp hname
    exact (Code.Identifier.isIdentifier_text_ofName plan.fileStem).isIdentifierChar_of_mem c hc

/-- If each operation is found where its declaration says, then its file has the name of an
identifier. Otherwise two operations would have one module. -/
theorem Registry.RequestsInPlace.isIdentifier (hgenerate : generate r typesModule = .ok code)
    (hwrite : code.writeTo dir t = (t', none))
    (hplace : r.RequestsInPlace typesModule (dir.join requestsDir) t'
      (Code.declaredModules code.requestsMod)) {stem : String} (hstem : stem ∈ r.fileStems) :
    Code.IsIdentifier stem := by
  have hstem' := r.fileStems_perm.mem_iff.mpr hstem
  have hidentifier := Code.Identifier.isIdentifier_text_ofName stem
  have hsame := Code.Identifier.text_ofName_text_ofName stem
  have hname : (Code.Identifier.ofName stem).text ∈ Code.declaredModules code.requestsMod := by
    rw [declaredModules_requestsMod hgenerate]
    exact List.mem_map_of_mem hstem'
  generalize htext : (Code.Identifier.ofName stem).text = name at hidentifier hsame hname
  have hslash : '/' ∉ name.toList := fun hmem =>
    absurd (hidentifier.isIdentifierChar_of_mem _ hmem) (by decide)
  have hmod : name ≠ "mod" := fun h => hplace.mod_not_mem (h ▸ hname)
  obtain ⟨text, hread⟩ :
      ∃ text, t'.readFile ((dir.join requestsDir).join (name ++ ".rs")) = .ok text := by
    obtain ⟨operations, -, hfound⟩ := hplace.found
    obtain ⟨i, hi, rfl⟩ := List.mem_iff_getElem.mp hname
    obtain ⟨file, -, hread⟩ := hfound.get (hfound.length_eq ▸ hi) hi
    exact ⟨_, hread⟩
  have hmem := mem_fileStems_of_readFile hgenerate hwrite hslash hmod hread
  -- Both names have this module, and no module is declared twice.
  have hnodup := hplace.nodup
  rw [declaredModules_requestsMod hgenerate] at hnodup
  have heq : name = stem := List.inj_on_of_nodup_map hnodup
    (r.fileStems_perm.mem_iff.mpr hmem) hstem' (hsame.trans htext.symm)
  rwa [← heq]

/-- The code of a registry declares its modules in the order of the keys of the operations. -/
theorem declaredModules_eq_map_operations (hgenerate : generate r typesModule = .ok code) :
    Code.declaredModules code.requestsMod
      = (r.operations.values.mergeSort fun a b => textLe a.key b.key).map
        fun o => (Code.Identifier.ofName (Text.snakeCase o.key)).text := by
  rw [declaredModules_requestsMod hgenerate, r.planRequests_eq_map, List.map_map, List.map_map]
  rfl

/-- Where all names are identifiers the declared modules are the names of the files. -/
theorem declaredModules_perm (hgenerate : generate r typesModule = .ok code)
    (hstems : ∀ stem ∈ r.fileStems, Code.IsIdentifier stem) :
    (Code.declaredModules code.requestsMod).Perm r.fileStems := by
  have hkept : (r.planRequests.map RequestPlan.fileStem).map
      (fun stem => (Code.Identifier.ofName stem).text)
        = r.planRequests.map RequestPlan.fileStem := by
    conv_rhs => rw [← List.map_id (r.planRequests.map RequestPlan.fileStem)]
    refine List.map_congr_left fun stem hstem => ?_
    exact Code.Identifier.text_ofName_eq_self_iff.mpr
      (hstems stem (r.fileStems_perm.mem_iff.mp hstem))
  rw [declaredModules_requestsMod hgenerate, hkept]
  exact r.fileStems_perm

/-- If the names of the requests are identifiers, all different and none that of the declaring file,
then every request is written where its declaration looks for it. -/
theorem requestsInPlace_of_isIdentifier (hgenerate : generate r typesModule = .ok code)
    (hwrite : code.writeTo dir t = (t', none)) (hnodup : r.fileStems.Nodup)
    (hmod : "mod" ∉ r.fileStems) (hstems : ∀ stem ∈ r.fileStems, Code.IsIdentifier stem) :
    r.RequestsInPlace typesModule (dir.join requestsDir) t'
      (Code.declaredModules code.requestsMod) := by
  have hperm := declaredModules_perm hgenerate hstems
  refine ⟨hperm.nodup_iff.mpr hnodup, fun h => hmod (hperm.mem_iff.mp h),
    r.operations.values.mergeSort fun a b => textLe a.key b.key, List.mergeSort_perm _ _, ?_⟩
  rw [declaredModules_eq_map_operations hgenerate, List.forall₂_map_right_iff, List.forall₂_same]
  intro o hsorted
  have ho := (List.mergeSort_perm _ _).mem_iff.mp hsorted
  obtain ⟨file, hfile, hrequest⟩ := Code.exists_requestFile_of_generate hgenerate ho
  have hkept : (Code.Identifier.ofName (Text.snakeCase o.key)).text = Text.snakeCase o.key :=
    Code.Identifier.text_ofName_eq_self_iff.mpr (hstems _ (List.mem_map_of_mem ho))
  have hread := readFile_of_mem_requests hgenerate hwrite hnodup hmod hrequest
  rw [hkept]
  exact ⟨file, hfile, hread⟩

/-- Generated code declares one module for each operation, in the order of the keys. Each operation
is found in the file that its declaration names exactly if the operations have different names in
snake case, all of them identifiers, and none of them the name of the file of declarations. -/
theorem requestsInPlace_iff (hgenerate : generate r typesModule = .ok code)
    (hwrite : code.writeTo dir t = (t', none)) :
    ∃ source, t'.readFile ((dir.join requestsDir).join requestsModFile) = .ok source ∧
      Code.declaredModules source
        = (r.operations.values.mergeSort fun a b => textLe a.key b.key).map
          (fun o => (Code.Identifier.ofName (Text.snakeCase o.key)).text) ∧
      (r.RequestsInPlace typesModule (dir.join requestsDir) t' (Code.declaredModules source) ↔
        r.fileStems.Nodup ∧ "mod" ∉ r.fileStems ∧
          ∀ stem ∈ r.fileStems, Code.IsIdentifier stem) := by
  refine ⟨code.requestsMod, readFile_requestsModFile hgenerate hwrite,
    declaredModules_eq_map_operations hgenerate, ?_, ?_⟩
  · intro hplace
    have hstems : ∀ stem ∈ r.fileStems, Code.IsIdentifier stem := fun _ =>
      hplace.isIdentifier hgenerate hwrite
    have hperm := declaredModules_perm hgenerate hstems
    exact ⟨hperm.nodup_iff.mp hplace.nodup, fun h => hplace.mod_not_mem (hperm.mem_iff.mpr h),
      hstems⟩
  · rintro ⟨hnodup, hmod, hstems⟩
    exact requestsInPlace_of_isIdentifier hgenerate hwrite hnodup hmod hstems

/-- The files after the code of a registry was written, if all went well. -/
def writtenTree (r : Registry) : Option FileTree :=
  match generate r defaultTypesModule with
  | .error _ => none
  | .ok code =>
    match code.writeTo ⟨"api"⟩ (.empty {}) with
    | (t, none) => some t
    | (_, some _) => none

private theorem writtenTree_eq_some {r : Registry} {t : FileTree} (h : writtenTree r = some t) :
    ∃ code, generate r defaultTypesModule = .ok code ∧
      code.writeTo ⟨"api"⟩ (.empty {}) = (t, none) := by
  unfold writtenTree at h
  split at h
  · cases h
  · rename_i code hgenerate
    refine ⟨code, hgenerate, ?_⟩
    split at h
    · rename_i hwrite
      rw [hwrite, Option.some.inj h]
    · cases h

/-- A registry with an operation that has a keyword for its name. -/
def keywordRegistry : Registry where
  operations := OrderedMap.ofList [("move", { key := "move" })]

/-- A keyword is an identifier, so its operation is found. -/
theorem requestsInPlace_iff_keywordRegistry :
    ∃ code t, generate keywordRegistry defaultTypesModule = .ok code ∧
      code.writeTo ⟨"api"⟩ (.empty {}) = (t, none) ∧
      t.readFile ((Path.mk "api").join requestsDir |>.join requestsModFile)
        = .ok (Code.modulesSource [⟨"move", true⟩]) ∧
      keywordRegistry.RequestsInPlace defaultTypesModule ((Path.mk "api").join requestsDir) t
        ["move"] := by
  have hsource : (writtenTree keywordRegistry).map (fun t => t.readFile ⟨"api/requests/mod.rs"⟩)
      = some (.ok (Code.modulesSource [⟨"move", true⟩])) := by
    decide +kernel
  obtain ⟨t, htree, hread⟩ := Option.map_eq_some_iff.mp hsource
  obtain ⟨code, hgenerate, hwrite⟩ := writtenTree_eq_some htree
  obtain ⟨source, hread', -, hplace⟩ := requestsInPlace_iff hgenerate hwrite
  obtain rfl := Except.ok.inj (hread'.symm.trans hread)
  have hdeclared : Code.declaredModules
      (Code.modulesSource [⟨"move", true⟩]) = ["move"] :=
    Code.declaredModules_modulesSource (by simp [Code.isIdentifierChar])
  have hstems : keywordRegistry.fileStems = ["move"] := by decide +kernel
  refine ⟨code, t, hgenerate, hwrite, hread, ?_⟩
  rw [← hdeclared, hplace, hstems]
  refine ⟨by decide, by decide, fun stem hstem => ?_⟩
  obtain rfl := List.mem_singleton.mp hstem
  exact ⟨by simp [Code.isIdentifierChar], ⟨_, rfl, by decide⟩, by decide⟩

/-- A registry with an operation whose name starts with a digit. -/
def digitRegistry : Registry where
  operations := OrderedMap.ofList [("2fa", { key := "2fa" })]

/-- The module that is declared for a name with a digit at its start has no file. -/
theorem not_requestsInPlace_digitRegistry :
    ∃ code t, generate digitRegistry defaultTypesModule = .ok code ∧
      code.writeTo ⟨"api"⟩ (.empty {}) = (t, none) ∧
      Code.declaredModules code.requestsMod = ["_2fa"] ∧
      t.readFile ⟨"api/requests/_2fa.rs"⟩ = .error .notFound ∧
      ¬ digitRegistry.RequestsInPlace defaultTypesModule ((Path.mk "api").join requestsDir) t
        (Code.declaredModules code.requestsMod) := by
  have hmissing : (writtenTree digitRegistry).map (fun t => t.readFile ⟨"api/requests/_2fa.rs"⟩)
      = some (.error .notFound) := by
    decide +kernel
  obtain ⟨t, htree, hread⟩ := Option.map_eq_some_iff.mp hmissing
  obtain ⟨code, hgenerate, hwrite⟩ := writtenTree_eq_some htree
  have hdeclared : Code.declaredModules code.requestsMod = ["_2fa"] := by
    rw [declaredModules_requestsMod hgenerate]
    decide +kernel
  refine ⟨code, t, hgenerate, hwrite, hdeclared, hread, fun hplace => ?_⟩
  have hstem : "2fa" ∈ digitRegistry.fileStems := by decide +kernel
  obtain ⟨c, hc, hdigit⟩ := (hplace.isIdentifier hgenerate hwrite hstem).isDigit_head
  cases hc
  cases hdigit

end BotBindings
