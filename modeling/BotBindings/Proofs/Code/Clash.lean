import BotBindings.Proofs.Code.Continuation
import BotBindings.Proofs.Code.Names
import BotBindings.Proofs.Registry.SameContent

/-!
# Definitions with one name

Different names of a reference can lead to one identifier of generated code: casing and the
replacement of characters both forget something, the helpers have names of their own, and the enums
of a request are named by joining names. This file says exactly which references lead to two
definitions with one name in one place.
-/

namespace BotBindings

namespace Code

/-! ## Definitions that clash -/

/-- No two different names among these have one identifier. -/
def IdentifiersApart (names : List String) : Prop :=
  ∀ name ∈ names, ∀ other ∈ names,
    (Identifier.ofName name).text = (Identifier.ofName other).text → name = other

private theorem nodup_text_ofName_iff {names : List String} (hnodup : names.Nodup) :
    (names.map fun name => (Identifier.ofName name).text).Nodup ↔ IdentifiersApart names :=
  List.nodup_map_iff_inj_on hnodup

private theorem identifiersApart_singleton (name : String) : IdentifiersApart [name] := by
  intro first hfirst other hother _
  rw [List.mem_singleton.mp hfirst, List.mem_singleton.mp hother]

/-- Only characters outside ASCII make the variants of an enum clash: letters and digits are kept,
so numbering tells the names apart. -/
theorem identifiersApart_numberedNames {names : List String}
    (h : ∀ name ∈ names, ∀ c ∈ name.toList, c.isAlphanum = true) :
    IdentifiersApart (numberedNames [] names) := by
  have hchars : ∀ candidate ∈ numberedNames [] names,
      ∀ c ∈ candidate.toList, c.isAlphanum = true := by
    intro candidate hcandidate c hc
    rcases isDigit_or_mem_of_mem_numberedNames hcandidate hc with ⟨name, hname, hmem⟩ | hdigit
    · exact h name hname c hmem
    · simp [Char.isAlphanum, hdigit]
  exact fun name hname other hother =>
    Identifier.eq_of_text_ofName_eq (hchars name hname) (hchars other hother)

/-- The names that the helpers define. -/
def helperNames : List String :=
  helpers.filterMap Helper.name

private theorem helperNames_eq :
    helperNames = ["ChatId", "InputFile", "RequestParams", "MediaField", "Request"] :=
  rfl

/-- No two definitions in the file of a request have one name, and neither have two fields of its
struct or two variants of one of its enums. -/
structure RequestFile.ClashFree (file : RequestFile) : Prop where
  definitions : (file.item.name.text :: file.enums.map fun enum => enum.name.text).Nodup
  fields : (file.item.fields.map fun field => field.name.text).Nodup
  variants : ∀ enum ∈ file.enums, (enum.variants.map fun variant => variant.name.text).Nodup

/-- No two definitions in one of the files have one name, where the file of types has the helpers as
well, and neither have two fields or variants of one definition. -/
structure ClashFree (items : List StructItem) (files : List RequestFile) : Prop where
  types : (helperNames ++ items.map fun item => item.name.text).Nodup
  fields : ∀ item ∈ items, (item.fields.map fun field => field.name.text).Nodup
  requests : ∀ file ∈ files, file.ClashFree

end Code

/-! ## References that lead to clashes -/

/-- The keys have different snake cases, and these have different identifiers. -/
structure Fields.NamesApart (fields : Fields) : Prop where
  keys : ∀ key ∈ fields.keys, ∀ other ∈ fields.keys,
    Text.snakeCase key = Text.snakeCase other → key = other
  names : Code.IdentifiersApart (fields.keys.map Text.snakeCase)

/-- An enum that the file of a request is to define. -/
structure WantedEnum where
  /-- What the name of the enum adds to that of the request. -/
  suffix : String
  /-- The names of the variants, before those that are taken get numbers. -/
  variants : List String
  deriving DecidableEq, Repr

namespace Registry

/-- The enum of a parameter, if it is a union. -/
def parameterEnum? (r : Registry) (field : FieldDef) : Option WantedEnum :=
  if field.type.isUnion then
    some ⟨Text.pascalCase (Text.snakeCase field.key),
      (r.variantGroups field.type).flatten.map fun variant => Code.variantName variant.type⟩
  else none

/-- The enum of a response, if its type is abstract. -/
def responseEnum? (r : Registry) (o : Operation) : Option WantedEnum :=
  if (r.responseSubtypes o.returnType).isEmpty then none
  else some ⟨"Response", (r.responseSubtypes o.returnType).map fun name =>
    Text.pascalCase (Code.shortName ((r.resolve (.named name) true).source (some typesSpace)))⟩

/-- The enums of a request. -/
def wantedEnums (r : Registry) (o : Operation) : List WantedEnum :=
  o.fields.sorted.filterMap r.parameterEnum? ++ (r.responseEnum? o).toList

/-- The names that go into the file of a request stay apart. -/
structure RequestNamesApart (r : Registry) (o : Operation) : Prop where
  parameters : o.fields.NamesApart
  /-- The enums are named differently from each other and from the request, which adds nothing. -/
  enums : ("" :: (r.wantedEnums o).map fun enum => Code.spelling enum.suffix).Nodup
  /-- The name that cannot be escaped is followed by an underscore instead. -/
  unescaped : Text.pascalCase o.key = "Self" →
    "_" ∉ (r.wantedEnums o).map fun enum => Code.spelling enum.suffix
  variants : ∀ enum ∈ r.wantedEnums o,
    Code.IdentifiersApart (Code.numberedNames [] enum.variants)

/-- The names that go into the generated files stay apart. -/
structure NamesApart (r : Registry) : Prop where
  helpers : ∀ name ∈ r.renderableNames, name ∉ Code.helperNames
  types : Code.IdentifiersApart r.renderableNames
  fields : ∀ name ∈ r.renderableNames, ∀ d, r.types.get? name = some d → d.fields.NamesApart
  requests : ∀ o ∈ r.operations.values, r.RequestNamesApart o

end Registry

/-! ## What each file is called -/

/-- If every field is stored under its own key, then the names of the sorted fields are all
different exactly if the keys stay apart. -/
theorem Fields.nodup_names_iff {fields : Fields} (hkeys : fields.WellKeyed) :
    (fields.sorted.map fun field =>
        (Code.Identifier.ofName (Text.snakeCase field.key)).text).Nodup ↔ fields.NamesApart := by
  have hperm : (fields.sorted.map fun field =>
      (Code.Identifier.ofName (Text.snakeCase field.key)).text).Perm
        (fields.keys.map fun key => (Code.Identifier.ofName (Text.snakeCase key)).text) := by
    rw [← hkeys.map_key_values, List.map_map]
    exact (List.mergeSort_perm _ _).map _
  have hnodup : fields.keys.Nodup := fields.nodup_keys
  rw [hperm.nodup_iff, List.nodup_map_iff_inj_on hnodup]
  constructor
  · intro hinj
    refine ⟨fun key hkey other hother h => hinj key hkey other hother (by rw [h]), ?_⟩
    intro name hname other hother h
    obtain ⟨key, hkey, rfl⟩ := List.mem_map.mp hname
    obtain ⟨otherKey, hotherKey, rfl⟩ := List.mem_map.mp hother
    rw [hinj key hkey otherKey hotherKey h]
  · intro hapart key hkey other hother h
    exact hapart.keys key hkey other hother
      (hapart.names _ (List.mem_map_of_mem hkey) _ (List.mem_map_of_mem hother) h)

namespace Registry

variable {r : Registry} {o : Operation}

private theorem capitalised_response : Code.Capitalised "Response" := by
  have hfirst : "Response".toList.head? = some 'R' := by decide
  intro c hc
  obtain rfl := Option.some.inj (hfirst.symm.trans hc)
  decide

private theorem capitalised_suffix {enum : WantedEnum} (h : enum ∈ r.wantedEnums o) :
    Code.Capitalised enum.suffix := by
  rcases List.mem_append.mp h with h | h
  · obtain ⟨field, -, henum⟩ := List.mem_filterMap.mp h
    unfold parameterEnum? at henum
    split at henum
    · rw [← Option.some.inj henum]
      exact Code.capitalised_pascalCase _
    · cases henum
  · rw [Option.mem_toList] at h
    unfold responseEnum? at h
    split at h
    · cases h
    · rw [← Option.some.inj h]
      exact capitalised_response

/-- The names of the enum of a parameter, as its plan has them. -/
theorem enumNames?_planParameter (r : Registry) (field : FieldDef) (requestName : String) :
    (r.planParameter field).enumNames? requestName
      = (r.parameterEnum? field).map fun enum =>
        Code.enumNames (requestName ++ enum.suffix) enum.variants := by
  unfold ParameterPlan.enumNames? parameterEnum?
  change (if field.type.isUnion then _ else _) = _
  split <;> rfl

/-- The names of the enum of a response, as the plan of the request has them. -/
theorem responseNames?_planRequest (r : Registry) (o : Operation) :
    (r.planRequest o).responseNames?
      = (r.responseEnum? o).map fun enum =>
        Code.enumNames (Text.pascalCase o.key ++ enum.suffix) enum.variants := by
  have hvariants : (r.planRequest o).responseVariants
      = (r.responseSubtypes o.returnType).map fun name => r.resolve (.named name) true := rfl
  unfold RequestPlan.responseNames? responseEnum?
  rw [hvariants, List.isEmpty_map, List.map_map]
  split <;> rfl

/-- The names of the enums of a request, as its plan has them. -/
theorem map_enumNames_wantedEnums (r : Registry) (o : Operation) :
    (r.planRequest o).fields.filterMap (fun plan => plan.enumNames? (r.planRequest o).name)
        ++ (r.planRequest o).responseNames?.toList
      = (r.wantedEnums o).map fun enum =>
        Code.enumNames (Text.pascalCase o.key ++ enum.suffix) enum.variants := by
  have hfields : (r.planRequest o).fields = o.fields.sorted.map r.planParameter := rfl
  have hname : (r.planRequest o).name = Text.pascalCase o.key := rfl
  rw [wantedEnums, List.map_append, List.map_filterMap, responseNames?_planRequest, hfields, hname,
    List.filterMap_map, Option.toList_map]
  simp only [Function.comp_def, enumNames?_planParameter]

/-- No type is rendered twice. -/
theorem nodup_renderableNames (r : Registry) : r.renderableNames.Nodup := by
  refine (List.mergeSort_perm _ _).nodup_iff.mpr ?_
  exact r.types.nodup_keys.sublist (List.filter_sublist.map _)

/-- A registry is decided to have its types under their names by going through its entries. -/
theorem name_eq_of_entries {r : Registry} (h : ∀ entry ∈ r.types.entries, entry.2.name = entry.1)
    (name : String) (d : TypeDef) (hget : r.types.get? name = some d) : d.name = name :=
  h _ (OrderedMap.get?_eq_some_iff.mp hget)

private theorem exists_get?_of_mem_renderableNames {r : Registry} {name : String}
    (h : name ∈ r.renderableNames) : ∃ d, r.types.get? name = some d := by
  obtain ⟨entry, hentry, rfl⟩ := List.mem_map.mp (List.mem_mergeSort.mp h)
  exact ⟨entry.2, OrderedMap.get?_eq_some_iff.mpr (List.mem_of_mem_filter hentry)⟩

/-- The plans of the types have the names under which the types are stored. -/
theorem map_name_planTypes {r : Registry}
    (hnames : ∀ name d, r.types.get? name = some d → d.name = name) :
    r.planTypes.map TypePlan.name = r.renderableNames := by
  have hfound : ∀ name ∈ r.renderableNames,
      (r.types.get? name).map (fun d => (r.planType d).name) = some name := by
    intro name hname
    obtain ⟨d, hd⟩ := exists_get?_of_mem_renderableNames hname
    rw [hd]
    exact congrArg some (hnames name d hd)
  rw [planTypes, List.map_map, List.map_filterMap]
  exact (List.filterMap_congr hfound).trans List.filterMap_some

end Registry

/-! ## Files without clashes -/

namespace Code

/-- The file of a request is free of clashes exactly if the names that go into it stay apart. -/
theorem requestFile_clashFree_iff {r : Registry} {o : Operation} {typesModule : String}
    {file : RequestFile} (hkeys : o.fields.WellKeyed)
    (h : requestFile typesModule (r.planRequest o) = .ok file) :
    file.ClashFree ↔ r.RequestNamesApart o := by
  obtain ⟨hname, hne, hfields, henums⟩ := requestFile_names h
  rw [r.map_enumNames_wantedEnums o] at henums
  change file.item.name = Identifier.ofName (Text.pascalCase o.key) at hname
  change Text.pascalCase o.key ≠ "" at hne
  have hdefinitions : (file.item.name.text :: file.enums.map fun enum => enum.name.text).Nodup ↔
      ("" :: (r.wantedEnums o).map fun enum => spelling enum.suffix).Nodup ∧
        (Text.pascalCase o.key = "Self" →
          "_" ∉ (r.wantedEnums o).map fun enum => spelling enum.suffix) := by
    have hnames : (file.enums.map fun enum => enum.name.text)
        = ((r.wantedEnums o).map WantedEnum.suffix).map fun suffix =>
          (Identifier.ofName (Text.pascalCase o.key ++ suffix)).text := by
      have hfirst := congrArg (List.map fun names => names.1.text) henums
      rw [List.map_map, List.map_map] at hfirst
      rw [List.map_map]
      exact hfirst
    have hsuffixes : ∀ suffix ∈ (r.wantedEnums o).map WantedEnum.suffix, Capitalised suffix := by
      intro suffix hsuffix
      obtain ⟨enum, henum, rfl⟩ := List.mem_map.mp hsuffix
      exact Registry.capitalised_suffix henum
    rw [hname, hnames, nodup_text_ofName_append_iff hne (capitalised_pascalCase o.key) hsuffixes,
      List.map_map]
    rfl
  have hparameters : (file.item.fields.map fun field => field.name.text).Nodup ↔
      o.fields.NamesApart := by
    have hplans : (r.planRequest o).fields = o.fields.sorted.map r.planParameter := rfl
    have htexts := congrArg (List.map Identifier.text) hfields
    rw [List.map_map, List.map_map, hplans, List.map_map] at htexts
    rw [← Fields.nodup_names_iff hkeys]
    exact iff_of_eq (congrArg List.Nodup htexts)
  have hvariants : (∀ enum ∈ file.enums,
      (enum.variants.map fun variant => variant.name.text).Nodup) ↔
        ∀ enum ∈ r.wantedEnums o, IdentifiersApart (numberedNames [] enum.variants) := by
    have hnames : (∀ enum ∈ file.enums, (enum.names.2.map Identifier.text).Nodup) ↔
        ∀ names ∈ file.enums.map EnumItem.names, (names.2.map Identifier.text).Nodup := by
      rw [List.forall_mem_map]
    have hvariants : ∀ enum : EnumItem, (enum.variants.map fun variant => variant.name.text)
        = enum.names.2.map Identifier.text := fun _ => List.map_map.symm
    simp only [hvariants]
    rw [hnames, henums, List.forall_mem_map]
    refine forall₂_congr fun enum _ => ?_
    rw [← nodup_text_ofName_iff (nodup_numberedNames [] enum.variants), enumNames, List.map_map]
    rfl
  constructor
  · intro hfree
    obtain ⟨henums, hself⟩ := hdefinitions.mp hfree.definitions
    exact ⟨hparameters.mp hfree.fields, henums, hself, hvariants.mp hfree.variants⟩
  · intro hapart
    exact ⟨hdefinitions.mpr ⟨hapart.enums, hapart.unescaped⟩, hparameters.mpr hapart.parameters,
      hvariants.mpr hapart.variants⟩

/-- Only the name of a helper itself has the identifier of a helper. -/
theorem text_ofName_eq_iff {helper name : String} (h : helper ∈ helperNames) :
    (Identifier.ofName name).text = helper ↔ name = helper := by
  have hkept : ∀ helper ∈ helperNames, '_' ∉ helper.toList ∧
      (Identifier.ofName helper).text = helper := by
    rw [helperNames_eq]
    decide
  obtain ⟨hunderscore, htext⟩ := hkept helper h
  constructor
  · intro heq
    exact Identifier.eq_of_text_ofName heq hunderscore
  · rintro rfl
    exact htext

/-- The types and the helpers have different names exactly if no type is called like a helper and
no two types have one identifier. -/
theorem nodup_typeNames_iff {r : Registry} {items : List StructItem}
    (hnames : ∀ name d, r.types.get? name = some d → d.name = name)
    (hitems : r.planTypes.mapM typeItem = .ok items) :
    (helperNames ++ items.map fun item => item.name.text).Nodup ↔
      (∀ name ∈ r.renderableNames, name ∉ helperNames) ∧ IdentifiersApart r.renderableNames := by
  have htexts : (items.map fun item => item.name.text)
      = r.renderableNames.map fun name => (Identifier.ofName name).text := by
    rw [← Registry.map_name_planTypes hnames, List.map_map]
    exact map_eq_of_mapM hitems fun _ _ hitem => congrArg Identifier.text (typeItem_names hitem).1
  have hnodup : helperNames.Nodup := by
    rw [helperNames_eq]
    decide
  rw [htexts, List.nodup_append, nodup_text_ofName_iff r.nodup_renderableNames]
  constructor
  · rintro ⟨-, hapart, hdisjoint⟩
    refine ⟨fun name hname hmem => ?_, hapart⟩
    exact hdisjoint name hmem _ (List.mem_map_of_mem hname) ((text_ofName_eq_iff hmem).mpr rfl).symm
  · rintro ⟨hhelpers, hapart⟩
    refine ⟨hnodup, hapart, ?_⟩
    rintro helper hmem text htext rfl
    obtain ⟨name, hname, heq⟩ := List.mem_map.mp htext
    exact hhelpers name hname ((text_ofName_eq_iff hmem).mp heq ▸ hmem)

/-- The structs of the types have different field names each exactly if the keys of each type lead
to different names. -/
theorem forall_nodup_fieldNames_iff {r : Registry} {items : List StructItem}
    (hkeys : r.WellKeyedFields) (hitems : r.planTypes.mapM typeItem = .ok items) :
    (∀ item ∈ items, (item.fields.map fun field => field.name.text).Nodup) ↔
      ∀ name ∈ r.renderableNames, ∀ d, r.types.get? name = some d → d.fields.NamesApart := by
  have hplans : (∀ item ∈ items, (item.fields.map fun field => field.name.text).Nodup) ↔
      ∀ plan ∈ r.planTypes, (plan.fields.map fun field =>
        (Identifier.ofName field.name).text).Nodup := by
    refine forall_mem_iff_of_mapM hitems fun plan _ item hitem => ?_
    have htexts := congrArg (List.map Identifier.text) (typeItem_names hitem).2
    rw [List.map_map, List.map_map] at htexts
    exact iff_of_eq (congrArg List.Nodup htexts)
  rw [hplans, Registry.planTypes, List.forall_mem_map]
  have hfields : ∀ d : TypeDef, ((r.planType d).fields.map fun field =>
      (Identifier.ofName field.name).text)
        = d.fields.sorted.map fun field => (Identifier.ofName (Text.snakeCase field.key)).text :=
    fun _ => List.map_map
  constructor
  · intro h name hname d hd
    have hmem : d ∈ r.renderableNames.filterMap r.types.get? :=
      List.mem_filterMap.mpr ⟨name, hname, hd⟩
    exact (Fields.nodup_names_iff (hkeys name d hd)).mp (hfields d ▸ h d hmem)
  · intro h d hmem
    obtain ⟨name, hname, hd⟩ := List.mem_filterMap.mp hmem
    rw [hfields]
    exact (Fields.nodup_names_iff (hkeys name d hd)).mpr (h name hname d hd)

end Code

/-- Generated code is printed from structs and from files of requests. No two definitions of these
clash exactly if the names of the reference stay apart: no type is called like a helper; types,
fields and variants have different identifiers; and the enums of a request are spelled differently
from each other and from the request. -/
theorem clashFree_iff_namesApart {r : Registry} {typesModule : String} {code : GeneratedCode}
    (hkeys : r.WellKeyed) (hnames : ∀ name d, r.types.get? name = some d → d.name = name)
    (hgenerate : generate r typesModule = .ok code) :
    ∃ items files, r.planTypes.mapM Code.typeItem = .ok items ∧
      r.planRequests.mapM (Code.requestFile typesModule) = .ok files ∧
      code.types = Code.TypesFile.source ⟨items⟩ ∧
      code.requests.map GeneratedRequest.source = files.map Code.RequestFile.source ∧
      (Code.ClashFree items files ↔ r.NamesApart) := by
  obtain ⟨items, files, hitems, hfiles, htypes, hrequests, -⟩ := Code.generate_eq_ok hgenerate
  have hsources : code.requests.map GeneratedRequest.source
      = files.map Code.RequestFile.source := by
    have hlength : r.planRequests.length = files.length := (mapM_eq_ok_iff.mp hfiles).length_eq
    rw [hrequests, List.map_map]
    conv_rhs => rw [← List.map_snd_zip (Nat.le_of_eq hlength.symm), List.map_map]
    rfl
  have hrequestFiles : (∀ file ∈ files, file.ClashFree) ↔
      ∀ o ∈ r.operations.values, r.RequestNamesApart o := by
    have hoperations := hfiles
    rw [r.planRequests_eq_map, List.mapM_map] at hoperations
    have hsorted := forall_mem_iff_of_mapM hoperations fun o ho file hfile => by
      obtain ⟨key, hget⟩ := OrderedMap.mem_values_iff.mp (List.mem_mergeSort.mp ho)
      exact Code.requestFile_clashFree_iff (hkeys.parameters key o hget) hfile
    simpa only [List.mem_mergeSort] using hsorted
  refine ⟨items, files, hitems, hfiles, htypes, hsources, ?_, ?_⟩
  · intro hfree
    obtain ⟨hhelpers, hapart⟩ := (Code.nodup_typeNames_iff hnames hitems).mp hfree.types
    exact ⟨hhelpers, hapart, (Code.forall_nodup_fieldNames_iff hkeys.fields hitems).mp hfree.fields,
      hrequestFiles.mp hfree.requests⟩
  · intro hapart
    exact ⟨(Code.nodup_typeNames_iff hnames hitems).mpr ⟨hapart.helpers, hapart.types⟩,
      (Code.forall_nodup_fieldNames_iff hkeys.fields hitems).mpr hapart.fields,
      hrequestFiles.mpr hapart.requests⟩

/-- A parameter that takes a number or a chat. -/
def peerField : FieldDef where
  key := "peer"
  type := .union [.scalar .int64, .named "Chat"]
  required := true

/-- An operation that takes a union and returns an abstract type. -/
def getPeerOperation : Operation where
  key := "getPeer"
  returnType := some (.named "Peer")
  fields := OrderedMap.ofList [("peer", peerField)]

/-- An object type with one field. -/
def chatObject : TypeDef where
  name := "Chat"
  fields := OrderedMap.ofList [("id", ⟨"id", .scalar .int64, true⟩)]

/-- A registry with that operation and its types. -/
def answerRegistry : Registry where
  types := OrderedMap.ofList
    [("Peer", { name := "Peer", subtypes := ["Chat"] }), ("Chat", chatObject)]
  operations := OrderedMap.ofList [("getPeer", getPeerOperation)]

private theorem exists_generate_answerRegistry :
    ∃ code, generate answerRegistry defaultTypesModule = .ok code := by
  refine exists_eq_ok_of_isSome ?_
  rw [generate, answerRegistry.planRequests_eq_of_fileLeaves_eq_nil (by decide)]
  decide +kernel

private theorem wantedEnums_getPeerOperation :
    answerRegistry.wantedEnums getPeerOperation
      = [⟨"Peer", ["Integer", "Chat"]⟩, ⟨"Response", ["Chat"]⟩] := by
  decide +kernel

private theorem renderableNames_answerRegistry : answerRegistry.renderableNames = ["Chat"] := by
  decide +kernel

private theorem Fields.namesApart_singleton {fields : Fields} {key : String}
    (h : fields.keys = [key]) :
    fields.NamesApart := by
  constructor
  · rw [h]
    intro name hname other hother _
    rw [List.mem_singleton.mp hname, List.mem_singleton.mp hother]
  · rw [h]
    exact Code.identifiersApart_singleton (Text.snakeCase key)

private theorem namesApart_answerRegistry : answerRegistry.NamesApart where
  helpers := by
    rw [renderableNames_answerRegistry]
    decide
  types := by
    rw [renderableNames_answerRegistry]
    exact Code.identifiersApart_singleton "Chat"
  fields := by
    rw [renderableNames_answerRegistry]
    intro name hname d hd
    obtain rfl := List.mem_singleton.mp hname
    obtain rfl := Option.some.inj hd
    exact Fields.namesApart_singleton rfl
  requests := by
    intro o ho
    obtain rfl := List.mem_singleton.mp ho
    refine ⟨Fields.namesApart_singleton rfl, ?_, fun hself => ?_, fun enum henum => ?_⟩
    · rw [wantedEnums_getPeerOperation]
      decide
    · have hname : Text.pascalCase getPeerOperation.key = "GetPeer" := by decide +kernel
      exact absurd (hname.symm.trans hself) (by decide)
    · have hascii : ∀ enum ∈ answerRegistry.wantedEnums getPeerOperation,
          ∀ name ∈ enum.variants, ∀ c ∈ name.toList, c.isAlphanum = true := by
        rw [wantedEnums_getPeerOperation]
        simp
      exact Code.identifiersApart_numberedNames (hascii enum henum)

private theorem answerRegistry_wellKeyed : answerRegistry.WellKeyed :=
  Registry.wellKeyed_of_entries (by decide) (by decide)

/-- The enum of the parameter, that of the response and the request itself have different names. -/
theorem clashFree_iff_namesApart_answerRegistry :
    ∃ code items files, generate answerRegistry defaultTypesModule = .ok code ∧
      answerRegistry.planTypes.mapM Code.typeItem = .ok items ∧
      answerRegistry.planRequests.mapM (Code.requestFile defaultTypesModule) = .ok files ∧
      Code.ClashFree items files := by
  obtain ⟨code, hgenerate⟩ := exists_generate_answerRegistry
  obtain ⟨items, files, hitems, hfiles, -, -, hfree⟩ :=
    clashFree_iff_namesApart answerRegistry_wellKeyed (Registry.name_eq_of_entries (by decide))
      hgenerate
  exact ⟨code, items, files, hgenerate, hitems, hfiles, hfree.mpr namesApart_answerRegistry⟩

/-- A registry with a type that is called like a helper. -/
def chatIdRegistry : Registry where
  types := OrderedMap.ofList [("ChatId", { name := "ChatId" })]

private theorem exists_generate_chatIdRegistry :
    ∃ code, generate chatIdRegistry defaultTypesModule = .ok code :=
  exists_eq_ok_of_isSome (by decide +kernel)

private theorem chatIdRegistry_wellKeyed : chatIdRegistry.WellKeyed :=
  Registry.wellKeyed_of_entries (by decide) (by decide)

/-- The type and the helper are both defined in the file of types. -/
theorem not_clashFree_chatIdRegistry :
    chatIdRegistry.WellKeyed ∧
      (∀ name d, chatIdRegistry.types.get? name = some d → d.name = name) ∧
      ∃ code items files, generate chatIdRegistry defaultTypesModule = .ok code ∧
        chatIdRegistry.planTypes.mapM Code.typeItem = .ok items ∧
        chatIdRegistry.planRequests.mapM (Code.requestFile defaultTypesModule) = .ok files ∧
        code.types = Code.TypesFile.source ⟨items⟩ ∧
        (items.map fun item => item.name.text) = ["ChatId"] ∧ "ChatId" ∈ Code.helperNames ∧
        ¬ Code.ClashFree items files := by
  obtain ⟨code, hgenerate⟩ := exists_generate_chatIdRegistry
  obtain ⟨items, files, hitems, hfiles, htypes, -, -⟩ := Code.generate_eq_ok hgenerate
  have hplans : chatIdRegistry.planTypes.map (fun plan =>
      (Code.Identifier.ofName plan.name).text) = ["ChatId"] := by decide +kernel
  have htexts : (items.map fun item => item.name.text) = ["ChatId"] :=
    (map_eq_of_mapM hitems fun _ _ hitem =>
      congrArg Code.Identifier.text (Code.typeItem_names hitem).1).trans hplans
  have hhelper : "ChatId" ∈ Code.helperNames := by
    rw [Code.helperNames_eq]
    exact List.mem_cons_self
  refine ⟨chatIdRegistry_wellKeyed, Registry.name_eq_of_entries (by decide), code, items, files,
    hgenerate, hitems, hfiles, htypes, htexts, hhelper, fun hfree => ?_⟩
  have hnodup := hfree.types
  rw [htexts, List.nodup_append] at hnodup
  exact hnodup.2.2 "ChatId" hhelper "ChatId" List.mem_cons_self rfl

end BotBindings
