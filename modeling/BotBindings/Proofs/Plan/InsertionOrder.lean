import BotBindings.Code.Generate
import BotBindings.Proofs.Registry.SameContent

/-!
# Plans do not depend on the order of insertion

Types are planned by name, requests by key and fields by rank. So registries with the same content
have the same plans, and the same code is generated from them.
-/

namespace BotBindings

namespace Registry.SameContent

variable {r r' : Registry}

/-! ## Types -/

/-- The types that are rendered are told by their names: those that are neither abstract nor the
helper for uploads. -/
theorem renderableNames_eq_filter (r : Registry) :
    r.renderableNames
      = (r.types.keys.filter fun name => name != inputFileName && !r.isAbstract name).mergeSort
          textLe := by
  have hentry : ∀ entry ∈ r.types.entries,
      (entry.1 != inputFileName && !entry.2.isAbstract)
        = (entry.1 != inputFileName && !r.isAbstract entry.1) := by
    intro entry hmem
    have hget : r.types.get? entry.1 = some entry.2 := OrderedMap.get?_eq_some_iff.mpr hmem
    simp only [Registry.isAbstract, hget, Option.any_some]
  rw [OrderedMap.keys, List.filter_map]
  exact congrArg (fun kept => (kept.map Prod.fst).mergeSort textLe) (List.filter_congr hentry)

private theorem renderableNames_eq (h : r.SameContent r') :
    r.renderableNames = r'.renderableNames := by
  have hkeys : r.types.keys.Perm r'.types.keys := by
    refine OrderedMap.keys_perm fun name => ?_
    have hname := map_eq_of_rel (f := fun _ => ()) (g := fun _ => ()) (h.types name)
      fun _ _ _ _ _ => rfl
    simpa using congrArg Option.isSome hname
  rw [renderableNames_eq_filter, renderableNames_eq_filter, h.isAbstract_eq]
  refine mergeSort_eq_of_perm ?_ textLe_total (hkeys.filter _) ?_
  · intro a b c
    exact textLe_trans
  · intro a _ b _
    exact textLe_antisymm

private theorem planType_eq (h : r.SameContent r') {d d' : TypeDef} (hsame : d.SameContent d')
    (hkeys : d.fields.WellKeyed) : r.planType d = r'.planType d' := by
  have hfield : r.planTypeField = r'.planTypeField := by
    funext field
    rw [planTypeField, planTypeField, h.resolve_eq]
  rw [planType, planType, hsame.name, hsame.description, hsame.fields.sorted_eq hkeys, hfield]

private theorem planTypes_eq (h : r.SameContent r') (hkeys : r.WellKeyedFields) :
    r.planTypes = r'.planTypes := by
  rw [planTypes, planTypes, List.map_filterMap, List.map_filterMap, h.renderableNames_eq]
  refine List.filterMap_congr fun name _ => map_eq_of_rel (h.types name) ?_
  intro d d' hget _ hsame
  exact h.planType_eq hsame (hkeys name d hget)

/-! ## Requests -/

private theorem responseSubtypes_eq (h : r.SameContent r') :
    r.responseSubtypes = r'.responseSubtypes := by
  funext returnType
  unfold responseSubtypes
  cases returnType.bind TypeExpr.typeName? with
  | none => rfl
  | some name =>
    have hname := h.types name
    rw [Option.bind_some, Option.bind_some]
    generalize r.types.get? name = found, r'.types.get? name = found' at hname ⊢
    cases hname with
    | some hsame => exact hsame.subtypes
    | none => rfl

private theorem planParameter_eq (h : r.SameContent r') (hkeys : r.WellKeyedFields) :
    r.planParameter = r'.planParameter := by
  funext field
  rw [planParameter, planParameter, h.valueKind_eq, h.resolve_eq, h.variantGroups_eq,
    h.fileLeaves_eq hkeys]

private theorem planRequest_eq (h : r.SameContent r') (hkeys : r.WellKeyedFields) {o o' : Operation}
    (hsame : o.SameContent o') (hparameters : o.fields.WellKeyed) :
    r.planRequest o = r'.planRequest o' := by
  have hresolve? : r.resolve? = r'.resolve? := by
    funext e required
    unfold resolve?
    rw [h.resolve_eq]
  rw [planRequest, planRequest, hsame.key, hsame.description, hsame.returnType,
    hsame.fields.sorted_eq hparameters, hresolve?, h.responseSubtypes_eq, h.resolve_eq,
    h.planParameter_eq hkeys, h.encoders_eq]

private theorem planRequests_eq (h : r.SameContent r') (hkeys : r.WellKeyed) :
    r.planRequests = r'.planRequests := by
  have hperm : (r.operations.values.map r.planRequest).Perm
      (r'.operations.values.map r'.planRequest) := by
    refine OrderedMap.map_values_perm fun key => map_eq_of_rel (h.operations key) ?_
    intro o o' hget _ hsame
    exact h.planRequest_eq hkeys.fields hsame (hkeys.parameters key o hget)
  unfold planRequests
  refine mergeSort_eq_of_perm ?_ ?_ hperm ?_
  · intro a b c
    exact textLe_trans
  · intro a b
    exact textLe_total a.key b.key
  intro a ha b hb hab hba
  -- Plans with the same key are plans of the operation under that key.
  have hstored : ∀ plan ∈ r.operations.values.map r.planRequest,
      ∃ o, r.operations.get? plan.key = some o ∧ plan = r.planRequest o := by
    intro plan hplan
    obtain ⟨o, ho, rfl⟩ := List.mem_map.mp hplan
    obtain ⟨key, hget⟩ := OrderedMap.mem_values_iff.mp ho
    have hkey : (r.planRequest o).key = key := hkeys.operations key o hget
    exact ⟨o, hkey ▸ hget, rfl⟩
  obtain ⟨o, hget, rfl⟩ := hstored a ha
  obtain ⟨o', hget', rfl⟩ := hstored b hb
  have hkey : (r.planRequest o).key = (r.planRequest o').key := textLe_antisymm hab hba
  rw [hkey, hget'] at hget
  rw [Option.some.inj hget]

end Registry.SameContent

/-! ## Code -/

/-- The order in which types, operations and fields were inserted has no influence: registries with
the same content, in which fields and operations are stored under their own keys, have the same
plans in the same order, and for every types module the same code is generated from them or
generation stops with the same error. -/
theorem generate_eq_of_sameContent {r r' : Registry} (hkeys : r.WellKeyed) (h : r.SameContent r') :
    r.planTypes = r'.planTypes ∧ r.planRequests = r'.planRequests ∧
      ∀ typesModule, generate r typesModule = generate r' typesModule := by
  have htypes := h.planTypes_eq hkeys.fields
  have hrequests := h.planRequests_eq hkeys
  refine ⟨htypes, hrequests, fun typesModule => ?_⟩
  rw [generate, generate, htypes, hrequests]

/-- A chat whose fields were inserted in the given order. -/
def chatType (fields : List (String × FieldDef)) : TypeDef where
  name := "Chat"
  fields := OrderedMap.ofList fields

/-- A call that sends a file, with parameters inserted in the given order. -/
def sendFileOperation (parameters : List (String × FieldDef)) : Operation where
  key := "sendFile"
  returnType := some (.named "Chat")
  fields := OrderedMap.ofList parameters

/-- A call without parameters. -/
def closeOperation : Operation where
  key := "close"

/-- A registry with an abstract and an object type and two operations. -/
def chatRegistry : Registry where
  types := OrderedMap.ofList
    [("Peer", { name := "Peer", subtypes := ["Chat", "Peer"] }),
      ("Chat", chatType [("title", ⟨"title", .inputFile, false⟩),
        ("id", ⟨"id", .scalar .int64, true⟩)])]
  operations := OrderedMap.ofList
    [("sendFile", sendFileOperation [("to", ⟨"to", .named "Peer", true⟩),
        ("file", ⟨"file", .inputFile, true⟩)]),
      ("close", closeOperation)]

/-- The same registry with every insertion made in the opposite order. -/
def chatRegistryReversed : Registry where
  types := OrderedMap.ofList
    [("Chat", chatType [("id", ⟨"id", .scalar .int64, true⟩),
        ("title", ⟨"title", .inputFile, false⟩)]),
      ("Peer", { name := "Peer", subtypes := ["Chat", "Peer"] })]
  operations := OrderedMap.ofList
    [("close", closeOperation),
      ("sendFile", sendFileOperation [("file", ⟨"file", .inputFile, true⟩),
        ("to", ⟨"to", .named "Peer", true⟩)])]

private theorem Fields.sameContent_of_perm {fields fields' : Fields}
    (h : fields.entries.Perm fields'.entries) : fields.SameContent fields' := by
  intro key
  refine Option.ext fun field => ?_
  rw [OrderedMap.get?_eq_some_iff, OrderedMap.get?_eq_some_iff, h.mem_iff]

private theorem chatRegistry_sameContent : chatRegistry.SameContent chatRegistryReversed := by
  constructor
  · intro name
    by_cases hpeer : name = "Peer"
    · subst hpeer
      exact .some ⟨rfl, rfl, rfl, fun _ => rfl⟩
    by_cases hchat : name = "Chat"
    · subst hchat
      exact .some ⟨rfl, rfl, rfl, Fields.sameContent_of_perm (List.Perm.swap _ _ _)⟩
    · simp [chatRegistry, chatRegistryReversed, OrderedMap.ofList, OrderedMap.get?_insert, hpeer,
        hchat]
  · intro key
    by_cases hsend : key = "sendFile"
    · subst hsend
      exact .some ⟨rfl, rfl, rfl, Fields.sameContent_of_perm (List.Perm.swap _ _ _)⟩
    by_cases hclose : key = "close"
    · subst hclose
      exact .some ⟨rfl, rfl, rfl, fun _ => rfl⟩
    · simp [chatRegistry, chatRegistryReversed, OrderedMap.ofList, OrderedMap.get?_insert, hsend,
        hclose]

private theorem chatRegistry_wellKeyed : chatRegistry.WellKeyed :=
  Registry.wellKeyed_of_entries (by decide) (by decide)

/-- The two orders of insertion differ for types, operations and parameters, and the code is the
same. -/
theorem generate_eq_of_sameContent_chatRegistry :
    chatRegistry.types.keys ≠ chatRegistryReversed.types.keys ∧
      chatRegistry.WellKeyed ∧ chatRegistry.SameContent chatRegistryReversed ∧
      ∀ typesModule, generate chatRegistry typesModule
        = generate chatRegistryReversed typesModule :=
  ⟨by decide, chatRegistry_wellKeyed, chatRegistry_sameContent,
    (generate_eq_of_sameContent chatRegistry_wellKeyed chatRegistry_sameContent).2.2⟩

end BotBindings
