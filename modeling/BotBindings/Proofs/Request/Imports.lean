import BotBindings.Proofs.Request.Stages
import BotBindings.Proofs.Request.Variants

/-!
# Imported and called encoders

A request imports the encoders that its parameters need, one for each alternative of their types. It
calls those that the arms of its statements name, after chat identifiers have been spelled out and
structured alternatives have been put together. This file compares the two: they are the same
encoders but for one case, a chat identifier among the alternatives of a union.
-/

namespace BotBindings

/-! ## The encoders of variants -/

private theorem TypeExpr.WellFormed.two_le_length_alternatives {e : TypeExpr} (h : e.WellFormed)
    (hunion : e.isUnion = true) : 2 ≤ e.alternatives.length := by
  cases h with
  | union hlength => exact hlength
  | _ => cases hunion

namespace Registry

/-- The variants of a type with two alternatives or more are all in one of the groups. -/
theorem mem_flatten_variantGroups {r : Registry} {e : TypeExpr}
    (h : 2 ≤ e.alternatives.length) {v : Variant} :
    v ∈ (r.variantGroups e).flatten ↔ ∃ a ∈ e.variantTypes, r.variant a = v := by
  have hle := e.spelledOut_variantTypes.length_le
  rw [(perm_flatten_variantGroups (Nat.le_trans h hle)).mem_iff, List.mem_map]

/-- The encoders of the variants of a union are those of its alternatives, and that of texts where
one of them is a chat identifier. -/
theorem exists_variant_encoder_iff {r : Registry} {e : TypeExpr}
    (h : 2 ≤ e.alternatives.length) {encoder : Encoder} :
    (∃ v ∈ (r.variantGroups e).flatten, v.kind.encoder = encoder) ↔
      encoder ∈ r.encoders e ∨ (encoder = .text ∧ .chatId ∈ e.alternatives) := by
  have hvariants : (∃ v ∈ (r.variantGroups e).flatten, v.kind.encoder = encoder) ↔
      ∃ a ∈ e.variantTypes, (r.valueKind a).encoder = encoder := by
    simp only [mem_flatten_variantGroups h]
    constructor
    · rintro ⟨_, ⟨a, ha, rfl⟩, hencoder⟩
      exact ⟨a, ha, hencoder⟩
    · rintro ⟨a, ha, hencoder⟩
      exact ⟨_, ⟨a, ha, rfl⟩, hencoder⟩
  rw [hvariants, encoders, List.mem_map]
  simp only [(e.spelledOut_variantTypes).mem_iff]
  constructor
  · rintro ⟨a, ⟨ha, -⟩ | ⟨hchat, rfl | rfl⟩, hencoder⟩
    · exact Or.inl ⟨a, ha, hencoder⟩
    · exact Or.inl ⟨.chatId, hchat, hencoder⟩
    · exact Or.inr ⟨hencoder.symm, hchat⟩
  · rintro (⟨a, ha, hencoder⟩ | ⟨rfl, hchat⟩)
    · by_cases hself : a = .chatId
      · subst hself
        exact ⟨.scalar .int64, Or.inr ⟨ha, Or.inl rfl⟩, hencoder⟩
      · exact ⟨a, Or.inl ⟨ha, hself⟩, hencoder⟩
    · exact ⟨.scalar .string, Or.inr ⟨hchat, Or.inr rfl⟩, rfl⟩

end Registry

namespace Code

/-! ## The encoders of statements -/

/-- The encoders that an encoding of a value calls. -/
def Encoding.encoders (encoding : Encoding) : List Encoder :=
  encoding.calls.map EncoderCall.encoder

/-- The encoders that the statements of a request call. -/
def RequestFile.calledEncoders (f : RequestFile) : List Encoder :=
  f.writes.flatMap fun w => w.encoding.encoders

/-- The arms of a union call the encoders of its variants, whether a variant has an arm of its own
or not. -/
theorem mem_encoders_unionArms {enumName : Identifier} {key : String}
    {variants : List (Variant × EnumVariant)} {encoder : Encoder} :
    encoder ∈ (Encoding.cases (unionArms enumName key variants)).encoders ↔
      ∃ v ∈ variants.map Prod.fst, v.kind.encoder = encoder := by
  have hother : (∃ v ∈ variants, isWrittenAlone v.1.kind = false) ↔
      ¬ ∀ v ∈ variants, isWrittenAlone v.1.kind = true := by
    simp
  have hencoders : (Encoding.cases (unionArms enumName key variants)).encoders
      = ((variants.filter fun v => isWrittenAlone v.1.kind).map fun v => v.1.kind.encoder)
        ++ if ∀ v ∈ variants, isWrittenAlone v.1.kind = true then [] else [Encoder.json] := by
    simp only [Encoding.encoders, Encoding.calls, unionArms_eq, List.map_append, List.map_map]
    congr 1
    split <;> rfl
  rw [hencoders, List.mem_append]
  constructor
  · rintro (h | h)
    · obtain ⟨v, hv, hencoder⟩ := List.mem_map.mp h
      exact ⟨v.1, List.mem_map_of_mem (List.mem_of_mem_filter hv), hencoder⟩
    · split at h
      · cases h
      · obtain ⟨v, hv, hwhole⟩ := hother.mpr ‹_›
        refine ⟨v.1, List.mem_map_of_mem hv, ?_⟩
        rw [List.mem_singleton.mp h]
        exact encoder_of_not_writtenAlone hwhole
  · rintro ⟨_, hmem, rfl⟩
    obtain ⟨v, hv, rfl⟩ := List.mem_map.mp hmem
    cases halone : isWrittenAlone v.1.kind with
    | true => exact Or.inl (List.mem_map.mpr ⟨v, List.mem_filter.mpr ⟨hv, halone⟩, rfl⟩)
    | false =>
      rw [if_neg (hother.mp ⟨v, hv, halone⟩), encoder_of_not_writtenAlone halone]
      exact Or.inr (List.mem_singleton_self _)

/-- A parameter calls the encoders that its type needs, and that of texts if its type is a union
with a chat identifier. -/
theorem mem_encoders_parameter {r : Registry} {item requestName : String} {field : FieldDef}
    {code : ParameterCode} (htype : field.type.WellFormed)
    (h : parameter item requestName (r.planParameter field) = .ok code) {encoder : Encoder} :
    encoder ∈ code.write.encoding.encoders ↔
      encoder ∈ r.encoders field.type ∨
        (encoder = .text ∧ field.type.isUnion = true ∧ .chatId ∈ field.type.alternatives) := by
  have hcode := parameter_eq_ok h
  cases hunion : field.type.isUnion with
  | true =>
    rw [if_pos (show (r.planParameter field).type.isUnion = true from hunion)] at hcode
    obtain ⟨enum, type, henum, rfl⟩ := unionParameter_eq_ok hcode
    have htwo := htype.two_le_length_alternatives hunion
    rw [mem_encoders_unionArms, List.map_fst_zip (length_variants_enumItem henum).ge]
    simp only [true_and]
    exact Registry.exists_variant_encoder_iff htwo
  | false =>
    rw [if_neg (by simp [Registry.planParameter, hunion])] at hcode
    obtain ⟨type, -, rfl⟩ := plainParameter_eq_ok hcode
    have hsingle := TypeExpr.alternatives_of_isUnion hunion
    simp [Encoding.encoders, Encoding.calls, Registry.encoders, hsingle, Registry.planParameter]

/-! ## Requests -/

/-- Whether a chat identifier is one of several alternatives of a type. Only such an alternative is
spelled out as two variants with different encoders. -/
def HasChatAlternative (e : TypeExpr) : Prop :=
  e.isUnion = true ∧ .chatId ∈ e.alternatives

/-- The encoders that a request imports are those that the types of its parameters need. -/
theorem mem_encoders_planRequest {r : Registry} {o : Operation} {encoder : Encoder} :
    encoder ∈ (r.planRequest o).encoders ↔
      ∃ field ∈ o.fields.values, encoder ∈ r.encoders field.type := by
  simp [Registry.planRequest, Fields.sorted]

/-- A request calls the encoders that it imports and, where a parameter may be a chat identifier,
that of texts. -/
theorem mem_calledEncoders_iff {r : Registry} {typesModule : String} {o : Operation}
    {file : RequestFile} (htypes : ∀ field ∈ o.fields.values, field.type.WellFormed)
    (h : requestFile typesModule (r.planRequest o) = .ok file) {encoder : Encoder} :
    encoder ∈ file.calledEncoders ↔
      encoder ∈ file.imports ∨
        (encoder = .text ∧ ∃ field ∈ o.fields.values, HasChatAlternative field.type) := by
  obtain ⟨-, parameters, response, hmade⟩ := requestFile_eq_ok h
  have hparameters := hmade.parameters_eq
  have hfields : (r.planRequest o).fields = o.fields.sorted.map r.planParameter := rfl
  rw [hfields, List.mapM_map] at hparameters
  have hcalled : encoder ∈ file.calledEncoders ↔ ∃ field ∈ o.fields.sorted,
      encoder ∈ r.encoders field.type ∨ (encoder = .text ∧ HasChatAlternative field.type) := by
    rw [RequestFile.calledEncoders, hmade.writes_eq, List.flatMap_map]
    refine mem_flatMap_of_mapM hparameters fun field hfield code hcode => ?_
    exact mem_encoders_parameter (htypes field (List.mem_mergeSort.mp hfield)) hcode
  have hsorted : ∀ field, field ∈ o.fields.sorted ↔ field ∈ o.fields.values :=
    fun field => List.mem_mergeSort
  rw [hcalled, hmade.imports_eq, mem_encoders_planRequest]
  simp only [hsorted, and_or_left, exists_or]
  refine or_congr Iff.rfl ?_
  constructor
  · rintro ⟨field, hfield, htext, hchat⟩
    exact ⟨htext, field, hfield, hchat⟩
  · rintro ⟨htext, field, hfield, hchat⟩
    exact ⟨field, hfield, htext, hchat⟩

private theorem importText_eq_empty_iff {encoders : List Encoder} :
    importText encoders = "" ↔ encoders = [] := by
  rcases encoders with _ | ⟨first, _ | ⟨second, others⟩⟩ <;> simp [importText]

/-- Where code is generated, the request of an operation calls the encoders that it imports, each of
them at least once. It calls another encoder only if a chat identifier is one of several
alternatives of a parameter: then it calls that of texts, whether it is imported or not. The import
is left out exactly if nothing is called. -/
theorem calledEncoders_iff_imports_or_chatId {r : Registry} {typesModule : String}
    {generated : GeneratedCode} {o : Operation}
    (htypes : ∀ field ∈ o.fields.values, ∃ phrase, field.type = TypeExpr.ofPhrase phrase)
    (hgenerate : generate r typesModule = .ok generated) (ho : o ∈ r.operations.values) :
    ∃ file, requestFile typesModule (r.planRequest o) = .ok file ∧
      ⟨(r.planRequest o).fileStem, file.source⟩ ∈ generated.requests ∧
      (∀ encoder, encoder ∈ file.calledEncoders ↔
        encoder ∈ file.imports ∨
          (encoder = .text ∧ ∃ field ∈ o.fields.values, HasChatAlternative field.type)) ∧
      (importText file.imports = "" ↔ file.calledEncoders = []) := by
  obtain ⟨file, hfile, hmem⟩ := exists_requestFile_of_generate hgenerate ho
  have hwell : ∀ field ∈ o.fields.values, field.type.WellFormed := by
    intro field hfield
    obtain ⟨phrase, hphrase⟩ := htypes field hfield
    rw [hphrase]
    exact Phrase.wellFormed_read phrase.toList
  have hcalled : ∀ encoder, encoder ∈ file.calledEncoders ↔ _ :=
    fun encoder => mem_calledEncoders_iff hwell hfile
  refine ⟨file, hfile, hmem, hcalled, ?_⟩
  rw [importText_eq_empty_iff]
  constructor
  · intro himports
    refine List.eq_nil_iff_forall_not_mem.mpr fun encoder hencoder => ?_
    rcases (hcalled encoder).mp hencoder with hmem | ⟨-, field, hfield, -, hchat⟩
    · simp [himports] at hmem
    · -- A chat identifier needs the encoder of scalars too, so something is imported.
      have hscalar : Encoder.scalar ∈ (r.planRequest o).encoders :=
        mem_encoders_planRequest.mpr ⟨field, hfield, List.mem_map.mpr ⟨_, hchat, rfl⟩⟩
      obtain ⟨-, parameters, response, hmade⟩ := requestFile_eq_ok hfile
      rw [← hmade.imports_eq, himports] at hscalar
      cases hscalar
  · intro hnone
    refine List.eq_nil_iff_forall_not_mem.mpr fun encoder hencoder => ?_
    have := (hcalled encoder).mpr (Or.inl hencoder)
    simp [hnone] at this

/-! ## A chat identifier among other alternatives -/

/-- A parameter that takes a chat identifier or a message. -/
def receiverField : FieldDef where
  key := "receiver"
  type := TypeExpr.ofPhrase "ChatId or Message"
  required := true

/-- An operation with that parameter only. -/
def forwardOperation : Operation where
  key := "forwardThing"
  fields := OrderedMap.ofList [("receiver", receiverField)]

/-- A registry with that operation only. -/
def forwardRegistry : Registry where
  operations := OrderedMap.ofList [("forwardThing", forwardOperation)]

private theorem exists_requestFile_forwardOperation :
    ∃ file, requestFile defaultTypesModule (forwardRegistry.planRequest forwardOperation)
        = .ok file ∧
      (file.imports, file.calledEncoders) = ([.scalar, .json], [.scalar, .text, .json]) := by
  refine exists_eq_ok_of_map ?_
  rw [forwardRegistry.planRequest_eq_of_fileLeaves_eq_nil (by decide)]
  decide +kernel

private theorem exists_generate_forwardRegistry :
    ∃ generated, generate forwardRegistry defaultTypesModule = .ok generated := by
  refine exists_eq_ok_of_isSome ?_
  rw [generate, forwardRegistry.planRequests_eq_of_fileLeaves_eq_nil (by decide)]
  decide +kernel

/-- The request for the operation calls the encoder of texts, and so it imports some encoder. -/
theorem calledEncoders_iff_imports_or_chatId_forwardOperation :
    ∃ (generated : GeneratedCode) (file : RequestFile),
      generate forwardRegistry defaultTypesModule = .ok generated ∧
      ⟨"forward_thing", file.source⟩ ∈ generated.requests ∧
      Encoder.text ∈ file.calledEncoders ∧ importText file.imports ≠ "" := by
  obtain ⟨generated, hgenerate⟩ := exists_generate_forwardRegistry
  have htypes : ∀ field ∈ forwardOperation.fields.values,
      ∃ phrase, field.type = TypeExpr.ofPhrase phrase := by
    intro field hfield
    rw [List.mem_singleton.mp hfield]
    exact ⟨"ChatId or Message", rfl⟩
  obtain ⟨file, -, hmem, hcalled, himport⟩ :=
    calledEncoders_iff_imports_or_chatId htypes hgenerate (List.mem_singleton_self _)
  have htext : Encoder.text ∈ file.calledEncoders :=
    (hcalled .text).mpr (Or.inr ⟨rfl, receiverField, List.mem_singleton_self _,
      by decide +kernel, by decide +kernel⟩)
  have hstem : (forwardRegistry.planRequest forwardOperation).fileStem = "forward_thing" := by
    decide +kernel
  refine ⟨generated, file, hgenerate, hstem ▸ hmem, htext, fun hnone => ?_⟩
  rw [himport.mp hnone] at htext
  cases htext

/-- The encoder of texts is not among the imports: they are not always the encoders called. -/
theorem exists_calledEncoder_not_imported :
    ∃ generated file, generate forwardRegistry defaultTypesModule = .ok generated ∧
      requestFile defaultTypesModule (forwardRegistry.planRequest forwardOperation) = .ok file ∧
      Encoder.text ∈ file.calledEncoders ∧ Encoder.text ∉ file.imports := by
  obtain ⟨generated, hgenerate⟩ := exists_generate_forwardRegistry
  obtain ⟨file, hfile, hencoders⟩ := exists_requestFile_forwardOperation
  obtain ⟨himports, hcalled⟩ := Prod.mk.inj hencoders
  exact ⟨generated, file, hgenerate, hfile, by rw [hcalled]; decide, by rw [himports]; decide⟩

end Code

end BotBindings
