import BotBindings.Proofs.Code.Clash
import BotBindings.Proofs.Code.Literal

/-!
# The names under which values are sent

A value of a request is sent in one of two ways: the struct of the request is serialised as a whole,
or its fields are written one by one. Both have to use the names of the interface, which are not
those of the generated code. What name a struct gives to a field is read here from its printed
attributes and its printed identifier, as a deriving macro does, and the names in calls are read
from the literals that are printed.
-/

namespace BotBindings

open Code Code.Doc

namespace Code

/-! ## The name of a field -/

/-- The literal that an argument of an attribute assigns to a name. -/
def assigned? (name argument : String) : Option String :=
  (argument.toList.dropPrefix? (name ++ " = ").toList).map String.ofList

/-- A written identifier without the mark of an escape. -/
def withoutEscape (source : String) : String :=
  ((source.toList.dropPrefix? "r#".toList).map String.ofList).getD source

/-- The name that a field has when its struct is serialised: the one that its attributes give it, or
else its identifier. -/
def StructField.serialisedName? (f : StructField) : Option String :=
  match f.attributes.flatten.findSome? (assigned? "rename") with
  | some literal => Literal.value? literal
  | none => some (withoutEscape f.name.source)

private theorem assigned?_append (name literal : String) :
    assigned? name (name ++ " = " ++ literal) = some literal := by
  rw [assigned?, String.toList_append, List.dropPrefix?_append_of_beq _ (beq_self_eq_true _),
    Option.map_some, String.ofList_toList]

/-- The only argument that assigns a name is the one for a field that is renamed. -/
theorem findSome?_attributes (f : StructField) :
    f.attributes.flatten.findSome? (assigned? "rename") = f.rename?.map Text.literal := by
  have hliteral : ∀ key, assigned? "rename" ("rename = " ++ Text.literal key)
      = some (Text.literal key) := fun key => assigned?_append "rename" (Text.literal key)
  have habsent : ∀ argument ∈ ["skip_serializing_if = \"Option::is_none\"", "default",
      "skip_serializing_if = \"serde_json::Value::is_null\""],
      assigned? "rename" argument = none := by
    decide
  simp only [List.mem_cons, List.not_mem_nil, or_false, forall_eq_or_imp, forall_eq] at habsent
  obtain ⟨hnone, hdefault, hnull⟩ := habsent
  unfold StructField.attributes
  cases f.rename? with
  | some key => simp [hliteral key]
  | none => cases f.presence <;> simp [hnone, hdefault, hnull]

/-- A written identifier without the mark of its escape is its text. -/
theorem withoutEscape_source {i : Identifier} (h : '#' ∉ i.text.toList) :
    withoutEscape i.source = i.text := by
  rw [withoutEscape, Identifier.source]
  split
  · rw [String.toList_append, List.dropPrefix?_append_of_beq _ (beq_self_eq_true _)]
    simp
  · cases hdrop : i.text.toList.dropPrefix? "r#".toList with
    | none => rfl
    | some rest =>
      obtain ⟨mark, heq, hmark⟩ := List.dropPrefix?_eq_some_iff.mp hdrop
      refine absurd ?_ h
      rw [heq, beq_iff_eq.mp hmark]
      simp

/-- Whatever its key, a field is serialised under it. -/
theorem StructField.serialisedName?_eq {f : StructField} (h : '#' ∉ f.name.text.toList) :
    f.serialisedName? = some f.key := by
  rw [serialisedName?, findSome?_attributes, rename?]
  by_cases hsame : f.name.serialName = f.key
  · rw [if_pos hsame]
    exact congrArg some ((withoutEscape_source h).trans hsame)
  · rw [if_neg hsame]
    exact Literal.value?_literal f.key

/-! ## The writing of a field -/

/-- A statement under a condition does not end in a semicolon. -/
theorem guardDoc_ne_statementDoc (condition : Doc) (statement expression : List Doc) :
    guardDoc condition statement ≠ statementDoc expression := by
  intro h
  simp only [guardDoc, statementDoc, List.cons.injEq, Doc.box.injEq, and_true, true_and] at h
  have hlast := congrArg List.getLast? h
  simp [block] at hlast

/-- The call for a field stands without a condition exactly if a value is always there. -/
theorem WriteStatement.doc_eq_statementDoc_iff (w : WriteStatement) :
    w.doc = statementDoc (w.encoding.doc (fieldReference w.field)) ↔ w.presence = .required := by
  rw [doc]
  cases w.presence with
  | required => simp
  | optional => simp [guardDoc_ne_statementDoc]
  | nullable => simp [guardDoc_ne_statementDoc]

/-- The code of a parameter uses the parameter's own key on both ways. -/
structure ParameterCode.UsesKeyOf (code : ParameterCode) (parameter : FieldDef) : Prop where
  /-- The statement writes the field. -/
  field_eq : code.write.field = code.field.name
  presence_eq : code.write.presence = code.field.presence
  serialisedName?_eq : code.field.serialisedName? = some parameter.key
  keys_eq : ∀ call ∈ code.write.encoding.calls,
    Literal.value? (Text.literal call.key) = some parameter.key
  /-- The statement stands without a condition exactly if a value must be given. -/
  unguarded_iff : code.write.doc
    = statementDoc (code.write.encoding.doc (fieldReference code.write.field))
      ↔ parameter.required = true

private theorem key_of_mem_calls_unionArms {enumName : Identifier} {key : String}
    {variants : List (Variant × EnumVariant)} {call : EncoderCall}
    (hcall : call ∈ (Encoding.cases (unionArms enumName key variants)).calls) : call.key = key := by
  rw [Encoding.calls, unionArms_eq, List.map_append, List.map_map] at hcall
  rcases List.mem_append.mp hcall with hcall | hcall
  · obtain ⟨v, -, rfl⟩ := List.mem_map.mp hcall
    rfl
  · split at hcall
    · cases hcall
    · rw [List.map_singleton, List.mem_singleton] at hcall
      rw [hcall]

private theorem Presence.of_eq_required_iff {required : Bool} {target : Target} :
    Presence.of required target = .required ↔ required = true := by
  unfold Presence.of
  cases required <;> cases target <;> simp

/-- The field that is made for a name is serialised under its key. -/
theorem serialisedName?_ofName (key name : String) (presence : Presence) (type : TypeForm) :
    (StructField.mk key (Identifier.ofName name) presence type).serialisedName? = some key :=
  StructField.serialisedName?_eq (Identifier.hash_not_mem_text_ofName name)

/-- The code of a planned parameter uses the key of the parameter. -/
theorem usesKeyOf_of_parameter {r : Registry} {item requestName : String} {field : FieldDef}
    {code : ParameterCode}
    (h : parameter item requestName (r.planParameter field) = .ok code) :
    code.UsesKeyOf field := by
  have hcode := parameter_eq_ok h
  split at hcode
  · obtain ⟨enum, type, -, rfl⟩ := unionParameter_eq_ok hcode
    refine ⟨rfl, rfl, serialisedName?_ofName _ _ _ _, fun call hcall => ?_, ?_⟩
    · rw [key_of_mem_calls_unionArms hcall]
      exact Literal.value?_literal field.key
    · rw [WriteStatement.doc_eq_statementDoc_iff]
      change (if field.required then Presence.required else .optional) = .required ↔ _
      cases field.required <;> simp
  · obtain ⟨type, -, rfl⟩ := plainParameter_eq_ok hcode
    refine ⟨rfl, rfl, serialisedName?_ofName _ _ _ _, fun call hcall => ?_, ?_⟩
    · rw [List.mem_singleton.mp hcall]
      exact Literal.value?_literal field.key
    · rw [WriteStatement.doc_eq_statementDoc_iff]
      exact Presence.of_eq_required_iff

/-! ## Whole registries -/

/-- The fields of the struct of a type are serialised under their keys. -/
theorem serialisedName?_typeItem {r : Registry} {d : TypeDef} {item : StructItem}
    (h : typeItem (r.planType d) = .ok item) : List.Forall₂ (fun (field : FieldDef) code =>
      code.serialisedName? = some field.key) d.fields.sorted item.fields := by
  refine forall₂_of_mapM_map (typeItem_eq_ok h).2 fun field code hcode => ?_
  obtain ⟨type, -, rfl⟩ := typeField_eq_ok hcode
  exact serialisedName?_ofName _ _ _ _

end Code

/-- Generated code sends every value under the name that it has in the interface. Each parameter of
an operation has one field in the struct of its request and one statement that writes it, in the
order of the parameters; both use its key, whatever characters it has, and the statement depends on
a condition unless the parameter is required. The fields of all other structs use their keys too. -/
theorem generate_uses_keys {r : Registry} {typesModule : String} {generated : GeneratedCode}
    (h : generate r typesModule = .ok generated) :
    (∀ o ∈ r.operations.values, ∃ file parameters,
      requestFile typesModule (r.planRequest o) = .ok file ∧
      ⟨(r.planRequest o).fileStem, file.source⟩ ∈ generated.requests ∧
      file.item.fields = parameters.map ParameterCode.field ∧
      file.writes = parameters.map ParameterCode.write ∧
      List.Forall₂ (fun parameter code => code.UsesKeyOf parameter) o.fields.sorted parameters) ∧
    (∀ o ∈ r.operations.values, o.fields.sorted.Perm o.fields.values ∧
      o.fields.sorted.Pairwise fun a b => (a.required = true ∧ b.required = false) ∨
        (a.required = b.required ∧ a.key ≤ b.key)) ∧
    ∃ items, generated.types = TypesFile.source ⟨items⟩ ∧
      List.Forall₂ (fun d item => List.Forall₂ (fun (field : FieldDef) (code : StructField) =>
          code.serialisedName? = some field.key) d.fields.sorted item.fields)
        (r.renderableNames.filterMap r.types.get?) items := by
  refine ⟨fun o ho => ?_, fun o _ => ⟨o.fields.sorted_perm, o.fields.pairwise_sorted⟩, ?_⟩
  · obtain ⟨file, hfile, hmem⟩ := exists_requestFile_of_generate h ho
    obtain ⟨-, parameters, response, hmade⟩ := requestFile_eq_ok hfile
    exact ⟨file, parameters, hfile, hmem, hmade.fields_eq, hmade.writes_eq,
      forall₂_of_mapM_map hmade.parameters_eq fun _ _ => usesKeyOf_of_parameter⟩
  · obtain ⟨items, -, hitems, -, htypes, -⟩ := generate_eq_ok h
    exact ⟨items, htypes, forall₂_of_mapM_map hitems fun _ _ => serialisedName?_typeItem⟩

/-! ## Keys that are no identifiers -/

/-- A parameter whose key starts with a digit and has a hyphen, and that takes a union. -/
def codeField : FieldDef where
  key := "2fa-Code"
  type := .union [.scalar .int64, .scalar .string]
  required := true

/-- A parameter whose key is a keyword. -/
def typeField : FieldDef where
  key := "type"
  type := .scalar .string
  required := false

/-- An operation with both parameters, inserted against their order. -/
def signIn : Operation where
  key := "signIn"
  fields := .ofList [("type", typeField), ("2fa-Code", codeField)]

/-- A registry with that operation and a type whose field has an uppercase letter in its key. -/
def signInRegistry : Registry where
  types := .ofList
    [("Chat", { name := "Chat", fields := .ofList [("chatId", ⟨"chatId", .chatId, true⟩)] })]
  operations := .ofList [("signIn", signIn)]

private theorem sorted_signIn : signIn.fields.sorted = [codeField, typeField] :=
  mergeSort_pair (by decide)

private theorem exists_generate_signInRegistry :
    ∃ generated, generate signInRegistry defaultTypesModule = .ok generated := by
  have hplans : signInRegistry.planRequests = [signInRegistry.planRequest signIn] :=
    List.mergeSort_singleton _
  refine exists_eq_ok_of_isSome ?_
  rw [generate, hplans, Registry.planRequest_eq_of_fileLeaves_eq_nil (by decide),
    Registry.planRequest, sorted_signIn]
  decide +kernel

/-- Both fields are serialised under their keys, and only the first is written without a
condition. -/
theorem generate_uses_keys_signInRegistry :
    ∃ (generated : GeneratedCode) (file : RequestFile) (first second : WriteStatement),
      generate signInRegistry defaultTypesModule = .ok generated ∧
      ⟨"sign_in", file.source⟩ ∈ generated.requests ∧
      file.item.fields.map StructField.serialisedName? = [some "2fa-Code", some "type"] ∧
      file.writes = [first, second] ∧
      first.doc = statementDoc (first.encoding.doc (fieldReference first.field)) ∧
      second.doc ≠ statementDoc (second.encoding.doc (fieldReference second.field)) := by
  obtain ⟨generated, hgenerate⟩ := exists_generate_signInRegistry
  obtain ⟨hoperations, -, -⟩ := generate_uses_keys hgenerate
  obtain ⟨file, parameters, -, hmem, hfields, hwrites, hkeys⟩ :=
    hoperations signIn (List.mem_singleton_self signIn)
  rw [sorted_signIn] at hkeys
  obtain ⟨code, rest, hcode, hrest, rfl⟩ := List.forall₂_cons_left_iff.mp hkeys
  obtain ⟨type, rest, htype, hnil, rfl⟩ := List.forall₂_cons_left_iff.mp hrest
  obtain rfl := List.forall₂_nil_left_iff.mp hnil
  have hstem : (signInRegistry.planRequest signIn).fileStem = "sign_in" := by decide +kernel
  refine ⟨generated, file, code.write, type.write, hgenerate, hstem ▸ hmem, ?_, hwrites,
    hcode.unguarded_iff.mpr rfl, fun hbare => ?_⟩
  · rw [hfields]
    simp [hcode.serialisedName?_eq, htype.serialisedName?_eq, codeField, typeField]
  · cases htype.unguarded_iff.mp hbare

end BotBindings
