import BotBindings.Proofs.Phrase.WellFormed
import BotBindings.Proofs.Request.Stages
import BotBindings.Proofs.Target.Source

/-!
# Encoder, type and presence of a value

How a value is written, what type it has and how its absence is represented are decided separately:
the encoder by the kind of the value, the type by its target and the presence by the text of that
type. This file says that the three decisions fit together.
-/

namespace BotBindings

/-! ## Encoders -/

/-- The texts of the types whose values an encoder is made for. Whatever is no such value is written
as JSON. -/
def Encoder.sources : Encoder → List String
  | .text => ["String"]
  | .scalar => ["i64", "f64", "bool", "types::ChatId"]
  | .file => ["types::InputFile"]
  | .json => []

/-- Whether the encoder is the one for values of the type with this text. -/
def Encoder.Fits (encoder : Encoder) (type : String) : Prop :=
  type ∈ encoder.sources ∨ (encoder = .json ∧ ∀ other : Encoder, type ∉ other.sources)

private theorem Encoder.Fits.eq {encoder other : Encoder} {type : String} (h : encoder.Fits type)
    (hother : other.Fits type) : encoder = other := by
  have hdisjoint : ∀ a ∈ Encoder.all, ∀ b ∈ Encoder.all, ∀ type ∈ a.sources, type ∈ b.sources →
      a = b := by decide
  rcases h with h | ⟨rfl, hnone⟩
  · rcases hother with hother | ⟨-, hnone⟩
    · exact hdisjoint _ encoder.mem_all _ other.mem_all type h hother
    · exact absurd h (hnone encoder)
  · rcases hother with hother | ⟨rfl, -⟩
    · exact absurd hother (hnone other)
    · rfl

private theorem qualify_typesSpace (name : String) :
    Target.qualify (some typesSpace) name = "types::" ++ name := rfl

private theorem listSource_not_mem_sources (element : String) (encoder : Encoder) :
    listSource element ∉ encoder.sources := by
  intro hmem
  have hfirst : (listSource element).toList.head? = some 'V' := by
    simp [listSource]
  have hsources : ∀ type ∈ encoder.sources, type.toList.head? ≠ some 'V' := by
    cases encoder <;> decide
  exact hsources _ hmem hfirst

/-- An object has the text of another type's values only if it has the name of a helper type. -/
theorem qualify_not_mem_sources {name : String} (hfile : name ≠ inputFileName)
    (hchat : name ≠ chatIdName) (encoder : Encoder) :
    Target.qualify (some typesSpace) name ∉ encoder.sources := by
  intro hmem
  rw [qualify_typesSpace] at hmem
  have hsources : ∀ type ∈ encoder.sources, "types::".toList <+: type.toList →
      type = "types::" ++ inputFileName ∨ type = "types::" ++ chatIdName := by
    cases encoder <;> decide
  have hprefix : "types::".toList <+: ("types::" ++ name).toList := by simp
  have hname : ∀ other, "types::" ++ name = "types::" ++ other → name = other := by
    intro other heq
    have hchars := congrArg String.toList heq
    rw [String.toList_append, String.toList_append] at hchars
    exact String.toList_injective (List.append_cancel_left hchars)
  rcases hsources _ hmem hprefix with heq | heq
  · exact hfile (hname _ heq)
  · exact hchat (hname _ heq)

namespace Registry

variable {r : Registry} {e : TypeExpr}

/-- Where a value is not written as JSON, its type is one that the encoder is made for. -/
theorem source_mem_sources (h : (r.valueKind e).encoder ≠ .json) :
    (r.resolve e true).source (some typesSpace) ∈ (r.valueKind e).encoder.sources := by
  cases e with
  | scalar s =>
    cases s <;>
      simp [valueKind, ValueKind.encoder, Encoder.sources, resolve_true, resolveRequired,
        Target.source, Target.scalarSource]
  | inputFile =>
    change Target.qualify (some typesSpace) inputFileName ∈ Encoder.file.sources
    decide
  | chatId =>
    change Target.qualify (some typesSpace) chatIdName ∈ Encoder.scalar.sources
    decide
  | named name =>
    rw [valueKind] at h
    split at h <;> exact absurd rfl h
  | array _ | union _ => exact absurd rfl h

/-- Where a value that a phrase describes is written as JSON, no other encoder is made for its
type. -/
theorem source_not_mem_sources (hwell : e.WellFormed) (h : (r.valueKind e).encoder = .json)
    (encoder : Encoder) : (r.resolve e true).source (some typesSpace) ∉ encoder.sources := by
  have hdynamic : Target.dynamicSource ∉ encoder.sources := by
    cases encoder <;> decide
  rw [resolve_true]
  cases hwell with
  | scalar s => cases s <;> cases h
  | inputFile | chatId => cases h
  | @named name hname =>
    have htokens := hname.not_mem_tokens
    have hfile : name ≠ inputFileName := by
      rintro rfl
      exact htokens (by decide)
    have hchat : name ≠ chatIdName := by
      rintro rfl
      exact htokens (by decide)
    rw [resolveRequired]
    split
    · exact hdynamic
    · split
      · exact qualify_not_mem_sources hfile hchat encoder
      · exact hdynamic
  | array _ => exact listSource_not_mem_sources _ encoder
  | union _ _ _ _ _ => exact hdynamic

/-- The encoder of a value that a phrase describes can be read off the text of its type. -/
theorem encoder_eq_iff_fits (hwell : e.WellFormed) (encoder : Encoder) :
    (r.valueKind e).encoder = encoder ↔
      encoder.Fits ((r.resolve e true).source (some typesSpace)) := by
  have hfits : (r.valueKind e).encoder.Fits ((r.resolve e true).source (some typesSpace)) := by
    by_cases hjson : (r.valueKind e).encoder = .json
    · exact Or.inr ⟨hjson, source_not_mem_sources hwell hjson⟩
    · exact Or.inl (source_mem_sources hjson)
  constructor
  · rintro rfl
    exact hfits
  · intro h
    exact hfits.eq h

/-! ## Optional values -/

/-- Values without a single static type: those of abstract types, of types whose names do not start
with an uppercase letter, and of unions. -/
def IsDynamic (r : Registry) : TypeExpr → Prop
  | .named name => r.isAbstract name = true ∨ startsUppercase name = false
  | .union _ => True
  | .scalar _ | .array _ | .inputFile | .chatId => False

private theorem resolveRequired_eq_dynamic_iff :
    r.resolveRequired e = .dynamic ↔ r.IsDynamic e := by
  cases e with
  | named name =>
    rw [resolveRequired, IsDynamic]
    split
    · rename_i habstract
      simp [habstract]
    · rename_i hobject
      split
      · rename_i hupper
        simp [hobject, hupper]
      · rename_i hlower
        simp [hlower]
  | scalar _ | array _ | inputFile | chatId | union _ => simp [resolveRequired, IsDynamic]

private theorem resolve_false_of_isDynamic (h : r.IsDynamic e) : r.resolve e false = .dynamic := by
  rw [resolve, resolveRequired_eq_dynamic_iff.mpr h]
  rfl

/-- An optional object is boxed. -/
theorem resolve_false_named {name : String} (h : ¬ r.IsDynamic (.named name)) :
    r.resolve (.named name) false = .optional (.boxed (r.resolve (.named name) true)) := by
  have hobject : r.resolveRequired (.named name) = .object name := by
    rw [IsDynamic, not_or] at h
    rw [resolveRequired, if_neg h.1, if_pos (by simpa using h.2)]
  rw [resolve, resolve, hobject]
  rfl

private theorem resolve_false_of_not_named (h : ¬ r.IsDynamic e) (hname : ∀ name, e ≠ .named name) :
    r.resolve e false = .optional (r.resolve e true) := by
  cases e with
  | named name => exact absurd rfl (hname name)
  | union _ => exact absurd trivial h
  | scalar _ | array _ | inputFile | chatId => rfl

private theorem exists_resolve_false_eq (h : ¬ r.IsDynamic e) :
    ∃ target, r.resolve e false = .optional target := by
  by_cases hname : ∃ name, e = .named name
  · obtain ⟨name, rfl⟩ := hname
    exact ⟨_, resolve_false_named h⟩
  · exact ⟨_, resolve_false_of_not_named h (not_exists.mp hname)⟩

end Registry

/-! ## Presence -/

/-- The presence of a field as it shows in the text of its type. -/
def Presence.ofSource (required : Bool) (type : String) : Presence :=
  if required then .required
  else if "Option<".toList <+: type.toList then .optional
  else .nullable

/-- A field is dynamic or wrapped if it is not required, and its presence tells which. -/
theorem Registry.presence_resolve (r : Registry) (e : TypeExpr) (required : Bool) :
    (Presence.of required (r.resolve e required) = .required ↔ required = true) ∧
      (Presence.of required (r.resolve e required) = .optional ↔
        required = false ∧ ¬ r.IsDynamic e) ∧
      (Presence.of required (r.resolve e required) = .nullable ↔
        required = false ∧ r.IsDynamic e) := by
  cases required with
  | true => simp [Presence.of]
  | false =>
    by_cases hdynamic : r.IsDynamic e
    · simp [Presence.of, resolve_false_of_isDynamic hdynamic, hdynamic]
    · obtain ⟨target, htarget⟩ := exists_resolve_false_eq hdynamic
      simp [Presence.of, htarget, hdynamic]

private theorem Registry.presence_eq_ofSource (r : Registry) (space : Option String) (e : TypeExpr)
    (required : Bool) :
    Presence.of required (r.resolve e required)
      = Presence.ofSource required ((r.resolve e required).source space) := by
  cases required with
  | true => rfl
  | false =>
    by_cases hdynamic : r.IsDynamic e
    · rw [resolve_false_of_isDynamic hdynamic, Target.source]
      decide
    · obtain ⟨target, htarget⟩ := exists_resolve_false_eq hdynamic
      have hprefix : "Option<".toList <+: ((Target.optional target).source space).toList := by
        simp [Target.source]
      rw [htarget, Presence.ofSource, if_pos hprefix]
      rfl

/-! ## The parts together -/

/-- How the encoder, the type and the presence of the values in a registry fit together. -/
structure Registry.ValuesFit (r : Registry) : Prop where
  /-- An encoder other than that of JSON is used only for the types that it is made for. -/
  type_of_encoder : ∀ e, (r.valueKind e).encoder ≠ .json →
    (r.resolve e true).source (some typesSpace) ∈ (r.valueKind e).encoder.sources
  /-- For what phrases describe the converse holds as well, and JSON is for all remaining types. -/
  encoder_of_type : ∀ phrase encoder, (r.valueKind (TypeExpr.ofPhrase phrase)).encoder = encoder ↔
    encoder.Fits ((r.resolve (TypeExpr.ofPhrase phrase) true).source (some typesSpace))
  /-- The levels of an array are the levels of a list. -/
  arrays : ∀ space depth e, (r.resolve (TypeExpr.array^[depth] e) true).source space
    = listSource^[depth] ((r.resolve e true).source space)
  /-- A dynamic value that may be absent is not wrapped: it has the type of any JSON value. -/
  optional_dynamic : ∀ space e, r.IsDynamic e →
    (r.resolve e false).source space = "serde_json::Value"
  /-- An object that may be absent is boxed and wrapped. -/
  optional_object : ∀ space name, ¬ r.IsDynamic (.named name) →
    (r.resolve (.named name) false).source space
      = "Option<Box<" ++ (r.resolve (.named name) true).source space ++ ">>"
  /-- Any other value that may be absent is wrapped. -/
  optional_other : ∀ space e, ¬ r.IsDynamic e → (∀ name, e ≠ .named name) →
    (r.resolve e false).source space = "Option<" ++ (r.resolve e true).source space ++ ">"
  /-- A value that is always there is wrapped on no level. -/
  required_plain : ∀ space e, OptionOnlyInName space (r.resolve e true).writtenName?
    ((r.resolve e true).source space)
  /-- The presence that shows in the text of the type is the one that the type was made for. -/
  presence : ∀ space e required,
    Presence.ofSource required ((r.resolve e required).source space)
        = Presence.of required (r.resolve e required) ∧
      (Presence.of required (r.resolve e required) = .required ↔ required = true) ∧
      (Presence.of required (r.resolve e required) = .optional ↔
        required = false ∧ ¬ r.IsDynamic e) ∧
      (Presence.of required (r.resolve e required) = .nullable ↔
        required = false ∧ r.IsDynamic e)
  /-- The field of a parameter that is no union has the type of its target. It is written by the
  encoder for its kind, under the guard for the presence that it is declared with. -/
  parameter : ∀ item requestName field code, field.type.isUnion = false →
    Code.parameter item requestName (r.planParameter field) = .ok code →
    Code.TypeForm.parse ((r.resolve field.type field.required).source (some typesSpace))
        = .ok code.field.type ∧
      code.field.presence = Presence.of field.required (r.resolve field.type field.required) ∧
      code.write.presence = code.field.presence ∧
      code.write.encoding = .value ⟨(r.valueKind field.type).encoder, field.key⟩

/-- The encoder, the type and the presence of every value of every registry fit together. -/
theorem Registry.valuesFit (r : Registry) : r.ValuesFit where
  type_of_encoder e := Registry.source_mem_sources
  encoder_of_type phrase := Registry.encoder_eq_iff_fits (Phrase.wellFormed_read phrase.toList)
  arrays := r.source_resolve_arrays
  optional_dynamic space e hdynamic := by
    rw [Registry.resolve_false_of_isDynamic hdynamic]
    rfl
  optional_object space name hobject := by
    rw [Registry.resolve_false_named hobject]
    generalize (r.resolve (.named name) true) = target
    have hclose : ∀ text : String, "Option<" ++ ("Box<" ++ text ++ ">") ++ ">"
        = "Option<Box<" ++ text ++ ">>" := by
      intro text
      refine String.toList_injective ?_
      simp
    exact hclose (target.source space)
  optional_other space e hdynamic hname := by
    rw [Registry.resolve_false_of_not_named hdynamic hname]
    rfl
  required_plain := r.optionOnlyInName_resolve
  presence space e required :=
    ⟨(r.presence_eq_ofSource space e required).symm, r.presence_resolve e required⟩
  parameter item requestName field code hunion hcode := by
    have hplain := Code.parameter_eq_ok hcode
    have htype : (r.planParameter field).type.isUnion = false := hunion
    rw [htype] at hplain
    obtain ⟨type, hparse, rfl⟩ := Code.plainParameter_eq_ok hplain
    exact ⟨hparse, rfl, rfl, rfl⟩

/-- A registry with an abstract type and its subtype. -/
def peerRegistry : Registry where
  types := OrderedMap.ofList
    [("Peer", { name := "Peer", subtypes := ["Chat"] }), ("Chat", { name := "Chat" })]

/-- An optional parameter that is a list of chats. -/
def chatsField : FieldDef := ⟨"chats", .array (.named "Chat"), false⟩

private theorem exists_parameter_chatsField : ∃ code,
    Code.parameter "invite" "Invite" (peerRegistry.planParameter chatsField) = .ok code :=
  exists_eq_ok_of_isSome (by decide +kernel)

/-- The abstract type is dynamic, its subtype is an object, and a list of chats is written as JSON
unless it is absent. -/
theorem Registry.valuesFit_peerRegistry :
    (peerRegistry.resolve (.named "Peer") false).source none = "serde_json::Value" ∧
      (peerRegistry.resolve (.named "Chat") false).source (some typesSpace)
        = "Option<Box<types::Chat>>" ∧
      (peerRegistry.resolve chatsField.type false).source (some typesSpace)
        = "Option<Vec<types::Chat>>" ∧
      Encoder.scalar.Fits ((peerRegistry.resolve (TypeExpr.ofPhrase "Integer") true).source
        (some typesSpace)) ∧
      ∃ code, Code.parameter "invite" "Invite" (peerRegistry.planParameter chatsField) = .ok code ∧
        code.write.presence = .optional ∧ code.write.encoding = .value ⟨.json, "chats"⟩ := by
  have hfit := Registry.valuesFit peerRegistry
  have hobject : ¬ peerRegistry.IsDynamic (.named "Chat") := by
    rw [Registry.IsDynamic]
    decide +kernel
  refine ⟨hfit.optional_dynamic none _ (Or.inl rfl), hfit.optional_object _ _ hobject,
    ?_, ?_, ?_⟩
  · exact hfit.optional_other (some typesSpace) chatsField.type id nofun
  · exact (hfit.encoder_of_type "Integer" .scalar).mp (by decide +kernel)
  · obtain ⟨code, hcode⟩ := exists_parameter_chatsField
    obtain ⟨-, hpresence, hwrite, hencoding⟩ := hfit.parameter _ _ chatsField code rfl hcode
    refine ⟨code, hcode, ?_, hencoding⟩
    rw [hwrite, hpresence]
    exact (hfit.presence none chatsField.type false).2.2.1.mpr ⟨rfl, id⟩

end BotBindings
