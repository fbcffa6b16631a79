import BotBindings.Proofs.Code.Identifier
import BotBindings.Proofs.Code.Names
import BotBindings.Proofs.Request.Variants

/-!
# Writing a union

A union-typed parameter has an enum with one variant for each of its alternatives, and it is written
by a match. Texts, scalars and uploads have arms of their own; whatever else there is falls through
to a last arm. This file says which arm a value of a variant selects and proves that this is always
one that writes values of its kind, and that no arm is there in vain.
-/

namespace BotBindings

namespace Code

/-! ## Matching -/

/-- Whether an arm matches the values of a variant. -/
def Arm.accepts (enumName name : Identifier) : Arm → Bool
  | .variant own matched _ => own = enumName ∧ matched = name
  | .other _ => true

/-- The call by which an arm writes a value. -/
def Arm.call : Arm → EncoderCall
  | .variant _ _ call => call
  | .other call => call

/-- The arm that values of a variant are written by: the first one that matches. -/
def selectedArm (arms : List Arm) (enumName name : Identifier) : Option Arm :=
  arms.find? (Arm.accepts enumName name)

/-- The encoder for what a variant holds, if its kind has an arm of its own. -/
def ownEncoder? : ValueKind → Option Encoder
  | .text => some .text
  | .scalar => some .scalar
  | .inputFile => some .file
  | .chatId | .object | .array | .dynamic => none

/-- The arms write the variants of an enum by their kinds. -/
structure WritesVariants (enumName : Identifier) (key : String)
    (variants : List (Variant × EnumVariant)) (arms : List Arm) : Prop where
  /-- The variants with an encoder of their own have arms in order. The last arm is for the others,
  if there are any. -/
  eq_append : arms = (variants.filterMap fun v => (ownEncoder? v.1.kind).map fun encoder =>
      .variant enumName v.2.name ⟨encoder, key⟩)
    ++ if ∀ v ∈ variants, ownEncoder? v.1.kind ≠ none then [] else [.other ⟨.json, key⟩]
  /-- Every variant is covered, by a call for its kind. -/
  call_selected : ∀ v ∈ variants,
    (selectedArm arms enumName v.2.name).map Arm.call = some ⟨v.1.kind.encoder, key⟩
  /-- Every arm is reached. -/
  reached : ∀ arm ∈ arms, ∃ v ∈ variants, selectedArm arms enumName v.2.name = some arm

section

variable {enumName : Identifier} {key : String} {variants : List (Variant × EnumVariant)}

private theorem isWrittenAlone_eq_isSome {kind : ValueKind} (h : kind ≠ .chatId) :
    isWrittenAlone kind = (ownEncoder? kind).isSome := by
  cases kind <;> first | rfl | exact absurd rfl h

private theorem encoder_of_ownEncoder? {kind : ValueKind} {encoder : Encoder}
    (h : ownEncoder? kind = some encoder) : kind.encoder = encoder := by
  cases kind <;> first | exact Option.some.inj h | cases h

/-- Where chat identifiers are spelled out, the arms are those for the encoders of the kinds. -/
theorem unionArms_eq_append (hkinds : ∀ v ∈ variants, v.1.kind ≠ .chatId) :
    unionArms enumName key variants
      = (variants.filterMap fun v => (ownEncoder? v.1.kind).map fun encoder =>
          .variant enumName v.2.name ⟨encoder, key⟩)
        ++ if ∀ v ∈ variants, ownEncoder? v.1.kind ≠ none then [] else [.other ⟨.json, key⟩] := by
  have halone : ∀ v ∈ variants, isWrittenAlone v.1.kind = (ownEncoder? v.1.kind).isSome :=
    fun v hv => isWrittenAlone_eq_isSome (hkinds v hv)
  rw [unionArms_eq]
  congr 1
  · rw [← List.filterMap_eq_map, List.filterMap_filter]
    refine List.filterMap_congr fun v hv => ?_
    rw [halone v hv]
    cases hown : ownEncoder? v.1.kind with
    | none => rfl
    | some encoder => rw [Option.isSome_some, if_pos rfl, Function.comp_apply, ownArm,
        encoder_of_ownEncoder? hown, Option.map_some]
  · refine if_congr (forall₂_congr fun v hv => ?_) rfl rfl
    rw [halone v hv, Option.isSome_iff_ne_none]

/-- Among the variants, those with an arm of their own can be told from all others by their
names. -/
def OwnNamesApart (variants : List (Variant × EnumVariant)) : Prop :=
  ∀ v ∈ variants, isWrittenAlone v.1.kind = true → ∀ other ∈ variants,
    other.2.name = v.2.name → other = v

/-- The arm of its own that a name selects, if there is any, is that of the variant. -/
theorem find?_ownArm {name : Identifier} :
    ((variants.filter fun v => isWrittenAlone v.1.kind).map (ownArm enumName key)).find?
        (Arm.accepts enumName name)
      = (variants.find? fun v => isWrittenAlone v.1.kind && decide (v.2.name = name)).map
        (ownArm enumName key) := by
  rw [List.find?_map, List.find?_filter]
  congr 2
  funext v
  simp [Arm.accepts, ownArm]

private theorem selectedArm_of_writtenAlone (hnames : OwnNamesApart variants)
    {v : Variant × EnumVariant}
    (hv : v ∈ variants) (halone : isWrittenAlone v.1.kind = true) :
    selectedArm (unionArms enumName key variants) enumName v.2.name
      = some (ownArm enumName key v) := by
  have hfound : (variants.find? fun other =>
      isWrittenAlone other.1.kind && decide (other.2.name = v.2.name)) = some v := by
    cases hfind : variants.find? fun other =>
        isWrittenAlone other.1.kind && decide (other.2.name = v.2.name) with
    | none =>
      have hnot := List.find?_eq_none.mp hfind v hv
      simp [halone] at hnot
    | some other =>
      have hother := List.find?_some hfind
      simp only [Bool.and_eq_true, decide_eq_true_eq] at hother
      rw [hnames v hv halone other (List.mem_of_find?_eq_some hfind) hother.2]
  rw [selectedArm, unionArms_eq, List.find?_append, find?_ownArm, hfound, Option.map_some,
    Option.some_or]

private theorem selectedArm_of_not_writtenAlone (hnames : OwnNamesApart variants)
    {v : Variant × EnumVariant}
    (hv : v ∈ variants) (hwhole : isWrittenAlone v.1.kind = false) :
    selectedArm (unionArms enumName key variants) enumName v.2.name
      = some (.other ⟨.json, key⟩) := by
  have hnone : (variants.find? fun other =>
      isWrittenAlone other.1.kind && decide (other.2.name = v.2.name)) = none := by
    refine List.find?_eq_none.mpr fun other hother hmatch => ?_
    simp only [Bool.and_eq_true, decide_eq_true_eq] at hmatch
    -- The other variant would have an arm of its own and this variant's name.
    rw [← hnames other hother hmatch.1 v hv hmatch.2.symm, hwhole] at hmatch
    cases hmatch.1
  have hrest : ¬ ∀ other ∈ variants, isWrittenAlone other.1.kind = true := by
    intro hall
    rw [hall v hv] at hwhole
    cases hwhole
  rw [selectedArm, unionArms_eq, List.find?_append, find?_ownArm, hnone, if_neg hrest]
  rfl

/-- Told apart by their names, the variants are written by their kinds. -/
theorem writesVariants_unionArms (hkinds : ∀ v ∈ variants, v.1.kind ≠ .chatId)
    (hnames : OwnNamesApart variants) :
    WritesVariants enumName key variants (unionArms enumName key variants) where
  eq_append := unionArms_eq_append hkinds
  call_selected v hv := by
    cases halone : isWrittenAlone v.1.kind with
    | true =>
      rw [selectedArm_of_writtenAlone hnames hv halone]
      rfl
    | false =>
      rw [selectedArm_of_not_writtenAlone hnames hv halone, encoder_of_not_writtenAlone halone]
      rfl
  reached arm harm := by
    rw [unionArms_eq, List.mem_append] at harm
    rcases harm with harm | harm
    · obtain ⟨v, hv, rfl⟩ := List.mem_map.mp harm
      obtain ⟨hmem, halone⟩ := List.mem_filter.mp hv
      exact ⟨v, hmem, selectedArm_of_writtenAlone hnames hmem halone⟩
    · split at harm
      · cases harm
      · rename_i hrest
        simp only [not_forall, Bool.not_eq_true] at hrest
        obtain ⟨v, hv, hwhole⟩ := hrest
        rw [List.mem_singleton.mp harm]
        exact ⟨v, hv, selectedArm_of_not_writtenAlone hnames hv hwhole⟩

end

/-! ## Names of variants -/

/-- The names of the variants that have arms of their own, before they are numbered. -/
def ownNames : List String :=
  ["String", "Integer", "Float", "Boolean", "InputFile"]

private theorem variantName_mem_ownNames {r : Registry} {a : TypeExpr} (ha : a ≠ .chatId)
    (halone : isWrittenAlone (r.valueKind a) = true) : variantName a ∈ ownNames := by
  cases a with
  | scalar scalar => cases scalar <;> decide
  | inputFile => decide
  | chatId => exact absurd rfl ha
  | named name =>
    rw [Registry.valueKind] at halone
    split at halone <;> cases halone
  | _ => cases halone

/-- Such a name is an identifier without underscores, also with a number. -/
theorem isIdentifier_uniqueName {name : String} (h : name ∈ ownNames) (taken : List String) :
    IsIdentifier (uniqueName taken name) ∧ '_' ∉ (uniqueName taken name).toList := by
  have hnames : ∀ name ∈ ownNames, name.toList.all Char.isAlphanum = true ∧
      name.toList.head?.any (fun c => !c.isDigit) = true ∧
      ∀ word ∈ pathKeywords, ¬ name.toList <+: word.toList := by decide
  obtain ⟨halphanum, hfirst, hpath⟩ := hnames name h
  rw [List.all_eq_true] at halphanum
  obtain ⟨first, hhead, hdigit⟩ := (Option.any_eq_true _ _).mp hfirst
  have hchars : ∀ c ∈ (uniqueName taken name).toList, c.isAlphanum = true := by
    intro c hc
    rcases isDigit_or_mem_of_mem_uniqueName hc with hmem | hdigit
    · exact halphanum c hmem
    · simp [Char.isAlphanum, hdigit]
  obtain ⟨rest, hrest⟩ := prefix_uniqueName taken name
  refine ⟨⟨fun c hc => ?_, ⟨first, ?_, by simpa using hdigit⟩, fun hword => ?_⟩, fun hmem => ?_⟩
  · rw [isIdentifierChar, hchars c hc, Bool.true_or]
  · rw [← hrest, List.head?_append, hhead, Option.some_or]
  · exact hpath _ hword ⟨rest, hrest⟩
  · exact absurd (hchars _ hmem) (by decide)

section

variable {vs : List Variant} {variants : List EnumVariant}
  (hnames : variants.map EnumVariant.name
    = (numberedNames [] (vs.map fun v => variantName v.type)).map Identifier.ofName)

include hnames

/-- The name of a variant is that of its type, numbered if it is taken. -/
theorem exists_numbered_of_getElem? {i : Nat} {pair : Variant × EnumVariant}
    (hpair : (vs.zip variants)[i]? = some pair) :
    ∃ taken, (numberedNames [] (vs.map fun v => variantName v.type))[i]?
        = some (uniqueName taken (variantName pair.1.type)) ∧
      Identifier.ofName (uniqueName taken (variantName pair.1.type)) = pair.2.name := by
  obtain ⟨hv, hvariant⟩ := List.getElem?_zip_eq_some.mp hpair
  have hname : (vs.map fun v => variantName v.type)[i]? = some (variantName pair.1.type) := by
    rw [List.getElem?_map, hv, Option.map_some]
  obtain ⟨taken, hnumbered⟩ := @exists_getElem?_numberedNames [] _ _ _ hname
  refine ⟨taken, hnumbered, ?_⟩
  have hplace := congrArg (fun names : List Identifier => names[i]?) hnames
  simp only [List.getElem?_map, hvariant, hnumbered, Option.map_some, Option.some.injEq] at hplace
  exact hplace.symm

/-- Variants that have arms of their own share their names with no others: numbering makes the names
different, and no other name has the same identifier. -/
theorem namesApart_zip
    (hown : ∀ v ∈ vs, isWrittenAlone v.kind = true → variantName v.type ∈ ownNames) :
    OwnNamesApart (vs.zip variants) := by
  intro pair hpair halone other hother heq
  obtain ⟨i, hi⟩ := List.mem_iff_getElem?.mp hpair
  obtain ⟨j, hj⟩ := List.mem_iff_getElem?.mp hother
  obtain ⟨taken, hnumbered, hname⟩ := exists_numbered_of_getElem? hnames hi
  obtain ⟨taken', hnumbered', hname'⟩ := exists_numbered_of_getElem? hnames hj
  obtain ⟨hidentifier, hunderscore⟩ :=
    isIdentifier_uniqueName (hown pair.1 (List.of_mem_zip hpair).1 halone) taken
  have htext := congrArg Identifier.text (hname'.trans (heq.trans hname.symm))
  rw [Identifier.text_ofName_eq_self_iff.mpr hidentifier] at htext
  rw [Identifier.eq_of_text_ofName htext hunderscore, ← hnumbered] at hnumbered'
  have hplace : i = j := by
    have hlength := (List.getElem?_eq_some_iff.mp hnumbered).1
    exact (List.getElem?_inj hlength (nodup_numberedNames _ _)).mp hnumbered'.symm
  rw [← hplace, hi] at hj
  exact (Option.some.inj hj).symm

end

/-! ## When there is code for a union -/

private theorem forM_requireName_eq_ok_iff {item : String} {variants : List EnumVariant} :
    (variants.forM fun v => requireName item v.name) = .ok () ↔
      ∀ v ∈ variants, v.name.isAnonymous = false := by
  induction variants with
  | nil => simp [pure, Except.pure]
  | cons v variants ih =>
    rw [List.forM_eq_forM] at ih ⊢
    rw [List.forM_cons, bind_eq_ok_iff, List.forall_mem_cons]
    constructor
    · rintro ⟨_, hname, hnames⟩
      exact ⟨requireName_eq_ok_iff.mp hname, ih.mp hnames⟩
    · rintro ⟨hname, hnames⟩
      exact ⟨(), requireName_eq_ok_iff.mpr hname, ih.mpr hnames⟩

/-- Variants with targets that are types and with names can be made. -/
theorem exists_enumVariants {item : String} {enumName : Identifier}
    (henum : enumName.isAnonymous = false) {taken : List String} {wanted : List WantedVariant}
    (htargets : ∀ w ∈ wanted, ∃ type,
      TypeForm.parse (w.target.source (some typesSpace)) = .ok type)
    (hnames : ∀ name ∈ numberedNames taken (wanted.map WantedVariant.name),
      (Identifier.ofName name).isAnonymous = false) :
    ∃ variants, enumVariants item enumName taken wanted = .ok variants := by
  induction wanted generalizing taken with
  | nil => exact ⟨[], rfl⟩
  | cons first wanted ih =>
    obtain ⟨⟨type, htype⟩, htargets⟩ := List.forall_mem_cons.mp htargets
    simp only [List.map_cons, numberedNames, List.forall_mem_cons] at hnames
    obtain ⟨others, hothers⟩ := ih htargets hnames.2
    have hread : readTarget item (some typesSpace) first.target = .ok type := by
      simp only [readTarget, htype]
    have hnamed := (@requireName_eq_ok_iff item _).mpr hnames.1
    have henumNamed := (@requireName_eq_ok_iff item _).mpr henum
    refine ⟨⟨Identifier.ofName (uniqueName taken first.name), type⟩ :: others, ?_⟩
    simp only [enumVariants, hread, hnamed, henumNamed, hothers]
    split <;> rfl

/-- An enum can be made exactly if the targets of its variants are types and neither it nor one of
them is left without a name. -/
theorem exists_enumItem_iff {item : String} {name : Identifier} {derives : List String}
    {wanted : List WantedVariant} :
    (∃ enum, enumItem item name derives wanted = .ok enum) ↔
      (∀ w ∈ wanted, ∃ type, TypeForm.parse (w.target.source (some typesSpace)) = .ok type) ∧
      name.isAnonymous = false ∧
      ∀ candidate ∈ numberedNames [] (wanted.map WantedVariant.name),
        (Identifier.ofName candidate).isAnonymous = false := by
  have hnamed : ∀ {variants}, enumVariants item name [] wanted = .ok variants →
      ((∀ v ∈ variants, v.name.isAnonymous = false) ↔
        ∀ candidate ∈ numberedNames [] (wanted.map WantedVariant.name),
          (Identifier.ofName candidate).isAnonymous = false) := by
    intro variants h
    have hnames := map_name_enumVariants h
    rw [← List.forall_mem_map (f := EnumVariant.name) (P := fun n => n.isAnonymous = false),
      hnames, List.forall_mem_map]
  constructor
  · rintro ⟨enum, h⟩
    refine ⟨fun w hw => ?_, ?_⟩
    · obtain ⟨v, hparse, -⟩ := exists_mem_zip_of_forall₂ (enumItem_eq_ok h).2 hw
      exact ⟨v.type, hparse⟩
    · simp only [enumItem, bind_eq_ok_iff] at h
      obtain ⟨variants, hvariants, _, hname, _, hall, -⟩ := h
      exact ⟨requireName_eq_ok_iff.mp hname,
        (hnamed hvariants).mp (forM_requireName_eq_ok_iff.mp hall)⟩
  · rintro ⟨htargets, hname, hcandidates⟩
    obtain ⟨variants, hvariants⟩ := exists_enumVariants hname htargets hcandidates
    refine ⟨⟨name, derives, variants⟩, ?_⟩
    simp only [enumItem, bind_eq_ok_iff]
    exact ⟨variants, hvariants, (), requireName_eq_ok_iff.mpr hname, (),
      forM_requireName_eq_ok_iff.mpr ((hnamed hvariants).mpr hcandidates), rfl⟩

/-- The code of a union needs names for the field, the enum and its variants. -/
structure HasUnionNames (requestName : String) (plan : ParameterPlan) : Prop where
  field : (Identifier.ofName plan.name).isAnonymous = false
  enum : (Identifier.ofName (requestName ++ Text.pascalCase plan.name)).isAnonymous = false
  variants : ∀ name ∈ numberedNames [] (plan.variants.flatten.map fun v => variantName v.type),
    (Identifier.ofName name).isAnonymous = false

/-- A union has code if the targets of its variants are types and none of its names is missing. -/
theorem exists_parameter_iff {item requestName : String} {plan : ParameterPlan}
    (hunion : plan.type.isUnion = true) :
    (∃ code, parameter item requestName plan = .ok code) ↔
      (∀ v ∈ plan.variants.flatten, ∃ type,
        TypeForm.parse (v.target.source (some typesSpace)) = .ok type) ∧
      HasUnionNames requestName plan := by
  have henum : (∃ enum, enumItem item
        (Identifier.ofName (requestName ++ Text.pascalCase plan.name))
        ["Debug", "Clone", "PartialEq", "Serialize"] (wantedVariants plan) = .ok enum) ↔ _ :=
    exists_enumItem_iff
  rw [wantedVariants, List.forall_mem_map, List.map_map] at henum
  constructor
  · rintro ⟨code, h⟩
    have hfield : (Identifier.ofName plan.name).isAnonymous = false := by
      simp only [parameter] at h
      rw [if_pos hunion] at h
      obtain ⟨_, -, h⟩ := bind_eq_ok_iff.mp h
      obtain ⟨_, hname, -⟩ := bind_eq_ok_iff.mp h
      exact requireName_eq_ok_iff.mp hname
    have hcode := parameter_eq_ok h
    rw [if_pos hunion] at hcode
    obtain ⟨enum, type, hitem, -⟩ := unionParameter_eq_ok hcode
    obtain ⟨htargets, hname, hvariants⟩ := henum.mp ⟨enum, hitem⟩
    exact ⟨htargets, hfield, hname, hvariants⟩
  · rintro ⟨htargets, hfield, hname, hvariants⟩
    obtain ⟨enum, hitem⟩ := henum.mpr ⟨htargets, hname, hvariants⟩
    have hrequire := (@requireName_eq_ok_iff item _).mpr hfield
    simp only [parameter, if_pos hunion, unionParameter, bind_eq_ok_iff]
    exact ⟨_, _, ⟨enum, hitem, rfl⟩, (), hrequire, rfl⟩

end Code

namespace Registry

open Code

/-! ## Unions of requests -/

/-- The enum of a union and the arms that write it. -/
structure UnionMatch (r : Registry) (e : TypeExpr) (key : String) (enum : EnumItem)
    (arms : List Arm) : Prop where
  /-- There is one variant for each alternative, chat identifiers being spelled out. -/
  perm : ∃ types, TypeExpr.SpelledOut e.alternatives types ∧
    ((r.variantGroups e).flatten.map Variant.type).Perm types
  kind_eq : ∀ v ∈ (r.variantGroups e).flatten, v.kind = r.valueKind v.type
  kind_ne : ∀ v ∈ (r.variantGroups e).flatten, v.kind ≠ .chatId
  target_eq : ∀ v ∈ (r.variantGroups e).flatten, v.target = r.resolve v.type true
  /-- The enum has the variants in order, and what they hold is of the types of their targets. -/
  parse_eq : List.Forall₂ (fun (v : Variant) (named : EnumVariant) =>
      TypeForm.parse (v.target.source (some typesSpace)) = .ok named.type)
    (r.variantGroups e).flatten enum.variants
  writes : WritesVariants enum.name key ((r.variantGroups e).flatten.zip enum.variants) arms

/-- An enum that was made for the variants of a union, together with the arms for them, is a match
on that union. -/
theorem unionMatch_of_enumItem {r : Registry} {e : TypeExpr} (htwo : 2 ≤ e.alternatives.length)
    {plan : ParameterPlan} (hplan : plan.variants = r.variantGroups e) {item name : String}
    {derives : List String} {enum : EnumItem}
    (h : enumItem item (Identifier.ofName name) derives (wantedVariants plan) = .ok enum) :
    r.UnionMatch e plan.key enum (unionArms (Identifier.ofName name) plan.key
      ((r.variantGroups e).flatten.zip enum.variants)) := by
  have hgrouping := r.isGrouping_variantGroups e
  have hspelled := e.spelledOut_variantTypes
  obtain ⟨hname, hparsed⟩ := enumItem_eq_ok h
  have hnames := congrArg Prod.snd (names_enumItem h)
  rw [wantedVariants, hplan, List.forall₂_map_left_iff] at hparsed
  rw [wantedVariants, hplan, enumNames, List.map_map] at hnames
  refine ⟨⟨_, hspelled, hgrouping.perm (Nat.le_trans htwo hspelled.length_le)⟩, hgrouping.kind_eq,
    hgrouping.kind_ne, hgrouping.target_eq, hparsed, ?_⟩
  rw [← hname]
  refine writesVariants_unionArms (fun v hv => hgrouping.kind_ne v.1 (List.of_mem_zip hv).1) ?_
  refine namesApart_zip hnames fun v hv halone => ?_
  have hkind := hgrouping.kind_ne v hv
  rw [hgrouping.kind_eq v hv] at halone hkind
  refine variantName_mem_ownNames (fun hchat => ?_) halone
  rw [hchat] at hkind
  exact hkind rfl

/-- In a request, a union of two alternatives or more has an enum with one variant for each of them,
a chat identifier being spelled out, and is written by a match on it. A text, a scalar or an upload
has an arm of its own that calls the encoder for its kind, and if there are other variants a last
arm writes them as JSON. So each variant is covered by a call for its kind and each arm is reached.
There is code for the union if the targets of its variants are types and none of the names that it
needs is missing. -/
theorem unionMatch_of_request {r : Registry} {o : Operation} {field : FieldDef}
    {es : List TypeExpr} (hfield : field ∈ o.fields.values) (htype : field.type = .union es)
    (hlength : 2 ≤ es.length) :
    ((∃ code, parameter o.key (Text.pascalCase o.key) (r.planParameter field) = .ok code) ↔
      (∀ v ∈ (r.variantGroups field.type).flatten, ∃ type,
        TypeForm.parse (v.target.source (some typesSpace)) = .ok type) ∧
      HasUnionNames (Text.pascalCase o.key) (r.planParameter field)) ∧
    (∀ code, parameter o.key (Text.pascalCase o.key) (r.planParameter field) = .ok code →
      ∃ enum arms, code.enum? = some enum ∧ code.write.encoding = .cases arms ∧
        r.UnionMatch field.type field.key enum arms) ∧
    ∀ typesModule file, requestFile typesModule (r.planRequest o) = .ok file →
      ∃ code, parameter o.key (Text.pascalCase o.key) (r.planParameter field) = .ok code ∧
        code.write ∈ file.writes ∧ ∀ enum, code.enum? = some enum → enum ∈ file.enums := by
  have hunion : (r.planParameter field).type.isUnion = true := by
    rw [show (r.planParameter field).type = field.type from rfl, htype]
    rfl
  have htwo : 2 ≤ field.type.alternatives.length := by rwa [htype]
  refine ⟨exists_parameter_iff hunion, fun code h => ?_, fun typesModule file h => ?_⟩
  · have hcode := parameter_eq_ok h
    rw [if_pos hunion] at hcode
    obtain ⟨enum, type, hitem, rfl⟩ := unionParameter_eq_ok hcode
    exact ⟨enum, _, rfl, rfl, unionMatch_of_enumItem htwo rfl hitem⟩
  · obtain ⟨-, parameters, response, hmade⟩ := requestFile_eq_ok h
    have hmem : r.planParameter field ∈ (r.planRequest o).fields :=
      List.mem_map_of_mem (List.mem_mergeSort.mpr hfield)
    obtain ⟨code, hcode, hzip⟩ := exists_mem_zip_of_mapM hmade.parameters_eq hmem
    have hcodeMem := (List.of_mem_zip hzip).2
    refine ⟨code, hcode, ?_, fun enum henum => ?_⟩
    · rw [hmade.writes_eq]
      exact List.mem_map_of_mem hcodeMem
    · rw [hmade.enums_eq]
      exact List.mem_append_left _ (List.mem_filterMap.mpr ⟨code, hcodeMem, henum⟩)

/-! ## A union with variants of one name -/

/-- A parameter whose alternatives have four kinds. Two of its variants are integers. -/
def attachmentField : FieldDef where
  key := "attachment"
  type := TypeExpr.ofPhrase "Integer or ChatId or InputFile or Message"
  required := false

/-- An operation with that parameter only. -/
def attachOperation : Operation where
  key := "attachThing"
  fields := OrderedMap.ofList [("attachment", attachmentField)]

/-- The arms for that parameter. -/
def attachmentArms : List Arm :=
  let enumName := Identifier.ofName "AttachThingAttachment"
  [.variant enumName (Identifier.ofName "Integer") ⟨.scalar, "attachment"⟩,
    .variant enumName (Identifier.ofName "Integer2") ⟨.scalar, "attachment"⟩,
    .variant enumName (Identifier.ofName "String") ⟨.text, "attachment"⟩,
    .variant enumName (Identifier.ofName "InputFile") ⟨.file, "attachment"⟩,
    .other ⟨.json, "attachment"⟩]

private theorem exists_requestFile_attachOperation :
    ∃ file, requestFile defaultTypesModule (({} : Registry).planRequest attachOperation)
        = .ok file ∧
      file.writes.map WriteStatement.encoding = [.cases attachmentArms] := by
  refine exists_eq_ok_of_map ?_
  rw [planRequest_eq_of_fileLeaves_eq_nil (by decide)]
  decide +kernel

/-- The second integer gets a number and an arm of its own. -/
theorem unionMatch_of_request_attachOperation :
    ∃ file, requestFile defaultTypesModule (({} : Registry).planRequest attachOperation)
        = .ok file ∧
      ∃ enum ∈ file.enums, ∃ write ∈ file.writes, write.encoding = .cases attachmentArms ∧
        ({} : Registry).UnionMatch attachmentField.type "attachment" enum attachmentArms := by
  obtain ⟨file, hfile, hencodings⟩ := exists_requestFile_attachOperation
  have htype : attachmentField.type
      = .union [.scalar .int64, .chatId, .inputFile, .named "Message"] := by decide +kernel
  obtain ⟨-, hcodes, hfiles⟩ := unionMatch_of_request (r := {}) (o := attachOperation)
    (List.mem_singleton_self _) htype (by decide)
  obtain ⟨code, hcode, hwrite, henums⟩ := hfiles _ _ hfile
  obtain ⟨enum, arms, henum, harms, hmatch⟩ := hcodes code hcode
  have hmem := List.mem_map_of_mem (f := WriteStatement.encoding) hwrite
  rw [hencodings, List.mem_singleton, harms] at hmem
  obtain rfl := Encoding.cases.inj hmem
  exact ⟨file, hfile, enum, henums enum henum, code.write, hwrite, harms, hmatch⟩

end Registry

end BotBindings
