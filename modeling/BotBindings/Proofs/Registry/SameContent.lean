import BotBindings.Proofs.Registry.Sorting
import BotBindings.Proofs.Upload.FileLeaves
import BotBindings.Registry.Parameter

/-!
# Registries with the same content

Two registries have the same content if the same is found under every name, whatever the order in
which names were inserted. What is read off such registries is the same: fields are sorted, the
targets and kinds of values only look names up, and the walk for uploads follows the lists of
subtypes, not the order of the map.
-/

namespace BotBindings

/-- The same field is found under every key. -/
def Fields.SameContent (fields fields' : Fields) : Prop :=
  ∀ key, fields.get? key = fields'.get? key

/-- Types that differ at most in the order in which their fields were inserted. -/
structure TypeDef.SameContent (d d' : TypeDef) : Prop where
  name : d.name = d'.name
  description : d.description = d'.description
  subtypes : d.subtypes = d'.subtypes
  fields : d.fields.SameContent d'.fields

/-- Operations that differ at most in the order in which their parameters were inserted. -/
structure Operation.SameContent (o o' : Operation) : Prop where
  key : o.key = o'.key
  description : o.description = o'.description
  returnType : o.returnType = o'.returnType
  fields : o.fields.SameContent o'.fields

/-- Registries in which the same types and operations are found under all names. -/
structure Registry.SameContent (r r' : Registry) : Prop where
  types : ∀ name, Option.Rel TypeDef.SameContent (r.types.get? name) (r'.types.get? name)
  operations : ∀ key,
    Option.Rel Operation.SameContent (r.operations.get? key) (r'.operations.get? key)

/-- Fields and operations are stored under their own keys. The names of types play no role: a type
is planned and looked up under the name that it is stored under. -/
structure Registry.WellKeyed (r : Registry) : Prop where
  fields : r.WellKeyedFields
  operations : ∀ key o, r.operations.get? key = some o → o.key = key
  parameters : ∀ key o, r.operations.get? key = some o → o.fields.WellKeyed

/-- A registry is decided to be well keyed by going through its entries. -/
theorem Registry.wellKeyed_of_entries {r : Registry}
    (hfields : ∀ d ∈ r.types.values, ∀ entry ∈ d.fields.entries, entry.2.key = entry.1)
    (hoperations : ∀ entry ∈ r.operations.entries, entry.2.key = entry.1 ∧
      ∀ parameter ∈ entry.2.fields.entries, parameter.2.key = parameter.1) : r.WellKeyed where
  fields := wellKeyedFields_of_values hfields
  operations _ _ hget := (hoperations _ (OrderedMap.get?_eq_some_iff.mp hget)).1
  parameters _ _ hget _ _ hfield :=
    (hoperations _ (OrderedMap.get?_eq_some_iff.mp hget)).2 _
      (OrderedMap.get?_eq_some_iff.mp hfield)

/-! ## Fields -/

/-- The order of generated definitions does not depend on the order of insertion. -/
theorem Fields.SameContent.sorted_eq {fields fields' : Fields} (h : fields.SameContent fields')
    (hkeys : fields.WellKeyed) : fields.sorted = fields'.sorted := by
  have hperm : fields.values.Perm fields'.values := by
    have hvalues := OrderedMap.map_values_perm (f := id) (g := id)
      fun key => congrArg (Option.map id) (h key)
    simpa using hvalues
  unfold Fields.sorted
  refine mergeSort_eq_of_perm ?_ ?_ hperm ?_
  · intro a b c
    exact fieldLe_trans
  · intro a b
    exact fieldLe_total a.rank b.rank
  intro a ha b hb hab hba
  -- Fields of the same rank have the same key, and there is one field under each key.
  have hkey : a.key = b.key := congrArg Prod.snd (fieldLe_antisymm hab hba)
  have hgeta := hkeys.mem_values_iff.mp ha
  have hgetb := hkeys.mem_values_iff.mp hb
  rw [hkey, hgetb] at hgeta
  exact (Option.some.inj hgeta).symm

private theorem TypeDef.SameContent.isAbstract_eq {d d' : TypeDef} (h : d.SameContent d') :
    d.isAbstract = d'.isAbstract := by
  rw [isAbstract, isAbstract, h.subtypes]

private theorem TypeDef.SameContent.wellKeyed {d d' : TypeDef} (h : d.SameContent d')
    (hkeys : d.fields.WellKeyed) : d'.fields.WellKeyed := by
  intro key field hget
  exact hkeys key field ((h.fields key).trans hget)

/-- The same leaf is found under every key. -/
theorem TypeDef.SameContent.lookup_fileLeaves_eq {d d' : TypeDef} (h : d.SameContent d')
    (hkeys : d.fields.WellKeyed) (key : String) :
    d.fileLeaves.lookup key = d'.fileLeaves.lookup key := by
  refine Option.ext fun required => ?_
  have hleft : d.fileLeaves.lookup key = some required ↔ _ := TypeDef.lookup_fileLeaves hkeys
  have hright : d'.fileLeaves.lookup key = some required ↔ _ :=
    TypeDef.lookup_fileLeaves (h.wellKeyed hkeys)
  rw [hleft, hright, h.fields key]

private theorem findSome?_eq_of_forall₂ {α β γ : Type} {f : α → Option γ} {g : β → Option γ}
    {as : List α}
    {bs : List β} (h : List.Forall₂ (fun a b => f a = g b) as bs) :
    as.findSome? f = bs.findSome? g := by
  induction h with
  | nil => rfl
  | cons heq _ ih => rw [List.findSome?_cons, List.findSome?_cons, heq, ih]

namespace Registry.SameContent

variable {r r' : Registry}

/-! ## Values -/

/-- Which types are abstract depends on the content of a registry only. -/
theorem isAbstract_eq (h : r.SameContent r') : r.isAbstract = r'.isAbstract := by
  funext name
  have hname := h.types name
  unfold Registry.isAbstract
  generalize r.types.get? name = found, r'.types.get? name = found' at hname ⊢
  cases hname with
  | some hsame => exact hsame.isAbstract_eq
  | none => rfl

private theorem resolveRequired_eq (h : r.SameContent r') :
    ∀ e : TypeExpr, r.resolveRequired e = r'.resolveRequired e
  | .named name => by rw [resolveRequired, resolveRequired, h.isAbstract_eq]
  | .array element => by rw [resolveRequired, resolveRequired, resolveRequired_eq h element]
  | .inputFile | .chatId | .scalar _ | .union _ => rfl

/-- Targets depend on the content of a registry only. -/
theorem resolve_eq (h : r.SameContent r') : r.resolve = r'.resolve := by
  funext e required
  rw [resolve, resolve, h.resolveRequired_eq e]

/-- How a value is written depends on the content of a registry only. -/
theorem valueKind_eq (h : r.SameContent r') : r.valueKind = r'.valueKind := by
  funext e
  cases e with
  | named name => rw [valueKind, valueKind, h.isAbstract_eq]
  | scalar s => cases s <;> rfl
  | array _ | union _ | inputFile | chatId => rfl

/-- The encoders that a value needs depend on the content of a registry only. -/
theorem encoders_eq (h : r.SameContent r') : r.encoders = r'.encoders := by
  funext e
  rw [encoders, encoders, h.valueKind_eq]

/-- The variants of a union and their groups depend on the content of a registry only. -/
theorem variantGroups_eq (h : r.SameContent r') : r.variantGroups = r'.variantGroups := by
  have hvariant : r.variant = r'.variant := by
    funext e
    rw [variant, variant, h.resolve_eq, h.valueKind_eq]
  funext e
  rw [variantGroups, variantGroups, hvariant]

/-! ## Uploads -/

/-- The walk meets the objects of the same names. -/
theorem objectsFrom_rel (h : r.SameContent r') (visited names : List String) :
    List.Forall₂ (fun d d' => ∃ name, r.types.get? name = some d ∧ d.SameContent d')
      (r.objectsFrom visited names) (r'.objectsFrom visited names) := by
  induction visited, names using objectsFrom.induct r with
  | case1 visited => simp
  | case2 visited name names hold ih =>
    rw [objectsFrom_cons, objectsFrom_cons, if_pos hold, if_pos hold]
    exact ih
  | case3 visited name names hnew hget ih =>
    have hget' : r'.types.get? name = none := eq_none_of_rel (h.types name) hget
    rw [objectsFrom_cons, objectsFrom_cons, if_neg hnew, if_neg hnew, hget, hget']
    exact ih
  | case4 visited name names hnew d hget habstract ih =>
    obtain ⟨d', hget', hsame⟩ := exists_some_of_rel (h.types name) hget
    have habstract' : d'.isAbstract = true := hsame.isAbstract_eq ▸ habstract
    rw [objectsFrom_cons, objectsFrom_cons, if_neg hnew, if_neg hnew, hget, hget']
    simp only [habstract, habstract', if_true, ← hsame.subtypes]
    exact ih
  | case5 visited name names hnew d hget hobject ih =>
    obtain ⟨d', hget', hsame⟩ := exists_some_of_rel (h.types name) hget
    have hobject' : ¬ d'.isAbstract = true := hsame.isAbstract_eq ▸ hobject
    rw [objectsFrom_cons, objectsFrom_cons, if_neg hnew, if_neg hnew, hget, hget']
    simp only [if_neg hobject, if_neg hobject']
    exact .cons ⟨name, hget, hsame⟩ ih

/-- The uploads nested in a value do not depend on the order of insertion, though of two leaves with
one name the first one met counts. -/
theorem fileLeaves_eq (h : r.SameContent r') (hkeys : r.WellKeyedFields) :
    r.fileLeaves = r'.fileLeaves := by
  funext e
  refine (r.sortedLeaves_fileLeaves e).eq_of_lookup (r'.sortedLeaves_fileLeaves e) fun key => ?_
  rw [lookup_fileLeaves, lookup_fileLeaves]
  refine findSome?_eq_of_forall₂ ((h.objectsFrom_rel [] (leafRoots e)).imp fun d d' hd => ?_)
  obtain ⟨name, hget, hsame⟩ := hd
  exact hsame.lookup_fileLeaves_eq (hkeys name d hget) key

end Registry.SameContent

end BotBindings
