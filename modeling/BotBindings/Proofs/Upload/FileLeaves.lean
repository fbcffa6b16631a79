import BotBindings.Proofs.OrderedMap.Content
import BotBindings.Proofs.Upload.Walk
import Mathlib.Data.String.Basic

/-!
# The fields that take uploads

The leaves of a type are listed by name, each once. This file says which these are: the upload
fields of all objects that can be reached from the type. It also says which of several fields of one
name counts: that of the object which the depth-first walk meets first.
-/

namespace BotBindings

/-! ## Sorted leaves -/

/-- Leaves listed by name, each name once. -/
def SortedLeaves (leaves : List FileLeaf) : Prop :=
  leaves.Pairwise fun a b => a.1 < b.1

private theorem SortedLeaves.nodup_keys {leaves : List FileLeaf} (h : SortedLeaves leaves) :
    (leaves.map Prod.fst).Nodup := by
  rw [List.Nodup, List.pairwise_map]
  exact h.imp fun hlt => ne_of_lt hlt

private theorem mem_insertLeaf {leaf other : FileLeaf} {leaves : List FileLeaf}
    (h : other ∈ insertLeaf leaf leaves) : other = leaf ∨ other ∈ leaves := by
  induction leaves with
  | nil => simpa [insertLeaf] using h
  | cons first leaves ih =>
    unfold insertLeaf at h
    split at h
    · exact Or.inr h
    · split at h
      · simpa using h
      · rcases List.mem_cons.mp h with rfl | h
        · exact Or.inr List.mem_cons_self
        · exact (ih h).imp_right (List.mem_cons_of_mem _)

/-- A leaf that is added is put into its place. -/
theorem SortedLeaves.insertLeaf {leaves : List FileLeaf} (h : SortedLeaves leaves)
    (leaf : FileLeaf) : SortedLeaves (insertLeaf leaf leaves) := by
  induction leaves with
  | nil => simp [BotBindings.insertLeaf, SortedLeaves]
  | cons first leaves ih =>
    obtain ⟨hfirst, hrest⟩ := List.pairwise_cons.mp h
    unfold BotBindings.insertLeaf
    split
    · exact h
    · rename_i hne
      split
      · rename_i hlt
        refine List.pairwise_cons.mpr ⟨fun other hother => ?_, h⟩
        rcases List.mem_cons.mp hother with rfl | hother
        · exact hlt
        · exact lt_trans hlt (hfirst other hother)
      · rename_i hge
        have hlt : first.1 < leaf.1 := lt_of_le_of_ne (not_lt.mp hge) (Ne.symm hne)
        refine List.pairwise_cons.mpr ⟨fun other hother => ?_, ih hrest⟩
        rcases mem_insertLeaf hother with rfl | hother
        · exact hlt
        · exact hfirst other hother

private theorem SortedLeaves.lookup_eq_none {first : FileLeaf} {leaves : List FileLeaf}
    (h : SortedLeaves (first :: leaves)) {key : String} (hkey : key ≤ first.1) :
    leaves.lookup key = none := by
  rw [List.lookup_eq_none_iff]
  intro other hother
  have hlt := (List.pairwise_cons.mp h).1 other hother
  exact bne_iff_ne.mpr (ne_of_lt (lt_of_le_of_lt hkey hlt))

/-- A leaf is added only if there is none of its name yet. -/
theorem SortedLeaves.lookup_insertLeaf {leaves : List FileLeaf} (h : SortedLeaves leaves)
    (leaf : FileLeaf) (key : String) :
    (BotBindings.insertLeaf leaf leaves).lookup key
      = (leaves.lookup key).or ([leaf].lookup key) := by
  induction leaves with
  | nil => rfl
  | cons first leaves ih =>
    obtain ⟨name, required⟩ := leaf
    obtain ⟨other, value⟩ := first
    unfold BotBindings.insertLeaf
    by_cases hsame : name = other
    · subst hsame
      by_cases hkey : key = name
      · simp [hkey]
      · simp [List.lookup_cons, beq_eq_false_iff_ne.mpr hkey]
    · by_cases hlt : name < other
      · -- The leaf comes first: none of its name follows, since the list is sorted.
        by_cases hkey : key = name
        · subst hkey
          have hnone := h.lookup_eq_none (le_of_lt hlt)
          simp [hsame, hlt, List.lookup_cons, beq_eq_false_iff_ne.mpr hsame, hnone]
        · simp [hsame, hlt, List.lookup_cons, beq_eq_false_iff_ne.mpr hkey]
      · by_cases hkey : key = other
        · simp [hsame, hlt, hkey]
        · have hb : (key == other) = false := beq_eq_false_iff_ne.mpr hkey
          have htail := ih (List.pairwise_cons.mp h).2
          simp only [if_neg hsame, if_neg hlt, List.lookup_cons, hb] at htail ⊢
          exact htail

/-- The leaves in the order in which they are listed. Of two leaves with one name the first one
counts. -/
def sortLeaves (leaves : List FileLeaf) : List FileLeaf :=
  leaves.foldl (fun sorted leaf => insertLeaf leaf sorted) []

private theorem foldl_insertLeaf {sorted : List FileLeaf} (h : SortedLeaves sorted)
    (leaves : List FileLeaf) :
    SortedLeaves (leaves.foldl (fun sorted leaf => insertLeaf leaf sorted) sorted) ∧
      ∀ key, (leaves.foldl (fun sorted leaf => insertLeaf leaf sorted) sorted).lookup key
        = (sorted.lookup key).or (leaves.lookup key) := by
  induction leaves generalizing sorted with
  | nil => exact ⟨h, fun key => by simp⟩
  | cons leaf leaves ih =>
    obtain ⟨hsorted, hlookup⟩ := ih (h.insertLeaf leaf)
    refine ⟨hsorted, fun key => ?_⟩
    have happend : (leaf :: leaves).lookup key
        = ([leaf].lookup key).or (leaves.lookup key) := by
      rw [← List.lookup_append, List.singleton_append]
    rw [List.foldl_cons, hlookup, h.lookup_insertLeaf, Option.or_assoc, happend]

private theorem sortedLeaves_sortLeaves (leaves : List FileLeaf) : SortedLeaves
    (sortLeaves leaves) :=
  (foldl_insertLeaf List.Pairwise.nil leaves).1

private theorem lookup_sortLeaves (leaves : List FileLeaf) (key : String) :
    (sortLeaves leaves).lookup key = leaves.lookup key := by
  have h := (foldl_insertLeaf List.Pairwise.nil leaves).2 key
  simpa [sortLeaves] using h

/-- Sorted leaves are determined by their names and by what is found under them. -/
theorem SortedLeaves.eq_of_lookup {leaves leaves' : List FileLeaf} (h : SortedLeaves leaves)
    (h' : SortedLeaves leaves') (hlookup : ∀ key, leaves.lookup key = leaves'.lookup key) :
    leaves = leaves' := by
  have hmem : ∀ leaf, leaf ∈ leaves ↔ leaf ∈ leaves' := by
    rintro ⟨key, required⟩
    rw [← lookup_eq_some_iff_mem h.nodup_keys, ← lookup_eq_some_iff_mem h'.nodup_keys, hlookup]
  have hperm := (List.perm_ext_iff_of_nodup (List.Nodup.of_map _ h.nodup_keys)
    (List.Nodup.of_map _ h'.nodup_keys)).mpr hmem
  refine hperm.eq_of_pairwise ?_ h h'
  intro a b _ _ hab hba
  exact absurd hba (not_lt_of_gt hab)

/-- Sorted leaves with the same names have their names in the same order. -/
theorem SortedLeaves.keys_eq {leaves leaves' : List FileLeaf} (h : SortedLeaves leaves)
    (h' : SortedLeaves leaves')
    (hkeys : ∀ key, key ∈ leaves.map Prod.fst ↔ key ∈ leaves'.map Prod.fst) :
    leaves.map Prod.fst = leaves'.map Prod.fst := by
  have hperm := (List.perm_ext_iff_of_nodup h.nodup_keys h'.nodup_keys).mpr hkeys
  refine hperm.eq_of_pairwise ?_ (List.pairwise_map.mpr h) (List.pairwise_map.mpr h')
  intro a b _ _ hab hba
  exact absurd hba (not_lt_of_gt hab)

/-! ## The leaves of one object -/

/-- A value that may be an upload, directly or as an alternative. -/
def TypeExpr.TakesUpload (e : TypeExpr) : Prop :=
  e = .inputFile ∨ ∃ alternatives, e = .union alternatives ∧ .inputFile ∈ alternatives

private theorem TypeExpr.admitsInputFile_iff {e : TypeExpr} :
    e.admitsInputFile = true ↔ e.TakesUpload := by
  cases e <;> simp [admitsInputFile, alternatives, TakesUpload]

/-- Every field is stored under its own key. -/
def Fields.WellKeyed (fields : Fields) : Prop :=
  ∀ key field, fields.get? key = some field → field.key = key

/-- If every field is stored under its own key, then the keys of the fields are those of the map. -/
theorem Fields.WellKeyed.map_key_values {fields : Fields} (h : fields.WellKeyed) :
    fields.values.map FieldDef.key = fields.keys := by
  rw [OrderedMap.values, OrderedMap.keys, List.map_map]
  refine List.map_congr_left fun entry hentry => ?_
  exact h _ _ (OrderedMap.get?_eq_some_iff.mpr hentry)

/-- If every field is stored under its own key, then a field is there exactly if it is found under
that key. -/
theorem Fields.WellKeyed.mem_values_iff {fields : Fields} (h : fields.WellKeyed)
    {field : FieldDef} : field ∈ fields.values ↔ fields.get? field.key = some field := by
  rw [OrderedMap.mem_values_iff]
  constructor
  · rintro ⟨key, hget⟩
    rwa [h key field hget]
  · exact fun hget => ⟨_, hget⟩

private theorem TypeDef.nodup_keys_fileLeaves {d : TypeDef} (h : d.fields.WellKeyed) :
    (d.fileLeaves.map Prod.fst).Nodup := by
  have hkeys : d.fileLeaves.map Prod.fst
      = (d.fields.values.filter (·.type.admitsInputFile)).map FieldDef.key := by
    simp [TypeDef.fileLeaves, Function.comp_def]
  rw [hkeys]
  have hsublist := (List.filter_sublist (p := (·.type.admitsInputFile))
    (l := d.fields.values)).map FieldDef.key
  rw [h.map_key_values] at hsublist
  exact d.fields.nodup_keys.sublist hsublist

/-- The leaf of a name is the field stored under that name, if it takes uploads. -/
theorem TypeDef.lookup_fileLeaves {d : TypeDef} (h : d.fields.WellKeyed) {key : String}
    {required : Bool} :
    d.fileLeaves.lookup key = some required ↔
      ∃ field, d.fields.get? key = some field ∧ field.type.TakesUpload ∧
        field.required = required := by
  rw [lookup_eq_some_iff_mem (nodup_keys_fileLeaves h), fileLeaves, List.mem_map]
  constructor
  · rintro ⟨field, hfield, heq⟩
    obtain ⟨hmem, hadmits⟩ := List.mem_filter.mp hfield
    obtain ⟨rfl, rfl⟩ := Prod.mk.inj heq
    exact ⟨field, h.mem_values_iff.mp hmem, TypeExpr.admitsInputFile_iff.mp hadmits, rfl⟩
  · rintro ⟨field, hget, hupload, rfl⟩
    have hkey := h key field hget
    subst hkey
    exact ⟨field, List.mem_filter.mpr ⟨h.mem_values_iff.mpr hget,
      TypeExpr.admitsInputFile_iff.mpr hupload⟩, rfl⟩

/-! ## The leaves of a type -/

namespace Registry

/-- Every field of a type is stored under its own key. -/
def WellKeyedFields (r : Registry) : Prop :=
  ∀ name d, r.types.get? name = some d → d.fields.WellKeyed

/-- The names at which the walk for a type starts. -/
def leafRoots (e : TypeExpr) : List String :=
  e.alternatives.filterMap fun alternative => alternative.stripArray.typeName?

private theorem mem_leafRoots {e : TypeExpr} {root : String} :
    root ∈ leafRoots e ↔ ∃ a ∈ e.alternatives, a.stripArray = .named root := by
  have hname : ∀ a : TypeExpr, a.typeName? = some root ↔ a = .named root := by
    intro a
    cases a <;> simp [TypeExpr.typeName?]
  simp [leafRoots, hname]

private theorem fileLeaves_eq (r : Registry) (e : TypeExpr) :
    r.fileLeaves e
      = sortLeaves ((r.objectsFrom [] (leafRoots e)).flatMap TypeDef.fileLeaves) := rfl

private theorem lookup_flatMap_fileLeaves (objects : List TypeDef) (key : String) :
    (objects.flatMap TypeDef.fileLeaves).lookup key
      = objects.findSome? fun d => d.fileLeaves.lookup key := by
  induction objects with
  | nil => rfl
  | cons d objects ih =>
    rw [List.flatMap_cons, List.lookup_append, ih, List.findSome?_cons]
    cases d.fileLeaves.lookup key <;> rfl

/-- The leaf of a name is that of the first object of the walk which has one. -/
theorem lookup_fileLeaves (r : Registry) (e : TypeExpr) (key : String) :
    (r.fileLeaves e).lookup key
      = (r.objectsFrom [] (leafRoots e)).findSome? fun d => d.fileLeaves.lookup key := by
  rw [fileLeaves_eq, lookup_sortLeaves, lookup_flatMap_fileLeaves]

/-- The leaves of a type are listed by name, each name once. -/
theorem sortedLeaves_fileLeaves (r : Registry) (e : TypeExpr) :
    SortedLeaves (r.fileLeaves e) :=
  sortedLeaves_sortLeaves _

/-- If no registered type has a field for uploads, then there is none in the values of any type. -/
theorem fileLeaves_eq_nil {r : Registry} (hplain : ∀ d ∈ r.types.values, d.fileLeaves = [])
    (e : TypeExpr) : r.fileLeaves e = [] := by
  obtain ⟨objects, after, hwalk⟩ := exists_walk r [] (leafRoots e)
  have hobjects : objects.flatMap TypeDef.fileLeaves = [] := by
    refine List.flatMap_eq_nil_iff.mpr fun d hd => ?_
    obtain ⟨_, -, name, -, hget, -⟩ := hwalk.exists_reaches hd
    exact hplain d (OrderedMap.mem_values_iff.mpr ⟨name, hget⟩)
  rw [fileLeaves_eq, hwalk.objectsFrom_eq, hobjects]
  rfl

/-- Some object that can be reached from the type stores a field that takes uploads under this
key. The walk starts at what is left of each alternative without its outermost array marker. -/
def ReachesUpload (r : Registry) (e : TypeExpr) (key : String) : Prop :=
  ∃ a ∈ e.alternatives, ∃ root name d field, a.stripArray = .named root ∧
    r.Reaches root name ∧ r.types.get? name = some d ∧ d.isAbstract = false ∧
    d.fields.get? key = some field ∧ field.type.TakesUpload

private theorem Walk.wellKeyed {r : Registry} {names after : List String} {objects : List TypeDef}
    (h : Walk r [] names objects after) (hkeys : r.WellKeyedFields) {d : TypeDef}
    (hd : d ∈ objects) : d.fields.WellKeyed := by
  obtain ⟨_, -, name, -, hget, -⟩ := h.mem_objects_iff.mp hd
  exact hkeys name d hget

/-- The leaves have the names of the upload fields that can be reached from the type. -/
theorem mem_keys_fileLeaves_iff {r : Registry} (hkeys : r.WellKeyedFields) (e : TypeExpr)
    (key : String) : key ∈ (r.fileLeaves e).map Prod.fst ↔ r.ReachesUpload e key := by
  obtain ⟨objects, after, hwalk⟩ := r.exists_walk [] (leafRoots e)
  have hfound : key ∈ (r.fileLeaves e).map Prod.fst ↔
      ∃ d ∈ objects, (d.fileLeaves.lookup key).isSome = true := by
    have hlookup : key ∈ (r.fileLeaves e).map Prod.fst ↔
        ((r.fileLeaves e).lookup key).isSome = true := by
      rw [List.lookup_isSome_iff, List.mem_map]
      simp only [beq_iff_eq]
      exact exists_congr fun leaf => and_congr_right fun _ => eq_comm
    rw [hlookup, lookup_fileLeaves, hwalk.objectsFrom_eq, List.findSome?_isSome_iff]
  rw [hfound]
  constructor
  · rintro ⟨d, hd, hsome⟩
    obtain ⟨required, hlookup⟩ := Option.isSome_iff_exists.mp hsome
    obtain ⟨field, hget, hupload, -⟩ :=
      (TypeDef.lookup_fileLeaves (hwalk.wellKeyed hkeys hd)).mp hlookup
    obtain ⟨root, hroot, name, hreaches, hname, hobject⟩ := hwalk.mem_objects_iff.mp hd
    obtain ⟨a, ha, hstrip⟩ := mem_leafRoots.mp hroot
    exact ⟨a, ha, root, name, d, field, hstrip, hreaches, hname, hobject, hget, hupload⟩
  · rintro ⟨a, ha, root, name, d, field, hstrip, hreaches, hname, hobject, hget, hupload⟩
    have hd : d ∈ objects := hwalk.mem_objects_iff.mpr
      ⟨root, mem_leafRoots.mpr ⟨a, ha, hstrip⟩, name, hreaches, hname, hobject⟩
    exact ⟨d, hd, Option.isSome_iff_exists.mpr ⟨field.required,
      (TypeDef.lookup_fileLeaves (hwalk.wellKeyed hkeys hd)).mpr ⟨field, hget, hupload, rfl⟩⟩⟩

/-- The flag of a leaf is that of the field in the first object of the walk which has such a
field. -/
theorem mem_fileLeaves_iff_of_walk {r : Registry} (hkeys : r.WellKeyedFields) {e : TypeExpr}
    {objects : List TypeDef} {after : List String}
    (hwalk : Walk r [] (leafRoots e) objects after) (key : String) (required : Bool) :
    (key, required) ∈ r.fileLeaves e ↔
      ∃ before d behind field, objects = before ++ d :: behind ∧
        d.fields.get? key = some field ∧ field.type.TakesUpload ∧ field.required = required ∧
        ∀ other ∈ before, ∀ field, other.fields.get? key = some field →
          ¬ field.type.TakesUpload := by
  have hnone : ∀ d ∈ objects, d.fileLeaves.lookup key = none ↔
      ∀ field, d.fields.get? key = some field → ¬ field.type.TakesUpload := by
    intro d hd
    have hlookup : ∀ b, d.fileLeaves.lookup key = some b ↔ ∃ field,
        d.fields.get? key = some field ∧ field.type.TakesUpload ∧ field.required = b :=
      fun b => TypeDef.lookup_fileLeaves (hwalk.wellKeyed hkeys hd)
    rw [Option.eq_none_iff_forall_ne_some]
    constructor
    · intro h field hget hupload
      exact h _ ((hlookup _).mpr ⟨field, hget, hupload, rfl⟩)
    · intro h b hb
      obtain ⟨field, hget, hupload, -⟩ := (hlookup b).mp hb
      exact h field hget hupload
  rw [← lookup_eq_some_iff_mem (r.sortedLeaves_fileLeaves e).nodup_keys, lookup_fileLeaves,
    hwalk.objectsFrom_eq, List.findSome?_eq_some_iff]
  constructor
  · rintro ⟨before, d, behind, heq, hlookup, hbefore⟩
    have hd : d ∈ objects := heq ▸ by simp
    obtain ⟨field, hget, hupload, hrequired⟩ :=
      (TypeDef.lookup_fileLeaves (hwalk.wellKeyed hkeys hd)).mp hlookup
    refine ⟨before, d, behind, field, heq, hget, hupload, hrequired, fun other hother => ?_⟩
    exact (hnone other (heq ▸ by simp [hother])).mp (hbefore other hother)
  · rintro ⟨before, d, behind, field, heq, hget, hupload, hrequired, hbefore⟩
    have hd : d ∈ objects := heq ▸ by simp
    refine ⟨before, d, behind, heq, ?_, fun other hother => ?_⟩
    · exact (TypeDef.lookup_fileLeaves (hwalk.wellKeyed hkeys hd)).mpr
        ⟨field, hget, hupload, hrequired⟩
    · exact (hnone other (heq ▸ by simp [hother])).mpr (hbefore other hother)

/-! ## The order of subtypes -/

/-- Two registries define the same types, but for the order in which abstract types list their
subtypes. -/
def SameUpToSubtypeOrder (r r' : Registry) : Prop :=
  ∀ name, Option.Rel (fun d d' => d.fields = d'.fields ∧ d.subtypes.Perm d'.subtypes)
    (r.types.get? name) (r'.types.get? name)

private theorem SameUpToSubtypeOrder.symm {r r' : Registry} (h : SameUpToSubtypeOrder r r') :
    SameUpToSubtypeOrder r' r := by
  intro name
  have hname := h name
  generalize r.types.get? name = found, r'.types.get? name = found' at hname ⊢
  cases hname with
  | some hsame => exact .some ⟨hsame.1.symm, hsame.2.symm⟩
  | none => exact .none

private theorem SameUpToSubtypeOrder.exists_get? {r r' : Registry} (h : SameUpToSubtypeOrder r r')
    {name : String} {d : TypeDef} (hget : r.types.get? name = some d) :
    ∃ d', r'.types.get? name = some d' ∧ d.fields = d'.fields ∧
      d.subtypes.Perm d'.subtypes :=
  exists_some_of_rel (h name) hget

private theorem SameUpToSubtypeOrder.reaches {r r' : Registry} (h : SameUpToSubtypeOrder r r')
    {root name : String} (hreaches : r.Reaches root name) : r'.Reaches root name := by
  refine Relation.ReflTransGen.mono (fun name subtype hstep => ?_) root name hreaches
  obtain ⟨d, hget, hsubtype⟩ := hstep
  obtain ⟨d', hget', -, hperm⟩ := h.exists_get? hget
  exact ⟨d', hget', hperm.mem_iff.mp hsubtype⟩

/-- Which upload fields can be reached depends neither on the order of alternatives nor on that of
subtypes. -/
theorem SameUpToSubtypeOrder.reachesUpload {r r' : Registry} (h : SameUpToSubtypeOrder r r')
    {e e' : TypeExpr} (hperm : e.alternatives.Perm e'.alternatives) {key : String}
    (hupload : r.ReachesUpload e key) : r'.ReachesUpload e' key := by
  obtain ⟨a, ha, root, name, d, field, hstrip, hreaches, hname, hobject, hget, htakes⟩ := hupload
  obtain ⟨d', hname', hfields, hsubtypes⟩ := h.exists_get? hname
  have hobject' : d'.isAbstract = false := by
    have hnil : d.subtypes = [] := by simpa [TypeDef.isAbstract] using hobject
    rw [hnil] at hsubtypes
    simp [TypeDef.isAbstract, List.nil_perm.mp hsubtypes]
  exact ⟨a, hperm.mem_iff.mp ha, root, name, d', field, hstrip, h.reaches hreaches, hname',
    hobject', hfields ▸ hget, htakes⟩

private theorem SameUpToSubtypeOrder.wellKeyedFields {r r' : Registry}
    (h : SameUpToSubtypeOrder r r')
    (hkeys : r.WellKeyedFields) : r'.WellKeyedFields := by
  intro name d' hget'
  obtain ⟨d, hget, hfields, -⟩ := h.symm.exists_get? hget'
  exact hfields ▸ hkeys name d hget

/-! ## Leaves by reachability -/

/-- The walk for the leaves of a type comes to an end on every registry. The leaves are listed by
name, each once, and their names are the keys of the upload fields that can be reached. A leaf is
required if the field is in the first object of the walk that has one of this key. So the names do
not depend on the order of alternatives or of subtypes. -/
theorem fileLeaves_by_reachability {r : Registry} (hkeys : r.WellKeyedFields) (e : TypeExpr) :
    (∃ objects after, Walk r [] (leafRoots e) objects after) ∧
      SortedLeaves (r.fileLeaves e) ∧
      (∀ key, key ∈ (r.fileLeaves e).map Prod.fst ↔ r.ReachesUpload e key) ∧
      (∀ objects after, Walk r [] (leafRoots e) objects after →
        ∀ key required, (key, required) ∈ r.fileLeaves e ↔
          ∃ before d behind field, objects = before ++ d :: behind ∧
            d.fields.get? key = some field ∧ field.type.TakesUpload ∧
            field.required = required ∧
            ∀ other ∈ before, ∀ field, other.fields.get? key = some field →
              ¬ field.type.TakesUpload) ∧
      ∀ (r' : Registry) (e' : TypeExpr), SameUpToSubtypeOrder r r' →
        e.alternatives.Perm e'.alternatives →
        (r'.fileLeaves e').map Prod.fst = (r.fileLeaves e).map Prod.fst := by
  refine ⟨r.exists_walk [] (leafRoots e), r.sortedLeaves_fileLeaves e,
    mem_keys_fileLeaves_iff hkeys e, fun objects after hwalk => ?_, ?_⟩
  · exact mem_fileLeaves_iff_of_walk hkeys hwalk
  · intro r' e' hsame hperm
    refine (r'.sortedLeaves_fileLeaves e').keys_eq (r.sortedLeaves_fileLeaves e) fun key => ?_
    rw [mem_keys_fileLeaves_iff (hsame.wellKeyedFields hkeys),
      mem_keys_fileLeaves_iff hkeys]
    exact ⟨hsame.symm.reachesUpload hperm.symm, hsame.reachesUpload hperm⟩

/-- A registry is decided to be well keyed by going through its entries. -/
theorem wellKeyedFields_of_values {r : Registry}
    (h : ∀ d ∈ r.types.values, ∀ entry ∈ d.fields.entries, entry.2.key = entry.1) :
    r.WellKeyedFields := by
  intro name d hget key field hfield
  exact h d (OrderedMap.mem_values_iff.mpr ⟨name, hget⟩) _ (OrderedMap.get?_eq_some_iff.mp hfield)

/-- A video, for which a file is optional. -/
def videoType : TypeDef where
  name := "Video"
  fields := OrderedMap.ofList [("media", ⟨"media", .union [.inputFile, .scalar .string], false⟩)]

/-- A photo, for which a file is required and a thumbnail may be given. -/
def photoType : TypeDef where
  name := "Photo"
  fields := OrderedMap.ofList
    [("thumbnail", ⟨"thumbnail", .inputFile, false⟩), ("media", ⟨"media", .inputFile, true⟩),
      ("caption", ⟨"caption", .scalar .string, false⟩)]

/-- An abstract type among whose subtypes are itself and a name without a definition. -/
def mediaType : TypeDef where
  name := "Media"
  subtypes := ["Media", "Unknown", "Video", "Photo"]

/-- A registry with these types. -/
def mediaRegistry : Registry where
  types := OrderedMap.ofList
    [("Photo", photoType), ("Media", mediaType), ("Video", videoType)]

private theorem walk_mediaRegistry :
    Walk mediaRegistry [] ["Media", "Photo"] [videoType, photoType]
      ["Photo", "Video", "Media"] := by
  have hinner : Walk mediaRegistry ["Media"] mediaType.subtypes [videoType, photoType]
      ["Photo", "Video", "Media"] :=
    .visited (by decide) <| .missing (by decide) rfl <| .object (by decide) rfl rfl <|
      .object (by decide) rfl rfl <| .nil _
  exact .expand (by decide) rfl rfl hinner <| .visited (by decide) <| .nil _

/-- The video is met first, so the file counts as optional, though the photo requires it. -/
theorem fileLeaves_by_reachability_mediaRegistry :
    mediaRegistry.WellKeyedFields ∧
      ("media", false) ∈
        mediaRegistry.fileLeaves (.union [.array (.named "Media"), .named "Photo"]) ∧
      (mediaRegistry.fileLeaves (.union [.named "Photo", .array (.named "Media")])).map Prod.fst
        = (mediaRegistry.fileLeaves (.union [.array (.named "Media"), .named "Photo"])).map
          Prod.fst := by
  have hkeys : mediaRegistry.WellKeyedFields := wellKeyedFields_of_values (by decide)
  obtain ⟨-, -, -, hflags, horder⟩ :=
    fileLeaves_by_reachability hkeys (.union [.array (.named "Media"), .named "Photo"])
  refine ⟨hkeys, ?_, horder mediaRegistry _ (fun name => ?_) (List.Perm.swap _ _ _)⟩
  · refine (hflags _ _ walk_mediaRegistry "media" false).mpr ?_
    exact ⟨[], videoType, [photoType], _, rfl, rfl,
      Or.inr ⟨_, rfl, List.mem_cons_self⟩, rfl, by simp⟩
  · cases mediaRegistry.types.get? name with
    | none => exact .none
    | some d => exact .some ⟨rfl, List.Perm.refl _⟩

end Registry

end BotBindings
