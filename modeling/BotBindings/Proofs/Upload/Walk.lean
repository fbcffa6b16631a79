import BotBindings.Registry.FileLeaf
import Mathlib.Logic.Relation

/-!
# The walk over abstract types

`Registry.objectsFrom` keeps the names that are still to be visited in one list. This file describes
the same walk by what it does for one name after the other: all subtypes of an abstract type are
walked before the next name, and what was visited on the way is not visited again. Every walk comes
to an end, `objectsFrom` gives the objects it meets, and these are the objects that can be reached
by going from abstract types to their subtypes.
-/

namespace BotBindings.Registry

variable {r : Registry}

/-- The depth-first walk over a list of names. `Walk r visited names objects after` says that a walk
which has visited the names `visited` meets `objects` in this order on its way through `names` and
has visited the names `after` at its end. -/
inductive Walk (r : Registry) : List String → List String → List TypeDef → List String → Prop
  | nil (visited : List String) : Walk r visited [] [] visited
  /-- A name that was visited is passed over. -/
  | visited {visited after names : List String} {objects : List TypeDef} {name : String}
      (hold : name ∈ visited) (hrest : Walk r visited names objects after) :
      Walk r visited (name :: names) objects after
  /-- Behind a name without a definition there is nothing to visit. -/
  | missing {visited after names : List String} {objects : List TypeDef} {name : String}
      (hnew : name ∉ visited) (hget : r.types.get? name = none)
      (hrest : Walk r visited names objects after) :
      Walk r visited (name :: names) objects after
  | object {visited after names : List String} {objects : List TypeDef} {name : String}
      {d : TypeDef} (hnew : name ∉ visited) (hget : r.types.get? name = some d)
      (hobject : d.isAbstract = false) (hrest : Walk r (name :: visited) names objects after) :
      Walk r visited (name :: names) (d :: objects) after
  /-- An abstract type is expanded before the names behind it. -/
  | expand {visited between after names : List String} {inner objects : List TypeDef}
      {name : String} {d : TypeDef} (hnew : name ∉ visited) (hget : r.types.get? name = some d)
      (habstract : d.isAbstract = true)
      (hinner : Walk r (name :: visited) d.subtypes inner between)
      (hrest : Walk r between names objects after) :
      Walk r visited (name :: names) (inner ++ objects) after

/-! ## The walk as it is computed -/

/-- A walk gives the objects at the front of what `objectsFrom` gives, and leaves it to go on with
the names that were visited by then. -/
theorem Walk.objectsFrom_append {visited names after : List String} {objects : List TypeDef}
    (h : Walk r visited names objects after) (others : List String) :
    r.objectsFrom visited (names ++ others) = objects ++ r.objectsFrom after others := by
  induction h generalizing others with
  | nil visited => rfl
  | visited hold _ ih =>
    rw [List.cons_append, objectsFrom_cons, if_pos hold, ih]
  | missing hnew hget _ ih =>
    rw [List.cons_append, objectsFrom_cons, if_neg hnew, hget]
    exact ih others
  | object hnew hget hobject _ ih =>
    rw [List.cons_append, objectsFrom_cons, if_neg hnew, hget]
    simp only [hobject, Bool.false_eq_true, if_false, ih, List.cons_append]
  | expand hnew hget habstract _ _ ihinner ihrest =>
    rw [List.cons_append, objectsFrom_cons, if_neg hnew, hget]
    simp only [habstract, if_true, ihinner, ihrest, List.append_assoc]

/-- A walk meets the objects that `objectsFrom` gives. -/
theorem Walk.objectsFrom_eq {visited names after : List String} {objects : List TypeDef}
    (h : Walk r visited names objects after) : r.objectsFrom visited names = objects := by
  have happend := h.objectsFrom_append []
  rwa [List.append_nil, objectsFrom_nil, List.append_nil] at happend

/-- A walk over two lists of names is a walk over the first and then over the second. -/
theorem Walk.exists_of_append {first second visited after : List String}
    {objects : List TypeDef} (h : Walk r visited (first ++ second) objects after) :
    ∃ between front back, Walk r visited first front between ∧
      Walk r between second back after ∧ objects = front ++ back := by
  induction first generalizing visited objects with
  | nil => exact ⟨visited, [], objects, .nil visited, h, rfl⟩
  | cons name first ih =>
    cases h with
    | visited hold hrest =>
      obtain ⟨between, front, back, hfront, hback, rfl⟩ := ih hrest
      exact ⟨between, front, back, .visited hold hfront, hback, rfl⟩
    | missing hnew hget hrest =>
      obtain ⟨between, front, back, hfront, hback, rfl⟩ := ih hrest
      exact ⟨between, front, back, .missing hnew hget hfront, hback, rfl⟩
    | object hnew hget hobject hrest =>
      obtain ⟨between, front, back, hfront, hback, rfl⟩ := ih hrest
      exact ⟨between, _ :: front, back, .object hnew hget hobject hfront, hback, rfl⟩
    | expand hnew hget habstract hinner hrest =>
      obtain ⟨between, front, back, hfront, hback, rfl⟩ := ih hrest
      exact ⟨between, _ ++ front, back, .expand hnew hget habstract hinner hfront, hback,
        (List.append_assoc _ _ _).symm⟩

/-- Every walk comes to an end, whatever cycles the subtypes form. -/
theorem exists_walk (r : Registry) (visited names : List String) :
    ∃ objects after, Walk r visited names objects after := by
  induction visited, names using objectsFrom.induct r with
  | case1 visited => exact ⟨[], visited, .nil visited⟩
  | case2 visited name names hold ih =>
    obtain ⟨objects, after, h⟩ := ih
    exact ⟨objects, after, .visited hold h⟩
  | case3 visited name names hnew hget ih =>
    obtain ⟨objects, after, h⟩ := ih
    exact ⟨objects, after, .missing hnew hget h⟩
  | case4 visited name names hnew d hget habstract ih =>
    obtain ⟨objects, after, h⟩ := ih
    obtain ⟨between, inner, rest, hinner, hrest, rfl⟩ := h.exists_of_append
    exact ⟨_, after, .expand hnew hget habstract hinner hrest⟩
  | case5 visited name names hnew d hget hobject ih =>
    obtain ⟨objects, after, h⟩ := ih
    exact ⟨_, after, .object hnew hget (by simpa using hobject) h⟩

/-! ## Reachable names -/

/-- One step from an abstract type to a type that it stands for. -/
def HasSubtype (r : Registry) (name subtype : String) : Prop :=
  ∃ d, r.types.get? name = some d ∧ subtype ∈ d.subtypes

/-- Some steps, or none, from abstract types to types that they stand for. -/
def Reaches (r : Registry) : String → String → Prop :=
  Relation.ReflTransGen r.HasSubtype

/-- A walk meets only objects that can be reached. -/
theorem Walk.exists_reaches {visited names after : List String} {objects : List TypeDef}
    (h : Walk r visited names objects after) {d : TypeDef} (hd : d ∈ objects) :
    ∃ root ∈ names, ∃ name, r.Reaches root name ∧ r.types.get? name = some d ∧
      d.isAbstract = false := by
  induction h with
  | nil => cases hd
  | visited _ _ ih | missing _ _ _ ih =>
    obtain ⟨root, hroot, hreached⟩ := ih hd
    exact ⟨root, List.mem_cons_of_mem _ hroot, hreached⟩
  | @object _ _ _ _ name _ _ hget hobject _ ih =>
    rcases List.mem_cons.mp hd with rfl | hd
    · exact ⟨name, List.mem_cons_self, name, .refl, hget, hobject⟩
    · obtain ⟨root, hroot, hreached⟩ := ih hd
      exact ⟨root, List.mem_cons_of_mem _ hroot, hreached⟩
  | @expand _ _ _ _ _ _ name _ _ hget _ _ _ ihinner ihrest =>
    rcases List.mem_append.mp hd with hd | hd
    · obtain ⟨subtype, hsubtype, reached, hreaches, hreached⟩ := ihinner hd
      exact ⟨name, List.mem_cons_self, reached, .head ⟨_, hget, hsubtype⟩ hreaches, hreached⟩
    · obtain ⟨root, hroot, hreached⟩ := ihrest hd
      exact ⟨root, List.mem_cons_of_mem _ hroot, hreached⟩

/-- What a walk has done about a name once it has visited it: the subtypes were visited too, or the
object was met. -/
structure Handled (r : Registry) (objects : List TypeDef) (after : List String)
    (name : String) : Prop where
  subtypes : ∀ d, r.types.get? name = some d → ∀ subtype ∈ d.subtypes,
    (r.types.get? subtype).isSome = true → subtype ∈ after
  object : ∀ d, r.types.get? name = some d → d.isAbstract = false → d ∈ objects

private theorem Handled.mono {objects objects' : List TypeDef} {after after' : List String}
    {name : String} (h : Handled r objects after name) (hobjects : objects ⊆ objects')
    (hafter : after ⊆ after') : Handled r objects' after' name where
  subtypes d hd subtype hsubtype hregistered :=
    hafter (h.subtypes d hd subtype hsubtype hregistered)
  object d hd hobject := hobjects (h.object d hd hobject)

private theorem Walk.subset {visited names after : List String} {objects : List TypeDef}
    (h : Walk r visited names objects after) : visited ⊆ after := by
  induction h with
  | nil => exact List.Subset.refl _
  | visited _ _ ih | missing _ _ _ ih => exact ih
  | object _ _ _ _ ih => exact List.Subset.trans (List.subset_cons_self _ _) ih
  | expand _ _ _ _ _ ihinner ihrest =>
    exact List.Subset.trans (List.subset_cons_self _ _) (List.Subset.trans ihinner ihrest)

/-- A walk visits every registered name that it is given. -/
theorem Walk.mem_after {visited names after : List String} {objects : List TypeDef}
    (h : Walk r visited names objects after) {name : String} (hname : name ∈ names)
    (hregistered : (r.types.get? name).isSome = true) : name ∈ after := by
  induction h with
  | nil => cases hname
  | visited hold hrest ih =>
    rcases List.mem_cons.mp hname with rfl | hname
    · exact hrest.subset hold
    · exact ih hname
  | missing _ hget _ ih =>
    rcases List.mem_cons.mp hname with rfl | hname
    · simp [hget] at hregistered
    · exact ih hname
  | object _ _ _ hrest ih =>
    rcases List.mem_cons.mp hname with rfl | hname
    · exact hrest.subset List.mem_cons_self
    · exact ih hname
  | expand _ _ _ hinner hrest _ ihrest =>
    rcases List.mem_cons.mp hname with rfl | hname
    · exact hrest.subset (hinner.subset List.mem_cons_self)
    · exact ihrest hname

/-- A walk deals with every name that it is the first to visit. -/
theorem Walk.handled {visited names after : List String} {objects : List TypeDef}
    (h : Walk r visited names objects after) {name : String} (hname : name ∈ after)
    (hnew : name ∉ visited) : Handled r objects after name := by
  induction h with
  | nil => exact absurd hname hnew
  | visited _ _ ih | missing _ _ _ ih => exact ih hname hnew
  | @object _ _ _ _ first d _ hget hobject hrest ih =>
    by_cases hfirst : name = first
    · subst hfirst
      refine ⟨fun d' hd' subtype hsubtype => ?_, fun d' hd' _ => ?_⟩
      · rw [hget] at hd'
        cases hd'
        have hnone : d.subtypes = [] := by simpa [TypeDef.isAbstract] using hobject
        rw [hnone] at hsubtype
        cases hsubtype
      · rw [hget] at hd'
        cases hd'
        exact List.mem_cons_self
    · exact (ih hname (by simp [hfirst, hnew])).mono (List.subset_cons_self _ _)
        (List.Subset.refl _)
  | @expand _ between _ _ _ _ first d _ hget habstract hinner hrest ihinner ihrest =>
    by_cases hbetween : name ∈ between
    · by_cases hfirst : name = first
      · subst hfirst
        refine ⟨fun d' hd' subtype hsubtype hregistered => ?_, fun d' hd' hobject => ?_⟩
        · rw [hget] at hd'
          cases hd'
          exact hrest.subset (hinner.mem_after hsubtype hregistered)
        · rw [hget] at hd'
          cases hd'
          simp [habstract] at hobject
      · exact (ihinner hbetween (by simp [hfirst, hnew])).mono (List.subset_append_left _ _)
          hrest.subset
    · exact (ihrest hname hbetween).mono (List.subset_append_right _ _) (List.Subset.refl _)

/-- A walk that starts without visited names meets exactly the objects that can be reached. -/
theorem Walk.mem_objects_iff {names after : List String} {objects : List TypeDef}
    (h : Walk r [] names objects after) {d : TypeDef} :
    d ∈ objects ↔ ∃ root ∈ names, ∃ name, r.Reaches root name ∧ r.types.get? name = some d ∧
      d.isAbstract = false := by
  constructor
  · exact h.exists_reaches
  · rintro ⟨root, hroot, name, hreaches, hget, hobject⟩
    have hvisited : (r.types.get? name).isSome = true → name ∈ after := by
      -- The visited names contain the roots and are closed under the steps to registered names.
      clear hget
      induction hreaches with
      | refl => exact h.mem_after hroot
      | tail _ hstep ih =>
        obtain ⟨between, hbetween, hsubtype⟩ := hstep
        have hmem := ih (by simp [hbetween])
        exact (h.handled hmem List.not_mem_nil).subtypes between hbetween _ hsubtype
    exact (h.handled (hvisited (by simp [hget])) List.not_mem_nil).object d hget hobject

end BotBindings.Registry
