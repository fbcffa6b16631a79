import BotBindings.Registry.Basic

/-!
# Fields that take uploads

An upload may sit in a field of an object that is passed as a parameter. The objects that a
parameter may hold are found by a depth-first walk: abstract types are expanded into their subtypes
and each name is visited once, so the walk ends on cyclic references too.
-/

namespace BotBindings

/-- A field that takes an upload, and whether it is required. -/
abbrev FileLeaf := String × Bool

/-- Adds a leaf to leaves sorted by name. A leaf that is there already stays. -/
def insertLeaf (leaf : FileLeaf) : List FileLeaf → List FileLeaf
  | [] => [leaf]
  | other :: rest =>
    if leaf.1 = other.1 then other :: rest
    else if leaf.1 < other.1 then leaf :: other :: rest
    else other :: insertLeaf leaf rest

/-- The fields of an object that take an upload. -/
def TypeDef.fileLeaves (d : TypeDef) : List FileLeaf :=
  (d.fields.values.filter (·.type.admitsInputFile)).map fun field => (field.key, field.required)

namespace Registry

/-- The registered names that a walk has not visited yet. -/
def unvisited (r : Registry) (visited : List String) : List String :=
  r.types.keys.filter (· ∉ visited)

/-- A visit to a registered name that was not visited before leaves fewer names to visit. -/
theorem length_unvisited_lt {r : Registry} {visited : List String} {name : String} {d : TypeDef}
    (hget : r.types.get? name = some d) (hnew : name ∉ visited) :
    (r.unvisited (name :: visited)).length < (r.unvisited visited).length := by
  have hvisit : r.unvisited (name :: visited) = (r.unvisited visited).filter (· ≠ name) := by
    simp [unvisited, List.filter_filter]
  have hmem : name ∈ r.unvisited visited := by
    simpa [unvisited, hnew] using OrderedMap.mem_keys_of_get? hget
  rw [hvisit, List.length_filter_lt_length_iff_exists]
  exact ⟨name, hmem, by simp⟩

/-- The object types met by a depth-first walk over the pending names, in order. -/
def objectsFrom (r : Registry) (visited : List String) : List String → List TypeDef
  | [] => []
  | name :: pending =>
    if _hnew : name ∈ visited then r.objectsFrom visited pending
    else match _hget : r.types.get? name with
      | none => r.objectsFrom visited pending
      | some d =>
        if d.isAbstract then r.objectsFrom (name :: visited) (d.subtypes ++ pending)
        else d :: r.objectsFrom (name :: visited) pending
termination_by pending => ((r.unvisited visited).length, pending.length)
decreasing_by
  · exact Prod.Lex.right _ (by simp)
  · exact Prod.Lex.right _ (by simp)
  · exact Prod.Lex.left _ _ (length_unvisited_lt _hget _hnew)
  · exact Prod.Lex.left _ _ (length_unvisited_lt _hget _hnew)

/-- A walk without pending names meets no objects. -/
@[simp] theorem objectsFrom_nil (r : Registry) (visited : List String) :
    r.objectsFrom visited [] = [] := by
  rw [objectsFrom]

/-- One step of the walk. -/
theorem objectsFrom_cons (r : Registry) (visited : List String) (name : String)
    (pending : List String) :
    r.objectsFrom visited (name :: pending)
      = if name ∈ visited then r.objectsFrom visited pending
        else match r.types.get? name with
          | none => r.objectsFrom visited pending
          | some d =>
            if d.isAbstract then r.objectsFrom (name :: visited) (d.subtypes ++ pending)
            else d :: r.objectsFrom (name :: visited) pending := by
  rw [objectsFrom]
  split
  · rfl
  · split <;> simp_all

/-- The fields that take uploads in the objects that a value of type `e` may hold, sorted by name.
One array level is looked through; of two leaves with one name the first one met counts. -/
def fileLeaves (r : Registry) (e : TypeExpr) : List FileLeaf :=
  let names := e.alternatives.filterMap fun alternative => alternative.stripArray.typeName?
  let leaves := (r.objectsFrom [] names).flatMap TypeDef.fileLeaves
  leaves.foldl (fun sorted leaf => insertLeaf leaf sorted) []

end Registry

end BotBindings
