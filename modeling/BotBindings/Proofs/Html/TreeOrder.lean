import BotBindings.Html.Finder
import Mathlib.Data.List.Lex
import Mathlib.Data.Prod.Basic

/-!
# Document order

A node below another one is reached by a way: the numbers of the children to go to, one after the
other. Document order is the order of the ways: a node comes before all that is below it, and that
comes before the next node beside it. This file proves that the elements below a node are listed in
that order, each of them once, and that no other list does the same.
-/

namespace BotBindings.Html

namespace Node

/-! ## Ways down -/

/-- The node at the end of a way down. -/
def at? (root : Node) : List Nat → Option Node
  | [] => some root
  | i :: way => (root.children[i]?).bind fun child => child.at? way

/-- A property that a node has if all nodes directly below have it is one of all nodes. -/
theorem induction_children {P : Node → Prop}
    (step : ∀ node : Node, (∀ child ∈ node.children, P child) → P node) : (node : Node) → P node
  | .text _ => step _ fun _ h => absurd h List.not_mem_nil
  | .element _ _ children => step _ fun child (_ : child ∈ children) =>
    induction_children step child
  | .fragment children => step _ fun child (_ : child ∈ children) =>
    induction_children step child

mutual

/-- The elements below a node in document order, each with the way to it. -/
def placed : Node → List (List Nat × Node)
  | .text _ => []
  | .element _ _ children => placedFrom 0 children
  | .fragment children => placedFrom 0 children

/-- The elements among some nodes and below them, where the first of the nodes has number `i`. -/
def placedFrom (i : Nat) : List Node → List (List Nat × Node)
  | [] => []
  | .text _ :: rest => placedFrom (i + 1) rest
  | .element tag attributes children :: rest =>
    ([i], .element tag attributes children)
      :: ((placed (.element tag attributes children)).map (Prod.map (i :: ·) id)
        ++ placedFrom (i + 1) rest)
  | .fragment children :: rest =>
    (placed (.fragment children)).map (Prod.map (i :: ·) id) ++ placedFrom (i + 1) rest

end

private theorem placed_eq (node : Node) : node.placed = placedFrom 0 node.children := by
  cases node <;> simp [placed, placedFrom, children]

private theorem descendants_eq (node : Node) :
    node.descendants = descendantsOfList node.children := by
  cases node <;> simp [descendants, descendantsOfList, children]

/-- The node itself, if it is an element, with the way that a child of its number has. -/
def placedSelf (i : Nat) (node : Node) : List (List Nat × Node) :=
  if node.isElement then [([i], node)] else []

private theorem placedFrom_cons (i : Nat) (node : Node) (rest : List Node) :
    placedFrom i (node :: rest) = placedSelf i node
      ++ (node.placed.map (Prod.map (i :: ·) id) ++ placedFrom (i + 1) rest) := by
  cases node <;> simp [placedFrom, placedSelf, isElement, placed]

private theorem descendantsOfList_cons (node : Node) (rest : List Node) :
    descendantsOfList (node :: rest) = (if node.isElement then [node] else [])
      ++ (node.descendants ++ descendantsOfList rest) := by
  cases node <;> simp [descendantsOfList, isElement, descendants]

/-! ## The list of descendants -/

private theorem map_snd_placedFrom {nodes : List Node}
    (h : ∀ node ∈ nodes, node.placed.map Prod.snd = node.descendants) (i : Nat) :
    (placedFrom i nodes).map Prod.snd = descendantsOfList nodes := by
  induction nodes generalizing i with
  | nil => simp [placedFrom, descendantsOfList]
  | cons node nodes ih =>
    have hself : (placedSelf i node).map Prod.snd = if node.isElement then [node] else [] := by
      rw [placedSelf]
      split <;> rfl
    have hbelow : (node.placed.map (Prod.map (i :: ·) id)).map Prod.snd = node.descendants := by
      rw [List.map_map, ← h node List.mem_cons_self]
      rfl
    rw [placedFrom_cons, descendantsOfList_cons, List.map_append, List.map_append, hself, hbelow,
      ih fun other hother => h other (List.mem_cons_of_mem node hother)]

/-- The ways are those to the elements below. -/
theorem map_snd_placed (node : Node) : node.placed.map Prod.snd = node.descendants := by
  induction node using induction_children with
  | step node ih => rw [placed_eq, descendants_eq, map_snd_placedFrom ih]

/-- A way among some nodes starts with the number of one of them. -/
theorem mem_placedFrom_iff {nodes : List Node}
    (h : ∀ node ∈ nodes, ∀ way target, (way, target) ∈ node.placed ↔
      way ≠ [] ∧ node.at? way = some target ∧ target.isElement = true)
    (i : Nat) (way : List Nat) (target : Node) :
    (way, target) ∈ placedFrom i nodes ↔ ∃ j rest, way = (i + j) :: rest ∧
      (nodes[j]?).bind (fun node => node.at? rest) = some target ∧ target.isElement = true := by
  induction nodes generalizing i with
  | nil => simp [placedFrom]
  | cons node nodes ih =>
    have hself : (way, target) ∈ placedSelf i node ↔
        way = [i] ∧ node = target ∧ target.isElement = true := by
      rw [placedSelf]
      split <;> grind
    have hbelow : (way, target) ∈ node.placed.map (Prod.map (i :: ·) id) ↔
        ∃ rest, way = i :: rest ∧ rest ≠ [] ∧ node.at? rest = some target ∧
          target.isElement = true := by
      constructor
      · intro hmem
        obtain ⟨⟨rest, found⟩, hfound, heq⟩ := List.mem_map.mp hmem
        cases heq
        exact ⟨rest, rfl, (h node List.mem_cons_self rest found).mp hfound⟩
      · rintro ⟨rest, rfl, hrest⟩
        exact List.mem_map.mpr ⟨(rest, target), (h node List.mem_cons_self rest target).mpr hrest,
          rfl⟩
    have hrest := ih (fun other hother => h other (List.mem_cons_of_mem node hother)) (i + 1)
    rw [placedFrom_cons, List.mem_append, List.mem_append, hself, hbelow, hrest]
    constructor
    · rintro (⟨rfl, rfl, helement⟩ | ⟨rest, rfl, -, hat, helement⟩ | ⟨j, rest, rfl, hat, helement⟩)
      · exact ⟨0, [], rfl, rfl, helement⟩
      · exact ⟨0, rest, rfl, hat, helement⟩
      · exact ⟨j + 1, rest, by rw [Nat.add_right_comm, Nat.add_assoc], hat, helement⟩
    · rintro ⟨_ | j, rest, rfl, hat, helement⟩
      · -- The way ends at the node itself or goes on below it.
        cases rest with
        | nil => exact Or.inl ⟨rfl, Option.some.inj hat, helement⟩
        | cons next rest => exact Or.inr (Or.inl ⟨_, rfl, List.cons_ne_nil _ _, hat, helement⟩)
      · exact Or.inr (Or.inr ⟨j, rest, by rw [Nat.add_right_comm, Nat.add_assoc], hat, helement⟩)

/-- The elements below a node are the elements at the end of some way down. -/
theorem mem_placed_iff (node : Node) (way : List Nat) (target : Node) :
    (way, target) ∈ node.placed ↔
      way ≠ [] ∧ node.at? way = some target ∧ target.isElement = true := by
  induction node using induction_children generalizing way target with
  | step node ih =>
    rw [placed_eq, mem_placedFrom_iff ih]
    constructor
    · rintro ⟨j, rest, rfl, hat, helement⟩
      rw [Nat.zero_add]
      exact ⟨List.cons_ne_nil j rest, hat, helement⟩
    · rintro ⟨hne, hat, helement⟩
      obtain ⟨j, rest, rfl⟩ := List.exists_cons_of_ne_nil hne
      exact ⟨j, rest, by rw [Nat.zero_add], hat, helement⟩

/-- The numbers of the nodes that are left are no smaller. -/
theorem exists_of_mem_placedFrom {i : Nat} {nodes : List Node} {p : List Nat × Node}
    (h : p ∈ placedFrom i nodes) : ∃ j rest, p.1 = j :: rest ∧ i ≤ j := by
  obtain ⟨way, target⟩ := p
  obtain ⟨j, rest, rfl, -, -⟩ :=
    (mem_placedFrom_iff (fun node _ way target => node.mem_placed_iff way target) i way target).mp h
  exact ⟨i + j, rest, rfl, Nat.le_add_right i j⟩

private theorem pairwise_placedFrom {nodes : List Node}
    (h : ∀ node ∈ nodes, node.placed.Pairwise fun p q => p.1 < q.1) (i : Nat) :
    (placedFrom i nodes).Pairwise fun p q => p.1 < q.1 := by
  induction nodes generalizing i with
  | nil => simp [placedFrom]
  | cons node nodes ih =>
    have hself : (placedSelf i node).Pairwise fun p q => p.1 < q.1 := by
      rw [placedSelf]
      split
      · exact List.pairwise_singleton _ _
      · exact .nil
    have hself_mem : ∀ p ∈ placedSelf i node, p.1 = [i] := by
      rw [placedSelf]
      split <;> simp
    have hbelow : (node.placed.map (Prod.map (i :: ·) id)).Pairwise fun p q => p.1 < q.1 :=
      List.pairwise_map.mpr ((h node List.mem_cons_self).imp fun hlt => List.Lex.cons hlt)
    have hbelow_mem : ∀ p ∈ node.placed.map (Prod.map (i :: ·) id),
        ∃ j rest, p.1 = i :: j :: rest := by
      intro p hp
      obtain ⟨⟨way, target⟩, hmem, rfl⟩ := List.mem_map.mp hp
      obtain ⟨j, rest, rfl⟩ :=
        List.exists_cons_of_ne_nil ((node.mem_placed_iff way target).mp hmem).1
      exact ⟨j, rest, rfl⟩
    have hrest := ih (fun other hother => h other (List.mem_cons_of_mem node hother)) (i + 1)
    rw [placedFrom_cons]
    refine List.pairwise_append.mpr ⟨hself, List.pairwise_append.mpr ⟨hbelow, hrest, ?_⟩, ?_⟩
    · intro p hp q hq
      obtain ⟨j, rest, hp⟩ := hbelow_mem p hp
      obtain ⟨k, rest', hq, hle⟩ := exists_of_mem_placedFrom hq
      rw [hp, hq]
      exact List.Lex.rel hle
    · intro p hp q hq
      rw [hself_mem p hp]
      rcases List.mem_append.mp hq with hq | hq
      · obtain ⟨j, rest, hq⟩ := hbelow_mem q hq
        rw [hq]
        exact List.Lex.cons List.Lex.nil
      · obtain ⟨k, rest, hq, hle⟩ := exists_of_mem_placedFrom hq
        rw [hq]
        exact List.Lex.rel hle

/-- The elements below a node come in the order of their ways. -/
theorem pairwise_placed (node : Node) : node.placed.Pairwise fun p q => p.1 < q.1 := by
  induction node using induction_children with
  | step node ih => rw [placed_eq]; exact pairwise_placedFrom ih 0

end Node

/-! ## Matches in document order -/

/-- The list holds the elements below a node that are accepted, each with its way and in document
order. The node itself is at the end of the empty way and is not among them. -/
structure ListsMatches (accepts : Node → Bool) (root : Node) (found : List (List Nat × Node)) :
    Prop where
  pairwise_lt : found.Pairwise fun p q => p.1 < q.1
  mem_iff : ∀ way node, (way, node) ∈ found ↔
    way ≠ [] ∧ root.at? way = some node ∧ node.isElement = true ∧ accepts node = true

/-- The accepted elements below a node are so listed. -/
theorem listsMatches_placed (accepts : Node → Bool) (root : Node) :
    ListsMatches accepts root (root.placed.filter fun p => accepts p.2) where
  pairwise_lt := root.pairwise_placed.filter _
  mem_iff way node := by
    rw [List.mem_filter, root.mem_placed_iff, and_assoc, and_assoc]

/-- No two lists of the matches differ. -/
theorem ListsMatches.eq_of_listsMatches {accepts : Node → Bool} {root : Node}
    {found found' : List (List Nat × Node)} (h : ListsMatches accepts root found)
    (h' : ListsMatches accepts root found') : found = found' := by
  have hmem : ∀ p, p ∈ found ↔ p ∈ found' := fun ⟨way, node⟩ =>
    (h.mem_iff way node).trans (h'.mem_iff way node).symm
  have hnodup : ∀ {l : List (List Nat × Node)}, (l.Pairwise fun p q => p.1 < q.1) → l.Nodup :=
    fun hl => hl.imp fun hlt heq => absurd (heq ▸ hlt) (List.lt_irrefl _)
  have hperm : found.Perm found' :=
    (List.perm_ext_iff_of_nodup (hnodup h.pairwise_lt) (hnodup h'.pairwise_lt)).mpr hmem
  refine hperm.eq_of_pairwise ?_ h.pairwise_lt h'.pairwise_lt
  intro p q _ _ hlt hgt
  exact absurd hlt (lt_asymm hgt)

/-- What a finder looks through are the matches in document order. -/
theorem ListsMatches.hits_eq {f : Finder} {root : Node} {found : List (List Nat × Node)}
    (h : ListsMatches f.accepts root found) : f.hits root = found.map Prod.snd := by
  rw [h.eq_of_listsMatches (listsMatches_placed f.accepts root), Finder.hits, ← root.map_snd_placed,
    List.filter_map]
  rfl

end BotBindings.Html
