import BotBindings.Proofs.Html.TreeOrder
import Mathlib.Data.List.Induction

/-!
# Calls of a finder

A finder keeps one number, how many matches it has handed out since its last reset. It may be asked
for the next match or for all that are left, below one node or now below another, in any order. This
file says what each call gives after any calls before it. As long as all calls are about one node,
what they give together is the start of the list of its matches, so no match is left out and none
comes twice.
-/

namespace BotBindings.Html

/-- A call of a finder. -/
inductive FinderCall
  /-- For the next match below a node. -/
  | next (root : Node)
  /-- For all matches below a node that are left. -/
  | all (root : Node)
  | reset

/-- Whether the call starts the search afresh. -/
def FinderCall.isReset : FinderCall → Bool
  | .reset => true
  | _ => false

/-- The call is for matches below the given node. -/
def FinderCall.IsAbout (root : Node) (call : FinderCall) : Prop :=
  call = .next root ∨ call = .all root

/-- The calls of a finder so far, each with what it gave. -/
abbrev FinderLog := List (FinderCall × List Node)

namespace FinderLog

/-- The calls after the last reset. -/
def sinceReset (log : FinderLog) : FinderLog :=
  (log.reverse.takeWhile fun entry => !entry.1.isReset).reverse

/-- The matches that were handed out since the last reset. -/
def handedOut (log : FinderLog) : List Node :=
  log.sinceReset.flatMap Prod.snd

/-- All calls since the last reset are about the given node. -/
def IsAbout (root : Node) (log : FinderLog) : Prop :=
  ∀ entry ∈ log.sinceReset, entry.1.IsAbout root

/-- Since the last reset the finder was asked for all matches, or had no next one to give. -/
def IsExhausted (log : FinderLog) : Prop :=
  (∃ root found, (.all root, found) ∈ log.sinceReset) ∨ ∃ root, (.next root, []) ∈ log.sinceReset

/-- The matches that were handed out are the start of a list, and all of it once none was left. -/
structure HandsOut (nodes : List Node) (log : FinderLog) : Prop where
  start : log.handedOut <+: nodes
  complete : log.IsExhausted → log.handedOut = nodes

variable {log : FinderLog} {call : FinderCall} {found : List Node} {root : Node}

private theorem handsOut_of_sinceReset_eq_nil {nodes : List Node} (h : log.sinceReset = []) :
    log.HandsOut nodes := by
  constructor <;> simp [handedOut, IsExhausted, h]

private theorem sinceReset_append_singleton (log : FinderLog) (entry : FinderCall × List Node) :
    sinceReset (log ++ [entry]) = if entry.1.isReset then [] else log.sinceReset ++ [entry] := by
  rw [sinceReset, List.reverse_append, List.reverse_singleton, List.singleton_append,
    List.takeWhile_cons]
  cases entry.1.isReset <;> simp [sinceReset]

private theorem sinceReset_append_reset (log : FinderLog) (found : List Node) :
    sinceReset (log ++ [(.reset, found)]) = [] := by
  rw [sinceReset_append_singleton]
  rfl

private theorem sinceReset_append_of_search (hcall : call.isReset = false) :
    sinceReset (log ++ [(call, found)]) = log.sinceReset ++ [(call, found)] := by
  rw [sinceReset_append_singleton, hcall]
  rfl

private theorem handedOut_append_reset (log : FinderLog) (found : List Node) :
    handedOut (log ++ [(.reset, found)]) = [] := by
  rw [handedOut, sinceReset_append_reset]
  rfl

private theorem handedOut_append_of_search (hcall : call.isReset = false) :
    handedOut (log ++ [(call, found)]) = log.handedOut ++ found := by
  simp [handedOut, sinceReset_append_of_search hcall]

private theorem isAbout_append_of_search (hcall : call.isReset = false) :
    IsAbout root (log ++ [(call, found)]) ↔ log.IsAbout root ∧ call.IsAbout root := by
  simp [IsAbout, sinceReset_append_of_search hcall, or_imp, forall_and]

private theorem isExhausted_append_next :
    IsExhausted (log ++ [(.next root, found)]) ↔ log.IsExhausted ∨ found = [] := by
  have hcall : (FinderCall.next root).isReset = false := rfl
  simp [IsExhausted, sinceReset_append_of_search hcall, exists_or, or_assoc]

end FinderLog

namespace Finder

/-- What a call gives, and the finder after it. -/
def answer (f : Finder) : FinderCall → List Node × Finder
  | .next root => ((f.findNext root).1.toList, (f.findNext root).2)
  | .all root => f.findAll root
  | .reset => ([], f.reset)

/-- Calls one after the other: what each of them gave, and the finder after the last. -/
def run (f : Finder) : List FinderCall → FinderLog × Finder
  | [] => ([], f)
  | call :: calls =>
    ((call, (f.answer call).1) :: ((f.answer call).2.run calls).1, ((f.answer call).2.run calls).2)

private theorem run_append_singleton (f : Finder) (calls : List FinderCall) (call : FinderCall) :
    f.run (calls ++ [call]) = ((f.run calls).1 ++ [(call, ((f.run calls).2.answer call).1)],
      ((f.run calls).2.answer call).2) := by
  induction calls generalizing f with
  | nil => rfl
  | cons first calls ih => simp [run, ih]

/-! ## One call -/

/-- The next match is the first of those that are left. -/
theorem findNext_of_drop_eq_cons {f : Finder} {root node : Node} {rest : List Node}
    (h : (f.hits root).drop f.yielded = node :: rest) :
    f.findNext root = (some node, { f with yielded := f.yielded + 1 }) := by
  rw [findNext, ← List.head?_drop, h]
  rfl

private theorem findNext_of_drop_eq_nil {f : Finder} {root : Node}
    (h : (f.hits root).drop f.yielded = []) : f.findNext root = (none, f) := by
  rw [findNext, ← List.head?_drop, h]
  rfl

private theorem findAll_of_drop_eq {f : Finder} {root : Node} {rest : List Node}
    (h : (f.hits root).drop f.yielded = rest) :
    f.findAll root = (rest, { f with yielded := f.yielded + rest.length }) := by
  rw [findAll, h]

/-- A call changes the count by as many matches as it gives, unless it resets the count. -/
theorem answer_snd (f : Finder) (call : FinderCall) :
    (f.answer call).2 = { f with yielded :=
      if call.isReset then 0 else f.yielded + (f.answer call).1.length } := by
  cases call with
  | next root =>
    cases hrest : (f.hits root).drop f.yielded with
    | nil => rw [answer, findNext_of_drop_eq_nil hrest]; rfl
    | cons node rest => rw [answer, findNext_of_drop_eq_cons hrest]; rfl
  | all root => rfl
  | reset => rfl

/-! ## Any calls -/

/-- The count is the number of matches handed out since the last reset. -/
theorem run_snd (accepts : Node → Bool) (calls : List FinderCall) :
    (run ⟨accepts, 0⟩ calls).2 = ⟨accepts, (run ⟨accepts, 0⟩ calls).1.handedOut.length⟩ := by
  induction calls using List.reverseRecOn with
  | nil => rfl
  | append_singleton calls call ih =>
    rw [run_append_singleton, answer_snd, ih]
    cases hcall : call.isReset with
    | true =>
      obtain rfl : call = .reset := by cases call <;> first | rfl | cases hcall
      rw [FinderLog.handedOut_append_reset]
      rfl
    | false =>
      rw [FinderLog.handedOut_append_of_search hcall, List.length_append]
      rfl

/-- What is left of the matches begins where those that were handed out end. -/
theorem drop_hits {accepts : Node → Bool} {log : FinderLog} {root : Node} {rest : List Node}
    (h : log.handedOut ++ rest = hits ⟨accepts, 0⟩ root) :
    (hits ⟨accepts, log.handedOut.length⟩ root).drop log.handedOut.length = rest := by
  change (hits ⟨accepts, 0⟩ root).drop _ = rest
  rw [← h, List.drop_left]

/-- A search below a node whose matches are handed out goes on handing them out. -/
theorem handsOut_answer {accepts : Node → Bool} {log : FinderLog} {call : FinderCall} {root : Node}
    (h : log.HandsOut (hits ⟨accepts, 0⟩ root)) (habout : call.IsAbout root) :
    FinderLog.HandsOut (hits ⟨accepts, 0⟩ root)
      (log ++ [(call, (answer ⟨accepts, log.handedOut.length⟩ call).1)]) := by
  obtain ⟨⟨rest, hrest⟩, hcomplete⟩ := h
  have hcall : call.isReset = false := by rcases habout with rfl | rfl <;> rfl
  have hout : ∀ found, FinderLog.handedOut (log ++ [(call, found)]) = log.handedOut ++ found :=
    fun found => FinderLog.handedOut_append_of_search hcall
  rcases habout with rfl | rfl
  · cases rest with
    | nil =>
      rw [answer, findNext_of_drop_eq_nil (drop_hits hrest), ← hrest]
      constructor <;> simp [hout]
    | cons node rest =>
      rw [answer, findNext_of_drop_eq_cons (drop_hits hrest)]
      refine ⟨⟨rest, by simp [hout, ← hrest]⟩, fun hexhausted => ?_⟩
      have hbefore := FinderLog.isExhausted_append_next.mp hexhausted
      have hnil := hcomplete (hbefore.resolve_right (List.cons_ne_nil node []))
      simp [← hrest] at hnil
  · rw [answer, findAll_of_drop_eq (drop_hits hrest), ← hrest]
    constructor <;> simp [hout]

/-- As long as all calls are about one node, they hand out its matches. -/
theorem handsOut_run {accepts : Node → Bool} {calls : List FinderCall} {root : Node}
    (h : (run ⟨accepts, 0⟩ calls).1.IsAbout root) :
    (run ⟨accepts, 0⟩ calls).1.HandsOut (hits ⟨accepts, 0⟩ root) := by
  induction calls using List.reverseRecOn with
  | nil => exact FinderLog.handsOut_of_sinceReset_eq_nil rfl
  | append_singleton calls call ih =>
    rw [run_append_singleton, run_snd] at h ⊢
    cases hcall : call.isReset with
    | true =>
      obtain rfl : call = .reset := by cases call <;> first | rfl | cases hcall
      exact FinderLog.handsOut_of_sinceReset_eq_nil (FinderLog.sinceReset_append_reset _ _)
    | false =>
      obtain ⟨hbefore, habout⟩ := (FinderLog.isAbout_append_of_search hcall).mp h
      exact handsOut_answer (ih hbefore) habout

/-- Each call, after any calls of a finder, sees the matches below its node in document order
without as many as were handed out since the last reset. A search for the next gives the first of
these and counts it, or nothing; a search for all gives and counts them all. As long as all calls
since the reset are about one node, they have given the start of the list of its matches, and all of
it once there was nothing left, so of two such series of calls one gives the start of what the other
gives. -/
theorem run_by_matches (accepts : Node → Bool) (calls : List FinderCall) :
    let log := (run ⟨accepts, 0⟩ calls).1
    let f := (run ⟨accepts, 0⟩ calls).2
    (∀ root, ∃ found, ListsMatches accepts root found) ∧
      f = ⟨accepts, log.handedOut.length⟩ ∧ f.reset = ⟨accepts, 0⟩ ∧
      ∀ root found, ListsMatches accepts root found →
        (∀ rest, rest = (found.map Prod.snd).drop log.handedOut.length →
          (rest = [] → f.findNext root = (none, f)) ∧
          (∀ node others, rest = node :: others →
            f.findNext root = (some node, ⟨accepts, log.handedOut.length + 1⟩)) ∧
          f.findAll root = (rest, ⟨accepts, log.handedOut.length + rest.length⟩)) ∧
        (log.IsAbout root →
          log.handedOut <+: found.map Prod.snd ∧
          (log.IsExhausted → log.handedOut = found.map Prod.snd) ∧
          ∀ otherCalls, (run ⟨accepts, 0⟩ otherCalls).1.IsAbout root →
            log.handedOut <+: (run ⟨accepts, 0⟩ otherCalls).1.handedOut ∨
            (run ⟨accepts, 0⟩ otherCalls).1.handedOut <+: log.handedOut) := by
  intro log f
  have hf : f = ⟨accepts, log.handedOut.length⟩ := run_snd accepts calls
  refine ⟨fun root => ⟨_, listsMatches_placed accepts root⟩, hf, by rw [hf]; rfl, ?_⟩
  intro root found hfound
  have hhits : hits ⟨accepts, 0⟩ root = found.map Prod.snd := ListsMatches.hits_eq hfound
  refine ⟨fun rest hrest => ?_, fun habout => ?_⟩
  · have hdrop : (f.hits root).drop f.yielded = rest := by
      rw [hrest, ← hhits, hf]
      rfl
    have hall := findAll_of_drop_eq hdrop
    refine ⟨fun hnil => findNext_of_drop_eq_nil (hdrop.trans hnil), fun node others hcons => ?_, ?_⟩
    · rw [findNext_of_drop_eq_cons (hdrop.trans hcons), hf]
    · rw [hall, hf]
  · obtain ⟨hstart, hcomplete⟩ := handsOut_run habout
    rw [hhits] at hstart hcomplete
    refine ⟨hstart, hcomplete, fun otherCalls hother => ?_⟩
    have hother_start := (handsOut_run hother).start
    rw [hhits] at hother_start
    exact List.prefix_or_prefix_of_prefix hstart hother_start

/-! ## A list within a list -/

/-- An item that holds a list with one item. -/
def outerItem : Node :=
  .element "li" [] [.text "A", .element "ul" [] [.element "li" [] [.text "B"]]]

/-- A list of that item and another one. -/
def nestedList : Node :=
  .element "ul" [] [.text " ", outerItem, .element "li" [] [.text "C"]]

/-- The items of the list, with the ways to them. -/
def nestedItems : List (List Nat × Node) :=
  [([1], outerItem), ([1, 1, 0], .element "li" [] [.text "B"]), ([2], .element "li" [] [.text "C"])]

private theorem listsMatches_nestedItems : ListsMatches (tag "li").accepts nestedList nestedItems :=
  listsMatches_placed (tag "li").accepts nestedList

/-- A search below the first item, a reset and two searches below the list. -/
def nestedCalls : List FinderCall :=
  [.all outerItem, .reset, .next nestedList, .all nestedList]

private theorem sinceReset_nestedCalls :
    (run (tag "li") nestedCalls).1.sinceReset = [(.next nestedList, [outerItem]),
      (.all nestedList, [.element "li" [] [.text "B"], .element "li" [] [.text "C"]])] :=
  rfl

/-- The item within an item comes after it and before the next one, and after all three there is
none. A single search for the next gives the start of that. -/
theorem run_by_matches_nestedList :
    ListsMatches (tag "li").accepts nestedList nestedItems ∧
      (run (tag "li") nestedCalls).1.IsAbout nestedList ∧
      (run (tag "li") nestedCalls).1.IsExhausted ∧
      (run (tag "li") nestedCalls).1.handedOut = nestedItems.map Prod.snd ∧
      (run (tag "li") nestedCalls).2.findNext nestedList = (none, (run (tag "li") nestedCalls).2) ∧
      (run (tag "li") [.next nestedList]).1.handedOut <+: nestedItems.map Prod.snd := by
  have habout : (run (tag "li") nestedCalls).1.IsAbout nestedList := by
    rw [FinderLog.IsAbout, sinceReset_nestedCalls]
    simp [FinderCall.IsAbout]
  have hexhausted : (run (tag "li") nestedCalls).1.IsExhausted := by
    rw [FinderLog.IsExhausted, sinceReset_nestedCalls]
    exact Or.inl ⟨nestedList, _, List.mem_cons_of_mem _ List.mem_cons_self⟩
  have hfirst : (run (tag "li") [.next nestedList]).1.IsAbout nestedList := by
    intro entry hentry
    rw [List.mem_singleton.mp hentry]
    exact Or.inl rfl
  obtain ⟨-, -, -, hcalls⟩ := run_by_matches (tag "li").accepts nestedCalls
  obtain ⟨hcall, hsearch⟩ := hcalls nestedList nestedItems listsMatches_nestedItems
  obtain ⟨-, hcomplete, -⟩ := hsearch habout
  obtain ⟨-, -, -, hcalls'⟩ := run_by_matches (tag "li").accepts [.next nestedList]
  obtain ⟨hstart, -, -⟩ := (hcalls' nestedList nestedItems listsMatches_nestedItems).2 hfirst
  exact ⟨listsMatches_nestedItems, habout, hexhausted, hcomplete hexhausted,
    (hcall [] rfl).1 rfl, hstart⟩

end Finder

end BotBindings.Html
