import Mathlib.Data.List.Basic
import Mathlib.Logic.Relation
import WebPage.Proofs.Tree.Loading
import WebPage.Proofs.Tree.Preorder

/-!
# The walks of a tree agree

The walk down is a loop that keeps the nodes still to be visited on a stack. The walk up follows the
links to the parents and knows nothing of it. In a well-formed tree both say the same: the loop ends
by itself, it visits the children of a node one after the other and each with what is below it, and
a node is visited just if the walk up from it comes by the start.

## Main definitions

* `Descent`, `Descent.turn`: the walk down on its way, and one turn of its loop
* `WalksAgree t a n`: what the walks down from `a` and up from `n` have to do with one another

## Main results

* `Walk.turns`: the loop visits what the walk visits, and then has nothing left to do
* `WellFormed.eq_descendants`: the walk down is the only solution of its recursion
* `WellFormed.treeRoot_eq_some_iff`: the root of a node is the one node without parent that
  contains it
* `walks_agree`: all of this together
-/

namespace WebPage.Tree

variable {t : Tree} {a n r x : NodeId} {stack l : List NodeId}

/-! ## The loop of the walk down -/

/-- The walk down on its way: the nodes that it has visited, and those that it still has to visit,
the next one last. -/
structure Descent where
  visited : List NodeId
  pending : List NodeId

/-- One turn of the loop takes the last node off the stack, visits it and puts its children on the
stack in reverse order, so that the first child is next. With an empty stack there is no turn. -/
def Descent.turn (t : Tree) (w : Descent) : Option Descent :=
  w.pending.getLast?.map fun x =>
    ⟨w.visited ++ [x], w.pending.dropLast ++ (t.childIds (some x)).reverse⟩

/-- Some number of turns lead from one state of the loop to another. -/
def Descent.Turns (t : Tree) : Descent → Descent → Prop :=
  Relation.ReflTransGen fun w w' => w.turn t = some w'

/-- **The loop visits what the walk visits**, after what it has visited before, and then has nothing
left to do. -/
theorem Walk.turns (h : Walk t stack l) (visited : List NodeId) :
    Descent.Turns t ⟨visited, stack.reverse⟩ ⟨visited ++ l, []⟩ := by
  induction h generalizing visited with
  | done =>
    rw [List.append_nil]
    exact .refl
  | @visit x stack l _ ih =>
    -- after the turn for `x`, the children of `x` lie on what was below `x` on the stack
    have hturn : Descent.turn t ⟨visited, (x :: stack).reverse⟩ =
        some ⟨visited ++ [x], (t.childIds (some x) ++ stack).reverse⟩ := by
      simp [Descent.turn]
    have hrest := ih (visited ++ [x])
    rw [List.append_assoc, List.singleton_append] at hrest
    exact .head hturn hrest

namespace WellFormed

/-- **The walk down is the only solution of its recursion**: what lists the children of each node,
each followed by what it lists for the child, lists the nodes below. -/
theorem eq_descendants (h : t.WellFormed) {below : NodeId → List NodeId}
    (hb : ∀ x, below x = (t.childIds (some x)).flatMap fun c => c :: below c) (x : NodeId) :
    below x = t.descendants (some x) := by
  induction x using h.child_induction with
  | step x ih =>
    rw [hb, h.descendants_eq_flatMap]
    refine List.flatMap_congr fun c hc => ?_
    rw [ih c hc]

/-! ## The root of a node -/

/-- **The root of a node is the one node without parent that contains it.** -/
theorem treeRoot_eq_some_iff (h : t.WellFormed) :
    t.treeRoot (some n) = some r ↔
      t.parent (some r) = none ∧ t.contains (some r) (some n) = true := by
  rw [treeRoot_eq_getLast?]
  constructor
  · intro hr
    obtain ⟨l, hl⟩ := List.getLast?_eq_some_iff.mp hr
    have hway : Path t.parent (some n) (n :: t.ancestors (some n)) none :=
      ⟨rfl, h.path_ancestors (some n)⟩
    have hmem : r ∈ n :: t.ancestors (some n) := List.mem_of_getLast? hr
    refine ⟨?_, ?_⟩
    · rw [hl] at hway
      exact hway.next_eq_head?
    · rw [contains_iff_eq_or_mem]
      exact List.mem_cons.mp hmem
  · rintro ⟨hparent, hcontains⟩
    -- above `r` there is nothing, so `r` is where the way up ends
    obtain ⟨l, hl⟩ := h.exists_way_of_contains hcontains
    rw [hl, h.ancestors_eq_nil hparent, List.getLast?_concat]

/-- A node is connected just if it is the document node or visited by the walk down from there. -/
theorem isConnected_iff (h : t.WellFormed) :
    t.isConnected (some n) = true ↔
      n = documentNode ∨ n ∈ t.descendants (some documentNode) := by
  have hdocument : t.parent (some documentNode) = none :=
    h.rootless _ _ ((h.document_iff documentNode).mpr rfl) rfl
  have hroot : t.treeRoot (some n) = some documentNode ↔
      n = documentNode ∨ n ∈ t.descendants (some documentNode) := by
    rw [h.treeRoot_eq_some_iff, h.contains_iff_mem_descendants]
    simp [hdocument]
  rw [isConnected, Bool.and_eq_true, beq_iff_eq, hroot, ← isSome_kind?]
  refine and_iff_right_of_imp fun hn => ?_
  rcases hn with rfl | hn
  · rw [(h.document_iff documentNode).mpr rfl]
    rfl
  · -- what is visited is below something, so it is there
    exact h.isSome_of_mem_ancestors (h.mem_descendants_iff.mp hn)

end WellFormed

/-! ## The walks together -/

/-- What the walk down from `a` and the walk up from `n` have to do with one another. -/
structure WalksAgree (t : Tree) (a n : NodeId) : Prop where
  /-- The children that a turn puts on the stack are met by following the links from the first one
  to the next, until there is no next one. -/
  across : ∀ x, Path t.nextSibling (t.firstChild (some x)) (t.childIds (some x)) none
  /-- The loop starts with the children of `a` on its stack, and ends with an empty stack when it
  has visited the nodes below `a`. -/
  ends : Descent.Turns t ⟨[], (t.childIds (some a)).reverse⟩ ⟨t.descendants (some a), []⟩
  recursive : t.descendants (some a) =
    (t.childIds (some a)).flatMap fun c => c :: t.descendants (some c)
  /-- The recursion has no other solution. -/
  determined : ∀ below : NodeId → List NodeId,
    (∀ x, below x = (t.childIds (some x)).flatMap fun c => c :: below c) →
      below a = t.descendants (some a)
  nodup : (t.descendants (some a)).Nodup
  /-- The walk up follows the links to the parents until there is no parent. -/
  upwards : Path t.parent (t.parent (some n)) (t.ancestors (some n)) none
  mem_iff_ancestor : n ∈ t.descendants (some a) ↔ n ≠ a ∧ a ∈ t.ancestors (some n)
  mem_iff_contains : n ∈ t.descendants (some a) ↔
    t.contains (some a) (some n) = true ∧ n ≠ a
  root : ∃ r, t.treeRoot (some n) = some r ∧
    ∀ x, t.parent (some x) = none ∧ t.contains (some x) (some n) = true ↔ x = r
  connected : t.isConnected (some n) = true ↔
    n = documentNode ∨ n ∈ t.descendants (some documentNode)

/-- **The walks of a well-formed tree agree.** The loop of the walk down ends, and visits the
children of a node one after the other, each followed by what is below it, and nothing twice. It
visits a node just if the start is another node that the walk up from there comes by. The walk up
ends in the one node without parent that contains the node, and this is the document node just for
the document node and what the walk down from it visits. -/
theorem walks_agree (h : t.WellFormed) (a n : NodeId) : t.WalksAgree a n := by
  have hself : a ∉ t.descendants (some a) := (List.nodup_cons.mp (h.nodup_cons_descendants a)).1
  have hne : n ∈ t.descendants (some a) → n ≠ a := by
    rintro hn rfl
    exact hself hn
  refine ⟨fun x => (h.childList x).forward, (h.walk_descendants a).turns [],
    h.descendants_eq_flatMap a, fun below hb => h.eq_descendants hb a, h.nodup_descendants a,
    h.path_ancestors (some n), ?_, ?_, ?_, h.isConnected_iff⟩
  · rw [← h.mem_descendants_iff]
    exact (and_iff_right_of_imp hne).symm
  · rw [h.contains_iff_mem_descendants]
    constructor
    · intro hn
      exact ⟨.inr hn, hne hn⟩
    · rintro ⟨rfl | hn, hna⟩
      · exact absurd rfl hna
      · exact hn
  · obtain ⟨r, hr⟩ : ∃ r, t.treeRoot (some n) = some r := by
      rw [treeRoot_eq_getLast?, List.getLast?_cons]
      exact ⟨_, rfl⟩
    refine ⟨r, hr, fun x => ?_⟩
    rw [← h.treeRoot_eq_some_iff, hr, Option.some.injEq, eq_comm]

/-- In an empty page the walk down from the document node meets `html`, `head` and `body`. -/
theorem walks_agree_skeletonTree :
    Document.skeletonTree.WellFormed ∧ Document.skeletonTree.WalksAgree documentNode 3 ∧
      Document.skeletonTree.descendants (some documentNode) = [1, 2, 3] :=
  ⟨wellFormed_skeletonTree, walks_agree wellFormed_skeletonTree documentNode 3, by decide⟩

end WebPage.Tree
