import Mathlib.Logic.Function.Basic
import WebPage.Proofs.Page.Structure
import WebPage.Proofs.Selector.Candidates

/-!
# What a chain of compounds means

A chain describes a node if its compounds can be placed on elements, the last one on that node, so
that neighbours stand to each other as the combinators between them say. The matcher goes through
the chain from its end and looks for the element of the next compound along the parents or the
siblings; where one choice fails it goes back and tries another. It finds a placement just if there
is one, and it ends, since the links that it walks along end.

## Main definitions

* `Combinator.Relates`: how two nodes stand to each other, read off the parents and the lists of
  children
* `Complex.Placed`: the compounds of a chain, placed on elements
* `Complex.Answers`: the search for a placement without a bound on its walks, and what it finds

## Main results

* `mem_candidates_iff`: where the matcher looks are the elements that stand as the combinator says
* `answers_iff`: the search without a bound ends, with the answer of the matcher
* `matches_iff_placed`: the matcher finds a placement just if there is one
* `matching_spec`: both together, and the walks along siblings that the search makes on its way
-/

namespace WebPage.Selector

variable {t : Tree} {a b n : NodeId}

/-! ## Placements -/

/-- How an element `a` stands to an element `b` with a combinator between them: above it, as its
parent, as the last element before it among the children of one node, or as any one before it. -/
def Combinator.Relates (t : Tree) (a b : NodeId) : Combinator → Prop
  | descendant => t.Above a b
  | child => t.parent (some b) = some a
  | nextSibling => ∃ p xs gap ys, t.childIds (some p) = xs ++ a :: (gap ++ b :: ys) ∧
      ∀ x ∈ gap, t.isElement (some x) = false
  | subsequentSibling => ∃ p xs gap ys, t.childIds (some p) = xs ++ a :: (gap ++ b :: ys)

/-- The compounds of a chain from left to right. -/
def Complex.compounds : Complex → List Compound
  | single compound => [compound]
  | join left _ right => left.compounds ++ [right]

/-- The combinators of a chain from left to right, each between two compounds. -/
def Complex.combinators : Complex → List Combinator
  | single _ => []
  | join left k _ => left.combinators ++ [k]

/-- The compounds of a chain are placed on the elements `e 0`, `e 1`, … as its combinators say. -/
structure Complex.Placed (t : Tree) (chain : Complex) (e : Nat → NodeId) : Prop where
  element : ∀ i < chain.compounds.length, t.isElement (some (e i)) = true
  compound : ∀ (i : Nat) (c : Compound), chain.compounds[i]? = some c → c.matches t (e i) = true
  combinator : ∀ (i : Nat) (k : Combinator), chain.combinators[i]? = some k →
    k.Relates t (e i) (e (i + 1))

theorem Complex.length_compounds :
    ∀ chain : Complex, chain.compounds.length = chain.combinators.length + 1
  | single _ => rfl
  | join left k right => by
    simp only [compounds, combinators, List.length_append, List.length_singleton,
      left.length_compounds]

/-! ## Where the matcher looks -/

/-- **The matcher looks at the elements that stand as the combinator says.** -/
theorem mem_candidates_iff (h : t.WellFormed) (k : Combinator) :
    a ∈ candidates t k b ↔ t.isElement (some a) = true ∧ k.Relates t a b := by
  -- what stands before `b` among the children of a node stands before it among its siblings
  have hsiblings : ∀ {p xs gap ys}, t.childIds (some p) = xs ++ a :: (gap ++ b :: ys) →
      t.earlierSiblings b = gap.reverse ++ a :: xs.reverse := by
    intro p xs gap ys hl
    rw [← List.cons_append, ← List.append_assoc] at hl
    rw [(h.siblings_of_split hl).1]
    simp
  have hsplit : ∀ {near far}, t.earlierSiblings b = near ++ a :: far →
      ∃ p ys, t.childIds (some p) = far.reverse ++ a :: (near.reverse ++ b :: ys) := by
    intro near far hl
    cases hp : t.parent (some b) with
    | none => simp [Tree.siblings_of_parent_eq_none hp] at hl
    | some p =>
      refine ⟨p, t.laterSiblings b, ?_⟩
      rw [h.childIds_eq_siblings hp, hl]
      simp
  cases k with
  | descendant =>
    rw [candidates_descendant h, List.mem_filter, Combinator.Relates, h.above_iff, and_comm]
  | child =>
    show a ∈ (parentElement t (some b)).toList ↔ _
    rw [Option.mem_toList, parentElement, Option.filter_eq_some_iff, Combinator.Relates, and_comm]
  | nextSibling =>
    show a ∈ (t.previousElementSibling (some b)).toList ↔ _
    rw [Option.mem_toList, h.previousElementSibling_eq, List.find?_eq_some_iff_append]
    constructor
    · rintro ⟨ha, near, far, hl, hnear⟩
      obtain ⟨p, ys, hp⟩ := hsplit hl
      exact ⟨ha, p, _, _, ys, hp, fun x hx => by simpa using hnear x (List.mem_reverse.mp hx)⟩
    · rintro ⟨ha, p, xs, gap, ys, hl, hgap⟩
      refine ⟨ha, _, _, hsiblings hl, fun x hx => ?_⟩
      simpa using hgap x (List.mem_reverse.mp hx)
  | subsequentSibling =>
    rw [candidates_subsequentSibling h, List.mem_filter, and_comm]
    refine and_congr_right fun _ => ?_
    constructor
    · intro ha
      obtain ⟨near, far, hl⟩ := List.append_of_mem ha
      obtain ⟨p, ys, hp⟩ := hsplit hl
      exact ⟨p, _, _, ys, hp⟩
    · rintro ⟨p, xs, gap, ys, hl⟩
      rw [hsiblings hl]
      simp

/-! ## The search without a bound -/

/-- A scan along `next` from `start` asks the nodes that it meets, one after the other, until one
answers yes or no node is left. -/
inductive Scan (next : NodeRef → NodeRef) (answers : NodeId → Bool → Prop) : NodeRef → Bool → Prop
  | exhausted : Scan next answers none false
  | found {x : NodeId} (hx : answers x true) : Scan next answers (some x) true
  | onward {x : NodeId} {found : Bool} (hx : answers x false)
      (h : Scan next answers (next (some x)) found) : Scan next answers (some x) found

/-- The node that is asked first on the left of a combinator. -/
def Combinator.nearest (t : Tree) (n : NodeId) : Combinator → NodeRef
  | descendant | child => parentElement t (some n)
  | nextSibling | subsequentSibling => t.previousElementSibling (some n)

/-- Where to go on after a node has answered no. -/
def Combinator.onward (t : Tree) : Combinator → NodeRef → NodeRef
  | descendant => parentElement t
  | subsequentSibling => t.previousElementSibling
  | child | nextSibling => fun _ => none

/-- The search for a chain at a node comes to an end with an answer. The walks of the search have no
bound: each goes on until a node answers yes or no node is left. -/
def Complex.Answers (t : Tree) : Complex → NodeId → Bool → Prop
  | .single compound, n, found => found = compound.matches t n
  | .join left k right, n, found =>
    if right.matches t n then Scan (k.onward t) (left.Answers t) (k.nearest t n) found
    else found = false

/-- A scan along a path that ends comes to an end, if each node that it asks answers. -/
theorem scan_iff {next : NodeRef → NodeRef} {answers : NodeId → Bool → Prop} {ask : NodeId → Bool}
    {start : NodeRef} {l : List NodeId} {found : Bool} (hl : Tree.Path next start l none)
    (hask : ∀ x b, answers x b ↔ b = ask x) :
    Scan next answers start found ↔ found = l.any ask := by
  induction l generalizing start with
  | nil =>
    obtain rfl : start = none := hl
    constructor
    · rintro ⟨⟩
      rfl
    · rintro rfl
      exact .exhausted
  | cons x l ih =>
    obtain ⟨rfl, hl⟩ := hl
    rw [List.any_cons]
    cases hx : ask x with
    | true =>
      rw [Bool.true_or]
      constructor
      · intro hs
        cases hs with
        | found => rfl
        | onward hno =>
          rw [hask, hx] at hno
          cases hno
      · rintro rfl
        exact .found ((hask x true).mpr hx.symm)
    | false =>
      rw [Bool.false_or, ← ih hl]
      constructor
      · intro hs
        cases hs with
        | found hyes =>
          rw [hask, hx] at hyes
          cases hyes
        | onward _ hs => exact hs
      · exact .onward ((hask x false).mpr hx.symm)

/-- What is asked on the left of a combinator is the whole walk, and the walk ends. -/
theorem path_candidates (h : t.WellFormed) (k : Combinator) (n : NodeId) :
    Tree.Path (k.onward t) (k.nearest t n) (candidates t k n) none := by
  -- without a walk there is one node at most
  have hone : ∀ start : NodeRef, Tree.Path (fun _ => none) start start.toList none := by
    intro start
    cases start with
    | none => rfl
    | some x => exact ⟨rfl, rfl⟩
  cases k with
  | descendant =>
    rw [candidates_descendant h]
    exact path_parentElement h n
  | subsequentSibling =>
    rw [candidates_subsequentSibling h]
    exact path_previousElementSibling h n
  | child | nextSibling => exact hone _

/-- **The search without a bound ends**, with the answer of the matcher and no other. -/
theorem answers_iff (h : t.WellFormed) :
    ∀ (chain : Complex) (n : NodeId) (found : Bool),
      chain.Answers t n found ↔ found = chain.matches t n
  | .single compound, n, found => by
    rw [Complex.Answers, Complex.matches]
  | .join left k right, n, found => by
    rw [Complex.Answers, Complex.matches]
    cases right.matches t n with
    | false => simp
    | true =>
      rw [if_pos rfl, Bool.true_and]
      exact scan_iff (path_candidates h k n) (answers_iff h left)

/-! ## The meaning of a chain -/

/-- A list with one member more, at an index. -/
theorem getElem?_concat_eq_some_iff {α : Type} {l : List α} {x y : α} {i : Nat} :
    (l ++ [x])[i]? = some y ↔ l[i]? = some y ∨ i = l.length ∧ y = x := by
  by_cases hi : i < l.length
  · rw [List.getElem?_append_left hi]
    simp [Nat.ne_of_lt hi]
  · rw [List.getElem?_append_right (Nat.le_of_not_lt hi), List.getElem?_eq_none_iff.mpr
      (Nat.le_of_not_lt hi), List.getElem?_singleton]
    by_cases he : i = l.length
    · simp [he, eq_comm]
    · have hne : i - l.length ≠ 0 := by omega
      simp [he, hne]

/-- **A chain is placed** if its left part is, and its last compound stands to this one as the
combinator between them says. -/
theorem placed_join_iff {left : Complex} {k : Combinator} {right : Compound} {e : Nat → NodeId} :
    (Complex.join left k right).Placed t e ↔
      left.Placed t e ∧ right.matches t (e left.compounds.length) = true ∧
        k.Relates t (e left.combinators.length) (e left.compounds.length) := by
  have hlen := left.length_compounds
  constructor
  · rintro ⟨helement, hcompound, hcombinator⟩
    refine ⟨⟨fun i hi => helement i ?_, fun i c hc => hcompound i c ?_,
      fun i k' hk => hcombinator i k' ?_⟩, hcompound _ right ?_, ?_⟩
    · rw [Complex.compounds, List.length_append]
      exact Nat.lt_add_right _ hi
    · exact getElem?_concat_eq_some_iff.mpr (.inl hc)
    · exact getElem?_concat_eq_some_iff.mpr (.inl hk)
    · exact getElem?_concat_eq_some_iff.mpr (.inr ⟨rfl, rfl⟩)
    · rw [hlen]
      exact hcombinator _ k (getElem?_concat_eq_some_iff.mpr (.inr ⟨rfl, rfl⟩))
  · rintro ⟨⟨helement, hcompound, hcombinator⟩, hright, hrelates⟩
    refine ⟨fun i hi => ?_, fun i c hc => ?_, fun i k' hk => ?_⟩
    · rw [Complex.compounds, List.length_append, List.length_singleton] at hi
      rcases Nat.lt_succ_iff_lt_or_eq.mp hi with hi | rfl
      · exact helement i hi
      · exact isElement_of_compound_matches hright
    · rcases getElem?_concat_eq_some_iff.mp hc with hc | ⟨rfl, rfl⟩
      · exact hcompound i c hc
      · exact hright
    · rcases getElem?_concat_eq_some_iff.mp hk with hk | ⟨rfl, rfl⟩
      · exact hcombinator i k' hk
      · rw [hlen] at hrelates
        exact hrelates

/-- A placement is about as many elements as there are compounds. -/
theorem Complex.Placed.congr {chain : Complex} {e e' : Nat → NodeId} (he : chain.Placed t e)
    (heq : ∀ i < chain.compounds.length, e' i = e i) : chain.Placed t e' := by
  have hlen := chain.length_compounds
  refine ⟨fun i hi => ?_, fun i c hc => ?_, fun i k hk => ?_⟩
  · rw [heq i hi]
    exact he.element i hi
  · rw [heq i (List.getElem?_eq_some_iff.mp hc).1]
    exact he.compound i c hc
  · have hi : i < chain.combinators.length := (List.getElem?_eq_some_iff.mp hk).1
    rw [heq i (by omega), heq (i + 1) (by omega)]
    exact he.combinator i k hk

/-- A single compound is placed on an element that it describes. -/
theorem exists_placed_single_iff {compound : Compound} :
    (∃ e, (Complex.single compound).Placed t e ∧ e 0 = n) ↔ compound.matches t n = true := by
  constructor
  · rintro ⟨e, he, rfl⟩
    exact he.compound 0 compound rfl
  · intro hn
    refine ⟨fun _ => n, ⟨fun _ _ => isElement_of_compound_matches hn, fun i c hc => ?_,
      fun i k hk => ?_⟩, rfl⟩
    · obtain rfl : c = compound := List.mem_singleton.mp (List.mem_of_getElem? hc)
      exact hn
    · simp [Complex.combinators] at hk

/-- **A chain is placed with its end on a node** if the node passes the last compound, and the rest
of the chain is placed with its end on an element that stands right. -/
theorem exists_placed_join_iff {left : Complex} {k : Combinator} {right : Compound} :
    (∃ e, (Complex.join left k right).Placed t e ∧ e left.compounds.length = n) ↔
      right.matches t n = true ∧ ∃ a, k.Relates t a n ∧
        ∃ e, left.Placed t e ∧ e left.combinators.length = a := by
  have hlt : left.combinators.length < left.compounds.length := by
    rw [left.length_compounds]
    exact Nat.lt_succ_self _
  simp only [placed_join_iff]
  constructor
  · rintro ⟨e, ⟨he, hright, hk⟩, rfl⟩
    exact ⟨hright, e left.combinators.length, hk, e, he, rfl⟩
  · rintro ⟨hright, a, hk, e, he, rfl⟩
    -- the last compound gets the node, and the others keep their elements
    have hkeep : ∀ i < left.compounds.length,
        Function.update e left.compounds.length n i = e i :=
      fun i hi => Function.update_of_ne (Nat.ne_of_lt hi) n e
    have hnew : Function.update e left.compounds.length n left.compounds.length = n :=
      Function.update_self _ n e
    refine ⟨_, ⟨he.congr hkeep, ?_, ?_⟩, hnew⟩
    · rw [hnew]
      exact hright
    · rw [hnew, hkeep _ hlt]
      exact hk

/-- **The matcher finds a placement just if there is one.** The choice of an element for the last
compound but one is open, so the rest of the chain is asked about each that stands right. -/
theorem matches_iff_placed (h : t.WellFormed) : ∀ (chain : Complex) (n : NodeId),
    chain.matches t n = true ↔ ∃ e, chain.Placed t e ∧ e chain.combinators.length = n
  | .single compound, n => by
    rw [Complex.matches]
    exact exists_placed_single_iff.symm
  | .join left k right, n => by
    have hlast : (Complex.join left k right).combinators.length = left.compounds.length := by
      rw [Complex.combinators, List.length_append, List.length_singleton, left.length_compounds]
    rw [Complex.matches, Bool.and_eq_true, List.any_eq_true, hlast, exists_placed_join_iff]
    refine and_congr_right fun _ => exists_congr fun a => ?_
    rw [mem_candidates_iff h, matches_iff_placed h left]
    constructor
    · rintro ⟨⟨-, hk⟩, hleft⟩
      exact ⟨hk, hleft⟩
    · rintro ⟨hk, e, he, rfl⟩
      refine ⟨⟨he.element _ ?_, hk⟩, e, he, rfl⟩
      rw [left.length_compounds]
      exact Nat.lt_succ_self _

/-- **The matcher finds what a chain means.** A node matches a chain just if the compounds can be
placed on elements, the last one on this node, so that neighbours stand to each other as the
combinators between them say. The search from the end of the chain would come to an end without any
bound, and with the same answer. So would the walks along siblings that look for the nearest
element. -/
theorem matching_spec (h : t.WellFormed) (chain : Complex) (n : NodeId) :
    (chain.matches t n = true ↔
      ∃ e : Nat → NodeId, chain.Placed t e ∧ e chain.combinators.length = n) ∧
    (∀ found, chain.Answers t n found ↔ found = chain.matches t n) ∧
    ∀ x, Tree.Path t.prevSibling (t.prevSibling (some x)) (t.earlierSiblings x) none ∧
      t.previousElementSibling (some x) =
        (t.earlierSiblings x).find? fun y => t.isElement (some y) :=
  ⟨matches_iff_placed h chain n, answers_iff h chain n,
    fun x => ⟨(h.path_siblings x).1, h.previousElementSibling_eq x⟩⟩

/-- A list of two items, with a blank between them and `b` in the second one. -/
def twoItems : Page :=
  Page.afterCalls { document := .skeleton "about:blank" }
    [.createElement "ul", .createElement "li", .createText " ", .createElement "li",
      .createElement "b", .appendChild (some 3) (some 4), .appendChild (some 4) (some 5),
      .appendChild (some 4) (some 6), .appendChild (some 4) (some 7),
      .appendChild (some 7) (some 8)]

/-- The selector `html > * li + li b` describes `b`: of the elements above the first item, the list
is no child of `html`, so the search goes on to `body`. -/
theorem matching_spec_twoItems :
    let t := twoItems.document.tree
    let named (tag : String) : Compound := .mk (some tag) []
    let chain : Complex := .join (.join (.join (.join (.single (named "html")) .child (named "*"))
      .descendant (named "li")) .nextSibling (named "li")) .descendant (named "b")
    t.WellFormed ∧ (∃ e : Nat → NodeId, chain.Placed t e ∧ e 4 = 8) ∧ chain.Answers t 8 true := by
  intro t named chain
  have hskeleton : Page.HasWellFormedTree { document := .skeleton "about:blank" } :=
    Tree.wellFormed_skeletonTree
  have h : t.WellFormed := Page.afterCalls_keeps StructuralCall.keeps_wellFormed hskeleton _
  have hmatches : chain.matches t 8 = true := by decide +kernel
  obtain ⟨hplaced, hanswers, -⟩ := matching_spec h chain 8
  obtain ⟨e, he, hlast⟩ := hplaced.mp hmatches
  refine ⟨h, ⟨e, he, hlast⟩, ?_⟩
  rw [hanswers, hmatches]

end WebPage.Selector
