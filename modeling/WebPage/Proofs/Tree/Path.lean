import WebPage.Tree.Basic

/-!
# Paths along links

A path says which nodes are met by following one kind of link from a reference, and where that
leads. Unlike the bounded walks of a tree it has no bound: a path that ends at no node is the
whole chain of links, so it repeats no node, and every bound that is long enough finds it.

## Main definitions

* `Path next start l stop`: following `next` from `start` meets the nodes `l` and arrives at `stop`

## Main results

* `Path.unique`, `Path.nodup`: a path that ends is determined by its start and repeats no node
* `Path.chain_eq`: a bounded walk along a path that ends is the path
* `Path.bypass`: the path after every link to one node leads to its successor instead
* `Path.insert`: the path after one node was put between two others
-/

namespace WebPage.Tree

/-- Following `next` from `start` meets exactly the nodes of a list, in order, and arrives at
`stop`. -/
def Path (next : NodeRef → NodeRef) : NodeRef → List NodeId → NodeRef → Prop
  | start, [], stop => start = stop
  | start, id :: l, stop => start = some id ∧ Path next (next (some id)) l stop

namespace Path

variable {next next' : NodeRef → NodeRef} {start stop : NodeRef} {l l' xs ys : List NodeId}
  {c : NodeId}

theorem append_iff :
    Path next start (xs ++ ys) stop ↔ ∃ mid, Path next start xs mid ∧ Path next mid ys stop := by
  induction xs generalizing start with
  | nil => simp [Path]
  | cons x xs ih =>
    simp only [List.cons_append, Path, ih]
    constructor
    · rintro ⟨rfl, mid, hx, hy⟩
      exact ⟨mid, ⟨rfl, hx⟩, hy⟩
    · rintro ⟨mid, ⟨rfl, hx⟩, hy⟩
      exact ⟨rfl, mid, hx, hy⟩

theorem start_eq_head? (h : Path next start l none) : start = l.head? := by
  cases l with
  | nil => exact h
  | cons x l => exact h.1

/-- The link of a node on a path leads to the node after it. -/
theorem next_eq_head? (h : Path next start (xs ++ c :: ys) none) : next (some c) = ys.head? := by
  obtain ⟨mid, -, -, h⟩ := append_iff.mp h
  exact h.start_eq_head?

/-- A path depends on the links of its own nodes only. -/
theorem congr (h : Path next start l stop) (hn : ∀ d ∈ l, next' (some d) = next (some d)) :
    Path next' start l stop := by
  induction l generalizing start with
  | nil => exact h
  | cons x l ih =>
    obtain ⟨rfl, h⟩ := h
    refine ⟨rfl, ?_⟩
    rw [hn x List.mem_cons_self]
    exact ih h fun d hd => hn d (List.mem_cons_of_mem x hd)

theorem unique (h : Path next start l none) (h' : Path next start l' none) : l = l' := by
  induction l generalizing start l' with
  | nil =>
    obtain rfl : start = none := h
    cases l' with
    | nil => rfl
    | cons y l' => exact absurd h'.1 (by simp)
  | cons x l ih =>
    obtain ⟨rfl, h⟩ := h
    cases l' with
    | nil => exact absurd h' (by simp [Path])
    | cons y l' =>
      obtain ⟨hy, h'⟩ := h'
      obtain rfl : x = y := Option.some.inj hy
      rw [ih h h']

/-- A chain of links that ends meets no node twice: after a second visit it would go round. -/
theorem nodup (h : Path next start l none) : l.Nodup := by
  induction l generalizing start with
  | nil => exact List.nodup_nil
  | cons x l ih =>
    refine List.nodup_cons.mpr ⟨fun hx => ?_, ih h.2⟩
    obtain ⟨as, bs, rfl⟩ := List.append_of_mem hx
    obtain ⟨mid, -, hmid, h'⟩ := append_iff.mp h.2
    -- the path from the first visit of `x` and the one from the second are the same
    have he : x :: (as ++ x :: bs) = x :: bs := unique ⟨rfl, h.2⟩ ⟨rfl, h'⟩
    have hl := congrArg List.length he
    simp only [List.length_cons, List.length_append] at hl
    omega

/-- A bounded walk along a path that ends is the path. -/
theorem chain_eq (h : Path next start l none) {bound : Nat} (hb : l.length ≤ bound) :
    chain next bound start = l := by
  induction l generalizing start bound with
  | nil =>
    obtain rfl : start = none := h
    cases bound <;> rfl
  | cons x l ih =>
    obtain ⟨rfl, h⟩ := h
    cases bound with
    | zero => simp at hb
    | succ bound => rw [chain, ih h (by simpa using hb)]

/-- **A path without one of its nodes**: where every link to `c` leads to the successor of `c`
instead, the path meets the other nodes in the same order. -/
theorem bypass (h : Path next start l none)
    (hn : ∀ d ∈ l, d ≠ c →
      next' (some d) = if next (some d) = some c then next (some c) else next (some d)) :
    Path next' (if start = some c then next (some c) else start) (l.filter (· != c)) none := by
  induction l generalizing start with
  | nil =>
    obtain rfl : start = none := h
    simp [Path]
  | cons x l ih =>
    have hnd := List.nodup_cons.mp h.nodup
    obtain ⟨rfl, h⟩ := h
    have ih := ih h fun d hd => hn d (List.mem_cons_of_mem x hd)
    by_cases hx : x = c
    · subst hx
      -- the path does not come back to `x`, so the rest starts where it did
      have hne : next (some x) ≠ some x := by
        rw [h.start_eq_head?]
        exact fun he => hnd.1 (List.mem_of_head? he)
      rw [if_neg hne] at ih
      simpa using ih
    · have hxc : (some x : NodeRef) ≠ some c := fun he => hx (Option.some.inj he)
      rw [List.filter_cons_of_pos (by simpa using hx), if_neg hxc]
      refine ⟨rfl, ?_⟩
      rw [hn x List.mem_cons_self hx]
      exact ih

/-- **A path with a node put in**: where the node before the gap links to `c` and `c` links to the
node after it, the path meets `c` between the two. -/
theorem insert (h : Path next start (xs ++ ys) none) (hc : next' (some c) = ys.head?)
    (hn : ∀ d ∈ xs ++ ys,
      next' (some d) = if xs.getLast? = some d then some c else next (some d)) :
    Path next' (if xs = [] then some c else start) (xs ++ c :: ys) none := by
  have hnd := List.nodup_append.mp h.nodup
  obtain ⟨mid, hx, hy⟩ := append_iff.mp h
  -- from `c` on, the links are the old ones
  have hy' : Path next' (some c) (c :: ys) none := by
    refine ⟨rfl, ?_⟩
    rw [hc, ← hy.start_eq_head?]
    refine hy.congr fun d hd => ?_
    rw [hn d (List.mem_append_right xs hd), if_neg]
    exact fun he => hnd.2.2 d (List.mem_of_getLast? he) d hd rfl
  refine append_iff.mpr ⟨some c, ?_, hy'⟩
  -- before the gap, only the link of the last node is new
  rcases List.eq_nil_or_concat xs with rfl | ⟨zs, z, rfl⟩
  · simp [Path]
  · rw [List.concat_eq_append] at *
    rw [if_neg (by simp)]
    obtain ⟨mid', hz, hm, -⟩ := append_iff.mp hx
    have hzs := List.nodup_append.mp hnd.1
    refine append_iff.mpr ⟨some z, ?_, rfl, ?_⟩
    · rw [← hm]
      refine hz.congr fun d hd => ?_
      rw [hn d (by simp [hd]), if_neg]
      intro he
      exact hzs.2.2 d hd z List.mem_cons_self (by simpa using he.symm)
    · show next' (some z) = some c
      rw [hn z (by simp), if_pos (by simp)]

end Path

end WebPage.Tree
