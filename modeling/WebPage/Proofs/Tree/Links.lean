import WebPage.Proofs.Tree.WellFormed
import WebPage.Tree.Insertion

/-!
# The links after a change

What each of the small changes of links does to every link of every node. A change of one link is
silent on the others; taking a node out of its family redirects the links to it, and putting one in
redirects the links across the gap.

## Main results

* `WellFormed.nextSibling_unlink`, `WellFormed.firstChild_unlink`, …: after a node was taken out,
  every link to it leads to where its own link led
* `nextSibling_link`, `firstChild_link`, …: after a node was put in, the links across the gap lead
  to it
-/

namespace WebPage.Tree

variable {t : Tree} {id c d p q : NodeId} {r : NodeRef} {f : Node → Node}

/-! ## One node -/

theorem node?_modify (t : Tree) (id : NodeId) (f : Node → Node) (r : NodeRef) :
    (t.modify id f).node? r = if r = some id then (t.node? r).map f else t.node? r := by
  cases r with
  | none => simp [node?]
  | some i =>
    by_cases h : i = id
    · simp [node?, modify, Array.getElem?_modify, h]
    · simp [node?, modify, Array.getElem?_modify, h, Ne.symm h]

/-- A change that keeps the kind of every node. -/
theorem kind?_modify (h : ∀ n, (f n).data.kind = n.data.kind) :
    (t.modify id f).kind? r = t.kind? r := by
  unfold kind?
  rw [node?_modify]
  split
  · rw [Option.map_map]
    exact congrArg (fun g => (t.node? r).map g) (funext h)
  · rfl

/-- A change that leaves one link of every node alone. -/
theorem bind_modify_of_eq {link : Node → NodeRef} (h : ∀ n, link (f n) = link n) :
    ((t.modify id f).node? r).bind link = (t.node? r).bind link := by
  rw [node?_modify]
  split
  · cases t.node? r <;> simp [h]
  · rfl

/-- A change that writes one link of one node. -/
theorem bind_modify_of_const {link : Node → NodeRef} {v : NodeRef} (h : ∀ n, link (f n) = v)
    (hid : (t.kind? (some id)).isSome) :
    ((t.modify id f).node? r).bind link = if r = some id then v else (t.node? r).bind link := by
  rw [node?_modify]
  by_cases hr : r = some id
  · subst hr
    obtain ⟨n, hn⟩ := exists_node_of_kind? hid
    simp [hn, h]
  · rw [if_neg hr, if_neg hr]

/-! ## The links of a node itself -/

section Place

variable {parent prev next : NodeRef}

@[simp] theorem kind?_place : (t.place c parent prev next).kind? r = t.kind? r :=
  kind?_modify fun _ => rfl

@[simp] theorem firstChild_place : (t.place c parent prev next).firstChild r = t.firstChild r :=
  bind_modify_of_eq fun _ => rfl

@[simp] theorem lastChild_place : (t.place c parent prev next).lastChild r = t.lastChild r :=
  bind_modify_of_eq fun _ => rfl

theorem parent_place (hc : (t.kind? (some c)).isSome) :
    (t.place c parent prev next).parent r = if r = some c then parent else t.parent r :=
  bind_modify_of_const (fun _ => rfl) hc

theorem prevSibling_place (hc : (t.kind? (some c)).isSome) :
    (t.place c parent prev next).prevSibling r = if r = some c then prev else t.prevSibling r :=
  bind_modify_of_const (fun _ => rfl) hc

theorem nextSibling_place (hc : (t.kind? (some c)).isSome) :
    (t.place c parent prev next).nextSibling r = if r = some c then next else t.nextSibling r :=
  bind_modify_of_const (fun _ => rfl) hc

end Place

/-! ## The links to a child -/

section Beside

variable {beside child : NodeRef}

@[simp] theorem kind?_linkAfter : (t.linkAfter p beside child).kind? r = t.kind? r := by
  unfold linkAfter
  split <;> exact kind?_modify fun _ => rfl

@[simp] theorem parent_linkAfter : (t.linkAfter p beside child).parent r = t.parent r := by
  unfold linkAfter
  split <;> exact bind_modify_of_eq fun _ => rfl

@[simp] theorem lastChild_linkAfter : (t.linkAfter p beside child).lastChild r = t.lastChild r := by
  unfold linkAfter
  split <;> exact bind_modify_of_eq fun _ => rfl

@[simp] theorem prevSibling_linkAfter :
    (t.linkAfter p beside child).prevSibling r = t.prevSibling r := by
  unfold linkAfter
  split <;> exact bind_modify_of_eq fun _ => rfl

theorem nextSibling_linkAfter (hs : ∀ s, beside = some s → (t.kind? (some s)).isSome) :
    (t.linkAfter p beside child).nextSibling (some d) =
      if beside = some d then child else t.nextSibling (some d) := by
  cases beside with
  | none => exact bind_modify_of_eq fun _ => rfl
  | some s =>
    show ((t.modify s fun n => { n with nextSibling := child }).node? (some d)).bind _ = _
    rw [bind_modify_of_const (v := child) (fun _ => rfl) (hs s rfl)]
    simp only [Option.some.injEq, eq_comm (a := d), nextSibling]

theorem firstChild_linkAfter (hp : (t.kind? (some p)).isSome) :
    (t.linkAfter p beside child).firstChild (some q) =
      if beside = none ∧ q = p then child else t.firstChild (some q) := by
  cases beside with
  | none =>
    show ((t.modify p fun n => { n with firstChild := child }).node? (some q)).bind _ = _
    rw [bind_modify_of_const (v := child) (fun _ => rfl) hp]
    simp only [Option.some.injEq, true_and, firstChild]
  | some s =>
    rw [if_neg (by simp)]
    exact bind_modify_of_eq fun _ => rfl

@[simp] theorem kind?_linkBefore : (t.linkBefore p beside child).kind? r = t.kind? r := by
  unfold linkBefore
  split <;> exact kind?_modify fun _ => rfl

@[simp] theorem parent_linkBefore : (t.linkBefore p beside child).parent r = t.parent r := by
  unfold linkBefore
  split <;> exact bind_modify_of_eq fun _ => rfl

@[simp] theorem firstChild_linkBefore :
    (t.linkBefore p beside child).firstChild r = t.firstChild r := by
  unfold linkBefore
  split <;> exact bind_modify_of_eq fun _ => rfl

@[simp] theorem nextSibling_linkBefore :
    (t.linkBefore p beside child).nextSibling r = t.nextSibling r := by
  unfold linkBefore
  split <;> exact bind_modify_of_eq fun _ => rfl

theorem prevSibling_linkBefore (hs : ∀ s, beside = some s → (t.kind? (some s)).isSome) :
    (t.linkBefore p beside child).prevSibling (some d) =
      if beside = some d then child else t.prevSibling (some d) := by
  cases beside with
  | none => exact bind_modify_of_eq fun _ => rfl
  | some s =>
    show ((t.modify s fun n => { n with prevSibling := child }).node? (some d)).bind _ = _
    rw [bind_modify_of_const (v := child) (fun _ => rfl) (hs s rfl)]
    simp only [Option.some.injEq, eq_comm (a := d), prevSibling]

theorem lastChild_linkBefore (hp : (t.kind? (some p)).isSome) :
    (t.linkBefore p beside child).lastChild (some q) =
      if beside = none ∧ q = p then child else t.lastChild (some q) := by
  cases beside with
  | none =>
    show ((t.modify p fun n => { n with lastChild := child }).node? (some q)).bind _ = _
    rw [bind_modify_of_const (v := child) (fun _ => rfl) hp]
    simp only [Option.some.injEq, true_and, lastChild]
  | some s =>
    rw [if_neg (by simp)]
    exact bind_modify_of_eq fun _ => rfl

end Beside

/-! ## Taking a node out -/

theorem unlink_of_parent_eq_none (hp : t.parent (some c) = none) : t.unlink c = t := by
  unfold unlink
  rw [hp]

theorem unlink_of_parent_eq_some (hp : t.parent (some c) = some p) :
    t.unlink c = ((t.linkAfter p (t.prevSibling (some c)) (t.nextSibling (some c))).linkBefore p
      (t.nextSibling (some c)) (t.prevSibling (some c))).place c none none none := by
  unfold unlink
  rw [hp]

@[simp] theorem kind?_unlink : (t.unlink c).kind? r = t.kind? r := by
  cases hp : t.parent (some c) with
  | none => rw [unlink_of_parent_eq_none hp]
  | some p => simp [unlink_of_parent_eq_some hp]

theorem parent_unlink : (t.unlink c).parent r = if r = some c then none else t.parent r := by
  cases hp : t.parent (some c) with
  | none =>
    rw [unlink_of_parent_eq_none hp]
    split
    next he => rw [he, hp]
    next => rfl
  | some p =>
    rw [unlink_of_parent_eq_some hp, parent_place (by simpa using kind?_isSome_of_parent hp)]
    simp

namespace WellFormed

theorem isSome_of_prevSibling (h : t.WellFormed) {s : NodeId}
    (hs : t.prevSibling r = some s) : (t.kind? (some s)).isSome :=
  h.linked r s (by simp [links, hs])

theorem isSome_of_nextSibling (h : t.WellFormed) {s : NodeId}
    (hs : t.nextSibling r = some s) : (t.kind? (some s)).isSome :=
  h.linked r s (by simp [links, hs])

theorem isSome_of_lastChild (h : t.WellFormed) {s : NodeId}
    (hs : t.lastChild r = some s) : (t.kind? (some s)).isSome :=
  h.linked r s (by simp [links, hs])

/-- A node without parent is not the next sibling of any node. -/
theorem nextSibling_ne_of_parent (h : t.WellFormed) (hp : t.parent (some c) = none) :
    t.nextSibling (some d) ≠ some c := by
  intro hd
  rw [h.nextSibling_eq_some_iff, (h.orphan c hp).1] at hd
  simp at hd

theorem prevSibling_ne_of_parent (h : t.WellFormed) (hp : t.parent (some c) = none) :
    t.prevSibling (some d) ≠ some c := by
  intro hd
  rw [← h.nextSibling_eq_some_iff, (h.orphan c hp).2] at hd
  simp at hd

/-- **Taking a node out** lets every link forward to it lead to the sibling after it. -/
theorem nextSibling_unlink (h : t.WellFormed) (hd : d ≠ c) :
    (t.unlink c).nextSibling (some d) =
      if t.nextSibling (some d) = some c then t.nextSibling (some c)
      else t.nextSibling (some d) := by
  cases hp : t.parent (some c) with
  | none => rw [unlink_of_parent_eq_none hp, if_neg (h.nextSibling_ne_of_parent hp)]
  | some p =>
    rw [unlink_of_parent_eq_some hp,
      nextSibling_place (by simpa using kind?_isSome_of_parent hp), if_neg (by simpa using hd),
      nextSibling_linkBefore, nextSibling_linkAfter fun s => h.isSome_of_prevSibling]
    simp only [h.nextSibling_eq_some_iff]

theorem prevSibling_unlink (h : t.WellFormed) (hd : d ≠ c) :
    (t.unlink c).prevSibling (some d) =
      if t.prevSibling (some d) = some c then t.prevSibling (some c)
      else t.prevSibling (some d) := by
  cases hp : t.parent (some c) with
  | none => rw [unlink_of_parent_eq_none hp, if_neg (h.prevSibling_ne_of_parent hp)]
  | some p =>
    rw [unlink_of_parent_eq_some hp,
      prevSibling_place (by simpa using kind?_isSome_of_parent hp), if_neg (by simpa using hd),
      prevSibling_linkBefore fun s hs => by simpa using h.isSome_of_nextSibling hs,
      prevSibling_linkAfter]
    simp only [← h.nextSibling_eq_some_iff]

/-- A node that was taken out has no siblings. -/
theorem siblings_unlink_self (h : t.WellFormed) :
    (t.unlink c).prevSibling (some c) = none ∧ (t.unlink c).nextSibling (some c) = none := by
  cases hp : t.parent (some c) with
  | none =>
    rw [unlink_of_parent_eq_none hp]
    exact h.orphan c hp
  | some p =>
    have hc := kind?_isSome_of_parent hp
    rw [unlink_of_parent_eq_some hp, prevSibling_place (by simpa using hc),
      nextSibling_place (by simpa using hc)]
    simp

theorem firstChild_unlink (h : t.WellFormed) :
    (t.unlink c).firstChild (some q) =
      if t.firstChild (some q) = some c then t.nextSibling (some c)
      else t.firstChild (some q) := by
  simp only [h.firstChild_eq_some_iff]
  cases hp : t.parent (some c) with
  | none => rw [unlink_of_parent_eq_none hp, if_neg (by simp)]
  | some p =>
    rw [unlink_of_parent_eq_some hp, firstChild_place, firstChild_linkBefore,
      firstChild_linkAfter (h.parent_isSome hp)]
    simp only [Option.some.injEq, and_comm, eq_comm]

theorem lastChild_unlink (h : t.WellFormed) :
    (t.unlink c).lastChild (some q) =
      if t.lastChild (some q) = some c then t.prevSibling (some c)
      else t.lastChild (some q) := by
  simp only [h.lastChild_eq_some_iff]
  cases hp : t.parent (some c) with
  | none => rw [unlink_of_parent_eq_none hp, if_neg (by simp)]
  | some p =>
    rw [unlink_of_parent_eq_some hp, lastChild_place,
      lastChild_linkBefore (by simpa using h.parent_isSome hp), lastChild_linkAfter]
    simp only [Option.some.injEq, and_comm, eq_comm]

end WellFormed

/-! ## Putting a node in -/

section Link

variable {before : NodeRef}

@[simp] theorem kind?_link : (t.link p c before).kind? r = t.kind? r := by
  simp [link]

theorem parent_link (hc : (t.kind? (some c)).isSome) :
    (t.link p c before).parent r = if r = some c then some p else t.parent r := by
  simp [link, parent_place hc]

theorem prevSibling_link (hc : (t.kind? (some c)).isSome)
    (hb : ∀ b, before = some b → (t.kind? (some b)).isSome) (hd : d ≠ c) :
    (t.link p c before).prevSibling (some d) =
      if before = some d then some c else t.prevSibling (some d) := by
  rw [link, prevSibling_linkBefore (by simpa using hb), prevSibling_linkAfter,
    prevSibling_place hc, if_neg (show (some d : NodeRef) ≠ some c by simpa using hd)]

namespace WellFormed

theorem isSome_of_childBefore (h : t.WellFormed) {s : NodeId}
    (hs : t.childBefore p before = some s) : (t.kind? (some s)).isSome := by
  cases before with
  | none => exact h.isSome_of_lastChild hs
  | some b => exact h.isSome_of_prevSibling hs

/-- **Putting a node in** lets the link forward across the gap lead to it. -/
theorem nextSibling_link (h : t.WellFormed) (hc : (t.kind? (some c)).isSome)
    (hd : d ≠ c) : (t.link p c before).nextSibling (some d) =
      if t.childBefore p before = some d then some c else t.nextSibling (some d) := by
  have hs : ∀ s, t.childBefore p before = some s → (t.kind? (some s)).isSome :=
    fun s => h.isSome_of_childBefore
  rw [link, nextSibling_linkBefore, nextSibling_linkAfter (by simpa using hs),
    nextSibling_place hc, if_neg (show (some d : NodeRef) ≠ some c by simpa using hd)]

end WellFormed

end Link

end WebPage.Tree
