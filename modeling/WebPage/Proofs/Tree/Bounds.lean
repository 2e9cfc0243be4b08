import WebPage.Proofs.Tree.Growth
import WebPage.Proofs.Tree.Splicing

/-!
# Runs over the arena

The operations on a tree are functions here, and a change of a node that is not there is no change.
A program that keeps the nodes in an arena reads and writes them by their index instead, one after
the other, and stops at an index that is out of bounds, with the links half changed. In a
well-formed tree that does not happen: every index is that of a node, every check comes before the
first write, and the run ends in the tree that the function gives.

## Main definitions

* `Arena.Fault`, `Arena.Run`: runs over an arena, and why they stop
* `Arena.read`, `Arena.write`: access by an index, which may be out of bounds
* `Arena.link`, `Arena.unlink`, `Arena.insertBefore`, `Arena.detach`, `Arena.removeChildren`,
  `Arena.setTextContent`: the operations, access by access
* `Arena.Realizes`: a run that does all of what a function does, or nothing
* `Tree.Refuses`: why an insertion fails

## Main results

* `Arena.unlink_apply`, `Arena.link_apply`: no access to the links of a node is out of bounds
* `Arena.Realizes.check`: a check in front of a run that does all or nothing
* `insertBefore_eq_error_iff`: when an insertion fails
* `insertBefore_refuses`: when it fails, nothing has changed, and no operation leaves the bounds
-/

namespace WebPage.Tree

variable {α β : Type} {t t' : Tree} {parent child before point r : NodeRef} {p c id : NodeId}
  {n : Node} {ids : List NodeId} {e : DomError} {a : α}

namespace Arena

/-- Why a run stops. -/
inductive Fault where
  /-- A check has failed. -/
  | refused (e : DomError)
  /-- The arena was accessed at an index that it does not have. -/
  | outOfBounds (id : NodeId)

/-- Runs over an arena. What was written before a fault stays written. -/
abbrev Run := EStateM Fault Tree

/-- Reads a node by its index. -/
def read (id : NodeId) : Run Node := do
  match (← get).nodes[id]? with
  | some n => pure n
  | none => throw (.outOfBounds id)

/-- Changes a node by its index. -/
def write (id : NodeId) (f : Node → Node) : Run Unit := do
  let _ ← read id
  set ((← get).modify id f)

/-- A check, which reads the tree only. -/
def check (f : Tree → Except DomError α) : Run α := do
  match f (← get) with
  | .ok a => pure a
  | .error e => throw (.refused e)

/-! ## The operations, access by access -/

/-- Writes which child of `parent` follows `prev`; with no node before it, it is the first. -/
def linkAfter (parent : NodeId) (prev child : NodeRef) : Run Unit :=
  match prev with
  | some p => write p fun n => { n with nextSibling := child }
  | none => write parent fun n => { n with firstChild := child }

/-- Writes which child of `parent` comes before `next`; with no node after it, it is the last. -/
def linkBefore (parent : NodeId) (next child : NodeRef) : Run Unit :=
  match next with
  | some s => write s fun n => { n with prevSibling := child }
  | none => write parent fun n => { n with lastChild := child }

/-- Reads the child of `parent` that comes before `before`, or the last one if that is none. -/
def childBefore (parent : NodeId) (before : NodeRef) : Run NodeRef :=
  match before with
  | some b => return (← read b).prevSibling
  | none => return (← read parent).lastChild

/-- Links a node into the children of `parent`, in front of `before` or at the end. -/
def link (parent child : NodeId) (before : NodeRef) : Run Unit := do
  let prev ← childBefore parent before
  write child fun n => { n with parent, prevSibling := prev, nextSibling := before }
  linkAfter parent prev (some child)
  linkBefore parent before (some child)

/-- Takes a node out of the children of its parent, if it has one. -/
def unlink (child : NodeId) : Run Unit := do
  let n ← read child
  match n.parent with
  | none => pure ()
  | some parent => do
    linkAfter parent n.prevSibling n.nextSibling
    linkBefore parent n.nextSibling n.prevSibling
    write child fun n => { n with parent := none, prevSibling := none, nextSibling := none }

/-- Moves a node into the children of `parent`, in front of `before` or at the end. -/
def move (parent : NodeId) (before : NodeRef) (child : NodeId) : Run Unit := do
  unlink child
  link parent child before

/-- Inserts `child`, or the children of a fragment, into the children of `parent`. -/
def insertBefore (parent child before : NodeRef) : Run Unit := do
  let (p, c, n) ← check fun t => t.checkInsert parent child
  let point ← check fun t => t.insertionPoint parent child before
  if n.data = .fragment then
    forM ((← get).childIds child) (move p point)
  else
    move p point c

/-- Takes a node out of the tree, and gives whether it had a parent. -/
def detach (r : NodeRef) : Run Bool := do
  let n ← check fun t => t.node r
  forM r unlink
  pure n.parent.isSome

/-- Takes all children of a node out, and gives their number. -/
def removeChildren (r : NodeRef) : Run Nat := do
  let _ ← check fun t => t.node r
  let children := (← get).childIds r
  forM children unlink
  pure children.length

/-- Writes the text of a node. -/
def setTextContent (r : NodeRef) (text : String) : Run Unit := do
  let n ← check fun t => t.node r
  match n.data, r with
  | .text _, some id => set ((← get).setData id (.text text))
  | .comment _, some id => set ((← get).setData id (.comment text))
  | _, _ =>
    let _ ← removeChildren r
    if text.isEmpty then pure ()
    else
      let (child, t) := (← get).createText text
      set t
      insertBefore r (some child) none

/-! ## Access within the bounds -/

theorem read_apply (hn : t.node? (some id) = some n) : read id t = .ok n t := by
  have hn : t.nodes[id]? = some n := hn
  rw [read, get_bind_apply, hn]
  rfl

theorem write_apply {f : Node → Node} (hid : (t.kind? (some id)).isSome) :
    write id f t = .ok () (t.modify id f) := by
  obtain ⟨n, hn⟩ := exists_node_of_kind? hid
  rw [write, bind_apply_of_ok (read_apply hn)]
  rfl

theorem check_bind_of_ok {f : Tree → Except DomError α} {g : α → Run β} (hf : f t = .ok a) :
    (check f >>= g) t = g a t := by
  refine bind_apply_of_ok ?_
  rw [check, get_bind_apply, hf]
  rfl

theorem check_bind_of_error {f : Tree → Except DomError α} {g : α → Run β}
    (hf : f t = .error e) : (check f >>= g) t = .error (.refused e) t := by
  refine bind_apply_of_error ?_
  rw [check, get_bind_apply, hf]
  rfl

theorem linkAfter_apply {prev : NodeRef} (hp : (t.kind? (some p)).isSome)
    (hs : ∀ s, prev = some s → (t.kind? (some s)).isSome) :
    linkAfter p prev child t = .ok () (t.linkAfter p prev child) := by
  cases prev with
  | none => exact write_apply hp
  | some s => exact write_apply (hs s rfl)

theorem linkBefore_apply {next : NodeRef} (hp : (t.kind? (some p)).isSome)
    (hs : ∀ s, next = some s → (t.kind? (some s)).isSome) :
    linkBefore p next child t = .ok () (t.linkBefore p next child) := by
  cases next with
  | none => exact write_apply hp
  | some s => exact write_apply (hs s rfl)

theorem childBefore_apply (hp : (t.kind? (some p)).isSome)
    (hb : ∀ b, before = some b → (t.kind? (some b)).isSome) :
    childBefore p before t = .ok (t.childBefore p before) t := by
  cases before with
  | none =>
    obtain ⟨n, hn⟩ := exists_node_of_kind? hp
    rw [childBefore, bind_apply_of_ok (read_apply hn), Tree.childBefore, lastChild, hn]
    rfl
  | some b =>
    obtain ⟨n, hn⟩ := exists_node_of_kind? (hb b rfl)
    rw [childBefore, bind_apply_of_ok (read_apply hn), Tree.childBefore, prevSibling, hn]
    rfl

/-- **Taking a node out stays within the bounds**: the parent and the siblings of a node are
nodes. -/
theorem unlink_apply (h : t.WellFormed) (hc : (t.kind? (some c)).isSome) :
    unlink c t = .ok () (t.unlink c) := by
  obtain ⟨n, hn⟩ := exists_node_of_kind? hc
  have hparent : t.parent (some c) = n.parent := parent_of_node? hn
  have hprev : t.prevSibling (some c) = n.prevSibling := by simp [prevSibling, hn]
  have hnext : t.nextSibling (some c) = n.nextSibling := nextSibling_of_node? hn
  rw [unlink, bind_apply_of_ok (read_apply hn)]
  cases hp : n.parent with
  | none =>
    rw [unlink_of_parent_eq_none (hparent.trans hp)]
    rfl
  | some p =>
    have hpc := hparent.trans hp
    rw [unlink_of_parent_eq_some hpc, hprev, hnext]
    have hafter : linkAfter p n.prevSibling n.nextSibling t = .ok () _ :=
      linkAfter_apply (h.parent_isSome hpc) fun s hs => h.isSome_of_prevSibling (hprev.trans hs)
    dsimp only
    rw [bind_apply_of_ok hafter, bind_apply_of_ok (linkBefore_apply
      (by simpa using h.parent_isSome hpc)
      fun s hs => by simpa using h.isSome_of_nextSibling (hnext.trans hs))]
    exact write_apply (by simpa using hc)

/-- **Putting a node in stays within the bounds**: the nodes beside the gap are nodes. -/
theorem link_apply (h : t.WellFormed) (hi : t.Insertable p before c) :
    link p c before t = .ok () (t.link p c before) := by
  have hprev : childBefore p before t = .ok (t.childBefore p before) t :=
    childBefore_apply hi.isSome_parent fun b => hi.isSome_point
  have hplaced : write c _ t = .ok () (t.place c (some p) (t.childBefore p before) before) :=
    write_apply hi.isSome_child
  rw [link, bind_apply_of_ok hprev, bind_apply_of_ok hplaced,
    bind_apply_of_ok (linkAfter_apply (by simpa using hi.isSome_parent)
      fun s hs => by simpa using h.isSome_of_childBefore hs)]
  exact linkBefore_apply (by simpa using hi.isSome_parent)
    fun b hb => by simpa using hi.isSome_point hb

theorem move_apply (h : t.WellFormed) (hi : t.Insertable p before c) :
    move p before c t = .ok () (t.move p before c) := by
  rw [move, bind_apply_of_ok (unlink_apply h hi.isSome_child)]
  exact link_apply (h.unlink c) hi.unlink

/-! ## The loops -/

theorem forM_unlink_apply (h : t.WellFormed) (hids : ∀ id ∈ ids, (t.kind? (some id)).isSome) :
    forM ids unlink t = .ok () (ids.foldl Tree.unlink t) := by
  induction ids generalizing t with
  | nil => rfl
  | cons id ids ih =>
    obtain ⟨hid, hids⟩ := List.forall_mem_cons.mp hids
    rw [List.forM_cons, bind_apply_of_ok (unlink_apply h hid)]
    exact ih (h.unlink id) fun d hd => by simpa using hids d hd

theorem forM_move_apply (h : t.WellFormed) (hi : ∀ id ∈ ids, t.Insertable p before id) :
    forM ids (move p before) t = .ok () (ids.foldl (fun t id => t.move p before id) t) := by
  induction ids generalizing t with
  | nil => rfl
  | cons id ids ih =>
    obtain ⟨hid, hi⟩ := List.forall_mem_cons.mp hi
    rw [List.forM_cons, bind_apply_of_ok (move_apply h hid)]
    exact ih (h.move hid) fun d hd => hid.move (hi d hd)

/-! ## All or nothing -/

/-- A run gives what a function on trees gives, and where this fails the run is refused and the tree
is as before. -/
structure Realizes (v : Run α) (t : Tree) (x : Except DomError (α × Tree)) : Prop where
  ok : ∀ a t', x = .ok (a, t') → v t = .ok a t'
  error : ∀ e, x = .error e → v t = .error (.refused e) t

namespace Realizes

theorem of_ok {v : Run α} (hv : v t = .ok a t') : Realizes v t (.ok (a, t')) := by
  refine ⟨?_, nofun⟩
  rintro _ _ ⟨⟩
  exact hv

/-- **A check in front** stops the run before anything is written. -/
theorem check {f : Tree → Except DomError α} {g : α → Run β} {x : α → Except DomError (β × Tree)}
    (h : ∀ a, f t = .ok a → Realizes (g a) t (x a)) :
    Realizes (Arena.check f >>= g) t (f t >>= x) := by
  cases hf : f t with
  | ok a =>
    obtain ⟨hok, herror⟩ := h a hf
    refine ⟨fun b t' hx => ?_, fun e hx => ?_⟩
    · rw [check_bind_of_ok hf]
      exact hok b t' hx
    · rw [check_bind_of_ok hf]
      exact herror e hx
  | error e =>
    refine ⟨nofun, ?_⟩
    rintro _ ⟨⟩
    exact check_bind_of_error hf

/-- A run that does all or nothing accesses nothing out of bounds. -/
theorem ne_outOfBounds {v : Run α} {x : Except DomError (α × Tree)} (h : Realizes v t x)
    (id : NodeId) (t' : Tree) : v t ≠ .error (.outOfBounds id) t' := by
  cases x with
  | ok r =>
    rw [h.ok r.1 r.2 rfl]
    nofun
  | error e =>
    rw [h.error e rfl]
    nofun

end Realizes

theorem map_bind {ε α β γ : Type} {x : Except ε α} {f : α → Except ε β} {g : β → γ} :
    (x >>= f).map g = x >>= fun a => (f a).map g := by
  cases x <;> rfl

/-- **Insertion does all or nothing**: both checks come before the first write. -/
theorem insertBefore_realizes (h : t.WellFormed) (parent child before : NodeRef) :
    Realizes (insertBefore parent child before) t
      ((t.insertBefore parent child before).map fun t' => ((), t')) := by
  rw [Tree.insertBefore, map_bind]
  refine .check fun (p, c, n) hc => ?_
  dsimp only
  rw [map_bind]
  refine .check fun point hp => ?_
  split
  next =>
    obtain ⟨-, rfl, -⟩ := checkInsert_eq_ok hc
    exact .of_ok (forM_move_apply h fun id hid => insertable_of_mem_childIds h hc hp hid)
  next hn => exact .of_ok (move_apply h (insertable_of_checkInsert h hc hp hn))

theorem detach_realizes (h : t.WellFormed) (r : NodeRef) :
    Realizes (detach r) t (t.detach r) := by
  refine .check fun n hn => .of_ok ?_
  have hn := node_eq_ok.mp hn
  cases r with
  | none => cases hn
  | some id =>
    have hid : (t.kind? (some id)).isSome := by rw [kind?_of_node? hn]; rfl
    exact bind_apply_of_ok (unlink_apply h hid)

theorem removeChildren_realizes (h : t.WellFormed) (r : NodeRef) :
    Realizes (removeChildren r) t (t.removeChildren r) := by
  refine .check fun n hn => .of_ok ?_
  rw [get_bind_apply]
  refine bind_apply_of_ok (forM_unlink_apply h fun id hid => ?_)
  cases r with
  | none => cases node_eq_ok.mp hn
  | some p => exact kind?_isSome_of_parent (h.mem_childIds_iff.mp hid)

theorem kind?_of_removeChildren {count : Nat} (hr : t.removeChildren r = .ok (count, t'))
    (child : NodeRef) : t'.kind? child = t.kind? child := by
  rw [kind?_eq_data?, kind?_eq_data?, data?_removeChildren hr]

/-- **The text of a container takes the place of its children.** The container may have a text below
it, so no check fails once the children are gone. -/
theorem replaceChildren_realizes (h : t.WellFormed) (text : String)
    (hk : ∃ k, t.kind? (some p) = some k ∧ k.isContainer = true) :
    Realizes (removeChildren (some p) >>= fun _ => if text.isEmpty then pure () else do
        let (child, t) := (← get).createText text
        set t
        insertBefore (some p) (some child) none) t
      ((t.removeChildren (some p) >>= fun (_, t) => if text.isEmpty then pure t else
        (t.add (.text text)).2.appendChild (some p) (some t.size)).map fun t' => ((), t')) := by
  obtain ⟨k, hk, hcontainer⟩ := hk
  obtain ⟨n, hn⟩ := exists_node_of_kind? (by rw [hk]; rfl)
  obtain ⟨count, t₁, hremove⟩ : ∃ count t₁, t.removeChildren (some p) = .ok (count, t₁) := by
    rw [Tree.removeChildren, node_eq_ok.mpr hn]
    exact ⟨_, _, rfl⟩
  have hwf := h.removeChildren hremove
  have hk₁ := (kind?_of_removeChildren hremove (some p)).trans hk
  have hrun := (removeChildren_realizes h (some p)).ok count t₁ hremove
  rw [hremove]
  cases htext : text.isEmpty with
  | true => exact .of_ok (bind_apply_of_ok hrun)
  | false =>
    have hadd : (t₁.add (.text text)).2.WellFormed := hwf.add (by nofun)
    have happend : (t₁.add (.text text)).2.appendChild (some p) (some t₁.size) =
        .ok ((t₁.add (.text text)).2.link p t₁.size none) :=
      appendChild_add hwf ⟨k, hk₁, hcontainer⟩ rfl
    have hinsert := (insertBefore_realizes hadd (some p) (some t₁.size) none).ok () _
      (congrArg (Except.map fun t' => ((), t')) happend)
    show Realizes _ t (((t₁.add (.text text)).2.appendChild (some p) (some t₁.size)).map _)
    rw [happend]
    exact .of_ok ((bind_apply_of_ok hrun).trans hinsert)

theorem setTextContent_realizes (h : t.WellFormed) (r : NodeRef) (text : String) :
    Realizes (setTextContent r text) t ((t.setTextContent r text).map fun t' => ((), t')) := by
  rw [Tree.setTextContent, map_bind]
  refine .check fun n hn => ?_
  have hn := node_eq_ok.mp hn
  cases r with
  | none => cases hn
  | some p =>
    have hk := kind?_of_node? hn
    obtain ⟨data, _⟩ := n
    cases data with
    | text s => exact .of_ok rfl
    | comment s => exact .of_ok rfl
    | _ => exact replaceChildren_realizes h text ⟨_, hk, rfl⟩

end Arena

/-! ## When an insertion fails -/

/-- Why `child` does not come into the children of `parent`, in front of `before` or at the end. -/
inductive Refuses (t : Tree) (parent child before : NodeRef) : Prop
  | noParent (h : t.node? parent = none)
  | textParent (h : t.kind? parent = some .text)
  | commentParent (h : t.kind? parent = some .comment)
  | noChild (h : t.node? child = none)
  | documentChild (h : child = some documentNode)
  | itself (h : child = parent)
  | above {p c : NodeId} (hp : parent = some p) (hc : child = some c) (h : t.Above c p)
  | noReference {b : NodeId} (hb : before = some b) (h : t.node? (some b) = none)
  | otherReference {b : NodeId} (hb : before = some b) (h : t.parent (some b) ≠ parent)

/-- An insertion that succeeds had no reason to fail. -/
theorem not_refuses_of_insertBefore (h : t.WellFormed)
    (hi : t.insertBefore parent child before = .ok t') : ¬ t.Refuses parent child before := by
  obtain ⟨p, c, n, point, hc, hp, -⟩ := insertBefore_eq_ok_iff.mp hi
  obtain ⟨rfl, rfl, hn, hdocument, ⟨k, hk, hcontainer⟩, hcontains⟩ := checkInsert_eq_ok_iff.mp hc
  obtain ⟨hbefore, -⟩ := insertionPoint_eq_ok_iff.mp hp
  intro hr
  cases hr with
  | noParent hr => simp [kind?, hr] at hk
  | textParent hr =>
    rw [hr] at hk
    cases hk
    cases hcontainer
  | commentParent hr =>
    rw [hr] at hk
    cases hk
    cases hcontainer
  | noChild hr =>
    rw [hr] at hn
    cases hn
  | documentChild hr =>
    have hkind := (h.document_iff c).mpr (Option.some.inj hr)
    rw [kind?_of_node? hn] at hkind
    cases hd : n.data <;> simp_all [NodeData.kind]
  | itself hr =>
    rw [hr, contains_self] at hcontains
    cases hcontains
  | above hp hc hr =>
    cases hp
    cases hc
    rw [contains_iff_eq_or_mem.mpr (.inr (h.above_iff.mp hr))] at hcontains
    cases hcontains
  | noReference hb hr =>
    have hparent := hbefore _ hb
    simp [Tree.parent, hr] at hparent
  | otherReference hb hr => exact hr (hbefore _ hb)

theorem exists_of_node? (h : t.node? r ≠ none) :
    ∃ id n, r = some id ∧ t.node? (some id) = some n := by
  cases r with
  | none => exact absurd rfl h
  | some id =>
    obtain ⟨n, hn⟩ := Option.ne_none_iff_exists'.mp h
    exact ⟨id, n, rfl, hn⟩

/-- An insertion without a reason to fail succeeds. -/
theorem exists_insertBefore (h : t.WellFormed) (hr : ¬ t.Refuses parent child before) :
    ∃ t', t.insertBefore parent child before = .ok t' := by
  obtain ⟨p, m, rfl, hm⟩ := exists_of_node? fun hm => hr (.noParent hm)
  obtain ⟨c, n, rfl, hn⟩ := exists_of_node? fun hn => hr (.noChild hn)
  have hcontainer : ∃ k, t.kind? (some p) = some k ∧ k.isContainer = true := by
    refine ⟨m.data.kind, kind?_of_node? hm, ?_⟩
    have htext : t.kind? (some p) ≠ some .text := fun hk => hr (.textParent hk)
    have hcomment : t.kind? (some p) ≠ some .comment := fun hk => hr (.commentParent hk)
    rw [kind?_of_node? hm] at htext hcomment
    cases hd : m.data <;> simp_all [NodeData.kind, NodeKind.isContainer]
  have hdocument : n.data ≠ .document := by
    intro hd
    refine hr (.documentChild (congrArg some ((h.document_iff c).mp ?_)))
    rw [kind?_of_node? hn, hd]
    rfl
  have hcontains : t.contains (some c) (some p) = false := by
    refine Bool.eq_false_iff.mpr fun hcontains => ?_
    rcases contains_iff_eq_or_mem.mp hcontains with rfl | habove
    · exact hr (.itself rfl)
    · exact hr (.above rfl rfl (h.above_iff.mpr habove))
  have hbefore : ∀ b, before = some b → t.parent (some b) = some p :=
    fun b hb => Decidable.not_not.mp fun hparent => hr (.otherReference hb hparent)
  exact ⟨_, insertBefore_eq_ok_iff.mpr ⟨p, c, n, _,
    checkInsert_eq_ok_iff.mpr ⟨rfl, rfl, hn, hdocument, hcontainer, hcontains⟩,
    insertionPoint_eq_ok_iff.mpr ⟨hbefore, rfl⟩, rfl⟩⟩

/-- **When an insertion fails.** -/
theorem insertBefore_eq_error_iff (h : t.WellFormed) :
    (∃ e, t.insertBefore parent child before = .error e) ↔ t.Refuses parent child before := by
  constructor
  · rintro ⟨e, he⟩
    refine Classical.byContradiction fun hr => ?_
    obtain ⟨t', ht⟩ := exists_insertBefore h hr
    rw [ht] at he
    cases he
  · intro hr
    cases hi : t.insertBefore parent child before with
    | error e => exact ⟨e, rfl⟩
    | ok t' => exact absurd hr (not_refuses_of_insertBefore h hi)

/-- **An insertion fails for a missing or childless parent, for a missing node or the document node,
for a node that is the parent or above it, and for a reference that is no child of the parent, and
for nothing else.** Read access by access, it has changed nothing where it fails, and no operation
that takes nodes out or puts them in leaves the bounds of the arena. -/
theorem insertBefore_refuses (h : t.WellFormed) (parent child before r : NodeRef) (text : String) :
    ((∃ e, t.insertBefore parent child before = .error e) ↔ t.Refuses parent child before) ∧
      Arena.Realizes (Arena.insertBefore parent child before) t
        ((t.insertBefore parent child before).map fun t' => ((), t')) ∧
      Arena.Realizes (Arena.detach r) t (t.detach r) ∧
      Arena.Realizes (Arena.removeChildren r) t (t.removeChildren r) ∧
      Arena.Realizes (Arena.setTextContent r text) t
        ((t.setTextContent r text).map fun t' => ((), t')) ∧
      ∀ id t', Arena.insertBefore parent child before t ≠ .error (.outOfBounds id) t' ∧
        Arena.detach r t ≠ .error (.outOfBounds id) t' ∧
        Arena.removeChildren r t ≠ .error (.outOfBounds id) t' ∧
        Arena.setTextContent r text t ≠ .error (.outOfBounds id) t' := by
  have hinsert := Arena.insertBefore_realizes h parent child before
  have hdetach := Arena.detach_realizes h r
  have hremove := Arena.removeChildren_realizes h r
  have htext := Arena.setTextContent_realizes h r text
  exact ⟨insertBefore_eq_error_iff h, hinsert, hdetach, hremove, htext, fun id t' =>
    ⟨hinsert.ne_outOfBounds id t', hdetach.ne_outOfBounds id t', hremove.ne_outOfBounds id t',
      htext.ne_outOfBounds id t'⟩⟩

/-- `body` may not come below its own child, and the run for it ends where it began. -/
theorem insertBefore_refuses_besideFragment :
    besideFragment.WellFormed ∧ besideFragment.Refuses (some 4) (some 3) none ∧
      ∃ e, Arena.insertBefore (some 4) (some 3) none besideFragment =
        .error (.refused e) besideFragment := by
  have h := wellFormed_besideFragment
  obtain ⟨hiff, hrun, -⟩ := insertBefore_refuses h (some 4) (some 3) none none ""
  have hparent : besideFragment.parent (some 4) = some 3 := by decide +kernel
  have hr : besideFragment.Refuses (some 4) (some 3) none := .above rfl rfl (.single hparent)
  obtain ⟨e, he⟩ := hiff.mpr hr
  refine ⟨h, hr, e, hrun.error e ?_⟩
  rw [he]
  rfl

end WebPage.Tree
