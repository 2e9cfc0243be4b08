import WebPage.Verb.Structure

/-!
# What a verb keeps

What a verb did before it failed stays done, so a property of pages that is to hold after every
verb has to be kept on the way to a failure too. It is enough that each part of a verb keeps it.

## Main definitions

* `stateAfter v s`: the state after `v` ran from `s`, whether it succeeded or failed
* `Keeps I v`: the property `I` of states is kept by `v`
* `Page.withTree`: a page with another tree
* `Page.HasTree`: a page that differs from another one in its tree only

## Main results

* `Keeps.bind`, `Keeps.forM`: sequences and loops keep what their parts keep
* `stateAfter_act`, `stateAfter_runEdit`: the page after an operation of its document
* `keeps_hasTree_editTree`, `keeps_hasTree_runEdit`, `keeps_forAll`: the verbs that change the tree
-/

namespace WebPage

variable {ε σ α β : Type}

/-- The state after a computation, whether it succeeded or failed. -/
def stateAfter (v : EStateM ε σ α) (s : σ) : σ :=
  match v s with
  | .ok _ s => s
  | .error _ s => s

/-- A property of states is kept by a computation, whether it succeeds or fails. -/
def Keeps (I : σ → Prop) (v : EStateM ε σ α) : Prop :=
  ∀ s, I s → I (stateAfter v s)

variable {I : σ → Prop} {v : EStateM ε σ α} {f : α → EStateM ε σ β} {s : σ}

/-- A sequence goes on where its first part succeeded. -/
theorem bind_apply_of_ok {a : α} {s' : σ} (h : v s = .ok a s') : (v >>= f) s = f a s' := by
  simp [bind, EStateM.bind, h]

theorem bind_apply_of_error {e : ε} {s' : σ} (h : v s = .error e s') :
    (v >>= f) s = .error e s' := by
  simp [bind, EStateM.bind, h]

/-- A computation that looks at the state first. -/
theorem get_bind_apply (f : σ → EStateM ε σ β) (s : σ) :
    ((get : EStateM ε σ σ) >>= f) s = f s s :=
  rfl

theorem set_bind_apply (f : PUnit → EStateM ε σ β) (s s' : σ) :
    ((set s' : EStateM ε σ PUnit) >>= f) s = f ⟨⟩ s' :=
  rfl

theorem stateAfter_of_ok {a : α} {s' : σ} (h : v s = .ok a s') : stateAfter v s = s' := by
  unfold stateAfter
  rw [h]

theorem stateAfter_of_error {e : ε} {s' : σ} (h : v s = .error e s') : stateAfter v s = s' := by
  unfold stateAfter
  rw [h]

theorem stateAfter_bind_of_ok {a : α} {s' : σ} (h : v s = .ok a s') :
    stateAfter (v >>= f) s = stateAfter (f a) s' := by
  rw [stateAfter, bind_apply_of_ok h]
  rfl

theorem stateAfter_bind_of_error {e : ε} {s' : σ} (h : v s = .error e s') :
    stateAfter (v >>= f) s = s' := by
  simp [stateAfter, bind, EStateM.bind, h]

/-- Reading the state hands it on. -/
theorem stateAfter_get_bind {f : σ → EStateM ε σ β} :
    stateAfter ((get : EStateM ε σ σ) >>= f) s = stateAfter (f s) s :=
  stateAfter_bind_of_ok rfl

theorem stateAfter_set_bind {f : PUnit → EStateM ε σ β} {s' : σ} :
    stateAfter ((set s' : EStateM ε σ PUnit) >>= f) s = stateAfter (f ⟨⟩) s' :=
  stateAfter_bind_of_ok rfl

/-- Throwing the value away changes no state. -/
theorem stateAfter_bind_pure {b : β} : stateAfter (v >>= fun _ => pure b) s = stateAfter v s := by
  cases h : v s with
  | ok a s' =>
    rw [stateAfter_bind_of_ok h, stateAfter_of_ok h]
    rfl
  | error e s' => rw [stateAfter_bind_of_error h, stateAfter_of_error h]

namespace Keeps

theorem pure (a : α) : Keeps I (Pure.pure a : EStateM ε σ α) := fun _ h => h

theorem throw (e : ε) : Keeps I (MonadExcept.throw e : EStateM ε σ α) := fun _ h => h

/-- A sequence keeps what its parts keep: if the first part fails, the state is the one it left. -/
theorem bind (hv : Keeps I v) (hf : ∀ a, Keeps I (f a)) : Keeps I (v >>= f) := by
  intro s hs
  have hs' := hv s hs
  cases hr : v s with
  | ok a s' =>
    rw [stateAfter_of_ok hr] at hs'
    rw [stateAfter_bind_of_ok hr]
    exact hf a s' hs'
  | error e s' =>
    rw [stateAfter_of_error hr] at hs'
    rw [stateAfter_bind_of_error hr]
    exact hs'

theorem get_bind {f : σ → EStateM ε σ β} (hf : ∀ s, Keeps I (f s)) :
    Keeps I ((get : EStateM ε σ σ) >>= f) := by
  intro s hs
  rw [stateAfter_get_bind]
  exact hf s s hs

theorem forM {l : List α} {f : α → EStateM ε σ PUnit} (hf : ∀ a ∈ l, Keeps I (f a)) :
    Keeps I (l.forM f) := by
  induction l with
  | nil => exact pure _
  | cons a l ih =>
    rw [List.forM_eq_forM, List.forM_cons]
    exact (hf a List.mem_cons_self).bind fun _ =>
      ih fun b hb => hf b (List.mem_cons_of_mem a hb)

end Keeps

/-! ## Verbs -/

/-- A page with another tree. -/
def Page.withTree (p : Page) (tree : Tree) : Page :=
  { p with document := { p.document with tree } }

section Verbs

variable {I : Page → Prop} {p : Page}

theorem Keeps.ofResult (result : Except VerbError α) : Keeps I (Verb.ofResult result) := by
  cases result with
  | ok a => exact Keeps.pure a
  | error e => exact Keeps.throw e

/-- The page after an operation of its document, which fails without a change. -/
theorem stateAfter_act {f : Document → Except DomError (α × Document)} :
    stateAfter (Verb.act f) p =
      match f p.document with
      | .ok (_, document) => { p with document }
      | .error _ => p := by
  rw [Verb.act, stateAfter_get_bind]
  cases hf : f p.document with
  | ok result => rfl
  | error e => rfl

theorem stateAfter_editTree {f : Tree → Except DomError Tree} :
    stateAfter (Verb.editTree f) p =
      match f p.document.tree with
      | .ok tree => { p with document := { p.document with tree } }
      | .error _ => p := by
  rw [Verb.editTree, Verb.edit, stateAfter_act]
  cases f p.document.tree <;> rfl

theorem act_of_ok {f : Document → Except DomError (α × Document)} {a : α} {d : Document}
    (hf : f p.document = .ok (a, d)) : Verb.act f p = .ok a { p with document := d } := by
  simp only [Verb.act, get_bind_apply, hf]
  rfl

theorem editTree_of_ok {f : Tree → Except DomError Tree} {t : Tree}
    (ht : f p.document.tree = .ok t) : Verb.editTree f p = .ok () (p.withTree t) := by
  simp only [Verb.editTree, Verb.edit, Verb.act, get_bind_apply, ht]
  rfl

theorem editTree_of_error {f : Tree → Except DomError Tree} {error : DomError}
    (ht : f p.document.tree = .error error) : Verb.editTree f p = .error (.dom error) p := by
  simp only [Verb.editTree, Verb.edit, Verb.act, get_bind_apply, ht]
  rfl

/-- The page after an operation of its tree, which may fail halfway. -/
theorem stateAfter_runEdit {f : Tree.Edit α} :
    stateAfter (Verb.runEdit f) p =
      { p with document := { p.document with tree := stateAfter f p.document.tree } } := by
  rw [Verb.runEdit, stateAfter_get_bind]
  cases hf : f p.document.tree with
  | ok a tree =>
    rw [stateAfter_of_ok hf]
    rfl
  | error e tree =>
    rw [stateAfter_of_error hf]
    rfl

theorem keeps_forAll {target : Target} {f : NodeId → Verb Unit} (hf : ∀ id, Keeps I (f id)) :
    Keeps I (Page.forAll target f) :=
  Keeps.get_bind fun _ => (Keeps.ofResult _).bind fun _ => Keeps.forM fun id _ => hf id

/-- A verb on one node runs there. -/
theorem stateAfter_forAll_node {id : NodeId} {f : NodeId → Verb Unit} :
    stateAfter (Page.forAll (.node (some id)) f) p = stateAfter (f id) p := by
  have hone : [id].forM f = f id >>= fun _ => pure ⟨⟩ := by
    rw [List.forM_eq_forM, List.forM_cons]
    rfl
  rw [Page.forAll, stateAfter_get_bind]
  show stateAfter ([id].forM f) p = _
  rw [hone, stateAfter_bind_pure]

end Verbs

section Trees

variable {J : Tree → Prop} {p q : Page} {v : Verb α}

/-- A page is `q` but for its tree, which has a property. -/
def Page.HasTree (q : Page) (J : Tree → Prop) (p : Page) : Prop :=
  ∃ t, J t ∧ p = q.withTree t

theorem Page.hasTree_self (h : J p.document.tree) : p.HasTree J p :=
  ⟨p.document.tree, h, rfl⟩

theorem Page.HasTree.tree (h : q.HasTree J p) : J p.document.tree := by
  obtain ⟨t, ht, rfl⟩ := h
  exact ht

/-- A verb that changes nothing but the tree keeps the properties of trees that it keeps there. -/
theorem Keeps.of_hasTree (hv : ∀ q : Page, Keeps (q.HasTree J) v) :
    Keeps (fun p : Page => J p.document.tree) v :=
  fun p hp => (hv p p (Page.hasTree_self hp)).tree

/-- A change of the tree keeps a property of trees if it keeps it where it succeeds, and changes
nothing else. -/
theorem keeps_hasTree_editTree {f : Tree → Except DomError Tree}
    (hf : ∀ t t', f t = .ok t' → J t → J t') : Keeps (q.HasTree J) (Verb.editTree f) := by
  rintro _ ⟨t, ht, rfl⟩
  rw [stateAfter_editTree]
  cases hok : f (q.withTree t).document.tree with
  | ok t' => exact ⟨t', hf t t' hok ht, rfl⟩
  | error e => exact ⟨t, ht, rfl⟩

theorem keeps_hasTree_runEdit {f : Tree.Edit α} (hf : Keeps J f) :
    Keeps (q.HasTree J) (Verb.runEdit f) := by
  rintro _ ⟨t, ht, rfl⟩
  rw [stateAfter_runEdit]
  exact ⟨stateAfter f t, hf t ht, rfl⟩

theorem keeps_editTree {f : Tree → Except DomError Tree}
    (hf : ∀ t t', f t = .ok t' → J t → J t') :
    Keeps (fun p => J p.document.tree) (Verb.editTree f) :=
  Keeps.of_hasTree fun _ => keeps_hasTree_editTree hf

end Trees

end WebPage
