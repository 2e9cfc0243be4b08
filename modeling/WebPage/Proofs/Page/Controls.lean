import WebPage.Proofs.Form.Groups
import WebPage.Proofs.Page.Structure
import WebPage.Proofs.Verb.Keeps
import WebPage.Verb.Element
import WebPage.Verb.Interaction

/-!
# Histories of calls on controls

Controls are checked, flipped, filled in and clicked, through targets that may name several nodes or
none, and with listeners that may prevent the default. Whatever the calls are, the members of a group
of radio buttons below the root of their tree exclude each other. The root itself is not cleared with
the others, so for the whole group this holds just where the root is not one of several members.

## Main definitions

* `ControlCall`, `ControlCall.verb`: a call and what it does to a page
* `Page.afterControls`: the page after a history of calls

## Main results

* `keepsGroups_afterControls`: every history keeps the groups
* `radioGroup_afterControls`: what checking one radio button does, and which groups stay exclusive
  in every history
-/

namespace WebPage

/-- A call that writes or clicks controls. -/
inductive ControlCall where
  | setChecked (target : Target) (checked : Bool)
  | toggleChecked (target : Target)
  | setValue (target : Target) (value : String)
  | click (behaviour : Behaviour) (target : Target)

/-- What a call does to a page. -/
def ControlCall.verb : ControlCall → Verb Unit
  | setChecked target checked => Page.setChecked target checked
  | toggleChecked target => Page.toggleChecked target
  | setValue target value => Page.setValue target value
  | click behaviour target => do
    let _ ← Page.click behaviour target

/-- The page after a history of calls, whether they succeeded or failed. -/
def Page.afterControls (p : Page) (calls : List ControlCall) : Page :=
  calls.foldl (fun p call => stateAfter call.verb p) p

/-! ## What histories keep -/

section Keeps

variable {t₀ : Tree}

theorem keepsGroups_editTreeAll {target : Target} {f : Tree → NodeRef → Except DomError Tree}
    (h₀ : t₀.WellFormed)
    (hf : ∀ t r t', t.WellFormed → f t r = .ok t' → Tree.KeepsGroups t t') :
    Keeps (fun p => Tree.KeepsGroups t₀ p.document.tree) (Page.editTreeAll target f) := by
  refine keeps_forAll fun id => keeps_editTree fun t t' ht hkeeps => ?_
  exact hkeeps.trans (hf t (some id) t' (hkeeps.frame.wellFormed h₀) ht)

/-- **One call keeps the groups**, whether it succeeds or fails. -/
theorem ControlCall.keepsGroups (h₀ : t₀.WellFormed) (call : ControlCall) :
    Keeps (fun p => Tree.KeepsGroups t₀ p.document.tree) call.verb := by
  unfold verb
  cases call with
  | setChecked target checked =>
    exact keepsGroups_editTreeAll h₀ fun t r t' h ht => Tree.keepsGroups_setChecked h ht
  | toggleChecked target =>
    refine keepsGroups_editTreeAll h₀ fun t r t' h ht => ?_
    obtain ⟨wasChecked, -, ht⟩ := bind_eq_ok.mp ht
    exact Tree.keepsGroups_setChecked h ht
  | setValue target value =>
    exact keepsGroups_editTreeAll h₀ fun t r t' _ ht => Tree.keepsGroups_setValue ht
  | click behaviour target =>
    refine Keeps.bind ?_ fun _ => Keeps.pure _
    refine Keeps.get_bind fun _ => (Keeps.ofResult _).bind fun id p hkeeps => ?_
    rw [stateAfter_act]
    split
    next b d hclick =>
      exact hkeeps.trans (Document.keepsGroups_click (hkeeps.frame.wellFormed h₀) hclick)
    next => exact hkeeps

/-- **Every history keeps the groups.** -/
theorem keepsGroups_afterControls {p : Page} (h : p.document.tree.WellFormed)
    (calls : List ControlCall) :
    Tree.KeepsGroups p.document.tree (p.afterControls calls).document.tree := by
  have hall : ∀ (calls : List ControlCall) (p' : Page),
      Tree.KeepsGroups p.document.tree p'.document.tree →
        Tree.KeepsGroups p.document.tree (p'.afterControls calls).document.tree := by
    intro calls
    induction calls with
    | nil => exact fun _ hp => hp
    | cons call calls ih => exact fun p' hp => ih _ (call.keepsGroups h p' hp)
  exact hall calls p (.refl _)

end Keeps

/-! ## Groups with a root among them -/

/-- Checking one node through its name is checking it in the tree. -/
theorem afterControls_setChecked {p : Page} {r : NodeId} {t : Tree}
    (ht : p.document.tree.setChecked (some r) true = .ok t) (calls : List ControlCall) :
    p.afterControls (.setChecked (.node (some r)) true :: calls) =
      Page.afterControls { p with document := { p.document with tree := t } } calls := by
  have hone : stateAfter (ControlCall.verb (.setChecked (.node (some r)) true)) p =
      { p with document := { p.document with tree := t } } := by
    refine stateAfter_forAll_node.trans ?_
    rw [stateAfter_editTree]
    simp only [ht]
  rw [Page.afterControls, List.foldl_cons, hone]
  rfl

/-- A root of a group and another member are both checked after the one and then the other was. -/
theorem exists_afterControls_both_checked {p : Page} {a b : NodeId}
    (h : p.document.tree.WellFormed) (hab : p.document.tree.SameGroup a b) (hne : a ≠ b)
    (hroot : p.document.tree.parent (some a) = none) :
    ∃ calls, (p.afterControls calls).document.tree.checked (some a) = .ok true ∧
      (p.afterControls calls).document.tree.checked (some b) = .ok true := by
  obtain ⟨root, name, ha, hb⟩ := hab
  obtain ⟨t₁, h₁⟩ := Tree.exists_setChecked ha.isElement true
  have hkeeps := Tree.keepsGroups_setChecked h h₁
  have hwf₁ : t₁.WellFormed := hkeeps.frame.wellFormed h
  have hb₁ : t₁.isElement (some b) = true := by
    rw [hkeeps.frame.isElement_eq]
    exact hb.isElement
  obtain ⟨t₂, h₂⟩ := Tree.exists_setChecked hb₁ true
  refine ⟨[.setChecked (.node (some a)) true, .setChecked (.node (some b)) true], ?_⟩
  rw [afterControls_setChecked h₁, afterControls_setChecked h₂]
  obtain ⟨hcb, hmembers, -⟩ := Tree.setChecked_member hwf₁ h₂
  -- `a` was checked by the first call, and having no parent it is not cleared by the second
  have hba : t₁.SameGroup b a := hkeeps.sameGroup_iff.mpr ⟨root, name, hb, ha⟩
  have hroot₁ : t₁.parent (some a) = none := by rw [hkeeps.frame.parent, hroot]
  exact ⟨(hmembers a hne hba).mpr ⟨(Tree.setChecked_member h h₁).1, hroot₁⟩, hcb⟩

/-- **Groups of radio buttons under calls on controls.**
* Checking a control leaves it checked, unchecks the other members of its group that have a parent,
  leaves a member without parent as it was, and leaves every element outside the group alone.
* Of the members of a group below the root of its tree, one at most is checked after every history,
  if it was so before.
* Of the whole group, one member at most is checked after every history, if it was so before, just
  if the root is not one of several members. -/
theorem radioGroup_afterControls {p : Page} {r : NodeId} (h : p.document.tree.WellFormed)
    (hr : p.document.tree.isElement (some r) = true) :
    (∃ t, p.document.tree.setChecked (some r) true = .ok t ∧ t.checked (some r) = .ok true ∧
      (∀ m, m ≠ r → p.document.tree.SameGroup r m →
        (t.checked (some m) = .ok true ↔
          p.document.tree.checked (some m) = .ok true ∧
            p.document.tree.parent (some m) = none)) ∧
      ∀ n, n ≠ r → ¬ p.document.tree.SameGroup r n →
        t.element? (some n) = p.document.tree.element? (some n)) ∧
    (p.document.tree.Exclusive (some r) →
      ∀ calls, (p.afterControls calls).document.tree.Exclusive (some r)) ∧
    ((∀ calls, (p.afterControls calls).document.tree.ExclusiveGroup r) ↔
      p.document.tree.ExclusiveGroup r ∧
        ∀ a b, p.document.tree.SameGroup r a → p.document.tree.SameGroup r b →
          p.document.tree.parent (some a) = none → a = b) := by
  obtain ⟨t, ht⟩ := Tree.exists_setChecked hr true
  refine ⟨⟨t, ht, Tree.setChecked_member h ht⟩,
    fun hx calls => (keepsGroups_afterControls h calls).exclusive _ hx, ?_, ?_⟩
  · intro hall
    refine ⟨hall [], fun a b ha hb hroot => Classical.byContradiction fun hne => ?_⟩
    obtain ⟨calls, hca, hcb⟩ :=
      exists_afterControls_both_checked h (ha.of_common hb) hne hroot
    have hkeeps := keepsGroups_afterControls h calls
    exact hne (hall calls a b (hkeeps.sameGroup_iff.mpr ha) (hkeeps.sameGroup_iff.mpr hb) hca hcb)
  · rintro ⟨hexclusive, honly⟩ calls a b ha hb hca hcb
    have hkeeps := keepsGroups_afterControls h calls
    have ha₀ := hkeeps.sameGroup_iff.mp ha
    have hb₀ := hkeeps.sameGroup_iff.mp hb
    by_cases hpa : p.document.tree.parent (some a) = none
    · exact honly a b ha₀ hb₀ hpa
    by_cases hpb : p.document.tree.parent (some b) = none
    · exact (honly b a hb₀ ha₀ hpb).symm
    -- both are below the root, where members exclude each other
    rw [Tree.checked_eq_ok_true_iff] at hca hcb
    refine hkeeps.exclusive _ (h.exclusive_of_exclusiveGroup hexclusive) a b ?_ ?_ hca hcb
    · exact (hkeeps.groupMember_iff h).mpr ⟨ha₀, hpa⟩
    · exact (hkeeps.groupMember_iff h).mpr ⟨hb₀, hpb⟩

/-- A page beside whose document there is a radio button with another one of its name below it. The
upper one is checked. -/
def Page.nestedRadios : Page :=
  let tree := (Page.afterCalls { document := .skeleton "about:blank" }
    [.createElement "input", .createElement "input", .appendChild (some 4) (some 5)]).document.tree
  let upper := Element.ofMarkup "input" [("type", "radio"), ("name", "size"), ("checked", "")]
  let lower := Element.ofMarkup "input" [("type", "radio"), ("name", "size")]
  { document := { tree := (tree.setElement 4 upper).setElement 5 lower, url := "about:blank" } }

/-- The lower radio button is checked, and the upper one stays checked. -/
theorem radioGroup_afterControls_nestedRadios :
    let p := Page.nestedRadios
    p.document.tree.WellFormed ∧ p.document.tree.isElement (some 5) = true ∧
      p.document.tree.SameGroup 5 4 ∧
      (∃ t, p.document.tree.setChecked (some 5) true = .ok t ∧ t.checked (some 5) = .ok true ∧
        t.checked (some 4) = .ok true) ∧
      ¬ ∀ calls, (p.afterControls calls).document.tree.ExclusiveGroup 5 := by
  intro p
  have hskeleton : Page.HasWellFormedTree { document := .skeleton "about:blank" } :=
    Tree.wellFormed_skeletonTree
  have hwf : p.document.tree.WellFormed := by
    refine (Tree.sameFrame_setElement (by decide +kernel)).wellFormed ?_
    refine (Tree.sameFrame_setElement (by decide +kernel)).wellFormed ?_
    exact Page.afterCalls_keeps StructuralCall.keeps_wellFormed hskeleton _
  have hr : p.document.tree.isElement (some 5) = true := by decide +kernel
  have hlower : p.document.tree.InGroup (some 4) "size" 5 :=
    ⟨⟨_, rfl, by decide +kernel, by decide +kernel⟩, by decide, by decide +kernel⟩
  have hupper : p.document.tree.InGroup (some 4) "size" 4 :=
    ⟨⟨_, rfl, by decide +kernel, by decide +kernel⟩, by decide, by decide +kernel⟩
  have hroot : p.document.tree.parent (some 4) = none := by decide +kernel
  have hgroup : p.document.tree.SameGroup 5 4 := ⟨_, _, hlower, hupper⟩
  obtain ⟨⟨t, ht, hchecked, hmembers, -⟩, -, hiff⟩ := radioGroup_afterControls hwf hr
  refine ⟨hwf, hr, hgroup, ⟨t, ht, hchecked, ?_⟩, fun hall => ?_⟩
  · exact (hmembers 4 (by decide) hgroup).mpr
      ⟨Tree.checked_eq_ok_true_iff.mpr (by decide +kernel), hroot⟩
  · have heq : (4 : NodeId) = 5 := (hiff.mp hall).2 4 5 hgroup ⟨_, _, hlower, hlower⟩ hroot
    exact absurd heq (by decide)

end WebPage
