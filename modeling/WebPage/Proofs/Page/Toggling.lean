import Mathlib.Data.Nat.Bits
import WebPage.Proofs.Form.Checkedness
import WebPage.Proofs.Page.AttributeVerbs

/-!
# Verbs that toggle, applied twice

A verb that toggles flips one bit of an element at each node of its target, and the class verb flips
one bit for each word at each node. A node may be named several times, and a word too, so a bit may
be flipped several times in one call; after the call it differs from before just if it was flipped
an odd number of times. No step changes another bit. So after two calls every bit has been flipped
an even number of times, and is as it was.

## Main definitions

* `Page.seen`: a bit of an element, read off a page
* `Flips`: a verb flips certain bits, each as often as it is listed
* `Verb.twice`, `Verb.SucceedsTwice`: two calls in a row
* `AttributesRestored`: the same attributes are present, and those other than one have their values

## Main results

* `Flips.bind`, `Flips.forM`: sequences and loops flip what their parts flip
* `flips_editTree`: a change of one element flips one bit
* `Flips.twice`: what was flipped twice is as it was
* `flips_toggleClass`, `flips_toggleAttribute`, `flips_toggleChecked`: the verbs
* `toggling_twice`: toggling twice restores
-/

namespace WebPage

open WebPage.Tree

/-! ## Flipping bits -/

section Flipping

variable {K α : Type} [DecidableEq K]

/-- A bit of an element, read off a page. What is no element has no bits. -/
def Page.seen (bit : K → Element → Bool) (p : Page) (key : NodeId × K) : Bool :=
  (p.document.tree.element? (some key.1)).any (bit key.2)

/-- On pages with a property, which it keeps, a verb succeeds and flips the listed bits, each as
often as it is listed. -/
def Flips (I : Page → Prop) (bit : K → Element → Bool) (keys : List (NodeId × K))
    (v : Verb Unit) : Prop :=
  ∀ p, I p → ∃ p', v p = .ok () p' ∧ I p' ∧
    ∀ key, p'.seen bit key = (p.seen bit key ^^ (keys.count key).bodd)

variable {I : Page → Prop} {bit : K → Element → Bool} {keys keys' : List (NodeId × K)}
  {v w : Verb Unit}

namespace Flips

theorem pure : Flips I bit [] (Pure.pure ()) := by
  intro p hp
  refine ⟨p, rfl, hp, fun key => ?_⟩
  simp

/-- A sequence flips what its parts flip. -/
theorem bind (hv : Flips I bit keys v) (hw : Flips I bit keys' w) :
    Flips I bit (keys ++ keys') (v >>= fun _ => w) := by
  intro p hp
  obtain ⟨p₁, h₁, hp₁, hseen₁⟩ := hv p hp
  obtain ⟨p₂, h₂, hp₂, hseen₂⟩ := hw p₁ hp₁
  refine ⟨p₂, (bind_apply_of_ok h₁).trans h₂, hp₂, fun key => ?_⟩
  rw [hseen₂, hseen₁, List.count_append, Nat.bodd_add, Bool.xor_assoc]

/-- **A loop flips what its steps flip.** -/
theorem forM {l : List α} {step : α → Verb Unit} {keys : α → List (NodeId × K)}
    (hstep : ∀ a ∈ l, Flips I bit (keys a) (step a)) :
    Flips I bit (l.flatMap keys) (l.forM step) := by
  induction l with
  | nil => exact pure
  | cons a l ih =>
    rw [List.forM_eq_forM, List.forM_cons, List.flatMap_cons]
    exact (hstep a List.mem_cons_self).bind (ih fun b hb => hstep b (List.mem_cons_of_mem a hb))

end Flips

/-- So does a verb that goes through nodes. -/
theorem flips_forAll {ids : List NodeId} {step : NodeId → Verb Unit}
    {keys : NodeId → List (NodeId × K)} (hstep : ∀ x ∈ ids, Flips I bit (keys x) (step x)) :
    Flips I bit (ids.flatMap keys) (Page.forAll (.nodes (ids.map some)) step) := by
  rw [forAll_of_given (Target.given?_nodes ids)]
  exact .forM hstep

/-- Verbs that do the same on the pages at hand flip the same bits. -/
theorem Flips.congr (hw : Flips I bit keys w) (h : ∀ p, I p → v p = w p) : Flips I bit keys v := by
  intro p hp
  obtain ⟨p', hrun, hp', hseen⟩ := hw p hp
  exact ⟨p', (h p hp).trans hrun, hp', hseen⟩

/-- The page after two calls of a verb. -/
def Verb.twice (v : Verb Unit) (p : Page) : Page :=
  stateAfter v (stateAfter v p)

/-- Two calls of a verb succeed. -/
def Verb.SucceedsTwice (v : Verb Unit) (p : Page) : Prop :=
  ∃ p₁, v p = .ok () p₁ ∧ v p₁ = .ok () (v.twice p)

/-- **What was flipped twice is as it was.** -/
theorem Flips.twice (h : Flips I bit keys v) {p : Page} (hp : I p) :
    v.SucceedsTwice p ∧ I (v.twice p) ∧ ∀ key, (v.twice p).seen bit key = p.seen bit key := by
  obtain ⟨p₁, h₁, hp₁, hseen₁⟩ := h p hp
  obtain ⟨p₂, h₂, hp₂, hseen₂⟩ := h p₁ hp₁
  have htwice : v.twice p = p₂ := by
    rw [Verb.twice, stateAfter_of_ok h₁, stateAfter_of_ok h₂]
  rw [Verb.SucceedsTwice, htwice]
  refine ⟨⟨p₁, h₁, h₂⟩, hp₂, fun key => ?_⟩
  rw [hseen₂, hseen₁, Bool.xor_assoc, Bool.xor_self, Bool.xor_false]

/-- **A change of one element flips one bit** if the bit is flipped by the change, and no other bit
of the element is. -/
theorem flips_editTree {F : Tree → Except DomError Tree} {x : NodeId} {k : K}
    (hx : ∀ p, I p → p.document.tree.isElement (some x) = true)
    (hF : ∀ p e, I p → p.document.tree.element? (some x) = some e → ∃ e',
      F p.document.tree = .ok (p.document.tree.setElement x e') ∧
      I (p.withTree (p.document.tree.setElement x e')) ∧
      ∀ k', bit k' e' = (bit k' e ^^ decide (k' = k))) :
    Flips I bit [(x, k)] (Verb.editTree F) := by
  intro p hp
  obtain ⟨e, he⟩ := Option.isSome_iff_exists.mp (hx p hp)
  obtain ⟨e', hrun, hp', hbit⟩ := hF p e hp he
  refine ⟨_, editTree_of_ok hrun, hp', ?_⟩
  rintro ⟨y, k'⟩
  unfold Page.seen
  show ((p.document.tree.setElement x e').element? (some y)).any (bit k') = _
  rw [element?_setElement (isElement_of_element? he), List.count_singleton]
  by_cases hy : y = x
  · -- the element that is changed: only the bit `k` differs
    subst hy
    rw [if_pos rfl, he, Option.any_some, Option.any_some, hbit]
    by_cases hk : k' = k
    · simp [hk]
    · have hkey : ¬ (y, k) = (y, k') := fun h => hk (Prod.mk.inj h).2.symm
      simp [hk, hkey]
  · have hkey : ¬ (x, k) = (y, k') := fun h => hy (Prod.mk.inj h).1.symm
    rw [if_neg fun h => hy (Option.some.inj h)]
    simp [hkey]

end Flipping

/-! ## The verbs -/

section Verbs

variable {e : Element} {t : Tree} {x : NodeId} {ids : List NodeId} {name names token s : String}

/-- Puts a token into the classes, or takes it out if it is there. -/
def Element.toggleToken (e : Element) (token : String) : Element :=
  e.forceClasses (!e.classes.contains token) [token]

/-- **A token that is toggled** is a class just if it was none, and the others stay. -/
theorem Element.hasClass_toggleToken (e : Element) (ht : Text.IsWord token) (s : String) :
    (e.toggleToken token).hasClass s = (e.hasClass s ^^ decide (s = token)) := by
  have hw : ∀ token' ∈ [token], Text.IsWord token' := List.forall_mem_singleton.mpr ht
  have htoken : e.classes.contains token = true ↔ token ∈ e.classWords := contains_classes_iff
  rw [Bool.eq_iff_iff, hasClass_iff, toggleToken]
  cases hc : e.classes.contains token with
  | true =>
    -- the token is taken out, and only the token itself is missing then
    have hmem := htoken.mp hc
    rw [Bool.not_true, classWords_forceClasses_false hw, List.mem_filter, List.mem_eraseDups]
    by_cases hs : s = token
    · have hclass : e.hasClass token = true := hasClass_iff.mpr hmem
      simp [hs, hclass]
    · simp [hs, hasClass_iff]
  | false =>
    -- the token is put in behind the others
    have hmem : token ∉ e.classWords := fun hmem => by simp [htoken.mpr hmem] at hc
    rw [Bool.not_false, classWords_forceClasses_true hw, List.mem_eraseDups, List.mem_append,
      List.mem_singleton]
    by_cases hs : s = token
    · have hclass : e.hasClass token = false := by
        rw [← Bool.not_eq_true, hasClass_iff]
        exact hmem
      simp [hs, hclass]
    · simp [hs, hasClass_iff]

/-- To toggle a token is to force it to the opposite of what it is. -/
theorem Tree.toggleClass_none_eq (ht : token ≠ "") (t : Tree) (r : NodeRef) :
    (return (← t.toggleClass r token none).2) = t.modifyElement r (·.toggleToken token) := by
  have hempty : token.isEmpty = false := by simpa using ht
  cases he : t.element r with
  | error e =>
    unfold toggleClass updateClasses updateElement modifyElement
    rw [hempty, he]
    rfl
  | ok e =>
    have hforced : (return (← t.toggleClass r token none).2) =
        (return (← t.toggleClass r token (some !e.classes.contains token)).2) := by
      unfold toggleClass updateClasses updateElement
      rw [hempty, he]
      rfl
    rw [hforced, toggleClass_eq ht]
    unfold modifyElement
    rw [he]
    rfl

/-- A control that is no radio button is written alone. -/
theorem Tree.setChecked_of_not_radio (he : t.element? (some x) = some e) (hr : e.isRadio = false)
    (b : Bool) : t.setChecked (some x) b = .ok (t.setElement x (e.writeChecked b)) := by
  have hwrite : t.writeChecked (some x) b = .ok (t.setElement x (e.writeChecked b)) :=
    modifyElement_eq_ok.mpr ⟨x, e, rfl, he, rfl⟩
  have hread : (t.setElement x (e.writeChecked b)).element (some x) = .ok (e.writeChecked b) := by
    rw [element_eq_ok, element?_setElement (isElement_of_element? he), if_pos rfl]
  have hname : (e.writeChecked b).radioName? = none := by
    have hr' : (e.writeChecked b).isRadio = false := hr
    rw [Element.radioName?, hr', if_neg (by decide)]
  have hgroup : (t.setElement x (e.writeChecked b)).radioGroup (some x) = .ok [] := by
    unfold radioGroup
    rw [hread]
    dsimp only [bind, Except.bind]
    rw [hname]
    rfl
  unfold setChecked
  rw [hwrite]
  dsimp only [bind, Except.bind]
  rw [hgroup]
  cases b <;> rfl

-- The nodes that are given are elements at the beginning, when the tree is `t`.
variable (he : ∀ x ∈ ids, t.isElement (some x) = true)
include he

/-- **The class verb** flips each word of its text at each element of its target. -/
theorem flips_toggleClass (names : String) :
    Flips (fun p => t.SameFrame p.document.tree) (fun s e => e.hasClass s)
      (ids.flatMap fun x => (Text.words names).flatMap fun token => [(x, token)])
      (Page.toggleClass (.nodes (ids.map some)) names none) := by
  have hword : ∀ token ∈ Text.words names, Text.IsWord token := fun _ => Text.isWord_of_mem_words
  refine flips_forAll fun x hx => .forM fun token htoken => flips_editTree (fun p hp => ?_) ?_
  · rw [hp.isElement_eq]
    exact he x hx
  intro p e hp hread
  refine ⟨e.toggleToken token, ?_, hp.trans (sameFrame_setElement (isElement_of_element? hread)),
    e.hasClass_toggleToken (hword token htoken)⟩
  rw [Tree.toggleClass_none_eq (hword token htoken).1]
  exact modifyElement_eq_ok.mpr ⟨x, e, rfl, hread, rfl⟩

/-- **A verb that toggles an attribute** flips its presence at each element of its target. -/
theorem flips_toggleAttribute (hname : Name.isValid name = true) (config : Config) :
    Flips (fun p => p.document.tree.SoundAttributes ∧ t.SameBut name p.document.tree ∧
        p.config = config)
      (fun (_ : Unit) e => e.attributes.contains name) (ids.flatMap fun x => [(x, ())])
      (Page.changeAll (.nodes (ids.map some)) (Name.validate name)
        (·.toggleAttribute name none)) := by
  rw [Name.validate_of_isValid hname, changeAll_ok]
  refine flips_forAll fun x hx => flips_editTree (fun p hp => ?_) ?_
  · rw [hp.2.1.frame.isElement_eq]
    exact he x hx
  rintro p e ⟨hsound, hsame, hconfig⟩ hread
  have hattributes := hsound _ _ hread
  refine ⟨e.toggleAttribute name none, modifyElement_eq_ok.mpr ⟨x, e, rfl, hread, rfl⟩,
    ⟨hsound.setElement (isElement_of_element? hread)
        (e.sound_toggleAttribute hattributes name none),
      hsame.trans (.setElement hread (e.sameBut_toggleAttribute name none)), hconfig⟩, ?_⟩
  rintro ⟨⟩
  show (e.attributes.toggle name none).2.contains name = _
  rw [hattributes.contains_toggle, if_pos (by exact beq_self_eq_true _)]
  simp

/-- **The verb that toggles controls** flips the given elements, if none is a radio button. -/
theorem flips_toggleChecked :
    Flips (fun p => t.SameFrame p.document.tree ∧
        ∀ x ∈ ids, ∀ e, p.document.tree.element? (some x) = some e → e.isRadio = false)
      (fun (_ : Unit) e => e.isChecked) (ids.flatMap fun x => [(x, ())])
      (Page.toggleChecked (.nodes (ids.map some))) := by
  refine flips_forAll fun x hx => flips_editTree (fun p hp => ?_) ?_
  · rw [hp.1.isElement_eq]
    exact he x hx
  rintro p e ⟨hframe, hradio⟩ hread
  have hx' : p.document.tree.isElement (some x) = true := isElement_of_element? hread
  refine ⟨e.writeChecked !e.isChecked, ?_,
    ⟨hframe.trans (sameFrame_setElement hx'), fun y hy e' he' => ?_⟩, ?_⟩
  · have hchecked : p.document.tree.checked (some x) = .ok e.isChecked := by
      rw [Tree.checked, element_eq_ok.mpr hread]
      rfl
    -- what the control is set to is read off the tree before
    dsimp only
    rw [hchecked]
    exact setChecked_of_not_radio hread (hradio x hx e hread) _
  · -- a write does not make a radio button of a control
    have he'' : (p.document.tree.setElement x (e.writeChecked !e.isChecked)).element? (some y) =
        some e' := he'
    rw [element?_setElement hx'] at he''
    split at he''
    next =>
      obtain rfl := Option.some.inj he''
      exact hradio x hx e hread
    next => exact hradio y hy e' he''
  · rintro ⟨⟩
    rw [Element.isChecked_writeChecked]
    simp

end Verbs

/-! ## Two calls -/

section Restored

variable {p p' q : Page} {ids : List NodeId} {name : String} {t t' : Tree} {r : NodeRef}

/-- **What is read of elements** is as it was if it is the same for each element. What was no
element is none, and fails to be read as it did. -/
theorem Tree.SameFrame.read_eq {α : Type} {f : Element → α} (h : SameFrame t t')
    (hf : (t'.element? r).map f = (t.element? r).map f) :
    (return f (← t'.element r) : Except DomError α) = return f (← t.element r) := by
  cases he : t.element? r with
  | some e =>
    rw [he, Option.map_some, Option.map_eq_some_iff] at hf
    obtain ⟨e', he', hfe⟩ := hf
    rw [element_eq_ok.mpr he, element_eq_ok.mpr he']
    exact congrArg Except.ok hfe
  | none =>
    have he' : t'.element? r = none := by rwa [he, Option.map_none, Option.map_eq_none_iff] at hf
    have hkind : (t'.kind? r).isSome = (t.kind? r).isSome := by rw [h.kind?]
    rw [isSome_kind?, isSome_kind?] at hkind
    unfold element? at he he'
    unfold Tree.element
    cases hn : t.node? r with
    | none =>
      have hn' : t'.node? r = none := by simpa [hn] using hkind
      rw [hn']
    | some n =>
      obtain ⟨n', hn'⟩ := Option.isSome_iff_exists.mp (hkind.trans (by rw [hn]; rfl))
      rw [hn, Option.bind_some] at he
      rw [hn', Option.bind_some] at he'
      simp only [hn', he, he']

/-- A bit that is seen as before is read as before. -/
theorem map_element?_of_seen {K : Type} {k : K} (bit : K → Element → Bool)
    (hframe : SameFrame p.document.tree p'.document.tree)
    (hseen : ∀ x, p'.seen bit (x, k) = p.seen bit (x, k)) (r : NodeRef) :
    (p'.document.tree.element? r).map (bit k) = (p.document.tree.element? r).map (bit k) := by
  cases r with
  | none => rfl
  | some x =>
    have hsome : (p'.document.tree.element? (some x)).isSome =
        (p.document.tree.element? (some x)).isSome := congrFun hframe.isElement_eq (some x)
    have hx := hseen x
    unfold Page.seen at hx
    cases h : p.document.tree.element? (some x) with
    | none =>
      have h' : p'.document.tree.element? (some x) = none := by simpa [h] using hsome
      rw [h']
    | some e =>
      obtain ⟨e', h'⟩ := Option.isSome_iff_exists.mp (hsome.trans (by rw [h]; rfl))
      rw [h, h', Option.any_some, Option.any_some] at hx
      rw [h', Option.map_some, Option.map_some, hx]

/-- The same attributes are present, on every element, and those other than `name` have the same
values. -/
structure AttributesRestored (name : String) (p p' : Page) : Prop where
  present : ∀ r other, p'.document.tree.hasAttribute r other = p.document.tree.hasAttribute r other
  values : ∀ r other, Text.equalsIgnoringCase name other = false →
    p'.document.tree.attribute? r other = p.document.tree.attribute? r other

theorem attributesRestored (h : p.document.tree.SameBut name p'.document.tree)
    (hseen : ∀ x, p'.seen (fun (_ : Unit) e => e.attributes.contains name) (x, ()) =
      p.seen (fun _ e => e.attributes.contains name) (x, ())) :
    AttributesRestored name p p' := by
  refine ⟨fun r other => h.frame.read_eq ?_, fun r other hne => h.frame.read_eq ?_⟩
  · cases hother : Text.equalsIgnoringCase name other with
    | true =>
      -- another spelling of the name that was toggled
      have hcontains : ∀ a : Attributes, a.contains other = a.contains name := fun a => by
        rw [Attributes.contains, Attributes.contains, Attributes.named_congr hother]
      simp only [hcontains]
      exact map_element?_of_seen _ h.frame hseen r
    | false => exact h.element?_map_eq (fun e e' hsame => hsame.contains_eq hother) r
  · exact h.element?_map_eq (fun e e' hsame => hsame.others other hne) r

/-- With a check that fails nothing is changed. -/
theorem stateAfter_changeAll_of_error {e : DomError} (f : Element → Element) (p : Page) :
    stateAfter (Page.changeAll (.nodes (ids.map some)) (.error e) f) p = p := by
  unfold Page.changeAll Page.editTreeAll
  rw [forAll_of_given (Target.given?_nodes ids)]
  refine Keeps.forM (I := (· = p)) (fun x _ q hq => ?_) p rfl
  exact (stateAfter_of_error (editTree_of_error rfl)).trans hq

/-- **An attribute that is toggled twice** is restored. An invalid name makes both calls fail, or
there are no nodes. -/
theorem toggled_twice {v : Verb Unit}
    (hv : ∀ q : Page, q.config = p.config → v q =
      Page.changeAll (.nodes (ids.map some)) (Name.validate name) (·.toggleAttribute name none) q)
    (hp : p.document.tree.SoundAttributes)
    (he : ∀ x ∈ ids, p.document.tree.isElement (some x) = true) :
    (Name.isValid name = true → v.SucceedsTwice p) ∧
      AttributesRestored name p (v.twice p) := by
  cases hname : Name.isValid name with
  | true =>
    have hflips := (flips_toggleAttribute he hname p.config).congr fun q hq => hv q hq.2.2
    obtain ⟨hsucceeds, ⟨-, hsame, -⟩, hseen⟩ := hflips.twice ⟨hp, .refl name _, rfl⟩
    exact ⟨fun _ => hsucceeds, attributesRestored hsame fun x => hseen (x, ())⟩
  | false =>
    have hstate : stateAfter v p = p := by
      unfold stateAfter
      rw [hv p rfl, Name.validate, if_neg (by simp [hname])]
      exact stateAfter_changeAll_of_error _ p
    have htwice : v.twice p = p := by rw [Verb.twice, hstate, hstate]
    rw [htwice]
    refine ⟨fun hvalid => ?_, fun _ _ => rfl, fun _ _ _ => rfl⟩
    cases hvalid

/-- **Toggling twice restores**, whatever elements are given, with repetitions and in any order. Of
class names, of an attribute or of the hidden mark it does so for all elements, the given ones and
the others, and of controls if none that is given is a radio button. Both calls succeed, unless the
name of the attribute is invalid. The attributes of every page that is reached are sound
(`soundAttributes_afterPageCalls`). -/
theorem toggling_twice (hp : p.document.tree.SoundAttributes)
    (he : ∀ x ∈ ids, p.document.tree.isElement (some x) = true) :
    let target : Target := .nodes (ids.map some)
    (∀ names : String, (Page.toggleClass target names none).SucceedsTwice p ∧
      ∀ r token, ((Page.toggleClass target names none).twice p).document.tree.hasClass r token =
        p.document.tree.hasClass r token) ∧
    (∀ name : String,
      (Name.isValid name = true → (Page.toggleAttribute target name none).SucceedsTwice p) ∧
      AttributesRestored name p ((Page.toggleAttribute target name none).twice p)) ∧
    ((Name.isValid p.config.hiddenAttribute = true → (Page.toggle target).SucceedsTwice p) ∧
      AttributesRestored p.config.hiddenAttribute p ((Page.toggle target).twice p)) ∧
    ((∀ x ∈ ids, ∀ e, p.document.tree.element? (some x) = some e → e.isRadio = false) →
      (Page.toggleChecked target).SucceedsTwice p ∧
      ∀ r, ((Page.toggleChecked target).twice p).document.tree.checked r =
        p.document.tree.checked r) := by
  intro target
  refine ⟨fun names => ?_, fun name => ?_, ?_, fun hradio => ?_⟩
  · obtain ⟨hsucceeds, hframe, hseen⟩ := (flips_toggleClass he names).twice (.refl _)
    refine ⟨hsucceeds, fun r token => hframe.read_eq ?_⟩
    exact map_element?_of_seen (fun s e => e.hasClass s) hframe (fun x => hseen (x, token)) r
  · exact toggled_twice (fun q _ => congrFun (toggleAttribute_eq target name none) q) hp he
  · refine toggled_twice (fun q hq => ?_) hp he
    rw [← hq]
    exact setHidden_apply target none q
  · obtain ⟨hsucceeds, ⟨hframe, -⟩, hseen⟩ := (flips_toggleChecked he).twice ⟨.refl _, hradio⟩
    refine ⟨hsucceeds, fun r => hframe.read_eq ?_⟩
    exact map_element?_of_seen (fun (_ : Unit) e => e.isChecked) hframe (fun x => hseen (x, ())) r

/-- A page whose head has a class. -/
def classyHead : Page where
  document :=
    { tree := Document.skeletonTree.setElement 2 ((Element.ofTag "head").setAttribute "class" "b")
      url := "about:blank" }

/-- The head is given once and the body twice, so the first call hides the head and not the body,
and the second call undoes that. -/
theorem toggling_twice_classyHead :
    (classyHead.document.tree.SoundAttributes ∧
      (∀ x ∈ [3, 2, 3], classyHead.document.tree.isElement (some x) = true) ∧
      Name.isValid classyHead.config.hiddenAttribute = true ∧
      ∀ x ∈ [3, 2, 3], ∀ e, classyHead.document.tree.element? (some x) = some e →
        e.isRadio = false) ∧
    (∃ p', Page.toggle (.nodes ([3, 2, 3].map some)) classyHead = .ok () p' ∧
      p'.document.tree.hasAttribute (some 2) "hidden" = .ok true ∧
      p'.document.tree.hasAttribute (some 3) "hidden" = .ok false) ∧
    (Page.toggle (.nodes ([3, 2, 3].map some))).SucceedsTwice classyHead ∧
    AttributesRestored "hidden" classyHead
      ((Page.toggle (.nodes ([3, 2, 3].map some))).twice classyHead) ∧
    ((Page.toggleClass (.nodes ([3, 2, 3].map some)) " a b a a " none).twice
      classyHead).document.tree.hasClass (some 2) "b" = .ok true ∧
    (Page.toggleChecked (.nodes ([3, 2, 3].map some))).SucceedsTwice classyHead := by
  have hsound : classyHead.document.tree.SoundAttributes :=
    soundAttributes_skeletonTree.setElement (by decide +kernel)
      (Element.sound_setAttribute Attributes.sound_empty _ _)
  have he : ∀ x ∈ [3, 2, 3], classyHead.document.tree.isElement (some x) = true := by
    decide +kernel
  have hname : Name.isValid classyHead.config.hiddenAttribute = true := by decide +kernel
  have hradio : ∀ x ∈ [3, 2, 3], ∀ e, classyHead.document.tree.element? (some x) = some e →
      e.isRadio = false := by
    have hany : ∀ x ∈ [3, 2, 3],
        (classyHead.document.tree.element? (some x)).any Element.isRadio = false := by
      decide +kernel
    intro x hx e hread
    simpa [hread] using hany x hx
  have hb : classyHead.document.tree.hasClass (some 2) "b" = .ok true := by decide +kernel
  obtain ⟨hclass, -, ⟨htoggle, hrestored⟩, hchecked⟩ := toggling_twice hsound he
  refine ⟨⟨hsound, he, hname, hradio⟩, ⟨_, rfl, rfl, rfl⟩, htoggle hname, hrestored, ?_,
    (hchecked hradio).1⟩
  rw [(hclass " a b a a ").2 (some 2) "b", hb]

end Restored

end WebPage
