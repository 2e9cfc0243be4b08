import WebPage.Proofs.Attributes.Sound
import WebPage.Proofs.Tree.Splicing

/-!
# Elements in a changing tree

The operations on nodes and their places write no element. What they add is a fresh node, and an
element among the fresh nodes begins as it is read from markup. So a property that reads nothing but
the elements of a tree is kept by all these operations if it allows for fresh nodes. Two such
properties are that a node is a certain element, and that all attribute maps in the tree are sound.

## Main definitions

* `Tree.ReadsElements`: a property that reads elements only, and allows for fresh nodes
* `Tree.SoundAttributes`: the attribute maps of all elements are sound

## Main results

* `Tree.ReadsElements.keptByOperations`: the operations on a tree keep such a property
* `Tree.readsElements_holdsElement`, `Tree.readsElements_soundAttributes`: the two properties
* `Tree.SoundAttributes.modifyElement`: a change of an element that keeps its attributes sound
-/

namespace WebPage

theorem Element.sound_setAttribute {e : Element} (h : e.attributes.Sound) (name value : String) :
    (e.setAttribute name value).attributes.Sound :=
  h.insert name value

/-- An element of markup has a sound map of attributes, whatever the markup repeats. -/
theorem Element.sound_ofMarkup (tag : String) (attributes : List (String × String)) :
    (Element.ofMarkup tag attributes).attributes.Sound := by
  have hall : ∀ (attributes : List (String × String)) (e : Element), e.attributes.Sound →
      (attributes.foldl (fun e a => e.setAttribute a.1 a.2) e).attributes.Sound := by
    intro attributes
    induction attributes with
    | nil => exact fun _ he => he
    | cons a attributes ih => exact fun e he => ih _ (e.sound_setAttribute he a.1 a.2)
  exact hall attributes _ Attributes.sound_empty

namespace Tree

variable {J : Tree → Prop} {t t' : Tree} {r : NodeRef} {x id : NodeId} {data : NodeData}
  {e : Element} {f : Element → Element}

/-! ## What the operations do to elements -/

theorem element?_congr (h : t'.data? r = t.data? r) : t'.element? r = t.element? r := by
  rw [element?_eq_data?, element?_eq_data?, h]

theorem element?_add : (t.add data).2.element? r =
    if r = some t.size then Node.element? { data } else t.element? r := by
  rw [element?, node?_add]
  split <;> rfl

/-- A text or a comment that is written anew is no element, before and after. -/
theorem element?_setData (hold : t.element? (some id) = none)
    (hnew : Node.element? { data } = none) :
    (t.setData id data).element? r = t.element? r := by
  rw [element?, setData, node?_modify]
  split
  next hr =>
    subst hr
    rw [hold, Option.bind_map, Option.bind_eq_none_iff]
    exact fun n _ => hnew
  next => rfl

/-- A property of trees that reads their elements only, and goes on to hold where a fresh node is
added. -/
structure ReadsElements (J : Tree → Prop) : Prop where
  congr : ∀ {t t' : Tree}, (∀ r, t'.element? r = t.element? r) → J t → J t'
  add : ∀ {t : Tree} {data : NodeData}, data.Fresh → J t → J (t.add data).2

namespace ReadsElements

/-- New text takes the place of old text, or of children. -/
theorem setTextContent (hJ : ReadsElements J) {text : String}
    (ht : t.setTextContent r text = .ok t') (h : J t) : J t' := by
  unfold Tree.setTextContent at ht
  rw [bind_eq_ok] at ht
  obtain ⟨n, hn, ht⟩ := ht
  have hread : t.element? r = n.element? := by
    rw [element?, node_eq_ok.mp hn]
    rfl
  split at ht
  next hd =>
    cases ht
    refine hJ.congr (fun s => element?_setData ?_ rfl) h
    rw [hread, Node.element?, hd]
  next hd =>
    cases ht
    refine hJ.congr (fun s => element?_setData ?_ rfl) h
    rw [hread, Node.element?, hd]
  next =>
    obtain ⟨⟨count, t₁⟩, h₁, ht⟩ := bind_eq_ok.mp ht
    have hkept : J t₁ := hJ.congr (fun s => element?_congr (data?_removeChildren h₁)) h
    dsimp only at ht
    split at ht
    next =>
      cases ht
      exact hkept
    next =>
      have hadded : J (t₁.add (.text text)).2 := hJ.add (.text text) hkept
      exact hJ.congr (fun s => element?_congr (data?_insertBefore ht)) hadded

/-- **The operations on a tree keep what reads its elements only.** -/
theorem keptByOperations (hJ : ReadsElements J) : KeptByOperations J where
  add := hJ.add
  insertBefore ht h := hJ.congr (fun _ => element?_congr (data?_insertBefore ht)) h
  detach := by
    intro t t' node attached ht h
    obtain ⟨n, -, ht⟩ := bind_eq_ok.mp ht
    cases ht
    cases node with
    | none => exact h
    | some id => exact hJ.congr (fun _ => element?_congr data?_unlink) h
  removeChildren ht h := hJ.congr (fun _ => element?_congr (data?_removeChildren ht)) h
  setTextContent ht h := hJ.setTextContent ht h

end ReadsElements

/-- What a certain element is, it stays: no fresh node takes its place. -/
theorem readsElements_holdsElement (x : NodeId) (e : Element) :
    ReadsElements fun t => t.element? (some x) = some e where
  congr hsame h := (hsame _).trans h
  add := by
    intro t data _ h
    have hx : some x ≠ some t.size := by
      intro he
      rw [he, element?, node?_size] at h
      cases h
    rw [element?_add, if_neg hx]
    exact h

/-! ## Sound attributes -/

/-- The attribute maps of all elements, in the tree and outside it, are sound. -/
def SoundAttributes (t : Tree) : Prop :=
  ∀ r e, t.element? r = some e → e.attributes.Sound

theorem readsElements_soundAttributes : ReadsElements SoundAttributes where
  congr := by
    intro t t' hsame h r e he
    exact h r e ((hsame r).symm.trans he)
  add := by
    intro t data hd h r e he
    rw [element?_add] at he
    split at he
    next =>
      cases hd with
      | element tag attributes =>
        obtain rfl := Option.some.inj he
        exact Element.sound_ofMarkup tag attributes
      | _ => cases he
    next => exact h r e he

theorem soundAttributes_empty : Tree.empty.SoundAttributes := by
  intro r e he
  cases r with
  | none => cases he
  | some id =>
    match id with
    | 0 => cases he
    | id + 1 => cases he

namespace SoundAttributes

theorem setElement (h : t.SoundAttributes) (hid : t.isElement (some id) = true)
    (he : e.attributes.Sound) : (t.setElement id e).SoundAttributes := by
  intro r e' he'
  rw [element?_setElement hid] at he'
  split at he'
  next =>
    obtain rfl := Option.some.inj he'
    exact he
  next => exact h r e' he'

/-- **A change of one element keeps all attributes sound** if it keeps those of the element so. -/
theorem modifyElement (h : t.SoundAttributes)
    (hf : ∀ e, e.attributes.Sound → (f e).attributes.Sound)
    (ht : t.modifyElement r f = .ok t') : t'.SoundAttributes := by
  obtain ⟨id, e, rfl, he, rfl⟩ := modifyElement_eq_ok.mp ht
  exact h.setElement (isElement_of_element? he) (hf e (h _ e he))

/-- A change of one element that leaves its attributes as they are. -/
theorem modifyElement_of_eq (h : t.SoundAttributes) (ht : t.modifyElement r f = .ok t')
    (hf : ∀ e, (f e).attributes = e.attributes) : t'.SoundAttributes :=
  h.modifyElement (fun e he => (hf e).symm ▸ he) ht

/-- A change that leaves the attributes of all elements as they are. -/
theorem of_map_eq (h : t.SoundAttributes)
    (hsame : ∀ r, (t'.element? r).map Element.attributes = (t.element? r).map Element.attributes) :
    t'.SoundAttributes := by
  intro r e he
  have hold : (t.element? r).map Element.attributes = some e.attributes := by
    rw [← hsame r, he]
    rfl
  obtain ⟨e₀, he₀, heq⟩ := Option.map_eq_some_iff.mp hold
  exact heq ▸ h r e₀ he₀

end SoundAttributes

/-- The tree of a document has sound attributes. -/
theorem soundAttributes_ofMarkupWith (parser : Markup.Parser) (options : MarkupOptions)
    (markup : String) : (Tree.ofMarkupWith parser options markup).SoundAttributes := by
  have h := keeps_loadAll_of_fresh
    readsElements_soundAttributes.keptByOperations.addBelow options.keepBlankText
    (some documentNode) (parser.document options.scripting markup) _ soundAttributes_empty
  unfold Tree.ofMarkupWith
  unfold stateAfter at h
  split <;> simp_all

theorem soundAttributes_skeletonTree : Document.skeletonTree.SoundAttributes := by
  have hok : Document.skeletonTree? = .ok Document.skeletonTree := rfl
  have hkept := readsElements_soundAttributes.keptByOperations
  have hfresh := hkept.add (.element "body" []) (hkept.add (.element "head" [])
    (hkept.add (.element "html" []) soundAttributes_empty))
  unfold Document.skeletonTree? at hok
  obtain ⟨t₁, h₁, hok⟩ := bind_eq_ok.mp hok
  obtain ⟨t₂, h₂, hok⟩ := bind_eq_ok.mp hok
  exact hkept.insertBefore hok (hkept.insertBefore h₂ (hkept.insertBefore h₁ hfresh))

end Tree

end WebPage
