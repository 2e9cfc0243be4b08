import WebPage.Proofs.Tree.Operations
import WebPage.Proofs.Verb.Keeps

/-!
# Content in a well-formed tree

Content is copied into a tree by one step, which adds a node below a parent. What this step keeps,
copying keeps, wherever it stops. So a tree stays well formed while content is copied into it, and
the trees of documents are well formed.

## Main definitions

* `NodeData.Fresh`: what a new node holds

## Main results

* `keeps_load_of_fresh`, `keeps_loadAll_of_fresh`, `keeps_loadFragmentWith`: copying keeps what
  adding one node keeps
* `WellFormed.addBelow`: adding one node keeps a tree well formed, even where it fails
* `wellFormed_ofMarkupWith`, `wellFormed_skeletonTree`: the trees of documents
-/

namespace WebPage

/-- What a new node holds. An element begins as it is read from markup. -/
inductive NodeData.Fresh : NodeData → Prop
  | fragment : Fresh .fragment
  | text (s : String) : Fresh (.text s)
  | comment (s : String) : Fresh (.comment s)
  | element (tag : String) (attributes : List (String × String)) :
      Fresh (.element (.ofMarkup tag attributes))

theorem NodeData.Fresh.kind_ne_document {data : NodeData} (h : data.Fresh) :
    data.kind ≠ .document := by
  cases h <;> simp [NodeData.kind]

namespace Tree

variable {J : Tree → Prop} {t : Tree} {parent r : NodeRef} {data : NodeData} {keepBlank : Bool}

/-- The tree after a node was added below a parent. The node is there even if the parent cannot
have it. -/
theorem stateAfter_addBelow :
    stateAfter (addBelow parent data) t =
      match (t.add data).2.appendChild parent (some t.size) with
      | .ok t' => t'
      | .error _ => (t.add data).2 := by
  simp only [addBelow, stateAfter_get_bind, add_fst, stateAfter_set_bind]
  cases (t.add data).2.appendChild parent (some t.size) <;> rfl

/-! ## Copying content -/

-- The induction is on the content; a row of content is copied one part after the other.
mutual

/-- **Copying content keeps what adding one fresh node keeps.** -/
theorem keeps_load_of_fresh
    (hadd : ∀ parent data, data.Fresh → Keeps J (addBelow parent data))
    (keepBlank : Bool) (parent : NodeRef) : ∀ content, Keeps J (load keepBlank parent content)
  | .text s => by
    rw [load]
    split
    · exact Keeps.pure _
    · exact (hadd _ _ (.text s)).bind fun _ => Keeps.pure _
  | .comment s => by
    rw [load]
    exact (hadd _ _ (.comment s)).bind fun _ => Keeps.pure _
  | .doctype _ => by
    rw [load]
    exact Keeps.pure _
  | .instruction _ _ => by
    rw [load]
    exact Keeps.pure _
  | .element tag attributes children => by
    rw [load]
    exact (hadd _ _ (.element tag attributes)).bind fun id =>
      (keeps_loadAll_of_fresh hadd keepBlank (some id) children).bind fun _ => Keeps.pure _

theorem keeps_loadAll_of_fresh
    (hadd : ∀ parent data, data.Fresh → Keeps J (addBelow parent data))
    (keepBlank : Bool) (parent : NodeRef) : ∀ contents, Keeps J (loadAll keepBlank parent contents)
  | [] => by
    rw [loadAll]
    exact Keeps.pure _
  | content :: contents => by
    rw [loadAll]
    exact (keeps_load_of_fresh hadd keepBlank parent content).bind fun _ =>
      (keeps_loadAll_of_fresh hadd keepBlank parent contents).bind fun _ => Keeps.pure _

end

theorem keeps_loadFragmentWith
    (hadd : ∀ parent data, data.Fresh → Keeps J (addBelow parent data))
    (parser : Markup.Parser) (options : MarkupOptions) (r : NodeRef) (markup : String) :
    Keeps J (loadFragmentWith parser options r markup) := by
  refine Keeps.get_bind fun t => ?_
  cases t.node r with
  | ok n => exact keeps_loadAll_of_fresh hadd _ _ _
  | error e => exact Keeps.throw e

/-- Copying content keeps what adding any node but a document keeps. -/
theorem keeps_loadAll
    (hadd : ∀ parent data, data.kind ≠ .document → Keeps J (addBelow parent data))
    (keepBlank : Bool) (parent : NodeRef) (contents : List Markup.Content) :
    Keeps J (loadAll keepBlank parent contents) :=
  keeps_loadAll_of_fresh (fun parent data h => hadd parent data h.kind_ne_document) _ _ _

/-! ## Well-formed trees -/

/-- Adding a node keeps a tree well formed, even if its parent cannot have it. -/
theorem WellFormed.addBelow (parent : NodeRef) (data : NodeData) (hd : data.kind ≠ .document) :
    Keeps WellFormed (Tree.addBelow parent data) := by
  intro t h
  rw [stateAfter_addBelow]
  cases ht : (t.add data).2.appendChild parent (some t.size) with
  | ok t' => exact (h.add hd).appendChild ht
  | error e => exact h.add hd

/-- The tree with nothing in it is well formed. -/
theorem wellFormed_empty : Tree.empty.WellFormed := by
  have hnode : ∀ r n, Tree.empty.node? r = some n →
      r = some documentNode ∧ n = { data := .document } := by
    intro r n h
    cases r with
    | none => simp [node?] at h
    | some id =>
      simp only [node?, Tree.empty, Option.bind_some, List.getElem?_toArray,
        List.getElem?_singleton] at h
      split at h
      next hid =>
        subst hid
        exact ⟨rfl, (Option.some.inj h).symm⟩
      next => simp at h
  -- no node has a link
  have hlink : ∀ (link : Node → NodeRef) r, link { data := .document } = none →
      (Tree.empty.node? r).bind link = none := by
    intro link r hl
    cases hr : Tree.empty.node? r with
    | none => rfl
    | some n =>
      rw [(hnode r n hr).2]
      exact hl
  have hparent : ∀ r, Tree.empty.parent r = none := fun r => hlink _ r rfl
  have hchildren : ∀ p, ∃ l, Tree.empty.ChildList p l := fun p =>
    ⟨[], hlink _ _ rfl, hlink _ _ rfl, List.nodup_nil, fun c => by simp [hparent]⟩
  have horphan : ∀ c, Tree.empty.parent (some c) = none →
      Tree.empty.prevSibling (some c) = none ∧ Tree.empty.nextSibling (some c) = none :=
    fun c _ => ⟨hlink _ _ rfl, hlink _ _ rfl⟩
  refine ⟨fun id => ⟨fun h => ?_, ?_⟩, isSome_of_mem_links hchildren horphan, hchildren, horphan,
    fun p _ _ _ => ⟨hlink _ _ rfl, hlink _ _ rfl⟩, fun c _ _ _ => hparent _, fun r => ?_⟩
  · obtain ⟨n, hn, -⟩ := Option.map_eq_some_iff.mp h
    exact Option.some.inj (hnode _ n hn).1
  · rintro rfl
    rfl
  · cases r with
    | none => exact ⟨[], rfl⟩
    | some id => exact ⟨[id], rfl, hparent _⟩

/-- **The tree of a document that was read from markup is well formed**, whatever the parser made of
the markup. -/
theorem wellFormed_ofMarkupWith (parser : Markup.Parser) (options : MarkupOptions)
    (markup : String) : (Tree.ofMarkupWith parser options markup).WellFormed := by
  have h := keeps_loadAll WellFormed.addBelow options.keepBlankText (some documentNode)
    (parser.document options.scripting markup) _ wellFormed_empty
  unfold Tree.ofMarkupWith
  unfold stateAfter at h
  split <;> simp_all

/-- **The tree of an empty page is well formed.** -/
theorem wellFormed_skeletonTree : Document.skeletonTree.WellFormed := by
  have hok : Document.skeletonTree? = .ok Document.skeletonTree := rfl
  have helement : ∀ tag, (NodeData.element (.ofTag tag)).kind ≠ .document := fun _ => by
    simp [NodeData.kind]
  -- three elements are made first, and then put below one another
  have hfresh := ((wellFormed_empty.add (helement "html")).add (helement "head")).add
    (helement "body")
  unfold Document.skeletonTree? at hok
  obtain ⟨t₁, h₁, hok⟩ := bind_eq_ok.mp hok
  obtain ⟨t₂, h₂, hok⟩ := bind_eq_ok.mp hok
  exact ((hfresh.appendChild h₁).appendChild h₂).appendChild hok

end Tree

end WebPage
