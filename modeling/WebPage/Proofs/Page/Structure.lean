import WebPage.Proofs.Tree.Loading

/-!
# Histories of structural calls

A page is built up and taken apart by calls on its tree and by verbs. The references in a call may
name a node, a node that does not exist, or none, and a call may fail; some calls fail halfway. A
call that reads markup brings its parser. Whatever the calls are, the tree stays well formed.

## Main definitions

* `StructuralCall`: a call that creates, moves or removes nodes
* `StructuralCall.verb`: what it does to a page
* `Page.afterCalls`: the page after a history of calls
* `Tree.KeptByOperations`: a property that the operations on the tree keep

## Main results

* `StructuralCall.keeps`: one call keeps what the operations on the tree keep
* `StructuralCall.keeps_wellFormed`: one call keeps the tree well formed
* `wellFormed_afterCalls`: so does every history, from the page with nothing in it
-/

namespace WebPage

/-- A call that creates, moves or removes nodes. -/
inductive StructuralCall where
  | createElement (tag : String)
  | createText (text : String)
  | createComment (text : String)
  | createFragment
  | appendChild (parent child : NodeRef)
  | insertBefore (parent child before : NodeRef)
  | detach (node : NodeRef)
  | removeChildren (node : NodeRef)
  | setTextContent (node : NodeRef) (text : String)
  | loadFragment (parser : Markup.Parser) (options : MarkupOptions) (context : NodeRef)
    (markup : String)
  /-- The verbs of a page: from here on nodes are found through a target. -/
  | append (target : Target) (node : NodeRef)
  | createFilled (parser : Markup.Parser) (tag : String) (markup : Option String)
  | removeAllChildren (target : Target)
  | removeElements (target : Target)
  | setText (target : Target) (text : String)
  | setHtml (parser : Markup.Parser) (target : Target) (markup : String)

/-- A verb without its value. -/
def Verb.void {α : Type} (v : Verb α) : Verb Unit := do
  let _ ← v

/-- What a call does to a page. -/
def StructuralCall.verb : StructuralCall → Verb Unit
  | createElement tag => Verb.editTree fun t => .ok (t.createElement tag).2
  | createText text => Verb.editTree fun t => .ok (t.createText text).2
  | createComment text => Verb.editTree fun t => .ok (t.createComment text).2
  | createFragment => Verb.editTree fun t => .ok t.createFragment.2
  | appendChild parent child => Verb.editTree fun t => t.appendChild parent child
  | insertBefore parent child before => Verb.editTree fun t => t.insertBefore parent child before
  | detach node => Verb.editTree fun t => return (← t.detach node).2
  | removeChildren node => Verb.editTree fun t => return (← t.removeChildren node).2
  | setTextContent node text => Verb.editTree fun t => t.setTextContent node text
  | loadFragment parser options context markup =>
    (Verb.runEdit (Tree.loadFragmentWith parser options context markup)).void
  | append target node => Page.append target node
  | createFilled parser tag markup => (Page.createElementWith parser tag markup).void
  | removeAllChildren target => Page.removeChildren target
  | removeElements target => (Page.removeElements target).void
  | setText target text => Page.setText target text
  | setHtml parser target markup => Page.setHtmlWith parser target markup

/-- The page after a history of calls, whether they succeeded or failed. -/
def Page.afterCalls (p : Page) (calls : List StructuralCall) : Page :=
  calls.foldl (fun p call => stateAfter call.verb p) p

/-- The tree of the page is well formed. -/
def Page.HasWellFormedTree (p : Page) : Prop :=
  p.document.tree.WellFormed

section Verbs

theorem Keeps.void {α : Type} {I : Page → Prop} {v : Verb α} (hv : Keeps I v) :
    Keeps I v.void :=
  hv.bind fun _ => Keeps.pure _

variable {J : Tree → Prop} {t t' : Tree} {q : Page}

/-! ## The operations on a tree -/

/-- A property of trees that every operation on nodes and their places keeps. -/
structure Tree.KeptByOperations (J : Tree → Prop) : Prop where
  add : ∀ {t data}, data.Fresh → J t → J (t.add data).2
  insertBefore : ∀ {t t' parent child before},
    t.insertBefore parent child before = .ok t' → J t → J t'
  detach : ∀ {t t' node attached}, t.detach node = .ok (attached, t') → J t → J t'
  removeChildren : ∀ {t t' node count}, t.removeChildren node = .ok (count, t') → J t → J t'
  setTextContent : ∀ {t t' node text}, t.setTextContent node text = .ok t' → J t → J t'

theorem Tree.keptByOperations_wellFormed : KeptByOperations WellFormed where
  add hd h := h.add hd.kind_ne_document
  insertBefore ht h := h.insertBefore ht
  detach ht h := h.detach ht
  removeChildren ht h := h.removeChildren ht
  setTextContent ht h := h.setTextContent ht

namespace Tree.KeptByOperations

/-- A node that its parent cannot have is there nevertheless. -/
theorem addBelow (hJ : KeptByOperations J) (parent : NodeRef) (data : NodeData)
    (hd : data.Fresh) : Keeps J (Tree.addBelow parent data) := by
  intro t h
  rw [stateAfter_addBelow]
  cases ht : (t.add data).2.appendChild parent (some t.size) with
  | ok t' => exact hJ.insertBefore ht (hJ.add hd h)
  | error e => exact hJ.add hd h

theorem loadFragmentWith (hJ : KeptByOperations J) (parser : Markup.Parser)
    (options : MarkupOptions) (r : NodeRef) (markup : String) :
    Keeps J (Tree.loadFragmentWith parser options r markup) :=
  keeps_loadFragmentWith hJ.addBelow parser options r markup

/-- Moving nodes into a fragment is a row of insertions. -/
theorem gather (hJ : KeptByOperations J) {fragment : NodeId} {ids : List NodeId}
    (hg : Page.gather fragment ids t = .ok t') (h : J t) : J t' := by
  unfold Page.gather at hg
  induction ids generalizing t with
  | nil =>
    cases hg
    exact h
  | cons id ids ih =>
    rw [List.foldlM_cons] at hg
    obtain ⟨t₁, h₁, hg⟩ := bind_eq_ok.mp hg
    refine ih hg ?_
    -- a node that is gathered already stays where it is
    split at h₁
    · cases h₁
      exact h
    · exact hJ.insertBefore h₁ h

end Tree.KeptByOperations

/-! ## The parts of the verbs -/

theorem keeps_fresh (hJ : Tree.KeptByOperations J) {data : NodeData} (hd : data.Fresh) :
    Keeps (q.HasTree J) (Verb.editTree fun t => .ok (t.add data).2) := by
  refine keeps_hasTree_editTree fun t t' ht h => ?_
  cases ht
  exact hJ.add hd h

theorem keeps_removeChildren (hJ : Tree.KeptByOperations J) (node : NodeRef) :
    Keeps (q.HasTree J)
      (Verb.editTree fun t => return (← t.removeChildren node).2) := by
  refine keeps_hasTree_editTree fun t t' ht h => ?_
  obtain ⟨count, ht⟩ := return_snd_eq_ok.mp ht
  exact hJ.removeChildren ht h

theorem keeps_removeElements (hJ : Tree.KeptByOperations J) (target : Target) :
    Keeps (q.HasTree J) (Page.removeElements target) := by
  refine Keeps.get_bind fun p => (Keeps.ofResult _).bind fun ids => ?_
  dsimp only
  split
  · exact Keeps.pure _
  · refine Keeps.get_bind fun p => (Keeps.ofResult _).bind fun _ => ?_
    refine Keeps.bind ?_ fun fragment => ?_
    · rintro _ ⟨t, ht, rfl⟩
      rw [stateAfter_act]
      exact ⟨_, hJ.add .fragment ht, rfl⟩
    · exact (keeps_hasTree_editTree fun t t' hg h => hJ.gather hg h).bind fun _ => Keeps.pure _

theorem keeps_createElementWith (hJ : Tree.KeptByOperations J) (parser : Markup.Parser)
    (tag : String) (markup : Option String) :
    Keeps (q.HasTree J) (Page.createElementWith parser tag markup) := by
  refine (Keeps.ofResult _).bind fun _ => Keeps.get_bind fun p => ?_
  refine Keeps.bind ?_ fun id => ?_
  · rintro _ ⟨t, ht, rfl⟩
    rw [stateAfter_act]
    exact ⟨_, hJ.add (.element tag []) ht, rfl⟩
  · cases markup with
    | none => exact Keeps.pure _
    | some markup =>
      exact (keeps_hasTree_runEdit (hJ.loadFragmentWith parser _ _ markup)).bind fun _ =>
        Keeps.pure _

theorem keeps_setHtmlWith (hJ : Tree.KeptByOperations J) (parser : Markup.Parser)
    (target : Target) (markup : String) :
    Keeps (q.HasTree J) (Page.setHtmlWith parser target markup) := by
  refine Keeps.get_bind fun p => keeps_forAll fun id => ?_
  refine (keeps_hasTree_editTree fun t t' ht h => ?_).bind fun _ =>
    (keeps_hasTree_runEdit (hJ.loadFragmentWith parser _ _ markup)).bind fun _ => Keeps.pure _
  obtain ⟨e, -, ht⟩ := bind_eq_ok.mp ht
  obtain ⟨count, ht⟩ := return_snd_eq_ok.mp ht
  exact hJ.removeChildren ht h

/-! ## Calls and histories -/

/-- **One structural call keeps what the operations on the tree keep**, whether it succeeds or
fails, and changes nothing but the tree. -/
theorem StructuralCall.keeps (hJ : Tree.KeptByOperations J) (call : StructuralCall) :
    Keeps (q.HasTree J) call.verb := by
  unfold verb
  cases call with
  | createElement tag => exact keeps_fresh hJ (.element tag [])
  | createText text => exact keeps_fresh hJ (.text text)
  | createComment text => exact keeps_fresh hJ (.comment text)
  | createFragment => exact keeps_fresh hJ .fragment
  | appendChild parent child => exact keeps_hasTree_editTree fun t t' ht h => hJ.insertBefore ht h
  | insertBefore parent child before =>
    exact keeps_hasTree_editTree fun t t' ht h => hJ.insertBefore ht h
  | detach node =>
    refine keeps_hasTree_editTree fun t t' ht h => ?_
    obtain ⟨attached, ht⟩ := return_snd_eq_ok.mp ht
    exact hJ.detach ht h
  | removeChildren node => exact keeps_removeChildren hJ node
  | setTextContent node text => exact keeps_hasTree_editTree fun t t' ht h => hJ.setTextContent ht h
  | loadFragment parser options context markup =>
    exact (keeps_hasTree_runEdit (hJ.loadFragmentWith parser options context markup)).void
  | append target node =>
    exact Keeps.get_bind fun p => (Keeps.ofResult _).bind fun parent =>
      keeps_hasTree_editTree fun t t' ht h => hJ.insertBefore ht h
  | createFilled parser tag markup => exact (keeps_createElementWith hJ parser tag markup).void
  | removeAllChildren target => exact keeps_forAll fun id => keeps_removeChildren hJ (some id)
  | removeElements target => exact (keeps_removeElements hJ target).void
  | setText target text =>
    exact keeps_forAll fun id => keeps_hasTree_editTree fun t t' ht h => hJ.setTextContent ht h
  | setHtml parser target markup => exact keeps_setHtmlWith hJ parser target markup

/-- One structural call keeps the tree well formed. -/
theorem StructuralCall.keeps_wellFormed (call : StructuralCall) :
    Keeps Page.HasWellFormedTree call.verb :=
  .of_hasTree fun _ => call.keeps Tree.keptByOperations_wellFormed

/-- A history of calls keeps what each of its calls keeps. -/
theorem Page.afterCalls_keeps {I : Page → Prop} (hI : ∀ call : StructuralCall, Keeps I call.verb)
    {p : Page} (hp : I p) (calls : List StructuralCall) : I (p.afterCalls calls) := by
  induction calls generalizing p with
  | nil => exact hp
  | cons call calls ih => exact ih (hI call p hp)

end Verbs

/-- **Every history of structural calls leaves a well-formed tree**: from the page with nothing in
it, with whatever references, whatever the parsers make of markup, and whether the single calls
succeed or fail. -/
theorem wellFormed_afterCalls (url : String) (config : Config) (calls : List StructuralCall) :
    (Page.afterCalls { document := .blank url, config } calls).document.tree.WellFormed := by
  have hblank : Page.HasWellFormedTree { document := .blank url, config } := Tree.wellFormed_empty
  exact Page.afterCalls_keeps StructuralCall.keeps_wellFormed hblank calls

end WebPage
