import WebPage.Proofs.Markup.Decodable
import WebPage.Proofs.Tree.Contents
import WebPage.Proofs.Tree.Loading

/-!
# Serialization loses nothing

The markup of a subtree is one text. If the subtree is plain, it can be read back in one way only, so
two plain subtrees with the same markup are equal as labelled ordered trees, wherever their nodes
are kept. What makes a subtree plain is what a tag, a name, a comment and a text need to be told
from what stands beside them.

## Main definitions

* `Tree.Plain`: the subtrees that are read back in one way only

## Main results

* `Plain.plain_content`: what is read off a plain subtree is a plain labelled tree
* `outerHtml_eq_iff_sameSubtree`: plain subtrees have the same markup just if they are the same
-/

namespace WebPage.Tree

open Markup (Content IsPlainTag RowPlain isRawText isVoid)

/-- A subtree of plain nodes, with an element at its top. -/
structure Plain (t : Tree) (id : NodeId) : Prop where
  isElement : t.isElement (some id) = true
  /-- Tags are over small letters, digits and hyphens and start with a letter, and texts are
  escaped. -/
  tag : ∀ n tag attributes, t.contains (some id) (some n) = true →
    t.label? (some n) = some (.element tag attributes) → IsPlainTag tag ∧ isRawText tag = false
  /-- Elements that are written without end tag have no children. -/
  void : ∀ n tag attributes, t.contains (some id) (some n) = true →
    t.label? (some n) = some (.element tag attributes) → isVoid tag = true →
      t.childIds (some n) = []
  names : ∀ n tag attributes, t.contains (some id) (some n) = true →
    t.label? (some n) = some (.element tag attributes) →
      ∀ entry ∈ attributes, Name.validate entry.1 = .ok ()
  text : ∀ n, t.contains (some id) (some n) = true → t.label? (some n) ≠ some (.text "")
  /-- No two texts stand side by side. -/
  apart : ∀ n m s s', t.contains (some id) (some n) = true →
    t.nextSibling (some n) = some m → t.label? (some n) = some (.text s) →
      t.label? (some m) ≠ some (.text s')
  /-- No comment holds the end of a comment. -/
  comment : ∀ n s, t.contains (some id) (some n) = true →
    t.label? (some n) = some (.comment s) → ¬ "-->".toList <:+: s.toList

variable {t t' : Tree} {a b c id n : NodeId} {label : NodeLabel} {content : Content}

theorem isValid_of_validate {name : String} (h : Name.validate name = .ok ()) :
    Name.isValid name = true := by
  unfold Name.validate at h
  split at h
  next hv => exact hv
  next => cases h

/-- A node whose labelled tree is a text is a text. -/
theorem exists_label_of_isText (h : t.WellFormed) (hl : t.label? (some c) = some label)
    (hc : t.contents c = [content]) (hw : label.isWritten = true) (ht : content.isText = true) :
    ∃ s, label = .text s := by
  rw [h.contents_eq hl] at hc
  cases label with
  | text s => exact ⟨s, rfl⟩
  | comment s =>
    obtain rfl := (List.cons.inj hc).1
    cases ht
  | element tag attributes =>
    obtain rfl := (List.cons.inj hc).1
    cases ht
  | document => cases hw
  | fragment => cases hw

/-- The children of a node give a row without two texts side by side, if no two of them are texts
side by side. -/
theorem Plain.row (h : t.WellFormed) (hp : t.Plain id) {n : NodeId}
    (hn : t.contains (some id) (some n) = true)
    (hall : ∀ c ∈ t.childIds (some n), ∀ content, t.contents c = [content] → content.Plain) :
    ∀ xs l, t.childIds (some n) = xs ++ l → RowPlain (l.flatMap t.contents) := by
  intro xs l hl
  induction l generalizing xs with
  | nil => trivial
  | cons c l ih =>
    have hc : c ∈ t.childIds (some n) := by simp [hl]
    obtain ⟨content, hcontent⟩ := h.exists_contents_of_child hc
    rw [List.flatMap_cons, hcontent]
    refine ⟨hall c hc content hcontent, fun htext next hnext => ?_, ih (xs ++ [c]) (by simp [hl])⟩
    cases l with
    | nil => cases hnext
    | cons d l =>
      have hd : d ∈ t.childIds (some n) := by simp [hl]
      obtain ⟨content', hcontent'⟩ := h.exists_contents_of_child hd
      rw [List.flatMap_cons, hcontent'] at hnext
      obtain rfl : content' = next := Option.some.inj hnext
      -- `d` follows `c`, which is a text
      have hchildren := h.childList n
      rw [hl] at hchildren
      have hsibling : t.nextSibling (some c) = some d := hchildren.nextSibling_eq
      obtain ⟨label, hlc, hwc⟩ := h.exists_label_of_parent (h.mem_childIds_iff.mp hc)
      obtain ⟨label', hld, hwd⟩ := h.exists_label_of_parent (h.mem_childIds_iff.mp hd)
      obtain ⟨s, rfl⟩ := exists_label_of_isText h hlc hcontent hwc htext
      rw [Bool.eq_false_iff]
      intro htext'
      obtain ⟨s', rfl⟩ := exists_label_of_isText h hld hcontent' hwd htext'
      exact hp.apart c d s s' (h.contains_child_of_contains hn hc) hsibling hlc hld

/-- In a subtree with an element at its top every node is written itself. -/
theorem exists_label_of_contains (h : t.WellFormed) (ha : t.isElement (some a) = true)
    (hn : t.contains (some a) (some n) = true) :
    ∃ label, t.label? (some n) = some label ∧ label.isWritten = true := by
  rcases contains_iff_eq_or_mem.mp hn with rfl | hmem
  · obtain ⟨tag, attributes, hl⟩ := exists_label_of_isElement ha
    exact ⟨_, hl, rfl⟩
  · cases hp : t.parent (some n) with
    | some p => exact h.exists_label_of_parent hp
    | none =>
      rw [h.ancestors_eq_nil hp] at hmem
      cases hmem

/-- **What is read off a plain subtree is a plain labelled tree.** -/
theorem Plain.plain_content (h : t.WellFormed) (hp : t.Plain id) (n : NodeId) :
    t.contains (some id) (some n) = true → ∀ content, t.contents n = [content] →
      content.Plain := by
  induction n using h.child_induction with
  | step n ih =>
    intro hn content hc
    obtain ⟨label, hl, hw⟩ := exists_label_of_contains h hp.isElement hn
    rw [h.contents_eq hl] at hc
    cases label with
    | document => cases hw
    | fragment => cases hw
    | text s =>
      obtain rfl := (List.cons.inj hc).1
      rintro rfl
      exact hp.text n hn hl
    | comment s =>
      obtain rfl := (List.cons.inj hc).1
      exact hp.comment n s hn hl
    | element tag attributes =>
      obtain rfl := (List.cons.inj hc).1
      obtain ⟨htag, hraw⟩ := hp.tag n tag attributes hn hl
      refine ⟨⟨htag, hraw, fun hvoid => ?_⟩, fun entry he => ?_, ?_⟩
      · rw [hp.void n tag attributes hn hl hvoid]
        rfl
      · exact isValid_of_validate (hp.names n tag attributes hn hl entry he)
      · refine hp.row h hn (fun c hc => ?_) [] (t.childIds (some n)) rfl
        exact ih c hc (h.contains_child_of_contains hn hc)

theorem outerHtml_eq (hl : t.label? (some a) = some label) :
    t.outerHtml (some a) = .ok (Content.renderAll false (t.contents a)) := by
  obtain ⟨n, hn, -⟩ := Option.map_eq_some_iff.mp hl
  have hnode : t.node (some a) = .ok n := by rw [node, hn]
  rw [outerHtml, hnode]
  rfl

/-- **Plain subtrees have the same markup just if they are the same** as labelled ordered trees: the
same tags, attributes, texts and comments, nested and ordered in the same way. -/
theorem outerHtml_eq_iff_sameSubtree (h : t.WellFormed) (h' : t'.WellFormed) (ha : t.Plain a)
    (hb : t'.Plain b) : t.outerHtml (some a) = t'.outerHtml (some b) ↔ SameSubtree t t' a b := by
  obtain ⟨tag, attributes, hla⟩ := exists_label_of_isElement ha.isElement
  obtain ⟨tag', attributes', hlb⟩ := exists_label_of_isElement hb.isElement
  rw [outerHtml_eq hla, outerHtml_eq hlb]
  constructor
  · intro he
    obtain ⟨x, hx⟩ : ∃ x, t.contents a = [x] := ⟨_, h.contents_eq hla⟩
    obtain ⟨y, hy⟩ : ∃ y, t'.contents b = [y] := ⟨_, h'.contents_eq hlb⟩
    have hrow : RowPlain [x] :=
      ⟨ha.plain_content h a (contains_self t a) x hx, by simp, trivial⟩
    have hrow' : RowPlain [y] :=
      ⟨hb.plain_content h' b (contains_self t' b) y hy, by simp, trivial⟩
    have hmarkup := congrArg String.toList (Except.ok.inj he)
    rw [hx, hy] at hmarkup
    -- both are rows of one labelled tree, with nothing after them
    have hxy : [x] = [y] := (Content.renderAll_inj [x] hrow hrow' (.inl rfl) (.inl rfl)
      (congrArg (· ++ []) hmarkup)).1
    exact sameSubtree_of_contents_eq h h' a hla hlb rfl rfl (by rw [hx, hy, hxy])
  · intro hs
    rw [hs.contents_eq h h']

/-- An element with one text in it is plain, if its tag, its names and the text are. -/
theorem plain_of_text_child (h : t.WellFormed) {tag : String}
    {attributes : List (String × String)} {s : String}
    (ha : t.label? (some a) = some (.element tag attributes))
    (hc : t.label? (some c) = some (.text s)) (hbelow : t.descendants (some a) = [c])
    (hlast : t.nextSibling (some c) = none) (htag : IsPlainTag tag) (hraw : isRawText tag = false)
    (hvoid : isVoid tag = false) (hnames : ∀ entry ∈ attributes, Name.validate entry.1 = .ok ())
    (hs : s ≠ "") : t.Plain a := by
  have hmem : ∀ n, t.contains (some a) (some n) = true → n = a ∨ n = c := by
    intro n hn
    rw [h.contains_iff_mem_descendants, hbelow] at hn
    simpa using hn
  have helement : ∀ n tag' attributes', t.contains (some a) (some n) = true →
      t.label? (some n) = some (.element tag' attributes') →
        n = a ∧ tag' = tag ∧ attributes' = attributes := by
    intro n tag' attributes' hn hl
    rcases hmem n hn with rfl | rfl
    · rw [ha] at hl
      cases hl
      exact ⟨rfl, rfl, rfl⟩
    · rw [hc] at hl
      cases hl
  refine ⟨?_, fun n tag' attributes' hn hl => ?_, fun n tag' attributes' hn hl hv => ?_,
    fun n tag' attributes' hn hl => ?_, fun n hn hl => ?_, fun n m s s' hn hnext hl => ?_,
    fun n s hn hl => ?_⟩
  · obtain ⟨node, hnode, hlabel⟩ := Option.map_eq_some_iff.mp ha
    refine isElement_iff.mpr (Option.map_eq_some_iff.mpr ⟨node, hnode, ?_⟩)
    revert hlabel
    cases node.data <;> simp [NodeData.label, NodeData.kind]
  · obtain ⟨-, rfl, -⟩ := helement n _ _ hn hl
    exact ⟨htag, hraw⟩
  · obtain ⟨-, rfl, -⟩ := helement n _ _ hn hl
    rw [hvoid] at hv
    cases hv
  · obtain ⟨-, -, rfl⟩ := helement n _ _ hn hl
    exact hnames
  · rcases hmem n hn with rfl | rfl
    · rw [ha] at hl
      cases hl
    · rw [hc] at hl
      cases hl
      exact hs rfl
  · rcases hmem n hn with rfl | rfl
    · rw [ha] at hl
      cases hl
    · rw [hlast] at hnext
      cases hnext
  · rcases hmem n hn with rfl | rfl
    · rw [ha] at hl
      cases hl
    · rw [hc] at hl
      cases hl

/-- The tree of a document with this content. -/
def ofContents (contents : List Content) : Tree :=
  stateAfter (loadAll true (some documentNode) contents) .empty

theorem wellFormed_ofContents (contents : List Content) : (ofContents contents).WellFormed :=
  keeps_loadAll WellFormed.addBelow true (some documentNode) contents _ wellFormed_empty

/-- A paragraph whose title and text have characters to escape. -/
def paragraph : Content :=
  .element "p" [("title", "\"")] [.text "1 < 2"]

/-- The paragraph in two documents, in which it is kept at different places. -/
theorem outerHtml_eq_iff_sameSubtree_paragraph :
    let t := ofContents [paragraph]
    let t' := ofContents [.element "hr" [] [], paragraph]
    (t.WellFormed ∧ t'.WellFormed ∧ t.Plain 1 ∧ t'.Plain 2) ∧
      t.outerHtml (some 1) = .ok "<p title=\"&quot;\">1 &lt; 2</p>" ∧ SameSubtree t t' 1 2 := by
  intro t t'
  have h : t.WellFormed := wellFormed_ofContents _
  have h' : t'.WellFormed := wellFormed_ofContents _
  have htag : IsPlainTag "p" := ⟨⟨'p', [], rfl, rfl⟩, List.all_eq_true.mp rfl⟩
  have hname : ∀ entry ∈ [("title", "\"")], Name.validate entry.1 = .ok () := by
    rintro entry (_ | ⟨_, ⟨⟩⟩)
    rfl
  have hlabel : t.label? (some 1) = some (.element "p" [("title", "\"")]) := by decide +kernel
  have hlabel' : t'.label? (some 2) = some (.element "p" [("title", "\"")]) := by decide +kernel
  have htext : t.label? (some 2) = some (.text "1 < 2") := by decide +kernel
  have htext' : t'.label? (some 3) = some (.text "1 < 2") := by decide +kernel
  have ha : t.Plain 1 := plain_of_text_child h hlabel htext (by decide +kernel)
    (by decide +kernel) htag rfl rfl hname (by decide)
  have hb : t'.Plain 2 := plain_of_text_child h' hlabel' htext' (by decide +kernel)
    (by decide +kernel) htag rfl rfl hname (by decide)
  have hmarkup : t.outerHtml (some 1) = .ok "<p title=\"&quot;\">1 &lt; 2</p>" := by
    rw [outerHtml_eq hlabel]
    exact congrArg Except.ok (by decide +kernel)
  have hmarkup' : t'.outerHtml (some 2) = .ok "<p title=\"&quot;\">1 &lt; 2</p>" := by
    rw [outerHtml_eq hlabel']
    exact congrArg Except.ok (by decide +kernel)
  exact ⟨⟨h, h', ha, hb⟩, hmarkup,
    (outerHtml_eq_iff_sameSubtree h h' ha hb).mp (hmarkup.trans hmarkup'.symm)⟩

end WebPage.Tree
