import WebPage.Proofs.Selector.Candidates
import WebPage.Proofs.Selector.Reads
import WebPage.Proofs.Tree.Loading
import WebPage.Proofs.Tree.Order
import WebPage.Verb.Interaction

/-!
# Resolution

A verb finds the nodes of its target in one of several ways: the first, the last, the one at an
index, or all. There are two ways into a document, since the first match of a selector is searched
for and all matches are filtered out. Both find the same nodes: the elements in the document that
the selector describes, in document order.

## Main definitions

* `Page.Rejects`: every way to resolve a text fails, because it is no selector
* `Page.Resolves`: the nodes of a target, as every way to resolve it sees them

## Main results

* `mem_querySelectorAll_iff`: what a selector finds
* `Page.resolution_spec`: the ways to resolve a target agree, in every well-formed page
-/

namespace WebPage

/-! ## What a selector finds -/

namespace Selector

variable {t : Tree} {id : NodeId}

/-- A selector describes elements only: the last compound of a chain already does. -/
theorem isElement_of_matches {list : SelectorList} (h : list.matches t id = true) :
    t.isElement (some id) = true := by
  obtain ⟨chains⟩ := list
  change anyMatches t id chains = true at h
  induction chains with
  | nil =>
    rw [anyMatches] at h
    cases h
  | cons chain chains ih =>
    rw [anyMatches, Bool.or_eq_true] at h
    rcases h with h | h
    · cases chain with
      | single compound =>
        rw [Complex.matches] at h
        exact isElement_of_compound_matches h
      | join left k right =>
        rw [Complex.matches, Bool.and_eq_true] at h
        exact isElement_of_compound_matches h.1
    · exact ih h

end Selector

variable {d : Document} {s : String} {list : Selector.SelectorList} {n : NodeId}

theorem Document.matches_eq_ok_true_iff (hs : Selector.SelectorList.parse s = .ok list) :
    d.matches (some n) s = .ok true ↔ list.matches d.tree n = true := by
  have hdef : d.matches (some n) s =
      (d.tree.element (some n) >>= fun _ => .ok (list.matches d.tree n)) := by
    rw [Document.matches, hs]
    rfl
  rw [hdef, bind_eq_ok]
  constructor
  · rintro ⟨e, -, h⟩
    exact Except.ok.inj h
  · intro h
    obtain ⟨e, he⟩ := Option.isSome_iff_exists.mp (Selector.isElement_of_matches h)
    exact ⟨e, Tree.element_eq_ok.mpr he, by rw [h]⟩

/-- **What a selector finds**: the elements that hang from the document node and that it describes,
each of them once and in document order. -/
theorem Document.querySelectorAll_eq_ok (h : d.tree.WellFormed)
    (hs : Selector.SelectorList.parse s = .ok list) :
    ∃ ns, d.querySelectorAll s = .ok ns ∧ d.querySelector s = .ok ns.head? ∧
      (∀ n, n ∈ ns ↔ d.tree.isElement (some n) = true ∧ d.tree.HangsFromDocument n ∧
        d.matches (some n) s = .ok true) ∧
      ns.Nodup ∧ ns.Pairwise d.tree.Precedes := by
  refine ⟨d.nodes.filter (list.matches d.tree), ?_, ?_, fun n => ?_, ?_, ?_⟩
  · rw [Document.querySelectorAll, hs]
    rfl
  · rw [Document.querySelector, hs, List.head?_filter]
    rfl
  · rw [Document.matches_eq_ok_true_iff hs, List.mem_filter]
    refine ⟨fun ⟨hn, hm⟩ => ?_, fun ⟨he, hd, hm⟩ => ⟨?_, hm⟩⟩
    · exact ⟨Selector.isElement_of_matches hm, (h.mem_descendants_documentNode_iff.mp hn).2, hm⟩
    · refine h.mem_descendants_documentNode_iff.mpr ⟨?_, hd⟩
      -- the document node is no element
      rintro rfl
      have hk := (h.document_iff documentNode).mpr rfl
      rw [Tree.isElement_iff.mp he] at hk
      cases hk
  · exact (h.nodup_descendants documentNode).filter _
  · exact h.pairwise_precedes.filter _

/-! ## The ways to resolve a target -/

namespace Page

/-- Every way to resolve a text fails, because it is no selector. -/
structure Rejects (p : Page) (s : String) : Prop where
  querySelector : p.document.querySelector s = .error (.invalidSelector s)
  querySelectorAll : p.document.querySelectorAll s = .error (.invalidSelector s)
  resolve : p.resolve (.selector s) = .error (.invalidSelector s)
  all : p.resolveAll (.selector s) = .error (.invalidSelector s)
  last : p.resolveLast (.selector s) = .error (.invalidSelector s)
  nth : ∀ i, p.resolveNth (.selector s) i = .error (.invalidSelector s)
  required : p.resolveRequired (.selector s) = .error (.dom (.invalidSelector s))

/-- The nodes of a target, as every way to resolve it sees them. -/
structure Resolves (p : Page) (target : Target) (ns : List NodeId) : Prop where
  all : p.resolveAll target = .ok ns
  first : p.resolve target = .ok ns.head?
  last : p.resolveLast target = .ok ns.getLast?
  nth : ∀ i, p.resolveNth target i = .ok ns[i]?
  required : ∀ n, p.resolveRequired target = .ok n ↔ ns.head? = some n
  missing : p.resolveRequired target = .error (.resolution target) ↔ ns = []
  isElement : ∀ n, p.isElement target (some n) = .ok true ↔ ns.head? = some n

variable {p : Page} {target : Target} {ns : List NodeId}

/-- The other ways to resolve a target follow the list of its nodes and the first of them. -/
theorem resolves_of (hall : p.resolveAll target = .ok ns)
    (hfirst : p.resolve target = .ok ns.head?) : p.Resolves target ns := by
  have hrequired : p.resolveRequired target =
      ns.head?.elim (.error (.resolution target)) .ok := by
    rw [resolveRequired, hfirst]
    cases ns <;> rfl
  refine ⟨hall, hfirst, ?_, fun i => ?_, fun n => ?_, ?_, fun n => ?_⟩
  · rw [resolveLast, hall]
    rfl
  · rw [resolveNth, hall]
    rfl
  · rw [hrequired]
    cases ns <;> simp
  · rw [hrequired]
    cases ns <;> simp
  · have hdef : p.isElement target (some n) = .ok (ns.head? == some n) := by
      rw [isElement, hfirst]
      rfl
    rw [hdef]
    simp

theorem rejects_of {e : DomError} (hs : Selector.SelectorList.parse s = .error e) :
    p.Rejects s := by
  rw [Selector.eq_invalidSelector_of_parse hs] at hs
  have hall : p.document.querySelectorAll s = .error (.invalidSelector s) := by
    rw [Document.querySelectorAll, hs]
    rfl
  have hfirst : p.document.querySelector s = .error (.invalidSelector s) := by
    rw [Document.querySelector, hs]
    rfl
  refine ⟨hfirst, hall, hfirst, hall, ?_, fun i => ?_, ?_⟩
  · rw [resolveLast, resolveAll, hall]
    rfl
  · rw [resolveNth, resolveAll, hall]
    rfl
  · rw [resolveRequired, Page.resolve, hfirst]
    rfl

/-- **The ways to resolve a target agree.** A text that is no selector fails in all of them. What a
selector finds are the elements that hang from the document node and that it describes, each of
them once and in document order; what nodes are given for are the nodes that were given. The first
of them, the last, the one at an index and the required one are read off this list. -/
theorem resolution_spec (h : p.document.tree.WellFormed) :
    (∀ s, match Selector.SelectorList.parse s with
      | .error _ => p.Rejects s
      | .ok _ => ∃ ns, p.document.querySelectorAll s = .ok ns ∧
        (∀ n, n ∈ ns ↔ p.document.tree.isElement (some n) = true ∧
          p.document.tree.HangsFromDocument n ∧ p.document.matches (some n) s = .ok true) ∧
        ns.Nodup ∧ ns.Pairwise p.document.tree.Precedes ∧ p.Resolves (.selector s) ns) ∧
    (∀ r, p.Resolves (.node r) r.toList) ∧
    ∀ rs, ∃ ns, ns.map some = rs.filter Option.isSome ∧ p.Resolves (.nodes rs) ns := by
  refine ⟨fun s => ?_, fun r => ?_, fun rs => ?_⟩
  · cases hs : Selector.SelectorList.parse s with
    | error e => exact rejects_of hs
    | ok list =>
      obtain ⟨ns, hall, hfirst, hmem, hnodup, horder⟩ := Document.querySelectorAll_eq_ok h hs
      exact ⟨ns, hall, hmem, hnodup, horder, resolves_of hall hfirst⟩
  · refine resolves_of rfl ?_
    cases r <;> rfl
  · refine ⟨rs.filterMap id, ?_, resolves_of rfl ?_⟩
    · induction rs with
      | nil => rfl
      | cons r rs ih =>
        cases r with
        | none => exact ih
        | some n => exact congrArg (some n :: ·) ih
    · rw [List.head?_filterMap]
      rfl

/-- In an empty page, the star finds `body`, and nodes are taken in the order in which they were
given. -/
theorem resolution_spec_skeleton :
    let p : Page := { document := .skeleton "about:blank" }
    p.document.tree.WellFormed ∧
      (∃ ns, p.Resolves (.selector "*") ns ∧ 3 ∈ ns ∧ ns.Pairwise p.document.tree.Precedes) ∧
      ∃ ns, p.Resolves (.nodes [none, some 3, some 1, none, some 3]) ns ∧ ns = [3, 1, 3] := by
  intro p
  have h : p.document.tree.WellFormed := Tree.wellFormed_skeletonTree
  obtain ⟨hselector, -, hnodes⟩ := resolution_spec h
  refine ⟨h, ?_, ?_⟩
  · have hstar : Selector.SelectorList.parse "*" = .ok ⟨[.single (.mk (some "*") [])]⟩ := by
      cbv
    have hfound := hselector "*"
    rw [hstar] at hfound
    obtain ⟨ns, -, hmem, -, horder, hns⟩ := hfound
    refine ⟨ns, hns, (hmem 3).mpr ⟨rfl, ⟨[3, 1, 0], ?_, rfl⟩, ?_⟩, horder⟩
    · exact ⟨rfl, rfl, rfl, rfl⟩
    · exact (Document.matches_eq_ok_true_iff hstar).mpr rfl
  · obtain ⟨ns, hgiven, hns⟩ := hnodes [none, some 3, some 1, none, some 3]
    exact ⟨ns, hns, (List.map_inj_right fun _ _ => Option.some.inj).mp hgiven⟩

end Page

end WebPage
