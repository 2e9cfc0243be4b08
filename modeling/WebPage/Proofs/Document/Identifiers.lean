import WebPage.Document
import WebPage.Proofs.Selector.Printing

/-!
# Elements by their identifiers

An element can be looked for by its identifier directly, or by a selector that spells the identifier
with a backslash in front of every character. A backslash takes any character into a name, blanks,
quotes and backslashes included, so every identifier can be spelled. What it spells has still to be
a name, and no name starts with an ASCII digit: the selector of such an identifier is none at all,
and every other one finds what the direct search finds.

## Main definitions

* `identifierSelector`: the selector that spells an identifier

## Main results

* `not_reads_name_escape`: the escaped form of a text that starts with a digit is no name
* `querySelector_identifierSelector`: what the selector of an identifier finds
-/

namespace WebPage

open Selector (Reads SelectorList)

variable {s name : String} {r : List Char} {l : SelectorList}

/-- The selector that spells an identifier, with a backslash in front of every character. -/
def identifierSelector (s : String) : String :=
  String.ofList ('#' :: Selector.escape s.toList)

namespace Selector

/-- What is read off the escaped form of a text at its end is that text. -/
theorem eq_of_reads_name_escape (h : Reads (name? (escape s.toList)) name r) : name = s := by
  obtain ⟨c, cs, hchars, -, -, rfl⟩ := reads_name?_iff.mp h
  have hwhole := reads_nameChars_escape endsName_nil s.toList
  rw [List.append_nil] at hwhole
  rw [(hchars.unique hwhole).1, String.ofList_toList]

/-- **An escaped digit is a digit still**: a text that starts with one is not read as a name. -/
theorem not_reads_name_escape (hd : s.toList.head?.any Char.isDigit = true) :
    ¬ Reads (name? (escape s.toList)) name r := by
  intro h
  have hname := isName_of_reads h
  rw [eq_of_reads_name_escape h] at hname
  obtain ⟨c, hc, hdigit⟩ := (Option.any_eq_true ..).mp hd
  rw [hname.head_not_digit c hc] at hdigit
  cases hdigit

/-- A selector that begins with `#` has a name behind it. -/
theorem exists_reads_name_of_parse {cs : List Char}
    (h : SelectorList.parse (String.ofList ('#' :: cs)) = .ok l) :
    ∃ name r, Reads (name? cs) name r := by
  obtain ⟨r, hlist, -⟩ := parse_eq_ok_iff.mp h
  rw [String.toList_ofList] at hlist
  obtain ⟨first, r₁, hcomplex, -⟩ := reads_list?_iff.mp hlist
  rw [skipBlanks_cons (by decide)] at hcomplex
  obtain ⟨compound, r₂, hcompound, -⟩ := reads_complex?_iff.mp hcomplex
  obtain ⟨tag, r₃, parts, htag, hparts, -, -⟩ := reads_compound?_iff.mp hcompound
  -- no tag begins with the sign, so it opens the first test
  obtain rfl : r₃ = '#' :: cs := by
    rcases reads_tag?_iff.mp htag with ⟨hstar, -⟩ | ⟨_, hstart, -⟩ | ⟨-, -, -, hrest⟩
    · cases hstar
    · cases hstart
    · exact hrest
  rcases reads_parts?_iff.mp hparts with ⟨hnone, -⟩ | ⟨opening, r₄, part, r₅, _, ho, hp, -⟩
  · cases hnone
  · obtain ⟨-, he⟩ := reads_opening?_iff.mp ho
    obtain ⟨rfl, rfl⟩ := List.cons.inj he
    obtain ⟨name, hname, -⟩ := reads_part?_id_iff.mp hp
    exact ⟨name, r₅, hname⟩

/-- The selector of an identifier describes the elements that have it. -/
theorem matches_id (t : Tree) (n : NodeId) :
    SelectorList.matches t ⟨[.single (.mk none [.id s])]⟩ n =
      (t.element? (some n)).any fun e => e.id? == some s := by
  cases he : t.element? (some n) <;>
    simp [SelectorList.matches, anyMatches, Complex.matches, Compound.matches, tagMatches,
      allMatch, Simple.matches, he]

end Selector

/-- **An identifier and the selector that spells it find the same element**, if the identifier does
not start with an ASCII digit. If it does, the selector is none, in every document. -/
theorem querySelector_identifierSelector (d : Document) (hs : s ≠ "") :
    d.querySelector (identifierSelector s) =
      if s.toList.head?.any Char.isDigit then .error (.invalidSelector (identifierSelector s))
      else .ok (d.getElementById s) := by
  split
  next hdigit =>
    cases hparse : SelectorList.parse (identifierSelector s) with
    | ok l =>
      obtain ⟨name, r, hname⟩ := Selector.exists_reads_name_of_parse hparse
      exact absurd hname (Selector.not_reads_name_escape hdigit)
    | error e =>
      rw [Document.querySelector, hparse, Selector.eq_invalidSelector_of_parse hparse]
      rfl
  next hdigit =>
    have hname : Selector.IsName s := by
      refine ⟨hs, fun c hc => ?_⟩
      rw [Option.mem_def] at hc
      simpa [hc] using hdigit
    have hparse : SelectorList.parse (identifierSelector s) = .ok ⟨[.single (.mk none [.id s])]⟩ :=
      Selector.parse_opening_body (.id s) hname
    -- the direct search gives up on an empty identifier, which `s` is not
    have hempty : s.isEmpty = false := by simpa using hs
    rw [Document.querySelector, hparse, Document.getElementById, hempty]
    refine congrArg Except.ok (congrArg (d.nodes.find? ·) (funext fun n => ?_))
    exact Selector.matches_id d.tree n

/-- A page whose `body` has an identifier of a quote, a blank and a backslash. -/
def quotedBody : Document where
  tree := Document.skeletonTree.setElement 3 ((Element.ofTag "body").setAttribute "id" "\" \\")
  url := "about:blank"

theorem querySelector_identifierSelector_quotedBody :
    "\" \\" ≠ "" ∧ identifierSelector "\" \\" = "#\\\"\\ \\\\" ∧
      quotedBody.querySelector "#\\\"\\ \\\\" = .ok (some 3) := by
  have hne : "\" \\" ≠ "" := by decide
  have hspelled : identifierSelector "\" \\" = "#\\\"\\ \\\\" := by decide
  have hquery := querySelector_identifierSelector quotedBody hne
  rw [hspelled, if_neg (by decide)] at hquery
  exact ⟨hne, hspelled, hquery.trans (congrArg Except.ok (by decide))⟩

/-- A page whose `body` has an identifier that starts with a digit. -/
def numberedBody : Document where
  tree := Document.skeletonTree.setElement 3 ((Element.ofTag "body").setAttribute "id" "1a")
  url := "about:blank"

/-- The identifier of this `body` finds it, and the selector that spells the identifier is none. -/
theorem not_identifierSelector_numberedBody :
    numberedBody.getElementById "1a" = some 3 ∧
      numberedBody.querySelector "#\\1\\a" = .error (.invalidSelector "#\\1\\a") ∧
      ¬ ∀ (d : Document) (s : String), s ≠ "" →
        d.querySelector (identifierSelector s) = .ok (d.getElementById s) := by
  have hspelled : identifierSelector "1a" = "#\\1\\a" := by decide
  have hparse : SelectorList.parse "#\\1\\a" = .error (.invalidSelector "#\\1\\a") := by
    with_unfolding_all rfl
  have hquery : numberedBody.querySelector "#\\1\\a" = .error (.invalidSelector "#\\1\\a") := by
    rw [Document.querySelector, hparse]
    rfl
  refine ⟨by decide, hquery, fun hall => ?_⟩
  have h := hall numberedBody "1a" (by decide)
  rw [hspelled, hquery] at h
  cases h

end WebPage
