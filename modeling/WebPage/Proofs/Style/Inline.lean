import WebPage.Document
import WebPage.Proofs.Attributes
import WebPage.Proofs.Style.Declarations
import WebPage.Proofs.Tree.Frame
import WebPage.Style.Inline

/-!
# Inline styles as a map

The inline style of an element has no place but the text of its attribute, which is read for every
call and written again after a change. As far as what is spelled is read again, the calls work on
the map from properties to declarations: a call is a write to one key, or no write at all, and what
a key has is what the last write to it left there.

## Main definitions

* `StyleCall`, `StyleCall.run`, `StyleCall.runAll`: calls that write the style of an element
* `StyleCall.write?`, `StyleCall.lastWrite?`: the key that a call writes and what it leaves there
* `StyleCall.written?`, `StyleCall.stylesWritten`: the styles that calls put into the attribute
* `Tree.HasStyle`: what the attribute of an element spells
* `Tree.Declares`: what can be seen of a declaration

## Main results

* `setStylePropertyWith_eq`, `removeStylePropertyWith_eq`: a call writes a style, or it finds
  nothing to do
* `find?_of_written`: the style that a call writes differs in its key only
* `HasStyle.exists_run`, `HasStyle.exists_runAll`: what the attribute spells after a call, and after
  a run
* `HasStyle.declares`: the map that the attribute spells is what can be seen
* `declares_runAll`: what can be seen after a run, and what a further call does to it
-/

namespace WebPage

namespace Style

/-- A call that writes the inline style of an element. -/
inductive StyleCall where
  | set (name value : String) (important : Bool)
  | remove (name : String)
deriving DecidableEq, Repr

namespace StyleCall

/-- The key that a call writes, with the declaration that it leaves there, if any. A call that is
refused or not applied writes nothing. -/
def write? (reader : Reader) : StyleCall → Option (String × Option Declaration)
  | .set name value important =>
    match normalizeProperty name with
    | .error _ => none
    | .ok key =>
      if Text.trim value = "" then some (key, none)
      else (parseDeclarationWith reader key value important).map fun d =>
        (key, if Text.trim d.value = "" then none else some ⟨key, Text.trim d.value, d.important⟩)
  | .remove name =>
    match normalizeProperty name with
    | .error _ => none
    | .ok key => some (key, none)

/-- What a call leaves at a key, if it writes that key. -/
def writeTo? (reader : Reader) (key : String) (c : StyleCall) : Option (Option Declaration) :=
  (c.write? reader).bind fun w => if key = w.1 then some w.2 else none

/-- What the last write to a key among calls has left there. -/
def lastWrite? (reader : Reader) (key : String) : List StyleCall → Option (Option Declaration)
  | [] => none
  | c :: calls => (lastWrite? reader key calls).or (c.writeTo? reader key)

/-- The style that a call writes where `s` was read, if it writes one. -/
def written? (reader : Reader) (s : Declarations) : StyleCall → Option Declarations
  | .set name value important =>
    match normalizeProperty name with
    | .error _ => none
    | .ok key =>
      if Text.trim value = "" then some (s.erase key)
      else (parseDeclarationWith reader key value important).map fun d =>
        s.set d.name d.value d.important
  | .remove name =>
    match normalizeProperty name with
    | .error _ => none
    | .ok key => if (s.find? key).isSome then some (s.erase key) else none

/-- The tree after a call on an element. A call that fails leaves it. -/
def run (reader : Reader) (id : NodeId) (t : Tree) : StyleCall → Tree
  | .set name value important =>
    match t.setStylePropertyWith reader (some id) name value important with
    | .ok (_, t') => t'
    | .error _ => t
  | .remove name =>
    match t.removeStylePropertyWith reader (some id) name with
    | .ok (_, t') => t'
    | .error _ => t

/-- The tree after calls on an element. -/
def runAll (reader : Reader) (id : NodeId) (t : Tree) (calls : List StyleCall) : Tree :=
  calls.foldl (run reader id) t

/-- The styles that calls on an element write, one after the other. -/
def stylesWritten (reader : Reader) (id : NodeId) : Tree → List StyleCall → List Declarations
  | _, [] => []
  | t, c :: calls =>
    ((t.styleWith reader (some id)).toOption.bind fun s => c.written? reader s).toList ++
      stylesWritten reader id (c.run reader id t) calls

end StyleCall

end Style

open Style (Declaration Declarations Reader StyleCall cssReader)

namespace Tree

variable {reader : Reader} {t t' : Tree} {id : NodeId} {r : NodeRef} {e : Element}
  {s s' : Declarations} {name value key : String} {important : Bool} {c : StyleCall}
  {calls : List StyleCall}

/-- The attribute of an element spells declarations that read back, or the element has no such
attribute and there is nothing declared. -/
def HasStyle (t : Tree) (reader : Reader) (id : NodeId) (s : Declarations) : Prop :=
  ∃ e, t.element? (some id) = some e ∧
    ((e.attributes.get? "style" = none ∧ s = {}) ∨
      (e.attributes.get? "style" = some s.cssText ∧ s.Tidy ∧ s.ReadsBack reader))

/-! ## Reading and writing the attribute -/

theorem HasStyle.tidy (hs : t.HasStyle reader id s) : s.Tidy := by
  obtain ⟨e, -, ⟨-, rfl⟩ | ⟨-, ht, -⟩⟩ := hs
  · exact Declarations.tidy_empty
  · exact ht

theorem styleWith_of_element? (he : t.element? r = some e) :
    t.styleWith reader r = .ok ((e.attributes.get? "style").elim {} (.parseWith reader)) := by
  simp only [styleWith, element_eq_ok.mpr he, bind, Except.bind]
  cases e.attributes.get? "style" <;> rfl

/-- **What is read off the attribute** is the map that it spells. -/
theorem HasStyle.exists_style (hs : t.HasStyle reader id s) :
    ∃ s', t.styleWith reader (some id) = .ok s' ∧ s'.Tidy ∧ ∀ key, s'.find? key = s.find? key := by
  obtain ⟨e, he, ⟨hnone, rfl⟩ | ⟨hsome, ht, hread⟩⟩ := hs
  · refine ⟨{}, ?_, Declarations.tidy_empty, fun _ => rfl⟩
    rw [styleWith_of_element? he, hnone, Option.elim_none]
  · refine ⟨s.importantLast, ?_, Declarations.tidy_importantLast ht,
      Declarations.find?_importantLast ht⟩
    rw [styleWith_of_element? he, hsome, Option.elim_some, Declarations.parseWith_cssText ht hread]

/-- Writing a style into an element does not fail. -/
theorem HasStyle.writeStyle_eq_ok (hs : t.HasStyle reader id s) (s' : Declarations) :
    ∃ t', t.writeStyle (some id) s' = .ok t' := by
  obtain ⟨e, he, -⟩ := hs
  exact ⟨_, modifyElement_eq_ok.mpr ⟨id, e, rfl, he, rfl⟩⟩

/-- Writing a style that reads back. -/
theorem HasStyle.exists_writeStyle (hs : t.HasStyle reader id s) (ht : s'.Tidy)
    (hread : s'.ReadsBack reader) :
    ∃ t', t.writeStyle (some id) s' = .ok t' ∧ t'.HasStyle reader id s' := by
  obtain ⟨e, he, -⟩ := hs
  refine ⟨_, modifyElement_eq_ok.mpr ⟨id, e, rfl, he, rfl⟩, _,
    (element?_setElement (isElement_of_element? he)).trans (if_pos rfl), ?_⟩
  by_cases hwrite : (e.attributes.contains "style" || !s'.isEmpty) = true
  · rw [if_pos hwrite]
    exact .inr ⟨(Attributes.get?_insert ..).trans (if_pos (by decide)), ht, hread⟩
  · -- without the attribute an empty style is not written
    rw [if_neg hwrite]
    rw [Bool.or_eq_true, not_or, Bool.not_eq_true, ← Attributes.isSome_get?,
      Option.isSome_eq_false_iff, Option.isNone_iff_eq_none] at hwrite
    obtain ⟨hnone, hempty⟩ := hwrite
    obtain ⟨ds⟩ := s'
    obtain rfl : ds = [] := by simpa [Declarations.isEmpty] using hempty
    exact .inl ⟨hnone, rfl⟩

/-! ## The calls -/

/-- The declaration that is read keeps the name that was given. -/
theorem name_of_parseDeclarationWith {d : Declaration}
    (h : Style.parseDeclarationWith reader key value important = some d) : d.name = key := by
  obtain ⟨d', -, rfl⟩ := Option.map_eq_some_iff.mp h
  rfl

/-- A style that is written when a property is set. -/
theorem setStylePropertyWith_eq (hs : t.styleWith reader r = .ok s)
    (hn : Style.normalizeProperty name = .ok key) :
    t.setStylePropertyWith reader r name value important =
      match (StyleCall.set name value important).written? reader s with
      | some s' => (t.writeStyle r s').map (Prod.mk true)
      | none => .ok (false, t) := by
  simp only [setStylePropertyWith, StyleCall.written?, hn, hs, bind, Except.bind, pure, Except.pure,
    String.isEmpty_iff]
  by_cases hv : Text.trim value = ""
  · simp only [if_pos hv]
    cases t.writeStyle r (s.erase key) <;> rfl
  · simp only [if_neg hv]
    cases Style.parseDeclarationWith reader key value important with
    | none => rfl
    | some d =>
      simp only [Option.map_some]
      cases t.writeStyle r (s.set d.name d.value d.important) <;> rfl

/-- A style that is written when a property is taken out. -/
theorem removeStylePropertyWith_eq (hs : t.styleWith reader r = .ok s)
    (hn : Style.normalizeProperty name = .ok key) :
    t.removeStylePropertyWith reader r name =
      match (StyleCall.remove name).written? reader s with
      | some s' => (t.writeStyle r s').map (Prod.mk ((s.find? key).map Declaration.value))
      | none => .ok (none, t) := by
  simp only [removeStylePropertyWith, Declarations.remove, StyleCall.written?, hn, hs, bind,
    Except.bind, pure, Except.pure, Option.isSome_map]
  by_cases hf : (s.find? key).isSome = true
  · simp only [if_pos hf]
    cases t.writeStyle r (s.erase key) <;> rfl
  · simp only [if_neg hf]

/-- A call is refused, or it has nothing to write, or it writes a style. -/
theorem run_styleCall_eq (hs : t.styleWith reader (some id) = .ok s) (c : StyleCall) :
    c.run reader id t =
      ((c.written? reader s).bind fun s' => (t.writeStyle (some id) s').toOption).getD t := by
  cases c with
  | set name value important =>
    cases hn : Style.normalizeProperty name with
    | error e =>
      simp only [StyleCall.run, StyleCall.written?, setStylePropertyWith, hn]
      rfl
    | ok key =>
      simp only [StyleCall.run, setStylePropertyWith_eq hs hn]
      cases (StyleCall.set name value important).written? reader s with
      | none => rfl
      | some s' =>
        dsimp only [Option.bind_some]
        cases t.writeStyle (some id) s' <;> rfl
  | remove name =>
    cases hn : Style.normalizeProperty name with
    | error e =>
      simp only [StyleCall.run, StyleCall.written?, removeStylePropertyWith, hn]
      rfl
    | ok key =>
      simp only [StyleCall.run, removeStylePropertyWith_eq hs hn]
      cases (StyleCall.remove name).written? reader s with
      | none => rfl
      | some s' =>
        dsimp only [Option.bind_some]
        cases t.writeStyle (some id) s' <;> rfl

/-- **The style that a call writes** differs from the one that was read in the key of the call only,
and where no style is written there is nothing to change. -/
theorem find?_of_written (reader : Reader) (ht : s.Tidy) (c : StyleCall) (key : String) :
    match c.written? reader s with
    | some s' => s'.Tidy ∧ s'.find? key = (c.writeTo? reader key).getD (s.find? key)
    | none => s.find? key = (c.writeTo? reader key).getD (s.find? key) := by
  have herase : ∀ k, (s.erase k).find? key =
      (if key = k then some none else none : Option (Option Declaration)).getD (s.find? key) := by
    intro k
    rw [Declarations.find?_erase ht]
    split <;> rfl
  cases c with
  | set name value important =>
    simp only [StyleCall.written?, StyleCall.writeTo?, StyleCall.write?]
    cases Style.normalizeProperty name with
    | error e => rfl
    | ok k =>
      by_cases hv : Text.trim value = ""
      · simp only [if_pos hv]
        exact ⟨Declarations.tidy_erase ht k, herase k⟩
      · simp only [if_neg hv]
        cases hd : Style.parseDeclarationWith reader k value important with
        | none => rfl
        | some d =>
          refine ⟨Declarations.tidy_set ht .., ?_⟩
          rw [Declarations.find?_set ht, name_of_parseDeclarationWith hd]
          by_cases hk : key = k <;> simp [hk]
  | remove name =>
    simp only [StyleCall.written?, StyleCall.writeTo?, StyleCall.write?]
    cases Style.normalizeProperty name with
    | error e => rfl
    | ok k =>
      by_cases hf : (s.find? k).isSome = true
      · simp only [if_pos hf]
        exact ⟨Declarations.tidy_erase ht k, herase k⟩
      · simp only [if_neg hf]
        -- what is not there need not be taken out
        by_cases hk : key = k
        · subst hk
          simpa using hf
        · simp [hk]

/-! ## Runs -/

/-- **The attribute after a call** spells the map after its write, if what the call wrote reads
back. -/
theorem HasStyle.exists_run (hs : t.HasStyle reader id s) (c : StyleCall)
    (hread : ∀ s' ∈ StyleCall.stylesWritten reader id t [c], s'.ReadsBack reader) :
    ∃ s', (c.run reader id t).HasStyle reader id s' ∧
      ∀ key, s'.find? key = (c.writeTo? reader key).getD (s.find? key) := by
  obtain ⟨s₁, hstyle, ht, hsame⟩ := hs.exists_style
  have hread : ∀ s' ∈ c.written? reader s₁, s'.ReadsBack reader := by
    intro s' hs'
    refine hread s' ?_
    rw [StyleCall.stylesWritten, hstyle]
    exact List.mem_append_left _ (Option.mem_toList.mpr hs')
  have hfind := fun key => find?_of_written reader ht c key
  rw [run_styleCall_eq hstyle]
  cases hw : c.written? reader s₁ with
  | none =>
    -- the attribute is left alone, also in the order that it had
    refine ⟨s, hs, fun key => ?_⟩
    have h := hfind key
    rw [hw, hsame] at h
    exact h
  | some s' =>
    -- the style in the attribute is the written one, which reads back
    simp only [hw] at hfind
    obtain ⟨t', hwrite, hs'⟩ := hs.exists_writeStyle (hfind "").1 (hread s' hw)
    rw [Option.bind_some, hwrite]
    refine ⟨s', hs', fun key => ?_⟩
    rw [(hfind key).2, hsame]

/-- **The attribute after a run** has at each key what the last write to it has left there. -/
theorem HasStyle.exists_runAll (hs : t.HasStyle reader id s) (calls : List StyleCall)
    (hread : ∀ s' ∈ StyleCall.stylesWritten reader id t calls, s'.ReadsBack reader) :
    ∃ s', (StyleCall.runAll reader id t calls).HasStyle reader id s' ∧
      ∀ key, s'.find? key = (StyleCall.lastWrite? reader key calls).getD (s.find? key) := by
  induction calls generalizing t s with
  | nil => exact ⟨s, hs, fun _ => rfl⟩
  | cons c calls ih =>
    -- each call finds an attribute that spells a style, whatever order the last one left it in
    rw [StyleCall.stylesWritten] at hread
    obtain ⟨s₁, hs₁, hfind₁⟩ := hs.exists_run c fun s' hs' => hread s' (List.mem_append_left _ (by
      simpa [StyleCall.stylesWritten] using hs'))
    obtain ⟨s₂, hs₂, hfind₂⟩ := ih hs₁ fun s' hs' => hread s' (List.mem_append_right _ hs')
    refine ⟨s₂, hs₂, fun key => ?_⟩
    rw [hfind₂, hfind₁, StyleCall.lastWrite?]
    cases StyleCall.lastWrite? reader key calls <;> rfl

/-- What can be seen of a declaration at a key: its value, its priority, and what its removal
gives. -/
structure Declares (t : Tree) (reader : Reader) (id : NodeId) (name key : String)
    (d : Option Declaration) : Prop where
  value : t.stylePropertyWith reader (some id) name = .ok (d.elim "" Declaration.value)
  priority : ∃ s, t.styleWith reader (some id) = .ok s ∧
    s.isImportant key = d.elim false Declaration.important
  removed : ∃ t',
    t.removeStylePropertyWith reader (some id) name = .ok (d.map Declaration.value, t')

theorem HasStyle.declares (hs : t.HasStyle reader id s)
    (hn : Style.normalizeProperty name = .ok key) :
    t.Declares reader id name key (s.find? key) := by
  obtain ⟨s₁, hstyle, ht, hsame⟩ := hs.exists_style
  refine ⟨?_, ⟨s₁, hstyle, by rw [ht.isImportant_eq, hsame]⟩, ?_⟩
  · rw [stylePropertyWith, hn]
    show (do pure ((← t.styleWith reader (some id)).get key)) = _
    rw [hstyle, ← hsame]
    show Except.ok (((s₁.find? key).map Declaration.value).getD "") = _
    cases s₁.find? key <;> rfl
  · rw [removeStylePropertyWith_eq hstyle hn, ← hsame]
    simp only [StyleCall.written?, hn]
    by_cases hf : (s₁.find? key).isSome = true
    · obtain ⟨t', hwrite⟩ := hs.writeStyle_eq_ok (s₁.erase key)
      rw [if_pos hf]
      dsimp only
      rw [hwrite]
      exact ⟨_, rfl⟩
    · rw [if_neg hf]
      obtain hnone : s₁.find? key = none := by simpa using hf
      rw [hnone]
      exact ⟨t, rfl⟩

/-- A call on an element that has a style fails for a name that is none, and for no other reason. -/
theorem HasStyle.exists_error_iff (hs : t.HasStyle reader id s) :
    ((∃ e, t.setStylePropertyWith reader (some id) name value important = .error e) ↔
        ∃ e, Style.normalizeProperty name = .error e) ∧
      ((∃ e, t.removeStylePropertyWith reader (some id) name = .error e) ↔
        ∃ e, Style.normalizeProperty name = .error e) := by
  cases hn : Style.normalizeProperty name with
  | error e =>
    simp only [setStylePropertyWith, removeStylePropertyWith, hn]
    exact ⟨⟨fun _ => ⟨e, rfl⟩, fun _ => ⟨e, rfl⟩⟩, ⟨fun _ => ⟨e, rfl⟩, fun _ => ⟨e, rfl⟩⟩⟩
  | ok key =>
    obtain ⟨t', hremove⟩ := (hs.declares hn).removed
    obtain ⟨s₁, hstyle, -⟩ := hs.exists_style
    rw [hremove, setStylePropertyWith_eq hstyle hn]
    cases (StyleCall.set name value important).written? reader s₁ with
    | none => simp
    | some s' =>
      obtain ⟨t', hwrite⟩ := hs.writeStyle_eq_ok s'
      simp [hwrite, Except.map]

/-- A call that is not applied leaves the tree. -/
theorem HasStyle.eq_of_not_applied (hs : t.HasStyle reader id s)
    (hset : t.setStylePropertyWith reader (some id) name value important = .ok (false, t')) :
    t' = t := by
  obtain ⟨s₁, hstyle, -⟩ := hs.exists_style
  cases hn : Style.normalizeProperty name with
  | error e =>
    simp only [setStylePropertyWith, hn] at hset
    cases hset
  | ok key =>
    rw [setStylePropertyWith_eq hstyle hn] at hset
    cases hw : (StyleCall.set name value important).written? reader s₁ with
    | none =>
      rw [hw] at hset
      cases hset
      rfl
    | some s' =>
      rw [hw] at hset
      dsimp only at hset
      cases hwrite : t.writeStyle (some id) s' with
      | error e =>
        rw [hwrite] at hset
        cases hset
      | ok t₁ =>
        rw [hwrite] at hset
        cases hset

/-- **An inline style is a map**, as far as what the calls write is read again. After any calls, a
key has the value and the priority that the last write to it has left there, or else those from
before the calls, and this is the value that its removal gives. A further call that does not write
the key does not change this. A call is refused only for its name, and one that is not applied
leaves the tree. -/
theorem declares_runAll (hs : t.HasStyle reader id s) (calls : List StyleCall)
    (hread : ∀ s' ∈ StyleCall.stylesWritten reader id t calls, s'.ReadsBack reader) :
    let after := StyleCall.runAll reader id t calls
    (∀ name key, Style.normalizeProperty name = .ok key →
      after.Declares reader id name key
        ((StyleCall.lastWrite? reader key calls).getD (s.find? key))) ∧
    (∀ c : StyleCall, (∀ s' ∈ StyleCall.stylesWritten reader id after [c], s'.ReadsBack reader) →
      ∀ name key, Style.normalizeProperty name = .ok key → c.writeTo? reader key = none →
        (c.run reader id after).Declares reader id name key
          ((StyleCall.lastWrite? reader key calls).getD (s.find? key))) ∧
    ∀ name value important,
      (∀ t', after.setStylePropertyWith reader (some id) name value important = .ok (false, t') →
        t' = after) ∧
      ((∃ e, after.setStylePropertyWith reader (some id) name value important = .error e) ↔
        ∃ e, Style.normalizeProperty name = .error e) ∧
      ((∃ e, after.removeStylePropertyWith reader (some id) name = .error e) ↔
        ∃ e, Style.normalizeProperty name = .error e) := by
  intro after
  obtain ⟨s₁, hs₁, hfind₁⟩ := hs.exists_runAll calls hread
  refine ⟨fun name key hn => ?_, fun c hc name key hn hother => ?_, fun name value important => ?_⟩
  · rw [← hfind₁]
    exact hs₁.declares hn
  · obtain ⟨s₂, hs₂, hfind₂⟩ := hs₁.exists_run c hc
    rw [← hfind₁]
    have hsame := hfind₂ key
    rw [hother, Option.getD_none] at hsame
    rw [← hsame]
    exact hs₂.declares hn
  · exact ⟨fun t' => hs₁.eq_of_not_applied, hs₁.exists_error_iff⟩

/-- A paragraph with a width. -/
def sizedParagraph : Tree :=
  (Tree.empty.createElement "p").2.setElement 1
    ((Element.ofTag "p").setAttribute "style" "width: 1px;")

/-- Two spellings of one property, a change of its priority, a refused value, and a removal. -/
def paragraphCalls : List StyleCall :=
  [.set "fontSize" " 12px " true, .set "width" "2px; top: 0" false, .set "font-size" "small" false,
    .remove "width"]

/-- The last size is read under both spellings, and nothing is left of the width. -/
theorem declares_runAll_paragraphCalls :
    sizedParagraph.HasStyle cssReader 1 ⟨[⟨"width", "1px", false⟩]⟩ ∧
      (∀ s ∈ StyleCall.stylesWritten cssReader 1 sizedParagraph paragraphCalls,
        s.ReadsBack cssReader) ∧
      (StyleCall.runAll cssReader 1 sizedParagraph paragraphCalls).Declares cssReader 1 "fontSize"
        "font-size" (some ⟨"font-size", "small", false⟩) ∧
      (StyleCall.runAll cssReader 1 sizedParagraph paragraphCalls).Declares cssReader 1 "width"
        "width" none ∧
      (StyleCall.runAll cssReader 1 sizedParagraph paragraphCalls).styleProperty (some 1)
        "fontSize" = .ok "small" := by
  have helement : sizedParagraph.element? (some 1) =
      some ((Element.ofTag "p").setAttribute "style" "width: 1px;") := by decide +kernel
  have hs : sizedParagraph.HasStyle cssReader 1 ⟨[⟨"width", "1px", false⟩]⟩ :=
    ⟨_, helement, .inr ⟨by decide +kernel, ⟨by decide, by decide +kernel, by decide⟩,
      by decide +kernel⟩⟩
  have hread : ∀ s ∈ StyleCall.stylesWritten cssReader 1 sizedParagraph paragraphCalls,
      s.ReadsBack cssReader := by
    decide +kernel
  have hsize : StyleCall.lastWrite? cssReader "font-size" paragraphCalls =
      some (some ⟨"font-size", "small", false⟩) := by decide +kernel
  have hwidth : StyleCall.lastWrite? cssReader "width" paragraphCalls = some none := by
    decide +kernel
  obtain ⟨h, -⟩ := declares_runAll hs paragraphCalls hread
  have hsizes := h "fontSize" "font-size" (by rfl)
  have hwidths := h "width" "width" (by rfl)
  rw [hsize] at hsizes
  rw [hwidth] at hwidths
  exact ⟨hs, hread, hsizes, hwidths, hsizes.value⟩

end Tree

end WebPage
