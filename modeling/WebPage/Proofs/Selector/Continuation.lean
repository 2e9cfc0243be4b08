import Mathlib.Data.List.TakeWhile
import WebPage.Proofs.Selector.Printing

/-!
# Selectors with a text behind them

What a reader has read off a text stays read when the text goes on, as long as what follows does not
continue it: a name could take more characters, a compound another test, and a chain another
compound. None of these begins with an ASCII blank, a comma or a closing parenthesis. So a list that
was read to the end of its text is read in the same way in front of a comma with another list
behind it, and inside `:not( )`, however it is spelled.

There is one statement for each reader. A reader that ends where it has read its last character
leaves its rest with the new text behind it. A reader that takes the blanks behind a chain takes
those of the new text too, if it had come to the end of its own.

## Main definitions

* `Stops`: the texts behind which no list goes on
* `Follows`: the alternatives that a list goes on with
* `IsGap`: texts of ASCII blanks

## Main results

* `reads_list?_append` and its companions: the layers of a selector list, with a text behind it
* `reads_list?_between`: a whole list between two gaps
* `parse_comma_and_not`: lists with a comma between, and a list inside `:not( )`
-/

namespace WebPage.Selector

open Text (Reading)

variable {s t r rest : List Char} {c : Char} {name : String}

/-- A text behind a list: no name and no compound goes on with it, and the chain ends there. -/
structure Stops (t : List Char) : Prop where
  compound : EndsCompound t
  chain : endsChain (skipBlanks t) = true

/-! ## Blanks -/

theorem skipBlanks_skipBlanks (s : List Char) : skipBlanks (skipBlanks s) = skipBlanks s := by
  cases h : skipBlanks s with
  | nil => rfl
  | cons c r =>
    -- the first character that is left is no blank
    have hc : Text.isBlank c = false := by
      have hhead := List.head?_dropWhile_not Text.isBlank s
      unfold skipBlanks at h
      simpa [h] using hhead
    exact skipBlanks_cons hc

/-- The blanks of a text that goes on behind them. -/
theorem skipBlanks_append_of_ne_nil (h : skipBlanks s ≠ []) (t : List Char) :
    skipBlanks (s ++ t) = skipBlanks s ++ t := by
  unfold skipBlanks at h ⊢
  rw [List.dropWhile_append, if_neg (by simpa using h)]

theorem skipBlanks_append_of_eq_nil (h : skipBlanks s = []) (t : List Char) :
    skipBlanks (s ++ t) = skipBlanks t := by
  unfold skipBlanks at h ⊢
  rw [List.dropWhile_append, if_pos (by simpa using h)]

theorem skipBlanks_append_of_eq_cons (h : skipBlanks s = c :: r) (t : List Char) :
    skipBlanks (s ++ t) = c :: (r ++ t) := by
  rw [skipBlanks_append_of_ne_nil (by simp [h]), h, List.cons_append]

/-- The blanks at the start may be skipped before or after a text is put behind. -/
theorem skipBlanks_skipBlanks_append (s t : List Char) :
    skipBlanks (skipBlanks s ++ t) = skipBlanks (s ++ t) := by
  by_cases h : skipBlanks s = []
  · rw [h, List.nil_append, skipBlanks_append_of_eq_nil h]
  · rw [skipBlanks_append_of_ne_nil h, skipBlanks_append_of_ne_nil (by rwa [skipBlanks_skipBlanks]),
      skipBlanks_skipBlanks]

/-- A text that is not empty begins as before when it goes on. -/
theorem head?_append_of_ne_nil (h : s ≠ []) : (s ++ t).head? = s.head? := by
  cases s with
  | nil => exact absurd rfl h
  | cons c s => rfl

/-- What a reader has taken a character of is not empty. -/
theorem Reads.ne_nil {α : Type} {x : Option (Reading α s.length)} {a : α} (h : Reads x a r) :
    s ≠ [] := by
  rintro rfl
  exact absurd h.short (Nat.not_lt_zero _)

/-! ## Names and values -/

/-- A name ends at the end of its text, so it also ends where a text follows that no name goes on
with. -/
theorem reads_nameChars?_append (ht : EndsName t) {cs : List Char}
    (h : Reads (nameChars? s) cs r) : Reads (nameChars? (s ++ t)) cs (r ++ t) := by
  induction s using nameChars?.induct generalizing cs with
  | case1 =>
    obtain ⟨rfl, rfl⟩ := reads_some_iff.mp h
    exact reads_nameChars_nil ht
  | case2 => exact absurd h not_reads_none
  | case3 c s ih =>
    obtain ⟨cs', hcs, rfl⟩ := reads_nameChars?_escaped_iff.mp h
    exact reads_nameChars?_escaped_iff.mpr ⟨cs', ih hcs, rfl⟩
  | case4 c s hb hc ih =>
    obtain ⟨cs', hcs, rfl⟩ := (reads_nameChars?_plain_iff hc).mp h
    exact (reads_nameChars?_plain_iff hc).mpr ⟨cs', ih hcs, rfl⟩
  | case5 c s hb hc =>
    -- the name ended at a character of its own text, which is still there
    have hends : EndsName (c :: s) := endsName_cons (by simpa using hc) hb
    obtain ⟨rfl, rfl⟩ := (reads_nameChars_nil hends).unique h
    exact reads_nameChars_nil (endsName_cons (by simpa using hc) hb)

theorem reads_name?_append (ht : EndsName t) (h : Reads (name? s) name r) :
    Reads (name? (s ++ t)) name (r ++ t) := by
  obtain ⟨c, cs, hcs, hd, hlt, rfl⟩ := reads_name?_iff.mp h
  refine reads_name?_iff.mpr ⟨c, cs, reads_nameChars?_append ht hcs, hd, ?_, rfl⟩
  simpa using hlt

/-- A quoted value ends with its quote, whatever stands behind. -/
theorem reads_quoted?_append {quote : Char} {cs : List Char} (t : List Char)
    (h : Reads (quoted? quote s) cs r) : Reads (quoted? quote (s ++ t)) cs (r ++ t) := by
  induction s using quoted?.induct quote generalizing cs with
  | case1 => exact absurd h not_reads_none
  | case2 s =>
    obtain ⟨rfl, rfl⟩ := reads_quoted?_closed_iff.mp h
    exact reads_quoted?_closed_iff.mpr ⟨rfl, rfl⟩
  | case3 hquote =>
    rw [quoted?, if_neg hquote, if_pos rfl] at h
    exact absurd h not_reads_none
  | case4 d s hquote ih =>
    obtain ⟨cs', hcs, rfl⟩ := (reads_quoted?_escaped_iff hquote).mp h
    exact (reads_quoted?_escaped_iff hquote).mpr ⟨cs', ih hcs, rfl⟩
  | case5 c s hquote hb ih =>
    obtain ⟨cs', hcs, rfl⟩ := (reads_quoted?_plain_iff hquote hb).mp h
    exact (reads_quoted?_plain_iff hquote hb).mpr ⟨cs', ih hcs, rfl⟩

/-! ## Attribute selectors -/

theorem reads_test?_iff {test : AttributeTest} : Reads (test? s) test r ↔ s = test.sign ++ r := by
  constructor
  · intro h
    unfold test? at h
    split at h
    case h_7 => exact absurd h not_reads_none
    all_goals
      obtain ⟨rfl, rfl⟩ := reads_some_iff.mp h
      rfl
  · rintro rfl
    exact reads_test_sign test r

theorem reads_value?_append {value : String} (ht : EndsName t) (h : Reads (value? s) value r) :
    Reads (value? (s ++ t)) value (r ++ t) := by
  cases s with
  | nil => exact absurd h not_reads_none
  | cons c s =>
    rw [List.cons_append]
    by_cases hc : c = '"' ∨ c = '\''
    · obtain ⟨cs, hcs, rfl⟩ := (reads_value?_quoted_iff hc).mp h
      exact (reads_value?_quoted_iff hc).mpr ⟨cs, reads_quoted?_append t hcs, rfl⟩
    · rw [value?_eq_name? hc] at h ⊢
      exact reads_name?_append ht h

theorem flagAt_cons (c : Char) (s : List Char) : flagAt (c :: s) =
    if c = 'i' ∨ c = 'I' then (true, skipBlanks s)
    else if c = 's' ∨ c = 'S' then (false, skipBlanks s)
    else (false, c :: s) := by
  unfold flagAt caseFlag?
  simp only [Bool.or_eq_true, decide_eq_true_eq]
  by_cases hi : c = 'i' ∨ c = 'I'
  · simp only [if_pos hi, Reading.single]
  · by_cases hs : c = 's' ∨ c = 'S'
    · simp only [if_neg hi, if_pos hs, Reading.single]
    · simp only [if_neg hi, if_neg hs]

/-- The flag in front of a bracket. -/
theorem flagAt_append {flag : Bool} (h : flagAt s = (flag, c :: r)) (t : List Char) :
    flagAt (s ++ t) = (flag, c :: (r ++ t)) := by
  cases s with
  | nil => cases h
  | cons d s =>
    rw [List.cons_append, flagAt_cons]
    rw [flagAt_cons] at h
    by_cases hi : d = 'i' ∨ d = 'I'
    · rw [if_pos hi] at h ⊢
      obtain ⟨rfl, hrest⟩ := Prod.mk.inj h
      rw [skipBlanks_append_of_eq_cons hrest]
    rw [if_neg hi] at h ⊢
    by_cases hs : d = 's' ∨ d = 'S'
    · rw [if_pos hs] at h ⊢
      obtain ⟨rfl, hrest⟩ := Prod.mk.inj h
      rw [skipBlanks_append_of_eq_cons hrest]
    · rw [if_neg hs] at h ⊢
      cases h
      rfl

theorem reads_attribute?_append {part : Simple} (ht : EndsName t)
    (h : Reads (attribute? s) part r) : Reads (attribute? (s ++ t)) part (r ++ t) := by
  obtain ⟨name, r₁, hn, h⟩ := reads_attribute?_iff.mp h
  have hname : Reads (name? (skipBlanks (s ++ t))) name (r₁ ++ t) := by
    rw [skipBlanks_append_of_ne_nil hn.ne_nil]
    exact reads_name?_append ht hn
  refine reads_attribute?_iff.mpr ⟨name, r₁ ++ t, hname, ?_⟩
  rcases h with ⟨hb, rfl⟩ | ⟨hne, test, r₂, value, r₃, flag, htest, hvalue, hflag, rfl⟩
  · exact .inl ⟨skipBlanks_append_of_eq_cons hb t, rfl⟩
  · rw [skipBlanks_append_of_ne_nil htest.ne_nil]
    refine .inr ⟨?_, test, r₂ ++ t, value, r₃ ++ t, flag, ?_, ?_, ?_, rfl⟩
    · rwa [head?_append_of_ne_nil htest.ne_nil]
    · rw [reads_test?_iff] at htest ⊢
      rw [htest, List.append_assoc]
    · rw [skipBlanks_append_of_ne_nil hvalue.ne_nil]
      exact reads_value?_append ht hvalue
    · have hskip : skipBlanks r₃ ≠ [] := by
        intro hnil
        rw [hnil] at hflag
        cases hflag
      rw [skipBlanks_append_of_ne_nil hskip]
      exact flagAt_append hflag t

/-! ## The signs between compounds -/

theorem opening?_eq_none_iff : opening? s = none ↔
    s.head? ≠ some '#' ∧ s.head? ≠ some '.' ∧ s.head? ≠ some '[' ∧ s.head? ≠ some ':' := by
  cases s with
  | nil => simp [opening?]
  | cons c s => simp [opening?, and_assoc]

theorem opening?_append (hs : opening? s = none) (ht : opening? t = none) :
    opening? (s ++ t) = none := by
  cases s with
  | nil => exact ht
  | cons c s => rwa [opening?_eq_none_iff] at hs ⊢

theorem sign?_eq_none_iff :
    sign? s = none ↔ s.head? ≠ some '>' ∧ s.head? ≠ some '+' ∧ s.head? ≠ some '~' := by
  unfold sign?
  split
  case h_4 hchild hnext hsubsequent =>
    cases s with
    | nil => simp
    | cons c s => simp_all
  all_goals simp

theorem reads_sign?_iff {k : Combinator} :
    Reads (sign? s) k r ↔ k ≠ .descendant ∧ s = k.sign :: r := by
  constructor
  · intro h
    unfold sign? at h
    split at h
    case h_4 => exact absurd h not_reads_none
    all_goals
      obtain ⟨rfl, rfl⟩ := reads_some_iff.mp h
      exact ⟨nofun, rfl⟩
  · rintro ⟨hk, rfl⟩
    cases k with
    | descendant => exact absurd rfl hk
    | child | nextSibling | subsequentSibling => all_goals exact reads_some_iff.mpr ⟨rfl, rfl⟩

/-- A combinator with a compound behind it. -/
theorem reads_combinator?_append {k : Combinator} (hr : r ≠ []) (h : Reads (combinator? s) k r)
    (t : List Char) : Reads (combinator? (s ++ t)) k (r ++ t) := by
  rcases reads_combinator?_iff.mp h with ⟨r₁, hsign, rfl⟩ | ⟨hnone, hlt, rfl, rfl⟩
  · refine reads_combinator?_iff.mpr (.inl ⟨r₁ ++ t, ?_, (skipBlanks_append_of_ne_nil hr t).symm⟩)
    rw [skipBlanks_append_of_ne_nil hsign.ne_nil]
    rw [reads_sign?_iff] at hsign ⊢
    exact ⟨hsign.1, by rw [hsign.2, List.cons_append]⟩
  · refine reads_combinator?_iff.mpr (.inr ?_)
    rw [skipBlanks_append_of_ne_nil hr]
    refine ⟨?_, by simpa using hlt, rfl, rfl⟩
    rw [sign?_eq_none_iff, head?_append_of_ne_nil hr]
    exact sign?_eq_none_iff.mp hnone

/-! ## Lists, chains and compounds -/

theorem reads_tag?_append {tag : Option String} (hs : s ≠ []) (ht : EndsName t)
    (h : Reads (tag? s) tag r) : Reads (tag? (s ++ t)) tag (r ++ t) := by
  have hhead : (s ++ t).head? = s.head? := head?_append_of_ne_nil hs
  rcases reads_tag?_iff.mp h with ⟨rfl, rfl⟩ | ⟨name, hstart, hn, rfl⟩ | ⟨hstar, hstart, rfl, rfl⟩
  · exact reads_tag?_iff.mpr (.inl ⟨rfl, rfl⟩)
  · refine reads_tag?_iff.mpr (.inr (.inl ⟨name, ?_, reads_name?_append ht hn, rfl⟩))
    rwa [hhead]
  · refine reads_tag?_iff.mpr (.inr (.inr ⟨?_, ?_, rfl, rfl⟩)) <;> rwa [hhead]

theorem endsChain_append (hs : s ≠ []) : endsChain (s ++ t) = endsChain s := by
  cases s with
  | nil => exact absurd rfl hs
  | cons c s => rfl

/-- The alternatives that a list goes on with in front of a text: none, or those behind a comma. -/
def Follows (s : List Char) (others : List Complex) (r : List Char) : Prop :=
  ((skipBlanks s).head? ≠ some ',' ∧ others = [] ∧ r = skipBlanks s) ∨
    ∃ s', skipBlanks s = ',' :: s' ∧ Reads (list? s') others r

theorem follows_skipBlanks {others : List Complex} :
    Follows (skipBlanks s) others r ↔ Follows s others r := by
  rw [Follows, Follows, skipBlanks_skipBlanks]

theorem reads_list?_iff_follows {cs : List Complex} :
    Reads (list? s) cs r ↔ ∃ first r₁ others, Reads (complex? (skipBlanks s)) first r₁ ∧
      Follows r₁ others r ∧ cs = first :: others := by
  rw [reads_list?_iff]
  constructor
  · rintro ⟨first, r₁, hf, ⟨hne, rfl, rfl⟩ | ⟨r₂, others, hr₂, ho, rfl⟩⟩
    · exact ⟨first, r₁, [], hf, .inl ⟨hne, rfl, rfl⟩, rfl⟩
    · exact ⟨first, r₁, others, hf, .inr ⟨r₂, hr₂, ho⟩, rfl⟩
  · rintro ⟨first, r₁, others, hf, ⟨hne, rfl, rfl⟩ | ⟨r₂, hr₂, ho⟩, rfl⟩
    · exact ⟨first, r₁, hf, .inl ⟨hne, rfl, rfl⟩⟩
    · exact ⟨first, r₁, hf, .inr ⟨r₂, others, hr₂, ho, rfl⟩⟩

/-! One statement for each reader, by the recursion of the readers: what is left over is shorter. -/

mutual

/-- A list goes on with the alternatives of the text behind it. -/
theorem reads_list?_append {s r t r' : List Char} {cs ds : List Complex} (ht : Stops t)
    (h : Reads (list? s) cs r) (hds : Follows (r ++ t) ds r') :
    Reads (list? (s ++ t)) (cs ++ ds) r' := by
  obtain ⟨first, r₁, others, hf, hothers, rfl⟩ := reads_list?_iff_follows.mp h
  have hs := length_skipBlanks_le s
  have hfirst := reads_complex?_append ht hf
  rw [← skipBlanks_append_of_ne_nil hf.ne_nil] at hfirst
  refine reads_list?_iff_follows.mpr ⟨first, _, others ++ ds, hfirst, ?_, rfl⟩
  rw [follows_skipBlanks]
  rcases hothers with ⟨-, rfl, rfl⟩ | ⟨r₂, hr₂, ho⟩
  · -- the last alternative: what goes on behind it is what goes on in the new text
    rwa [← follows_skipBlanks, skipBlanks_skipBlanks_append, follows_skipBlanks] at hds
  · have : r₂.length < s.length := by
      have h₁ := hf.short
      have h₂ := length_skipBlanks_le r₁
      rw [hr₂, List.length_cons] at h₂
      omega
    exact .inr ⟨r₂ ++ t, skipBlanks_append_of_eq_cons hr₂ t, reads_list?_append ht ho hds⟩
termination_by s.length * 8 + 4

theorem reads_complex?_append {s r t : List Char} {whole : Complex} (ht : Stops t)
    (h : Reads (complex? s) whole r) :
    Reads (complex? (s ++ t)) whole (skipBlanks (r ++ t)) := by
  obtain ⟨first, r₁, hf, hw⟩ := reads_complex?_iff.mp h
  have := hf.short
  exact reads_complex?_iff.mpr
    ⟨first, r₁ ++ t, reads_compound?_append ht hf, reads_chain?_append ht hw⟩
termination_by s.length * 8 + 3

theorem reads_chain?_append {s r t : List Char} {left whole : Complex} (ht : Stops t)
    (h : Reads (chain? left s) whole r) :
    Reads (chain? left (s ++ t)) whole (skipBlanks (r ++ t)) := by
  rcases reads_chain?_iff.mp h with ⟨he, rfl, rfl⟩ | ⟨he, k, r₁, right, r₂, hk, hright, hw⟩
  · refine reads_chain?_iff.mpr (.inl ⟨?_, rfl, skipBlanks_skipBlanks_append s t⟩)
    by_cases hs : skipBlanks s = []
    · rw [skipBlanks_append_of_eq_nil hs]
      exact ht.chain
    · rw [skipBlanks_append_of_ne_nil hs, endsChain_append hs, he]
  · have := hk.short
    have := hright.short
    refine reads_chain?_iff.mpr (.inr ⟨?_, k, r₁ ++ t, right, r₂ ++ t, ?_,
      reads_compound?_append ht hright, reads_chain?_append ht hw⟩)
    · have hs : skipBlanks s ≠ [] := by
        intro hnil
        rw [hnil] at he
        cases he
      rw [skipBlanks_append_of_ne_nil hs, endsChain_append hs, he]
    · exact reads_combinator?_append hright.ne_nil hk t
termination_by s.length * 8 + 3

theorem reads_compound?_append {s r t : List Char} {compound : Compound} (ht : Stops t)
    (h : Reads (compound? s) compound r) : Reads (compound? (s ++ t)) compound (r ++ t) := by
  obtain ⟨tag, r₁, parts, htag, hp, hlt, rfl⟩ := reads_compound?_iff.mp h
  have := htag.short
  refine reads_compound?_iff.mpr ⟨tag, r₁ ++ t, parts,
    reads_tag?_append h.ne_nil ht.compound.1 htag, reads_parts?_append ht hp, ?_, rfl⟩
  rw [List.length_append, List.length_append]
  omega
termination_by s.length * 8 + 2

theorem reads_parts?_append {s r t : List Char} {parts : List Simple} (ht : Stops t)
    (h : Reads (parts? s) parts r) : Reads (parts? (s ++ t)) parts (r ++ t) := by
  rcases reads_parts?_iff.mp h with
    ⟨hnone, rfl, rfl⟩ | ⟨o, r₁, part, r₂, others, ho, hp, hothers, rfl⟩
  · exact reads_parts?_iff.mpr (.inl ⟨opening?_append hnone ht.compound.2, rfl, rfl⟩)
  · have := ho.short
    have := hp.short
    obtain ⟨hcases, rfl⟩ := reads_opening?_iff.mp ho
    refine reads_parts?_iff.mpr (.inr ⟨o, r₁ ++ t, part, r₂ ++ t, others, ?_,
      reads_part?_append ht hcases hp, reads_parts?_append ht hothers, rfl⟩)
    exact reads_opening?_iff.mpr ⟨hcases, rfl⟩
termination_by s.length * 8 + 1

theorem reads_part?_append {s r t : List Char} {opening : Char} {part : Simple} (ht : Stops t)
    (ho : opening = '#' ∨ opening = '.' ∨ opening = '[' ∨ opening = ':')
    (h : Reads (part? opening s) part r) : Reads (part? opening (s ++ t)) part (r ++ t) := by
  have hname := ht.compound.1
  rcases ho with rfl | rfl | rfl | rfl
  · obtain ⟨name, hn, rfl⟩ := reads_part?_id_iff.mp h
    exact reads_part?_id_iff.mpr ⟨name, reads_name?_append hname hn, rfl⟩
  · obtain ⟨name, hn, rfl⟩ := reads_part?_className_iff.mp h
    exact reads_part?_className_iff.mpr ⟨name, reads_name?_append hname hn, rfl⟩
  · rw [reads_part?_attribute_iff] at h ⊢
    exact reads_attribute?_append hname h
  · obtain ⟨name, r₁, hn, h⟩ := reads_part?_pseudo_iff.mp h
    refine reads_part?_pseudo_iff.mpr ⟨name, r₁ ++ t, reads_name?_append hname hn, ?_⟩
    rcases h with ⟨hnot, r₂, inner, r₃, rfl, hi, hr₃, rfl⟩ | ⟨hnot, state, hstate, rfl, rfl⟩
    · have : r₂.length < s.length := by
        have h₁ := hn.short
        rw [List.length_cons] at h₁
        omega
      -- the inner list ends in front of its parenthesis, with the text behind it or without
      have hclosed : skipBlanks (r₃ ++ t) = ')' :: (r ++ t) := skipBlanks_append_of_eq_cons hr₃ t
      have hends : Follows (r₃ ++ t) [] (')' :: (r ++ t)) :=
        .inl ⟨by simp [hclosed], rfl, hclosed.symm⟩
      have hinner := reads_list?_append ht hi hends
      rw [List.append_nil] at hinner
      exact .inl ⟨hnot, r₂ ++ t, inner, _, rfl, hinner, skipBlanks_cons (by decide), rfl⟩
    · exact .inr ⟨hnot, state, hstate, rfl, rfl⟩
termination_by s.length * 8 + 0

end

/-! ## Whole texts -/

/-- A text of ASCII blanks. The other blanks are characters of a name, so a name before them would
go on. -/
def IsGap (w : String) : Prop :=
  ∀ c ∈ w.toList, Text.isAsciiBlank c = true

instance : DecidablePred IsGap := fun w =>
  decidable_of_iff (w.toList.all Text.isAsciiBlank = true) List.all_eq_true

variable {w w₁ w₂ w₃ w₄ : String}

theorem IsGap.skipBlanks (hw : IsGap w) : skipBlanks w.toList = [] :=
  List.dropWhile_eq_nil_iff.mpr fun c hc => Text.isBlank_of_isAsciiBlank (hw c hc)

theorem endsCompound_of_isAsciiBlank (hc : Text.isAsciiBlank c = true) :
    EndsCompound (c :: s) := by
  simp only [Text.isAsciiBlank, Bool.or_eq_true, decide_eq_true_eq] at hc
  rcases hc with (((rfl | rfl) | rfl) | rfl) | rfl <;>
    exact ⟨endsName_cons (by decide) (by decide), rfl⟩

/-- No list goes on with a gap and the end of a chain. -/
theorem stops_gap_append (hw : IsGap w) (ht : endsChain t = true) : Stops (w.toList ++ t) where
  compound := by
    cases hcs : w.toList with
    | nil => exact endsCompound_of_endsChain ht
    | cons c cs => exact endsCompound_of_isAsciiBlank (hw c (by simp [hcs]))
  chain := by rwa [skipBlanks_append_of_eq_nil hw.skipBlanks, skipBlanks_of_endsChain ht]

/-- A gap in front of a list is skipped. -/
theorem reads_list?_gap_append (hw : IsGap w) {cs : List Complex} :
    Reads (list? (w.toList ++ s)) cs r ↔ Reads (list? s) cs r := by
  rw [reads_list?_iff_follows, reads_list?_iff_follows, skipBlanks_append_of_eq_nil hw.skipBlanks]

/-- **A whole list between two gaps** is read in front of any text that ends a chain. -/
theorem reads_list?_between {a : String} {la : SelectorList} {ds : List Complex}
    (ha : SelectorList.parse a = .ok la) (h₁ : IsGap w₁) (h₂ : IsGap w₂)
    (ht : endsChain t = true) (hds : Follows t ds r) :
    Reads (list? (w₁.toList ++ (a.toList ++ (w₂.toList ++ t)))) (la.alternatives ++ ds) r := by
  obtain ⟨rest, hla, hrest⟩ := parse_eq_ok_iff.mp ha
  refine (reads_list?_gap_append h₁).mpr (reads_list?_append (stops_gap_append h₂ ht) hla ?_)
  rwa [← follows_skipBlanks, skipBlanks_append_of_eq_nil hrest,
    skipBlanks_append_of_eq_nil h₂.skipBlanks, follows_skipBlanks]

/-- **Lists with a comma between are one list, and a list in `:not( )` is one test**, however the
lists are spelled and whatever ASCII blanks stand around them. -/
theorem parse_comma_and_not {a b : String} {la lb : SelectorList}
    (ha : SelectorList.parse a = .ok la) (hb : SelectorList.parse b = .ok lb)
    (h₁ : IsGap w₁) (h₂ : IsGap w₂) (h₃ : IsGap w₃) (h₄ : IsGap w₄) :
    SelectorList.parse (w₁ ++ a ++ w₂ ++ "," ++ w₃ ++ b ++ w₄) =
        .ok ⟨la.alternatives ++ lb.alternatives⟩ ∧
      SelectorList.parse (":not(" ++ w₁ ++ a ++ w₂ ++ ")") =
        .ok ⟨[.single (.mk none [.not la.alternatives])]⟩ := by
  constructor
  · have hlast := reads_list?_between hb h₃ h₄ rfl (.inl ⟨by simp, rfl, rfl⟩ : Follows [] [] [])
    have hcomma : Follows (',' :: (w₃.toList ++ (b.toList ++ (w₄.toList ++ []))))
        (lb.alternatives ++ []) [] :=
      .inr ⟨_, skipBlanks_cons (by decide), hlast⟩
    have hlist := reads_list?_between ha h₁ h₂ rfl hcomma
    have htext : (w₁ ++ a ++ w₂ ++ "," ++ w₃ ++ b ++ w₄).toList = w₁.toList ++ (a.toList ++
        (w₂.toList ++ ',' :: (w₃.toList ++ (b.toList ++ (w₄.toList ++ []))))) := by
      simp [String.toList_append]
    refine parse_eq_ok_iff.mpr ⟨[], ?_, rfl⟩
    rw [htext]
    simpa using hlist
  · have hclosing : Follows [')'] [] [')'] := .inl ⟨by decide, rfl, rfl⟩
    have hinner := reads_list?_between ha h₁ h₂ rfl hclosing
    rw [List.append_nil] at hinner
    have hnot := parse_of_reads_part (by simp) (reads_not_part hinner rfl)
    have htext : ":not(" ++ w₁ ++ a ++ w₂ ++ ")" = String.ofList (':' :: ("not(".toList ++
        (w₁.toList ++ (a.toList ++ (w₂.toList ++ [')']))))) := by
      apply String.toList_inj.mp
      simp [String.toList_append]
    rw [htext, hnot]

/-- An escaped dot, an inner list and blanks at the end: the items of a list in front of `#a\ b`,
and negated. -/
theorem parse_comma_and_not_items :
    ∃ items,
      SelectorList.parse "ul>li:not( .\\. ) ,* " = .ok ⟨items⟩ ∧
      SelectorList.parse (" " ++ "ul>li:not( .\\. ) ,* " ++ "\t" ++ "," ++ "\n" ++ "#a\\ b" ++ "") =
        .ok ⟨items ++ [.single (.mk none [.id "a b"])]⟩ ∧
      SelectorList.parse (":not(" ++ " " ++ "ul>li:not( .\\. ) ,* " ++ "\t" ++ ")") =
        .ok ⟨[.single (.mk none [.not items])]⟩ := by
  have ha : SelectorList.parse "ul>li:not( .\\. ) ,* " = .ok
      ⟨[.join (.single (.mk (some "ul") [])) .child
          (.mk (some "li") [.not [.single (.mk none [.className "."])]]),
        .single (.mk (some "*") [])]⟩ := by
    with_unfolding_all rfl
  have hb : SelectorList.parse "#a\\ b" = .ok ⟨[.single (.mk none [.id "a b"])]⟩ := by
    with_unfolding_all rfl
  exact ⟨_, ha, parse_comma_and_not ha hb (by decide) (by decide) (by decide) (by decide)⟩

end WebPage.Selector
