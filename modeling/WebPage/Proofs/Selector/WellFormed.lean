import WebPage.Proofs.Selector.Reads

/-!
# Well-formed selectors

Not every value of the selector types is the meaning of some text: a name is never empty and never
starts with a digit, tags and attribute names are in small letters, and a compound asks for
something. A value with these properties throughout, down to the lists inside `:not( )`, is well
formed. Reading never gives another one.

## Main definitions

* `IsName`, `IsSmall`, `IsTag`: the texts that stand for names
* `Simple.WellFormed`, `Compound.WellFormed`, `Complex.WellFormed`, `SelectorList.WellFormed`: the
  layers of a selector list

## Main results

* `isName_of_reads`: what is read as a name is one
* `wellFormed_of_list?` and its companions: what each reader of a layer reads is well formed
* `SelectorList.wellFormed_of_parse`: so is what a whole text means
-/

namespace WebPage.Selector

/-- A text that can be a name: it is not empty and does not start with an ASCII digit. -/
structure IsName (name : String) : Prop where
  ne_empty : name ≠ ""
  head_not_digit : ∀ c ∈ name.toList.head?, c.isDigit = false

/-- A text without ASCII capitals. -/
def IsSmall (s : String) : Prop :=
  ∀ c ∈ s.toList, c.isUpper = false

/-- A text that can be a tag: the star, or a name in small letters. -/
def IsTag (tag : String) : Prop :=
  tag = "*" ∨ (IsName tag ∧ IsSmall tag)

mutual

/-- A test has proper names, and case is ignored only in a comparison. -/
def Simple.WellFormed : Simple → Prop
  | .id name => IsName name
  | .className token => IsName token
  | .attribute name test ignoreCase =>
    IsName name ∧ IsSmall name ∧ (ignoreCase = true → test.isSome = true)
  | .pseudo _ => True
  | .not alternatives => alternatives ≠ [] ∧ AllWellFormed alternatives

/-- A compound has a tag or a test. -/
def Compound.WellFormed : Compound → Prop
  | .mk tag parts => (tag.isSome = true ∨ parts ≠ []) ∧ (∀ t ∈ tag, IsTag t) ∧ PartsWellFormed parts

/-- All compounds of a chain are well formed. -/
def Complex.WellFormed : Complex → Prop
  | .single compound => compound.WellFormed
  | .join left _ right => left.WellFormed ∧ right.WellFormed

/-- All tests of a conjunction are well formed. -/
def PartsWellFormed : List Simple → Prop
  | [] => True
  | part :: parts => part.WellFormed ∧ PartsWellFormed parts

/-- All alternatives are well formed. -/
def AllWellFormed : List Complex → Prop
  | [] => True
  | chain :: chains => chain.WellFormed ∧ AllWellFormed chains

end

/-- There is an alternative, and all are well formed. -/
def SelectorList.WellFormed (l : SelectorList) : Prop :=
  l.alternatives ≠ [] ∧ AllWellFormed l.alternatives

/-! ## Names -/

variable {s r : List Char} {name : String}

theorem isName_iff : IsName name ↔ ∃ c cs, name.toList = c :: cs ∧ c.isDigit = false := by
  constructor
  · rintro ⟨hne, hd⟩
    cases h : name.toList with
    | nil => exact absurd (String.toList_eq_nil_iff.mp h) hne
    | cons c cs => exact ⟨c, cs, rfl, hd c (by rw [h]; rfl)⟩
  · rintro ⟨c, cs, h, hd⟩
    refine ⟨?_, ?_⟩
    · rintro rfl
      cases h
    · rw [h]
      rintro d ⟨⟩
      exact hd

/-- **What is read as a name is one.** -/
theorem isName_of_reads (h : Reads (name? s) name r) : IsName name := by
  obtain ⟨c, cs, -, hd, -, rfl⟩ := reads_name?_iff.mp h
  exact isName_iff.mpr ⟨c, cs, String.toList_ofList, hd⟩

/-- Small letters stay: a capital becomes one, and nothing else changes. -/
theorem isSmall_lowerAscii (s : String) : IsSmall (Text.lowerAscii s) := by
  intro c hc
  rw [Text.lowerAscii, String.toList_ofList] at hc
  obtain ⟨d, -, rfl⟩ := List.mem_map.mp hc
  unfold Char.toLower Char.isUpper
  split <;> grind

theorem isName_lowerAscii (h : IsName name) : IsName (Text.lowerAscii name) := by
  obtain ⟨c, cs, hc, hd⟩ := isName_iff.mp h
  refine isName_iff.mpr ⟨c.toLower, cs.map Char.toLower, ?_, ?_⟩
  · rw [Text.lowerAscii, String.toList_ofList, hc, List.map_cons]
  · -- the capitals and the letters that they become are no digits
    rw [← hd]
    unfold Char.toLower Char.isDigit
    split <;> grind

/-- A text in small letters is its own lower case. -/
theorem lowerAscii_of_isSmall (h : IsSmall name) : Text.lowerAscii name = name := by
  have hlower : ∀ c ∈ name.toList, c.toLower = id c := by
    intro c hc
    have hu := h c hc
    unfold Char.isUpper at hu
    unfold Char.toLower
    split <;> grind
  rw [Text.lowerAscii, List.map_congr_left hlower, List.map_id, String.ofList_toList]

theorem isTag_of_reads {tag : Option String} (h : Reads (tag? s) tag r) : ∀ t ∈ tag, IsTag t := by
  rcases reads_tag?_iff.mp h with ⟨-, rfl⟩ | ⟨name, -, hn, rfl⟩ | ⟨-, -, rfl, -⟩
  · rintro t ⟨⟩
    exact .inl rfl
  · rintro t ⟨⟩
    exact .inr ⟨isName_lowerAscii (isName_of_reads hn), isSmall_lowerAscii name⟩
  · rintro t ⟨⟩

/-! ## Tests -/

theorem wellFormed_of_attribute? {part : Simple} (h : Reads (attribute? s) part r) :
    part.WellFormed := by
  obtain ⟨name, r₁, hn, h⟩ := reads_attribute?_iff.mp h
  have hname := isName_lowerAscii (isName_of_reads hn)
  rcases h with ⟨-, rfl⟩ | ⟨-, test, r₂, value, r₃, flag, -, -, -, rfl⟩
  · exact ⟨hname, isSmall_lowerAscii name, by simp⟩
  · exact ⟨hname, isSmall_lowerAscii name, fun _ => rfl⟩

/-! ## Lists, chains and compounds

One statement for each reader, by the recursion of the readers: what is left over is shorter. -/

mutual

theorem wellFormed_of_list? {s r : List Char} {cs : List Complex} (h : Reads (list? s) cs r) :
    cs ≠ [] ∧ AllWellFormed cs := by
  obtain ⟨first, r₁, hf, h⟩ := reads_list?_iff.mp h
  have hs := length_skipBlanks_le s
  have hfirst := wellFormed_of_complex? hf
  rcases h with ⟨-, rfl, -⟩ | ⟨r₂, others, hr₂, ho, rfl⟩
  · exact ⟨by simp, hfirst, trivial⟩
  · have : r₂.length < s.length := by
      have h₁ := hf.short
      have h₂ := length_skipBlanks_le r₁
      rw [hr₂, List.length_cons] at h₂
      omega
    exact ⟨by simp, hfirst, (wellFormed_of_list? ho).2⟩
termination_by s.length * 8 + 4

theorem wellFormed_of_complex? {s r : List Char} {whole : Complex}
    (h : Reads (complex? s) whole r) : whole.WellFormed := by
  obtain ⟨first, r₁, hf, hw⟩ := reads_complex?_iff.mp h
  have := hf.short
  have hfirst : (Complex.single first).WellFormed := wellFormed_of_compound? hf
  exact wellFormed_of_chain? hfirst hw
termination_by s.length * 8 + 3

theorem wellFormed_of_chain? {s r : List Char} {left whole : Complex} (hl : left.WellFormed)
    (h : Reads (chain? left s) whole r) : whole.WellFormed := by
  rcases reads_chain?_iff.mp h with ⟨-, rfl, -⟩ | ⟨-, k, r₁, right, r₂, hk, hright, hw⟩
  · exact hl
  · have := hk.short
    have := hright.short
    have hjoin : (Complex.join left k right).WellFormed := ⟨hl, wellFormed_of_compound? hright⟩
    exact wellFormed_of_chain? hjoin hw
termination_by s.length * 8 + 3

theorem wellFormed_of_compound? {s r : List Char} {compound : Compound}
    (h : Reads (compound? s) compound r) : compound.WellFormed := by
  obtain ⟨tag, r₁, parts, ht, hp, hlt, rfl⟩ := reads_compound?_iff.mp h
  have := ht.short
  refine ⟨?_, isTag_of_reads ht, wellFormed_of_parts? hp⟩
  -- without tag and without tests nothing would have been taken
  rcases reads_tag?_iff.mp ht with ⟨-, rfl⟩ | ⟨name, -, -, rfl⟩ | ⟨-, -, rfl, rfl⟩
  · exact .inl rfl
  · exact .inl rfl
  · rcases reads_parts?_iff.mp hp with ⟨-, -, rfl⟩ | ⟨_, _, _, _, _, -, -, -, rfl⟩
    · exact absurd hlt (Nat.lt_irrefl _)
    · exact .inr (by simp)
termination_by s.length * 8 + 2

theorem wellFormed_of_parts? {s r : List Char} {parts : List Simple}
    (h : Reads (parts? s) parts r) : PartsWellFormed parts := by
  rcases reads_parts?_iff.mp h with ⟨-, rfl, -⟩ | ⟨o, r₁, part, r₂, others, ho, hp, hothers, rfl⟩
  · exact trivial
  · have := ho.short
    have := hp.short
    exact ⟨wellFormed_of_part? (reads_opening?_iff.mp ho).1 hp, wellFormed_of_parts? hothers⟩
termination_by s.length * 8 + 1

theorem wellFormed_of_part? {s r : List Char} {opening : Char} {part : Simple}
    (ho : opening = '#' ∨ opening = '.' ∨ opening = '[' ∨ opening = ':')
    (h : Reads (part? opening s) part r) : part.WellFormed := by
  rcases ho with rfl | rfl | rfl | rfl
  · obtain ⟨name, hn, rfl⟩ := reads_part?_id_iff.mp h
    exact isName_of_reads hn
  · obtain ⟨name, hn, rfl⟩ := reads_part?_className_iff.mp h
    exact isName_of_reads hn
  · exact wellFormed_of_attribute? (reads_part?_attribute_iff.mp h)
  · obtain ⟨name, r₁, hn, h⟩ := reads_part?_pseudo_iff.mp h
    rcases h with ⟨-, r₂, inner, r₃, hr₂, hi, -, rfl⟩ | ⟨-, state, -, -, rfl⟩
    · have : r₂.length < s.length := by
        have h₁ := hn.short
        rw [hr₂, List.length_cons] at h₁
        omega
      exact wellFormed_of_list? hi
    · exact trivial
termination_by s.length * 8 + 0

end

/-- **What a text means is well formed.** -/
theorem SelectorList.wellFormed_of_parse {text : String} {l : SelectorList}
    (h : SelectorList.parse text = .ok l) : l.WellFormed := by
  obtain ⟨r, hl, -⟩ := parse_eq_ok_iff.mp h
  exact wellFormed_of_list? hl

end WebPage.Selector
