import WebPage.Proofs.Selector.WellFormed

/-!
# Printing selectors

A selector list is written with a backslash in front of every character of a name and of a value,
so that no character of these is mistaken for one of the syntax. What is written is read back as it
was. The statement for each layer speaks of any text that may stand behind it: a name ends where a
character follows that no name goes on with, a compound ends where none of its tests is opened, and
a chain ends in front of a comma, a closing parenthesis or the end of the text.

## Main definitions

* `escape`: a name or value with a backslash in front of every character
* `Simple.print`, `Compound.print`, `Complex.print`, `SelectorList.print`: the written form
* `EndsName`, `EndsCompound`: the texts that may stand behind a name, behind a compound

## Main results

* `reads_name_escape`, `reads_attribute_print`: names and attribute selectors
* `reads_list_print` and its companions: the layers of a selector list
* `parse_of_reads_part`: a selector of one test
* `parse_print`: reading gives well-formed lists, and each of them is read off its written form
-/

namespace WebPage.Selector

/-! ## The written form -/

/-- A backslash in front of every character. -/
def escape (cs : List Char) : List Char :=
  cs.flatMap fun c => ['\\', c]

/-- The name of a state. -/
def PseudoClass.name : PseudoClass → List Char
  | firstChild => "first-child".toList
  | lastChild => "last-child".toList
  | onlyChild => "only-child".toList
  | empty => "empty".toList
  | root => "root".toList
  | checked => "checked".toList
  | disabled => "disabled".toList
  | enabled => "enabled".toList

/-- The sign of a comparison. -/
def AttributeTest.sign : AttributeTest → List Char
  | equals => ['=']
  | hasWord => ['~', '=']
  | dashMatch => ['|', '=']
  | startsWith => ['^', '=']
  | endsWith => ['$', '=']
  | contains => ['*', '=']

/-- The sign of a combinator. -/
def Combinator.sign : Combinator → Char
  | descendant => ' '
  | child => '>'
  | nextSibling => '+'
  | subsequentSibling => '~'

/-- A tag, where the star stands for itself. -/
def printTag : Option String → List Char
  | none => []
  | some tag => if tag = "*" then ['*'] else escape tag.toList

/-- The comparison of an attribute selector, with its flag. -/
def printTest : Option (AttributeTest × String) → Bool → List Char
  | none, _ => []
  | some (test, value), ignoreCase =>
    test.sign ++ '"' :: (escape value.toList ++ '"' :: if ignoreCase then ['i'] else [])

/-- The character that opens a test. -/
def Simple.opening : Simple → Char
  | .id _ => '#'
  | .className _ => '.'
  | .attribute _ _ _ => '['
  | .pseudo _ | .not _ => ':'

mutual

/-- A test, without the character that opens it. -/
def Simple.body : Simple → List Char
  | .id name => escape name.toList
  | .className token => escape token.toList
  | .attribute name test ignoreCase => escape name.toList ++ printTest test ignoreCase ++ [']']
  | .pseudo state => state.name
  | .not alternatives => "not(".toList ++ printAlternatives alternatives ++ [')']

/-- The tests of a compound. -/
def printParts : List Simple → List Char
  | [] => []
  | part :: parts => part.opening :: (part.body ++ printParts parts)

/-- The tag of a compound and its tests. -/
def Compound.print : Compound → List Char
  | .mk tag parts => printTag tag ++ printParts parts

/-- The compounds of a chain with their combinators. -/
def Complex.print : Complex → List Char
  | .single compound => compound.print
  | .join left k right => left.print ++ k.sign :: right.print

/-- Alternatives with commas between. -/
def printAlternatives : List Complex → List Char
  | [] => []
  | [chain] => chain.print
  | chain :: chains => chain.print ++ ',' :: printAlternatives chains

end

/-- The written form of a selector list. -/
def SelectorList.print (l : SelectorList) : String :=
  String.ofList (printAlternatives l.alternatives)

/-! ## Names and values -/

variable {rest r : List Char} {name : String}

/-- A text behind a name: no name goes on with it. -/
def EndsName (rest : List Char) : Prop :=
  ∀ c ∈ rest.head?, isNameChar c = false ∧ c ≠ '\\'

theorem endsName_nil : EndsName [] := by
  rintro c ⟨⟩

theorem endsName_cons {c : Char} (hc : isNameChar c = false) (hb : c ≠ '\\') :
    EndsName (c :: rest) := by
  rintro d ⟨⟩
  exact ⟨hc, hb⟩

/-- At the end of a name nothing more is read. -/
theorem reads_nameChars_nil (hr : EndsName rest) : Reads (nameChars? rest) [] rest := by
  cases rest with
  | nil => simp [nameChars?, Text.Reading.nothing]
  | cons c rest =>
    obtain ⟨hc, hb⟩ := hr c rfl
    rw [nameChars?.eq_4 _ _ hb, if_neg (by simp [hc])]
    exact reads_some_iff.mpr ⟨rfl, rfl⟩

theorem reads_nameChars_escape (hr : EndsName rest) (cs : List Char) :
    Reads (nameChars? (escape cs ++ rest)) cs rest := by
  induction cs with
  | nil => exact reads_nameChars_nil hr
  | cons c cs ih => exact reads_nameChars?_escaped_iff.mpr ⟨cs, ih, rfl⟩

/-- Characters of a name need no backslash. -/
theorem reads_nameChars_plain (hr : EndsName rest) {cs : List Char}
    (hcs : cs.all isNameChar = true) : Reads (nameChars? (cs ++ rest)) cs rest := by
  induction cs with
  | nil => exact reads_nameChars_nil hr
  | cons c cs ih =>
    obtain ⟨hc, hcs⟩ := (Bool.and_eq_true ..).mp hcs
    exact (reads_nameChars?_plain_iff hc).mpr ⟨cs, ih hcs, rfl⟩

/-- **A name is read back**, up to the text behind it. -/
theorem reads_name_escape (hn : IsName name) (hr : EndsName rest) :
    Reads (name? (escape name.toList ++ rest)) name rest := by
  obtain ⟨c, cs, hc, hd⟩ := isName_iff.mp hn
  refine reads_name?_iff.mpr ⟨c, cs, ?_, hd, ?_, ?_⟩
  · rw [hc]
    exact reads_nameChars_escape hr (c :: cs)
  · rw [hc]
    simp [escape]
    omega
  · rw [← hc, String.ofList_toList]

/-- The name of a state is read as it is. -/
theorem reads_name_plain {c : Char} {cs : List Char} (hd : c.isDigit = false)
    (hcs : (c :: cs).all isNameChar = true) (hr : EndsName rest) :
    Reads (name? (c :: cs ++ rest)) (String.ofList (c :: cs)) rest := by
  refine reads_name?_iff.mpr ⟨c, cs, reads_nameChars_plain hr hcs, hd, ?_, rfl⟩
  rw [List.length_append, List.length_cons]
  omega

/-- A quoted value is read back, up to the text behind the closing quote. -/
theorem reads_quoted_escape (cs rest : List Char) :
    Reads (quoted? '"' (escape cs ++ '"' :: rest)) cs rest := by
  induction cs with
  | nil =>
    show Reads (quoted? '"' ('"' :: rest)) [] rest
    rw [quoted?.eq_def]
    exact reads_some_iff.mpr ⟨rfl, rfl⟩
  | cons c cs ih =>
    obtain ⟨h, hcs⟩ := ih
    show Reads (quoted? '"' ('\\' :: c :: (escape cs ++ '"' :: rest))) (c :: cs) rest
    rw [quoted?, if_neg (by decide), if_pos rfl, hcs]
    exact reads_some_iff.mpr ⟨rfl, rfl⟩

/-! ## Attribute selectors -/

theorem reads_test_sign (test : AttributeTest) (rest : List Char) :
    Reads (test? (test.sign ++ rest)) test rest := by
  cases test <;> exact reads_some_iff.mpr ⟨rfl, rfl⟩

/-- A value in quotes is read back, up to the text behind it. -/
theorem reads_value_print (value : String) (rest : List Char) :
    Reads (value? ('"' :: (escape value.toList ++ '"' :: rest))) value rest := by
  obtain ⟨h, hq⟩ := reads_quoted_escape value.toList rest
  rw [value?, if_pos (by decide), hq]
  exact reads_some_iff.mpr ⟨String.ofList_toList, rfl⟩

/-- The flag and the bracket behind a value. -/
theorem flagAt_print (ignoreCase : Bool) (rest : List Char) :
    flagAt ((if ignoreCase then ['i'] else []) ++ ']' :: rest) = (ignoreCase, ']' :: rest) := by
  have hb : skipBlanks (']' :: rest) = ']' :: rest := skipBlanks_cons (by decide)
  cases ignoreCase with
  | true =>
    show (true, skipBlanks (']' :: rest)) = _
    rw [hb]
  | false => rfl

/-- **What stands between brackets is read back.** -/
theorem reads_attribute_print {test : Option (AttributeTest × String)} {ignoreCase : Bool}
    (h : (Simple.attribute name test ignoreCase).WellFormed) (rest : List Char) :
    Reads (attribute? (escape name.toList ++ printTest test ignoreCase ++ ']' :: rest))
      (.attribute name test ignoreCase) rest := by
  obtain ⟨hn, hs, hi⟩ := h
  -- no blank stands before the name
  have hread : ∀ r, EndsName r → Reads (name? (skipBlanks (escape name.toList ++ r))) name r := by
    intro r hr
    have hskip : skipBlanks (escape name.toList ++ r) = escape name.toList ++ r := by
      obtain ⟨c, cs, hc, -⟩ := isName_iff.mp hn
      rw [hc]
      exact skipBlanks_cons (by decide)
    rw [hskip]
    exact reads_name_escape hn hr
  rw [List.append_assoc]
  cases test with
  | none =>
    obtain rfl : ignoreCase = false := by simpa using hi
    refine reads_attribute?_iff.mpr ⟨name, ']' :: rest, hread _ ?_, .inl ⟨?_, ?_⟩⟩
    · exact endsName_cons (by decide) (by decide)
    · exact skipBlanks_cons (by decide)
    · rw [lowerAscii_of_isSmall hs]
  | some comparison =>
    obtain ⟨test, value⟩ := comparison
    -- the sign of the test stands in front of the value, the flag and the bracket behind it
    let tail := (if ignoreCase then ['i'] else []) ++ ']' :: rest
    let quoted := '"' :: (escape value.toList ++ '"' :: tail)
    obtain ⟨c, cs, hsign, hname, hbracket, hblank⟩ : ∃ c cs, test.sign = c :: cs ∧
        (isNameChar c = false ∧ c ≠ '\\') ∧ c ≠ ']' ∧ Text.isBlank c = false := by
      cases test <;> exact ⟨_, _, rfl, by decide, by decide, by decide⟩
    have hprint : printTest (some (test, value)) ignoreCase ++ ']' :: rest = test.sign ++ quoted := by
      simp [printTest, quoted, tail]
    have hskip : skipBlanks (test.sign ++ quoted) = test.sign ++ quoted := by
      rw [hsign]
      exact skipBlanks_cons hblank
    have hends : EndsName (test.sign ++ quoted) := by
      rw [hsign]
      exact endsName_cons hname.1 hname.2
    have htest : Reads (test? (skipBlanks (test.sign ++ quoted))) test quoted := by
      rw [hskip]
      exact reads_test_sign test quoted
    have hvalue : Reads (value? (skipBlanks quoted)) value tail := by
      rw [skipBlanks_cons (by decide)]
      exact reads_value_print value tail
    have hflag : flagAt (skipBlanks tail) = (ignoreCase, ']' :: rest) := by
      have htail : skipBlanks tail = tail := by
        cases ignoreCase <;> exact skipBlanks_cons (by decide)
      rw [htail]
      exact flagAt_print ignoreCase rest
    rw [hprint]
    refine reads_attribute?_iff.mpr ⟨name, test.sign ++ quoted, hread _ hends, .inr ⟨?_, test,
      quoted, value, tail, ignoreCase, htest, hvalue, hflag, ?_⟩⟩
    · rw [hskip, hsign]
      simpa using hbracket
    · rw [lowerAscii_of_isSmall hs]

/-! ## Where the written forms begin and end -/

/-- The characters that the written form of a compound begins with. -/
def StartsCompound (c : Char) : Prop :=
  c ∈ ['*', '\\', '#', '.', '[', ':']

/-- A text behind a compound: no name goes on with it, and it opens no test. -/
def EndsCompound (rest : List Char) : Prop :=
  EndsName rest ∧ opening? rest = none

theorem Simple.opening_eq (part : Simple) :
    part.opening = '#' ∨ part.opening = '.' ∨ part.opening = '[' ∨ part.opening = ':' := by
  cases part <;> simp [opening]

theorem Simple.startsCompound_opening (part : Simple) : StartsCompound part.opening := by
  cases part <;> simp [opening, StartsCompound]

/-- What begins a compound is no blank, no sign of a combinator, and no end of a chain. -/
theorem of_startsCompound {c : Char} (hc : StartsCompound c) (s : List Char) :
    skipBlanks (c :: s) = c :: s ∧ sign? (c :: s) = none ∧ endsChain (c :: s) = false := by
  have hcases : c = '*' ∨ c = '\\' ∨ c = '#' ∨ c = '.' ∨ c = '[' ∨ c = ':' := by
    simpa [StartsCompound] using hc
  rcases hcases with rfl | rfl | rfl | rfl | rfl | rfl <;>
    exact ⟨skipBlanks_cons (by decide), rfl, rfl⟩

theorem exists_print_compound {compound : Compound} (h : compound.WellFormed) :
    ∃ c cs, compound.print = c :: cs ∧ StartsCompound c := by
  obtain ⟨tag, parts⟩ := compound
  obtain ⟨hne, htag, -⟩ := h
  cases tag with
  | none =>
    obtain ⟨part, parts, rfl⟩ := List.exists_cons_of_ne_nil (hne.resolve_left (by simp))
    exact ⟨_, _, rfl, part.startsCompound_opening⟩
  | some tag =>
    rw [Compound.print, printTag]
    split
    next => exact ⟨_, _, rfl, by simp [StartsCompound]⟩
    next hstar =>
      obtain ⟨hn, -⟩ := (htag tag rfl).resolve_left hstar
      obtain ⟨c, cs, hc, -⟩ := isName_iff.mp hn
      rw [hc]
      exact ⟨_, _, rfl, by simp [StartsCompound]⟩

/-- A chain begins with its first compound. -/
theorem exists_print_complex : ∀ {chain : Complex}, chain.WellFormed →
    ∃ c cs, chain.print = c :: cs ∧ StartsCompound c
  | .single _, h => exists_print_compound h
  | .join _ k right, h => by
    obtain ⟨c, cs, hc, hstart⟩ := exists_print_complex h.1
    exact ⟨c, cs ++ k.sign :: right.print, by rw [Complex.print, hc, List.cons_append], hstart⟩

theorem skipBlanks_print_complex {chain : Complex} (h : chain.WellFormed) (rest : List Char) :
    skipBlanks (chain.print ++ rest) = chain.print ++ rest := by
  obtain ⟨c, cs, hc, hstart⟩ := exists_print_complex h
  rw [hc]
  exact (of_startsCompound hstart _).1

theorem endsCompound_sign (k : Combinator) (rest : List Char) : EndsCompound (k.sign :: rest) := by
  cases k <;> exact ⟨endsName_cons (by decide) (by decide), rfl⟩

/-- A chain ends where a compound ends. -/
theorem endsCompound_of_endsChain (h : endsChain rest = true) : EndsCompound rest := by
  cases rest with
  | nil => exact ⟨endsName_nil, rfl⟩
  | cons c rest =>
    have hc : c = ',' ∨ c = ')' := by simpa [endsChain] using h
    rcases hc with rfl | rfl <;> exact ⟨endsName_cons (by decide) (by decide), rfl⟩

theorem skipBlanks_of_endsChain (h : endsChain rest = true) : skipBlanks rest = rest := by
  cases rest with
  | nil => rfl
  | cons c rest =>
    have hc : c = ',' ∨ c = ')' := by simpa [endsChain] using h
    rcases hc with rfl | rfl <;> exact skipBlanks_cons (by decide)

/-- Where a chain ends nothing more is read. -/
theorem reads_chain_end (h : endsChain rest = true) (chain : Complex) :
    Reads (chain? chain rest) chain rest := by
  have hskip := skipBlanks_of_endsChain h
  exact reads_chain?_iff.mpr (.inl ⟨by rw [hskip, h], rfl, hskip.symm⟩)

/-- A combinator is read back, in front of a compound, and no chain ends before it. -/
theorem reads_combinator_sign (k : Combinator) {c : Char} (hc : StartsCompound c) (s : List Char) :
    Reads (combinator? (k.sign :: c :: s)) k (c :: s) ∧
      endsChain (skipBlanks (k.sign :: c :: s)) = false := by
  obtain ⟨hskip, hsign, hends⟩ := of_startsCompound hc s
  cases k with
  | descendant =>
    have hspace : skipBlanks (Combinator.descendant.sign :: c :: s) = c :: s := hskip
    refine ⟨reads_combinator?_iff.mpr (.inr ⟨?_, ?_, rfl, hspace.symm⟩), ?_⟩
    · rw [hspace, hsign]
    · simp [hspace]
    · rw [hspace, hends]
  | child | nextSibling | subsequentSibling =>
    all_goals
      refine ⟨reads_combinator?_iff.mpr (.inl ⟨c :: s, ?_, hskip.symm⟩), ?_⟩
      · rw [Combinator.sign, skipBlanks_cons (by decide)]
        exact reads_some_iff.mpr ⟨rfl, rfl⟩
      · rw [Combinator.sign, skipBlanks_cons (by decide)]
        rfl

/-! ## Tests and compounds -/

theorem endsName_printParts (hr : EndsName rest) (parts : List Simple) :
    EndsName (printParts parts ++ rest) := by
  cases parts with
  | nil => exact hr
  | cons part parts =>
    rw [printParts, List.cons_append]
    rcases part.opening_eq with h | h | h | h <;> rw [h] <;>
      exact endsName_cons (by decide) (by decide)

theorem reads_pseudo_print (state : PseudoClass) (hr : EndsName rest) :
    Reads (part? ':' (state.name ++ rest)) (.pseudo state) rest := by
  have hname : Reads (name? (state.name ++ rest)) (String.ofList state.name) rest := by
    cases state <;> exact reads_name_plain (by decide) (by decide) hr
  refine reads_part?_pseudo_iff.mpr ⟨_, rest, hname, .inr ⟨?_, state, ?_, rfl, rfl⟩⟩
  · cases state <;> decide
  · cases state <;> decide

/-- A list in parentheses behind `not` is a test. -/
theorem reads_not_part {s : List Char} {inner : List Complex} (h : Reads (list? s) inner r)
    (hr : skipBlanks r = ')' :: rest) :
    Reads (part? ':' ("not(".toList ++ s)) (.not inner) rest := by
  have hname : Reads (name? ("not".toList ++ '(' :: s)) "not" ('(' :: s) :=
    reads_name_plain (by decide) (by decide) (endsName_cons (by decide) (by decide))
  exact reads_part?_pseudo_iff.mpr
    ⟨"not", _, hname, .inl ⟨by decide, s, inner, r, rfl, h, hr, rfl⟩⟩

/-- A tag is read back, in front of tests or what ends a compound. -/
theorem reads_tag_print {tag : Option String} (ht : ∀ t ∈ tag, IsTag t) (hr : EndsName rest)
    (hnone : tag = none → rest.head? ≠ some '*' ∧ rest.head?.any isNameStart = false) :
    Reads (tag? (printTag tag ++ rest)) tag rest := by
  cases tag with
  | none =>
    obtain ⟨hstar, hstart⟩ := hnone rfl
    exact reads_tag?_iff.mpr (.inr (.inr ⟨hstar, hstart, rfl, rfl⟩))
  | some tag =>
    rw [printTag]
    by_cases hstar : tag = "*"
    · rw [if_pos hstar, hstar]
      exact reads_tag?_iff.mpr (.inl ⟨rfl, rfl⟩)
    · rw [if_neg hstar]
      obtain ⟨hn, hs⟩ := (ht tag rfl).resolve_left hstar
      refine reads_tag?_iff.mpr (.inr (.inl ⟨tag, ?_, reads_name_escape hn hr, ?_⟩))
      · obtain ⟨c, cs, hc, -⟩ := isName_iff.mp hn
        rw [hc]
        rfl
      · rw [lowerAscii_of_isSmall hs]

/-- A compound is read back, if its tests are. -/
theorem reads_compound_print {tag : Option String} {parts : List Simple}
    (h : (Compound.mk tag parts).WellFormed) (hr : EndsCompound rest)
    (hparts : Reads (parts? (printParts parts ++ rest)) parts rest) :
    Reads (compound? ((Compound.mk tag parts).print ++ rest)) (.mk tag parts) rest := by
  obtain ⟨c, cs, hc, -⟩ := exists_print_compound h
  obtain ⟨hne, htag, -⟩ := h
  have hlt : rest.length < ((Compound.mk tag parts).print ++ rest).length := by
    rw [hc, List.length_append, List.length_cons]
    omega
  refine reads_compound?_iff.mpr ⟨tag, printParts parts ++ rest, parts, ?_, hparts, hlt, rfl⟩
  rw [Compound.print, List.append_assoc]
  refine reads_tag_print htag (endsName_printParts hr.1 parts) ?_
  rintro rfl
  -- without a tag a test comes first, and what opens it begins no tag
  obtain ⟨part, parts, rfl⟩ := List.exists_cons_of_ne_nil (hne.resolve_left (by simp))
  rw [printParts, List.cons_append]
  rcases part.opening_eq with h | h | h | h <;> rw [h] <;> exact ⟨by simp, rfl⟩

/-! ## Lists, chains and conjunctions -/

mutual

/-- **A test is read back**, up to a text that no name goes on with. -/
theorem reads_part_print : ∀ (part : Simple), part.WellFormed → ∀ rest, EndsName rest →
    Reads (part? part.opening (part.body ++ rest)) part rest
  | .id name, h, _, hr => reads_part?_id_iff.mpr ⟨name, reads_name_escape h hr, rfl⟩
  | .className token, h, _, hr =>
    reads_part?_className_iff.mpr ⟨token, reads_name_escape h hr, rfl⟩
  | .attribute name test ignoreCase, h, rest, _ => by
    refine reads_part?_attribute_iff.mpr ?_
    rw [Simple.body, List.append_assoc]
    exact reads_attribute_print h rest
  | .pseudo state, _, _, hr => reads_pseudo_print state hr
  | .not alternatives, h, rest, _ => by
    have hlist := reads_list_print alternatives h.1 h.2 (')' :: rest) (by simp) rfl
    rw [Simple.body, List.append_assoc, List.append_assoc]
    exact reads_not_part hlist (skipBlanks_cons (by decide))

/-- The tests of a compound are read back. -/
theorem reads_parts_print : ∀ (parts : List Simple), PartsWellFormed parts → ∀ rest,
    EndsCompound rest → Reads (parts? (printParts parts ++ rest)) parts rest
  | [], _, _, hr => reads_parts?_iff.mpr (.inl ⟨hr.2, rfl, rfl⟩)
  | part :: parts, h, rest, hr => by
    have hpart := reads_part_print part h.1 _ (endsName_printParts hr.1 parts)
    have hparts := reads_parts_print parts h.2 rest hr
    refine reads_parts?_iff.mpr (.inr ⟨part.opening, _, part, _, parts, ?_, hpart, hparts, rfl⟩)
    rw [printParts, List.cons_append, List.append_assoc]
    exact reads_opening?_iff.mpr ⟨part.opening_eq, rfl⟩

/-- A chain is read up to the text behind it, and reading goes on there. -/
theorem reads_complex_print : ∀ (chain : Complex), chain.WellFormed → ∀ rest, EndsCompound rest →
    ∀ {r : List Char} {whole : Complex}, Reads (chain? chain rest) whole r →
      Reads (complex? (chain.print ++ rest)) whole r
  | .single (.mk tag parts), h, rest, hr, _, _, hw => by
    have hcompound := reads_compound_print h hr (reads_parts_print parts h.2.2 rest hr)
    exact reads_complex?_iff.mpr ⟨.mk tag parts, rest, hcompound, hw⟩
  | .join left k (.mk tag parts), h, rest, hr, _, _, hw => by
    have hright := reads_compound_print h.2 hr (reads_parts_print parts h.2.2.2 rest hr)
    obtain ⟨c, cs, hc, hstart⟩ := exists_print_compound h.2
    rw [Complex.print, List.append_assoc, List.cons_append]
    -- the left part is read in front of the sign, where it goes on with the right one
    refine reads_complex_print left h.1 _ (endsCompound_sign k _) ?_
    rw [hc, List.cons_append] at hright ⊢
    obtain ⟨hk, hends⟩ := reads_combinator_sign k hstart (cs ++ rest)
    exact reads_chain?_iff.mpr (.inr ⟨hends, k, _, .mk tag parts, rest, hk, hright, hw⟩)

/-- **Alternatives are read back**, up to a closing parenthesis or the end of the text. -/
theorem reads_list_print : ∀ (chains : List Complex), chains ≠ [] → AllWellFormed chains → ∀ rest,
    rest.head? ≠ some ',' → endsChain rest = true →
      Reads (list? (printAlternatives chains ++ rest)) chains rest
  | [], hne, _, _, _, _ => absurd rfl hne
  | [chain], _, h, rest, hcomma, hr => by
    have hskip := skipBlanks_of_endsChain hr
    have hfirst := reads_complex_print chain h.1 rest (endsCompound_of_endsChain hr)
      (reads_chain_end hr chain)
    refine reads_list?_iff.mpr ⟨chain, rest, ?_, .inl ⟨by rwa [hskip], rfl, hskip.symm⟩⟩
    rw [printAlternatives, skipBlanks_print_complex h.1]
    exact hfirst
  | chain :: next :: chains, _, h, rest, hcomma, hr => by
    have hothers := reads_list_print (next :: chains) (by simp) h.2 rest hcomma hr
    -- the first alternative ends in front of the comma
    have hends : endsChain (',' :: (printAlternatives (next :: chains) ++ rest)) = true := rfl
    have hfirst := reads_complex_print chain h.1 _ (endsCompound_of_endsChain hends)
      (reads_chain_end hends chain)
    refine reads_list?_iff.mpr ⟨chain, _, ?_, .inr ⟨_, next :: chains,
      skipBlanks_of_endsChain hends, hothers, rfl⟩⟩
    rw [printAlternatives, List.append_assoc, skipBlanks_print_complex h.1]
    · exact hfirst
    · simp

end

/-- **A test alone is a selector**: what is read behind the character that opens it. -/
theorem parse_of_reads_part {opening : Char} {s : List Char} {part : Simple}
    (ho : opening = '#' ∨ opening = '.' ∨ opening = '[' ∨ opening = ':')
    (h : Reads (part? opening s) part []) :
    SelectorList.parse (String.ofList (opening :: s)) = .ok ⟨[.single (.mk none [part])]⟩ := by
  have hparts : Reads (parts? (opening :: s)) [part] [] :=
    reads_parts?_iff.mpr (.inr ⟨opening, s, part, [], [], reads_opening?_iff.mpr ⟨ho, rfl⟩, h,
      reads_parts?_iff.mpr (.inl ⟨rfl, rfl, rfl⟩), rfl⟩)
  have htag : Reads (tag? (opening :: s)) none (opening :: s) := by
    refine reads_tag?_iff.mpr (.inr (.inr ⟨?_, ?_, rfl, rfl⟩))
    · rcases ho with rfl | rfl | rfl | rfl <;> simp
    · rcases ho with rfl | rfl | rfl | rfl <;> rfl
  have hcomplex : Reads (complex? (opening :: s)) (.single (.mk none [part])) [] :=
    reads_complex?_iff.mpr ⟨.mk none [part], [], reads_compound?_iff.mpr
      ⟨none, opening :: s, [part], htag, hparts, by simp, rfl⟩, reads_chain_end rfl _⟩
  have hskip : skipBlanks (opening :: s) = opening :: s := by
    rcases ho with rfl | rfl | rfl | rfl <;> exact skipBlanks_cons (by decide)
  refine parse_eq_ok_iff.mpr ⟨[], ?_, rfl⟩
  rw [String.toList_ofList]
  refine reads_list?_iff.mpr ⟨_, [], ?_, .inl ⟨by simp, rfl, rfl⟩⟩
  rwa [hskip]

/-- The written form of a test is a selector. -/
theorem parse_opening_body (part : Simple) (h : part.WellFormed) :
    SelectorList.parse (String.ofList (part.opening :: part.body)) =
      .ok ⟨[.single (.mk none [part])]⟩ := by
  have hpart := reads_part_print part h [] endsName_nil
  rw [List.append_nil] at hpart
  exact parse_of_reads_part part.opening_eq hpart

/-- **Reading and printing agree**: what a text means is well formed, and every well-formed list is
read off its written form, however deep its lists are nested. -/
theorem parse_print :
    (∀ (text : String) (l : SelectorList), SelectorList.parse text = .ok l → l.WellFormed) ∧
      ∀ l : SelectorList, l.WellFormed → SelectorList.parse l.print = .ok l := by
  refine ⟨fun text l h => SelectorList.wellFormed_of_parse h, fun l h => ?_⟩
  have hlist := reads_list_print l.alternatives h.1 h.2 [] (by simp) rfl
  rw [List.append_nil] at hlist
  refine parse_eq_ok_iff.mpr ⟨[], ?_, rfl⟩
  rw [SelectorList.print, String.toList_ofList]
  exact hlist

/-- The selector `ul > li:not([lang |= "en" i], .a *:not(#b)), :root`. -/
def foreignItems : SelectorList where
  alternatives :=
    [.join (.single (.mk (some "ul") [])) .child
        (.mk (some "li") [.not [.single (.mk none [.attribute "lang" (some (.dashMatch, "en")) true]),
          .join (.single (.mk none [.className "a"])) .descendant
            (.mk (some "*") [.not [.single (.mk none [.id "b"])]])]]),
      .single (.mk none [.pseudo .root])]

theorem parse_print_foreignItems :
    SelectorList.parse foreignItems.print = .ok foreignItems ∧ foreignItems.WellFormed := by
  have hname : ∀ name ∈ ["ul", "li", "lang", "a", "b"], IsName name := by
    intro name h
    simp only [List.mem_cons, List.not_mem_nil, or_false] at h
    rcases h with rfl | rfl | rfl | rfl | rfl <;> exact isName_iff.mpr ⟨_, _, rfl, rfl⟩
  have hwf : foreignItems.WellFormed := by
    simp [foreignItems, SelectorList.WellFormed, AllWellFormed, Complex.WellFormed,
      Compound.WellFormed, PartsWellFormed, Simple.WellFormed, IsTag, IsSmall, hname]
  have h := parse_print.2 foreignItems hwf
  exact ⟨h, parse_print.1 _ _ h⟩

end WebPage.Selector
