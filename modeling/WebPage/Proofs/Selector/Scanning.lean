import WebPage.Proofs.Selector.SafeRuns
import WebPage.Proofs.Selector.Taken

/-!
# The scanner of selectors is safe

Every part of the scanner is safe at every position where a character begins or the text ends, and
takes there what the reader of the same part takes from the rest. There is one statement for each
part. A loop needs one for its turns; the turns of a list, of a chain and of a compound read lists
in parentheses, which they leave to a scanner that is known to be safe on shorter rests. So the
scanner of lists, which serves itself, is safe by induction on the rest.

## Main definitions

* `Scanner.appended`: what is taken behind a row
* `Scanner.Serves`: scanners that are safe on the lists of shorter rests

## Main results

* `Scanner.takes_name`, `Scanner.takes_quoted`, `Scanner.takes_bracketed`: names, quoted values and
  attribute selectors
* `Scanner.takes_compound`, `Scanner.takes_complex`, `Scanner.takes_list`: the layers of a selector
  list
* `scan_safe`: a whole text, of any characters
-/

namespace WebPage.Selector

namespace Scanner

variable {src : String} {α : Type} {p : Nat} {r : List Char} {c : Char}

/-! ## Rows

A loop collects what its turns read, while a reader goes on with the rest first. -/

/-- What is taken behind a row. -/
def appended (before : List α) (o : Option (List α × List Char)) : Option (List α × List Char) :=
  o.map (Prod.map (before ++ ·) id)

@[simp] theorem appended_some (before after : List α) (r : List Char) :
    appended before (some (after, r)) = some (before ++ after, r) := rfl

@[simp] theorem appended_nil (o : Option (List α × List Char)) : appended [] o = o := by
  cases o <;> rfl

/-- The first of what is taken may as well be the last before it. -/
theorem appended_cons (before : List α) (a : α) (o : Option (List α × List Char)) :
    appended before (o.map (Prod.map (a :: ·) id)) = appended (before ++ [a]) o := by
  cases o <;> simp [appended, Prod.map]

/-! ## Names and quoted values -/

theorem safe_nameTurn {out : List Char} (hat : At src p r) :
    ((nameTurn out : Scanner src _).run p).Safe src
      (GoesOn (fun out r => appended out (taken (nameChars? r))) out r)
      (appended out (taken (nameChars? r)) = none) := by
  refine (takes_peek hat).then fun q hat => ?_
  cases r with
  | nil => exact safe_pure hat (by simp [GoesOn, taken_nameChars?_of_endsName endsName_nil])
  | cons c r =>
    dsimp only [List.head?_cons]
    by_cases hb : c = '\\'
    · subst hb
      rw [if_pos rfl]
      refine (takes_bump hat).then fun q hat => (takes_bump hat).then fun q hat => ?_
      cases r with
      | nil => exact safe_refuse rfl
      | cons d r =>
        refine safe_pure hat ⟨by simp only [List.length_cons, List.tail_cons]; omega, ?_⟩
        simp only [taken_nameChars?_escaped, appended_cons, List.tail_cons]
    rw [if_neg hb]
    by_cases hc : isNameChar c = true
    · rw [if_pos hc]
      refine (takes_bump hat).then fun q hat => safe_pure hat ⟨Nat.lt_succ_self _, ?_⟩
      simp only [taken_nameChars?_plain hc hb, appended_cons, List.tail_cons]
    · rw [if_neg hc]
      have hends : EndsName (c :: r) := endsName_cons (by simpa using hc) hb
      exact safe_pure hat (by simp [GoesOn, taken_nameChars?_of_endsName hends])

theorem takes_name (hat : At src p r) :
    ((name : Scanner src String).run p).Takes src (taken (name? r)) := by
  have hloop := takes_turns .name (fun _ _ _ hat _ => safe_nameTurn hat) [] hat le_rfl
  rw [appended_nil] at hloop
  rw [taken_name?]
  refine hloop.bind fun cs r' q _ hat => ?_
  cases cs with
  | nil => exact safe_refuse rfl
  | cons c cs =>
    dsimp only
    by_cases hc : c.isDigit = true
    · rw [if_pos hc, if_pos hc]
      exact safe_refuse rfl
    · rw [if_neg hc, if_neg hc]
      exact safe_pure hat rfl

theorem safe_quotedTurn (quote : Char) {out : List Char} (hat : At src p r) :
    ((quotedTurn quote out : Scanner src _).run p).Safe src
      (GoesOn (fun out r => appended out (taken (quoted? quote r))) out r)
      (appended out (taken (quoted? quote r)) = none) := by
  refine (takes_bump hat).then fun q hat => ?_
  cases r with
  | nil => exact safe_refuse rfl
  | cons c r =>
    dsimp only [List.head?_cons]
    by_cases hc : c = quote
    · subst hc
      rw [if_pos rfl]
      exact safe_pure hat (by simp [GoesOn, taken_quoted?_closed])
    rw [if_neg hc]
    by_cases hb : c = '\\'
    · subst hb
      rw [if_pos rfl]
      refine (takes_bump hat).then fun q hat => ?_
      cases r with
      | nil => exact safe_refuse (by simp [appended, taken, quoted?, hc])
      | cons d r =>
        refine safe_pure hat ⟨by simp only [List.length_cons, List.tail_cons]; omega, ?_⟩
        simp only [taken_quoted?_escaped hc, appended_cons, List.tail_cons]
    · rw [if_neg hb]
      refine safe_pure hat ⟨Nat.lt_succ_self _, ?_⟩
      simp only [taken_quoted?_plain hc hb, appended_cons, List.tail_cons]

theorem takes_quoted {quote : Char} (hat : At src p r) :
    ((quoted quote : Scanner src String).run p).Takes src
      ((taken (quoted? quote r)).map (Prod.map String.ofList id)) := by
  have hloop := takes_turns .quoted
    (fun _ _ _ hat _ => safe_quotedTurn quote hat) [] hat le_rfl
  rw [appended_nil] at hloop
  exact hloop.map

/-! ## Attribute selectors -/

theorem takes_value (hat : At src p r) :
    ((value : Scanner src String).run p).Takes src (taken (value? r)) := by
  refine (takes_peek hat).then fun q hat => ?_
  cases r with
  | nil => exact safe_refuse rfl
  | cons c r =>
    dsimp only [List.head?_cons]
    rw [taken_value?_cons]
    by_cases hc : c = '"' ∨ c = '\''
    · rw [if_pos hc, if_pos hc]
      exact (takes_bump hat).then fun q hat => takes_quoted hat
    · rw [if_neg hc, if_neg hc]
      exact takes_name hat

theorem takes_caseFlag (hat : At src p r) :
    ((caseFlag : Scanner src Bool).run p).Takes src (some ((flagAt r).1, (flagAt r).2)) := by
  show ((caseFlag : Scanner src Bool).run p).Takes src (some (flagAt r))
  refine (takes_peek hat).then fun q hat => ?_
  cases r with
  | nil => exact safe_pure hat rfl
  | cons c r =>
    dsimp only [List.head?_cons]
    rw [flagAt_cons]
    by_cases hc : c = 'i' ∨ c = 'I' ∨ c = 's' ∨ c = 'S'
    · rw [if_pos hc]
      refine (takes_bump hat).then fun q hat => (takes_blanks hat).then fun q hat => ?_
      refine safe_pure hat ?_
      by_cases hi : c = 'i' ∨ c = 'I'
      · simp [hi]
      · have hs : c = 's' ∨ c = 'S' := by grind
        simp [hi, hs]
    · rw [if_neg hc]
      simp only [not_or] at hc
      exact safe_pure hat (by simp [hc])

theorem takes_comparison {attr : String} {test : AttributeTest} (hat : At src p r) :
    ((comparison attr test : Scanner src Simple).run p).Takes src (compared attr test r) := by
  refine (takes_blanks hat).then fun q hat => ?_
  refine (takes_value hat).bind fun value r₁ q _ hat => ?_
  refine (takes_blanks hat).then fun q hat => (takes_caseFlag hat).then fun q hat => ?_
  refine safe_eat_bind hat (fun t q ht hat => ?_) fun hne q hat => ?_
  · exact safe_pure hat (by simp [ht])
  · exact safe_refuse (by simp [hne])

theorem takes_bracketed (hat : At src p r) :
    ((bracketed : Scanner src Simple).run p).Takes src (taken (attribute? r)) := by
  rw [taken_attribute?]
  refine (takes_blanks hat).then fun q hat => (takes_name hat).bind fun name r₁ q _ hat => ?_
  refine (takes_blanks hat).then fun q hat => (takes_bump hat).then fun q hat => ?_
  dsimp only
  generalize skipBlanks r₁ = s at hat
  cases s with
  | nil => exact safe_refuse rfl
  | cons c s =>
    simp only [List.head?_cons, List.tail_cons, taken_test?_cons, Option.some.injEq] at hat ⊢
    by_cases hbracket : c = ']'
    · rw [if_pos hbracket, if_pos hbracket]
      exact safe_pure hat rfl
    rw [if_neg hbracket, if_neg hbracket]
    by_cases hequals : c = '='
    · rw [if_pos hequals, if_pos hequals]
      exact takes_comparison hat
    rw [if_neg hequals, if_neg hequals]
    cases signed? c with
    | none => exact safe_refuse rfl
    | some test =>
      refine safe_eat_bind hat (fun t q ht hat' => ?_) fun hne q hat' => ?_
      · subst ht
        exact takes_comparison hat'
      · exact safe_refuse (by simp [hne])

/-! ## Lists, chains and compounds -/

/-- A scanner that is safe on every rest shorter than this, and takes the list there. -/
def Serves (inner : Scanner src (List Complex)) (n : Nat) : Prop :=
  ∀ {p r}, At src p r → r.length < n → (inner.run p).Takes src (taken (list? r))

section Layers

variable {inner : Scanner src (List Complex)} {n : Nat}

theorem takes_pseudo (hinner : Serves inner n) (hat : At src p r) (hn : r.length ≤ n) :
    ((pseudo inner).run p).Takes src (taken (part? ':' r)) := by
  rw [taken_part?_pseudo]
  refine (takes_name hat).bind fun name r₁ q h hat => ?_
  have hshort := (taken_eq_some_iff.mp h).short
  dsimp only
  by_cases hnot : Text.lowerAscii name = "not"
  · rw [if_pos hnot, if_pos hnot]
    refine safe_eat_bind hat (fun t q ht hat' => ?_) fun hne q hat' => ?_
    · subst ht
      -- the list in parentheses has lost the name and the opening parenthesis
      have hlt : t.length < n := by
        rw [List.length_cons] at hshort
        omega
      rw [List.head?_cons, if_pos rfl, List.tail_cons]
      refine (hinner hat' hlt).bind fun alternatives r₂ q _ hat => ?_
      refine (takes_blanks hat).then fun q hat => ?_
      refine safe_eat_bind hat (fun t q ht hat => ?_) fun hne q hat => ?_
      · exact safe_pure hat (by simp [ht])
      · exact safe_refuse (by simp [hne])
    · exact safe_refuse (by simp [hne])
  · rw [if_neg hnot, if_neg hnot]
    cases PseudoClass.ofName? (Text.lowerAscii name) with
    | none => exact safe_refuse rfl
    | some state => exact safe_pure hat rfl

theorem takes_tag (hat : At src p r) :
    ((tag : Scanner src _).run p).Takes src (taken (tag? r)) := by
  rw [taken_tag?]
  refine safe_eat_bind hat (fun t q ht hat => ?_) fun hne q hat => ?_
  · exact safe_pure hat (by simp [ht])
  rw [if_neg hne]
  refine (takes_peek hat).then fun q hat => ?_
  by_cases hstart : r.head?.any isNameStart = true
  · rw [if_pos hstart, if_pos hstart]
    exact (takes_name hat).map
  · rw [if_neg hstart, if_neg hstart]
    exact safe_pure hat rfl

theorem takes_part (hinner : Serves inner n) (hc : c = '#' ∨ c = '.' ∨ c = '[' ∨ c = ':')
    (hat : At src p r) (hn : r.length ≤ n) :
    ((part inner c).run p).Takes src (taken (part? c r)) := by
  rcases hc with rfl | rfl | rfl | rfl
  · rw [taken_part?_id]
    exact (takes_name hat).map
  · rw [taken_part?_className]
    exact (takes_name hat).map
  · rw [part?]
    exact takes_bracketed hat
  · exact takes_pseudo hinner hat hn

theorem safe_compoundTurn (hinner : Serves inner n) {parts : List Simple} (hat : At src p r)
    (hn : r.length ≤ n) : ((compoundTurn inner parts).run p).Safe src
      (GoesOn (fun parts r => appended parts (taken (parts? r))) parts r)
      (appended parts (taken (parts? r)) = none) := by
  refine (takes_peek hat).then fun q hat => ?_
  cases r with
  | nil => exact safe_pure hat (by simp [GoesOn, taken_parts?_of_opening?_eq_none (s := []) rfl])
  | cons c r =>
    dsimp only [List.head?_cons]
    rw [List.length_cons] at hn
    by_cases hc : c = '#' ∨ c = '.' ∨ c = '[' ∨ c = ':'
    · rw [if_pos hc]
      have htaken := taken_parts?_cons hc (s := r)
      refine (takes_bump hat).then fun q (hat : At src q r) => ?_
      refine (takes_part hinner hc hat (Nat.le_of_succ_le hn)).safe_bind
        (fun h => by rw [htaken, h]; rfl) fun part r₁ q h hat => ?_
      have hshort := (taken_eq_some_iff.mp h).short
      refine safe_pure hat ⟨Nat.lt_succ_of_lt hshort, ?_⟩
      simp only [htaken, h, Option.bind_some, appended_cons]
    · rw [if_neg hc]
      have hnone : opening? (c :: r) = none := opening?_eq_none_iff.mpr (by simpa using hc)
      exact safe_pure hat (by simp [GoesOn, taken_parts?_of_opening?_eq_none hnone])

theorem takes_compound (hinner : Serves inner n) (hat : At src p r) (hn : r.length ≤ n) :
    ((compound inner).run p).Takes src (taken (compound? r)) := by
  rw [taken_compound?]
  refine (takes_tag hat).bind fun tag r₁ q h hat => ?_
  have hshort := (taken_eq_some_iff.mp h).short
  have hloop := takes_turns .compound
    (fun _ _ _ hat hn => safe_compoundTurn hinner hat hn) [] hat (by omega)
  rw [appended_nil] at hloop
  refine hloop.bind fun parts r₂ q _ hat => ?_
  dsimp only
  cases tag.isNone && parts.isEmpty with
  | true => exact safe_refuse rfl
  | false => exact safe_pure hat rfl

theorem takes_passSign {k : Combinator} (hat : At src p r) :
    ((passSign k : Scanner src Unit).run p).Takes src
      (some ((), if k = .descendant then r else skipBlanks r.tail)) := by
  unfold passSign
  split
  next => exact safe_pure hat rfl
  next =>
    refine (takes_bump hat).then fun q hat => (takes_blanks hat).then fun q hat => ?_
    exact safe_pure hat rfl

theorem safe_complexTurn (hinner : Serves inner n) {left : Complex} (hat : At src p r)
    (hn : r.length ≤ n) : ((complexTurn inner left).run p).Safe src
      (GoesOn (fun left r => taken (chain? left r)) left r) (taken (chain? left r) = none) := by
  have hskip := length_skipBlanks_le r
  have htaken : taken (chain? left r) = _ := taken_chain?
  refine (takes_blanks hat).then fun q hat => (takes_peek hat).then fun q hat => ?_
  rcases hlink : link? (decide ((skipBlanks r).length < r.length)) (skipBlanks r).head?
    with _ | _ | k
  all_goals rw [hlink] at htaken
  · exact safe_refuse htaken
  · exact safe_pure hat htaken
  · have hpass := takes_passSign (k := k) hat
    have hlength : (if k = .descendant then skipBlanks r
        else skipBlanks (skipBlanks r).tail).length ≤ r.length := by
      have hskip' := length_skipBlanks_le (skipBlanks r).tail
      rw [List.length_tail] at hskip'
      split <;> omega
    dsimp only at htaken
    -- from here on it does not matter where the compound begins
    generalize (if k = .descendant then skipBlanks r
      else skipBlanks (skipBlanks r).tail) = r₁ at htaken hpass hlength
    refine hpass.then fun q hat => ?_
    refine (takes_compound hinner hat (by omega)).safe_bind (fun h => by rw [htaken, h]; rfl)
      fun right r₂ q h hat => ?_
    have hshort := (taken_eq_some_iff.mp h).short
    rw [h, Option.bind_some] at htaken
    exact safe_pure hat ⟨by omega, htaken⟩

theorem takes_complex (hinner : Serves inner n) (hat : At src p r) (hn : r.length ≤ n) :
    ((complex inner).run p).Takes src (taken (complex? r)) := by
  rw [taken_complex?]
  refine (takes_compound hinner hat hn).bind fun first r₁ q h hat => ?_
  have hshort := (taken_eq_some_iff.mp h).short
  have hloop := takes_turns .complex
    (fun _ _ _ hat hn => safe_complexTurn hinner hat hn) (.single first) hat (by omega)
  exact hloop

theorem safe_listTurn (hinner : Serves inner n) {before : List Complex} (hat : At src p r)
    (hn : r.length ≤ n) : ((listTurn inner before).run p).Safe src
      (GoesOn (fun before r => appended before (taken (list? r))) before r)
      (appended before (taken (list? r)) = none) := by
  have hskip := length_skipBlanks_le r
  have htaken : taken (list? r) = _ := taken_list?
  refine (takes_blanks hat).then fun q hat => ?_
  refine (takes_complex hinner hat (by omega)).safe_bind (fun h => by rw [htaken, h]; rfl)
    fun chain r₁ q h hat => ?_
  have hshort := (taken_eq_some_iff.mp h).short
  have hskip₁ := length_skipBlanks_le r₁
  rw [h, Option.bind_some] at htaken
  dsimp only at htaken
  refine (takes_blanks hat).then fun q hat => ?_
  refine safe_eat_bind hat (fun t q ht hat => ?_) fun hne q hat => ?_
  · rw [ht, List.length_cons] at hskip₁
    rw [ht, List.head?_cons, if_pos rfl, List.tail_cons] at htaken
    refine safe_pure hat ⟨by omega, ?_⟩
    simp only [htaken, appended_cons]
  · rw [if_neg hne] at htaken
    exact safe_pure hat (by simp [GoesOn, htaken])

end Layers

/-- **Lists**: a list in parentheses has a shorter rest, so the scanner of lists serves itself. -/
theorem takes_list (hat : At src p r) :
    ((list : Scanner src _).run p).Takes src (taken (list? r)) := by
  show (listFrom src p).Takes src (taken (list? r))
  obtain ⟨m, hlen⟩ : ∃ m, r.length = m := ⟨_, rfl⟩
  induction m using Nat.strong_induction_on generalizing p r with
  | _ m ih =>
    rw [listFrom]
    have hserves : Serves (⟨fun start =>
        if _h : p < start ∧ start ≤ src.utf8ByteSize then
          (listFrom src start).after [.nested p start]
        else ⟨[.nested p start], .stuck⟩⟩ : Scanner src (List Complex)) m := by
      intro q r' hat' hshort
      have hlt : p < q := hat.lt hat' (hlen ▸ hshort)
      dsimp only
      rw [dif_pos ⟨hlt, hat'.le_size⟩]
      exact (ih _ hshort hat' rfl).after hlt
    have hloop := takes_turns .list
      (fun _ _ _ hat hn => safe_listTurn hserves hat hn) [] hat hlen.le
    rwa [appended_nil] at hloop

theorem takes_whole (hat : At src p r) : ((whole : Scanner src _).run p).Takes src
    ((taken (list? r)).bind fun (alternatives, r) =>
      if skipBlanks r = [] then some (⟨alternatives⟩, []) else none) := by
  refine (takes_list hat).bind fun alternatives r₁ q _ hat => ?_
  refine (takes_blanks hat).then fun q hat => (takes_position hat).then fun q' hat' => ?_
  dsimp only
  by_cases hend : skipBlanks r₁ = []
  · rw [if_pos hend, if_pos (hat.size_le_iff.mpr hend)]
    exact safe_pure hat' (by rw [hend])
  · rw [if_neg hend, if_neg (mt hat.size_le_iff.mp hend)]
    exact safe_refuse rfl

end Scanner

/-! ## Whole texts -/

/-- **A selector list is read safely by byte positions**, whatever the text is. The scanner looks at
the text only where a character begins or the text ends, every turn of a loop but the last moves the
position on, and every list in parentheses begins behind the beginning of the list around it. So the
scan comes to an end, and what it ends with is what reading the text gives. -/
theorem scan_safe (text : String) :
    (∀ pos, .peek pos ∈ (SelectorList.scan text).events →
      pos ≤ text.utf8ByteSize ∧ String.Pos.Raw.IsValid text ⟨pos⟩) ∧
    (∀ loop start stop, .turn loop start stop ∈ (SelectorList.scan text).events → start < stop) ∧
    (∀ outer inner, .nested outer inner ∈ (SelectorList.scan text).events → outer < inner) ∧
    (SelectorList.scan text).outcome =
      match SelectorList.parse text with
      | .ok l => .read l text.utf8ByteSize
      | .error _ => .refused := by
  have hscan : (SelectorList.scan text).Takes text _ := Scanner.takes_whole (Scanner.at_zero text)
  refine ⟨fun _ => hscan.events _, fun _ _ _ => hscan.events _, fun _ _ => hscan.events _, ?_⟩
  have hout := hscan.outcome
  cases ho : (SelectorList.scan text).outcome with
  | read l q =>
    rw [ho] at hout
    obtain ⟨rest, hat, htaken⟩ := hout
    obtain ⟨⟨alternatives, r⟩, hl, h⟩ := Option.bind_eq_some_iff.mp htaken
    obtain ⟨hr, h⟩ := Option.ite_none_right_eq_some.mp h
    cases h
    have hparse : SelectorList.parse text = .ok ⟨alternatives⟩ :=
      parse_eq_ok_iff.mpr ⟨r, taken_eq_some_iff.mp hl, hr⟩
    have hend : q = text.utf8ByteSize := by simpa using hat.size
    rw [hparse, hend]
  | refused =>
    rw [ho] at hout
    cases hparse : SelectorList.parse text with
    | ok l =>
      obtain ⟨r, hread, hr⟩ := parse_eq_ok_iff.mp hparse
      have hnone : ((taken (list? text.toList)).bind _) = none := hout
      rw [taken_eq_some_iff.mpr hread, Option.bind_some] at hnone
      cases (if_pos hr).symm.trans hnone
    | error e => rfl
  | stuck =>
    rw [ho] at hout
    exact hout.elim

end WebPage.Selector
