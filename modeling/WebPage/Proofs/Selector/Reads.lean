import WebPage.Selector.Parser

/-!
# What the readers of selectors read

A reader hands on the proof that it leaves less than it was given. For what is read that proof does
not matter: a reading is a value and a rest. For each reader there is one statement that says what
it reads in terms of the readers that it calls, in both directions, so that what is proved about
selectors opens no reader again.

## Main definitions

* `Reads x a rest`: the reader has read `a` and left `rest`

## Main results

* `reads_list?_iff`, `reads_complex?_iff`, `reads_chain?_iff`, `reads_compound?_iff`,
  `reads_parts?_iff`: the layers of a selector list
* `reads_part?_id_iff`, `reads_part?_className_iff`, `reads_part?_attribute_iff`,
  `reads_part?_pseudo_iff`: the tests, by the character that opens them
* `reads_attribute?_iff`: what stands between brackets
* `reads_name?_iff`, `reads_tag?_iff`: names
* `parse_eq_ok_iff`: a whole text
-/

namespace WebPage.Selector

open Text (Reading)

/-- A reader has read `a` and left `rest`. -/
def Reads {α : Type} {n : Nat} (x : Option (Reading α n)) (a : α) (rest : List Char) : Prop :=
  ∃ h, x = some ⟨a, rest, h⟩

section Reads

variable {α β γ : Type} {m n : Nat} {a : α} {b : β} {r : List Char} {x : Option (Reading α n)}
  {y : Reading α n}

/-- What is left is shorter than what was given. -/
theorem Reads.short (h : Reads x a r) : r.length < n := h.1

theorem reads_of_eq_some (h : x = some y) : Reads x y.value y.rest := ⟨y.short, h⟩

@[simp] theorem not_reads_none : ¬ Reads (none : Option (Reading α n)) a r := by
  rintro ⟨_, h⟩
  cases h

@[simp] theorem reads_some_iff : Reads (some y) a r ↔ y.value = a ∧ y.rest = r := by
  obtain ⟨v, rest, h⟩ := y
  constructor
  · rintro ⟨_, he⟩
    cases he
    exact ⟨rfl, rfl⟩
  · rintro ⟨rfl, rfl⟩
    exact ⟨h, rfl⟩

/-- A reader reads one thing. -/
theorem Reads.unique {a' : α} {r' : List Char} (h : Reads x a r) (h' : Reads x a' r') :
    a = a' ∧ r = r' := by
  obtain ⟨_, rfl⟩ := h
  obtain ⟨_, h'⟩ := h'
  cases h'
  exact ⟨rfl, rfl⟩

/-- One reader after another. -/
theorem reads_bind_iff {o : Option γ} {f : γ → Option (Reading α n)} :
    Reads (o >>= f) a r ↔ ∃ y, o = some y ∧ Reads (f y) a r := by
  cases o with
  | none => simp [bind]
  | some y =>
    refine ⟨fun h => ⟨y, rfl, h⟩, ?_⟩
    rintro ⟨_, ⟨⟩, h⟩
    exact h

/-- A reader whose value goes through a function. -/
theorem reads_map_iff {f : γ → Reading α n} {o : Option γ} :
    Reads (o.map f) a r ↔ ∃ y, o = some y ∧ (f y).value = a ∧ (f y).rest = r := by
  cases o with
  | none => simp
  | some y => simp

/-- A reader whose value goes through a function, and whose rest stays. -/
theorem reads_map_value_iff {o : Option (Reading β m)} {f : Reading β m → Reading α n} {g : β → α}
    (hvalue : ∀ y, (f y).value = g y.value) (hrest : ∀ y, (f y).rest = y.rest) :
    Reads (o.map f) a r ↔ ∃ b, Reads o b r ∧ a = g b := by
  rw [reads_map_iff]
  constructor
  · rintro ⟨y, rfl, rfl, rfl⟩
    exact ⟨y.value, reads_some_iff.mpr ⟨rfl, (hrest y).symm⟩, hvalue y⟩
  · rintro ⟨b, ⟨h, rfl⟩, rfl⟩
    exact ⟨_, rfl, hvalue _, hrest _⟩

end Reads

/-! ## Characters and blanks -/

variable {s r rest : List Char} {c d : Char}

theorem reads_char?_iff {u : Unit} : Reads (char? c s) u r ↔ s = c :: r := by
  cases s with
  | nil => simp [char?]
  | cons d s =>
    rw [char?]
    split
    next h => simp [h, Reading.single]
    next h => simp [h]

theorem char?_eq_none_iff : char? c s = none ↔ s.head? ≠ some c := by
  cases s with
  | nil => simp [char?]
  | cons d s => simp [char?]

theorem skipBlanks_cons (h : Text.isBlank c = false) : skipBlanks (c :: s) = c :: s :=
  List.dropWhile_cons_of_neg (by simp [h])

@[simp] theorem skipBlanks_nil : skipBlanks [] = [] := rfl

/-! ## Lists, chains and compounds -/

/-- A list is a chain, or a chain, a comma and a list. -/
theorem reads_list?_iff {cs : List Complex} :
    Reads (list? s) cs r ↔ ∃ first r₁, Reads (complex? (skipBlanks s)) first r₁ ∧
      (((skipBlanks r₁).head? ≠ some ',' ∧ cs = [first] ∧ r = skipBlanks r₁) ∨
        ∃ r₂ others, skipBlanks r₁ = ',' :: r₂ ∧ Reads (list? r₂) others r ∧
          cs = first :: others) := by
  rw [list?, reads_bind_iff]
  constructor
  · rintro ⟨⟨first, r₁, h₁⟩, hf, h⟩
    refine ⟨first, r₁, ⟨h₁, hf⟩, ?_⟩
    dsimp only [takingBlanks, afterBlanks, Reading.weaken] at h
    split at h
    next hc =>
      obtain ⟨rfl, rfl⟩ := reads_some_iff.mp h
      exact .inl ⟨char?_eq_none_iff.mp hc, rfl, rfl⟩
    next comma hc =>
      obtain ⟨⟨others, r₃, h₃⟩, ho, h⟩ := reads_bind_iff.mp h
      obtain ⟨rfl, rfl⟩ := reads_some_iff.mp h
      exact .inr ⟨comma.rest, others, reads_char?_iff.mp (reads_of_eq_some hc), ⟨h₃, ho⟩, rfl⟩
  · rintro ⟨first, r₁, ⟨h₁, hf⟩, h⟩
    refine ⟨⟨first, r₁, h₁⟩, hf, ?_⟩
    dsimp only [takingBlanks, afterBlanks, Reading.weaken]
    rcases h with ⟨hne, rfl, rfl⟩ | ⟨r₂, others, hr₂, ⟨h₃, ho⟩, rfl⟩
    · rw [char?_eq_none_iff.mpr hne]
      exact reads_some_iff.mpr ⟨rfl, rfl⟩
    · obtain ⟨h₂, hc⟩ : Reads (char? ',' (skipBlanks r₁)) () r₂ := reads_char?_iff.mpr hr₂
      rw [hc]
      exact reads_bind_iff.mpr ⟨⟨others, r, h₃⟩, ho, reads_some_iff.mpr ⟨rfl, rfl⟩⟩

theorem reads_complex?_iff {whole : Complex} :
    Reads (complex? s) whole r ↔
      ∃ first r₁, Reads (compound? s) first r₁ ∧ Reads (chain? (.single first) r₁) whole r := by
  rw [complex?, reads_bind_iff]
  constructor
  · rintro ⟨⟨first, r₁, h₁⟩, hf, h⟩
    obtain ⟨⟨w, r₂, h₂⟩, hw, h⟩ := reads_bind_iff.mp h
    obtain ⟨rfl, rfl⟩ := reads_some_iff.mp h
    exact ⟨first, r₁, ⟨h₁, hf⟩, h₂, hw⟩
  · rintro ⟨first, r₁, ⟨h₁, hf⟩, h₂, hw⟩
    refine ⟨⟨first, r₁, h₁⟩, hf, ?_⟩
    exact reads_bind_iff.mpr ⟨⟨whole, r, h₂⟩, hw, reads_some_iff.mpr ⟨rfl, rfl⟩⟩

/-- A combinator is a sign, or blanks with no sign behind them. -/
theorem reads_combinator?_iff {k : Combinator} :
    Reads (combinator? s) k r ↔ (∃ r₁, Reads (sign? (skipBlanks s)) k r₁ ∧ r = skipBlanks r₁) ∨
      (sign? (skipBlanks s) = none ∧ (skipBlanks s).length < s.length ∧ k = .descendant ∧
        r = skipBlanks s) := by
  unfold combinator?
  split
  next sign hs =>
    rw [reads_some_iff]
    constructor
    · rintro ⟨rfl, rfl⟩
      exact .inl ⟨sign.rest, reads_of_eq_some hs, rfl⟩
    · rintro (⟨r₁, ⟨h₁, hr⟩, rfl⟩ | ⟨hn, -⟩)
      · obtain rfl := Option.some.inj (hs.symm.trans hr)
        exact ⟨rfl, rfl⟩
      · rw [hs] at hn
        cases hn
  next hs =>
    split
    next hlt => simp [hs, hlt, eq_comm]
    next hlt => simp [hs, hlt]

/-- A chain ends, or it goes on with a combinator and a compound. -/
theorem reads_chain?_iff {left whole : Complex} :
    Reads (chain? left s) whole r ↔
      (endsChain (skipBlanks s) = true ∧ whole = left ∧ r = skipBlanks s) ∨
        (endsChain (skipBlanks s) = false ∧ ∃ k r₁ right r₂, Reads (combinator? s) k r₁ ∧
          Reads (compound? r₁) right r₂ ∧ Reads (chain? (.join left k right) r₂) whole r) := by
  rw [chain?]
  cases he : endsChain (skipBlanks s) with
  | true =>
    rw [if_pos rfl, reads_some_iff]
    simp [takingBlanks, Reading.nothing, eq_comm]
  | false =>
    rw [if_neg Bool.false_ne_true, reads_bind_iff]
    simp only [Bool.false_eq_true, false_and, true_and, false_or]
    constructor
    · rintro ⟨⟨k, r₁, h₁⟩, hk, h⟩
      obtain ⟨⟨right, r₂, h₂⟩, hright, h⟩ := reads_bind_iff.mp h
      obtain ⟨⟨w, r₃, h₃⟩, hw, h⟩ := reads_bind_iff.mp h
      obtain ⟨rfl, rfl⟩ := reads_some_iff.mp h
      exact ⟨k, r₁, right, r₂, ⟨h₁, hk⟩, ⟨h₂, hright⟩, h₃, hw⟩
    · rintro ⟨k, r₁, right, r₂, ⟨h₁, hk⟩, ⟨h₂, hright⟩, h₃, hw⟩
      refine ⟨⟨k, r₁, h₁⟩, hk, reads_bind_iff.mpr ⟨⟨right, r₂, h₂⟩, hright, ?_⟩⟩
      exact reads_bind_iff.mpr ⟨⟨whole, r, h₃⟩, hw, reads_some_iff.mpr ⟨rfl, rfl⟩⟩

/-- A compound takes a character at least. -/
theorem reads_compound?_iff {compound : Compound} :
    Reads (compound? s) compound r ↔ ∃ tag r₁ parts, Reads (tag? s) tag r₁ ∧
      Reads (parts? r₁) parts r ∧ r.length < s.length ∧ compound = .mk tag parts := by
  rw [compound?, reads_bind_iff]
  constructor
  · rintro ⟨⟨tag, r₁, h₁⟩, ht, h⟩
    obtain ⟨⟨parts, r₂, h₂⟩, hp, h⟩ := reads_bind_iff.mp h
    split at h
    next hlt =>
      obtain ⟨rfl, rfl⟩ := reads_some_iff.mp h
      exact ⟨tag, r₁, parts, ⟨h₁, ht⟩, ⟨h₂, hp⟩, hlt, rfl⟩
    next => exact absurd h not_reads_none
  · rintro ⟨tag, r₁, parts, ⟨h₁, ht⟩, ⟨h₂, hp⟩, hlt, rfl⟩
    refine ⟨⟨tag, r₁, h₁⟩, ht, reads_bind_iff.mpr ⟨⟨parts, r, h₂⟩, hp, ?_⟩⟩
    rw [dif_pos hlt]
    exact reads_some_iff.mpr ⟨rfl, rfl⟩

theorem reads_opening?_iff {opening : Char} :
    Reads (opening? s) opening r ↔
      (opening = '#' ∨ opening = '.' ∨ opening = '[' ∨ opening = ':') ∧ s = opening :: r := by
  cases s with
  | nil => simp [opening?]
  | cons c s =>
    rw [opening?]
    simp only [Bool.or_eq_true, decide_eq_true_eq, or_assoc]
    split
    next h =>
      rw [reads_some_iff]
      constructor
      · rintro ⟨rfl, rfl⟩
        exact ⟨h, rfl⟩
      · rintro ⟨-, ⟨⟩⟩
        exact ⟨rfl, rfl⟩
    next h =>
      constructor
      · exact fun h => absurd h not_reads_none
      · rintro ⟨ho, ⟨⟩⟩
        exact absurd ho h

theorem reads_parts?_iff {parts : List Simple} :
    Reads (parts? s) parts r ↔ (opening? s = none ∧ parts = [] ∧ r = s) ∨
      ∃ opening r₁ part r₂ others, Reads (opening? s) opening r₁ ∧
        Reads (part? opening r₁) part r₂ ∧ Reads (parts? r₂) others r ∧
          parts = part :: others := by
  rw [parts?]
  split
  next ho =>
    rw [reads_some_iff, ho]
    simp [Reading.nothing, eq_comm]
  next y ho =>
    rw [reads_bind_iff]
    constructor
    · rintro ⟨⟨part, r₂, h₂⟩, hp, h⟩
      obtain ⟨⟨others, r₃, h₃⟩, hothers, h⟩ := reads_bind_iff.mp h
      obtain ⟨rfl, rfl⟩ := reads_some_iff.mp h
      exact .inr ⟨y.value, y.rest, part, r₂, others, reads_of_eq_some ho, ⟨h₂, hp⟩,
        ⟨h₃, hothers⟩, rfl⟩
    · rintro (⟨hn, -⟩ | ⟨opening, r₁, part, r₂, others, ⟨h₁, hy⟩, ⟨h₂, hp⟩, ⟨h₃, hothers⟩, rfl⟩)
      · exact absurd (ho.symm.trans hn) (by simp)
      · obtain rfl := Option.some.inj (ho.symm.trans hy)
        refine ⟨⟨part, r₂, h₂⟩, hp, reads_bind_iff.mpr ⟨⟨others, r, h₃⟩, hothers, ?_⟩⟩
        exact reads_some_iff.mpr ⟨rfl, rfl⟩

/-! ## Tests -/

theorem reads_part?_id_iff {part : Simple} :
    Reads (part? '#' s) part r ↔ ∃ name, Reads (name? s) name r ∧ part = .id name := by
  rw [part?]
  exact reads_map_value_iff (fun _ => rfl) fun _ => rfl

theorem reads_part?_className_iff {part : Simple} :
    Reads (part? '.' s) part r ↔ ∃ name, Reads (name? s) name r ∧ part = .className name := by
  rw [part?]
  exact reads_map_value_iff (fun _ => rfl) fun _ => rfl

theorem reads_part?_attribute_iff {part : Simple} :
    Reads (part? '[' s) part r ↔ Reads (attribute? s) part r := by
  rw [part?]

/-- After a colon stands the name of a state, or `not` with a list in parentheses. -/
theorem reads_part?_pseudo_iff {part : Simple} :
    Reads (part? ':' s) part r ↔ ∃ name r₁, Reads (name? s) name r₁ ∧
      ((Text.lowerAscii name = "not" ∧ ∃ r₂ inner r₃, r₁ = '(' :: r₂ ∧
          Reads (list? r₂) inner r₃ ∧ skipBlanks r₃ = ')' :: r ∧ part = .not inner) ∨
        (Text.lowerAscii name ≠ "not" ∧ ∃ state,
          PseudoClass.ofName? (Text.lowerAscii name) = some state ∧ r = r₁ ∧
            part = .pseudo state)) := by
  rw [part?.eq_4 _ _ (by decide) (by decide) (by decide), reads_bind_iff]
  constructor
  · rintro ⟨⟨name, r₁, h₁⟩, hn, h⟩
    refine ⟨name, r₁, ⟨h₁, hn⟩, ?_⟩
    dsimp only at h
    split at h
    next hnot =>
      obtain ⟨⟨u, r₂, h₂⟩, hp, h⟩ := reads_bind_iff.mp h
      obtain ⟨⟨inner, r₃, h₃⟩, hi, h⟩ := reads_bind_iff.mp h
      obtain ⟨⟨v, r₄, h₄⟩, hc, h⟩ := reads_bind_iff.mp h
      obtain ⟨rfl, rfl⟩ := reads_some_iff.mp h
      exact .inl ⟨hnot, r₂, inner, r₃, reads_char?_iff.mp ⟨h₂, hp⟩, ⟨h₃, hi⟩,
        reads_char?_iff.mp ⟨h₄, hc⟩, rfl⟩
    next hnot =>
      obtain ⟨state, hs, h⟩ := reads_bind_iff.mp h
      obtain ⟨rfl, rfl⟩ := reads_some_iff.mp h
      exact .inr ⟨hnot, state, hs, rfl, rfl⟩
  · rintro ⟨name, r₁, ⟨h₁, hn⟩, h⟩
    refine ⟨⟨name, r₁, h₁⟩, hn, ?_⟩
    dsimp only
    rcases h with ⟨hnot, r₂, inner, r₃, hr₂, ⟨h₃, hi⟩, hr₃, rfl⟩ | ⟨hnot, state, hs, rfl, rfl⟩
    · obtain ⟨h₂, hp⟩ : Reads (char? '(' r₁) () r₂ := reads_char?_iff.mpr hr₂
      obtain ⟨h₄, hc⟩ : Reads (char? ')' (skipBlanks r₃)) () r := reads_char?_iff.mpr hr₃
      rw [if_pos hnot]
      refine reads_bind_iff.mpr ⟨⟨(), r₂, h₂⟩, hp, reads_bind_iff.mpr ⟨⟨inner, r₃, h₃⟩, hi, ?_⟩⟩
      exact reads_bind_iff.mpr ⟨⟨(), r, h₄⟩, hc, reads_some_iff.mpr ⟨rfl, rfl⟩⟩
    · rw [if_neg hnot]
      exact reads_bind_iff.mpr ⟨state, hs, reads_some_iff.mpr ⟨rfl, rfl⟩⟩

/-! ## Attribute selectors -/

/-- The case flag at the front of a text, with the blanks after it; a text without one is left as
it is. -/
def flagAt (s : List Char) : Bool × List Char :=
  match caseFlag? s with
  | some flag => (flag.value, skipBlanks flag.rest)
  | none => (false, s)

theorem withCaseFlag_eq {α : Type} {n : Nat} (y : Reading α n) :
    ((withCaseFlag y).value, (withCaseFlag y).rest) = flagAt y.rest := by
  unfold withCaseFlag flagAt
  cases caseFlag? y.rest <;> rfl

/-- A flag and the closing bracket, after what `y` has read. -/
theorem reads_flag_iff {α : Type} {n : Nat} {y : Reading α n} {f : Bool → Simple}
    {part : Simple} :
    Reads (do
        let bracket ← char? ']' (withCaseFlag y).rest
        some (((withCaseFlag y).andThen bracket).map fun _ => f (withCaseFlag y).value)) part r ↔
      ∃ flag, flagAt y.rest = (flag, ']' :: r) ∧ part = f flag := by
  rw [reads_bind_iff, ← withCaseFlag_eq]
  constructor
  · rintro ⟨⟨u, r₁, h₁⟩, hb, h⟩
    obtain ⟨rfl, rfl⟩ := reads_some_iff.mp h
    exact ⟨_, congrArg (Prod.mk _) (reads_char?_iff.mp ⟨h₁, hb⟩), rfl⟩
  · rintro ⟨flag, hflag, rfl⟩
    obtain ⟨rfl, hrest⟩ := Prod.mk.inj hflag
    obtain ⟨h₁, hb⟩ : Reads (char? ']' (withCaseFlag y).rest) () r := reads_char?_iff.mpr hrest
    exact ⟨⟨(), r, h₁⟩, hb, reads_some_iff.mpr ⟨rfl, rfl⟩⟩

/-- Between brackets stands a name, alone or with a comparison, a value and perhaps a flag. -/
theorem reads_attribute?_iff {part : Simple} :
    Reads (attribute? s) part r ↔ ∃ name r₁, Reads (name? (skipBlanks s)) name r₁ ∧
      ((skipBlanks r₁ = ']' :: r ∧ part = .attribute (Text.lowerAscii name) none false) ∨
        ((skipBlanks r₁).head? ≠ some ']' ∧ ∃ test r₂ value r₃ flag,
          Reads (test? (skipBlanks r₁)) test r₂ ∧ Reads (value? (skipBlanks r₂)) value r₃ ∧
            flagAt (skipBlanks r₃) = (flag, ']' :: r) ∧
              part = .attribute (Text.lowerAscii name) (some (test, value)) flag)) := by
  rw [attribute?, reads_bind_iff]
  constructor
  · rintro ⟨⟨name, r₁, h₁⟩, hn, h⟩
    refine ⟨name, r₁, ⟨h₁, hn⟩, ?_⟩
    dsimp only [takingBlanks, afterBlanks, Reading.weaken] at h
    split at h
    next bracket hc =>
      obtain ⟨rfl, rfl⟩ := reads_some_iff.mp h
      exact .inl ⟨reads_char?_iff.mp (reads_of_eq_some hc), rfl⟩
    next hc =>
      obtain ⟨⟨test, r₂, h₂⟩, ht, h⟩ := reads_bind_iff.mp h
      obtain ⟨⟨value, r₃, h₃⟩, hv, h⟩ := reads_bind_iff.mp h
      obtain ⟨flag, hflag, rfl⟩ := reads_flag_iff.mp h
      exact .inr ⟨char?_eq_none_iff.mp hc, test, r₂, value, r₃, flag, ⟨h₂, ht⟩, ⟨h₃, hv⟩, hflag,
        rfl⟩
  · rintro ⟨name, r₁, ⟨h₁, hn⟩, h⟩
    refine ⟨⟨name, r₁, h₁⟩, hn, ?_⟩
    dsimp only [takingBlanks, afterBlanks, Reading.weaken]
    rcases h with ⟨hb, rfl⟩ | ⟨hne, test, r₂, value, r₃, flag, ⟨h₂, ht⟩, ⟨h₃, hv⟩, hflag, rfl⟩
    · obtain ⟨h₂, hc⟩ : Reads (char? ']' (skipBlanks r₁)) () r := reads_char?_iff.mpr hb
      rw [hc]
      exact reads_some_iff.mpr ⟨rfl, rfl⟩
    · rw [char?_eq_none_iff.mpr hne]
      refine reads_bind_iff.mpr ⟨⟨test, r₂, h₂⟩, ht, reads_bind_iff.mpr ⟨⟨value, r₃, h₃⟩, hv, ?_⟩⟩
      exact reads_flag_iff.mpr ⟨flag, hflag, rfl⟩

/-! ## Names -/

/-- A backslash takes the character behind it into a name. -/
theorem reads_nameChars?_escaped_iff {cs : List Char} :
    Reads (nameChars? ('\\' :: c :: s)) cs r ↔ ∃ cs', Reads (nameChars? s) cs' r ∧ cs = c :: cs' := by
  rw [nameChars?]
  exact reads_map_value_iff (fun _ => rfl) fun _ => rfl

/-- A character of a name needs no backslash. -/
theorem reads_nameChars?_plain_iff {cs : List Char} (hc : isNameChar c = true) :
    Reads (nameChars? (c :: s)) cs r ↔ ∃ cs', Reads (nameChars? s) cs' r ∧ cs = c :: cs' := by
  have hb : c ≠ '\\' := by
    rintro rfl
    revert hc
    decide
  rw [nameChars?.eq_4 _ _ hb, if_pos hc]
  exact reads_map_value_iff (fun _ => rfl) fun _ => rfl

/-- A quoted value ends with its quote. -/
theorem reads_quoted?_closed_iff {cs : List Char} :
    Reads (quoted? c (c :: s)) cs r ↔ cs = [] ∧ r = s := by
  rw [quoted?.eq_def]
  simp [Reading.single, eq_comm]

/-- A backslash takes the character behind it into a quoted value. -/
theorem reads_quoted?_escaped_iff {cs : List Char} (hd : '\\' ≠ d) :
    Reads (quoted? d ('\\' :: c :: s)) cs r ↔
      ∃ cs', Reads (quoted? d s) cs' r ∧ cs = c :: cs' := by
  rw [quoted?, if_neg hd, if_pos rfl]
  exact reads_map_value_iff (fun _ => rfl) fun _ => rfl

/-- Every other character of a quoted value stands for itself. -/
theorem reads_quoted?_plain_iff {cs : List Char} (hd : c ≠ d) (hb : c ≠ '\\') :
    Reads (quoted? d (c :: s)) cs r ↔ ∃ cs', Reads (quoted? d s) cs' r ∧ cs = c :: cs' := by
  rw [quoted?.eq_def]
  simp only [if_neg hd, if_neg hb]
  exact reads_map_value_iff (fun _ => rfl) fun _ => rfl

/-- A value that starts with a quote goes on to the next one. -/
theorem reads_value?_quoted_iff {value : String} (hc : c = '"' ∨ c = '\'') :
    Reads (value? (c :: s)) value r ↔
      ∃ cs, Reads (quoted? c s) cs r ∧ value = String.ofList cs := by
  rw [value?, if_pos (by simpa using hc)]
  exact reads_map_value_iff (fun _ => rfl) fun _ => rfl

/-- Every other value is a name. -/
theorem value?_eq_name? (hc : ¬ (c = '"' ∨ c = '\'')) : value? (c :: s) = name? (c :: s) := by
  rw [value?, if_neg (by simpa using hc)]

/-- A name takes a character at least, and its first one is no digit. -/
theorem reads_name?_iff {name : String} :
    Reads (name? s) name r ↔ ∃ c cs, Reads (nameChars? s) (c :: cs) r ∧ c.isDigit = false ∧
      r.length < s.length ∧ name = String.ofList (c :: cs) := by
  unfold name?
  split
  next hn => simp [hn]
  next y hn =>
    obtain ⟨v, r₁, h₁⟩ := y
    constructor
    · intro h
      split at h
      next hlt =>
        split at h
        next => exact absurd h not_reads_none
        next c cs hv =>
          split at h
          next => exact absurd h not_reads_none
          next hd =>
            obtain ⟨rfl, rfl⟩ := reads_some_iff.mp h
            obtain rfl : v = c :: cs := hv
            exact ⟨c, cs, ⟨h₁, hn⟩, by simpa using hd, hlt, rfl⟩
      next => exact absurd h not_reads_none
    · rintro ⟨c, cs, ⟨h₂, hcs⟩, hd, hlt, rfl⟩
      obtain ⟨rfl, rfl⟩ : v = c :: cs ∧ r₁ = r := by simpa using hn.symm.trans hcs
      rw [dif_pos hlt]
      simp [hd]

/-- The tag of a compound is the star, a name in small letters, or missing. -/
theorem reads_tag?_iff {tag : Option String} :
    Reads (tag? s) tag r ↔ (s = '*' :: r ∧ tag = some "*") ∨
      (∃ name, s.head?.any isNameStart = true ∧ Reads (name? s) name r ∧
        tag = some (Text.lowerAscii name)) ∨
      (s.head? ≠ some '*' ∧ s.head?.any isNameStart = false ∧ tag = none ∧ r = s) := by
  unfold tag?
  split
  next => simp [Reading.nothing, eq_comm]
  next s => simp [Reading.longer, Reading.single, isNameStart, eq_comm, and_comm]
  next c s hstar =>
    have hc : c ≠ '*' := hstar
    simp only [List.head?_cons, Option.any_some, List.cons.injEq, hc, false_and, false_or, ne_eq,
      Option.some.injEq, not_false_eq_true, true_and]
    split
    next hstart =>
      rw [reads_map_iff]
      simp only [hstart, Bool.true_eq_false, false_and, or_false, true_and]
      constructor
      · rintro ⟨⟨name, r₁, h₁⟩, hn, rfl, rfl⟩
        exact ⟨name, ⟨h₁, hn⟩, rfl⟩
      · rintro ⟨name, ⟨h₁, hn⟩, rfl⟩
        exact ⟨⟨name, r, h₁⟩, hn, rfl, rfl⟩
    next hstart => simp [hstart, Reading.nothing, eq_comm]

/-! ## Whole texts -/

theorem parse_eq_ok_iff {text : String} {l : SelectorList} :
    SelectorList.parse text = .ok l ↔
      ∃ r, Reads (list? text.toList) l.alternatives r ∧ skipBlanks r = [] := by
  unfold SelectorList.parse
  cases hl : list? text.toList with
  | none => simp
  | some y =>
    obtain ⟨alternatives⟩ := l
    simp only [reads_some_iff, List.isEmpty_iff]
    constructor
    · intro h
      split at h
      next hr =>
        cases h
        exact ⟨y.rest, ⟨rfl, rfl⟩, hr⟩
      next => cases h
    · rintro ⟨r, ⟨rfl, rfl⟩, hr⟩
      rw [if_pos hr]

/-- What cannot be read is named by the failure. -/
theorem eq_invalidSelector_of_parse {text : String} {e : DomError}
    (h : SelectorList.parse text = .error e) : e = .invalidSelector text := by
  unfold SelectorList.parse at h
  split at h
  · split at h
    · cases h
    · exact (Except.error.inj h).symm
  · exact (Except.error.inj h).symm

end WebPage.Selector
