import Mathlib
import WebPage.Style.PropertyName

/-!
# The one form of a property name

A property has many spellings and one form. The names that are a form of their own are of two
shapes: custom properties, which are kept as they are, and names with hyphens. Each of them is its
own form, and no spelling has another form. So a property that is written under one spelling is
found under every other one of it.

The camel-case spelling of a name with hyphens is one of its spellings, with one exception: the
spelling of `css-float` is what `float` goes by.

## Main definitions

* `IsCustomProperty`, `IsHyphenProperty`: the two shapes
* `IsPropertyForm`: a name of either shape
* `camelCase`: the camel-case spelling of a name with hyphens

## Main results

* `isCustomName_iff`, `isHyphenated_iff`: the checks of a name ask for its shape
* `spellOut_capitalize`: what camel case leaves out is spelled out again
* `normalizeProperty_eq_ok_iff`: the forms of all spellings
* `normalizeProperty_canonical`: the form of a name is its own form, and the same for its camel case
-/

namespace WebPage.Style

variable {c : Char} {cs out : List Char} {n k : String}

/-! ## The shapes -/

/-- Two hyphens and a text, without blanks and without the characters that end a declaration. -/
def IsCustomProperty (k : String) : Prop :=
  ∃ rest, k.toList = '-' :: '-' :: rest ∧ rest ≠ [] ∧
    ∀ c ∈ rest, Text.isBlank c = false ∧ c ∉ [';', ':', '\x7b', '\x7d', '!']

/-- The characters of a name with hyphens. -/
def IsHyphenChar (c : Char) : Prop :=
  c.isLower = true ∨ c.isDigit = true ∨ c = '-'

/-- Words of small letters and digits with single hyphens between. The first word starts with a
letter, and one hyphen may stand before it. -/
structure IsHyphenProperty (k : String) : Prop where
  chars : ∀ c ∈ k.toList, IsHyphenChar c
  start : ∃ c rest, c.isLower = true ∧ (k.toList = c :: rest ∨ k.toList = '-' :: c :: rest)
  single : ¬ ['-', '-'] <:+: k.toList
  ends : ¬ ['-'] <:+ k.toList

/-- A name that is the form of some property. -/
def IsPropertyForm (k : String) : Prop :=
  IsCustomProperty k ∨ IsHyphenProperty k

/-- A text without its hyphens before letters; a capital takes the place of each with its letter. -/
def capitalize : List Char → List Char
  | [] => []
  | '-' :: c :: cs => if c.isAlpha then c.toUpper :: capitalize cs else '-' :: capitalize (c :: cs)
  | c :: cs => c :: capitalize cs

/-- The camel-case spelling of a name. A hyphen that it starts with stays. -/
def camelCase (k : String) : String :=
  match k.toList with
  | [] => ""
  | c :: cs => String.ofList (c :: capitalize cs)

/-! ## The checks of a name -/

theorem isCustomName_iff : isCustomName k.toList = true ↔ IsCustomProperty k := by
  unfold isCustomName IsCustomProperty
  split
  next rest hk => simp [hk, endsCustomName, and_assoc]
  next hk =>
    simp only [Bool.false_eq_true, false_iff, not_exists, not_and]
    intro rest hrest
    exact absurd hrest (hk rest)

theorem hasDoubleHyphen_iff : hasDoubleHyphen cs = true ↔ ['-', '-'] <:+: cs := by
  fun_induction hasDoubleHyphen cs with
  | case1 cs => simpa using List.infix_append' [] ['-', '-'] cs
  | case2 c cs hne ih =>
    have hhead : ¬ ['-', '-'] <+: c :: cs := by
      rintro ⟨rest, hrest⟩
      obtain ⟨rfl, rfl⟩ := List.cons.inj hrest
      exact hne rest rfl rfl
    rw [ih, List.infix_cons_iff, or_iff_right hhead]
  | case3 => simp

/-- Behind the hyphens at its start, a name without two hyphens side by side goes on with a letter
just if it starts with one, or with one hyphen and a letter. -/
theorem start_iff (h : ¬ ['-', '-'] <:+: cs) :
    (cs.dropWhile (· = '-')).head?.any Char.isLower = true ↔
      ∃ c rest, c.isLower = true ∧ (cs = c :: rest ∨ cs = '-' :: c :: rest) := by
  cases cs with
  | nil => simp
  | cons c cs =>
    by_cases hc : c = '-'
    · subst hc
      -- there is no second hyphen
      have hd : ∀ d ∈ cs.head?, d ≠ '-' := by
        rintro _ hd rfl
        obtain ⟨rest, rfl⟩ := List.head?_eq_some_iff.mp hd
        exact h (List.infix_append' [] ['-', '-'] rest)
      cases cs with
      | nil => simp
      | cons d cs =>
        have hd : d ≠ '-' := hd d rfl
        have hlower : ∀ c, c.isLower = true → '-' ≠ c := by
          rintro _ hc rfl
          cases hc
        rw [List.dropWhile_cons_of_pos (by simp), List.dropWhile_cons_of_neg (by simpa using hd)]
        constructor
        · exact fun hd => ⟨d, cs, hd, .inr rfl⟩
        · rintro ⟨c, rest, hc, he | he⟩
          · exact absurd (List.cons.inj he).1 (hlower c hc)
          · obtain ⟨-, he⟩ := List.cons.inj he
            exact (List.cons.inj he).1 ▸ hc
    · simp [hc]

theorem isHyphenated_iff (hk : ∀ c ∈ k.toList, IsHyphenChar c) :
    isHyphenated k.toList = true ↔ IsHyphenProperty k := by
  have hsingle : hasDoubleHyphen k.toList = false ↔ ¬ ['-', '-'] <:+: k.toList := by
    rw [← hasDoubleHyphen_iff, Bool.not_eq_true]
  rw [isHyphenated, Bool.and_eq_true, Bool.and_eq_true, bne_iff_ne, Bool.not_eq_true', hsingle,
    ne_eq, ← List.singleton_suffix_iff_getLast?_eq_some]
  constructor
  · rintro ⟨⟨hstart, hends⟩, hs⟩
    exact ⟨hk, (start_iff hs).mp hstart, hs, hends⟩
  · intro h
    exact ⟨⟨(start_iff h.single).mpr h.start, h.ends⟩, h.single⟩

/-! ## Spelling out -/

/-- What is spelled out has no capitals. -/
theorem isHyphenChar_of_spellOut {first : Bool} (h : spellOut first cs = some out) :
    ∀ c ∈ out, IsHyphenChar c := by
  induction cs generalizing first out with
  | nil =>
    obtain rfl := Option.some.inj h
    exact nofun
  | cons c cs ih =>
    rw [spellOut] at h
    split at h
    next hupper =>
      obtain ⟨rest, hrest, rfl⟩ := Option.map_eq_some_iff.mp h
      have hlower : c.toLower.isLower = true := by
        rw [Char.isLower_toLower_eq_isAlpha, Char.isAlpha, hupper, Bool.true_or]
      intro d hd
      rcases List.mem_append.mp hd with hd | hd
      · cases first with
        | true => cases hd
        | false => exact .inr (.inr (List.mem_singleton.mp hd))
      · rcases List.mem_cons.mp hd with rfl | hd
        · exact .inl hlower
        · exact ih hrest d hd
    next =>
      split at h
      next hc =>
        obtain ⟨rest, hrest, rfl⟩ := Option.map_eq_some_iff.mp h
        simp only [Bool.or_eq_true, decide_eq_true_eq, Bool.and_eq_true] at hc
        intro d hd
        rcases List.mem_cons.mp hd with rfl | hd
        · rcases hc with (hl | hh) | ⟨hd, -⟩
          · exact .inl hl
          · exact .inr (.inr hh)
          · exact .inr (.inl hd)
        · exact ih hrest d hd
      next => cases h

theorem IsHyphenChar.isUpper_eq_false (hc : IsHyphenChar c) : c.isUpper = false := by
  rcases hc with hc | hc | rfl
  · simpa using Char.not_isUpper_of_isLower hc
  · unfold Char.isDigit Char.isUpper at *
    grind
  · rfl

/-- A character that is no capital is spelled as it is, unless it is a digit and the first one. -/
theorem spellOut_cons (first : Bool) (hc : IsHyphenChar c)
    (hfirst : first = true → c.isDigit = false) :
    spellOut first (c :: cs) = (spellOut false cs).map (c :: ·) := by
  have hkept : (c.isLower || decide (c = '-') || (c.isDigit && !first)) = true := by
    rcases hc with hc | hc | rfl
    · simp [hc]
    · cases first with
      | true => exact absurd (hfirst rfl) (by simp [hc])
      | false => simp [hc]
    · simp
  rw [spellOut, hc.isUpper_eq_false, if_neg Bool.false_ne_true, if_pos hkept]

/-- A name without capitals is spelled as it is, unless a digit comes first. -/
theorem spellOut_self (first : Bool) (hcs : ∀ c ∈ cs, IsHyphenChar c)
    (hfirst : first = true → ∀ c ∈ cs.head?, c.isDigit = false) : spellOut first cs = some cs := by
  induction cs generalizing first with
  | nil => rfl
  | cons c cs ih =>
    obtain ⟨hc, hcs⟩ := List.forall_mem_cons.mp hcs
    rw [spellOut_cons first hc fun hf => hfirst hf c rfl, ih false hcs (by simp), Option.map_some]

/-- **What camel case leaves out is spelled out again.** -/
theorem spellOut_capitalize (hcs : ∀ c ∈ cs, IsHyphenChar c) :
    spellOut false (capitalize cs) = some cs := by
  fun_induction capitalize cs with
  | case1 => rfl
  | case2 c cs halpha ih =>
    obtain ⟨-, hcs⟩ := List.forall_mem_cons.mp hcs
    obtain ⟨hc, hcs⟩ := List.forall_mem_cons.mp hcs
    -- the letter is small, so it is what its capital becomes
    have hsmall : c.toUpper.toLower = c := by
      rw [Char.toLower_toUpper_eq_toLower]
      exact Char.toLower_eq_of_not_isUpper (by simp [hc.isUpper_eq_false])
    rw [spellOut, Char.isUpper_toUpper_eq_isAlpha, if_pos halpha, ih hcs, hsmall]
    rfl
  | case3 c cs halpha ih =>
    obtain ⟨hc, hcs⟩ := List.forall_mem_cons.mp hcs
    rw [spellOut_cons false hc (by simp), ih hcs, Option.map_some]
  | case4 c cs hne ih =>
    obtain ⟨hc, hcs⟩ := List.forall_mem_cons.mp hcs
    rw [spellOut_cons false hc (by simp), ih hcs, Option.map_some]

/-- Hyphens at the start stay. -/
theorem prefix_of_spellOut (hcs : ['-', '-'] <+: cs) (h : spellOut true cs = some out) :
    ['-', '-'] <+: out := by
  have hhyphen : IsHyphenChar '-' := .inr (.inr rfl)
  obtain ⟨rest, rfl⟩ := hcs
  rw [List.cons_append, spellOut_cons true hhyphen fun _ => rfl, List.cons_append,
    spellOut_cons false hhyphen fun _ => rfl, Option.map_map] at h
  obtain ⟨out, -, rfl⟩ := Option.map_eq_some_iff.mp h
  exact List.prefix_append ['-', '-'] out

/-! ## Forms of names -/

/-- A name that is spelled out has a form if the outcome is a name with hyphens. -/
theorem spelled_eq_ok_iff {e : DomError} :
    (match spellOut true cs with
      | some out => if isHyphenated out then .ok (String.ofList out) else .error e
      | none => .error e) = Except.ok k ↔
        spellOut true cs = some k.toList ∧ IsHyphenProperty k := by
  cases hout : spellOut true cs with
  | none => simp
  | some out =>
    have hform : isHyphenated out = true ↔ IsHyphenProperty (String.ofList out) := by
      rw [← isHyphenated_iff, String.toList_ofList]
      rw [String.toList_ofList]
      exact isHyphenChar_of_spellOut hout
    dsimp only
    split
    next hh =>
      rw [Except.ok.injEq, Option.some.injEq]
      constructor
      · rintro rfl
        exact ⟨String.toList_ofList.symm, hform.mp hh⟩
      · rintro ⟨rfl, -⟩
        exact String.ofList_toList
    next hh =>
      simp only [reduceCtorEq, false_iff, not_and, Option.some.injEq]
      rintro rfl hk
      rw [String.ofList_toList] at hform
      exact hh (hform.mpr hk)

/-- **The forms of all spellings.** A custom property is its own form; every other name is spelled
out, and the outcome is a name with hyphens. -/
theorem normalizeProperty_eq_ok_iff : normalizeProperty n = .ok k ↔
    (IsCustomProperty n ∧ k = n) ∨
      (¬ ['-', '-'] <+: n.toList ∧ ((n = "cssFloat" ∧ k = "float") ∨
        (n ≠ "cssFloat" ∧ spellOut true n.toList = some k.toList ∧ IsHyphenProperty k))) := by
  rw [← isCustomName_iff]
  unfold normalizeProperty
  split
  next rest hn =>
    have hhead : ['-', '-'] <+: n.toList := hn ▸ List.prefix_append ['-', '-'] rest
    simp only [hhead, not_true_eq_false, false_and, or_false]
    split
    next hc => simp [hc, eq_comm]
    next hc => simp [hc]
  next hn =>
    have hhead : ¬ ['-', '-'] <+: n.toList := by
      rintro ⟨rest, hrest⟩
      exact hn rest hrest.symm
    have hcustom : isCustomName n.toList = false := by
      unfold isCustomName
      split
      next rest hrest => exact absurd hrest (hn rest)
      next => rfl
    simp only [hcustom, Bool.false_eq_true, false_and, false_or, hhead, not_false_eq_true,
      true_and]
    split
    next hf => simp [hf, eq_comm]
    next hf =>
      refine spelled_eq_ok_iff.trans ?_
      simp [hf]

namespace IsHyphenProperty

/-- The first character of a name with hyphens is a letter or a hyphen, so it is no digit. -/
theorem exists_start (h : IsHyphenProperty k) : ∃ c cs, k.toList = c :: cs ∧ c.isDigit = false := by
  obtain ⟨c, rest, hc, hk | hk⟩ := h.start
  · refine ⟨c, rest, hk, ?_⟩
    unfold Char.isLower Char.isDigit at *
    grind
  · exact ⟨'-', c :: rest, hk, rfl⟩

theorem spellOut_eq (h : IsHyphenProperty k) : spellOut true k.toList = some k.toList := by
  obtain ⟨c, cs, hk, hc⟩ := h.exists_start
  refine spellOut_self true h.chars ?_
  rw [hk]
  rintro - _ ⟨⟩
  exact hc

end IsHyphenProperty

theorem isHyphenProperty_iff : IsHyphenProperty k ↔
    spellOut true k.toList = some k.toList ∧ isHyphenated k.toList = true := by
  constructor
  · exact fun h => ⟨h.spellOut_eq, (isHyphenated_iff h.chars).mpr h⟩
  · rintro ⟨hout, hk⟩
    exact (isHyphenated_iff (isHyphenChar_of_spellOut hout)).mp hk

instance : DecidablePred IsHyphenProperty := fun _ =>
  decidable_of_iff _ isHyphenProperty_iff.symm

namespace IsHyphenProperty

/-- **A name with hyphens is its own form.** -/
theorem normalizeProperty_eq (h : IsHyphenProperty k) : normalizeProperty k = .ok k := by
  refine normalizeProperty_eq_ok_iff.mpr (.inr ⟨fun hp => h.single hp.isInfix, .inr ⟨?_, ?_, h⟩⟩)
  · rintro rfl
    exact absurd (h.chars 'F' (by decide)).isUpper_eq_false (by decide)
  · exact h.spellOut_eq

/-- What camel case makes of a name is spelled out to that name. -/
theorem spellOut_camelCase (h : IsHyphenProperty k) :
    spellOut true (camelCase k).toList = some k.toList := by
  obtain ⟨c, cs, hk, hc⟩ := h.exists_start
  have hchars := h.chars
  rw [hk] at hchars
  obtain ⟨hchar, hchars⟩ := List.forall_mem_cons.mp hchars
  unfold camelCase
  rw [hk]
  dsimp only
  rw [String.toList_ofList, spellOut_cons true hchar fun _ => hc, spellOut_capitalize hchars,
    Option.map_some]

/-- **The camel-case spelling of a name has the name as its form**, unless it is the spelling that
`float` goes by. -/
theorem normalizeProperty_camelCase (h : IsHyphenProperty k) (hk : k ≠ "css-float") :
    normalizeProperty (camelCase k) = .ok k := by
  have hout := h.spellOut_camelCase
  refine normalizeProperty_eq_ok_iff.mpr (.inr ⟨fun hp => ?_, .inr ⟨fun hfloat => ?_, hout, h⟩⟩)
  · exact h.single (prefix_of_spellOut hp hout).isInfix
  · rw [hfloat] at hout
    exact hk (String.toList_inj.mp (Option.some.inj hout).symm)

end IsHyphenProperty

/-- The form of a name is of one of the two shapes. -/
theorem isPropertyForm_of_eq_ok (h : normalizeProperty n = .ok k) : IsPropertyForm k := by
  rcases normalizeProperty_eq_ok_iff.mp h with ⟨hn, rfl⟩ | ⟨-, ⟨-, rfl⟩ | ⟨-, -, hk⟩⟩
  · exact .inl hn
  · exact .inr (by decide)
  · exact .inr hk

theorem IsPropertyForm.normalizeProperty_eq (h : IsPropertyForm k) :
    normalizeProperty k = .ok k := by
  rcases h with h | h
  · exact normalizeProperty_eq_ok_iff.mpr (.inl ⟨h, rfl⟩)
  · exact h.normalizeProperty_eq

/-- **A property has one form.** The form of a name is its own form, and is a custom property or a
name with hyphens. Every name of these two shapes is accepted as it is. A name with hyphens is the
form of its camel-case spelling, `css-float` apart. -/
theorem normalizeProperty_canonical (n k : String) :
    (normalizeProperty n = .ok k → normalizeProperty k = .ok k ∧ IsPropertyForm k) ∧
      (IsPropertyForm k → normalizeProperty k = .ok k) ∧
      (IsHyphenProperty k → k ≠ "css-float" → normalizeProperty (camelCase k) = .ok k) := by
  refine ⟨fun h => ?_, fun h => h.normalizeProperty_eq,
    fun h hk => h.normalizeProperty_camelCase hk⟩
  have hform := isPropertyForm_of_eq_ok h
  exact ⟨hform.normalizeProperty_eq, hform⟩

/-- A name with a vendor's hyphen and a digit, from a spelling in part camel case. -/
theorem normalizeProperty_canonical_vendor :
    IsHyphenProperty "-webkit-box3d-flex" ∧
      normalizeProperty "-webkit-box3dFlex" = .ok "-webkit-box3d-flex" ∧
      normalizeProperty "-webkit-box3d-flex" = .ok "-webkit-box3d-flex" ∧
      camelCase "-webkit-box3d-flex" = "-webkitBox3dFlex" ∧
      normalizeProperty (camelCase "-webkit-box3d-flex") = .ok "-webkit-box3d-flex" := by
  have hk : IsHyphenProperty "-webkit-box3d-flex" := by decide
  have hn : normalizeProperty "-webkit-box3dFlex" = .ok "-webkit-box3d-flex" := by decide
  obtain ⟨hself, -, hcamel⟩ := normalizeProperty_canonical "-webkit-box3dFlex" "-webkit-box3d-flex"
  exact ⟨hk, hn, (hself hn).1, by decide, hcamel hk (by decide)⟩

/-- The one name that is not the form of its camel-case spelling. -/
example : camelCase "css-float" = "cssFloat" ∧ normalizeProperty "cssFloat" = .ok "float" := by
  decide

end WebPage.Style
