import WebPage.Attributes
import WebPage.Proofs.Selector.WellFormed

/-!
# Writing attributes

Names that differ in case mean the same entry of an attribute map. A write is seen under every
spelling of the name that was written, and under no other name.

## Main results

* `Attributes.get?_insert`: the values after a write
* `Attributes.contains_insert`: the names after a write
* `Attributes.get?_erase_of_ne`, `Attributes.get?_toggle_of_ne`: the values under other names after a
  removal and after a toggle
* `Attributes.insert_insert`: a write after a write under the same name
-/

namespace WebPage

theorem Text.lowerAscii_lowerAscii (s : String) :
    Text.lowerAscii (Text.lowerAscii s) = Text.lowerAscii s :=
  Selector.lowerAscii_of_isSmall (Selector.isSmall_lowerAscii s)

namespace Attributes

variable {name other value : String} {entry : String × String} {entries : List (String × String)}

/-- Two spellings of a name mean the same entries. -/
theorem named_congr (h : Text.equalsIgnoringCase name other = true) : named other = named name := by
  funext entry
  unfold named Text.equalsIgnoringCase at *
  rw [beq_iff_eq.mp h]

/-- Two names mean no entry in common. -/
theorem named_eq_false (h : Text.equalsIgnoringCase name other = false)
    (hn : named name entry = true) : named other entry = false := by
  unfold named Text.equalsIgnoringCase at *
  rwa [beq_iff_eq.mp hn]

theorem named_lowerAscii : named other (Text.lowerAscii name, value) =
    Text.equalsIgnoringCase name other := by
  unfold named Text.equalsIgnoringCase
  rw [Text.lowerAscii_lowerAscii]

theorem any_replaceFirst :
    (replaceFirst (named name) value entries).any (named other) = entries.any (named other) := by
  induction entries with
  | nil => rfl
  | cons entry entries ih =>
    rw [replaceFirst]
    split
    · rfl
    · rw [List.any_cons, List.any_cons, ih]

theorem find?_replaceFirst_self (h : entries.any (named name) = true) :
    (replaceFirst (named name) value entries).find? (named name) =
      (entries.find? (named name)).map fun entry => (entry.1, value) := by
  induction entries with
  | nil => cases h
  | cons entry entries ih =>
    rw [replaceFirst]
    cases hn : named name entry with
    | true =>
      have hv : named name (entry.1, value) = true := hn
      rw [if_pos rfl, List.find?_cons_of_pos hv, List.find?_cons_of_pos hn]
      rfl
    | false =>
      rw [List.any_cons, hn, Bool.false_or] at h
      rw [if_neg (by decide), List.find?_cons_of_neg (by simp [hn]),
        List.find?_cons_of_neg (by simp [hn]), ih h]

theorem find?_replaceFirst_of_ne (h : Text.equalsIgnoringCase name other = false) :
    (replaceFirst (named name) value entries).find? (named other) =
      entries.find? (named other) := by
  induction entries with
  | nil => rfl
  | cons entry entries ih =>
    rw [replaceFirst]
    split
    next hn =>
      -- the entry that is written does not count under the other name, before and after
      have ho : named other entry = false := named_eq_false h hn
      have hv : named other (entry.1, value) = false := ho
      rw [List.find?_cons_of_neg (by simp [hv]), List.find?_cons_of_neg (by simp [ho])]
    next => rw [List.find?_cons, List.find?_cons, ih]

/-- **The values after a write**: under every spelling of the name the new value, and under every
other name what was there. -/
theorem get?_insert (a : Attributes) (name value other : String) :
    (a.insert name value).get? other =
      if Text.equalsIgnoringCase name other = true then some value else a.get? other := by
  unfold insert get?
  by_cases h : Text.equalsIgnoringCase name other = true
  · rw [if_pos h, named_congr h]
    by_cases hc : a.contains name = true
    · rw [if_pos hc, find?_replaceFirst_self hc, Option.map_map]
      obtain ⟨entry, hentry⟩ := Option.isSome_iff_exists.mp (List.find?_isSome.mpr
        (List.any_eq_true.mp hc))
      rw [hentry]
      rfl
    · have hnone : a.entries.find? (named name) = none := by
        rw [List.find?_eq_none]
        intro entry he hn
        exact hc (List.any_eq_true.mpr ⟨entry, he, hn⟩)
      have hself : named name (Text.lowerAscii name, value) = true := by
        rw [named_lowerAscii]
        exact beq_self_eq_true _
      rw [if_neg hc, List.find?_append, hnone, Option.none_or, List.find?_cons_of_pos hself]
      rfl
  · have hne : Text.equalsIgnoringCase name other = false := by simpa using h
    rw [if_neg h]
    by_cases hc : a.contains name = true
    · rw [if_pos hc, find?_replaceFirst_of_ne hne]
    · have hnew : named other (Text.lowerAscii name, value) = false := by
        rw [named_lowerAscii, hne]
      rw [if_neg hc, List.find?_append, List.find?_cons_of_neg (by simp [hnew]), List.find?_nil,
        Option.or_none]

/-- **The names after a write** are those before and the one that was written. -/
theorem contains_insert (a : Attributes) (name value other : String) :
    (a.insert name value).contains other =
      (a.contains other || Text.equalsIgnoringCase name other) := by
  unfold insert
  by_cases hc : a.contains name = true
  · rw [if_pos hc]
    unfold contains
    rw [any_replaceFirst]
    cases h : Text.equalsIgnoringCase name other with
    | true =>
      rw [named_congr h, Bool.or_true]
      exact hc
    | false => rw [Bool.or_false]
  · rw [if_neg hc]
    unfold contains
    rw [List.any_append, List.any_cons, List.any_nil, Bool.or_false, named_lowerAscii]

theorem isSome_get? (a : Attributes) (name : String) : (a.get? name).isSome = a.contains name := by
  rw [get?, Option.isSome_map, contains, Bool.eq_iff_iff, List.find?_isSome, List.any_eq_true]

theorem replaceFirst_replaceFirst {value' : String} :
    replaceFirst (named name) value' (replaceFirst (named name) value entries) =
      replaceFirst (named name) value' entries := by
  induction entries with
  | nil => rfl
  | cons entry entries ih =>
    rw [replaceFirst, replaceFirst]
    cases hn : named name entry with
    | true =>
      have hv : named name (entry.1, value) = true := hn
      rw [if_pos rfl, if_pos rfl, replaceFirst, if_pos hv]
    | false => rw [if_neg (by decide), if_neg (by decide), replaceFirst, hn, if_neg (by decide), ih]

/-- A name that no entry means is written behind all entries. -/
theorem replaceFirst_append {value' : String} (h : entries.any (named name) = false) :
    replaceFirst (named name) value' (entries ++ [(Text.lowerAscii name, value)]) =
      entries ++ [(Text.lowerAscii name, value')] := by
  induction entries with
  | nil =>
    have hself : named name (Text.lowerAscii name, value) = true := by
      rw [named_lowerAscii]
      exact beq_self_eq_true _
    exact if_pos hself
  | cons entry entries ih =>
    rw [List.any_cons, Bool.or_eq_false_iff] at h
    rw [List.cons_append, replaceFirst, h.1, if_neg (by decide), ih h.2, List.cons_append]

/-- **Of two writes under one name the later one counts**, in the place of the first. -/
theorem insert_insert (a : Attributes) (name value value' : String) :
    (a.insert name value).insert name value' = a.insert name value' := by
  have hpresent : (a.insert name value).contains name = true := by
    rw [contains_insert, Bool.or_eq_true]
    exact .inr (beq_self_eq_true _)
  rw [insert, if_pos hpresent]
  unfold insert
  cases hc : a.contains name with
  | true => exact congrArg mk replaceFirst_replaceFirst
  | false => exact congrArg mk (replaceFirst_append hc)

/-- A removal is not seen under another name. -/
theorem get?_erase_of_ne (a : Attributes) (h : Text.equalsIgnoringCase name other = false) :
    (a.erase name).get? other = a.get? other := by
  obtain ⟨entries⟩ := a
  unfold erase get?
  refine congrArg (Option.map Prod.snd) ?_
  induction entries with
  | nil => rfl
  | cons entry entries ih =>
    cases hn : named name entry with
    | true =>
      -- the entry that goes does not count under the other name
      have ho : named other entry = false := named_eq_false h hn
      rw [List.eraseP_cons_of_pos hn, List.find?_cons_of_neg (by simp [ho])]
    | false =>
      rw [List.eraseP_cons_of_neg (by simp [hn]), List.find?_cons, List.find?_cons, ih]

/-- Nor is a toggle. -/
theorem get?_toggle_of_ne (a : Attributes) (h : Text.equalsIgnoringCase name other = false)
    (force : Option Bool) : (a.toggle name force).2.get? other = a.get? other := by
  unfold toggle
  dsimp only
  split
  · rw [get?_insert, if_neg (by simp [h])]
  · split
    · exact get?_erase_of_ne a h
    · rfl

end Attributes

end WebPage
