import WebPage.Proofs.Attributes
import WebPage.Proofs.FirstPlaces

/-!
# Sound attribute maps

A map that is made by writing, removing and toggling keeps its names in small letters, and none of
them twice. On such a map a removal takes out everything that the name means, so whether a name is
present after a removal or a toggle can be told from whether it was present before.

## Main definitions

* `Attributes.Sound`: the names are small and distinct

## Main results

* `Attributes.Sound.insert`, `Attributes.Sound.erase`, `Attributes.Sound.toggle`: every change of a
  map keeps it sound
* `Attributes.Sound.contains_erase`, `Attributes.Sound.contains_toggle`: the names after a removal
  and after a toggle
* `Attributes.Sound.erase_erase`, `Attributes.Sound.toggle_toggle`: a removal or a forced toggle
  that is made again does nothing
-/

namespace WebPage.Attributes

variable {a : Attributes} {name other value : String} {wanted : Bool} {entry : String × String}

/-- The names are kept in small letters, and none is there twice. -/
structure Sound (a : Attributes) : Prop where
  small : ∀ n ∈ a.names, Text.lowerAscii n = n
  nodup : a.names.Nodup

/-! ## Changes keep a map sound -/

theorem sound_empty : Sound {} :=
  ⟨nofun, List.nodup_nil⟩

theorem map_fst_replaceFirst (p : String × String → Bool) (value : String)
    (entries : List (String × String)) :
    (replaceFirst p value entries).map Prod.fst = entries.map Prod.fst := by
  induction entries with
  | nil => rfl
  | cons entry entries ih =>
    rw [replaceFirst]
    split
    · rfl
    · rw [List.map_cons, List.map_cons, ih]

/-- A write leaves the names in place; a new one comes behind them. -/
theorem names_insert (a : Attributes) (name value : String) :
    (a.insert name value).names =
      if a.contains name then a.names else a.names ++ [Text.lowerAscii name] := by
  unfold insert names
  split
  · exact map_fst_replaceFirst _ _ _
  · rw [List.map_append]
    rfl

namespace Sound

/-- On a sound map a name means the entry of its small letters. -/
theorem named_iff (h : a.Sound) (he : entry ∈ a.entries) :
    named name entry = true ↔ entry.1 = Text.lowerAscii name := by
  unfold named Text.equalsIgnoringCase
  rw [beq_iff_eq, h.small _ (List.mem_map_of_mem he)]

/-- What is present is there in small letters. -/
theorem contains_iff (h : a.Sound) :
    a.contains name = true ↔ Text.lowerAscii name ∈ a.names := by
  rw [contains, List.any_eq_true, names, List.mem_map]
  refine exists_congr fun entry => and_congr_right fun he => ?_
  exact h.named_iff he

/-- **A write keeps a map sound.** -/
theorem insert (h : a.Sound) (name value : String) : (a.insert name value).Sound := by
  have hnames := names_insert a name value
  by_cases hc : a.contains name = true
  · rw [if_pos hc] at hnames
    exact ⟨hnames ▸ h.small, hnames ▸ h.nodup⟩
  · rw [if_neg hc] at hnames
    refine ⟨?_, ?_⟩
    · intro n hn
      rw [hnames, List.mem_append, List.mem_singleton] at hn
      rcases hn with hn | rfl
      · exact h.small n hn
      · exact Text.lowerAscii_lowerAscii name
    · -- the new name is absent, and so none of the names
      rw [hnames, List.nodup_append]
      refine ⟨h.nodup, List.pairwise_singleton _ _, ?_⟩
      intro n hn m hm hnm
      rw [List.mem_singleton] at hm
      exact hc (h.contains_iff.mpr (hm ▸ hnm ▸ hn))

/-- **A removal keeps a map sound.** -/
theorem erase (h : a.Sound) (name : String) : (a.erase name).Sound := by
  have hsub : (a.erase name).names.Sublist a.names := List.eraseP_sublist.map Prod.fst
  exact ⟨fun n hn => h.small n (hsub.subset hn), h.nodup.sublist hsub⟩

/-- **A toggle keeps a map sound.** -/
theorem toggle (h : a.Sound) (name : String) (force : Option Bool) :
    (a.toggle name force).2.Sound := by
  unfold Attributes.toggle
  dsimp only
  split
  · exact h.insert name ""
  · split
    · exact h.erase name
    · exact h

end Sound

/-! ## The names after a change -/

theorem erase_of_not_contains (h : a.contains name = false) : a.erase name = a := by
  rw [contains, List.any_eq_false] at h
  exact congrArg mk (List.eraseP_of_forall_not h)

/-- A toggle forces what it decides on. -/
theorem toggle_eq_some (a : Attributes) (name : String) (force : Option Bool) :
    (a.toggle name force).2 = (a.toggle name (some (force.getD (!a.contains name)))).2 :=
  rfl

/-- A name that is as it is wanted is left alone. -/
theorem toggle_of_contains (h : a.contains name = wanted) :
    (a.toggle name (some wanted)).2 = a := by
  unfold toggle
  rw [h]
  cases wanted <;> rfl

theorem toggle_of_absent (h : a.contains name = false) :
    (a.toggle name (some true)).2 = a.insert name "" := by
  unfold toggle
  rw [h]
  rfl

theorem toggle_of_present (h : a.contains name = true) :
    (a.toggle name (some false)).2 = a.erase name := by
  unfold toggle
  rw [h]
  rfl

namespace Sound

/-- A removal takes out every entry that the name means. -/
theorem entries_erase (h : a.Sound) (name : String) :
    (a.erase name).entries = a.entries.filter fun entry => !named name entry := by
  have hnames : a.entries.Pairwise fun x y => x.1 ≠ y.1 := List.pairwise_map.mp h.nodup
  refine eraseP_eq_filter (hnames.imp_of_mem fun {x y} hx hy hne hnx => ?_)
  rw [← Bool.not_eq_true, h.named_iff hy, ← (h.named_iff hx).mp hnx]
  exact Ne.symm hne

/-- **The names after a removal** are those before without the one that was removed. -/
theorem contains_erase (h : a.Sound) (name other : String) :
    (a.erase name).contains other = (a.contains other && !Text.equalsIgnoringCase name other) := by
  rw [contains, h.entries_erase, List.any_filter, contains]
  cases hno : Text.equalsIgnoringCase name other with
  | true =>
    rw [named_congr hno, Bool.not_true, Bool.and_false, List.any_eq_false]
    intro entry _
    cases named name entry <;> decide
  | false =>
    rw [Bool.not_false, Bool.and_true]
    refine congrArg a.entries.any (funext fun entry => ?_)
    -- an entry that the removed name means does not count under the other name
    cases hn : named name entry with
    | true => exact (named_eq_false hno hn).symm
    | false => rfl

/-- **The names after a toggle** are those before, but for the one that was toggled. -/
theorem contains_toggle (h : a.Sound) (name : String) (force : Option Bool) (other : String) :
    (a.toggle name force).2.contains other =
      if Text.equalsIgnoringCase name other then force.getD (!a.contains name)
      else a.contains other := by
  rw [toggle_eq_some]
  generalize force.getD (!a.contains name) = wanted
  by_cases hc : a.contains name = wanted
  · -- nothing is done, and the name is as it is wanted
    rw [toggle_of_contains hc]
    split
    next hno => rw [← hc, contains, contains, named_congr hno]
    next => rfl
  · cases wanted with
    | true =>
      rw [toggle_of_absent (by simpa using hc), contains_insert]
      cases Text.equalsIgnoringCase name other <;> simp
    | false =>
      rw [toggle_of_present (by simpa using hc), h.contains_erase]
      cases Text.equalsIgnoringCase name other <;> simp

/-- **A removal that is made again does nothing.** -/
theorem erase_erase (h : a.Sound) (name : String) : (a.erase name).erase name = a.erase name := by
  apply erase_of_not_contains
  rw [h.contains_erase, Bool.and_eq_false_iff]
  exact .inr (congrArg not (beq_self_eq_true _))

/-- **A forced toggle that is made again does nothing.** -/
theorem toggle_toggle (h : a.Sound) (name : String) (wanted : Bool) :
    ((a.toggle name (some wanted)).2.toggle name (some wanted)).2 =
      (a.toggle name (some wanted)).2 := by
  apply toggle_of_contains
  rw [h.contains_toggle]
  exact if_pos (beq_self_eq_true _)

end Sound

end WebPage.Attributes
