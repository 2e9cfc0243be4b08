import Mathlib.Data.List.Induction

/-!
# The order of arrival

Calls make keys present and absent. Which call a key came in with, it can be seen from the calls
alone: the key was absent before it, and has been present ever since. A list that holds the keys
that are present, each behind those that came in before it, is determined by the calls. It stays
such a list if keys that leave are taken out of it wherever they stand, and keys that come in are
put behind the others.

## Main definitions

* `CameIn`: the call that a key came in with
* `InOrder`: the keys that are present, in the order in which they came in

## Main results

* `exists_cameIn`, `CameIn.unique`: what is present came in with one call
* `InOrder.leave`, `InOrder.enter`: the list after one more call
* `inOrder_of_step`: a list from which keys leave anywhere and into which they come at the end
* `InOrder.nodup`: no key is listed twice
-/

namespace WebPage

section CameIn

variable {α : Type} {present : List α → Prop} {h : List α} {i j : Nat} {a : α}

/-- Something is present after a history `h`, and came in with the entry at `i`: it was absent
before, and has been present since. -/
structure CameIn (present : List α → Prop) (h : List α) (i : Nat) : Prop where
  lt_length : i < h.length
  absent : ¬ present (h.take i)
  since : ∀ j, i < j → j ≤ h.length → present (h.take j)

theorem CameIn.le (hi : CameIn present h i) (hj : CameIn present h j) : i ≤ j := by
  by_contra hlt
  exact hi.absent (hj.since i (by omega) (Nat.le_of_lt hi.lt_length))

/-- There is one entry that something came in with. -/
theorem CameIn.unique (hi : CameIn present h i) (hj : CameIn present h j) : i = j :=
  Nat.le_antisymm (hi.le hj) (hj.le hi)

/-- What stays present came in when it did. -/
theorem CameIn.concat (hi : CameIn present h i) (ha : present (h ++ [a])) :
    CameIn present (h ++ [a]) i := by
  have hle : i ≤ h.length := Nat.le_of_lt hi.lt_length
  have hlength : (h ++ [a]).length = h.length + 1 := by simp
  refine ⟨by omega, ?_, fun j hj _ => ?_⟩
  · rw [List.take_append_of_le_length hle]
    exact hi.absent
  · by_cases hjh : j ≤ h.length
    · rw [List.take_append_of_le_length hjh]
      exact hi.since j hj hjh
    · rwa [List.take_of_length_le (by omega)]

/-- What becomes present comes in with the last entry. -/
theorem cameIn_concat (hnew : ¬ present h) (ha : present (h ++ [a])) :
    CameIn present (h ++ [a]) h.length := by
  have hlength : (h ++ [a]).length = h.length + 1 := by simp
  refine ⟨by omega, ?_, fun j hj _ => ?_⟩
  · rwa [List.take_left]
  · rwa [List.take_of_length_le (by omega)]

/-- **What is present came in**, if it was absent at the start. -/
theorem exists_cameIn (hstart : ¬ present []) (hh : present h) : ∃ i, CameIn present h i := by
  induction h using List.reverseRecOn with
  | nil => exact absurd hh hstart
  | append_singleton h a ih =>
    by_cases hbefore : present h
    · obtain ⟨i, hi⟩ := ih hbefore
      exact ⟨i, hi.concat hh⟩
    · exact ⟨h.length, cameIn_concat hbefore hh⟩

end CameIn

section InOrder

variable {α κ : Type} {present : κ → List α → Prop} {h : List α} {keys keys' : List κ} {k : κ}
  {a : α}

/-- Two keys that are present came in one before the other. -/
def CameBefore (present : κ → List α → Prop) (h : List α) (k l : κ) : Prop :=
  ∃ i j, CameIn (present k) h i ∧ CameIn (present l) h j ∧ i < j

/-- The keys that are present after a history, in the order in which they came in. -/
structure InOrder (present : κ → List α → Prop) (h : List α) (keys : List κ) : Prop where
  mem_iff : ∀ k, k ∈ keys ↔ present k h
  ordered : keys.Pairwise (CameBefore present h)

namespace InOrder

theorem nil (hstart : ∀ k, ¬ present k []) : InOrder present [] [] :=
  ⟨fun k => by simpa using hstart k, .nil⟩

/-- No key came in before itself. -/
theorem nodup (hk : InOrder present h keys) : keys.Nodup := by
  refine hk.ordered.imp ?_
  rintro k _ ⟨i, j, hi, hj, hlt⟩ rfl
  exact Nat.ne_of_lt hlt (hi.unique hj)

/-- **The order of the keys that stay**, when others leave or none. -/
theorem leave (hk : InOrder present h keys) (hsub : keys'.Sublist keys)
    (hmem : ∀ l, l ∈ keys' ↔ present l (h ++ [a])) : InOrder present (h ++ [a]) keys' := by
  refine ⟨hmem, (hk.ordered.sublist hsub).imp_of_mem ?_⟩
  rintro l m hl hm ⟨i, j, hi, hj, hlt⟩
  exact ⟨i, j, hi.concat ((hmem l).mp hl), hj.concat ((hmem m).mp hm), hlt⟩

/-- **A key that comes in** is behind all others. -/
theorem enter (hk : InOrder present h keys) (hstart : ∀ k, ¬ present k []) (hnew : k ∉ keys)
    (hmem : ∀ l, l ∈ keys ++ [k] ↔ present l (h ++ [a])) :
    InOrder present (h ++ [a]) (keys ++ [k]) := by
  have hlast : CameIn (present k) (h ++ [a]) h.length := by
    refine cameIn_concat (fun hp => hnew ((hk.mem_iff k).mpr hp)) ((hmem k).mp ?_)
    exact List.mem_append_right keys List.mem_cons_self
  refine ⟨hmem, List.pairwise_append.mpr
    ⟨hk.ordered.imp_of_mem ?_, List.pairwise_singleton _ _, ?_⟩⟩
  · rintro l m hl hm ⟨i, j, hi, hj, hlt⟩
    exact ⟨i, j, hi.concat ((hmem l).mp (List.mem_append_left _ hl)),
      hj.concat ((hmem m).mp (List.mem_append_left _ hm)), hlt⟩
  · intro l hl m hm
    obtain rfl := List.mem_singleton.mp hm
    obtain ⟨i, hi⟩ := exists_cameIn (hstart l) ((hk.mem_iff l).mp hl)
    exact ⟨i, h.length, hi.concat ((hmem l).mp (List.mem_append_left _ hl)), hlast, hi.lt_length⟩

end InOrder

/-- **Keys that leave from anywhere and come in at the end** stand in the order in which they came
in, after every history. -/
theorem inOrder_of_step (keys : List α → List κ) (hnil : keys [] = [])
    (hmem : ∀ h k, k ∈ keys h ↔ present k h)
    (hstep : ∀ h a, (keys (h ++ [a])).Sublist (keys h) ∨
      ∃ k, k ∉ keys h ∧ keys (h ++ [a]) = keys h ++ [k]) (h : List α) :
    InOrder present h (keys h) := by
  have hstart : ∀ k, ¬ present k [] := by
    intro k hk
    rw [← hmem, hnil] at hk
    cases hk
  induction h using List.reverseRecOn with
  | nil =>
    rw [hnil]
    exact .nil hstart
  | append_singleton h a ih =>
    rcases hstep h a with hsub | ⟨k, hk, heq⟩
    · exact ih.leave hsub (hmem (h ++ [a]))
    · rw [heq]
      exact ih.enter hstart hk (heq ▸ hmem (h ++ [a]))

end InOrder

end WebPage
