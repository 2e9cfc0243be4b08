import Mathlib.Data.List.Basic

/-!
# Each entry at its first place

A list from which repetitions are erased keeps each entry at the first place where it comes. What is
put behind such a list counts just where it is new, and what is taken out of it at its first place
is gone.

## Main results

* `eraseP_eq_filter`: the first entry of a kind is the only one, where no two are of it
* `eraseDups_of_nodup`: there is nothing to erase where nothing is repeated
* `eraseDups_append_of_nodup`: a row without repetition behind other entries
-/

namespace WebPage

/-- **Where no two entries are of a kind**, erasing the first one erases all of the kind. -/
theorem eraseP_eq_filter {α : Type} {p : α → Bool} {l : List α}
    (h : l.Pairwise fun a b => p a = true → p b = false) : l.eraseP p = l.filter fun a => !p a := by
  induction l with
  | nil => rfl
  | cons a l ih =>
    obtain ⟨ha, hl⟩ := List.pairwise_cons.mp h
    by_cases hp : p a = true
    · rw [List.eraseP_cons_of_pos hp, List.filter_cons_of_neg (by simpa using hp), eq_comm,
        List.filter_eq_self]
      intro b hb
      rw [ha b hb hp]
      rfl
    · rw [List.eraseP_cons_of_neg hp, List.filter_cons_of_pos (by simpa using hp), ih hl]

variable {α : Type} [BEq α] [LawfulBEq α] {a : α} {l l' : List α}

theorem eraseDups_of_nodup (h : l.Nodup) : l.eraseDups = l := by
  induction l with
  | nil => rfl
  | cons a l ih =>
    obtain ⟨ha, hl⟩ := List.nodup_cons.mp h
    have hfilter : l.filter (fun b => !b == a) = l := by
      refine List.filter_eq_self.mpr fun b hb => ?_
      have hne : b ≠ a := fun he => ha (he ▸ hb)
      simpa using hne
    rw [List.eraseDups_cons, hfilter, ih hl]

/-- What is there before counts, and what comes again does not. -/
theorem eraseDups_append_cons_of_mem (ha : a ∈ l) :
    (l ++ a :: l').eraseDups = (l ++ l').eraseDups := by
  rw [List.eraseDups_append, List.eraseDups_append, List.cons_removeAll]
  simp [ha]

/-- **A row without repetition behind other entries**: what is new of it comes behind them. -/
theorem eraseDups_append_of_nodup (h : l'.Nodup) :
    (l ++ l').eraseDups = l.eraseDups ++ l'.filter (· ∉ l.eraseDups) := by
  have hnew : l'.removeAll l = l'.filter (· ∉ l.eraseDups) := by
    refine List.filter_congr fun b _ => ?_
    simp [List.mem_eraseDups]
  rw [List.eraseDups_append, hnew, eraseDups_of_nodup (h.filter _)]

end WebPage
