import Mathlib.Data.List.DropRight
import WebPage.Proofs.FirstPlaces
import WebPage.Style.Attribute

/-!
# Style declarations as a map

Style declarations are kept in a list, but what counts is the declaration of each property. The
operations keep the list tidy: one declaration per property, and no value that is empty or has
blanks around it. For tidy declarations the list is a finite map, whatever order it is in. So
nothing is lost when declarations are spelled and read again, which puts the important ones last.

## Main definitions

* `Declarations.Tidy`: what the operations keep
* `Declarations.ReadsBack`: a reader reads again what is spelled
* `Declarations.importantLast`: the declarations in the order in which they are read again

## Main results

* `find?_erase`, `find?_set`: the declaration of a property after a change
* `tidy_erase`, `tidy_set`, `tidy_parseWith`: all declarations that come up are tidy
* `find?_importantLast`: the order of the declarations does not count
* `parseWith_cssText`: declarations that read back are read in their other order
-/

namespace WebPage

theorem Text.trim_trim (s : String) : Text.trim (Text.trim s) = Text.trim s := by
  have hlist : ∀ l : List Char,
      (((l.dropWhile isBlank).rdropWhile isBlank).dropWhile isBlank).rdropWhile isBlank =
        (l.dropWhile isBlank).rdropWhile isBlank := by
    intro l
    -- the first character that is left is not taken when the blanks at the end go
    have hfirst : ((l.dropWhile isBlank).rdropWhile isBlank).dropWhile isBlank =
        (l.dropWhile isBlank).rdropWhile isBlank := by
      cases hm : (l.dropWhile isBlank).rdropWhile isBlank with
      | nil => rfl
      | cons c m =>
        obtain ⟨r, hr⟩ := List.rdropWhile_prefix isBlank (l.dropWhile isBlank)
        have hc := List.head?_dropWhile_not isBlank l
        rw [← hr, hm, List.cons_append, List.head?_cons] at hc
        exact List.dropWhile_cons_of_neg (by simpa using hc)
    rw [hfirst, List.rdropWhile_idempotent]
  have htrim : ∀ s, Text.trim s =
      String.ofList ((s.toList.dropWhile isBlank).rdropWhile isBlank) := fun _ => rfl
  rw [htrim (Text.trim s), htrim s, String.toList_ofList, hlist]

namespace Style.Declarations

variable {reader : Reader} {s : Declarations} {d e : Declaration} {l ds : List Declaration}
  {key other value : String} {important : Bool}

/-- There is one declaration per property, and each has a value without blanks around it. -/
structure Tidy (s : Declarations) : Prop where
  nodup : (s.toList.map Declaration.name).Nodup
  trimmed : ∀ d ∈ s.toList, Text.trim d.value = d.value
  ne_empty : ∀ d ∈ s.toList, d.value ≠ ""

theorem tidy_empty : ({} : Declarations).Tidy := ⟨List.nodup_nil, nofun, nofun⟩

/-! ## The declaration of a property -/

theorem find?_name_eq_some_iff (h : (l.map Declaration.name).Nodup) :
    (l.find? fun d => d.name == key) = some d ↔ d ∈ l ∧ d.name = key := by
  induction l with
  | nil => simp
  | cons e l ih =>
    obtain ⟨he, hl⟩ := List.nodup_cons.mp h
    by_cases hkey : e.name = key
    · rw [List.find?_cons_of_pos (by simpa using hkey), Option.some.injEq]
      constructor
      · rintro rfl
        exact ⟨List.mem_cons_self, hkey⟩
      · rintro ⟨hd, hdkey⟩
        rcases List.mem_cons.mp hd with rfl | hd
        · rfl
        · exact absurd (List.mem_map.mpr ⟨d, hd, hdkey.trans hkey.symm⟩) he
    · rw [List.find?_cons_of_neg (by simpa using hkey), ih hl, List.mem_cons]
      constructor
      · rintro ⟨hd, hdkey⟩
        exact ⟨.inr hd, hdkey⟩
      · rintro ⟨rfl | hd, hdkey⟩
        · exact absurd hdkey hkey
        · exact ⟨hd, hdkey⟩

namespace Tidy

theorem find?_eq_some_iff (h : s.Tidy) : s.find? key = some d ↔ d ∈ s.toList ∧ d.name = key :=
  find?_name_eq_some_iff h.nodup

/-- Only one declaration can make a property important. -/
theorem isImportant_eq (h : s.Tidy) (key : String) :
    s.isImportant key = (s.find? key).elim false Declaration.important := by
  rw [Bool.eq_iff_iff, isImportant, List.any_eq_true]
  constructor
  · rintro ⟨d, hd, hkey⟩
    rw [Bool.and_eq_true, beq_iff_eq] at hkey
    rw [h.find?_eq_some_iff.mpr ⟨hd, hkey.1⟩]
    exact hkey.2
  · intro hi
    cases hf : s.find? key with
    | none =>
      rw [hf] at hi
      cases hi
    | some d =>
      rw [hf] at hi
      obtain ⟨hd, hkey⟩ := h.find?_eq_some_iff.mp hf
      exact ⟨d, hd, by simpa [hkey] using hi⟩

end Tidy

/-! ## Taking a property out -/

theorem toList_erase (h : s.Tidy) (key : String) :
    (s.erase key).toList = s.toList.filter fun d => d.name != key := by
  refine eraseP_eq_filter ((List.pairwise_map.mp h.nodup).imp fun hne hname => ?_)
  rw [beq_iff_eq] at hname
  rw [beq_eq_false_iff_ne, ← hname]
  exact fun he => hne he.symm

theorem tidy_erase (h : s.Tidy) (key : String) : (s.erase key).Tidy := by
  have hsub : (s.erase key).toList.Sublist s.toList := List.eraseP_sublist
  exact ⟨h.nodup.sublist (hsub.map _), fun d hd => h.trimmed d (hsub.subset hd),
    fun d hd => h.ne_empty d (hsub.subset hd)⟩

/-- **Taking a property out** leaves the other ones. -/
theorem find?_erase (h : s.Tidy) (key other : String) :
    (s.erase key).find? other = if other = key then none else s.find? other := by
  apply Option.ext
  intro d
  rw [(tidy_erase h key).find?_eq_some_iff, toList_erase h, List.mem_filter, bne_iff_ne]
  split
  next heq =>
    subst heq
    simp only [reduceCtorEq, iff_false]
    rintro ⟨⟨-, hne⟩, hkey⟩
    exact hne hkey
  next hne =>
    rw [h.find?_eq_some_iff]
    constructor
    · rintro ⟨⟨hd, -⟩, hkey⟩
      exact ⟨hd, hkey⟩
    · rintro ⟨hd, rfl⟩
      exact ⟨⟨hd, hne⟩, rfl⟩

/-! ## Declaring a property -/

theorem find?_put (d : Declaration) (l : List Declaration) (other : String) :
    (put d l).find? (fun e => e.name == other) =
      if other = d.name then some d else l.find? fun e => e.name == other := by
  induction l with
  | nil =>
    by_cases ho : other = d.name
    · simp [put, ho]
    · simp [put, ho, Ne.symm ho]
  | cons e l ih =>
    rw [put]
    by_cases he : e.name = d.name
    · rw [if_pos (by simpa using he)]
      by_cases ho : other = d.name
      · simp [ho]
      · have hne : (e.name == other) = false := by simpa [he] using Ne.symm ho
        simp [ho, Ne.symm ho, hne]
    · rw [if_neg (by simpa using he), List.find?_cons, List.find?_cons, ih]
      by_cases ho : other = d.name
      · have hne : (e.name == other) = false := by simpa [ho] using he
        simp only [hne, if_pos ho]
      · rw [if_neg ho, if_neg ho]

theorem mem_put (h : e ∈ put d l) : e = d ∨ e ∈ l := by
  induction l with
  | nil => exact .inl (List.mem_singleton.mp h)
  | cons a l ih =>
    rw [put] at h
    split at h
    · exact (List.mem_cons.mp h).imp_right (List.mem_cons_of_mem a)
    · rcases List.mem_cons.mp h with rfl | h
      · exact .inr List.mem_cons_self
      · exact (ih h).imp_right (List.mem_cons_of_mem a)

/-- A property is declared in its place, or at the end. -/
theorem names_put (d : Declaration) (l : List Declaration) :
    (put d l).map Declaration.name =
      if d.name ∈ l.map Declaration.name then l.map Declaration.name
      else l.map Declaration.name ++ [d.name] := by
  induction l with
  | nil => rfl
  | cons e l ih =>
    rw [put]
    by_cases he : e.name = d.name
    · rw [if_pos (by simpa using he), if_pos (by simp [he])]
      simp [he]
    · rw [if_neg (by simpa using he), List.map_cons, ih, List.map_cons]
      by_cases hd : d.name ∈ l.map Declaration.name
      · rw [if_pos hd, if_pos (List.mem_cons_of_mem _ hd)]
      · rw [if_neg hd, if_neg fun h => (List.mem_cons.mp h).elim (Ne.symm he) hd, List.cons_append]

theorem put_of_not_mem (h : d.name ∉ l.map Declaration.name) : put d l = l ++ [d] := by
  induction l with
  | nil => rfl
  | cons e l ih =>
    rw [List.map_cons, List.mem_cons, not_or] at h
    rw [put, if_neg (by simpa using Ne.symm h.1), ih h.2, List.cons_append]

theorem set_of_trim_eq_empty (h : Text.trim value = "") :
    s.set key value important = s.erase key := by
  rw [set, if_pos (String.isEmpty_iff.mpr h)]

theorem set_of_trim_ne_empty (h : Text.trim value ≠ "") :
    s.set key value important = ⟨put ⟨key, Text.trim value, important⟩ s.toList⟩ := by
  rw [set, if_neg (fun he => h (String.isEmpty_iff.mp he))]

theorem tidy_set (h : s.Tidy) (key value : String) (important : Bool) :
    (s.set key value important).Tidy := by
  by_cases hv : Text.trim value = ""
  · rw [set_of_trim_eq_empty hv]
    exact tidy_erase h key
  rw [set_of_trim_ne_empty hv]
  refine ⟨?_, fun d hd => ?_, fun d hd => ?_⟩
  · rw [names_put]
    split
    next => exact h.nodup
    next hnew =>
      exact List.nodup_append.mpr ⟨h.nodup, List.pairwise_singleton _ _, by simpa using hnew⟩
  · rcases mem_put hd with rfl | hd
    · exact Text.trim_trim value
    · exact h.trimmed d hd
  · rcases mem_put hd with rfl | hd
    · exact hv
    · exact h.ne_empty d hd

/-- **Declaring a property** leaves the other ones. A value of blanks takes it out. -/
theorem find?_set (h : s.Tidy) (key value : String) (important : Bool) (other : String) :
    (s.set key value important).find? other =
      if other = key then
        if Text.trim value = "" then none else some ⟨key, Text.trim value, important⟩
      else s.find? other := by
  by_cases hv : Text.trim value = ""
  · rw [set_of_trim_eq_empty hv, find?_erase h, if_pos hv]
  · rw [set_of_trim_ne_empty hv, if_neg hv]
    exact find?_put _ _ other

theorem setAll_cons (s : Declarations) (d : Declaration) (ds : List Declaration) :
    s.setAll (d :: ds) = (s.set d.name d.value d.important).setAll ds := by
  rw [setAll, List.foldl_cons, setAll]

theorem tidy_setAll (h : s.Tidy) (ds : List Declaration) : (s.setAll ds).Tidy := by
  induction ds generalizing s with
  | nil => exact h
  | cons d ds ih =>
    rw [setAll_cons]
    exact ih (tidy_set h d.name d.value d.important)

/-- **What is read from a text is tidy.** -/
theorem tidy_parseWith (css : String) : (parseWith reader css).Tidy :=
  tidy_setAll tidy_empty _

/-! ## Reading what is spelled -/

/-- The normal declarations in front of the important ones, each in their order. -/
def importantLast (s : Declarations) : Declarations :=
  ⟨(s.toList.filter fun d => !d.important) ++ s.toList.filter fun d => d.important⟩

/-- What the declarations spell is read again: the normal ones and the important ones, each in their
order, with their names and values. -/
def ReadsBack (s : Declarations) (reader : Reader) : Prop :=
  reader.spelled s.cssText =
    (s.toList.filter fun d => !d.important, s.toList.filter fun d => d.important)

instance : Decidable (s.ReadsBack reader) :=
  inferInstanceAs (Decidable (_ = _))

theorem perm_importantLast (s : Declarations) : s.importantLast.toList.Perm s.toList := by
  have hperm := List.filter_append_perm (fun d => !d.important) s.toList
  simp only [Bool.not_not] at hperm
  exact hperm

theorem tidy_importantLast (h : s.Tidy) : s.importantLast.Tidy := by
  have hperm := s.perm_importantLast
  exact ⟨(hperm.map Declaration.name).nodup_iff.mpr h.nodup,
    fun d hd => h.trimmed d (hperm.mem_iff.mp hd), fun d hd => h.ne_empty d (hperm.mem_iff.mp hd)⟩

/-- **The order of tidy declarations does not count.** -/
theorem find?_importantLast (h : s.Tidy) (key : String) :
    s.importantLast.find? key = s.find? key := by
  apply Option.ext
  intro d
  rw [(tidy_importantLast h).find?_eq_some_iff, h.find?_eq_some_iff, s.perm_importantLast.mem_iff]

/-- Declaring new properties one after the other lists them. -/
theorem setAll_eq_append (h : ((s.toList ++ ds).map Declaration.name).Nodup)
    (hds : ∀ d ∈ ds, Text.trim d.value = d.value ∧ d.value ≠ "") :
    s.setAll ds = ⟨s.toList ++ ds⟩ := by
  induction ds generalizing s with
  | nil => rw [List.append_nil]; rfl
  | cons d ds ih =>
    obtain ⟨⟨htrim, hne⟩, hds⟩ := List.forall_mem_cons.mp hds
    -- no earlier declaration has the name, so the new one goes to the end
    have hnew : d.name ∉ s.toList.map Declaration.name := by
      rw [List.map_append, List.nodup_append] at h
      exact fun hd => h.2.2 _ hd _ List.mem_cons_self rfl
    have hset : s.set d.name d.value d.important = ⟨s.toList ++ [d]⟩ := by
      rw [set_of_trim_ne_empty (by rwa [htrim]), htrim, put_of_not_mem hnew]
    rw [setAll_cons, hset]
    have hrest := ih (s := ⟨s.toList ++ [d]⟩) (by simpa using h) hds
    rw [List.append_assoc, List.singleton_append] at hrest
    exact hrest

/-- **Tidy declarations that read back** are read with the important ones last. -/
theorem parseWith_cssText (h : s.Tidy) (hs : s.ReadsBack reader) :
    parseWith reader s.cssText = s.importantLast := by
  have hlast := tidy_importantLast h
  rw [parseWith, hs]
  exact setAll_eq_append hlast.nodup fun d hd => ⟨hlast.trimmed d hd, hlast.ne_empty d hd⟩

end Style.Declarations

end WebPage
