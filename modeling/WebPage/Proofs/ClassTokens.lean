import WebPage.ClassTokens
import WebPage.Proofs.FirstPlaces

/-!
# Class tokens and how they are spelled

A set of class tokens that was read from an attribute has no token twice, and each of its tokens is
one word. So the words of what it spells are its tokens again, and adding and removing tokens are
operations on lists of words: tokens are added behind those that are there, each at the first place
where it comes, and removed wherever they are.

## Main definitions

* `Text.IsWord`: a text that is a word
* `ClassTokens.Sound`: no token twice, and all of them words
* `ClassTokens.force`: tokens added or removed, as one operation

## Main results

* `Text.words_intercalate`: words with spaces between are read back
* `ClassTokens.ofAttribute_value`: a set is read off what it spells
* `ClassTokens.toList_add`, `ClassTokens.toList_remove`: adding and removing, as lists
-/

namespace WebPage

/-! ## Words -/

namespace Text

variable {sep : Char → Bool} {w : List Char} {ws : List (List Char)} {c : Char}

/-- A text that is one word: it is not empty, and no ASCII blank is in it. -/
def IsWord (s : String) : Prop :=
  s ≠ "" ∧ ∀ c ∈ s.toList, isAsciiBlank c = false

theorem openWord_cons (c : Char) (cs : List Char) : openWord sep (c :: cs) =
    if sep c then ([], runs sep cs) else (c :: (openWord sep cs).1, (openWord sep cs).2) :=
  rfl

/-- A word that begins in front of a text goes on with the one that is open there. -/
theorem openWord_append (hw : ∀ c ∈ w, sep c = false) (cs : List Char) :
    openWord sep (w ++ cs) = (w ++ (openWord sep cs).1, (openWord sep cs).2) := by
  induction w with
  | nil => rfl
  | cons c w ih =>
    obtain ⟨hc, hw⟩ := List.forall_mem_cons.mp hw
    rw [List.cons_append, openWord_cons, if_neg (by simp [hc]), ih hw]
    rfl

/-- A word is the first run of a text that goes on with a separator, or ends. -/
theorem runs_append (hne : w ≠ []) (hw : ∀ c ∈ w, sep c = false) {cs : List Char}
    {rest : List (List Char)} (hcs : openWord sep cs = ([], rest)) :
    runs sep (w ++ cs) = w :: rest := by
  rw [runs, openWord_append hw, hcs, List.append_nil]
  exact if_neg (by simpa using hne)

/-- **Words with one separator between neighbours are read back.** -/
theorem runs_intercalate (hc : sep c = true)
    (hws : ∀ w ∈ ws, w ≠ [] ∧ ∀ c ∈ w, sep c = false) : runs sep ([c].intercalate ws) = ws := by
  induction ws with
  | nil => rfl
  | cons w ws ih =>
    obtain ⟨⟨hne, hw⟩, hws⟩ := List.forall_mem_cons.mp hws
    cases ws with
    | nil =>
      have hlast : runs sep (w ++ []) = [w] := runs_append hne hw rfl
      rw [List.append_nil] at hlast
      rw [List.intercalate_singleton, hlast]
    | cons w' ws =>
      rw [List.intercalate_cons_cons, List.append_assoc, List.singleton_append]
      refine runs_append hne hw ?_
      rw [openWord_cons, if_pos hc, ih hws]

/-- The runs of a text are the words after the open one, and the open one if it has begun. -/
theorem mem_runs {cs : List Char} (hw : w ∈ runs sep cs) :
    w ≠ [] ∧ w = (openWord sep cs).1 ∨ w ∈ (openWord sep cs).2 := by
  unfold runs at hw
  dsimp only at hw
  split at hw
  · exact .inr hw
  next hne =>
    refine (List.mem_cons.mp hw).imp_left ?_
    rintro rfl
    exact ⟨by simpa using hne, rfl⟩

/-- **The runs of a text** have no separator in them, and none of them is empty. -/
theorem of_mem_runs {cs : List Char} (hw : w ∈ runs sep cs) :
    w ≠ [] ∧ ∀ c ∈ w, sep c = false := by
  suffices h : (∀ c ∈ (openWord sep cs).1, sep c = false) ∧
      ∀ w ∈ (openWord sep cs).2, w ≠ [] ∧ ∀ c ∈ w, sep c = false by
    rcases mem_runs hw with ⟨hne, rfl⟩ | hw
    · exact ⟨hne, h.1⟩
    · exact h.2 w hw
  clear hw
  induction cs with
  | nil => exact ⟨nofun, nofun⟩
  | cons c cs ih =>
    rw [openWord_cons]
    split
    · -- the separator closes the word that is open behind it
      refine ⟨nofun, fun w hw => ?_⟩
      rcases mem_runs hw with ⟨hne, rfl⟩ | hw
      · exact ⟨hne, ih.1⟩
      · exact ih.2 w hw
    next hc => exact ⟨List.forall_mem_cons.mpr ⟨by simpa using hc, ih.1⟩, ih.2⟩

theorem isWord_of_mem_words {s token : String} (h : token ∈ words s) : IsWord token := by
  obtain ⟨w, hw, rfl⟩ := List.mem_map.mp h
  obtain ⟨hne, hblank⟩ := of_mem_runs hw
  refine ⟨?_, by rwa [String.toList_ofList]⟩
  rwa [Ne, String.ofList_eq_empty_iff]

/-- **Words with spaces between are the words of the text that they make.** -/
theorem words_intercalate {tokens : List String} (h : ∀ token ∈ tokens, IsWord token) :
    words (" ".intercalate tokens) = tokens := by
  have hruns : runs isAsciiBlank ([' '].intercalate (tokens.map String.toList)) =
      tokens.map String.toList := by
    refine runs_intercalate rfl fun w hw => ?_
    obtain ⟨token, htoken, rfl⟩ := List.mem_map.mp hw
    obtain ⟨hne, hblank⟩ := h token htoken
    exact ⟨fun he => hne (String.toList_eq_nil_iff.mp he), hblank⟩
  rw [words, String.toList_intercalate]
  show (runs isAsciiBlank ([' '].intercalate _)).map String.ofList = tokens
  rw [hruns, List.map_map]
  simp [Function.comp_def]

end Text

/-! ## Sets of tokens -/

namespace ClassTokens

open Text (IsWord)

variable {t : ClassTokens} {token : String} {tokens : List String}

/-- No token comes twice, and all tokens are words. -/
structure Sound (t : ClassTokens) : Prop where
  nodup : t.toList.Nodup
  words : ∀ token ∈ t.toList, IsWord token

/-- Adds tokens, or removes them. -/
def force (t : ClassTokens) (wanted : Bool) (tokens : List String) : ClassTokens :=
  if wanted then t.add tokens else t.remove tokens

namespace Sound

theorem empty : Sound {} :=
  ⟨List.nodup_nil, by simp⟩

theorem insert (h : t.Sound) (hw : IsWord token) : (t.insert token).Sound := by
  unfold ClassTokens.insert
  split
  · exact h
  next hnew =>
    have hnew : token ∉ t.toList := by
      intro hmem
      simp [contains, hmem] at hnew
    refine ⟨List.nodup_append.mpr ⟨h.nodup, by simp, ?_⟩, fun other hother => ?_⟩
    · simp only [List.mem_singleton]
      rintro x hx _ rfl rfl
      exact hnew hx
    · rcases List.mem_append.mp hother with hother | hother
      · exact h.words other hother
      · rwa [List.mem_singleton.mp hother]

theorem erase (h : t.Sound) (token : String) : (t.erase token).Sound :=
  ⟨h.nodup.filter _, fun other hother => h.words other ((List.mem_filter.mp hother).1)⟩

theorem add (h : t.Sound) (hw : ∀ token ∈ tokens, IsWord token) : (t.add tokens).Sound := by
  induction tokens generalizing t with
  | nil => exact h
  | cons token tokens ih =>
    obtain ⟨htoken, hw⟩ := List.forall_mem_cons.mp hw
    exact ih (h.insert htoken) hw

theorem remove (h : t.Sound) (tokens : List String) : (t.remove tokens).Sound := by
  induction tokens generalizing t with
  | nil => exact h
  | cons token tokens ih => exact ih (h.erase token)

theorem force (h : t.Sound) (hw : ∀ token ∈ tokens, IsWord token) (wanted : Bool) :
    (t.force wanted tokens).Sound := by
  cases wanted with
  | true => exact h.add hw
  | false => exact h.remove tokens

end Sound

theorem sound_ofAttribute (value : Option String) : (ofAttribute value).Sound :=
  .add .empty fun _ => Text.isWord_of_mem_words

/-! ## The operations as lists -/

/-- **Adding tokens** puts them behind those that are there, each at its first place. -/
theorem toList_add (h : t.Sound) (hw : ∀ token ∈ tokens, IsWord token) :
    (t.add tokens).toList = (t.toList ++ tokens).eraseDups := by
  induction tokens generalizing t with
  | nil =>
    rw [List.append_nil, eraseDups_of_nodup h.nodup]
    rfl
  | cons token tokens ih =>
    obtain ⟨htoken, hw⟩ := List.forall_mem_cons.mp hw
    have hstep := ih (h.insert htoken) hw
    by_cases hmem : token ∈ t.toList
    · have hsame : t.insert token = t := if_pos (by simp [contains, hmem])
      rw [hsame] at hstep
      rw [eraseDups_append_cons_of_mem hmem, ← hstep]
      exact congrArg (fun t => (add t tokens).toList) hsame
    · have hnew : t.insert token = ⟨t.toList ++ [token]⟩ :=
        if_neg (by simp [contains, hmem, htoken.1])
      rw [hnew, List.append_assoc, List.singleton_append] at hstep
      rw [← hstep]
      exact congrArg (fun t => (add t tokens).toList) hnew

/-- **Removing tokens** leaves the others in their order. -/
theorem toList_remove : (t.remove tokens).toList = t.toList.filter (· ∉ tokens) := by
  induction tokens generalizing t with
  | nil => exact (List.filter_eq_self.mpr fun _ _ => by simp).symm
  | cons token tokens ih =>
    show ((t.erase token).remove tokens).toList = _
    rw [ih, erase, List.filter_filter]
    refine List.filter_congr fun other _ => ?_
    by_cases he : other = token <;> simp [he]

/-- The set that an attribute spells has each of its words at the first place. -/
theorem toList_ofAttribute (value : Option String) :
    (ofAttribute value).toList = (Text.words (value.getD "")).eraseDups :=
  toList_add .empty fun _ => Text.isWord_of_mem_words

/-! ## Spelling -/

theorem words_value (h : t.Sound) : Text.words t.value = t.toList :=
  Text.words_intercalate h.words

/-- **A set is read off what it spells.** -/
theorem ofAttribute_value (h : t.Sound) : ofAttribute (some t.value) = t := by
  have hlist : (ofAttribute (some t.value)).toList = t.toList := by
    rw [toList_ofAttribute, Option.getD_some, words_value h, eraseDups_of_nodup h.nodup]
  cases t
  exact congrArg mk hlist

/-! ## One operation after another -/

theorem force_append (wanted : Bool) (tokens tokens' : List String) :
    t.force wanted (tokens ++ tokens') = (t.force wanted tokens).force wanted tokens' := by
  cases wanted <;> exact List.foldl_append

/-- Adding tokens empties no set. -/
theorem isEmpty_of_add (h : t.Sound) (hw : ∀ token ∈ tokens, IsWord token)
    (he : (t.add tokens).isEmpty = true) : t.isEmpty = true := by
  unfold isEmpty at he ⊢
  rw [List.isEmpty_iff] at he ⊢
  rw [toList_add h hw] at he
  refine List.eq_nil_iff_forall_not_mem.mpr fun token htoken => ?_
  have hmem := List.mem_eraseDups.mpr (List.mem_append_left tokens htoken)
  rw [he] at hmem
  cases hmem

/-- There is nothing to remove from the empty set. -/
theorem isEmpty_remove (h : t.isEmpty = true) (tokens : List String) :
    (t.remove tokens).isEmpty = true := by
  unfold isEmpty at h ⊢
  rw [List.isEmpty_iff] at h ⊢
  rw [toList_remove, h, List.filter_nil]

/-- Tokens that are there are not added. -/
theorem add_of_forall_mem (h : ∀ token ∈ tokens, token ∈ t.toList) : t.add tokens = t := by
  induction tokens with
  | nil => rfl
  | cons token tokens ih =>
    obtain ⟨htoken, h⟩ := List.forall_mem_cons.mp h
    have hsame : t.insert token = t := if_pos (by simp [contains, htoken])
    exact (congrArg (fun t => add t tokens) hsame).trans (ih h)

/-- Tokens that are not there are not removed. -/
theorem remove_of_forall_notMem (h : ∀ token ∈ tokens, token ∉ t.toList) : t.remove tokens = t := by
  have hlist : (t.remove tokens).toList = t.toList := by
    rw [toList_remove]
    refine List.filter_eq_self.mpr fun token htoken => decide_eq_true fun hmem => ?_
    exact h token hmem htoken
  exact congrArg mk hlist

/-- **Doing it again does nothing.** -/
theorem force_force (h : t.Sound) (hw : ∀ token ∈ tokens, IsWord token) (wanted : Bool) :
    (t.force wanted tokens).force wanted tokens = t.force wanted tokens := by
  cases wanted with
  | true =>
    refine add_of_forall_mem fun token htoken => ?_
    show token ∈ (t.add tokens).toList
    rw [toList_add h hw]
    exact List.mem_eraseDups.mpr (List.mem_append_right _ htoken)
  | false =>
    refine remove_of_forall_notMem fun token htoken hmem => ?_
    have hmem : token ∈ (t.remove tokens).toList := hmem
    rw [toList_remove] at hmem
    exact of_decide_eq_true (List.mem_filter.mp hmem).2 htoken

end ClassTokens

end WebPage
