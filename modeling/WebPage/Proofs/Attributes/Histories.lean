import WebPage.Proofs.Arrivals
import WebPage.Proofs.Attributes.Sound

/-!
# Attribute maps over histories of calls

What an attribute map holds can be told from the calls that have made it, without the map. Each
spelling of a name has a history of its own: calls under names that differ in more than case do not
count, the others make the name present or absent and write values. The map has the value that was
written last, as long as the name is present, and its names stand in the order in which they came
in.

A toggle is where the two histories meet: what it does depends on whether the name is present, and
it writes a value only where it makes the name present.

## Main definitions

* `Call`, `Call.run`, `afterCalls`: calls that change a map, and the map after them
* `presentAfter`, `written`, `valueAfter`: the history of a name, read off the calls
* `Recalls`: what a map has to do with the calls

## Main results

* `contains_run`, `get?_run`: one call, as seen under a name
* `contains_afterCalls`, `get?_afterCalls`: the same for histories
* `names_run`, `inOrder_afterCalls`: names leave from anywhere and come in behind the others
* `recalls_afterCalls`: every map that calls make recalls them
-/

namespace WebPage.Attributes

/-! ## Calls -/

/-- A call that changes a map. -/
inductive Call where
  | set (name value : String)
  | remove (name : String)
  | toggle (name : String) (force : Option Bool)
deriving DecidableEq, Repr

/-- The map after a call. -/
def Call.run (a : Attributes) : Call → Attributes
  | .set name value => (a.set name value).2
  | .remove name => (a.remove name).2
  | .toggle name force => (a.toggle name force).2

/-- The map after calls on an empty one. -/
def afterCalls (calls : List Call) : Attributes :=
  calls.foldl Call.run {}

/-- Whether a name is present after a call, if `present` tells whether it was before. -/
def Call.leavesPresent (name : String) (present : Bool) : Call → Bool
  | .set n _ => Text.equalsIgnoringCase n name || present
  | .remove n => !Text.equalsIgnoringCase n name && present
  | .toggle n force => if Text.equalsIgnoringCase n name then force.getD (!present) else present

/-- The value that a call writes under a name, if it writes one there. -/
def Call.writes? (name : String) (present : Bool) : Call → Option String
  | .set n value => if Text.equalsIgnoringCase n name then some value else none
  | .remove _ => none
  | .toggle n force =>
    if Text.equalsIgnoringCase n name && !present && force.getD true then some "" else none

/-- Whether a name is present after calls. -/
def presentAfter (name : String) (calls : List Call) : Bool :=
  calls.foldl (Call.leavesPresent name) false

/-- The values that calls write under a name, one after the other, if `present` tells whether it
is present before them. -/
def writtenFrom (name : String) : Bool → List Call → List String
  | _, [] => []
  | present, c :: calls =>
    (c.writes? name present).toList ++ writtenFrom name (c.leavesPresent name present) calls

/-- The values that calls on an empty map write under a name. -/
def written (name : String) (calls : List Call) : List String :=
  writtenFrom name false calls

/-- The value of a name after calls: the last one that was written, as long as the name is
present. -/
def valueAfter (name : String) (calls : List Call) : Option String :=
  if presentAfter name calls then (written name calls).getLast? else none

/-- Whether a name, as it is kept, is present after calls. -/
def KeptAfter (name : String) (calls : List Call) : Prop :=
  Text.lowerAscii name = name ∧ presentAfter name calls = true

/-- What a map has to do with the calls on an empty map that have made it. -/
structure Recalls (a : Attributes) (calls : List Call) : Prop where
  /-- The names are kept in small letters, and no two are equal. -/
  sound : a.Sound
  get? : ∀ name, a.get? name = valueAfter name calls
  set : ∀ name value, (a.set name value).1 = valueAfter name calls
  remove : ∀ name, (a.remove name).1 = valueAfter name calls
  /-- A toggle tells whether the name is present after it. -/
  toggle : ∀ name force,
    (a.toggle name force).1 = presentAfter name (calls ++ [.toggle name force])
  /-- The names stand in the order in which they came in after they were absent last. -/
  names : InOrder KeptAfter calls a.names

/-! ## The histories of a name -/

variable {a : Attributes} {name : String} {calls : List Call} {c : Call}

theorem afterCalls_concat : afterCalls (calls ++ [c]) = c.run (afterCalls calls) := by
  rw [afterCalls, List.foldl_concat, afterCalls]

theorem presentAfter_concat :
    presentAfter name (calls ++ [c]) = c.leavesPresent name (presentAfter name calls) := by
  rw [presentAfter, List.foldl_concat, presentAfter]

theorem written_concat : written name (calls ++ [c]) =
    written name calls ++ (c.writes? name (presentAfter name calls)).toList := by
  unfold written presentAfter
  generalize false = present
  induction calls generalizing present with
  | nil => simp [writtenFrom]
  | cons d calls ih =>
    rw [List.cons_append, writtenFrom, writtenFrom, ih, List.foldl_cons, List.append_assoc]

/-! ## One call -/

theorem Sound.run (h : a.Sound) (c : Call) : (c.run a).Sound := by
  cases c with
  | set n value => exact h.insert n value
  | remove n => exact h.erase n
  | toggle n force => exact h.toggle n force

/-- **A call, as seen by whether a name is present.** -/
theorem contains_run (h : a.Sound) (c : Call) (name : String) :
    (c.run a).contains name = c.leavesPresent name (a.contains name) := by
  cases c with
  | set n value => exact (contains_insert a n value name).trans (Bool.or_comm _ _)
  | remove n => exact (h.contains_erase n name).trans (Bool.and_comm _ _)
  | toggle n force =>
    refine (h.contains_toggle n force name).trans ?_
    rw [Call.leavesPresent]
    split
    next hn => rw [contains, contains, named_congr hn]
    next => rfl

/-- A toggle writes the empty value where it makes a name present, and nothing elsewhere. -/
theorem get?_toggle (h : a.Sound) (n : String) (force : Option Bool)
    (hpresent : (a.toggle n force).2.contains name = true) :
    (a.toggle n force).2.get? name =
      ((Call.toggle n force).writes? name (a.contains name)).or (a.get? name) := by
  rw [Call.writes?]
  rw [toggle_eq_some] at hpresent ⊢
  cases hsame : Text.equalsIgnoringCase n name with
  | false =>
    rw [get?_toggle_of_ne a hsame]
    rfl
  | true =>
    have hcontains : a.contains n = a.contains name := by
      rw [contains, contains, named_congr hsame]
    -- the name is wanted, since it is present afterwards
    rw [h.contains_toggle, if_pos hsame] at hpresent
    rw [show force.getD (!a.contains n) = true from hpresent]
    cases hbefore : a.contains n with
    | true =>
      rw [toggle_of_contains hbefore, ← hcontains, hbefore]
      rfl
    | false =>
      have hforce : force.getD true = true := by simpa [hbefore] using hpresent
      rw [toggle_of_absent hbefore, get?_insert, if_pos hsame, ← hcontains, hbefore, hforce]
      rfl

/-- **A call, as seen by the value of a name.** -/
theorem get?_run (h : a.Sound) (c : Call) (name : String) :
    (c.run a).get? name =
      if (c.run a).contains name then (c.writes? name (a.contains name)).or (a.get? name)
      else none := by
  split
  next hpresent =>
    cases c with
    | set n value =>
      refine (get?_insert a n value name).trans ?_
      rw [Call.writes?]
      split <;> rfl
    | remove n =>
      -- a name that is present after the removal of another one
      refine get?_erase_of_ne a ?_
      rw [Call.run, Attributes.remove, h.contains_erase, Bool.and_eq_true] at hpresent
      simpa using hpresent.2
    | toggle n force => exact get?_toggle h n force hpresent
  next habsent =>
    rw [← Option.isNone_iff_eq_none, ← Option.not_isSome, isSome_get?]
    simpa using habsent

/-- A name that comes in has got a value. -/
theorem Call.present_of_writes?_eq_none {present : Bool} (h : c.writes? name present = none)
    (hafter : c.leavesPresent name present = true) : present = true := by
  cases present with
  | true => rfl
  | false =>
    cases c with
    | set n value => simp_all [Call.writes?, Call.leavesPresent]
    | remove n => simp [Call.leavesPresent] at hafter
    | toggle n force =>
      simp only [Call.writes?, Call.leavesPresent] at h hafter
      split at hafter <;> simp_all

/-- **Names leave from anywhere, and come in behind the others.** -/
theorem names_run (h : a.Sound) (c : Call) : (c.run a).names.Sublist a.names ∨
    ∃ k, k ∉ a.names ∧ (c.run a).names = a.names ++ [k] := by
  have hinsert : ∀ n value, (a.insert n value).names.Sublist a.names ∨
      ∃ k, k ∉ a.names ∧ (a.insert n value).names = a.names ++ [k] := by
    intro n value
    rw [names_insert]
    split
    next => exact .inl (List.Sublist.refl _)
    next hnew => exact .inr ⟨Text.lowerAscii n, fun hk => hnew (h.contains_iff.mpr hk), rfl⟩
  have herase : ∀ n, (a.erase n).names.Sublist a.names := fun n =>
    List.eraseP_sublist.map Prod.fst
  cases c with
  | set n value => exact hinsert n value
  | remove n => exact .inl (herase n)
  | toggle n force =>
    rw [Call.run, Attributes.toggle]
    dsimp only
    split
    · exact hinsert n ""
    · split
      · exact .inl (herase n)
      · exact .inl (List.Sublist.refl _)

theorem Sound.mem_names_iff (h : a.Sound) :
    name ∈ a.names ↔ Text.lowerAscii name = name ∧ a.contains name = true := by
  rw [h.contains_iff]
  constructor
  · intro hn
    have hsmall := h.small name hn
    exact ⟨hsmall, hsmall.symm ▸ hn⟩
  · rintro ⟨hsmall, hn⟩
    rwa [hsmall] at hn

/-! ## Histories of calls -/

theorem sound_afterCalls (calls : List Call) : (afterCalls calls).Sound := by
  induction calls using List.reverseRecOn with
  | nil => exact sound_empty
  | append_singleton calls c ih =>
    rw [afterCalls_concat]
    exact ih.run c

theorem contains_afterCalls (calls : List Call) (name : String) :
    (afterCalls calls).contains name = presentAfter name calls := by
  induction calls using List.reverseRecOn with
  | nil => rfl
  | append_singleton calls c ih =>
    rw [afterCalls_concat, contains_run (sound_afterCalls calls), ih, presentAfter_concat]

/-- **The value of a name is the one that was written last.** -/
theorem get?_afterCalls (calls : List Call) (name : String) :
    (afterCalls calls).get? name = valueAfter name calls := by
  induction calls using List.reverseRecOn with
  | nil => rfl
  | append_singleton calls c ih =>
    rw [afterCalls_concat, get?_run (sound_afterCalls calls), ih,
      contains_run (sound_afterCalls calls), contains_afterCalls, valueAfter, valueAfter,
      presentAfter_concat, written_concat, List.getLast?_append]
    split
    next hafter =>
      cases hw : c.writes? name (presentAfter name calls) with
      | some value => rfl
      | none => rw [if_pos (Call.present_of_writes?_eq_none hw hafter)]; rfl
    next => rfl

/-- **The names stand in the order in which they came in.** -/
theorem inOrder_afterCalls (calls : List Call) :
    InOrder KeptAfter calls (afterCalls calls).names := by
  refine inOrder_of_step (fun calls => (afterCalls calls).names) rfl (fun calls name => ?_)
    (fun calls c => ?_) calls
  · rw [(sound_afterCalls calls).mem_names_iff, contains_afterCalls, KeptAfter]
  · rw [afterCalls_concat]
    exact names_run (sound_afterCalls calls) c

/-- **Every map that calls make recalls them.** It keeps its names small and apart, in the order in
which they came in. Under every spelling of a name it has the value that was written last, none if
the name never came in or has been removed since. The calls answer with that value, and a toggle
with whether the name is present. -/
theorem recalls_afterCalls (calls : List Call) : (afterCalls calls).Recalls calls where
  sound := sound_afterCalls calls
  get? := get?_afterCalls calls
  set := fun name _ => get?_afterCalls calls name
  remove := get?_afterCalls calls
  toggle := fun name force => by
    have hself : Text.equalsIgnoringCase name name = true := beq_self_eq_true _
    rw [← contains_afterCalls, afterCalls_concat, Call.run,
      (sound_afterCalls calls).contains_toggle, if_pos hself]
    rfl
  names := inOrder_afterCalls calls

/-- A name that leaves and comes in again is the last one, and a toggle does not touch a value. -/
example :
    (afterCalls [.set "ID" "a", .set "b" "1", .toggle "B" (some true), .remove "Id",
      .toggle "iD" none]).entries = [("b", "1"), ("id", "")] := by
  decide +kernel

end WebPage.Attributes
