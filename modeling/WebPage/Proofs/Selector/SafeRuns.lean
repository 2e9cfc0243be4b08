import WebPage.Proofs.Selector.Scanner

/-!
# Safe runs of a scanner

A position of a text is described by what stands from there on. From that follows what makes it
safe: a character begins there or the text ends, the character that is seen is the first of the
rest, and a shorter rest stands at a larger position. So a scanner is followed by the rests that it
leaves. Its run is safe if nothing on the way is a look at a wrong place or a step that does not go
on, and it ends with a value and a rest, or refuses, as its specification says.

The rules are those of the ways to put scanners together. A loop has a goal for each state and rest;
a turn that is not the last has to leave a shorter rest, and a state with the same goal.

## Main definitions

* `Scanner.At`: what stands at a position
* `Scanner.Run.Safe`: a safe run, with what it has to end with
* `Scanner.Run.Takes`: a safe run with a known end
* `Scanner.GoesOn`: what a turn of a loop has to do

## Main results

* `Scanner.Run.Takes.bind`, `Scanner.Run.Takes.then`, `Scanner.safe_eat_bind`: one scanner after
  another
* `Scanner.takes_turns`: a loop
* `Scanner.takes_peek`, `Scanner.takes_bump`, `Scanner.takes_blanks`: characters and blanks
-/

namespace WebPage.Selector.Scanner

variable {src : String} {α β σ : Type} {p q : Nat} {r r' : List Char} {c : Char}

/-! ## Positions -/

/-- At this position of a text stands the rest: what is before takes that many bytes. -/
def At (src : String) (pos : Nat) (rest : List Char) : Prop :=
  ∃ front : String, src = front ++ String.ofList rest ∧ pos = front.utf8ByteSize

theorem at_zero (src : String) : At src 0 src.toList :=
  ⟨"", by simp, by simp⟩

theorem At.size (h : At src p r) : p + (String.ofList r).utf8ByteSize = src.utf8ByteSize := by
  obtain ⟨front, rfl, rfl⟩ := h
  exact String.utf8ByteSize_append.symm

theorem At.le_size (h : At src p r) : p ≤ src.utf8ByteSize := by
  have := h.size
  omega

theorem At.size_le_iff (h : At src p r) : src.utf8ByteSize ≤ p ↔ r = [] := by
  have hsize := h.size
  rw [← String.ofList_eq_empty_iff, ← String.utf8ByteSize_eq_zero_iff]
  omega

theorem At.isValid (h : At src p r) : String.Pos.Raw.IsValid src ⟨p⟩ := by
  obtain ⟨front, hsrc, rfl⟩ := h
  exact String.Pos.Raw.isValid_iff_exists_append.mpr ⟨front, _, hsrc, rfl⟩

/-- What is seen at a position is the first character of the rest. -/
theorem At.get?_eq (h : At src p r) : String.Pos.get? ⟨⟨p⟩, h.isValid⟩ = r.head? := by
  obtain ⟨front, hsrc, hp⟩ := id h
  have hs : String.Pos.Splits ⟨⟨p⟩, h.isValid⟩ front (String.ofList r) :=
    ⟨hsrc, congrArg String.Pos.Raw.mk hp⟩
  cases r with
  | nil => exact String.Pos.get?_eq_none_iff.mpr (hs.eq_endPos_iff.mpr rfl)
  | cons c r =>
    rw [String.ofList_cons] at hs
    rw [String.Pos.get?_eq_some_get hs.ne_endPos_of_singleton]
    exact congrArg some (String.Pos.Splits.get_eq_of_singleton hs.next)

/-- A character takes as many bytes as its encoding has. -/
theorem At.forward (h : At src p (c :: r)) : At src (p + c.utf8Size) r := by
  obtain ⟨front, rfl, rfl⟩ := h
  refine ⟨front ++ String.singleton c, ?_, ?_⟩
  · rw [String.ofList_cons, String.append_assoc]
  · rw [String.utf8ByteSize_append, String.utf8ByteSize_singleton]

/-- A shorter rest stands at a larger position. -/
theorem At.lt (h : At src p r) (h' : At src q r') (hlt : r'.length < r.length) : p < q := by
  obtain ⟨front, rfl, rfl⟩ := h
  obtain ⟨front', hsrc, rfl⟩ := h'
  have hlist : front.toList ++ r = front'.toList ++ r' := by
    simpa using congrArg String.toList hsrc
  rcases List.append_eq_append_iff.mp hlist with ⟨d, hd, rfl⟩ | ⟨d, -, rfl⟩
  · have hfront : front' = front ++ String.ofList d := String.toList_inj.mp (by simp [hd])
    have hne : (String.ofList d).utf8ByteSize ≠ 0 := by
      rw [ne_eq, String.utf8ByteSize_eq_zero_iff, String.ofList_eq_empty_iff]
      rintro rfl
      simp at hlt
    rw [hfront, String.utf8ByteSize_append]
    omega
  · rw [List.length_append] at hlt
    omega

/-! ## Safe runs -/

/-- What may happen: a look at a place where a character begins or the text ends, and a step to a
larger position. -/
def Event.Safe (src : String) : Event → Prop
  | .peek pos => pos ≤ src.utf8ByteSize ∧ String.Pos.Raw.IsValid src ⟨pos⟩
  | .turn _ start stop => start < stop
  | .nested outer inner => outer < inner

/-- What a run may end with: a value and a position, where the rest has to be as `Read` says, or a
refusal, if `Refused` holds. -/
def Outcome.Meets (src : String) (Read : α → List Char → Prop) (Refused : Prop) :
    Outcome α → Prop
  | .read value pos => ∃ rest, At src pos rest ∧ Read value rest
  | .refused => Refused
  | .stuck => False

/-- A run that is safe all the way and ends as it should. -/
structure Run.Safe (src : String) (Read : α → List Char → Prop) (Refused : Prop) (x : Run α) :
    Prop where
  events : ∀ e ∈ x.events, e.Safe src
  outcome : x.outcome.Meets src Read Refused

/-- A safe run that takes a known value and leaves a known rest, or refuses. -/
abbrev Run.Takes (src : String) (o : Option (α × List Char)) (x : Run α) : Prop :=
  x.Safe src (fun value rest => o = some (value, rest)) (o = none)

section Rules

variable {Read : α → List Char → Prop} {ReadNext : β → List Char → Prop} {Refused : Prop}
  {o : Option (α × List Char)} {value : α} {x : Scanner src α} {next : α → Scanner src β}

theorem Run.Safe.mono {Read' : α → List Char → Prop} {Refused' : Prop} {x : Run α}
    (hx : x.Safe src Read Refused) (hread : ∀ value r, Read value r → Read' value r)
    (hrefused : Refused → Refused') : x.Safe src Read' Refused' := by
  obtain ⟨events, outcome⟩ := x
  obtain ⟨hevents, houtcome⟩ := hx
  refine ⟨hevents, ?_⟩
  cases outcome with
  | read value q =>
    obtain ⟨r, hat, hr⟩ := houtcome
    exact ⟨r, hat, hread value r hr⟩
  | refused => exact hrefused houtcome
  | stuck => exact houtcome

theorem Run.Safe.after {e : Event} {x : Run α} (hx : x.Safe src Read Refused) (he : e.Safe src) :
    (x.after [e]).Safe src Read Refused :=
  ⟨by simpa [Run.after] using ⟨he, hx.events⟩, hx.outcome⟩

/-- One run after another. -/
theorem Run.Safe.andThen {x : Run α} {next : α → Nat → Run β} (hx : x.Safe src Read Refused)
    (hnext : ∀ value r q, Read value r → At src q r → (next value q).Safe src ReadNext Refused) :
    (x.andThen next).Safe src ReadNext Refused := by
  obtain ⟨events, outcome⟩ := x
  obtain ⟨hevents, houtcome⟩ := hx
  cases outcome with
  | read value q =>
    obtain ⟨r, hat, hread⟩ := houtcome
    have hn := hnext value r q hread hat
    refine ⟨fun e he => ?_, hn.outcome⟩
    rcases List.mem_append.mp he with he | he
    · exact hevents e he
    · exact hn.events e he
  | refused => exact ⟨hevents, houtcome⟩
  | stuck => exact houtcome.elim

theorem safe_pure (hat : At src p r) (h : Read value r) :
    ((pure value : Scanner src α).run p).Safe src Read Refused :=
  ⟨by simp [pure], r, hat, h⟩

theorem safe_refuse (h : Refused) : ((refuse : Scanner src α).run p).Safe src Read Refused :=
  ⟨by simp [refuse], h⟩

/-- A scanner after one that may refuse. -/
theorem Run.Takes.safe_bind (hx : (x.run p).Takes src o) (hnone : o = none → Refused)
    (hnext : ∀ value r q, o = some (value, r) → At src q r →
      ((next value).run q).Safe src ReadNext Refused) :
    ((x >>= next).run p).Safe src ReadNext Refused :=
  (hx.mono (fun _ _ => id) hnone).andThen hnext

/-- A scanner after one that refuses no text. -/
theorem Run.Takes.then (hx : (x.run p).Takes src (some (value, r)))
    (hnext : ∀ q, At src q r → ((next value).run q).Safe src ReadNext Refused) :
    ((x >>= next).run p).Safe src ReadNext Refused :=
  hx.safe_bind nofun fun _ _ q h hat => by
    cases h
    exact hnext q hat

/-- One scanner after another takes what both take. -/
theorem Run.Takes.bind {f : α × List Char → Option (β × List Char)} (hx : (x.run p).Takes src o)
    (hnext : ∀ value r q, o = some (value, r) → At src q r →
      ((next value).run q).Takes src (f (value, r))) :
    ((x >>= next).run p).Takes src (o.bind f) := by
  cases o with
  | none => exact hx.safe_bind (fun _ => rfl) nofun
  | some y => exact hx.then fun q hat => hnext y.1 y.2 q rfl hat

/-- A scanner whose value goes through a function. -/
theorem Run.Takes.map {f : α → β} (hx : (x.run p).Takes src o) :
    ((x >>= fun value => pure (f value)).run p).Takes src (o.map (Prod.map f id)) := by
  rw [Option.map_eq_bind]
  exact hx.bind fun value r q _ hat => safe_pure hat rfl

end Rules

/-! ## Characters -/

theorem takes_position (hat : At src p r) :
    ((position : Scanner src Nat).run p).Takes src (some (p, r)) :=
  ⟨by simp [position], r, hat, rfl⟩

theorem takes_peek (hat : At src p r) :
    ((peek : Scanner src _).run p).Takes src (some (r.head?, r)) := by
  unfold peek
  dsimp only
  rw [dif_pos hat.isValid, hat.get?_eq]
  exact ⟨by simpa [Event.Safe] using ⟨hat.le_size, hat.isValid⟩, r, hat, rfl⟩

/-- In the middle of a character there is nothing to look at. -/
example : ((peek : Scanner "é" _).run 1).outcome = .stuck := by
  rfl

theorem takes_forward (hat : At src p (c :: r)) :
    ((forward c.utf8Size : Scanner src _).run p).Takes src (some ((), r)) :=
  ⟨by simp [Scanner.forward], r, hat.forward, rfl⟩

theorem takes_bump (hat : At src p r) :
    ((bump : Scanner src _).run p).Takes src (some (r.head?, r.tail)) := by
  refine (takes_peek hat).then fun q hat => ?_
  cases r with
  | nil => exact safe_pure hat rfl
  | cons c r => exact (takes_forward hat).then fun q hat => safe_pure hat rfl

theorem takes_eat (hat : At src p r) : ((eat c : Scanner src _).run p).Takes src
    (some (decide (r.head? = some c), if r.head? = some c then r.tail else r)) := by
  refine (takes_peek hat).then fun q hat => ?_
  by_cases hc : r.head? = some c
  · obtain ⟨t, rfl⟩ := List.head?_eq_some_iff.mp hc
    rw [if_pos hc, if_pos hc, decide_eq_true hc]
    exact (takes_forward hat).then fun q hat => safe_pure hat rfl
  · rw [if_neg hc, if_neg hc, decide_eq_false hc]
    exact safe_pure hat rfl

/-- A scanner after `eat`. -/
theorem safe_eat_bind {ReadNext : β → List Char → Prop} {Refused : Prop}
    {next : Bool → Scanner src β} (hat : At src p r)
    (hyes : ∀ t q, r = c :: t → At src q t → ((next true).run q).Safe src ReadNext Refused)
    (hno : r.head? ≠ some c → ∀ q, At src q r → ((next false).run q).Safe src ReadNext Refused) :
    ((eat c >>= next).run p).Safe src ReadNext Refused := by
  refine (takes_eat hat).then fun q hat => ?_
  by_cases hc : r.head? = some c
  · obtain ⟨t, rfl⟩ := List.head?_eq_some_iff.mp hc
    rw [if_pos hc] at hat
    rw [decide_eq_true hc]
    exact hyes t q rfl hat
  · rw [if_neg hc] at hat
    rw [decide_eq_false hc]
    exact hno hc q hat

/-! ## Loops -/

/-- What a turn has to do in order that the loop takes the `goal` of its state and rest: if it is
not the last, it leaves a shorter rest, and a state with the same goal. -/
def GoesOn (goal : σ → List Char → Option (α × List Char)) (state : σ) (r : List Char) :
    Turn σ α → List Char → Prop
  | .again state', r' => r'.length < r.length ∧ goal state r = goal state' r'
  | .done value, r' => goal state r = some (value, r')

/-- **A loop with safe turns** is safe, and takes its goal. -/
theorem takes_turns (loop : Loop) {turn : σ → Scanner src (Turn σ α)}
    {goal : σ → List Char → Option (α × List Char)} {n : Nat}
    (hturn : ∀ state p r, At src p r → r.length ≤ n →
      ((turn state).run p).Safe src (GoesOn goal state r) (goal state r = none))
    (state : σ) {p : Nat} {r : List Char} (hat : At src p r) (hn : r.length ≤ n) :
    ((turns loop turn state).run p).Takes src (goal state r) := by
  show (turnsFrom loop turn state p).Takes src (goal state r)
  -- each turn but the last leaves a shorter rest
  induction hlen : r.length using Nat.strongRecOn generalizing state p r with
  | ind m ih =>
    rw [turnsFrom]
    refine (hturn state p r hat hn).andThen fun next r' q hnext hat' => ?_
    cases next with
    | done value => exact safe_pure hat' hnext
    | again state' =>
      obtain ⟨hshort, hgoal⟩ := hnext
      have hlt : p < q := hat.lt hat' hshort
      dsimp only
      rw [dif_pos ⟨hlt, hat'.le_size⟩, hgoal]
      exact (ih _ (hlen ▸ hshort) state' hat' (by omega) rfl).after hlt

theorem safe_blanksTurn {u : Unit} (hat : At src p r) :
    ((blanksTurn u : Scanner src _).run p).Safe src
      (GoesOn (fun _ r => some ((), skipBlanks r)) u r) (some ((), skipBlanks r) = none) := by
  refine (takes_peek hat).then fun q hat => ?_
  cases r with
  | nil => exact safe_pure hat rfl
  | cons c r =>
    by_cases hc : Text.isBlank c = true
    · rw [if_pos (by simpa using hc)]
      refine (takes_bump hat).then fun q hat => safe_pure hat ⟨Nat.lt_succ_self _, ?_⟩
      simp [skipBlanks, hc]
    · rw [if_neg (by simpa using hc)]
      exact safe_pure hat (by simp [GoesOn, skipBlanks, hc])

theorem takes_blanks (hat : At src p r) : ((blanks : Scanner src Bool).run p).Takes src
    (some (decide ((skipBlanks r).length < r.length), skipBlanks r)) := by
  refine (takes_position hat).then fun start hstart => ?_
  have hloop : ((turns .blanks blanksTurn () : Scanner src Unit).run start).Takes src
      (some ((), skipBlanks r)) :=
    takes_turns .blanks (fun _ _ _ hat _ => safe_blanksTurn hat) () hstart (Nat.le_refl _)
  refine hloop.then fun stop hstop => (takes_position hstop).then fun q hq => ?_
  have hmoved : stop ≠ p ↔ (skipBlanks r).length < r.length := by
    refine ⟨fun hne => ?_, fun hlt => Nat.ne_of_gt (hat.lt hstop hlt)⟩
    refine Nat.lt_of_le_of_ne (length_skipBlanks_le r) fun hlen => hne ?_
    -- nothing is left out, so the rest stands where it stood
    have hsame : skipBlanks r = r := (List.dropWhile_sublist _).eq_of_length hlen
    have h₁ := hat.size
    have h₂ := hstop.size
    rw [hsame] at h₂
    omega
  exact safe_pure hq (by rw [decide_eq_decide.mpr hmoved])

end WebPage.Selector.Scanner
