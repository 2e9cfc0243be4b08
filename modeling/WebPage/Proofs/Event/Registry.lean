import WebPage.Proofs.Arrivals
import WebPage.Proofs.Document.Registrations

/-!
# Registries over histories of calls

The listeners of an element are an ordered set. A registration is in it under its key, which is the
type, the listener and the capture flag, and once only. So the registrations can be told from the
calls that have made the registry: a key is registered if the last call with it has added it, and
its place and its options are those of the call that it came in with. A later call with the same
key changes nothing, whatever its options.

An event looks at the registrations of its type. At the target it finds all of them; on the way
down and on the way up it finds the two parts that the capture flag makes of them.

## Main definitions

* `Call`, `Call.run`, `afterCalls`: calls that change a registry, and the registry after them
* `registeredAfter`: whether a key is registered, read off the calls
* `Mirrors`: what a registry has to do with the calls

## Main results

* `add_of_mem`, `add_of_notMem`, `remove_of_mem`, `remove_of_notMem`: the four outcomes of a call
* `mem_keys_run`, `keys_run`, `mem_entries_run`: the registrations after a call
* `mem_keys_afterCalls`, `inOrder_afterCalls`, `exists_add_of_mem`: the same for histories
* `matching_capturing`, `matching_bubbling`, `count_eq`: the parts of the registrations of a type
* `mirrors_afterCalls`: every registry that calls make mirrors them
-/

namespace WebPage.Listeners

/-! ## Calls -/

/-- A call that changes a registry. -/
inductive Call where
  | add (type : String) (listener : Listener) (options : ListenerOptions)
  | remove (type : String) (listener : Listener) (capture : Bool)
deriving DecidableEq, Repr

/-- What the registration of a call is known by. -/
def Call.key : Call → String × Listener × Bool
  | .add type listener options => (type, listener, options.capture)
  | .remove type listener capture => (type, listener, capture)

/-- The registry after a call. -/
def Call.run (l : Listeners) : Call → Listeners
  | .add type listener options => (l.add type listener options).2
  | .remove type listener capture => (l.remove type listener capture).2

/-- The registry after calls on an empty one. -/
def afterCalls (calls : List Call) : Listeners :=
  calls.foldl Call.run .empty

/-- Whether a key is registered after a call, if `registered` tells whether it was before. -/
def Call.leavesRegistered (key : String × Listener × Bool) (registered : Bool) (c : Call) : Bool :=
  if c.key = key then
    match c with
    | .add .. => true
    | .remove .. => false
  else registered

/-- Whether a key is registered after calls on an empty registry. -/
def registeredAfter (key : String × Listener × Bool) (calls : List Call) : Bool :=
  calls.foldl (Call.leavesRegistered key) false

/-- The keys of a registry, in order. -/
def keys (l : Listeners) : List (String × Listener × Bool) :=
  l.entries.map Registration.key

/-- What a registry has to do with the calls on an empty registry that have made it. -/
structure Mirrors (l : Listeners) (calls : List Call) : Prop where
  nodup : l.keys.Nodup
  /-- The registrations stand in the order in which they came in after they were absent last. -/
  order : InOrder (fun key calls => registeredAfter key calls = true) calls l.keys
  /-- A registration has the options of the call that it came in with. -/
  options : ∀ r ∈ l.entries, ∃ i,
    CameIn (fun calls => registeredAfter r.key calls = true) calls i ∧
      calls[i]? = some (.add r.type r.listener r.options)
  add_absent : ∀ type listener options,
    registeredAfter (type, listener, options.capture) calls = false →
      (l.add type listener options).1 = true ∧
        (l.add type listener options).2.entries = l.entries ++ [⟨type, listener, options⟩]
  add_present : ∀ type listener options,
    registeredAfter (type, listener, options.capture) calls = true →
      l.add type listener options = (false, l)
  remove_absent : ∀ type listener capture,
    registeredAfter (type, listener, capture) calls = false →
      l.remove type listener capture = (false, l)
  /-- A registration that is taken out leaves the others in their order. -/
  remove_present : ∀ type listener capture,
    registeredAfter (type, listener, capture) calls = true →
      (l.remove type listener capture).1 = true ∧ ∃ before r after,
        r.key = (type, listener, capture) ∧ l.entries = before ++ r :: after ∧
          (l.remove type listener capture).2.entries = before ++ after
  remove_gone : ∀ type listener capture,
    (type, listener, capture) ∉ (l.remove type listener capture).2.keys
  /-- At the target an event finds all registrations of its type, in their order. -/
  atTarget : ∀ type, l.matching type .atTarget =
    (l.entries.filter fun r => r.type == type).map fun r => (r.listener, r.options)
  capturing : ∀ type, l.matching type .capturing =
    (l.matching type .atTarget).filter fun entry => entry.2.capture
  bubbling : ∀ type, l.matching type .bubbling =
    (l.matching type .atTarget).filter fun entry => !entry.2.capture
  count : ∀ type, l.count type =
    (l.matching type .capturing).length + (l.matching type .bubbling).length

variable {l : Listeners} {type : String} {listener : Listener} {options : ListenerOptions}
  {capture : Bool} {key : String × Listener × Bool} {r : Registration} {calls : List Call}
  {c : Call}

/-! ## One call -/

theorem contains_iff :
    l.contains type listener capture = true ↔ (type, listener, capture) ∈ l.keys := by
  rw [contains, List.any_eq_true, keys, List.mem_map]
  exact exists_congr fun r => and_congr_right fun _ => Registration.isFor_iff

theorem add_of_mem (h : (type, listener, options.capture) ∈ l.keys) :
    l.add type listener options = (false, l) :=
  dif_pos (contains_iff.mpr h)

theorem add_of_notMem (h : (type, listener, options.capture) ∉ l.keys) :
    (l.add type listener options).1 = true ∧
      (l.add type listener options).2.entries = l.entries ++ [⟨type, listener, options⟩] := by
  rw [← contains_iff] at h
  rw [add, dif_neg h]
  exact ⟨rfl, rfl⟩

theorem remove_of_notMem (h : (type, listener, capture) ∉ l.keys) :
    l.remove type listener capture = (false, l) := by
  rw [← contains_iff, Bool.not_eq_true] at h
  have hnone : ∀ r ∈ l.entries, ¬ r.isFor type listener capture = true := List.any_eq_false.mp h
  unfold remove
  simp only [h, List.eraseP_of_forall_not hnone]

/-- **A registration that is taken out** leaves the others as they stand. -/
theorem remove_of_mem (h : (type, listener, capture) ∈ l.keys) :
    (l.remove type listener capture).1 = true ∧ ∃ before r after,
      r.key = (type, listener, capture) ∧ l.entries = before ++ r :: after ∧
        (l.remove type listener capture).2.entries = before ++ after := by
  refine ⟨contains_iff.mpr h, ?_⟩
  obtain ⟨r, hr, hk⟩ := List.any_eq_true.mp (contains_iff.mpr h)
  obtain ⟨r, before, after, -, hk, hentries, herased⟩ := List.exists_of_eraseP hr hk
  exact ⟨before, r, after, Registration.isFor_iff.mp hk, hentries, herased⟩

theorem mem_keys_remove : key ∈ (l.remove type listener capture).2.keys ↔
    key ≠ (type, listener, capture) ∧ key ∈ l.keys := by
  simp only [keys, remove_entries, List.mem_map, List.mem_filter, Bool.not_eq_true',
    ← Bool.not_eq_true, Registration.isFor_iff]
  constructor
  · rintro ⟨r, ⟨hr, hne⟩, rfl⟩
    exact ⟨hne, r, hr, rfl⟩
  · rintro ⟨hne, r, hr, rfl⟩
    exact ⟨r, ⟨hr, hne⟩, rfl⟩

theorem keys_add_of_notMem (h : (type, listener, options.capture) ∉ l.keys) :
    (l.add type listener options).2.keys = l.keys ++ [(type, listener, options.capture)] := by
  rw [keys, (add_of_notMem h).2, List.map_append]
  rfl

/-- **A call decides on its own key.** -/
theorem mem_keys_run (c : Call) :
    key ∈ (c.run l).keys ↔ c.leavesRegistered key (decide (key ∈ l.keys)) = true := by
  cases c with
  | add type listener options =>
    rw [Call.run, Call.leavesRegistered, Call.key]
    by_cases h : (type, listener, options.capture) ∈ l.keys
    · rw [add_of_mem h]
      split
      next hk => simpa [← hk] using h
      next => simp
    · rw [keys_add_of_notMem h, List.mem_append, List.mem_singleton]
      split
      next hk => simp [hk]
      next hk => simp [Ne.symm hk]
  | remove type listener capture =>
    rw [Call.run, Call.leavesRegistered, Call.key, mem_keys_remove]
    split
    next hk => simp [hk]
    next hk => simp [Ne.symm hk]

/-- **Keys leave from anywhere, and come in behind the others.** -/
theorem keys_run (l : Listeners) (c : Call) : (c.run l).keys.Sublist l.keys ∨
    ∃ k, k ∉ l.keys ∧ (c.run l).keys = l.keys ++ [k] := by
  cases c with
  | add type listener options =>
    rw [Call.run]
    by_cases h : (type, listener, options.capture) ∈ l.keys
    · rw [add_of_mem h]
      exact .inl (List.Sublist.refl _)
    · exact .inr ⟨_, h, keys_add_of_notMem h⟩
  | remove type listener capture => exact .inl (List.eraseP_sublist.map _)

/-- A registration after a call was there before, or it is the one that the call has added. -/
theorem mem_entries_run (hr : r ∈ (c.run l).entries) :
    r ∈ l.entries ∨ (c = .add r.type r.listener r.options ∧ r.key ∉ l.keys) := by
  cases c with
  | add type listener options =>
    rw [Call.run] at hr
    by_cases h : (type, listener, options.capture) ∈ l.keys
    · rw [add_of_mem h] at hr
      exact .inl hr
    · rw [(add_of_notMem h).2] at hr
      rcases List.mem_append.mp hr with hr | hr
      · exact .inl hr
      · obtain rfl := List.mem_singleton.mp hr
        exact .inr ⟨rfl, h⟩
  | remove type listener capture => exact .inl (List.mem_of_mem_eraseP hr)

/-! ## Histories of calls -/

theorem afterCalls_concat : afterCalls (calls ++ [c]) = c.run (afterCalls calls) := by
  rw [afterCalls, List.foldl_concat, afterCalls]

theorem mem_keys_afterCalls (calls : List Call) (key : String × Listener × Bool) :
    key ∈ (afterCalls calls).keys ↔ registeredAfter key calls = true := by
  induction calls using List.reverseRecOn with
  | nil => exact iff_of_false List.not_mem_nil Bool.false_ne_true
  | append_singleton calls c ih =>
    rw [afterCalls_concat, mem_keys_run, registeredAfter, List.foldl_concat, ← registeredAfter]
    simp only [ih, Bool.decide_eq_true]

/-- **The registrations stand in the order in which they came in.** -/
theorem inOrder_afterCalls (calls : List Call) :
    InOrder (fun key calls => registeredAfter key calls = true) calls (afterCalls calls).keys := by
  refine inOrder_of_step (fun calls => (afterCalls calls).keys) rfl mem_keys_afterCalls
    (fun calls c => ?_) calls
  rw [afterCalls_concat]
  exact keys_run (afterCalls calls) c

/-- **A registration has the options of the call that it came in with.** -/
theorem exists_add_of_mem (hr : r ∈ (afterCalls calls).entries) :
    ∃ i, CameIn (fun calls => registeredAfter r.key calls = true) calls i ∧
      calls[i]? = some (.add r.type r.listener r.options) := by
  induction calls using List.reverseRecOn with
  | nil => cases hr
  | append_singleton calls c ih =>
    have hafter : registeredAfter r.key (calls ++ [c]) = true :=
      (mem_keys_afterCalls _ _).mp (List.mem_map_of_mem hr)
    rw [afterCalls_concat] at hr
    rcases mem_entries_run hr with hr | ⟨rfl, hnew⟩
    · obtain ⟨i, hi, hc⟩ := ih hr
      exact ⟨i, hi.concat hafter, by rwa [List.getElem?_append_left hi.lt_length]⟩
    · rw [mem_keys_afterCalls] at hnew
      exact ⟨calls.length, cameIn_concat hnew hafter, List.getElem?_concat_length⟩

/-! ## The registrations of a type -/

theorem matching_atTarget (l : Listeners) (type : String) : l.matching type .atTarget =
    (l.entries.filter fun r => r.type == type).map fun r => (r.listener, r.options) := by
  unfold matching registered Registration.firesIn
  simp

theorem matching_capturing (l : Listeners) (type : String) : l.matching type .capturing =
    (l.matching type .atTarget).filter fun entry => entry.2.capture := by
  unfold matching registered Registration.firesIn
  simp [List.filter_map, List.filter_filter, Function.comp_def, Bool.and_comm]

theorem matching_bubbling (l : Listeners) (type : String) : l.matching type .bubbling =
    (l.matching type .atTarget).filter fun entry => !entry.2.capture := by
  unfold matching registered Registration.firesIn
  simp [List.filter_map, List.filter_filter, Function.comp_def, Bool.and_comm]

/-- **The registrations of a type** are those of the way down and those of the way up. -/
theorem count_eq (l : Listeners) (type : String) : l.count type =
    (l.matching type .capturing).length + (l.matching type .bubbling).length := by
  have hcount : l.count type = (l.matching type .atTarget).length := by
    rw [matching_atTarget, List.length_map, count, List.countP_eq_length_filter]
  rw [hcount, matching_capturing, matching_bubbling, ← List.countP_eq_length_filter,
    ← List.countP_eq_length_filter,
    List.length_eq_countP_add_countP fun entry : Listener × ListenerOptions => entry.2.capture]
  simp

/-- **Every registry that calls make mirrors them.** No two registrations have the same key, and
they stand in the order in which they came in, each with the options that it came in with. Adding a
key that is absent puts a registration behind the others, and adding one that is present changes
nothing; removing takes out the one registration with the key, if there is one. Both answer whether
they have changed something. What an event finds on the way down and on the way up are the two parts
of what it finds at the target. -/
theorem mirrors_afterCalls (calls : List Call) : (afterCalls calls).Mirrors calls where
  nodup := (inOrder_afterCalls calls).nodup
  order := inOrder_afterCalls calls
  options := fun _ hr => exists_add_of_mem hr
  add_absent := fun _ _ _ h => add_of_notMem (by simp [mem_keys_afterCalls, h])
  add_present := fun _ _ _ h => add_of_mem ((mem_keys_afterCalls _ _).mpr h)
  remove_absent := fun _ _ _ h => remove_of_notMem (by simp [mem_keys_afterCalls, h])
  remove_present := fun _ _ _ h => remove_of_mem ((mem_keys_afterCalls _ _).mpr h)
  remove_gone := fun _ _ _ h => (mem_keys_remove.mp h).1 rfl
  atTarget := matching_atTarget _
  capturing := matching_capturing _
  bubbling := matching_bubbling _
  count := count_eq _

end WebPage.Listeners
