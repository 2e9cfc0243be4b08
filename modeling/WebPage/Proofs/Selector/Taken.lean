import WebPage.Proofs.Selector.Continuation
import WebPage.Proofs.Selector.Scanner

/-!
# What the readers of selectors take

What a reader reads is a value and a rest, or nothing. Put that way, without the proof that the rest
is short, each reader is one equation over the readers that it calls. The equations follow the steps
of a scanner: a character that is looked at is the head of the rest, and passing it leaves the tail.

## Main definitions

* `taken`: the value and the rest of a reading

## Main results

* `taken_name?`, `taken_quoted?_closed` and its companions: names and quoted values
* `taken_attribute?`: what stands between brackets
* `taken_list?`, `taken_complex?`, `taken_chain?`, `taken_compound?`, `taken_parts?_cons`,
  `taken_part?_pseudo`: the layers of a selector list
-/

namespace WebPage.Selector

open Text (Reading)

/-- What a reader takes and what it leaves. -/
def taken {α : Type} {n : Nat} (x : Option (Reading α n)) : Option (α × List Char) :=
  x.map fun y => (y.value, y.rest)

section Taken

variable {α β : Type} {m n : Nat} {a : α} {s r : List Char} {c d : Char}

theorem taken_eq_some_iff {x : Option (Reading α n)} : taken x = some (a, r) ↔ Reads x a r := by
  cases x with
  | none => simp [taken]
  | some y => simp [taken]

/-- What is taken is known from what is read. -/
theorem taken_eq_of_iff {x : Option (Reading α n)} {o : Option (α × List Char)}
    (h : ∀ a r, Reads x a r ↔ o = some (a, r)) : taken x = o :=
  Option.ext fun ⟨a, r⟩ => by rw [taken_eq_some_iff, h]

/-- A reader whose value goes through a function. -/
theorem taken_map_value {x : Option (Reading β m)} {f : Reading β m → Reading α n} {g : β → α}
    (hvalue : ∀ y, (f y).value = g y.value) (hrest : ∀ y, (f y).rest = y.rest) :
    taken (x.map f) = (taken x).map (Prod.map g id) := by
  cases x with
  | none => rfl
  | some y => simp [taken, hvalue, hrest]

/-- A character that has to follow, and is passed. -/
theorem ite_head?_eq_some_iff {b : α} :
    (if s.head? = some c then some (a, s.tail) else none) = some (b, r) ↔ s = c :: r ∧ a = b := by
  cases s with
  | nil => simp
  | cons d s => simp [and_comm, and_left_comm]

/-! ## Names and quoted values -/

theorem taken_nameChars?_escaped : taken (nameChars? ('\\' :: c :: s)) =
    (taken (nameChars? s)).map (Prod.map (c :: ·) id) := by
  rw [nameChars?]
  exact taken_map_value (fun _ => rfl) fun _ => rfl

theorem taken_nameChars?_plain (hc : isNameChar c = true) (hb : c ≠ '\\') :
    taken (nameChars? (c :: s)) = (taken (nameChars? s)).map (Prod.map (c :: ·) id) := by
  rw [nameChars?.eq_4 _ _ hb, if_pos hc]
  exact taken_map_value (fun _ => rfl) fun _ => rfl

theorem taken_nameChars?_of_endsName (hs : EndsName s) : taken (nameChars? s) = some ([], s) :=
  taken_eq_some_iff.mpr (reads_nameChars_nil hs)

/-- A name with a character in it has taken one. -/
theorem length_lt_of_reads_nameChars? {cs : List Char} (h : Reads (nameChars? s) (c :: cs) r) :
    r.length < s.length := by
  rcases s with _ | ⟨d, s⟩
  · exact absurd (reads_some_iff.mp h).1 (by simp [Reading.nothing])
  rw [List.length_cons]
  by_cases hb : d = '\\'
  · subst hb
    rcases s with _ | ⟨e, s⟩
    · exact absurd h not_reads_none
    · obtain ⟨_, hcs, -⟩ := reads_nameChars?_escaped_iff.mp h
      have := hcs.short
      rw [List.length_cons]
      omega
  by_cases hd : isNameChar d = true
  · obtain ⟨_, hcs, -⟩ := (reads_nameChars?_plain_iff hd).mp h
    exact hcs.short
  · have hends : EndsName (d :: s) := endsName_cons (by simpa using hd) hb
    cases ((reads_nameChars_nil hends).unique h).1

theorem taken_name? : taken (name? s) = (taken (nameChars? s)).bind fun (cs, r) =>
    match cs with
    | [] => none
    | c :: cs => if c.isDigit then none else some (String.ofList (c :: cs), r) := by
  refine taken_eq_of_iff fun name r => ?_
  rw [reads_name?_iff, Option.bind_eq_some_iff]
  constructor
  · rintro ⟨c, cs, hcs, hd, -, rfl⟩
    exact ⟨_, taken_eq_some_iff.mpr hcs, by simp [hd]⟩
  · rintro ⟨⟨_ | ⟨c, cs⟩, r'⟩, hcs, h⟩
    · cases h
    · rw [taken_eq_some_iff] at hcs
      dsimp only at h
      split at h
      next => cases h
      next hd =>
        cases h
        exact ⟨c, cs, hcs, by simpa using hd, length_lt_of_reads_nameChars? hcs, rfl⟩

theorem taken_quoted?_closed : taken (quoted? c (c :: s)) = some ([], s) :=
  taken_eq_some_iff.mpr (reads_quoted?_closed_iff.mpr ⟨rfl, rfl⟩)

theorem taken_quoted?_escaped (hc : '\\' ≠ c) : taken (quoted? c ('\\' :: d :: s)) =
    (taken (quoted? c s)).map (Prod.map (d :: ·) id) := by
  rw [quoted?, if_neg hc, if_pos rfl]
  exact taken_map_value (fun _ => rfl) fun _ => rfl

theorem taken_quoted?_plain (hd : d ≠ c) (hb : d ≠ '\\') :
    taken (quoted? c (d :: s)) = (taken (quoted? c s)).map (Prod.map (d :: ·) id) := by
  rw [quoted?.eq_def]
  simp only [if_neg hd, if_neg hb]
  exact taken_map_value (fun _ => rfl) fun _ => rfl

/-! ## Attribute selectors -/

theorem taken_value?_cons : taken (value? (c :: s)) =
    if c = '"' ∨ c = '\'' then (taken (quoted? c s)).map (Prod.map String.ofList id)
    else taken (name? (c :: s)) := by
  by_cases hc : c = '"' ∨ c = '\''
  · rw [if_pos hc, value?, if_pos (by simpa using hc)]
    exact taken_map_value (fun _ => rfl) fun _ => rfl
  · rw [if_neg hc, value?_eq_name? hc]

theorem taken_test?_cons : taken (test? (c :: s)) =
    if c = '=' then some (.equals, s)
    else (Scanner.signed? c).bind fun test =>
      if s.head? = some '=' then some (test, s.tail) else none := by
  refine taken_eq_of_iff fun test r => ?_
  rw [reads_test?_iff]
  by_cases hc : c = '='
  · subst hc
    cases test <;> simp [AttributeTest.sign, eq_comm]
  rw [if_neg hc]
  unfold Scanner.signed?
  rcases s with _ | ⟨d, s⟩
  · split <;> cases test <;> simp [AttributeTest.sign, hc]
  · split <;> cases test <;> simp_all [AttributeTest.sign, eq_comm]

/-- What is taken behind the sign of a comparison: a value, a flag and the closing bracket. -/
def compared (attr : String) (test : AttributeTest) (s : List Char) :
    Option (Simple × List Char) :=
  (taken (value? (skipBlanks s))).bind fun (value, r) =>
    let (ignoreCase, r) := flagAt (skipBlanks r)
    if r.head? = some ']' then some (.attribute attr (some (test, value)) ignoreCase, r.tail)
    else none

theorem taken_attribute? :
    taken (attribute? s) = (taken (name? (skipBlanks s))).bind fun (name, r) =>
      if (skipBlanks r).head? = some ']' then
        some (.attribute (Text.lowerAscii name) none false, (skipBlanks r).tail)
      else (taken (test? (skipBlanks r))).bind fun (test, r) =>
        compared (Text.lowerAscii name) test r := by
  refine taken_eq_of_iff fun part r => ?_
  rw [reads_attribute?_iff]
  simp only [Option.bind_eq_some_iff, Prod.exists, taken_eq_some_iff]
  refine exists_congr fun name => exists_congr fun r₁ => and_congr_right fun _ => ?_
  by_cases hb : (skipBlanks r₁).head? = some ']'
  · obtain ⟨t, ht⟩ := List.head?_eq_some_iff.mp hb
    simp [ht, eq_comm, and_comm]
  · have hne : skipBlanks r₁ ≠ ']' :: r := fun h => hb (by simp [h])
    simp only [hb, hne, false_and, false_or, ne_eq, not_false_eq_true, true_and, if_false,
      Option.bind_eq_some_iff, Prod.exists, taken_eq_some_iff, compared, ite_head?_eq_some_iff]
    refine exists_congr fun test => exists_congr fun r₂ => ?_
    constructor
    · rintro ⟨value, r₃, flag, htest, hvalue, hflag, rfl⟩
      exact ⟨htest, value, r₃, hvalue, by simp [hflag]⟩
    · rintro ⟨htest, value, r₃, hvalue, hflag, rfl⟩
      exact ⟨value, r₃, _, htest, hvalue, Prod.ext rfl hflag, rfl⟩

/-! ## Lists, chains and compounds -/

theorem taken_list? : taken (list? s) = (taken (complex? (skipBlanks s))).bind fun (chain, r) =>
    if (skipBlanks r).head? = some ',' then
      (taken (list? (skipBlanks r).tail)).map (Prod.map (chain :: ·) id)
    else some ([chain], skipBlanks r) := by
  refine taken_eq_of_iff fun chains r => ?_
  rw [reads_list?_iff]
  simp only [Option.bind_eq_some_iff, Prod.exists, taken_eq_some_iff]
  refine exists_congr fun chain => exists_congr fun r₁ => and_congr_right fun _ => ?_
  rcases skipBlanks r₁ with _ | ⟨d, r₂⟩
  · simp [eq_comm]
  by_cases hd : d = ','
  · subst hd
    simp only [List.head?_cons, List.tail_cons, ne_eq, not_true_eq_false, false_and, false_or,
      if_true, Option.map_eq_some_iff, Prod.exists, taken_eq_some_iff, Prod.map]
    grind
  · simp [hd, eq_comm]

theorem taken_complex? : taken (complex? s) = (taken (compound? s)).bind fun (first, r) =>
    taken (chain? (.single first) r) := by
  refine taken_eq_of_iff fun whole r => ?_
  simp only [reads_complex?_iff, Option.bind_eq_some_iff, Prod.exists, taken_eq_some_iff]

/-- The combinator at a character that does not end a chain. -/
theorem reads_combinator?_iff_link? {k : Combinator} (hs : skipBlanks s = c :: r)
    (hends : endsChain (c :: r) = false) {r' : List Char} : Reads (combinator? s) k r' ↔
      Scanner.link? (decide ((c :: r).length < s.length)) (some c) = some (some k) ∧
        r' = if k = .descendant then c :: r else skipBlanks r := by
  rw [reads_combinator?_iff, hs]
  simp only [reads_sign?_iff, sign?_eq_none_iff, List.head?_cons]
  by_cases hchild : c = '>'
  · subst hchild
    cases k <;> simp [Scanner.link?, Combinator.sign]
  by_cases hnext : c = '+'
  · subst hnext
    cases k <;> simp [Scanner.link?, Combinator.sign]
  by_cases hsubsequent : c = '~'
  · subst hsubsequent
    cases k <;> simp [Scanner.link?, Combinator.sign]
  have hc : c ≠ ',' ∧ c ≠ ')' := by simpa [endsChain] using hends
  cases k <;> simp [Scanner.link?, Combinator.sign, hchild, hnext, hsubsequent, hc]

theorem link?_ne_some_none {blanksBefore : Bool} (hends : endsChain (c :: s) = false) :
    Scanner.link? blanksBefore (some c) ≠ some none := by
  have hc : c ≠ ',' ∧ c ≠ ')' := by simpa [endsChain] using hends
  unfold Scanner.link?
  split <;> simp_all

theorem taken_chain? {left : Complex} : taken (chain? left s) =
    match Scanner.link? (decide ((skipBlanks s).length < s.length)) (skipBlanks s).head? with
    | none => none
    | some none => some (left, skipBlanks s)
    | some (some k) =>
      (taken (compound? (if k = .descendant then skipBlanks s
        else skipBlanks (skipBlanks s).tail))).bind fun (right, r) =>
          taken (chain? (.join left k right) r) := by
  refine taken_eq_of_iff fun whole r => ?_
  rw [reads_chain?_iff]
  rcases hs : skipBlanks s with _ | ⟨c, t⟩
  · simp [endsChain, Scanner.link?, eq_comm]
  cases hends : endsChain (c :: t) with
  | true =>
    have hc : c = ',' ∨ c = ')' := by simpa [endsChain] using hends
    rcases hc with rfl | rfl <;> simp [Scanner.link?, eq_comm]
  | false =>
    simp only [reads_combinator?_iff_link? hs hends, List.head?_cons, List.tail_cons]
    rcases hlink : Scanner.link? _ (some c) with _ | _ | k
    · simp
    · exact absurd hlink (link?_ne_some_none hends)
    · simp only [Option.bind_eq_some_iff, Prod.exists, taken_eq_some_iff]
      grind

theorem taken_tag? : taken (tag? s) =
    if s.head? = some '*' then some (some "*", s.tail)
    else if s.head?.any isNameStart then
      (taken (name? s)).map (Prod.map (fun name => some (Text.lowerAscii name)) id)
    else some (none, s) := by
  refine taken_eq_of_iff fun tag r => ?_
  rw [reads_tag?_iff]
  rcases s with _ | ⟨c, s⟩
  · simp [eq_comm]
  by_cases hc : c = '*'
  · subst hc
    simp [isNameStart, eq_comm, and_comm]
  by_cases hstart : isNameStart c = true
  · simp only [List.cons.injEq, hc, false_and, List.head?_cons, Option.any_some, hstart, true_and,
      Bool.true_eq_false, and_false, or_false, false_or, Option.some.injEq, if_false, if_true,
      Option.map_eq_some_iff, Prod.exists, taken_eq_some_iff, Prod.map]
    grind
  · simp [hc, hstart, eq_comm]

/-- A compound without a tag and without tests has taken nothing, and every other one has. -/
theorem length_lt_iff_of_reads {tag : Option String} {parts : List Simple} {r₁ : List Char}
    (ht : Reads (tag? s) tag r₁) (hp : Reads (parts? r₁) parts r) :
    r.length < s.length ↔ ¬(tag.isNone && parts.isEmpty) := by
  have htag := ht.short
  rcases reads_parts?_iff.mp hp with
    ⟨-, rfl, rfl⟩ | ⟨o, r₂, part, r₃, others, ho, hpart, hothers, rfl⟩
  · rcases reads_tag?_iff.mp ht with ⟨rfl, rfl⟩ | ⟨name, -, hname, rfl⟩ | ⟨-, -, rfl, rfl⟩
    · simp
    · simpa using hname.short
    · simp
  · have h₁ := ho.short
    have h₂ := hpart.short
    have h₃ := hothers.short
    have hlt : r.length < s.length := by omega
    simp [hlt]

theorem taken_compound? : taken (compound? s) = (taken (tag? s)).bind fun (tag, r₁) =>
    (taken (parts? r₁)).bind fun (parts, r) =>
      if tag.isNone && parts.isEmpty then none else some (.mk tag parts, r) := by
  refine taken_eq_of_iff fun compound r => ?_
  simp only [reads_compound?_iff, Option.bind_eq_some_iff, Prod.exists, taken_eq_some_iff]
  refine exists_congr fun tag => exists_congr fun r₁ => ?_
  constructor
  · rintro ⟨parts, ht, hp, hlt, rfl⟩
    exact ⟨ht, parts, r, hp, by rw [if_neg ((length_lt_iff_of_reads ht hp).mp hlt)]⟩
  · rintro ⟨ht, parts, r₂, hp, h⟩
    split at h
    next => cases h
    next hne =>
      cases h
      exact ⟨parts, ht, hp, (length_lt_iff_of_reads ht hp).mpr hne, rfl⟩

theorem taken_parts?_of_opening?_eq_none (h : opening? s = none) :
    taken (parts? s) = some ([], s) :=
  taken_eq_some_iff.mpr (reads_parts?_iff.mpr (.inl ⟨h, rfl, rfl⟩))

theorem taken_parts?_cons (hc : c = '#' ∨ c = '.' ∨ c = '[' ∨ c = ':') :
    taken (parts? (c :: s)) = (taken (part? c s)).bind fun (part, r) =>
      (taken (parts? r)).map (Prod.map (part :: ·) id) := by
  have ho : Reads (opening? (c :: s)) c s := reads_opening?_iff.mpr ⟨hc, rfl⟩
  refine taken_eq_of_iff fun parts r => ?_
  rw [reads_parts?_iff]
  simp only [Option.bind_eq_some_iff, Option.map_eq_some_iff, Prod.exists, taken_eq_some_iff,
    Prod.map, id, Prod.mk.injEq]
  constructor
  · rintro (⟨hn, -⟩ | ⟨o, r₁, part, r₂, others, ho', hpart, hothers, rfl⟩)
    · rw [hn] at ho
      exact absurd ho not_reads_none
    · obtain ⟨rfl, rfl⟩ := ho.unique ho'
      exact ⟨part, r₂, hpart, others, r, hothers, rfl, rfl⟩
  · rintro ⟨part, r₂, hpart, others, r₃, hothers, rfl, rfl⟩
    exact .inr ⟨c, s, part, r₂, others, ho, hpart, hothers, rfl⟩

theorem taken_part?_id : taken (part? '#' s) = (taken (name? s)).map (Prod.map .id id) := by
  rw [part?]
  exact taken_map_value (fun _ => rfl) fun _ => rfl

theorem taken_part?_className :
    taken (part? '.' s) = (taken (name? s)).map (Prod.map .className id) := by
  rw [part?]
  exact taken_map_value (fun _ => rfl) fun _ => rfl

theorem taken_part?_pseudo : taken (part? ':' s) = (taken (name? s)).bind fun (name, r₁) =>
    if Text.lowerAscii name = "not" then
      if r₁.head? = some '(' then
        (taken (list? r₁.tail)).bind fun (inner, r₂) =>
          if (skipBlanks r₂).head? = some ')' then some (.not inner, (skipBlanks r₂).tail) else none
      else none
    else (PseudoClass.ofName? (Text.lowerAscii name)).map fun state => (.pseudo state, r₁) := by
  refine taken_eq_of_iff fun part r => ?_
  rw [reads_part?_pseudo_iff]
  simp only [Option.bind_eq_some_iff, Prod.exists, taken_eq_some_iff]
  refine exists_congr fun name => exists_congr fun r₁ => and_congr_right fun _ => ?_
  by_cases hnot : Text.lowerAscii name = "not"
  · simp only [hnot, true_and, ne_eq, not_true_eq_false, false_and, or_false, if_true]
    rcases r₁ with _ | ⟨c, r₁⟩
    · simp
    by_cases hc : c = '('
    · subst hc
      simp only [List.cons.injEq, true_and, List.head?_cons, if_true, List.tail_cons,
        Option.bind_eq_some_iff, Prod.exists, taken_eq_some_iff, ite_head?_eq_some_iff]
      grind
    · simp [hc]
  · simp only [hnot, false_and, ne_eq, not_false_eq_true, true_and, false_or, if_false,
      Option.map_eq_some_iff, Prod.mk.injEq]
    grind

end Taken

end WebPage.Selector
