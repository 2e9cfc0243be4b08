/-!
# Reading from the front of a text

A reader takes characters from the front of a text. It gives what it read and the rest, with the
proof that the rest is short enough. A reader that calls others on the rest ends because each of
them has less to read.

## Main definitions

* `Reading`: what was read, and the rest
* `Reading.nothing`, `Reading.single`: readings that take no character, and one
* `Reading.longer`: a reading of a text with one more character in front
* `Reading.andThen`, `Reading.goOn`: a reading with another one after it
-/

namespace WebPage.Text

/-- A value read from the front of a text, and the rest, which is shorter than `bound`. -/
structure Reading (α : Type) (bound : Nat) where
  value : α
  rest : List Char
  short : rest.length < bound

namespace Reading

/-- The same reading, measured against a larger bound. -/
def weaken {α : Type} {m n : Nat} (r : Reading α m) (h : m ≤ n) : Reading α n :=
  ⟨r.value, r.rest, Nat.lt_of_lt_of_le r.short h⟩

/-- A reading that takes nothing. -/
def nothing {α : Type} (value : α) (s : List Char) : Reading α (s.length + 1) :=
  ⟨value, s, Nat.lt_succ_self _⟩

/-- A reading that takes one character. -/
def single {α : Type} (value : α) (c : Char) (s : List Char) : Reading α (c :: s).length :=
  ⟨value, s, Nat.lt_succ_self _⟩

/-- The same reading, of a text with one more character in front. -/
def longer {α : Type} {n : Nat} (r : Reading α n) : Reading α (n + 1) :=
  ⟨r.value, r.rest, Nat.lt_succ_of_lt r.short⟩

/-- What is read next, with both measured against the text that the first was read from. -/
def andThen {α β : Type} {n : Nat} (r : Reading α n) (next : Reading β r.rest.length) :
    Reading β n :=
  ⟨next.value, next.rest, Nat.lt_trans next.short r.short⟩

/-- What is read next, where that may take nothing. -/
def goOn {α β : Type} {n : Nat} (r : Reading α n) (next : Reading β (r.rest.length + 1)) :
    Reading β n :=
  next.weaken r.short

/-- The reading with `f` applied to what was read. -/
def map {α β : Type} {n : Nat} (f : α → β) (r : Reading α n) : Reading β n :=
  ⟨f r.value, r.rest, r.short⟩

end Reading

end WebPage.Text
