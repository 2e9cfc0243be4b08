import WebPage.Markup.Content
import WebPage.Name

/-!
# Markup that can be read in one way only

Written markup is one text without marks beside it, so where a name, a value or a text ends has to be
seen from its characters. It is seen if the labelled trees are plain: names hold none of the
characters that end them, no comment holds the end of a comment, and no text stands beside another
one. Then a row of labelled trees is determined by its markup, whatever comes after it.

## Main definitions

* `IsPlainTag`, `Content.Plain`, `RowPlain`: plain labelled trees and rows of them
* `EndsRow`: a text in front of which a row is over

## Main results

* `flatMap_inj`: texts that are written character by character in a prefix code
* `renderStartTag_inj`: a start tag is determined by its markup
* `Content.renderAll_inj`: so is a row of plain labelled trees
-/

namespace WebPage.Markup

/-! ## Plain labelled trees -/

/-- A tag of small letters, digits and hyphens that starts with a letter. -/
structure IsPlainTag (tag : String) : Prop where
  head : ∃ c cs, tag.toList = c :: cs ∧ c.isLower = true
  chars : ∀ c ∈ tag.toList, (c.isLower || c.isDigit || c == '-') = true

/-- Whether a labelled tree is a text. -/
def Content.isText : Content → Bool
  | .text _ => true
  | _ => false

mutual

/-- A labelled tree whose parts end where their markup shows it. -/
def Content.Plain : Content → Prop
  | .text s => s ≠ ""
  | .comment s => ¬ "-->".toList <:+: s.toList
  | .doctype _ => False
  | .instruction _ _ => False
  | .element tag attributes children =>
    (IsPlainTag tag ∧ isRawText tag = false ∧ (isVoid tag = true → children = [])) ∧
      (∀ entry ∈ attributes, Name.isValid entry.1 = true) ∧ RowPlain children

/-- A row of plain labelled trees without two texts side by side. -/
def RowPlain : List Content → Prop
  | [] => True
  | content :: row => content.Plain ∧
    (content.isText = true → ∀ next ∈ row.head?, next.isText = false) ∧ RowPlain row

end

/-! ## Parts and where they end -/

section Parts

variable {α : Type} {a a' r r' : List Char}

/-- A part up to the first character that it cannot hold. -/
theorem append_inj_of_stop {p : Char → Bool} (ha : ∀ c ∈ a, p c = true)
    (ha' : ∀ c ∈ a', p c = true) (hr : ∀ c ∈ r.head?, p c = false)
    (hr' : ∀ c ∈ r'.head?, p c = false) (h : a ++ r = a' ++ r') : a = a' ∧ r = r' := by
  induction a generalizing a' with
  | nil =>
    cases a' with
    | nil => exact ⟨rfl, h⟩
    | cons c a' =>
      -- the first part is over where the second one goes on
      obtain rfl : r = c :: (a' ++ r') := h
      have hc := ha' c List.mem_cons_self
      rw [hr c rfl] at hc
      cases hc
  | cons c a ih =>
    cases a' with
    | nil =>
      obtain rfl : c :: (a ++ r) = r' := h
      have hc := ha c List.mem_cons_self
      rw [hr' c rfl] at hc
      cases hc
    | cons d a' =>
      obtain ⟨rfl, htail⟩ := List.cons.inj h
      obtain ⟨rfl, hr⟩ := ih (fun x hx => ha x (List.mem_cons_of_mem c hx))
        (fun x hx => ha' x (List.mem_cons_of_mem c hx)) htail
      exact ⟨rfl, hr⟩

/-- **What is written in a prefix code** is determined by its code. -/
theorem flatMap_inj {f : α → List Char} (hne : ∀ c, f c ≠ [])
    (hcode : ∀ c d x y, f c ++ x = f d ++ y → c = d ∧ x = y) {l l' : List α}
    (h : l.flatMap f = l'.flatMap f) : l = l' := by
  induction l generalizing l' with
  | nil =>
    cases l' with
    | nil => rfl
    | cons d l' => exact absurd (List.append_eq_nil_iff.mp h.symm).1 (hne d)
  | cons c l ih =>
    cases l' with
    | nil => exact absurd (List.append_eq_nil_iff.mp h).1 (hne c)
    | cons d l' =>
      obtain ⟨rfl, htail⟩ := hcode c d _ _ h
      rw [ih htail]

/-- A character as itself, or by name where it has one. -/
def byName (name? : Char → Option (List Char)) (c : Char) : List Char :=
  match name? c with
  | some name => '&' :: (name ++ [';'])
  | none => [c]

/-- The sign that names start with has a name itself, no name holds the sign that names end with,
and no two characters have the same name. -/
structure IsNaming (name? : Char → Option (List Char)) : Prop where
  sign : (name? '&').isSome
  ends : ∀ c name, name? c = some name → name.all (· != ';') = true
  inj : ∀ c d name, name? c = some name → name? d = some name → c = d

/-- **Characters and names make a prefix code.** -/
theorem byName_code {name? : Char → Option (List Char)} (h : IsNaming name?) (c d : Char)
    (x y : List Char) (he : byName name? c ++ x = byName name? d ++ y) : c = d ∧ x = y := by
  have hsign : ∀ e name u v, '&' :: (name ++ u) = e :: v → name? e ≠ none := by
    intro e name u v he
    rw [← (List.cons.inj he).1]
    exact Option.isSome_iff_ne_none.mp h.sign
  unfold byName at he
  cases hc : name? c with
  | some name =>
    cases hd : name? d with
    | some name' =>
      rw [hc, hd] at he
      have htail : name ++ [';'] ++ x = name' ++ [';'] ++ y := (List.cons.inj he).2
      rw [List.append_assoc, List.append_assoc] at htail
      obtain ⟨rfl, hrest⟩ := append_inj_of_stop (List.all_eq_true.mp (h.ends c name hc))
        (List.all_eq_true.mp (h.ends d name' hd)) (by simp) (by simp) htail
      exact ⟨h.inj c d name hc hd, (List.cons.inj hrest).2⟩
    | none =>
      rw [hc, hd] at he
      exact absurd hd (hsign d (name ++ [';']) x y he)
  | none =>
    cases hd : name? d with
    | some name' =>
      rw [hc, hd] at he
      exact absurd hc (hsign c (name' ++ [';']) y x he.symm)
    | none =>
      rw [hc, hd] at he
      exact List.cons.inj he

theorem byName_ne_nil (name? : Char → Option (List Char)) (c : Char) : byName name? c ≠ [] := by
  unfold byName
  split <;> simp

/-- The characters of a text that are written by name. -/
def textName? (c : Char) : Option (List Char) :=
  if c = '&' then some "amp".toList
  else if c = '<' then some "lt".toList
  else if c = '>' then some "gt".toList
  else if c = '\xa0' then some "nbsp".toList
  else none

/-- The characters of an attribute value that are written by name. -/
def valueName? (c : Char) : Option (List Char) :=
  if c = '&' then some "amp".toList
  else if c = '"' then some "quot".toList
  else if c = '\xa0' then some "nbsp".toList
  else none

theorem escapeTextChar_eq : escapeTextChar = byName textName? := by
  funext c
  unfold escapeTextChar byName textName?
  iterate 4
    split
    · rfl
  rfl

theorem escapeValueChar_eq : escapeValueChar = byName valueName? := by
  funext c
  unfold escapeValueChar byName valueName?
  iterate 3
    split
    · rfl
  rfl

theorem isNaming_textName? : IsNaming textName? := by
  refine ⟨rfl, fun c name h => ?_, fun c d name hc hd => ?_⟩
  · unfold textName? at h
    repeat' split at h
    all_goals cases h
    all_goals rfl
  · unfold textName? at hc hd
    grind

theorem isNaming_valueName? : IsNaming valueName? := by
  refine ⟨rfl, fun c name h => ?_, fun c d name hc hd => ?_⟩
  · unfold valueName? at h
    repeat' split at h
    all_goals cases h
    all_goals rfl
  · unfold valueName? at hc hd
    grind

theorem ne_of_mem_escapeTextChar {l : List Char} :
    ∀ c ∈ l.flatMap escapeTextChar, (c != '<') = true := by
  intro c hc
  obtain ⟨d, -, hc⟩ := List.mem_flatMap.mp hc
  have hall : (escapeTextChar d).all (· != '<') = true := by
    unfold escapeTextChar
    repeat' split
    all_goals first | rfl | simpa
  exact List.all_eq_true.mp hall c hc

theorem ne_of_mem_escapeValueChar {l : List Char} :
    ∀ c ∈ l.flatMap escapeValueChar, (c != '"') = true := by
  intro c hc
  obtain ⟨d, -, hc⟩ := List.mem_flatMap.mp hc
  have hall : (escapeValueChar d).all (· != '"') = true := by
    unfold escapeValueChar
    repeat' split
    all_goals first | rfl | simpa
  exact List.all_eq_true.mp hall c hc

/-- A text that is over in front of `<`, or at the end, is determined by its markup. -/
theorem escapeText_inj {s s' : List Char} (hr : ∀ c ∈ r.head?, c = '<')
    (hr' : ∀ c ∈ r'.head?, c = '<')
    (h : s.flatMap escapeTextChar ++ r = s'.flatMap escapeTextChar ++ r') : s = s' ∧ r = r' := by
  obtain ⟨he, hrest⟩ := append_inj_of_stop ne_of_mem_escapeTextChar ne_of_mem_escapeTextChar
    (fun c hc => by simp [hr c hc]) (fun c hc => by simp [hr' c hc]) h
  rw [escapeTextChar_eq] at he
  exact ⟨flatMap_inj (byName_ne_nil _) (byName_code isNaming_textName?) he, hrest⟩

/-- A value is over in front of the closing quote. -/
theorem escapeValue_inj {s s' : List Char}
    (h : s.flatMap escapeValueChar ++ '"' :: r = s'.flatMap escapeValueChar ++ '"' :: r') :
    s = s' ∧ r = r' := by
  obtain ⟨he, hrest⟩ := append_inj_of_stop ne_of_mem_escapeValueChar ne_of_mem_escapeValueChar
    (by simp) (by simp) h
  rw [escapeValueChar_eq] at he
  exact ⟨flatMap_inj (byName_ne_nil _) (byName_code isNaming_valueName?) he,
    (List.cons.inj hrest).2⟩

/-- **A comment ends at the first end of a comment**: the sign has no end that is a start of it, so
none begins inside a comment that holds none. -/
theorem comment_inj {s s' : List Char} (hs : ¬ ['-', '-', '>'] <:+: s)
    (hs' : ¬ ['-', '-', '>'] <:+: s')
    (h : s ++ '-' :: '-' :: '>' :: r = s' ++ '-' :: '-' :: '>' :: r') : s = s' ∧ r = r' := by
  -- a part that goes on after the other one is over holds the sign
  have hshort : ∀ (u v w : List Char), '-' :: '-' :: '>' :: v = u ++ '-' :: '-' :: '>' :: w →
      ¬ ['-', '-', '>'] <:+: u → u = [] := by
    intro u v w he hu
    match u with
    | [] => rfl
    | [_] => simp at he
    | [_, _] => simp at he
    | a :: b :: c :: u =>
      refine absurd ⟨[], u, ?_⟩ hu
      simp only [List.cons_append, List.cons.injEq] at he
      obtain ⟨rfl, rfl, rfl, -⟩ := he
      rfl
  induction s generalizing s' with
  | nil =>
    obtain rfl := hshort s' r r' h hs'
    simpa using h
  | cons c s ih =>
    cases s' with
    | nil => exact absurd (hshort (c :: s) r' r h.symm hs) (by simp)
    | cons d s' =>
      obtain ⟨rfl, htail⟩ := List.cons.inj h
      have hdrop : ∀ {u : List Char}, ¬ ['-', '-', '>'] <:+: c :: u → ¬ ['-', '-', '>'] <:+: u :=
        fun hu hi => hu (hi.trans (List.suffix_cons c _).isInfix)
      obtain ⟨rfl, hrest⟩ := ih (hdrop hs) (hdrop hs') htail
      exact ⟨rfl, hrest⟩

end Parts

/-! ## Start tags -/

section StartTags

variable {r r' : List Char} {tag tag' : String} {attributes attributes' : List (String × String)}

theorem toList_renderAttribute (entry : String × String) :
    (renderAttribute entry).toList =
      ' ' :: (entry.1.toList ++ '=' :: '"' :: (entry.2.toList.flatMap escapeValueChar ++ ['"'])) := by
  simp [renderAttribute, escapeValue]

theorem toList_renderStartTag :
    (renderStartTag tag attributes).toList =
      '<' :: (tag.toList ++ (attributes.flatMap (fun entry => (renderAttribute entry).toList) ++
        ['>'])) := by
  simp [renderStartTag, List.flatMap_map]

theorem ne_of_mem_name {name : String} (h : Name.isValid name = true) :
    ∀ c ∈ name.toList, (c != '=') = true := by
  intro c hc
  unfold Name.isValid at h
  rw [Bool.and_eq_true, Bool.not_eq_true', Bool.not_eq_true', List.any_eq_false] at h
  have hforbidden := h.2 c hc
  rw [bne_iff_ne]
  rintro rfl
  exact hforbidden rfl

/-- Attributes are over in front of the closing bracket of their tag. -/
theorem renderAttributes_inj (h : ∀ entry ∈ attributes, Name.isValid entry.1 = true)
    (h' : ∀ entry ∈ attributes', Name.isValid entry.1 = true)
    (he : attributes.flatMap (fun entry => (renderAttribute entry).toList) ++ '>' :: r =
      attributes'.flatMap (fun entry => (renderAttribute entry).toList) ++ '>' :: r') :
    attributes = attributes' ∧ r = r' := by
  induction attributes generalizing attributes' with
  | nil =>
    cases attributes' with
    | nil => exact ⟨rfl, (List.cons.inj he).2⟩
    | cons entry' attributes' => simp [toList_renderAttribute] at he
  | cons entry attributes ih =>
    cases attributes' with
    | nil => simp [toList_renderAttribute] at he
    | cons entry' attributes' =>
      obtain ⟨hentry, h⟩ := List.forall_mem_cons.mp h
      obtain ⟨hentry', h'⟩ := List.forall_mem_cons.mp h'
      rw [List.flatMap_cons, List.flatMap_cons, toList_renderAttribute, toList_renderAttribute] at he
      simp only [List.cons_append, List.append_assoc, List.nil_append, List.cons.injEq,
        true_and] at he
      -- the name is over in front of the equals sign, the value in front of the quote
      obtain ⟨hname, hrest⟩ := append_inj_of_stop (ne_of_mem_name hentry)
        (ne_of_mem_name hentry') (by simp) (by simp) he
      obtain ⟨hvalue, hrest⟩ := escapeValue_inj (List.cons.inj (List.cons.inj hrest).2).2
      obtain ⟨rfl, hr⟩ := ih h h' hrest
      have hfst : entry.1 = entry'.1 := String.toList_inj.mp hname
      have hsnd : entry.2 = entry'.2 := String.toList_inj.mp hvalue
      exact ⟨by rw [Prod.ext hfst hsnd], hr⟩

/-- **A start tag is determined by its markup.** -/
theorem renderStartTag_inj (ht : IsPlainTag tag) (ht' : IsPlainTag tag')
    (h : ∀ entry ∈ attributes, Name.isValid entry.1 = true)
    (h' : ∀ entry ∈ attributes', Name.isValid entry.1 = true)
    (he : (renderStartTag tag attributes).toList ++ r =
      (renderStartTag tag' attributes').toList ++ r') :
    tag = tag' ∧ attributes = attributes' ∧ r = r' := by
  -- a tag is over in front of an attribute or of the closing bracket
  have hstop : ∀ (attributes : List (String × String)) (r : List Char),
      ∀ c ∈ (attributes.flatMap (fun entry => (renderAttribute entry).toList) ++ '>' :: r).head?,
        (c.isLower || c.isDigit || c == '-') = false := by
    intro attributes r c hc
    cases attributes with
    | nil =>
      obtain rfl : '>' = c := Option.some.inj hc
      rfl
    | cons entry attributes =>
      rw [List.flatMap_cons, toList_renderAttribute] at hc
      obtain rfl : ' ' = c := Option.some.inj hc
      rfl
  rw [toList_renderStartTag, toList_renderStartTag] at he
  simp only [List.cons_append, List.append_assoc, List.cons.injEq, true_and, List.nil_append] at he
  obtain ⟨htag, hrest⟩ := append_inj_of_stop ht.chars ht'.chars (hstop _ _) (hstop _ _) he
  exact ⟨String.toList_inj.mp htag, renderAttributes_inj h h' hrest⟩

end StartTags

/-! ## Rows -/

section Rows

/-- A row of labelled trees is over: at the end, or in front of an end tag. -/
def EndsRow (r : List Char) : Prop :=
  r = [] ∨ ∃ s, r = '<' :: '/' :: s

variable {r : List Char} {content : Content} {row : List Content}

theorem toList_render_text (s : String) :
    (Content.render false (.text s)).toList = s.toList.flatMap escapeTextChar := by
  simp [Content.render, escapeText]

theorem toList_render_comment (s : String) :
    (Content.render false (.comment s)).toList =
      '<' :: '!' :: '-' :: '-' :: (s.toList ++ ['-', '-', '>']) := by
  simp [Content.render]

/-- What stands after the start tag of an element. -/
def afterStartTag (tag : String) (children : List Content) : List Char :=
  if isVoid tag then []
  else (Content.renderAll false children).toList ++ '<' :: '/' :: (tag.toList ++ ['>'])

theorem toList_render_element {tag : String} (hraw : isRawText tag = false)
    (attributes : List (String × String)) (children : List Content) :
    (Content.render false (.element tag attributes children)).toList =
      (renderStartTag tag attributes).toList ++ afterStartTag tag children := by
  rw [Content.render, hraw, afterStartTag]
  split <;> simp

theorem toList_renderAll_cons :
    (Content.renderAll false (content :: row)).toList =
      (content.render false).toList ++ (Content.renderAll false row).toList := by
  rw [Content.renderAll, String.toList_append]

/-! ### How labelled trees begin -/

theorem exists_toList_render_text {s : String} (hs : s ≠ "") :
    ∃ c cs, (Content.render false (.text s)).toList = c :: cs ∧ c ≠ '<' := by
  rw [toList_render_text]
  cases hc : s.toList with
  | nil => exact absurd (String.toList_eq_nil_iff.mp hc) hs
  | cons c cs =>
    obtain ⟨d, ds, hd⟩ := List.exists_cons_of_ne_nil
      (show escapeTextChar c ≠ [] by rw [escapeTextChar_eq]; exact byName_ne_nil _ c)
    refine ⟨d, ds ++ cs.flatMap escapeTextChar, by rw [List.flatMap_cons, hd, List.cons_append], ?_⟩
    have hne := ne_of_mem_escapeTextChar (l := [c]) d (by simp [hd])
    exact bne_iff_ne.mp hne

theorem exists_toList_render_element {tag : String} {attributes : List (String × String)}
    {children : List Content} (h : (Content.element tag attributes children).Plain) :
    ∃ c cs, (Content.render false (.element tag attributes children)).toList = '<' :: c :: cs ∧
      c.isLower = true := by
  obtain ⟨⟨ht, hraw, -⟩, -, -⟩ := h
  obtain ⟨c, cs, hc, hlower⟩ := ht.head
  rw [toList_render_element hraw, toList_renderStartTag, hc]
  exact ⟨c, _, rfl, hlower⟩

/-- A row is not over in front of a plain labelled tree. -/
theorem not_endsRow_render (h : content.Plain) (s : List Char) :
    ¬ EndsRow ((content.render false).toList ++ s) := by
  cases content with
  | text text =>
    obtain ⟨c, cs, hc, hne⟩ := exists_toList_render_text h
    rw [hc]
    rintro (he | ⟨s', he⟩)
    · cases he
    · exact hne (List.cons.inj he).1
  | comment text =>
    rw [toList_render_comment]
    rintro (he | ⟨s', he⟩)
    · cases he
    · cases he
  | doctype name => cases h
  | instruction target text => cases h
  | element tag attributes children =>
    obtain ⟨c, cs, hc, hlower⟩ := exists_toList_render_element h
    rw [hc]
    rintro (he | ⟨s', he⟩)
    · cases he
    · obtain rfl : c = '/' := (List.cons.inj (List.cons.inj he).2).1
      cases hlower

/-- Where a row goes on without a text, or is over, there is an angle bracket or the end. -/
theorem head?_renderAll (hrow : RowPlain row) (hfirst : ∀ next ∈ row.head?, next.isText = false)
    (hr : EndsRow r) : ∀ c ∈ ((Content.renderAll false row).toList ++ r).head?, c = '<' := by
  intro c hc
  cases row with
  | nil =>
    rcases hr with rfl | ⟨s, rfl⟩
    · cases hc
    · exact (Option.some.inj hc).symm
  | cons content row =>
    rw [toList_renderAll_cons] at hc
    cases content with
    | text text => exact absurd (hfirst _ rfl) (by simp [Content.isText])
    | comment text =>
      rw [toList_render_comment] at hc
      exact (Option.some.inj hc).symm
    | doctype name => exact hrow.1.elim
    | instruction target text => exact hrow.1.elim
    | element tag attributes children =>
      obtain ⟨d, ds, hd, -⟩ := exists_toList_render_element hrow.1
      rw [hd] at hc
      exact (Option.some.inj hc).symm

mutual

/-- **A plain labelled tree is determined by its markup**, up to what comes after it. -/
theorem Content.render_inj : ∀ (x : Content), x.Plain → ∀ {y : Content}, y.Plain →
    ∀ {r r' : List Char}, (x.isText = true → ∀ c ∈ r.head?, c = '<') →
      (y.isText = true → ∀ c ∈ r'.head?, c = '<') →
        (x.render false).toList ++ r = (y.render false).toList ++ r' → x = y ∧ r = r'
  | .text s, hx, y, hy, r, r', hr, hr', h => by
    cases y with
    | text s' =>
      rw [toList_render_text, toList_render_text] at h
      obtain ⟨hs, hrest⟩ := escapeText_inj (hr rfl) (hr' rfl) h
      exact ⟨by rw [String.toList_inj.mp hs], hrest⟩
    | comment s' =>
      obtain ⟨c, cs, hc, hne⟩ := exists_toList_render_text hx
      rw [hc, toList_render_comment] at h
      exact absurd (List.cons.inj h).1 hne
    | doctype name => cases hy
    | instruction target s' => cases hy
    | element tag attributes children =>
      obtain ⟨c, cs, hc, hne⟩ := exists_toList_render_text hx
      obtain ⟨d, ds, hd, -⟩ := exists_toList_render_element hy
      rw [hc, hd] at h
      exact absurd (List.cons.inj h).1 hne
  | .comment s, hx, y, hy, r, r', hr, hr', h => by
    rw [toList_render_comment] at h
    cases y with
    | text s' =>
      obtain ⟨c, cs, hc, hne⟩ := exists_toList_render_text hy
      rw [hc] at h
      exact absurd (List.cons.inj h).1.symm hne
    | comment s' =>
      rw [toList_render_comment] at h
      simp only [List.cons_append, List.append_assoc, List.nil_append, List.cons.injEq,
        true_and] at h
      obtain ⟨hs, hrest⟩ := comment_inj hx hy h
      exact ⟨by rw [String.toList_inj.mp hs], hrest⟩
    | doctype name => cases hy
    | instruction target s' => cases hy
    | element tag attributes children =>
      obtain ⟨d, ds, hd, hlower⟩ := exists_toList_render_element hy
      rw [hd] at h
      obtain rfl : '!' = d := (List.cons.inj (List.cons.inj h).2).1
      cases hlower
  | .doctype _, hx, _, _, _, _, _, _, _ => hx.elim
  | .instruction _ _, hx, _, _, _, _, _, _, _ => hx.elim
  | .element tag attributes children, hx, y, hy, r, r', hr, hr', h => by
    cases y with
    | text s' =>
      obtain ⟨c, cs, hc, hne⟩ := exists_toList_render_text hy
      obtain ⟨d, ds, hd, -⟩ := exists_toList_render_element hx
      rw [hc, hd] at h
      exact absurd (List.cons.inj h).1.symm hne
    | comment s' =>
      obtain ⟨d, ds, hd, hlower⟩ := exists_toList_render_element hx
      rw [hd, toList_render_comment] at h
      obtain rfl : d = '!' := (List.cons.inj (List.cons.inj h).2).1
      cases hlower
    | doctype name => cases hy
    | instruction target s' => cases hy
    | element tag' attributes' children' =>
      obtain ⟨⟨ht, hraw, hvoid⟩, hnames, hrow⟩ := hx
      obtain ⟨⟨ht', hraw', hvoid'⟩, hnames', hrow'⟩ := hy
      rw [toList_render_element hraw, toList_render_element hraw', List.append_assoc,
        List.append_assoc] at h
      obtain ⟨rfl, rfl, hrest⟩ := renderStartTag_inj ht ht' hnames hnames' h
      unfold afterStartTag at hrest
      cases hv : isVoid tag with
      | true =>
        rw [hvoid hv, hvoid' hv]
        rw [hv] at hrest
        exact ⟨rfl, hrest⟩
      | false =>
        -- the children are over in front of the end tag
        rw [hv, if_neg (by decide), if_neg (by decide), List.append_assoc, List.append_assoc] at hrest
        obtain ⟨rfl, hend⟩ := Content.renderAll_inj children hrow hrow' (.inr ⟨_, rfl⟩)
          (.inr ⟨_, rfl⟩) hrest
        exact ⟨rfl, by simpa using hend⟩

/-- **A row of plain labelled trees is determined by its markup**, up to what comes after it. -/
theorem Content.renderAll_inj : ∀ (xs : List Content), RowPlain xs → ∀ {ys : List Content},
    RowPlain ys → ∀ {r r' : List Char}, EndsRow r → EndsRow r' →
      (Content.renderAll false xs).toList ++ r = (Content.renderAll false ys).toList ++ r' →
        xs = ys ∧ r = r'
  | [], _, [], _, _, _, _, _, h => ⟨rfl, h⟩
  | [], _, y :: ys, hy, r, r', hr, _, h => by
    rw [toList_renderAll_cons, List.append_assoc] at h
    obtain rfl : r = _ := h
    exact absurd hr (not_endsRow_render hy.1 _)
  | x :: xs, hx, [], _, r, r', _, hr', h => by
    rw [toList_renderAll_cons, List.append_assoc] at h
    obtain rfl : _ = r' := h
    exact absurd hr' (not_endsRow_render hx.1 _)
  | x :: xs, hx, y :: ys, hy, r, r', hr, hr', h => by
    obtain ⟨hx, hxnext, hxs⟩ := hx
    obtain ⟨hy, hynext, hys⟩ := hy
    rw [toList_renderAll_cons, toList_renderAll_cons, List.append_assoc, List.append_assoc] at h
    -- a text is not followed by another one, so its end is seen
    obtain ⟨rfl, hrest⟩ := Content.render_inj x hx hy
      (fun ht => head?_renderAll hxs (hxnext ht) hr)
      (fun ht => head?_renderAll hys (hynext ht) hr') h
    obtain ⟨rfl, hend⟩ := Content.renderAll_inj xs hxs hys hr hr' hrest
    exact ⟨rfl, hend⟩

end

end Rows

end WebPage.Markup
