import PageTape.Proofs.Css.Match
import PageTape.Locator.Quick
import PageTape.Page.Query

/-!
# The selector of a place is read as it was written

The place of an element is told by its `trail`: the element itself and those around it, up to the nearest one with an
id.  The text that tells it is read back as a chain of questions to these elements (`read_structural`).
-/

namespace PageTape

namespace Dom.Location

open Css (IsControl)

/-- What is asked of an element can be answered by the way it is written: its name, those of its attributes and those of
its siblings are in lower case. -/
structure IsLower (l : Location) : Prop where
  tag : l.tag.IsLower
  siblings : ∀ t ∈ l.tagsBefore, ∀ c ∈ t.name.toList, c.toLower = c

instance (l : Location) : Decidable l.IsLower :=
  decidable_of_iff (l.tag.IsLower ∧ ∀ t ∈ l.tagsBefore, ∀ c ∈ t.name.toList, c.toLower = c)
    ⟨fun ⟨tag, siblings⟩ => ⟨tag, siblings⟩, fun h => ⟨h.tag, h.siblings⟩⟩

/-- An element of which a selector can be written and read again: its name is a plain one, its values hold no zero, and
its id no control character. -/
structure Writable (l : Location) : Prop extends l.IsLower where
  name : Css.isPlainName l.tag.name = true
  values : ∀ a ∈ l.tag.attrs, ∀ c ∈ a.2.toText.toList, c.toNat ≠ 0
  ident : ∀ c ∈ l.tag.ident.toList, ¬ IsControl c

instance (l : Location) : Decidable l.Writable :=
  decidable_of_iff (l.IsLower ∧ Css.isPlainName l.tag.name = true ∧
    (∀ a ∈ l.tag.attrs, ∀ c ∈ a.2.toText.toList, c.toNat ≠ 0) ∧ ∀ c ∈ l.tag.ident.toList, ¬ IsControl c)
    ⟨fun ⟨lower, name, values, ident⟩ => ⟨lower, name, values, ident⟩,
      fun h => ⟨h.toIsLower, h.name, h.values, h.ident⟩⟩

/-- The document itself, which lies in nothing. -/
structure IsDocument (l : Location) : Prop where
  tag : l.tag = documentTag
  context : l.context = .top

instance (l : Location) : Decidable l.IsDocument :=
  have : Decidable (l.context = .top) := match l.context with
    | .top => isTrue rfl
    | .inside .. => isFalse nofun
  decidable_of_iff (l.tag = documentTag ∧ l.context = .top) ⟨fun ⟨tag, context⟩ => ⟨tag, context⟩,
    fun h => ⟨h.tag, h.context⟩⟩

/-- Of an element and of all that lie around it, but for the document, a selector can be written and read again. -/
def WritablePath (l : Location) : Prop := ∀ a ∈ l.outward, a.IsDocument ∨ a.Writable

instance (l : Location) : Decidable l.WritablePath := inferInstanceAs (Decidable (∀ a ∈ l.outward, _))

/-- What is asked of an element and of all that lie around it can be answered by the way they are written. -/
def LowerPath (l : Location) : Prop := ∀ a ∈ l.outward, a.IsLower

variable {l m p : Location} {n value : String}

lemma Writable.lowerName (h : l.Writable) : l.tag.lowerName = l.tag.name := Tag.lower_plain h.name

lemma Writable.attr? (h : l.Writable) (hvalue : l.tag.attr? n = some value) : ∀ c ∈ value.toList, c.toNat ≠ 0 := by
  obtain ⟨v, hv, rfl⟩ := Option.map_eq_some_iff.1 hvalue
  obtain ⟨before, after, hattrs, -⟩ := List.lookup_eq_some_iff.1 hv
  exact h.values (n, v) (hattrs ▸ List.mem_append_right _ List.mem_cons_self)

lemma Writable.ident_chars (h : l.Writable) : ∀ c ∈ l.tag.ident.toList, c.toNat ≠ 0 ∧ ¬ IsControl c := by
  refine fun c hc => ⟨?_, h.ident c hc⟩
  unfold Tag.ident at hc
  cases hvalue : l.tag.attr? "id" with
  | none => simp [hvalue] at hc
  | some value => exact h.attr? hvalue c (by simpa [hvalue] using hc)

/-- An element that can be read where it is written as part of a place: its name is a plain one, and its id holds no
zero and no control character. -/
structure Legible (l : Location) : Prop where
  name : Css.isPlainName l.tag.name = true
  ident : ∀ c ∈ l.tag.ident.toList, c.toNat ≠ 0 ∧ ¬ IsControl c

lemma Legible.lowerName (h : l.Legible) : l.tag.lowerName = l.tag.name := Tag.lower_plain h.name

lemma Writable.legible (h : l.Writable) : l.Legible where
  name := h.name
  ident := h.ident_chars

lemma WritablePath.writable {a : Location} (h : l.WritablePath) (ha : a ∈ l.outward)
    (hdocument : a.tag.isDocument = false) : a.Writable :=
  (h a ha).resolve_left fun ⟨htag, _⟩ => by rw [htag] at hdocument; cases hdocument

lemma IsDocument.isLower (h : l.IsDocument) : l.IsLower where
  tag := by rw [h.tag]; decide
  siblings t ht := by simp [tagsBefore, nodesBefore, h.context] at ht

/-- What lies around an element of a document are other elements of it, and the document. -/
lemma IsDocument.ancestors_cases {d a : Location} (h : d.IsDocument) (hl : l ∈ d.descendants) (ha : a ∈ l.ancestors) :
    a ∈ d.descendants ∨ a = d := by
  have htop : d.ancestors = [] := by
    rw [ancestors, h.context]
    rfl
  rcases mem_ancestors_cases hl ha with ha | ha | ha
  · exact .inl ha
  · exact .inr ha
  · simp [htop] at ha

lemma IsDocument.parent_cases {d : Location} (h : d.IsDocument) (hl : l ∈ d.descendants) (hp : l.parent? = some p) :
    p ∈ d.descendants ∨ p = d :=
  h.ancestors_cases hl (ancestors_of_parent hp ▸ List.mem_cons_self)

lemma WritablePath.lowerPath (h : l.WritablePath) : l.LowerPath := fun a ha => (h a ha).elim (·.isLower) (·.toIsLower)

lemma WritablePath.parent (h : l.WritablePath) (hp : l.parent? = some p) : p.WritablePath := fun a ha =>
  h a (List.mem_cons_of_mem _ (ancestors_of_parent hp ▸ ha))

lemma LowerPath.parent (h : m.LowerPath) (hp : m.parent? = some p) : p.LowerPath := fun a ha =>
  h a (List.mem_cons_of_mem _ (ancestors_of_parent hp ▸ ha))

end Dom.Location

namespace Locator

open Dom Css

variable {l m p : Location} {ts : List Location} {n value : String}

/-! ### The trail of an element -/

/-- The elements that the place of an element is told by, from the inside out, up to the body, the document or the
first element with an id. -/
def trailFrom : List Location → List Location
  | [] => []
  | l :: rest =>
    if l.tag.isDocument || l.tag.lowerName == "body" then []
    else if l.tag.ident.isEmpty then l :: trailFrom rest
    else [l]

/-- The elements that the place of an element is told by. -/
def trail (l : Location) : List Location := trailFrom l.outward

/-- What the place of an element tells of one element of its trail. -/
def part (l : Location) : String := if l.tag.ident.isEmpty then component l else ident l.tag.ident

lemma componentsFrom_eq (ls : List Location) : componentsFrom ls = (trailFrom ls).map part := by
  induction ls with
  | nil => rfl
  | cons l rest ih =>
    unfold componentsFrom trailFrom
    split
    · rfl
    · split
      · rename_i hident
        simp [ih, part, hident]
      · rename_i hident
        simp [part, hident]

/-! ### What is asked -/

/-- What the place of an element asks of one element of its trail. -/
def questions (l : Location) : List Test :=
  if l.tag.ident.isEmpty then
    match position? l with
    | some k => [.name none l.tag.lowerName, .nth ⟨0, k, false, true⟩]
    | none => [.name none l.tag.lowerName]
  else [.ident l.tag.ident]

/-- The selector that a trail stands for. -/
def chain : List Location → Selector
  | [] => .compound []
  | [l] => .compound (questions l)
  | l :: l' :: rest => .related (chain (l' :: rest)) .child (questions l)

/-! ### Reading -/

/-- A selector goes on here with the next element, or ends. -/
def IsNext (rest : List Char) : Prop := rest = [] ∨ ∃ cs, rest = ' ' :: cs

lemma IsNext.endsName {rest : List Char} (h : IsNext rest) : EndsName rest := by
  rcases h with rfl | ⟨cs, rfl⟩
  · exact .nil
  · exact .cons (by decide)

lemma IsNext.ne_bar {rest : List Char} (h : IsNext rest) : rest.head? ≠ some '|' := by
  rcases h with rfl | ⟨cs, rfl⟩ <;> simp

lemma toList_ident (value : String) : (ident value).toList = '#' :: (escape value).toList := by
  simp [ident]

lemma toList_attrOf (n value : String) :
    (attrOf n value).toList = '[' :: (n.toList ++ '=' :: '"' :: ((escape value).toList ++ ['"', ']'])) := by
  simp [attrOf, toString]

lemma toList_component (l : Location) : (component l).toList = l.tag.lowerName.toList ++ match position? l with
    | some k => ':' :: ("nth-of-type".toList ++ '(' :: (Nat.toDigits 10 k ++ [')']))
    | none => [] := by
  unfold component
  cases position? l with
  | none => simp
  | some k => simp [toString]

/-- One element of a trail is read. -/
lemma reads_part {pending : Pending} {rest : List Char} (h : l.Legible) (hgiven : pending.given = false)
    (hrest : IsNext rest) : Reads pending ((part l).toList ++ rest) (pending.ask (questions l)) rest := by
  unfold part questions
  split
  · rename_i hident
    rw [toList_component, h.lowerName, List.append_assoc]
    cases hposition : position? l with
    | none => exact .name h.name hgiven hrest.endsName hrest.ne_bar
    | some k =>
      have hcolon : EndsName (':' :: ("nth-of-type".toList ++ '(' :: (Nat.toDigits 10 k ++ ')' :: rest))) :=
        .cons (by decide)
      have hname := Reads.name (p := pending) h.name hgiven hcolon (by simp)
      have hread := hname.trans (.nth k)
      rw [Pending.ask_ask] at hread
      simpa using hread
  · rename_i hident
    rw [toList_ident, List.cons_append]
    exact .ident (by simpa using hident) h.ident hrest.endsName

lemma trimStart_part (h : l.Legible) (rest : List Char) :
    trimStart ((part l).toList ++ rest) = (part l).toList ++ rest := by
  unfold part
  split
  · rw [toList_component, h.lowerName, List.append_assoc]
    exact trimStart_plain h.name _
  · rw [toList_ident]
    rfl

/-- What has been read once a trail is read. -/
def pending : List Location → Pending
  | [] => {}
  | [l] => ({} : Pending).ask (questions l)
  | l :: l' :: rest => ((pending (l' :: rest)).combine .child).ask (questions l)

lemma pending_spec : ∀ {ts : List Location}, ts ≠ [] →
    (pending ts).current = chain ts ∧ (pending ts).done = [] ∧ (pending ts).given = true
  | [], h => absurd rfl h
  | [l], _ => by simp [pending, chain, Pending.current, Pending.ask]
  | l :: l' :: rest, _ => by
    obtain ⟨hcurrent, hdone, -⟩ := pending_spec (List.cons_ne_nil l' rest)
    simp [pending, chain, Pending.current, Pending.combine, Pending.ask, ← hcurrent, hdone]

/-- The text of a trail. -/
def textOf : List Location → List Char
  | [] => []
  | [l] => (part l).toList
  | l :: l' :: rest => textOf (l' :: rest) ++ ' ' :: '>' :: ' ' :: (part l).toList

/-- A trail is read, from the outside in. -/
lemma reads_trail {rest : List Char} (hrest : IsNext rest) : ∀ {ts : List Location}, ts ≠ [] →
    (∀ l ∈ ts, l.Legible) → Reads {} (textOf ts ++ rest) (pending ts) rest
  | [], h, _ => absurd rfl h
  | [l], _, hw => reads_part (hw l List.mem_cons_self) rfl hrest
  | l :: l' :: ts, _, hw => by
    obtain ⟨hl, hts⟩ := List.forall_mem_cons.1 hw
    have hgiven := (pending_spec (List.cons_ne_nil l' ts)).2.2
    have houter := reads_trail (.inr ⟨'>' :: ' ' :: ((part l).toList ++ rest), rfl⟩) (List.cons_ne_nil l' ts) hts
    have hchild : Reads (pending (l' :: ts)) (' ' :: '>' :: ' ' :: ((part l).toList ++ rest))
        ((pending (l' :: ts)).combine .child) ((part l).toList ++ rest) := .child hgiven (trimStart_part hl rest)
    have hpart : Reads ((pending (l' :: ts)).combine .child) ((part l).toList ++ rest)
        (pending (l :: l' :: ts)) rest := reads_part hl rfl hrest
    have htext : textOf (l :: l' :: ts) ++ rest =
        textOf (l' :: ts) ++ ' ' :: '>' :: ' ' :: ((part l).toList ++ rest) := by simp [textOf]
    rw [htext]
    exact (houter.trans hchild).trans hpart

lemma trimStart_textOf : ∀ {ts : List Location}, ts ≠ [] → (∀ l ∈ ts, l.Legible) → ∀ rest,
    trimStart (textOf ts ++ rest) = textOf ts ++ rest
  | [], h, _, _ => absurd rfl h
  | [l], _, hw, rest => trimStart_part (hw l List.mem_cons_self) rest
  | l :: l' :: ts, _, hw, rest => by
    have h := trimStart_textOf (List.cons_ne_nil l' ts) (List.forall_mem_cons.1 hw).2
    rw [textOf, List.append_assoc]
    exact h _

lemma part_ne_zero (h : isPlainName l.tag.name = true) : ∀ c ∈ (part l).toList, c.toNat ≠ 0 := by
  have hname : ∀ c ∈ l.tag.name.toList, c.toNat ≠ 0 := fun c hc => isPlainName_ne_zero h hc
  unfold part
  split
  · rw [toList_component, Tag.lowerName, Tag.lower_plain h]
    cases position? l with
    | none => simpa using hname
    | some k =>
      have hdigits : ∀ c ∈ Nat.toDigits 10 k, c.toNat ≠ 0 := fun c hc => by
        have := Text.isDigit_iff.1 (Nat.isDigit_of_mem_toDigits (by omega) (by omega) hc)
        omega
      simp only [List.forall_mem_append, List.forall_mem_cons]
      exact ⟨hname, by decide, by decide, by decide, hdigits, by decide⟩
  · rw [toList_ident]
    exact List.forall_mem_cons.2 ⟨by decide, escape_ne_zero _⟩

lemma textOf_ne_zero : ∀ {ts : List Location}, (∀ l ∈ ts, isPlainName l.tag.name = true) → ∀ c ∈ textOf ts, c.toNat ≠ 0
  | [], _ => by simp [textOf]
  | [l], hn => part_ne_zero (hn l List.mem_cons_self)
  | l :: l' :: ts, hn => by
    obtain ⟨hl, hts⟩ := List.forall_mem_cons.1 hn
    rw [textOf]
    simp only [List.forall_mem_append, List.forall_mem_cons]
    exact ⟨textOf_ne_zero hts, by decide, by decide, by decide, part_ne_zero hl⟩

lemma textOf_eq : ∀ {ts : List Location}, ts ≠ [] →
    textOf ts = (String.intercalate " > " (ts.map part).reverse).toList
  | [], h => absurd rfl h
  | [l], _ => by simp [textOf]
  | l :: l' :: ts, _ => by
    rw [List.map_cons, List.reverse_cons, String.intercalate_append_of_ne_nil (by simp) (by simp), textOf,
      textOf_eq (List.cons_ne_nil l' ts)]
    simp

lemma part_ne_empty (h : isPlainName l.tag.name = true) : (part l).toList ≠ [] := by
  obtain ⟨c, cs, hname, -⟩ := isPlainName_cons h
  unfold part
  split
  · simp [toList_component, Tag.lowerName, Tag.lower_plain h, hname]
  · simp [toList_ident]

lemma textOf_ne_nil : ∀ {ts : List Location}, ts ≠ [] → (∀ l ∈ ts, isPlainName l.tag.name = true) → textOf ts ≠ []
  | [], h, _ => absurd rfl h
  | [l], _, hn => part_ne_empty (hn l List.mem_cons_self)
  | l :: l' :: ts, _, _ => by simp [textOf]

/-! ### The place of an element -/

/-- The selector that the place of an element stands for. -/
def place (l : Location) : Selector :=
  match trail l with
  | [] => .compound [.name none l.tag.lowerName]
  | t :: ts => chain (t :: ts)

lemma mem_trailFrom {a : Location} {ls : List Location} (h : a ∈ trailFrom ls) :
    a ∈ ls ∧ a.tag.isDocument = false := by
  induction ls with
  | nil => simp [trailFrom] at h
  | cons l rest ih =>
    unfold trailFrom at h
    split at h
    · simp at h
    · rename_i hstop
      have hdocument : l.tag.isDocument = false := by simp at hstop; exact hstop.1
      split at h
      · rcases List.mem_cons.1 h with rfl | h
        · exact ⟨List.mem_cons_self, hdocument⟩
        · exact ⟨List.mem_cons_of_mem _ (ih h).1, (ih h).2⟩
      · obtain rfl := List.mem_singleton.1 h
        exact ⟨List.mem_cons_self, hdocument⟩

lemma trail_writable (h : l.WritablePath) : ∀ a ∈ trail l, a.Writable := fun a ha => by
  obtain ⟨hmem, hdocument⟩ := mem_trailFrom ha
  exact h.writable hmem hdocument

/-- A text that tells a trail is read as the questions to its elements. -/
lemma read_trail {s : String} (hts : ts ≠ []) (hw : ∀ l ∈ ts, l.Legible) (hs : s.toList = textOf ts) :
    read s = .ok [chain ts] := by
  obtain ⟨hcurrent, hdone, hgiven⟩ := pending_spec hts
  rw [← hcurrent]
  refine read_of_reads ?_ ?_ ?_ hdone hgiven
  · rw [hs]
    exact textOf_ne_zero fun l hl => (hw l hl).name
  · rw [hs]
    simpa using trimStart_textOf hts hw []
  · rw [hs]
    simpa using reads_trail (.inl rfl) hts hw

lemma isPlainName_ne_empty (h : isPlainName n = true) : n.isEmpty = false := by
  obtain ⟨c, cs, hn, -⟩ := isPlainName_cons h
  rw [Bool.eq_false_iff, ne_eq, String.isEmpty_iff]
  rintro rfl
  cases hn

/-- The place of an element is told from the outside in. -/
lemma structural_eq (hts : trail l ≠ []) (hn : ∀ a ∈ trail l, isPlainName a.tag.name = true) :
    structural l = String.intercalate " > " ((trail l).map part).reverse := by
  have hne : (String.intercalate " > " ((trail l).map part).reverse).isEmpty = false := by
    rw [Bool.eq_false_iff, ne_eq, String.isEmpty_iff]
    exact fun heq => textOf_ne_nil hts hn (by rw [textOf_eq hts, heq]; rfl)
  unfold structural
  rw [componentsFrom_eq, ← trail, textOr]
  simp only [hne, Bool.false_eq_true, if_false]

/-- **The place of an element is read** as the questions to the elements of its trail. -/
theorem read_structural (hl : l.tag.isDocument = false) (h : l.WritablePath) :
    read (structural l) = .ok [place l] := by
  have hself := h.writable List.mem_cons_self hl
  have hw : ∀ a ∈ trail l, a.Legible := fun a ha => (trail_writable h a ha).legible
  unfold place
  cases htrail : trail l with
  | nil =>
    have hne := isPlainName_ne_empty hself.name
    have hname : structural l = l.tag.name := by
      unfold structural
      rw [componentsFrom_eq, ← trail, htrail, hself.lowerName]
      simp [textOr, hne]
    rw [hname, hself.lowerName]
    exact read_plain hself.name
  | cons t ts =>
    have htext := structural_eq (htrail ▸ List.cons_ne_nil t ts) fun a ha => (hw a ha).name
    rw [htrail] at hw htext
    exact read_trail (List.cons_ne_nil t ts) hw (by rw [htext, textOf_eq (List.cons_ne_nil t ts)])

end Locator

end PageTape
