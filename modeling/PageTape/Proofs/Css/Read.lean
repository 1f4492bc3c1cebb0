import PageTape.Proofs.Css.Name

/-!
# Reading a selector, piece by piece

`Reads p cs p' cs'` says that reading a selector gets from `cs` to `cs'`, and what has been read of it from `p` to `p'`.
There is one lemma for each of the pieces of which the selectors of elements are put together: the name of an element
(`Reads.name`), an id, an attribute, a position among siblings, and the mark between parent and child.  An id with one
of the control characters behind ASCII is not read (`read_control`).
-/

namespace PageTape.Css

variable {p p' p'' : Pending} {c : Char} {cs cs' cs'' rest : List Char} {n : String}

/-! ### Plain names -/

/-- A lower-case name that stands in a selector as it is. -/
def isPlainName (s : String) : Bool :=
  s.toList.head?.any Char.isLower && s.toList.all fun c => c.isLower || c.isDigit || c == '-' || c == '_'

lemma isPlainName_cons (h : isPlainName n = true) : ∃ c cs, n.toList = c :: cs ∧ c.isLower = true := by
  unfold isPlainName at h
  cases hn : n.toList with
  | nil => simp [hn] at h
  | cons c cs => exact ⟨c, cs, rfl, by simpa [hn] using (Bool.and_eq_true_iff.1 h).1⟩

lemma IsPlainChar.of_isLower (h : c.isLower = true) : IsPlainChar c :=
  .inl (Text.isAlphanum_iff.2 (.inl (.inr h)))

lemma IsPlainChar.of_isDigit (h : c.isDigit = true) : IsPlainChar c := .inl (Text.isAlphanum_iff.2 (.inr h))

/-- What is no upper-case letter stays in lower case. -/
lemma toLower_eq_self (h : c.toNat < 0x41 ∨ 0x5A < c.toNat) : c.toLower = c := by
  unfold Char.toLower
  refine dif_neg fun ⟨h₁, h₂⟩ => ?_
  have h₁ : 0x41 ≤ c.toNat := h₁
  have h₂ : c.toNat ≤ 0x5A := h₂
  omega

/-- The characters of a plain name are ASCII, and no upper-case letters. -/
lemma isPlainName_mem (h : isPlainName n = true) (hc : c ∈ n.toList) :
    IsPlainChar c ∧ c.toNat < 0x80 ∧ c.toLower = c := by
  have hc := List.all_eq_true.1 (Bool.and_eq_true_iff.1 h).2 c hc
  simp only [Bool.or_eq_true, beq_iff_eq] at hc
  rcases hc with ((hc | hc) | rfl) | rfl
  · have hbounds := Text.isLower_iff.1 hc
    exact ⟨.of_isLower hc, by omega, toLower_eq_self (.inr (by omega))⟩
  · have hbounds := Text.isDigit_iff.1 hc
    exact ⟨.of_isDigit hc, by omega, toLower_eq_self (.inl (by omega))⟩
  · decide
  · decide

lemma isPlainName_ne_zero (h : isPlainName n = true) (hc : c ∈ n.toList) : c.toNat ≠ 0 := fun hzero => by
  have hplain := (isPlainName_mem h hc).1
  obtain rfl : c = Char.ofNat 0 := Char.toNat_inj.1 hzero
  exact absurd hplain (by decide)

lemma spells_self (h : ∀ c ∈ cs, IsPlainChar c) : Spells cs cs := by
  induction cs with
  | nil => exact .nil
  | cons c cs ih =>
    obtain ⟨hc, hcs⟩ := List.forall_mem_cons.1 h
    exact .cons (.plain hc) (ih hcs)

lemma name?_plain (h : isPlainName n = true) (hrest : EndsName rest) : name? (n.toList ++ rest) = some (n, rest) := by
  obtain ⟨c, cs, hn, hc⟩ := isPlainName_cons h
  have hmem : ∀ c ∈ n.toList, IsPlainChar c ∧ ¬ IsControl c := fun c hc => by
    obtain ⟨hplain, hascii, -⟩ := isPlainName_mem h hc
    exact ⟨hplain, fun hcontrol => absurd hcontrol.1 (Nat.not_le.2 hascii)⟩
  have hstart : startsName (n.toList ++ rest) = true := by
    have hfirst := hmem c (hn ▸ List.mem_cons_self)
    have hbounds := Text.isLower_iff.1 hc
    rw [hn]
    refine startsName_piece (.plain hfirst.1) hfirst.2 (fun _ => ⟨Bool.eq_false_iff.2 fun hdigit => ?_, ?_⟩) _
    · have := Text.isDigit_iff.1 hdigit
      omega
    · rintro rfl
      exact absurd hbounds.1 (by decide)
  unfold name?
  rw [hstart, nameRest_spells (spells_self fun c hc => (hmem c hc).1) (fun c hc => (hmem c hc).2) hrest (by simp)]
  simp

/-! ### Blanks -/

lemma IsPlainChar.isSpace (h : IsPlainChar c) : isSpace c = false := by
  have hne : ∀ d, ¬ IsPlainChar d → c ≠ d := fun d hd => h.ne hd
  simp [Css.isSpace, hne ' ' (by decide), hne '\t' (by decide), hne '\n' (by decide), hne '\r' (by decide),
    hne (Char.ofNat 12) (by decide)]

lemma trimStart_cons (h : IsPlainChar c) (cs : List Char) : trimStart (c :: cs) = c :: cs := by
  unfold trimStart
  rw [List.length_cons, skipBlanks]
  · simp [h.isSpace]
  · exact fun _ hc _ => h.ne (by decide) hc

lemma trimStart_plain (h : isPlainName n = true) (rest : List Char) :
    trimStart (n.toList ++ rest) = n.toList ++ rest := by
  obtain ⟨c, cs, hn, hc⟩ := isPlainName_cons h
  rw [hn, List.cons_append, trimStart_cons (.of_isLower hc)]

lemma map_toLower_of (h : ∀ c ∈ n.toList, c.toLower = c) : n.map Char.toLower = n := by
  rw [← String.toList_inj, String.toList_map, List.map_congr_left (g := id) h, List.map_id]

/-- A plain name is in lower case. -/
lemma map_toLower (h : isPlainName n = true) : n.map Char.toLower = n :=
  map_toLower_of fun _ hc => (isPlainName_mem h hc).2.2

lemma trimStart_toDigits (k : Nat) (rest : List Char) :
    trimStart (Nat.toDigits 10 k ++ rest) = Nat.toDigits 10 k ++ rest := by
  cases hk : Nat.toDigits 10 k with
  | nil => exact absurd hk Nat.toDigits_ne_nil
  | cons c cs =>
    have hc : c.isDigit = true := Nat.isDigit_of_mem_toDigits (by omega) (by omega) (hk ▸ List.mem_cons_self)
    rw [List.cons_append, trimStart_cons (.of_isDigit hc)]

/-! ### Names and attributes -/

/-- A name without a name space. -/
lemma spacedName?_plain (star : Bool) (h : isPlainName n = true) (hrest : EndsName rest)
    (hbar : rest.head? ≠ some '|') : spacedName? star (n.toList ++ rest) = some (none, n, rest) := by
  have hname := name?_plain h hrest
  obtain ⟨c, cs, hn, hc⟩ := isPlainName_cons h
  have hstar : c ≠ '*' := (IsPlainChar.of_isLower hc).ne (by decide)
  have hpipe : c ≠ '|' := (IsPlainChar.of_isLower hc).ne (by decide)
  rw [hn, List.cons_append] at hname ⊢
  cases rest with
  | nil =>
    rw [List.append_nil] at hname ⊢
    simp [spacedName?, hstar, hpipe, hname]
  | cons d rest =>
    have hd : d ≠ '|' := by simpa using hbar
    simp [spacedName?, hstar, hpipe, hname, hd]

/-- An attribute with its value. -/
lemma attribute?_escape {value : String} (h : isPlainName n = true) (htype : n ≠ "type")
    (hvalue : ∀ c ∈ value.toList, c.toNat ≠ 0) (rest : List Char) :
    attribute? (n.toList ++ '=' :: '"' :: ((escape value).toList ++ '"' :: ']' :: rest)) =
      some (.attribute ⟨n, some (.equals, value), false⟩, rest) := by
  have hname := spacedName?_plain false h
    (.cons (by decide) : EndsName ('=' :: '"' :: ((escape value).toList ++ '"' :: ']' :: rest))) (by simp)
  have hvalue := value?_escape hvalue (']' :: rest)
  have htrim : trimStart (n.toList ++ '=' :: '"' :: ((escape value).toList ++ '"' :: ']' :: rest)) =
      n.toList ++ '=' :: '"' :: ((escape value).toList ++ '"' :: ']' :: rest) := trimStart_plain h _
  have hlower : (n.map Char.toLower == "type") = false := by rw [map_toLower h]; simpa using htype
  have hequals : ∀ cs, trimStart ('=' :: cs) = '=' :: cs := fun _ => rfl
  have hquote : ∀ cs, trimStart ('"' :: cs) = '"' :: cs := fun _ => rfl
  have hend : attributeEnd? (']' :: rest) = some (none, rest) := rfl
  unfold attribute?
  rw [htrim, hname]
  simp [hequals, compare?, hquote, hvalue, hend, hlower]

/-! ### Positions -/

lemma natOf_toDigits (k : Nat) : natOf (Nat.toDigits 10 k) = k := by
  have hfold : natOf (Nat.toDigits 10 k) = Nat.ofDigitChars 10 (Nat.toDigits 10 k) 0 := by
    unfold natOf Html.decimalNat Nat.ofDigitChars
    congr
    funext m c
    rw [Nat.mul_comm]
  rw [hfold, Nat.ofDigitChars_toDigits (by omega) (by omega)]

/-- A word that does not begin with a digit does not stand where a digit stands. -/
lemma after?_eq_none (word : String) {d : Char} {ds : List Char} (hword : word.toList = d :: ds)
    (hd : d.isDigit = false) (hc : c.isDigit = true) (cs : List Char) : after? word (c :: cs) = none := by
  have hlower : c.toLower = c := toLower_eq_self (.inl (by have := Text.isDigit_iff.1 hc; omega))
  have hlength : word.length = ds.length + 1 := by rw [← String.length_toList, hword]; rfl
  have hne : ¬ (String.ofList (((c :: cs).take word.length).map Char.toLower) == word) = true := fun heq => by
    have hlist := congrArg String.toList (beq_iff_eq.1 heq)
    rw [hword, hlength, String.toList_ofList, List.take_succ_cons, List.map_cons, hlower, List.cons.injEq] at hlist
    rw [← hlist.1, hc] at hd
    cases hd
  exact if_neg hne

/-- A number as a position. -/
lemma position?_toDigits (k : Nat) (rest : List Char) :
    position? (Nat.toDigits 10 k ++ ')' :: rest) = some (0, (k : Int), ')' :: rest) := by
  have hdigits : ∀ c ∈ Nat.toDigits 10 k, c.isDigit = true := fun c hc =>
    Nat.isDigit_of_mem_toDigits (by omega) (by omega) hc
  have hvalue := natOf_toDigits k
  have htake : (Nat.toDigits 10 k ++ ')' :: rest).takeWhile Char.isDigit = Nat.toDigits 10 k := by
    rw [List.takeWhile_append_of_pos hdigits, List.takeWhile_cons_of_neg (by decide), List.append_nil]
  have hdrop : (Nat.toDigits 10 k ++ ')' :: rest).drop (Nat.toDigits 10 k).length = ')' :: rest := List.drop_left
  cases hk : Nat.toDigits 10 k with
  | nil => exact absurd hk Nat.toDigits_ne_nil
  | cons c cs =>
    rw [hk] at hdigits hvalue htake hdrop
    have hc := hdigits c List.mem_cons_self
    have hne : ∀ d : Char, d.isDigit = false → c ≠ d := fun d hd e => by simp [e ▸ hc] at hd
    rw [List.cons_append] at htake hdrop ⊢
    unfold position?
    rw [after?_eq_none "even" rfl (by decide) hc, after?_eq_none "odd" rfl (by decide) hc]
    simp [hne '-' (by decide), hne '+' (by decide), htake, hvalue]

/-! ### The pieces of a selector -/

lemma Pending.ask_ask (p : Pending) (ts us : List Test) : (p.ask ts).ask us = p.ask (ts ++ us) := by
  simp [Pending.ask]

-- the equations of the reader, made once for all the pieces
attribute [local simp] readFrom

/-- Behind the mark of an id a name is read. -/
lemma readFrom_mark (fuel : Nat) (p : Pending) (cs : List Char) : readFrom (fuel + 1) .outer p ('#' :: cs) =
    (name? cs).elim (.error .malformed) fun found => readFrom fuel .outer (p.ask [.ident found.1]) found.2 := by
  have hmark : trimStart ('#' :: cs) = '#' :: cs := rfl
  rw [readFrom]
  simp only [hmark]
  cases name? cs <;> rfl

/-- Behind the bracket of an attribute the attribute is read. -/
lemma readFrom_bracket (fuel : Nat) (p : Pending) (cs : List Char) : readFrom (fuel + 1) .outer p ('[' :: cs) =
    (attribute? cs).elim (.error .malformed) fun found => readFrom fuel .outer (p.ask [found.1]) found.2 := by
  have hbracket : trimStart ('[' :: cs) = '[' :: cs := rfl
  rw [readFrom]
  simp only [hbracket]
  cases attribute? cs <;> rfl

/-- **Where a plain character stands a name is read**: it is no blank and no combinator, and begins no other piece. -/
lemma readFrom_plain (h : IsPlainChar c) (fuel : Nat) (kind : ListKind) (p : Pending) (cs : List Char) :
    readFrom (fuel + 1) kind p (c :: cs) = (spacedName? true (c :: cs)).elim (.error .malformed) fun found =>
      if p.given then .error .malformed else readFrom fuel kind (p.ask [.name found.1 found.2.1]) found.2.2 := by
  have hne : ∀ d, ¬ IsPlainChar d → c ≠ d := fun d hd => h.ne hd
  have hmark : combinatorOf? c = none := by
    simp [combinatorOf?, hne ',' (by decide), hne '>' (by decide), hne '+' (by decide), hne '~' (by decide)]
  have hcombinator : combinator? (c :: cs) = none := by simp [combinator?, trimStart_cons h, hmark]
  rw [readFrom]
  · cases spacedName? true (c :: cs) with
    | none => simp [trimStart_cons h, hne ')' (by decide), hcombinator]
    | some found => simp [trimStart_cons h, hne ')' (by decide)]
  -- none of the marks that begin another piece is plain
  all_goals
    intros
    rename_i heq
    exact hne _ (by decide) (List.cons.inj heq).1

/-- Reading gets from one place to another. -/
def Reads (p : Pending) (cs : List Char) (p' : Pending) (cs' : List Char) : Prop :=
  ∀ fuel, cs.length < fuel → ∃ fuel', cs'.length < fuel' ∧
    readFrom fuel .outer p cs = readFrom fuel' .outer p' cs'

namespace Reads

lemma refl (p : Pending) (cs : List Char) : Reads p cs p cs := fun fuel hf => ⟨fuel, hf, rfl⟩

lemma trans (h : Reads p cs p' cs') (h' : Reads p' cs' p'' cs'') : Reads p cs p'' cs'' := fun fuel hf => by
  obtain ⟨fuel', hf', hread⟩ := h fuel hf
  obtain ⟨fuel'', hf'', hread'⟩ := h' fuel' hf'
  exact ⟨fuel'', hf'', hread.trans hread'⟩

/-- One piece is read, which is not empty. -/
lemma of_step (hlt : cs'.length < cs.length)
    (h : ∀ fuel, readFrom (fuel + 1) .outer p cs = readFrom fuel .outer p' cs') : Reads p cs p' cs' := fun fuel hf => by
  cases fuel with
  | zero => exact absurd hf (Nat.not_lt_zero _)
  | succ fuel => exact ⟨fuel, Nat.lt_of_lt_of_le hlt (Nat.le_of_lt_succ hf), h fuel⟩

/-- An id. -/
lemma ident {value : String} (hs : value.toList ≠ []) (h : ∀ c ∈ value.toList, c.toNat ≠ 0 ∧ ¬ IsControl c)
    (hrest : EndsName rest) : Reads p ('#' :: ((escape value).toList ++ rest)) (p.ask [.ident value]) rest := by
  refine .of_step (by simp only [List.length_cons, List.length_append]; omega) fun fuel => ?_
  rw [readFrom_mark, name?_escape hs h hrest]
  rfl

/-- An attribute with its value. -/
lemma attr {value : String} (h : isPlainName n = true) (htype : n ≠ "type")
    (hvalue : ∀ c ∈ value.toList, c.toNat ≠ 0) :
    Reads p ('[' :: (n.toList ++ '=' :: '"' :: ((escape value).toList ++ '"' :: ']' :: rest)))
      (p.ask [.attribute ⟨n, some (.equals, value), false⟩]) rest := by
  refine .of_step (by simp only [List.length_cons, List.length_append]; omega) fun fuel => ?_
  rw [readFrom_bracket, attribute?_escape h htype hvalue]
  rfl

/-- The name of an element. -/
lemma name (h : isPlainName n = true) (hgiven : p.given = false) (hrest : EndsName rest)
    (hbar : rest.head? ≠ some '|') : Reads p (n.toList ++ rest) (p.ask [.name none n]) rest := by
  obtain ⟨c, cs, hn, hc⟩ := isPlainName_cons h
  refine .of_step (by simp only [hn, List.length_cons, List.length_append]; omega) fun fuel => ?_
  have hspaced := spacedName?_plain true h hrest hbar
  rw [hn, List.cons_append] at hspaced ⊢
  rw [readFrom_plain (.of_isLower hc), hspaced, Option.elim_some, hgiven]
  rfl

/-- A position among the siblings of one name. -/
lemma nth (k : Nat) : Reads p (':' :: ("nth-of-type".toList ++ '(' :: (Nat.toDigits 10 k ++ ')' :: rest)))
    (p.ask [.nth ⟨0, k, false, true⟩]) rest := by
  refine .of_step (by simp only [List.length_cons, List.length_append]; omega) fun fuel => ?_
  have hname : name? ("nth-of-type".toList ++ '(' :: (Nat.toDigits 10 k ++ ')' :: rest)) =
      some ("nth-of-type", '(' :: (Nat.toDigits 10 k ++ ')' :: rest)) := rfl
  have hlower : "nth-of-type".map Char.toLower = "nth-of-type" := map_toLower (by decide)
  have hlookup : positionNames.lookup "nth-of-type" = some (false, true) := by decide
  have htrim := trimStart_toDigits k (')' :: rest)
  have hposition := position?_toDigits k rest
  have hcolon : ∀ cs, trimStart (':' :: cs) = ':' :: cs := fun _ => rfl
  have hclose : trimStart (')' :: rest) = ')' :: rest := rfl
  rw [readFrom]
  · simp only [hcolon, hname, hlower, hlookup, htrim, hposition, hclose]
    rfl
  · exact fun _ heq => by simp at heq

/-- The mark between a parent and a child. -/
lemma child (hgiven : p.given = true) (hrest : trimStart rest = rest) :
    Reads p (' ' :: '>' :: ' ' :: rest) (p.combine .child) rest := by
  refine .of_step (by simp only [List.length_cons]; omega) fun fuel => ?_
  show (if p.given then readFrom fuel .outer (p.combine .child) (trimStart rest) else .error .malformed) = _
  rw [if_pos hgiven, hrest]

end Reads

/-- **A text is read as one selector** if reading gets to its end. -/
theorem read_of_reads {s : String} (hnul : ∀ c ∈ s.toList, c.toNat ≠ 0) (htrim : trimStart s.toList = s.toList)
    (h : Reads {} s.toList p []) (hdone : p.done = []) (hgiven : p.given = true) : read s = .ok [p.current] := by
  have hmap : (s.toList.map fun c => if c == Char.ofNat 0 then Html.replacement else c) = s.toList := map_nonzero hnul
  obtain ⟨fuel, hf, hread⟩ := h (s.toList.length + 1) (Nat.lt_succ_self _)
  have hend : readFrom fuel .outer p [] = .ok ([p.current], []) := by
    cases fuel with
    | zero => exact absurd hf (Nat.not_lt_zero _)
    | succ fuel =>
      show (finish .outer p).map (fun ss => (ss, [])) = _
      simp [finish, hgiven, Pending.comma, hdone, Except.map]
  unfold read
  dsimp only
  rw [hmap, htrim, hread, hend]
  rfl

/-- A plain name is read as the question for it. -/
lemma read_plain (h : isPlainName n = true) : read n = .ok [.compound [.name none n]] := by
  refine read_of_reads (p := ({} : Pending).ask [.name none n]) (fun c hc => isPlainName_ne_zero h hc) ?_ ?_ rfl rfl
  · simpa using trimStart_plain h []
  · simpa using Reads.name (p := {}) h rfl .nil (by simp)

/-- Reading does not go on at one of the control characters. -/
lemma readFrom_control (h : IsControl c) (fuel : Nat) (kind : ListKind) (p : Pending) :
    readFrom fuel kind p (c :: cs) = .error .malformed := by
  cases fuel with
  | zero => simp
  | succ fuel =>
    have hne : ∀ d, ¬ IsPlainChar d → c ≠ d := fun d hd => h.isPlainChar.ne hd
    obtain ⟨hstart, -, hhyphen⟩ := h.not_isNameChar
    have hname : name? (c :: cs) = none := by
      simp [name?, startsName, hne '\\' (by decide), hstart, hhyphen]
    have hspaced : spacedName? true (c :: cs) = none := by
      simp [spacedName?, hne '*' (by decide), hne '|' (by decide), hname]
    rw [readFrom_plain h.isPlainChar, hspaced, Option.elim_none]

/-- **A selector that asks for an id with one of the control characters is refused.** -/
theorem read_control {s value : String} (hs : s.toList = '#' :: ((escape value).toList ++ rest))
    (hnul : ∀ c ∈ s.toList, c.toNat ≠ 0) (hvalue : ∀ c ∈ value.toList, c.toNat ≠ 0)
    (hcontrol : ∃ c ∈ value.toList, IsControl c) : read s = .error .malformed := by
  have hmap : (s.toList.map fun c => if c == Char.ofNat 0 then Html.replacement else c) = s.toList := map_nonzero hnul
  have hmark : ∀ cs, trimStart ('#' :: cs) = '#' :: cs := fun _ => rfl
  unfold read
  dsimp only
  rw [hmap, hs, hmark, readFrom_mark]
  cases hname : name? ((escape value).toList ++ rest) with
  | none => rfl
  | some read =>
    obtain ⟨c, cs, hafter, hc⟩ := name?_control hvalue hcontrol hname
    rw [Option.elim_some, hafter, readFrom_control hc]
    rfl

end PageTape.Css
