import Mathlib.Data.Char
import PageTape.Proofs.Script.Said
import PageTape.Proofs.Text.Digits
import PageTape.Text.Names

/-!
# Numbers, names and descriptions in a script

Besides texts a statement holds numbers, which are plain program text, and so are the names that are made from prose;
the description of a test stands in a remark without a margin.  Of the rest, which is written out, it is asked once for
each shape of a statement what its characters have to be.
-/

namespace PageTape.Script

/-! ### Numbers in program text -/

/-- A language in which a number is plain program text. -/
def Language.HasInts (L : Language) : Prop := Text.intChars.all L.isPlain = true

lemma isPlain_int {L : Language} (h : L.HasInts) {n : Int} : (toString n).toList.all L.isPlain = true := by
  rw [List.all_eq_true]
  exact fun c hc => List.all_eq_true.1 h c (Text.mem_intChars hc)

/-- Program text with something else in it. -/
lemma isPlain_between {L : Language} {a t b : String} (ha : a.toList.all L.isPlain = true)
    (ht : t.toList.all L.isPlain = true) (hb : b.toList.all L.isPlain = true) :
    (a ++ t ++ b).toList.all L.isPlain = true := by
  simp only [String.toList_append, List.all_append, ha, ht, hb, Bool.and_self]

lemma fits_code {L : Language} {b : Bool} {t : String} (ht : t.toList.all L.isPlain = true) :
    fits L b [.code t] = true := by
  simp [fits, ht]

/-- Behind program text a literal may open as it may behind its end. -/
lemma fits_between {L : Language} {o : Bool} {a t b : String} {rest : List Piece} (ha : a.toList.all L.isPlain = true)
    (ht : t.toList.all L.isPlain = true) (hb : b.toList ≠ []) :
    fits L o (.code (a ++ t ++ b) :: rest) = fits L o (.code b :: rest) := by
  obtain ⟨c, hc⟩ := Option.ne_none_iff_exists'.1 (mt List.getLast?_eq_none_iff.1 hb)
  simp only [fits, String.toList_append, List.all_append, ha, ht, Bool.true_and, List.getLast?_append, hc, Option.some_or]

lemma all_intercalate {p : Char → Bool} {separator : String} {ts : List String}
    (hseparator : separator.toList.all p = true) (hts : ∀ t ∈ ts, t.toList.all p = true) :
    (separator.intercalate ts).toList.all p = true := by
  induction ts with
  | nil => simp
  | cons t rest ih =>
    obtain ⟨ht, hrest⟩ := List.forall_mem_cons.1 hts
    cases rest with
    | nil => simpa using ht
    | cons u more =>
      rw [String.intercalate_cons_cons]
      simp only [String.toList_append, List.all_append, ht, hseparator, ih hrest, Bool.and_self]

lemma isFlat_code {L : Language} {t : String} (ht : t.toList.all L.isPlain = true) : isFlat L (.code t) = true := by
  rw [isFlat, List.all_eq_true]
  intro c hc
  have hplain := List.all_eq_true.1 ht c hc
  simp only [Language.isPlain, Bool.and_eq_true] at hplain
  exact hplain.1.2

lemma isUpright_between {a t b : String} {rest : List Piece} (ha : a.toList.any (· != ' ') = true) :
    isUpright (.code (a ++ t ++ b) :: rest) = true := by
  simp only [isUpright, String.toList_append, List.any_append, ha, Bool.true_or]

section Numbers

variable {L : Language} {a b c : String}

/-- A number may end a statement. -/
lemma fits_int (h : L.HasInts) (ha : a.toList.all L.isPlain = true) (hb : b.toList.all L.isPlain = true) {o : Bool}
    {n : Int} : fits L o [.code (a ++ toString n ++ b)] = true := fits_code (isPlain_between ha (isPlain_int h) hb)

/-- A number in a remark stays on its line. -/
lemma flat_int (h : L.HasInts) (ha : a.toList.all L.isPlain = true) (hb : b.toList.all L.isPlain = true) {n : Int} :
    ([.code (a ++ toString n ++ b)] : List Piece).all (isFlat L) = true := by
  rw [List.all_cons, isFlat_code (isPlain_between ha (isPlain_int h) hb)]
  rfl

/-- A statement of program text and two numbers. -/
lemma call_ints (h : L.HasInts) (ha : a.toList.all L.isPlain = true) (hupright : a.toList.any (· != ' ') = true)
    (hb : b.toList.all L.isPlain = true) (hc : c.toList.all L.isPlain = true) (x y : Int) :
    isCall L [.code (a ++ toString x ++ b ++ toString y ++ c)] = true := by
  have hplain : (a ++ toString x ++ b ++ toString y ++ c).toList.all L.isPlain = true :=
    isPlain_between (isPlain_between ha (isPlain_int h) hb) (isPlain_int h) hc
  have hbegin : (a ++ toString x ++ b).toList.any (· != ' ') = true := by
    simp only [String.toList_append, List.any_append, hupright, Bool.true_or]
  exact Voice.call_iff.2 ⟨fits_code hplain, isUpright_between hbegin, List.cons_ne_nil _ _, rfl⟩

end Numbers

/-! ### Names in program text -/

lemma toNat_lt_of_isSnakeChar {c : Char} (hc : Text.isSnakeChar c = true) : c.toNat < 128 := by
  rw [Text.isSnakeChar, Bool.or_eq_true, Text.isAlphanum_iff, Text.isUpper_iff, Text.isLower_iff, Text.isDigit_iff,
    beq_iff_eq] at hc
  rcases hc with hc | rfl
  · omega
  · decide

/-- A language in which a name is plain program text. -/
def Language.HasNames (L : Language) : Prop :=
  ∀ n < 128, Text.isSnakeChar (Char.ofNat n) = true → L.isPlain (Char.ofNat n) = true

lemma isPlain_name {L : Language} (h : L.HasNames) {t : String} (ht : t.toList.all Text.isSnakeChar = true) :
    t.toList.all L.isPlain = true := by
  rw [List.all_eq_true] at ht ⊢
  intro c hc
  have hplain := h c.toNat (toNat_lt_of_isSnakeChar (ht c hc))
  rw [Char.ofNat_toNat] at hplain
  exact hplain (ht c hc)

lemma mem_trimList {drop : Char → Bool} {cs : List Char} {c : Char} (hc : c ∈ Text.trimList drop cs) : c ∈ cs := by
  rw [Text.trimList, List.mem_reverse] at hc
  have hinner := (List.dropWhile_suffix drop).subset hc
  rw [List.mem_reverse] at hinner
  exact (List.dropWhile_suffix drop).subset hinner

lemma isSnakeChar_snakeRuns {cs : List Char} {b : Bool} {c : Char} (hc : c ∈ Text.snakeRuns b cs) :
    Text.isSnakeChar c = true := by
  induction cs generalizing b with
  | nil => cases hc
  | cons d rest ih =>
    rw [Text.snakeRuns] at hc
    split at hc
    · rename_i hd
      rcases List.mem_cons.1 hc with rfl | hc
      · exact hd
      · exact ih hc
    · split at hc
      · exact ih hc
      · rcases List.mem_cons.1 hc with rfl | hc
        · decide
        · exact ih hc

lemma snakeCase_all (s : String) : (Text.snakeCase s).toList.all Text.isSnakeChar = true := by
  rw [List.all_eq_true, Text.snakeCase, String.toList_ofList]
  exact fun c hc => isSnakeChar_snakeRuns (mem_trimList hc)

lemma camelCase_all (s : String) : (Text.camelCase s).toList.all Text.isSnakeChar = true := by
  rw [List.all_eq_true, Text.camelCase, String.toList_ofList]
  intro c hc
  have hname : c.isAlphanum = true := (List.mem_filter.1 hc).2
  simp [Text.isSnakeChar, hname]

lemma orText_all {s other : String} {p : Char → Bool} (hs : s.toList.all p = true) (hother : other.toList.all p = true) :
    (orText (some s) other).toList.all p = true := by
  have hcases : orText (some s) other = s ∨ orText (some s) other = other := by
    unfold orText nonempty?
    dsimp only
    split
    · exact .inr rfl
    · exact .inl rfl
  rcases hcases with h | h
  · rwa [h]
  · rwa [h]

/-- A remark of program text alone does not end the program if it has no question mark. -/
lemma not_closes_code {L : Language} {sp : Spelling} {t : String} (h : '?' ∉ t.toList) :
    ¬ L.Closes (sp.remarkText [.code t]) := by
  rintro ⟨-, hclose⟩
  have hmem : '?' ∈ (sp.remarkText [.code t]).toList := hclose.subset List.mem_cons_self
  have htext : (sp.remarkText [.code t]).toList = t.toList := by simp [Spelling.remarkText, Spelling.piece]
  exact h (htext ▸ hmem)

lemma not_closes {L : Language} (h : L.hasClosingTag = false) {t : String} : ¬ L.Closes t := by
  rintro ⟨htag, -⟩
  rw [h] at htag
  cases htag

/-! ### Program text that is written out -/

section Written

variable {L : Language} {o : Bool} {t : String} {cs : List Char} {rest : List Piece}

/-- Program text that may begin a statement and that a literal may follow. -/
def Language.leads (L : Language) (cs : List Char) : Bool :=
  cs.all L.isPlain && cs.any (· != ' ') && cs.getLast?.any fun c => opensLiteral (some (.code c))

/-- Program text may follow anything. -/
lemma fits_text (hcs : cs.all L.isPlain = true) (hrest : ∀ o, fits L o rest = true) :
    fits L o (.code (String.ofList cs) :: rest) = true := by
  simp only [fits, String.toList_ofList, hcs, hrest, Bool.and_self]

/-- Program text may end a statement. -/
lemma fits_end (hcs : cs.all L.isPlain = true) : fits L o [.code (String.ofList cs)] = true := fits_text hcs fun _ => rfl

/-- A literal may follow program text whose end opens it. -/
lemma fits_quote (hcs : cs.all L.isPlain = true)
    (hopen : (cs.getLast?.any fun c => opensLiteral (some (.code c))) = true) (hrest : fits L false rest = true) :
    fits L o (.code (String.ofList cs) :: .literal t :: rest) = true := by
  cases hlast : cs.getLast? with
  | none =>
    rw [hlast] at hopen
    cases hopen
  | some c =>
    rw [hlast] at hopen
    simp only [fits, String.toList_ofList, hcs, hlast, hrest, Bool.and_true, Bool.true_and]
    exact hopen

/-- A statement that is program text alone. -/
lemma call_text (hcs : cs.all L.isPlain = true) (hupright : cs.any (· != ' ') = true) :
    isCall L [.code (String.ofList cs)] = true := by
  have hbegin : isUpright [.code (String.ofList cs)] = true := by
    simpa only [isUpright, String.toList_ofList] using hupright
  exact Voice.call_iff.2 ⟨fits_end hcs, hbegin, List.cons_ne_nil _ _, rfl⟩

/-- A statement that begins with program text and a literal. -/
lemma call_quote (hcs : L.leads cs = true) (hrest : fits L false rest = true) (hbare : rest.all Piece.isBare = true) :
    isCall L (.code (String.ofList cs) :: .literal t :: rest) = true := by
  simp only [Language.leads, Bool.and_eq_true] at hcs
  obtain ⟨⟨hplain, hupright⟩, hopen⟩ := hcs
  have hbegin : isUpright (.code (String.ofList cs) :: .literal t :: rest) = true := by
    simpa only [isUpright, String.toList_ofList] using hupright
  exact Voice.call_iff.2 ⟨fits_quote hplain hopen hrest, hbegin, List.cons_ne_nil _ _, hbare⟩

/-- Program text in a remark stays on its line. -/
lemma flat_text (hcs : cs.all (!L.breaks.contains ·) = true) (hrest : rest.all (isFlat L) = true) :
    (.code (String.ofList cs) :: rest : List Piece).all (isFlat L) = true := by
  rw [List.all_cons, isFlat, String.toList_ofList, hcs, hrest, Bool.and_self]

end Written

namespace Voice

variable {V : Voice} {texts texts' told told' : List String} {u : String} {ps rest : List Piece} {l : Line}
  {ls : List Line} {cs ds : List Char}

/-- One statement. -/
lemma Speaks.one (hcall : isCall V.language ps = true)
    (hliterals : Told (· ∈ V.own) Eq texts (V.dialect.spelling.quoted ps)) : V.Speaks texts [ps] where
  ne_nil := by simp
  call := by simpa using hcall
  literals := by simpa using hliterals

/-- A line that says nothing adds nothing to what is said. -/
lemma Says.behind {l : Line} {ls : List Line} (h : V.Says texts told ls) (hl : V.Says [] [] [l]) :
    V.Says texts told (l :: ls) := hl.append h

lemma Says.code {ls : List Line} {t : String} (h : V.Says texts told ls) (ht : t.toList.all V.language.isPlain = true)
    (hupright : t.toList.any (· != ' ') = true) : V.Says texts told (.ofCode t :: ls) :=
  h.behind (.outer (fits_code ht) hupright .nil .nil)

lemma Says.skip {ls : List Line} (h : V.Says texts told ls) : V.Says texts told (.blank :: ls) := h.behind .blank

/-- The remark that a description stands in. -/
lemma says_description (hmargin : V.language.breaks.contains ' ' = false) (description : Option String) :
    V.Says [] (labelRemarks description) (match nonempty? description with
      | some text => [{ pieces := [.remark, .code " ", .prose text] }]
      | none => []) := by
  unfold labelRemarks
  cases nonempty? description with
  | none => exact .nil
  | some text =>
    refine .outer ?_ rfl .nil (.text (tells_prose (by decide)) .nil)
    simp only [List.contains_eq_mem, decide_eq_false_iff_not] at hmargin
    simp [Script.fits, isFlat, hmargin]

/-! #### Statements and remarks -/

/-- Where a statement is a line by itself. -/
lemma HasMargin.says_call (hV : V.HasMargin) (hcall : isCall V.language ps = true)
    (hliterals : Told (· ∈ V.own) Eq texts (V.dialect.spelling.quoted ps)) :
    V.Says texts [] (V.dialect.indented [ps]) := by
  obtain ⟨hfits, hupright, -, -⟩ := call_iff.1 hcall
  refine hV.says_line hfits hupright hliterals ?_
  rw [remark?_call hcall]
  exact .nil

lemma Says.call (hcall : isCall V.language ps = true)
    (hliterals : Told (· ∈ V.own) Eq texts (V.dialect.spelling.quoted ps)) : V.Says texts [] [{ pieces := ps }] := by
  obtain ⟨hfits, hupright, -, -⟩ := call_iff.1 hcall
  refine .outer hfits hupright hliterals ?_
  rw [remark?_call hcall]
  exact .nil

/-- Program text alone before other lines. -/
lemma Says.text (h : V.Says texts told ls) (hcs : cs.all V.language.isPlain = true) (hupright : cs.any (· != ' ') = true) :
    V.Says texts told (.ofCode (String.ofList cs) :: ls) := h.behind (.call (call_text hcs hupright) .nil)

/-- A remark of the voice's own. -/
lemma HasMargin.says_own (hV : V.HasMargin) (htag : V.language.hasClosingTag = false)
    (hrest : rest.all (isFlat V.language) = true) : V.Says [] [] (V.dialect.indented [.remark :: rest]) :=
  hV.says_line hrest rfl .nil (.own (not_closes htag) .nil)

/-- Where a user pauses a remark tells the seconds and a statement waits. -/
lemma HasMargin.says_paused (hV : V.HasMargin) (htag : V.language.hasClosingTag = false) (hints : V.language.HasInts)
    (hremark : " User paused for ~".toList.all V.language.isPlain = true)
    (hunit : "s".toList.all V.language.isPlain = true) {a b : String} (ha : a.toList.all V.language.isPlain = true)
    (hupright : a.toList.any (· != ' ') = true) (hb : b.toList.all V.language.isPlain = true) (delta : Int) :
    V.Says [] [] (V.dialect.indented
      [[.remark, .code s!" User paused for ~{seconds delta}s"], [.code (a ++ toString delta ++ b)]]) :=
  (hV.says_own htag (flat_int hints hremark hunit)).cons
    (hV.says_line (fits_int hints ha hb) (isUpright_between hupright) .nil .nil)

/-- A remark that ends with a text that is printable. -/
lemma HasMargin.says_told (hV : V.HasMargin) (hu : Text.printable u = u) (hcs : cs.all (!V.language.breaks.contains ·) = true)
    (hmark : '?' ∉ cs) : V.Says [] [u] (V.dialect.indented [[.remark, .code (String.ofList cs), .prose u]]) :=
  hV.says_line (flat_text hcs rfl) rfl .nil (.text (tells_printed hu (by rwa [String.toList_ofList])) .nil)

/-- A remark with a text in it that is printable. -/
lemma HasMargin.says_told_between (hV : V.HasMargin) (hu : Text.printable u = u)
    (hcs : cs.all (!V.language.breaks.contains ·) = true) (hmark : '?' ∉ cs)
    (hds : ds.all (!V.language.breaks.contains ·) = true) (hend : '>' ∉ ds) : V.Says [] [u]
      (V.dialect.indented [[.remark, .code (String.ofList cs), .prose u, .code (String.ofList ds)]]) := by
  have htold : V.Tells u (V.dialect.spelling.remarkText [.code (String.ofList cs), .prose u, .code (String.ofList ds)]) :=
    tells_between hu (by rwa [String.toList_ofList]) (by rwa [String.toList_ofList])
  have hflat : ([.prose u, .code (String.ofList ds)] : List Piece).all (isFlat V.language) = true := by
    rw [List.all_cons, flat_text hds rfl]
    rfl
  exact hV.says_line (flat_text hcs hflat) rfl .nil (.text htold .nil)

/-- The test of required fields, if there is one, says what its body says. -/
lemma says_optional {negative : Option (List Line)} (frame : List Line → List Line)
    (hframe : ∀ body, V.Says texts told body → V.Says texts told (frame body)) :
    (match negative with
      | some body => V.Says texts told body
      | none => texts = [] ∧ told = []) →
    V.Says texts told (match negative with
      | some body => frame body
      | none => []) := by
  cases negative with
  | none =>
    rintro ⟨rfl, rfl⟩
    exact .nil
  | some body => exact hframe body

end Voice

end PageTape.Script
