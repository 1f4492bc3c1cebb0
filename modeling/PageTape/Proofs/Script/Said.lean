import PageTape.Proofs.Script.Lines
import PageTape.Recording.File
import PageTape.Script.Generate

/-!
# What a script says of what it is made from

A `Voice` is a dialect with the language that its scripts are read in and what a reader must know of it: the words that
are its own, the gestures that take a value, and how it tells a key, a scroll and a name.  From that follows which
texts a script must quote, and in which order, and what its remarks must tell (`Voice.scriptTexts`,
`Voice.scriptRemarks`).  A voice is `Sound` if each of its statements says what it should (`Voice.Says`), and then a
whole script does (`Voice.Sound.says_script`).
-/

namespace PageTape.Script

open RecordingFile (Material)

/-! ### Texts among the words of a framework -/

section Told

variable {α β : Type} {own : β → Prop} {R : α → β → Prop}

/-- What is to be told is told in order, and what stands between is the teller's own. -/
inductive Told (own : β → Prop) (R : α → β → Prop) : List α → List β → Prop
  | nil : Told own R [] []
  | text {a : α} {b : β} {as : List α} {bs : List β} : R a b → Told own R as bs → Told own R (a :: as) (b :: bs)
  | own {b : β} {as : List α} {bs : List β} : own b → Told own R as bs → Told own R as (b :: bs)

variable {as as' : List α} {bs bs' : List β}

lemma Told.append (h : Told own R as bs) (h' : Told own R as' bs') : Told own R (as ++ as') (bs ++ bs') := by
  induction h with
  | nil => exact h'
  | text hR _ ih => exact .text hR ih
  | own hown _ ih => exact .own hown ih

/-- A property that goes over from what is told to what tells it. -/
lemma Told.exists_iff {P : α → Prop} {Q : β → Prop} (h : Told own R as bs) (hown : ∀ b, own b → ¬ Q b)
    (hR : ∀ a b, R a b → (P a ↔ Q b)) : (∃ a ∈ as, P a) ↔ ∃ b ∈ bs, Q b := by
  induction h with
  | nil => simp
  | text hab _ ih => simp [hR _ _ hab, ih]
  | own hb _ ih => simp [hown _ hb, ih]

end Told

/-! ### What there is to say -/

/-- The texts that a wait quotes. -/
def waitTexts : Wait → List String
  | .visible selector _ | .hidden selector _ => [selector]
  | .url url => [url]
  | .networkIdle => []

/-- The texts that an assertion quotes. -/
def assertionTexts (a : Assertion) : List String :=
  match a.kind with
  | .urlChanged | .urlContains | .redirect => [a.expected.getD ""]
  | .visibleText => (nonempty? a.expected).toList
  | .elementVisible | .elementHidden | .fieldError => [a.selector.getD ""]
  | .toastMessage => [orText a.selector defaultToast]
  | .fieldValue => [a.selector.getD "", a.expected.getD ""]
  | .responseOk => []

/-- What the remarks of an assertion tell: of a response its description and its status. -/
def assertionRemarks (a : Assertion) : List String :=
  match a.kind with
  | .responseOk => [(describeResponse a).1, (describeResponse a).2.2]
  | _ => []

/-- What a remark tells of a label or a description. -/
def labelRemarks (label : Option String) : List String := ((nonempty? label).map Text.printable).toList

/-- What the remarks of a step tell: its label, and that of an assertion what this has to tell. -/
def stepRemarks (s : Step) : List String :=
  match s.kind, s.assertion with
  | .assert, some a => assertionRemarks a
  | _, _ => labelRemarks s.label

/-- The page that a script opens. -/
def openingTexts (o : Options) : List String := (nonempty? o.pageUrl).toList

/-- The assertions that a script ends with. -/
def askedAssertions (o : Options) : List Assertion := if o.includeAssertions then o.assertions else []

/-- The steps that are written, knowing whether the first is still to come. -/
def shown (o : Options) (first : Bool) : List Step → List Step
  | [] => []
  | s :: rest => if isSuppressed o first s then shown o false rest else s :: shown o false rest

/-- Actions in the order in which they are written: what submits comes last. -/
def submitsLast (actions : List Action) : List Action :=
  actions.filter (fun a => !a.kind.submits) ++ actions.filter fun a => a.kind.submits

/-- The actions that a material amounts to. -/
def actionsOf : Material → List Action
  | .steps steps => steps.filterMap Step.action?
  | .actions actions => actions

/-- The actions on required fields. -/
def requiredOf (actions : List Action) : List Action := actions.filter fun a => a.required == some true

/-- What the remarks in the body of a test tell. -/
def bodyRemarks (o : Options) (m : Material) : List String :=
  (match m with
    | .steps steps => (shown o true steps).flatMap stepRemarks
    | .actions actions => (submitsLast actions).flatMap fun a => labelRemarks a.label)
  ++ (askedAssertions o).flatMap assertionRemarks

/-- **What the remarks of a script tell**, in order. -/
def scriptRemarks (o : Options) (m : Material) : List String := labelRemarks o.testDescription ++ bodyRemarks o m

/-- **A dialect and what a reader must know of it**: the language of its scripts, the lines that open them, the words
that its literals have of their own, the gestures that take a value, and what is quoted of a key on an element, of a
scroll, of the name of a test, and in objects for the actions. -/
structure Voice where
  dialect : Dialect
  language : Language
  opening : List Line := []
  own : List String
  valued : Gesture → Bool
  keys : String → String → List String
  scrolls : Int → Int → List String
  titles : String → List String
  objects : Options → List Action → List String

namespace Voice

variable (V : Voice)

/-- The texts that a gesture quotes. -/
def gestureTexts (g : Gesture) (selector value : String) : List String :=
  selector :: if V.valued g then [value] else []

/-- The texts that an action quotes. -/
def actionTexts (o : Options) (a : Action) : List String :=
  V.gestureTexts (ActionKind.gesture a.kind) (actionSelector o a) a.value

/-- The texts that a step quotes. -/
def stepTexts (o : Options) (s : Step) : List String :=
  let selector := stepSelector o s
  let gesture := fun g => V.gestureTexts g selector (s.value.getD "")
  match s.kind with
  | .navigate => [s.url.getD ""]
  | .pressKey => V.keys (s.key.getD "") selector
  | .waitForElement | .waitForHidden => [selector]
  | .waitForUrl => [orText s.url (s.value.getD "")]
  | .waitForNetworkIdle => []
  | .scroll => V.scrolls (s.scrollPosition.getD {}).x (s.scrollPosition.getD {}).y
  | .assert => (s.assertion.map assertionTexts).getD []
  | .fill => gesture .fill
  | .select => gesture .select
  | .check => gesture .check
  | .uncheck => gesture .uncheck
  | .click => gesture .click
  | .submit => gesture .submit
  | .hover => gesture .hover
  | .clear => gesture .clear

/-- The texts that the body of a test quotes. -/
def bodyTexts (o : Options) (m : Material) : List String :=
  openingTexts o ++ (match m with
    | .steps steps => (shown o true steps).flatMap (V.stepTexts o)
    | .actions actions => (submitsLast actions).flatMap (V.actionTexts o))
  ++ (askedAssertions o).flatMap assertionTexts

/-- The texts that the test of required fields quotes, if it is asked for and there is such a field: the page, the
first element that submits, the errors to be shown, and the fields. -/
def negativeTexts (o : Options) (actions : List Action) : List String :=
  if !o.includeNegativeTest || (requiredOf actions).isEmpty then []
  else openingTexts o
    ++ ((actions.find? fun a => a.kind.submits).map fun a =>
      V.gestureTexts .click (actionSelector o a) "").getD []
    ++ (o.assertions.filter fun a => a.kind == .fieldError).flatMap assertionTexts
    ++ (requiredOf actions).map (actionSelector o)

/-- **The texts that a script quotes**, in order. -/
def scriptTexts (o : Options) (m : Material) : List String :=
  V.titles o.testName ++ V.bodyTexts o m ++ V.negativeTexts o (actionsOf m) ++ V.objects o (actionsOf m)

end Voice

/-- The lines of a script. -/
def Dialect.linesFor (d : Dialect) (o : Options) : Material → List Line
  | .steps steps => d.stepsScript o steps
  | .actions actions => d.actionsScript o actions

/-- A script for steps or for actions. -/
def Dialect.scriptFor (d : Dialect) (o : Options) : Material → String
  | .steps steps => d.generateRecording o steps
  | .actions actions => d.generate o actions

lemma Dialect.scriptFor_eq (d : Dialect) (o : Options) (m : Material) :
    d.scriptFor o m = d.spelling.render (d.linesFor o m) := by
  cases m <;> rfl

/-! ### What lines say -/

namespace Spelling

variable (sp : Spelling)

/-- The texts that pieces quote before their remark. -/
def quoted : List Piece → List String
  | [] => []
  | .literal s :: rest => s :: quoted rest
  | .key k :: rest => sp.keyText k :: quoted rest
  | .remark :: _ => []
  | .code _ :: rest | .prose _ :: rest => quoted rest

/-- The texts that lines quote. -/
def literals (ls : List Line) : List String := ls.flatMap fun l => sp.quoted l.pieces

/-- The remarks of lines. -/
def remarks (ls : List Line) : List String := ls.filterMap fun l => sp.remark? l.pieces

end Spelling

/-- A statement does not begin with blanks. -/
def isUpright : List Piece → Bool
  | .code t :: _ => t.toList.any (· != ' ')
  | .prose _ :: _ => false
  | _ => true

/-- A piece before the remark of a line. -/
def Piece.isBare : Piece → Bool
  | .remark | .prose _ => false
  | _ => true

/-- A statement without a remark. -/
def isCall (L : Language) (ps : List Piece) : Bool :=
  fits L true ps && isUpright ps && !ps.isEmpty && ps.all Piece.isBare

namespace Voice

variable (V : Voice)

/-- A remark tells a text, and ends the program only where the text itself does. -/
def Tells (text remark : String) : Prop :=
  text.toList <:+: remark.toList ∧ (V.language.Closes remark → ['?', '>'] <:+: text.toList)

/-- **Lines say texts in literals and others in remarks**, in order, with only words of the voice between. -/
structure Says (texts told : List String) (ls : List Line) : Prop where
  fits : ∀ l ∈ ls, l.fits V.language = true
  upright : ∀ l ∈ ls, isUpright l.pieces = true
  literals : Told (· ∈ V.own) Eq texts (V.dialect.spelling.literals ls)
  remarks : Told (fun r => ¬ V.language.Closes r) V.Tells told (V.dialect.spelling.remarks ls)

/-- Statements say texts and have no remark, so that a label may follow. -/
structure Speaks (texts : List String) (statements : List (List Piece)) : Prop where
  ne_nil : statements ≠ []
  call : ∀ ps ∈ statements, isCall V.language ps = true
  literals : Told (· ∈ V.own) Eq texts (statements.flatMap V.dialect.spelling.quoted)

/-- The margin of a body is of blanks, or other program text that a literal may follow. -/
def HasMargin : Prop :=
  V.dialect.margin.toList.all V.language.isPlain = true ∧ V.dialect.margin.toList.getLast? = some ' '

/-- **All that a dialect writes says what it should**, each kind of statement and the frame of a file. -/
structure Sound : Prop where
  suits : V.dialect.spelling.Suits V.language
  opening : V.dialect.spelling.render V.opening = String.ofList V.language.opening
  margin : V.HasMargin
  gap : V.dialect.labelGap.toList.all (fun c => V.language.isPlain c && c != '?') = true
  mark : '?' ∉ V.dialect.spelling.mark.toList
  blank : ' ' ∉ V.language.breaks
  assert : Script.fits V.language true [.remark, .code " assert"] = true
  navigate : ∀ url, V.Speaks [url] [V.dialect.navigate url]
  interact : ∀ g selector value, V.Speaks (V.gestureTexts g selector value) [V.dialect.interact g selector value]
  pressKey : ∀ key selector, V.Speaks (V.keys key selector) [V.dialect.pressKey key selector]
  wait : ∀ w, V.Speaks (waitTexts w) (V.dialect.wait w)
  scroll : ∀ x y, V.Speaks (V.scrolls x y) [V.dialect.scroll x y]
  pause : ∀ delta, V.Says [] [] (V.dialect.indented (V.dialect.pause delta))
  requiredCheck : ∀ selector, V.Speaks [selector] [V.dialect.requiredCheck selector]
  assertion : ∀ a, V.Says (assertionTexts a) (assertionRemarks a) (V.dialect.indented (V.dialect.assertion a))
  file : ∀ (p : Parts) (texts told : List String) (texts' told' : List String), V.Says texts told p.body →
    (match p.negative with
      | some body => V.Says texts' told' body
      | none => texts' = [] ∧ told' = []) →
    ∃ ls, V.dialect.file p = V.opening ++ ls ∧
      V.Says (V.titles p.options.testName ++ texts ++ texts' ++ V.objects p.options p.actions)
        (labelRemarks p.options.testDescription ++ told ++ told') ls

variable {V} {o : Options} {texts texts' told told' : List String} {ls ls' : List Line} {ps qs : List Piece}
  {statements : List (List Piece)} {t u : String} {cs ds : List Char}

/-! ### A closing tag within a text -/

lemma infix_of_append_left (h : ['?', '>'] <:+: cs ++ ds) (hcs : '?' ∉ cs) : ['?', '>'] <:+: ds := by
  induction cs with
  | nil => exact h
  | cons c rest ih =>
    rw [List.mem_cons, not_or] at hcs
    rcases List.infix_cons_iff.1 h with hprefix | hinfix
    · obtain ⟨after, hafter⟩ := hprefix
      exact absurd (List.cons.inj hafter).1 hcs.1
    · exact ih hinfix hcs.2

lemma infix_of_append_right (h : ['?', '>'] <:+: cs ++ ds) (hds : '>' ∉ ds) : ['?', '>'] <:+: cs := by
  obtain ⟨before, after, heq⟩ := h
  have hsplit : (before ++ ['?']) ++ '>' :: after = cs ++ ds := by simpa using heq
  rcases List.append_eq_append_iff.1 hsplit with ⟨rest, hcs, hafter⟩ | ⟨rest, -, rfl⟩
  · cases rest with
    | nil =>
      rw [List.nil_append] at hafter
      exact absurd (hafter ▸ List.mem_cons_self) hds
    | cons c rest =>
      obtain ⟨rfl, -⟩ := List.cons.inj hafter
      exact ⟨before, rest, by rw [hcs]; simp⟩
  · exact absurd (List.mem_append_right rest List.mem_cons_self) hds

/-- A remark with a text between others tells it. -/
lemma tells_of_append (hu : u.toList = cs ++ t.toList ++ ds) (hcs : '?' ∉ cs) (hds : '>' ∉ ds) : V.Tells t u := by
  refine ⟨⟨cs, ds, hu.symm⟩, ?_⟩
  rintro ⟨-, hclose⟩
  rw [hu] at hclose
  exact infix_of_append_left (infix_of_append_right hclose hds) hcs

/-- A remark with a text behind program text tells it. -/
lemma tells_prose {sp : Spelling} (ht : '?' ∉ t.toList) :
    V.Tells (Text.printable u) (sp.remarkText [.code t, .prose u]) := by
  have hremark : (sp.remarkText [.code t, .prose u]).toList = t.toList ++ (Text.printable u).toList ++ [] := by
    simp [Spelling.remarkText, Spelling.piece]
  exact tells_of_append hremark ht (by decide)

/-- A text that is printable is told as it is. -/
lemma tells_printed {sp : Spelling} (hu : Text.printable u = u) (ht : '?' ∉ t.toList) :
    V.Tells u (sp.remarkText [.code t, .prose u]) := by
  have htells : V.Tells (Text.printable u) (sp.remarkText [.code t, .prose u]) := tells_prose ht
  rwa [hu] at htells

lemma tells_between {sp : Spelling} {v : String} (hu : Text.printable u = u) (ht : '?' ∉ t.toList) (hv : '>' ∉ v.toList) :
    V.Tells u (sp.remarkText [.code t, .prose u, .code v]) := by
  have hremark : (sp.remarkText [.code t, .prose u, .code v]).toList = t.toList ++ u.toList ++ v.toList := by
    simp [Spelling.remarkText, Spelling.piece, hu]
  exact tells_of_append hremark ht hv

lemma printable_printable (s : String) : Text.printable (Text.printable s) = Text.printable s := by
  have hchar : ∀ c : Char, (if Text.isPrintable (if Text.isPrintable c then c else ' ') then
      (if Text.isPrintable c then c else ' ') else ' ') = if Text.isPrintable c then c else ' ' := by
    intro c
    cases h : Text.isPrintable c <;> simp [h]
  rw [← String.toList_inj]
  simp [Text.printable, Function.comp_def, hchar]

/-- What a remark says of a response is printable already. -/
lemma describeResponse_printable (a : Assertion) : Text.printable (describeResponse a).1 = (describeResponse a).1 ∧
    Text.printable (describeResponse a).2.2 = (describeResponse a).2.2 :=
  ⟨printable_printable _, printable_printable _⟩

/-! ### Putting lines together -/

lemma Says.nil : V.Says [] [] [] where
  fits := by simp
  upright := by simp
  literals := .nil
  remarks := .nil

lemma Says.append (h : V.Says texts told ls) (h' : V.Says texts' told' ls') :
    V.Says (texts ++ texts') (told ++ told') (ls ++ ls') where
  fits := by
    intro l hl
    rcases List.mem_append.1 hl with hl | hl
    · exact h.fits l hl
    · exact h'.fits l hl
  upright := by
    intro l hl
    rcases List.mem_append.1 hl with hl | hl
    · exact h.upright l hl
    · exact h'.upright l hl
  literals := by
    have happend := h.literals.append h'.literals
    rwa [Spelling.literals, Spelling.literals, ← List.flatMap_append] at happend
  remarks := by
    have happend := h.remarks.append h'.remarks
    rwa [Spelling.remarks, Spelling.remarks, ← List.filterMap_append] at happend

lemma Says.flatMap {α : Type} {as : List α} {f g : α → List String} {lines : α → List Line}
    (h : ∀ a ∈ as, V.Says (f a) (g a) (lines a)) : V.Says (as.flatMap f) (as.flatMap g) (as.flatMap lines) := by
  induction as with
  | nil => exact .nil
  | cons a rest ih =>
    obtain ⟨ha, hrest⟩ := List.forall_mem_cons.1 h
    exact ha.append (ih hrest)

lemma Says.map {α : Type} {as : List α} {f : α → String} {line : α → Line} (h : ∀ a ∈ as, V.Says [f a] [] [line a]) :
    V.Says (as.map f) [] (as.map line) := by
  induction as with
  | nil => exact .nil
  | cons a rest ih =>
    obtain ⟨ha, hrest⟩ := List.forall_mem_cons.1 h
    exact ha.append (ih hrest)

/-- A line by itself. -/
lemma Says.line {l : Line} (hfits : l.fits V.language = true) (hupright : isUpright l.pieces = true)
    (hliterals : Told (· ∈ V.own) Eq texts (V.dialect.spelling.quoted l.pieces))
    (hremarks : Told (fun r => ¬ V.language.Closes r) V.Tells told (V.dialect.spelling.remark? l.pieces).toList) :
    V.Says texts told [l] where
  fits := by simpa using hfits
  upright := by simpa using hupright
  literals := by simpa [Spelling.literals] using hliterals
  remarks := by
    cases hremark : V.dialect.spelling.remark? l.pieces with
    | none => simpa [Spelling.remarks, hremark] using hremarks
    | some r => simpa [Spelling.remarks, hremark] using hremarks

/-- Behind the margin a line is as its pieces are. -/
lemma HasMargin.fits_indented (hV : V.HasMargin) (hfits : Script.fits V.language true ps = true) :
    Line.fits V.language { margin := V.dialect.margin, pieces := ps } = true := by
  obtain ⟨hplain, hlast⟩ := hV
  simp only [Line.fits, Script.fits, hplain, hlast, Bool.true_and]
  exact hfits

/-- A statement by itself. -/
lemma HasMargin.says_line (hV : V.HasMargin) (hfits : Script.fits V.language true ps = true)
    (hupright : isUpright ps = true) (hliterals : Told (· ∈ V.own) Eq texts (V.dialect.spelling.quoted ps))
    (hremarks : Told (fun r => ¬ V.language.Closes r) V.Tells told (V.dialect.spelling.remark? ps).toList) :
    V.Says texts told (V.dialect.indented [ps]) :=
  .line (hV.fits_indented hfits) hupright hliterals hremarks

/-- A line without a margin by itself. -/
lemma Says.outer (hfits : Script.fits V.language true ps = true) (hupright : isUpright ps = true)
    (hliterals : Told (· ∈ V.own) Eq texts (V.dialect.spelling.quoted ps))
    (hremarks : Told (fun r => ¬ V.language.Closes r) V.Tells told (V.dialect.spelling.remark? ps).toList) :
    V.Says texts told [{ pieces := ps }] := by
  refine .line ?_ hupright hliterals hremarks
  simpa [Line.fits, Script.fits] using hfits

lemma Says.cons {l : Line} (h : V.Says texts told [l]) (h' : V.Says texts' told' ls) :
    V.Says (texts ++ texts') (told ++ told') (l :: ls) := h.append h'

lemma Says.blank : V.Says [] [] [.blank] := .line rfl rfl .nil .nil

/-! ### Pieces behind others -/

lemma quoted_append {sp : Spelling} (hps : ps.all Piece.isBare = true) :
    sp.quoted (ps ++ qs) = sp.quoted ps ++ sp.quoted qs := by
  induction ps with
  | nil => rfl
  | cons p rest ih =>
    rw [List.all_cons, Bool.and_eq_true] at hps
    cases p <;> first | exact absurd hps.1 Bool.false_ne_true | simp [Spelling.quoted, ih hps.2]

lemma remark?_append {sp : Spelling} (hps : ps.all Piece.isBare = true) : sp.remark? (ps ++ qs) = sp.remark? qs := by
  induction ps with
  | nil => rfl
  | cons p rest ih =>
    rw [List.all_cons, Bool.and_eq_true] at hps
    cases p <;> first | exact absurd hps.1 Bool.false_ne_true | exact ih hps.2

lemma fits_append {L : Language} {b : Bool} (hps : ps.all Piece.isBare = true) (hfits : fits L b ps = true)
    (hqs : ∀ b, fits L b qs = true) : fits L b (ps ++ qs) = true := by
  induction ps generalizing b with
  | nil => exact hqs b
  | cons p rest ih =>
    rw [List.all_cons, Bool.and_eq_true] at hps
    cases p with
    | code t | literal s | key k =>
      obtain ⟨hhead, hrest⟩ := (Bool.and_eq_true _ _).mp hfits
      exact (Bool.and_eq_true _ _).mpr ⟨hhead, ih hps.2 hrest⟩
    | remark => exact absurd hps.1 Bool.false_ne_true
    | prose t => exact absurd hps.1 Bool.false_ne_true

lemma isUpright_append (hne : ps ≠ []) : isUpright (ps ++ qs) = isUpright ps := by
  cases ps with
  | nil => exact absurd rfl hne
  | cons p rest => cases p <;> rfl

lemma call_iff {L : Language} : isCall L ps = true ↔
    fits L true ps = true ∧ isUpright ps = true ∧ ps ≠ [] ∧ ps.all Piece.isBare = true := by
  simp [isCall, and_assoc]

lemma remark?_call {L : Language} {sp : Spelling} (hcall : isCall L ps = true) : sp.remark? ps = none := by
  rw [← List.append_nil ps, remark?_append (call_iff.1 hcall).2.2.2]
  rfl

/-! ### Statements of a sound voice -/

namespace Sound

variable (hV : V.Sound)
include hV

lemma fits_indented (hfits : Script.fits V.language true ps = true) :
    Line.fits V.language { margin := V.dialect.margin, pieces := ps } = true := hV.margin.fits_indented hfits

/-- A remark of the dialect's own. -/
lemma says_remark (htext : ¬ ['?', '>'] <:+: (Text.printable t).toList) :
    V.Says [] [] [V.dialect.remark t] := by
  refine .line (hV.fits_indented ?_) rfl .nil (.own ?_ .nil)
  · simp [Script.fits, isFlat, hV.blank]
  · rintro ⟨-, hclose⟩
    have happend : ['?', '>'] <:+: [' '] ++ (Text.printable t).toList := by
      simpa [Spelling.remarkText, Spelling.piece] using hclose
    exact htext (infix_of_append_left happend (by decide))

/-- Statements as lines of a body. -/
lemma says_indented (h : V.Speaks texts statements) : V.Says texts [] (V.dialect.indented statements) where
  fits := by
    intro l hl
    obtain ⟨ps, hps, rfl⟩ := List.mem_map.1 hl
    exact hV.fits_indented (call_iff.1 (h.call ps hps)).1
  upright := by
    intro l hl
    obtain ⟨ps, hps, rfl⟩ := List.mem_map.1 hl
    exact (call_iff.1 (h.call ps hps)).2.1
  literals := by
    have hliterals := h.literals
    simpa [Spelling.literals, Dialect.indented, List.flatMap_map] using hliterals
  remarks := by
    have hnone : V.dialect.spelling.remarks (V.dialect.indented statements) = [] := by
      rw [Spelling.remarks, Dialect.indented, List.filterMap_eq_nil_iff]
      intro l hl
      obtain ⟨ps, hps, rfl⟩ := List.mem_map.1 hl
      exact remark?_call (h.call ps hps)
    rw [hnone]
    exact .nil

/-- A statement with a label behind it says what it says, and its remark tells the label. -/
lemma label_line (hcall : isCall V.language ps = true) (label : String) :
    let pieces := ps ++ [.code V.dialect.labelGap, .remark, .code " ", .prose label]
    Script.fits V.language true pieces = true ∧ isUpright pieces = true ∧
      V.dialect.spelling.quoted pieces = V.dialect.spelling.quoted ps ∧
      ∃ r, V.dialect.spelling.remark? pieces = some r ∧ V.Tells (Text.printable label) r := by
  obtain ⟨hfits, hupright, hne, hbare⟩ := call_iff.1 hcall
  have hgap : V.dialect.labelGap.toList.all V.language.isPlain = true := by
    rw [List.all_eq_true]
    intro c hc
    exact ((Bool.and_eq_true _ _).mp (List.all_eq_true.1 hV.gap c hc)).1
  refine ⟨fits_append hbare hfits ?_, ?_, ?_, _, remark?_append hbare, tells_prose (by decide)⟩
  · intro b
    simp [Script.fits, hgap, isFlat, hV.blank]
  · rwa [isUpright_append hne]
  · rw [quoted_append hbare]
    exact List.append_nil _

/-- Statements with a label behind the last. -/
lemma says_labelled (h : V.Speaks texts statements) (label : Option String) :
    V.Says texts (labelRemarks label) (V.dialect.labelled statements label) := by
  unfold Dialect.labelled
  split
  · rename_i text last before hlabel hreverse
    obtain rfl : statements = before.reverse ++ [last] := by
      rw [← List.reverse_reverse statements, hreverse, List.reverse_cons]
    obtain ⟨hfits, hupright, hquoted, r, hr, htells⟩ := hV.label_line (h.call last (by simp)) text
    have hbefore : ∀ ps ∈ before.reverse, isCall V.language ps = true := fun ps hps =>
      h.call ps (List.mem_append_left _ hps)
    refine ⟨?_, ?_, ?_, ?_⟩
    · intro l hl
      obtain ⟨ps, hps, rfl⟩ := List.mem_map.1 hl
      rcases List.mem_append.1 hps with hps | hps
      · exact hV.fits_indented (call_iff.1 (hbefore ps hps)).1
      · rw [List.mem_singleton.1 hps]
        exact hV.fits_indented hfits
    · intro l hl
      obtain ⟨ps, hps, rfl⟩ := List.mem_map.1 hl
      rcases List.mem_append.1 hps with hps | hps
      · exact (call_iff.1 (hbefore ps hps)).2.1
      · rw [List.mem_singleton.1 hps]
        exact hupright
    · have hliterals := h.literals
      simp only [List.flatMap_append, List.flatMap_singleton] at hliterals
      simpa only [Spelling.literals, Dialect.indented, List.flatMap_map, List.flatMap_append, List.flatMap_singleton,
        hquoted] using hliterals
    · have hnone : before.reverse.filterMap (fun ps => V.dialect.spelling.remark? ps) = [] := by
        rw [List.filterMap_eq_nil_iff]
        exact fun ps hps => remark?_call (hbefore ps hps)
      have hremarks : V.dialect.spelling.remarks (V.dialect.indented (before.reverse ++
          [last ++ [.code V.dialect.labelGap, .remark, .code " ", .prose text]])) = [r] := by
        simp only [Spelling.remarks, Dialect.indented, List.filterMap_map, List.filterMap_append]
        simpa [Function.comp_def, hr] using hnone
      rw [labelRemarks, hlabel, hremarks]
      exact .text htells .nil
  · rename_i hnot
    have hnone : nonempty? label = none := by
      rw [Option.eq_none_iff_forall_ne_some]
      intro text hlabel
      obtain ⟨last, before, hreverse⟩ := List.exists_cons_of_ne_nil (List.reverse_ne_nil_iff.2 h.ne_nil)
      exact hnot text last before hlabel hreverse
    rw [labelRemarks, hnone]
    exact hV.says_indented h

lemma gap_chars {c : Char} (hc : c ∈ V.dialect.labelGap.toList) : V.language.isPlain c = true ∧ c ≠ '?' := by
  simpa using List.all_eq_true.1 hV.gap c hc

/-- An assertion that is missing is told in a remark, and a label goes on in it. -/
lemma says_assert (label : Option String) :
    V.Says [] (labelRemarks label) (V.dialect.labelled [[.remark, .code " assert"]] label) := by
  have hassert := hV.assert
  cases hlabel : nonempty? label with
  | none =>
    rw [labelRemarks, hlabel]
    simp only [Dialect.labelled, hlabel]
    have hremark : (V.dialect.spelling.remarkText [.code " assert"]).toList = " assert".toList := by
      simp [Spelling.remarkText, Spelling.piece]
    refine .line (hV.fits_indented hassert) rfl .nil (.own ?_ .nil)
    rintro ⟨-, hclose⟩
    rw [hremark] at hclose
    exact absurd hclose (by decide)
  | some text =>
    rw [labelRemarks, hlabel]
    simp only [Dialect.labelled, hlabel]
    have hown : isFlat V.language (.code " assert") = true := by simpa [Script.fits] using hassert
    have hblank : isFlat V.language (.code " ") = true := by simp [isFlat, hV.blank]
    have hgap : isFlat V.language (.code V.dialect.labelGap) = true := by
      rw [isFlat, List.all_eq_true]
      intro c hc
      have hplain := (hV.gap_chars hc).1
      simp only [Language.isPlain, Bool.and_eq_true] at hplain
      exact hplain.1.2
    have hremark : (V.dialect.spelling.remarkText [.code " assert", .code V.dialect.labelGap, .remark, .code " ",
        .prose text]).toList =
          (" assert".toList ++ V.dialect.labelGap.toList ++ V.dialect.spelling.mark.toList ++ [' ']) ++
            (Text.printable text).toList ++ [] := by
      simp [Spelling.remarkText, Spelling.piece]
    refine .line (hV.fits_indented ?_) rfl .nil (.text (tells_of_append hremark ?_ (by decide)) .nil)
    · simp only [List.cons_append, List.nil_append, Script.fits, List.all_cons, List.all_nil, hown, hgap, hblank]
      rfl
    · have hne : '?' ∉ V.dialect.labelGap.toList := fun hmem => (hV.gap_chars hmem).2 rfl
      simp [hne, hV.mark]

/-- A step says its texts. -/
lemma says_stepLines (o : Options) (s : Step) : V.Says (V.stepTexts o s) (stepRemarks s) (V.dialect.stepLines o s) := by
  unfold Dialect.stepLines stepTexts stepRemarks
  cases s.kind with
  | navigate => exact hV.says_labelled (hV.navigate _) _
  | pressKey => exact hV.says_labelled (hV.pressKey _ _) _
  | waitForElement => exact hV.says_labelled (hV.wait (.visible _ _)) _
  | waitForHidden => exact hV.says_labelled (hV.wait (.hidden _ _)) _
  | waitForUrl => exact hV.says_labelled (hV.wait (.url _)) _
  | waitForNetworkIdle => exact hV.says_labelled (hV.wait .networkIdle) _
  | scroll => exact hV.says_labelled (hV.scroll _ _) _
  | assert =>
    cases hassertion : s.assertion with
    | none => exact hV.says_assert _
    | some a => exact hV.assertion a
  | fill | select | check | uncheck | click | submit | hover | clear =>
    exact hV.says_labelled (hV.interact _ _ _) _

/-- An action says its texts. -/
lemma says_actionLines (o : Options) (a : Action) :
    V.Says (V.actionTexts o a) (labelRemarks a.label) (V.dialect.actionLines o a) :=
  hV.says_labelled (hV.interact _ _ _) _

lemma says_opening (o : Options) : V.Says (openingTexts o) [] (V.dialect.opening o) := by
  unfold openingTexts Dialect.opening
  cases nonempty? o.pageUrl with
  | none => exact .nil
  | some url => exact (hV.says_indented (hV.navigate url)).append .blank

lemma says_assertionBlock (o : Options) : V.Says ((askedAssertions o).flatMap assertionTexts)
    ((askedAssertions o).flatMap assertionRemarks) (V.dialect.assertionBlock o) := by
  have hassertions : ∀ as : List Assertion, V.Says (as.flatMap assertionTexts) (as.flatMap assertionRemarks)
      (as.flatMap fun a => V.dialect.indented (V.dialect.assertion a)) := fun as =>
    .flatMap fun a _ => hV.assertion a
  unfold askedAssertions Dialect.assertionBlock
  cases o.includeAssertions with
  | false => exact .nil
  | true =>
    cases ho : o.assertions with
    | nil => exact .nil
    | cons a rest =>
      have hblank : V.Says [] [] [.blank, V.dialect.remark "Assertions"] :=
        Says.append .blank (hV.says_remark (by simp [Text.printable]; decide))
      exact hblank.append (hassertions (a :: rest))

/-! ### Scripts of a sound voice -/

lemma says_pauseBefore (o : Options) (previous : Option Step) (s : Step) : V.Says [] [] (V.dialect.pauseBefore o previous s) := by
  unfold Dialect.pauseBefore
  cases previous with
  | none => exact .nil
  | some p =>
    dsimp only
    split
    · exact hV.pause _
    · exact .nil

lemma says_submit : V.Says [] [] [V.dialect.remark "Submit"] := hV.says_remark (by simp [Text.printable]; decide)

/-- Steps after a step: those that are shown say their texts. -/
lemma says_stepsFrom (o : Options) (previous : Option Step) (filled : Bool) (steps : List Step) :
    V.Says ((shown o previous.isNone steps).flatMap (V.stepTexts o)) ((shown o previous.isNone steps).flatMap stepRemarks)
      (V.dialect.stepsFrom o previous filled steps) := by
  induction steps generalizing previous filled with
  | nil => exact .nil
  | cons s rest ih =>
    rw [Dialect.stepsFrom, shown]
    split
    · exact ih (some s) filled
    · have hdivider : V.Says [] [] (if (s.kind == .click || s.kind == .submit) && filled then
          [V.dialect.remark "Submit"] else []) := by
        split
        · exact hV.says_submit
        · exact .nil
      have hstep := ((hV.says_pauseBefore o previous s).append hdivider).append (hV.says_stepLines o s)
      exact hstep.append (ih (some s) _)

/-- The body of a test says its texts. -/
lemma says_body (o : Options) (m : Material) : V.Says (V.bodyTexts o m) (bodyRemarks o m) (match m with
    | .steps steps => V.dialect.stepsBody o steps
    | .actions actions => V.dialect.actionsBody o actions) := by
  have hopening := hV.says_opening o
  have hend := hV.says_assertionBlock o
  cases m with
  | steps steps => exact (hopening.append (hV.says_stepsFrom o none false steps)).append hend
  | actions actions =>
    have hactions : ∀ as : List Action, V.Says (as.flatMap (V.actionTexts o)) (as.flatMap fun a => labelRemarks a.label)
        (as.flatMap (V.dialect.actionLines o)) := fun as => .flatMap fun a _ => hV.says_actionLines o a
    have hdivider : V.Says [] [] (if !(actions.filter fun a => a.kind.submits).isEmpty &&
        !(actions.filter fun a => !a.kind.submits).isEmpty then [Line.blank, V.dialect.remark "Submit"] else []) := by
      split
      · exact Says.blank.append hV.says_submit
      · exact .nil
    have hfills := (hopening.append (hactions (actions.filter fun a => !a.kind.submits))).append hdivider
    have hbody := (hfills.append (hactions (actions.filter fun a => a.kind.submits))).append hend
    simpa [bodyTexts, bodyRemarks, submitsLast, Dialect.actionsBody, List.append_assoc] using hbody

/-- The click that submits says its texts, if there is one. -/
lemma says_click (o : Options) (found : Option Action) : V.Says ((found.map fun a =>
    V.gestureTexts .click (actionSelector o a) "").getD []) [] (match found with
      | some a => V.dialect.indented [V.dialect.interact .click (actionSelector o a) ""]
      | none => []) := by
  cases found with
  | none => exact .nil
  | some a => exact hV.says_indented (hV.interact _ _ _)

/-- The test of required fields says its texts, if there is one. -/
lemma says_negative {body : List Line} {actions : List Action}
    (hbody : (if o.includeNegativeTest then V.dialect.negativeBody o actions else none) = some body) :
    V.Says (V.negativeTexts o actions) [] body := by
  unfold Dialect.negativeBody at hbody
  unfold negativeTexts requiredOf
  split at hbody
  · rename_i hasked
    dsimp only at hbody
    split at hbody
    · cases hbody
    · rename_i hrequired
      obtain rfl := Option.some.inj hbody
      have hsubmit := hV.says_click o (actions.find? fun a => a.kind.submits)
      have herrors : V.Says ((o.assertions.filter fun a => a.kind == .fieldError).flatMap assertionTexts) []
          ((o.assertions.filter fun a => a.kind == .fieldError).flatMap fun a =>
            V.dialect.indented (V.dialect.assertion a)) := by
        have hnone : (o.assertions.filter fun a => a.kind == .fieldError).flatMap assertionRemarks = [] := by
          rw [List.flatMap_eq_nil_iff]
          intro a ha
          have hkind : a.kind = .fieldError := by simpa using (List.mem_filter.1 ha).2
          rw [assertionRemarks, hkind]
        have hspoken := Says.flatMap fun a (_ : a ∈ o.assertions.filter fun a => a.kind == .fieldError) => hV.assertion a
        rwa [hnone] at hspoken
      have hchecks : V.Says ((actions.filter fun a => a.required == some true).map (actionSelector o)) []
          (V.dialect.indented ((actions.filter fun a => a.required == some true).map fun a =>
            V.dialect.requiredCheck (actionSelector o a))) := by
        rw [Dialect.indented, List.map_map]
        exact .map fun a _ => hV.says_indented (hV.requiredCheck (actionSelector o a))
      have hbegin : V.Says [] [] [V.dialect.remark "Leave required fields empty and submit"] :=
        hV.says_remark (by simp [Text.printable]; decide)
      have hend : V.Says [] [] [V.dialect.remark "Required fields should show validation"] :=
        hV.says_remark (by simp [Text.printable]; decide)
      have hall := ((((((hV.says_opening o).append hbegin).append hsubmit).append .blank).append herrors).append
        hend).append hchecks
      simp only [hasked, hrequired, List.append_nil, Bool.not_true, Bool.false_or, if_false, Bool.false_eq_true] at hall ⊢
      exact hall
  · cases hbody

/-- **A script of a sound voice says its texts and tells its remarks.** -/
lemma says_script (o : Options) (m : Material) : ∃ ls, V.dialect.linesFor o m = V.opening ++ ls ∧
    V.Says (V.scriptTexts o m) (scriptRemarks o m) ls := by
  have hbody := hV.says_body o m
  have hfile : ∀ (body : List Line) (fromRecording : Bool), V.Says (V.bodyTexts o m) (bodyRemarks o m) body →
      ∃ ls, V.dialect.finish o body (actionsOf m) fromRecording = V.opening ++ ls ∧
        V.Says (V.scriptTexts o m) (scriptRemarks o m) ls := by
    intro body fromRecording hspoken
    have hnegative : match (if o.includeNegativeTest then V.dialect.negativeBody o (actionsOf m) else none) with
        | some body => V.Says (V.negativeTexts o (actionsOf m)) [] body
        | none => V.negativeTexts o (actionsOf m) = [] ∧ ([] : List String) = [] := by
      split
      · rename_i hnegative
        exact hV.says_negative hnegative
      · rename_i hnone
        refine ⟨?_, rfl⟩
        unfold Dialect.negativeBody at hnone
        unfold negativeTexts requiredOf
        cases hasked : o.includeNegativeTest <;> simp_all
    obtain ⟨ls, hls, hsaid⟩ := hV.file ⟨body, if o.includeNegativeTest then V.dialect.negativeBody o (actionsOf m)
      else none, actionsOf m, o, fromRecording⟩ _ _ _ _ hspoken hnegative
    rw [List.append_nil] at hsaid
    exact ⟨ls, hls, hsaid⟩
  cases m with
  | steps steps => exact hfile _ true hbody
  | actions actions => exact hfile _ false hbody

end Sound

end Voice

end PageTape.Script
