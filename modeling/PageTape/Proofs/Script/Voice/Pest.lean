import PageTape.Proofs.Script.Words
import PageTape.Script.Pest

/-!
# The voice of Pest

The first line of a file is the opening tag.  Keys are pressed on the body of the page where there is no selector.
-/

namespace PageTape.Script

lemma php_ints : php.HasInts := rfl

/-- The voice of Pest. -/
def pestVoice : Voice where
  dialect := pest
  language := php
  opening := [.ofCode "<?php"]
  own := ["required", "", negativeTestName]
  valued g := g == .fill || g == .select || g == .radio
  keys key selector := [orText (some selector) "body", pest.spelling.keyText key]
  scrolls x y := [s!"window.scrollTo({x}, {y})"]
  titles name := [name]
  objects _ _ := []

namespace Pest

open Voice (call_iff describeResponse_printable)

variable {name : List Char} {first second : String}

/-- The name of a call is program text. -/
lemma fits_name (hname : name.all php.isPlain = true) (rest : List Piece) :
    fits php true (.code s!"->{String.ofList name}(" :: rest) = fits php true (.code "(" :: rest) := by
  have hplain : (String.ofList name).toList.all php.isPlain = true := by rwa [String.toList_ofList]
  exact fits_between rfl hplain (by decide)

lemma isCall_call (hname : name.all php.isPlain = true) : isCall php (call (String.ofList name) first) = true :=
  call_iff.2 ⟨(fits_name hname _).trans rfl, isUpright_between rfl, List.cons_ne_nil _ _, rfl⟩

lemma isCall_call₂ (hname : name.all php.isPlain = true) : isCall php (call₂ (String.ofList name) first second) = true :=
  call_iff.2 ⟨(fits_name hname _).trans rfl, isUpright_between rfl, List.cons_ne_nil _ _, rfl⟩

lemma speaks_interact (g : Gesture) (selector value : String) :
    pestVoice.Speaks (pestVoice.gestureTexts g selector value) [interact g selector value] := by
  cases g with
  | fill | select | radio => exact .one (isCall_call₂ rfl) (.text rfl (.text rfl .nil))
  | check | uncheck | clear | hover | click | submit => exact .one (isCall_call rfl) (.text rfl .nil)

lemma call_waitFor (hname : name.all php.isPlain = true) (selector : String) (timeout : Int) :
    isCall php (waitFor (String.ofList name) selector timeout) = true := by
  have htimeout : fits php false [.code s!", {seconds timeout})"] = true :=
    fits_int php_ints rfl rfl
  exact call_iff.2 ⟨(fits_name hname _).trans (fits_quote rfl rfl htimeout), isUpright_between rfl, List.cons_ne_nil _ _,
    rfl⟩

lemma speaks_wait (w : Wait) : pestVoice.Speaks (waitTexts w) (wait w) := by
  cases w with
  | visible selector timeout => exact .one (call_waitFor rfl selector timeout) (.text rfl .nil)
  | hidden selector timeout => exact .one (call_waitFor rfl selector timeout) (.text rfl .nil)
  | url url => exact .one (isCall_call rfl) (.text rfl .nil)
  | networkIdle => exact .one (call_text rfl rfl) .nil

lemma speaks_navigate (url : String) : pestVoice.Speaks [url] [pest.navigate url] :=
  .one (isCall_call rfl) (.text rfl .nil)

lemma speaks_pressKey (key selector : String) :
    pestVoice.Speaks [orText (some selector) "body", pest.spelling.keyText key] [pest.pressKey key selector] :=
  .one rfl (.text rfl (.text rfl .nil))

lemma speaks_scroll (x y : Int) : pestVoice.Speaks [s!"window.scrollTo({x}, {y})"] [pest.scroll x y] :=
  .one (isCall_call rfl) (.text rfl .nil)

lemma speaks_requiredCheck (selector : String) : pestVoice.Speaks [selector] [pest.requiredCheck selector] :=
  .one (call_quote rfl (fits_quote rfl rfl (fits_quote rfl rfl (fits_end rfl))) rfl)
    (.text rfl (.own (by decide) (.own (by decide) .nil)))

lemma hasMargin : pestVoice.HasMargin := ⟨rfl, rfl⟩

lemma says_pause (delta : Int) : pestVoice.Says [] [] (pest.indented (pest.pause delta)) := by
  have hfits : fits php true [.code s!"->pause({delta}) ", .remark, .code s!" User paused for ~{seconds delta}s"] =
      true := by
    rw [fits_between rfl (isPlain_int php_ints) (by decide), fits, fits, flat_int php_ints rfl rfl]
    rfl
  have hremark : '?' ∉ (s!" User paused for ~{seconds delta}s").toList := by
    have hint : '?' ∉ (toString (seconds delta)).toList := fun hmem => absurd (Text.mem_intChars hmem) (by decide)
    simp only [String.toList_append, List.mem_append, hint, or_false]
    decide
  exact hasMargin.says_line hfits (isUpright_between rfl) .nil (.own (not_closes_code hremark) .nil)

lemma says_assertion (a : Assertion) :
    pestVoice.Says (assertionTexts a) (assertionRemarks a) (pest.indented (assertion a)) := by
  unfold assertionTexts assertionRemarks assertion
  cases a.kind with
  | urlChanged | urlContains | redirect => exact hasMargin.says_call (isCall_call rfl) (.text rfl .nil)
  | visibleText =>
    dsimp only
    cases nonempty? a.expected with
    | none => exact hasMargin.says_line (flat_text rfl rfl) rfl .nil (.own (not_closes_code (by decide)) .nil)
    | some text => exact hasMargin.says_call (isCall_call rfl) (.text rfl .nil)
  | elementVisible | fieldError | elementHidden | toastMessage =>
    exact hasMargin.says_call (isCall_call rfl) (.text rfl .nil)
  | fieldValue => exact hasMargin.says_call (isCall_call₂ rfl) (.text rfl (.text rfl .nil))
  | responseOk =>
    obtain ⟨hdescription, hstatus⟩ := describeResponse_printable a
    exact (hasMargin.says_told hdescription rfl (by decide)).cons
      (hasMargin.says_told_between hstatus rfl (by decide) rfl (by decide))

/-! ### Files -/

variable {texts texts' told told' : List String} {body : List Line}

/-- A test says its name, and what its chain says. -/
lemma says_test {name : String} {names : List String} (hname : Told (· ∈ pestVoice.own) Eq names [name])
    (h : pestVoice.Says texts told body) : pestVoice.Says (names ++ texts) told (test name body) := by
  have htitle : pestVoice.Says names [] [{ pieces := [.code "test(", .literal name, .code ", function () \x7b"] }] :=
    .call (call_quote rfl (fits_end rfl) rfl) hname
  have hbrowse : pestVoice.Says [] [] [.ofCode "    $this->browse(function (Browser $browser) \x7b",
      .ofCode "        $browser"] := (Voice.Says.nil.text rfl rfl).text rfl rfl
  have hend : pestVoice.Says [] [] [.ofCode "        ;", .ofCode "    \x7d);", .ofCode "\x7d);"] :=
    ((Voice.Says.nil.text rfl rfl).text rfl rfl).text rfl rfl
  have hall := (htitle.append hbrowse).append h |>.append hend
  simp only [List.append_nil, List.nil_append] at hall
  exact hall

lemma says_file (p : Parts) (h : pestVoice.Says texts told p.body)
    (h' : match p.negative with
      | some body => pestVoice.Says texts' told' body
      | none => texts' = [] ∧ told' = []) :
    ∃ ls, file p = .ofCode "<?php" :: ls ∧ pestVoice.Says ([p.options.testName] ++ texts ++ texts' ++ [])
      (labelRemarks p.options.testDescription ++ told ++ told') ls := by
  have huse : pestVoice.Says [] [] [.blank, .ofCode "use Laravel\\Dusk\\Browser;", .blank] :=
    ((Voice.Says.nil.skip).text rfl rfl).skip
  have hname : Told (· ∈ pestVoice.own) Eq [p.options.testName] [p.options.testName] := .text rfl .nil
  have hown : Told (· ∈ pestVoice.own) Eq [] [negativeTestName] := .own (by decide) .nil
  have hnegative := Voice.says_optional (fun body => .blank :: test negativeTestName body)
    (fun body hbody => (says_test hown hbody).skip) h'
  have hall := ((huse.append (Voice.says_description rfl p.options.testDescription)).append (says_test hname h)).append
    hnegative
  refine ⟨_, rfl, ?_⟩
  simp only [List.append_nil, List.nil_append] at hall ⊢
  exact hall

end Pest

lemma pestVoice_sound : pestVoice.Sound where
  suits := php_suits
  opening := rfl
  margin := Pest.hasMargin
  gap := rfl
  mark := by decide
  blank := by decide
  assert := rfl
  navigate := Pest.speaks_navigate
  interact := Pest.speaks_interact
  pressKey := Pest.speaks_pressKey
  wait := Pest.speaks_wait
  scroll := Pest.speaks_scroll
  pause := Pest.says_pause
  requiredCheck := Pest.speaks_requiredCheck
  assertion := Pest.says_assertion
  file p _ _ _ _ := Pest.says_file p

end PageTape.Script
