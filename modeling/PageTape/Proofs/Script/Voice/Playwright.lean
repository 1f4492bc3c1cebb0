import PageTape.Proofs.Script.Words
import PageTape.Script.Playwright

/-!
# The voice of Playwright
-/

namespace PageTape.Script

lemma javaScript_ints : javaScript.HasInts := rfl

lemma javaScript_names : javaScript.HasNames := by
  unfold Language.HasNames
  decide

/-- The voice of Playwright.  Objects for the actions quote the selectors of the fields and that of the first element
that submits. -/
def playwrightVoice : Voice where
  dialect := playwright
  language := javaScript
  own := ["@playwright/test", "visible", "hidden", "networkidle", "required", "", negativeTestName]
  valued g := g == .fill || g == .select
  keys key _ := [key]
  scrolls _ _ := []
  titles name := [name]
  objects o actions := if o.includePageObject then
      (actions.filter fun a => !a.kind.submits).map (actionSelector o)
        ++ ((actions.find? fun a => a.kind.submits).map (actionSelector o)).toList
    else []

namespace Playwright

open Voice (call_iff describeResponse_printable)

variable {selector : String} {call : List Piece}

/-- A statement on a locator is program text again behind the selector. -/
lemma call_onLocator (hcall : ∀ o, fits javaScript o call = true) (hbare : call.all Piece.isBare = true) :
    isCall javaScript (onLocator selector call) = true := call_quote rfl (fits_text rfl hcall) hbare

lemma call_expectLocator (hcall : ∀ o, fits javaScript o call = true) (hbare : call.all Piece.isBare = true) :
    isCall javaScript (expectLocator selector call) = true := call_quote rfl (fits_text rfl hcall) hbare

lemma speaks_interact (g : Gesture) (selector value : String) :
    playwrightVoice.Speaks (playwrightVoice.gestureTexts g selector value) [interact g selector value] := by
  cases g with
  | fill | select =>
    exact .one (call_onLocator (fun _ => fits_quote rfl rfl (fits_end rfl)) rfl) (.text rfl (.text rfl .nil))
  | check | uncheck | radio | clear | hover | click | submit =>
    exact .one (call_onLocator (fun _ => fits_end rfl) rfl) (.text rfl .nil)

lemma call_waitFor (selector state : String) (timeout : Int) :
    isCall javaScript (onLocator selector (waitFor state timeout)) = true := by
  have htimeout : fits javaScript false [.code s!", timeout: {timeout} \x7d);"] = true :=
    fits_int javaScript_ints rfl rfl
  exact call_onLocator (fun _ => fits_quote rfl rfl htimeout) rfl

lemma speaks_wait (w : Wait) : playwrightVoice.Speaks (waitTexts w) (wait w) := by
  cases w with
  | visible selector timeout => exact .one (call_waitFor selector "visible" timeout) (.text rfl (.own (by decide) .nil))
  | hidden selector timeout => exact .one (call_waitFor selector "hidden" timeout) (.text rfl (.own (by decide) .nil))
  | url url => exact .one (call_quote rfl (fits_end rfl) rfl) (.text rfl .nil)
  | networkIdle => exact .one (call_quote rfl (fits_end rfl) rfl) (.own (by decide) .nil)

lemma speaks_navigate (url : String) : playwrightVoice.Speaks [url] [playwright.navigate url] :=
  .one (call_quote rfl (fits_end rfl) rfl) (.text rfl .nil)

lemma speaks_pressKey (key selector : String) : playwrightVoice.Speaks [key] [playwright.pressKey key selector] :=
  .one (call_quote rfl (fits_end rfl) rfl) (.text rfl .nil)

lemma speaks_scroll (x y : Int) : playwrightVoice.Speaks [] [playwright.scroll x y] :=
  .one (call_ints javaScript_ints rfl rfl rfl rfl x y) .nil

lemma speaks_requiredCheck (selector : String) :
    playwrightVoice.Speaks [selector] [playwright.requiredCheck selector] := by
  exact .one (call_expectLocator (fun _ => fits_quote rfl rfl (fits_quote rfl rfl (fits_end rfl))) rfl)
    (.text rfl (.own (by decide) (.own (by decide) .nil)))

lemma hasMargin : playwrightVoice.HasMargin := ⟨rfl, rfl⟩

lemma says_pause (delta : Int) : playwrightVoice.Says [] [] (playwright.indented (playwright.pause delta)) :=
  hasMargin.says_paused rfl javaScript_ints rfl rfl rfl rfl rfl delta

/-- Of a response the remarks tell the description and the status. -/
lemma says_response (a : Assertion) :
    playwrightVoice.Says [] [(describeResponse a).1, (describeResponse a).2.2] (playwright.indented [
      [.remark, .code " HTTP response assertion: ", .prose (describeResponse a).1],
      [.remark, .code " To assert strictly, wrap the submit action:"],
      [.remark, .code "   const response = await page.waitForResponse((r) => r.url().includes(",
        .literal (lastSegment (describeResponse a).2.1), .code "));"],
      [.remark, .code "   expect(response.status()).toBe(", .prose (describeResponse a).2.2, .code ");"]]) := by
  obtain ⟨hdescription, hstatus⟩ := describeResponse_printable a
  exact (hasMargin.says_told hdescription rfl (by decide)).cons ((hasMargin.says_own rfl (flat_text rfl rfl)).cons
    ((hasMargin.says_own rfl (flat_text rfl rfl)).cons (hasMargin.says_told_between hstatus rfl (by decide) rfl (by decide))))

lemma says_assertion (a : Assertion) :
    playwrightVoice.Says (assertionTexts a) (assertionRemarks a) (playwright.indented (assertion a)) := by
  unfold assertionTexts assertionRemarks assertion
  cases a.kind with
  | urlChanged | urlContains | redirect =>
    exact hasMargin.says_call (call_quote rfl (fits_end rfl) rfl) (.text rfl .nil)
  | visibleText =>
    dsimp only
    cases nonempty? a.expected with
    | none => exact hasMargin.says_own rfl (flat_text rfl rfl)
    | some text => exact hasMargin.says_call (call_quote rfl (fits_end rfl) rfl) (.text rfl .nil)
  | elementVisible | fieldError | elementHidden | toastMessage =>
    exact hasMargin.says_call (call_expectLocator (fun _ => fits_end rfl) rfl) (.text rfl .nil)
  | fieldValue =>
    exact hasMargin.says_call (call_expectLocator (fun _ => fits_quote rfl rfl (fits_end rfl)) rfl) (.text rfl (.text rfl .nil))
  | responseOk => exact says_response a

/-! ### Objects for the actions -/

variable {texts texts' told told' : List String} {body : List Line}

lemma property_plain (a : Action) : (property a).toList.all javaScript.isPlain = true :=
  isPlain_name javaScript_names (orText_all (camelCase_all _) (by decide))

lemma says_getter {name : String} (hname : name.toList.all javaScript.isPlain = true) (selector : String) :
    playwrightVoice.Says [selector] [] [getter name selector] := by
  have hfits : fits javaScript true (getter name selector).pieces = true := by
    have hbetween : fits javaScript true (getter name selector).pieces =
        fits javaScript true [.code "() \x7b return this.page.locator(", .literal selector, .code "); \x7d"] :=
      fits_between rfl hname (by decide)
    exact hbetween.trans rfl
  exact .outer hfits (isUpright_between rfl) (.text rfl .nil) .nil

/-- The parameters of the method that fills the form. -/
def params (fills : List Action) : String := ", ".intercalate (fills.map fun a => property a ++ "Value: string")

lemma params_plain (fills : List Action) : (params fills).toList.all javaScript.isPlain = true := by
  refine all_intercalate rfl fun t ht => ?_
  obtain ⟨a, -, rfl⟩ := List.mem_map.1 ht
  rw [String.toList_append, List.all_append, property_plain a]
  rfl

lemma says_fills (fills : List Action) : playwrightVoice.Says [] []
    (fills.map fun a => .ofCode s!"    await this.{property a}.fill({property a}Value);") := by
  induction fills with
  | nil => exact .nil
  | cons a rest ih =>
    refine ih.code (isPlain_between (isPlain_between rfl (property_plain a) rfl) (property_plain a) rfl) ?_
    simp only [String.toList_append, List.any_append]
    rfl

lemma says_form (fills : List Action) {ls : List Line} (h : playwrightVoice.Says texts told ls) :
    playwrightVoice.Says texts told ([.blank, .ofCode s!"  async fillForm({params fills}) \x7b"] ++
      fills.map (fun a => .ofCode s!"    await this.{property a}.fill({property a}Value);") ++ [.ofCode "  \x7d"] ++ ls) := by
  have hend : playwrightVoice.Says texts told ([.ofCode "  \x7d"] ++ ls) := h.text rfl rfl
  have hfills := (says_fills fills).append hend
  rw [List.append_assoc, List.append_assoc]
  refine ((Voice.Says.code hfills (isPlain_between rfl (params_plain fills) rfl) ?_).skip)
  simp only [String.toList_append, List.any_append]
  rfl

lemma says_import : playwrightVoice.Says [] [] [{ pieces := [.code "import type \x7b Page \x7d from ",
    .literal "@playwright/test", .code ";"] }, .blank, .ofCode "export class FormPage \x7b",
    .ofCode "  constructor(private readonly page: Page) \x7b\x7d", .blank] := by
  have himport : playwrightVoice.Says [] [] [{ pieces := [.code "import type \x7b Page \x7d from ",
      .literal "@playwright/test", .code ";"] }] :=
    .call (call_quote rfl (fits_end rfl) rfl) (.own (by decide) .nil)
  exact ((((Voice.Says.nil.skip).text rfl rfl).text rfl rfl).skip).behind himport

lemma says_submit : playwrightVoice.Says [] [] [.blank, .ofCode "  async submit() \x7b",
    .ofCode "    await this.submitButton.click();", .ofCode "  \x7d", .ofCode "\x7d"] :=
  ((((Voice.Says.nil.text rfl rfl).text rfl rfl).text rfl rfl).text rfl rfl).skip

lemma says_pageObject (o : Options) (actions : List Action) : playwrightVoice.Says
    ((actions.filter fun a => !a.kind.submits).map (actionSelector o)
      ++ ((actions.find? fun a => a.kind.submits).map (actionSelector o)).toList) [] (pageObject o actions) := by
  have hfields : playwrightVoice.Says ((actions.filter fun a => !a.kind.submits).map (actionSelector o)) []
      ((actions.filter fun a => !a.kind.submits).map fun a => getter (property a) (actionSelector o a)) :=
    .map fun a _ => says_getter (property_plain a) _
  unfold pageObject
  cases actions.find? fun a => a.kind.submits with
  | none =>
    have hclose : playwrightVoice.Says [] [] [.ofCode "\x7d"] := Voice.Says.nil.text rfl rfl
    have hform := says_form ((actions.filter fun a => !a.kind.submits).filter fun a => a.kind == .fill) hclose
    have hall := (says_import.append hfields).append hform
    simp only [List.append_assoc, List.append_nil, List.nil_append, Option.map_none, Option.toList_none] at hall ⊢
    exact hall
  | some a =>
    have hform := says_form ((actions.filter fun a => !a.kind.submits).filter fun a => a.kind == .fill) says_submit
    have hbutton : playwrightVoice.Says [actionSelector o a] [] [getter "submitButton" (actionSelector o a)] :=
      says_getter rfl _
    have hall := ((says_import.append hfields).append hbutton).append hform
    simp only [List.append_assoc, List.append_nil, List.nil_append] at hall ⊢
    exact hall

/-! ### Files -/

/-- A test says its name, and what its body says. -/
lemma says_test {name : String} {names : List String} (hname : Told (· ∈ playwrightVoice.own) Eq names [name])
    (h : playwrightVoice.Says texts told body) : playwrightVoice.Says (names ++ texts) told (test name body) := by
  have htitle : playwrightVoice.Says names []
      [{ pieces := [.code "test(", .literal name, .code ", async (\x7b page \x7d) => \x7b"] }] :=
    .call (call_quote rfl (fits_end rfl) rfl) hname
  have hend : playwrightVoice.Says [] [] [.ofCode "\x7d);"] := Voice.Says.nil.text rfl rfl
  have hall := (htitle.append h).append hend
  simp only [List.append_nil, List.nil_append] at hall
  exact hall

lemma says_objects (p : Parts) : playwrightVoice.Says (playwrightVoice.objects p.options p.actions) []
    (if p.options.includePageObject then
      [.blank, { pieces := [.remark, .code " --- Page Object Model ---"] }] ++ pageObject p.options p.actions
    else []) := by
  have hremark : playwrightVoice.Says [] [] [{ pieces := [.remark, .code " --- Page Object Model ---"] }] :=
    .outer (flat_text rfl rfl) rfl .nil (.own (not_closes rfl) .nil)
  unfold playwrightVoice
  dsimp only
  split
  · exact ((says_pageObject p.options p.actions).behind hremark).skip
  · exact .nil

lemma says_file (p : Parts) (h : playwrightVoice.Says texts told p.body)
    (h' : match p.negative with
      | some body => playwrightVoice.Says texts' told' body
      | none => texts' = [] ∧ told' = []) :
    playwrightVoice.Says ([p.options.testName] ++ texts ++ texts' ++ playwrightVoice.objects p.options p.actions)
      (labelRemarks p.options.testDescription ++ told ++ told') (file p) := by
  have himport : playwrightVoice.Says [] [] [{ pieces := [.code "import \x7b test, expect \x7d from ",
      .literal "@playwright/test", .code ";"] }, .blank] :=
    (Voice.Says.nil.skip).behind (.call (call_quote rfl (fits_end rfl) rfl) (.own (by decide) .nil))
  have hname : Told (· ∈ playwrightVoice.own) Eq [p.options.testName] [p.options.testName] := .text rfl .nil
  have hown : Told (· ∈ playwrightVoice.own) Eq [] [negativeTestName] := .own (by decide) .nil
  have hnegative := Voice.says_optional (fun body => .blank :: test negativeTestName body)
    (fun body hbody => (says_test hown hbody).skip) h'
  have hall := (((himport.append (Voice.says_description rfl p.options.testDescription)).append
    (says_test hname h)).append hnegative).append (says_objects p)
  simp only [List.append_nil, List.nil_append] at hall ⊢
  exact hall

end Playwright

lemma playwrightVoice_sound : playwrightVoice.Sound where
  suits := javaScript_suits
  opening := rfl
  margin := Playwright.hasMargin
  gap := rfl
  mark := by decide
  blank := by decide
  assert := rfl
  navigate := Playwright.speaks_navigate
  interact := Playwright.speaks_interact
  pressKey := Playwright.speaks_pressKey
  wait := Playwright.speaks_wait
  scroll := Playwright.speaks_scroll
  pause := Playwright.says_pause
  requiredCheck := Playwright.speaks_requiredCheck
  assertion := Playwright.says_assertion
  file p _ _ _ _ h h' := ⟨_, rfl, Playwright.says_file p h h'⟩

end PageTape.Script
