import PageTape.Locator.Written
import PageTape.Recording.Basic

/-!
What a page lets one expect after a form is submitted, and after it is submitted with required
fields left empty.
-/

namespace PageTape.Form

open Dom Css Locator

/-- The elements with the role of an alert. -/
def writtenAlert : Written :=
  ("[role='alert']", [.compound [.attribute ⟨"role", some (.equals, "alert"), false⟩]])

/-- The elements that show success. -/
def successElements : List Written := [
  writtenClass "alert-success", writtenClass "toast-success", writtenClass "notification-success",
  writtenAlert, writtenClass "success-message", writtenClass "flash-success",
  writtenClass "Toastify__toast--success", writtenClass "ant-message-success",
  writtenClass "MuiAlert-standardSuccess"]

/-- The elements that show an error. -/
def errorElements : List Written := [
  writtenClass "field-error", writtenClass "error-message", writtenClass "invalid-feedback",
  writtenClass "form-error", writtenAlert, writtenClass "ant-form-item-explain-error",
  (".MuiFormHelperText-root.Mui-error",
    [.compound [.className "MuiFormHelperText-root", .className "Mui-error"]]),
  writtenClass "text-danger", writtenClass "text-red-500"]

/-- The address that the first form with one leads to. -/
def formTarget? (root : Location) : Option String :=
  let forms := selectAll [.compound [.name none "form", .attribute ⟨"action", none, false⟩]] root
  forms.findSome? fun f =>
    let target := (f.tag.attr? "action").getD ""
    if target.isEmpty || target == "#" || target.startsWith "javascript:" then none
    else some target

/-- What to expect after the forms below an element are submitted from the page of an address. -/
def expectations (root : Location) (actions : List Action) (pageUrl : String) : List Assertion :=
  let changed := if actions.any fun a => a.kind.submits then
      [{ kind := .urlChanged, expected := some pageUrl
         description := some "URL should change after form submit" }]
    else []
  let success := (firstPresent? successElements root).toList.map fun selector =>
    { kind := .elementVisible, selector := some selector
      description := some s!"Success element \"{selector}\" should be visible" }
  let redirect := (formTarget? root).toList.map fun target =>
    { kind := .redirect, expected := some target
      description := some s!"Form should redirect to {target}" }
  changed ++ success ++ redirect

/-- Some action fills a field that must be filled in. -/
def asksRequired (actions : List Action) : Bool := actions.any fun a => a.required == some true

/-- What to expect after a form below an element is submitted with its required fields empty. -/
def negativeExpectations (root : Location) (actions : List Action) : List Assertion :=
  if asksRequired actions then
    ((firstPresent? errorElements root).toList.map fun selector =>
      { kind := .fieldError, selector := some selector
        description := some "Validation error should be visible for empty required fields" })
    ++ [{ kind := .visibleText
          description := some "Required field validation should prevent submission" }]
  else []

end PageTape.Form
