import PageTape.Locator.Smart
import PageTape.Css.Match

/-!
The label of a field, found by rules from the most specific to the most general.
-/

namespace PageTape.Locator

open Dom Css

/-- A selector for elements of a name. -/
def named (name : String) : Selector := .compound [.name none name]

/-- A selector for elements of a class. -/
def classed (name : String) : Selector := .compound [.className name]

/-- The elements that hold a field together with its label. -/
def groupSelectors : List Selector := [
  classed "form-group", classed "form-item", classed "form-field", classed "field-wrapper",
  classed "input-wrapper",
  .compound [.attribute ⟨"class", some (.contains, "form-control"), false⟩],
  classed "ant-form-item", classed "MuiFormControl-root"]

/-- The elements that are labels within a group. -/
def groupLabelSelectors : List Selector := [
  named "label", classed "form-label", classed "control-label",
  .related (classed "ant-form-item-label") .child [.name none "label"],
  classed "MuiInputLabel-root", classed "MuiFormLabel-root"]

/-- The elements whose text may label what follows them. -/
def labelLikeNames : List String := ["span", "div", "p", "strong", "em"]

/-- A text of this length or more labels nothing. -/
def longText : Nat := 80

/-- The text of an element, if there is any. -/
def textOf? (l : Location) : Option String := some (Text.strip l.textContent)

/-- The label whose `for` attribute names the field. -/
def labelFor? (l : Location) : Option String :=
  if l.tag.ident.isEmpty then none
  else
    let wanted := l.tag.ident.map fun c => if c == Char.ofNat 0 then Html.replacement else c
    (selectFirst? [.compound [.name none "label",
      .attribute ⟨"for", some (.equals, wanted), false⟩]] l.root).bind textOf?

/-- The label around the field. -/
def labelAround? (l : Location) : Option String := (closest? [named "label"] l).bind textOf?

/-- The label right before the field. -/
def labelBefore? (l : Location) : Option String :=
  (l.elementsBefore.head?.filter (·.tag.lowerName == "label")).bind textOf?

/-- The legend of the field set around the field. -/
def legend? (l : Location) : Option String :=
  (closest? [named "fieldset"] l).bind fun set =>
    (selectFirst? [named "legend"] set).bind textOf?

/-- The label of the group around the field. -/
def groupLabel? (l : Location) : Option String :=
  (closest? groupSelectors l).bind fun group =>
    (selectFirst? groupLabelSelectors group).bind textOf?

/-- The nearest short text in an element before the field. -/
def textBefore? (l : Location) : Option String :=
  l.elementsBefore.findSome? fun e =>
    let text := Text.strip e.textContent
    if labelLikeNames.contains e.tag.lowerName && !text.isEmpty && text.length < longText then
      some text
    else none

/-- The rules with their names, in order. -/
def labelRules : List (String × (Location → Option String)) := [
  ("label[for]", labelFor?), ("parent-label", labelAround?),
  ("aria-label", fun l => l.tag.attr? "aria-label"),
  ("aria-labelledby", fun l => (given? l.tag "aria-labelledby").map (referencedText l)),
  ("prev-label", labelBefore?), ("title", fun l => l.tag.attr? "title"),
  ("fieldset-legend", legend?), ("form-group-label", groupLabel?),
  ("prev-sibling-text", textBefore?), ("placeholder", fun l => l.tag.attr? "placeholder")]

/-- The labels that the rules find, each with the name of its rule.  A rule that finds only blanks
finds nothing. -/
def labels (l : Location) : List (String × String) :=
  labelRules.filterMap fun (name, rule) =>
    ((rule l).map Text.strip).bind fun text => if text.isEmpty then none else some (name, text)

/-- The label of a field: what the first rule that finds one gives. -/
def label? (l : Location) : Option String := (labels l).head?.map (·.2)

end PageTape.Locator
