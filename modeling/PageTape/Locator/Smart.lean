import PageTape.Locator.Quick
import PageTape.Recording.Basic
import PageTape.Text.Word

/-!
Alternative selectors of an element, those first that outlive changes of the page best.
-/

namespace PageTape.Locator

open Dom

/-- The attributes that hold a test id. -/
def allTestIdNames : List String := testIdNames ++ ["data-cy", "data-test"]

/-- An attribute as a description shows it. -/
def shown (name value : String) : String := s!"{name}=\"{value}\""

/-- A selector by a test id. -/
def byTestId? (l : Location) : Option SmartSelector :=
  allTestIdNames.findSome? fun n => (given? l.tag n).map fun value =>
    { strategy := .testId, value := attrOf n value, description := some (shown n value) }

/-- The text of the element that an `aria-labelledby` attribute names, in the same tree. -/
def referencedText (l : Location) (reference : String) : String :=
  ((l.root.node.findIdent? reference).map Node.strippedText).getD ""

/-- A selector by an accessible label: the element's own, else that of another element. -/
def byAriaLabel? (l : Location) : Option SmartSelector :=
  match given? l.tag "aria-label" with
  | some label => some {
      strategy := .ariaLabel, value := attrOf "aria-label" label
      description := some (shown "aria-label" label) }
  | none => do
    let reference ← given? l.tag "aria-labelledby"
    let text := referencedText l reference
    if text.isEmpty then none
    else some {
      strategy := .ariaLabel, value := attrOf "aria-labelledby" reference
      description := some s!"aria-labelledby → \"{text}\"" }

/-- A selector by the role, with the accessible label or the name if there is one. -/
def byRole? (l : Location) : Option SmartSelector := do
  let role ← given? l.tag "role"
  match (given? l.tag "aria-label").orElse fun _ => given? l.tag "name" with
  | some name => some {
      strategy := .role, value := attrOf "role" role ++ attrOf "aria-label" name
      description := some (shown "role" role ++ " " ++ shown "name" name) }
  | none => some {
      strategy := .role, value := attrOf "role" role
      description := some (shown "role" role) }

/-- A selector by the name. -/
def byName? (l : Location) : Option SmartSelector := do
  let name ← given? l.tag "name"
  return {
    strategy := .name, value := l.tag.lowerName ++ attrOf "name" name
    description := some (shown "name" name) }

/-- The beginnings of ids that frameworks number. -/
def numberedHeads : List String := ["react", "ember", "ng-", "js-"]

/-- An id that a framework has made up, such as `:r0:` or `ember12`: it changes from page to
page. -/
def isGenerated (ident : String) : Bool :=
  let cs := ident.toList
  let after? := fun (head : List Char) =>
    if (cs.take head.length).map Text.foldChar == head then some (cs.drop head.length) else none
  (after? [':', 'r']).any (fun rest => rest.head?.any Text.isDigit)
    || numberedHeads.any fun head => (after? head.toList).any fun rest =>
      (rest.takeWhile fun c => Text.isWord c || c == '-').any Text.isDigit

/-- A selector by an id that somebody gave. -/
def byIdent? (l : Location) : Option SmartSelector :=
  let value := l.tag.ident
  if value.isEmpty || isGenerated value then none
  else some { strategy := .id, value := ident value, description := some (shown "id" value) }

/-- A selector by the placeholder. -/
def byPlaceholder? (l : Location) : Option SmartSelector := do
  let text ← given? l.tag "placeholder"
  return {
    strategy := .placeholder, value := l.tag.lowerName ++ attrOf "placeholder" text
    description := some (shown "placeholder" text) }

/-- The selector that every element has: by any id, else by its place. -/
def byPlace (l : Location) : SmartSelector :=
  if l.tag.ident.isEmpty then
    { strategy := .css, value := structural l, description := some "CSS fallback" }
  else { strategy := .css, value := ident l.tag.ident }

/-- The selectors without those whose value stands before them. -/
def distinct : List String → List SmartSelector → List SmartSelector
  | _, [] => []
  | seen, s :: rest =>
    if seen.contains s.value then distinct seen rest else s :: distinct (s.value :: seen) rest

/-- The alternative selectors of an element, best first; there is always one. -/
def smart (l : Location) : List SmartSelector :=
  distinct [] ([byTestId?, byAriaLabel?, byRole?, byName?, byIdent?, byPlaceholder?].filterMap
    (· l) ++ [byPlace l])

end PageTape.Locator
