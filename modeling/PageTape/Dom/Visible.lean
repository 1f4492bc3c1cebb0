import PageTape.Dom.Control
import PageTape.Text.Word

/-!
Which elements can be seen: those that neither an attribute nor a style of their own or of an
element around them hides.
-/

namespace PageTape.Dom

open Text (foldChar isBlank isDigit)

/-- The text after a word in any case, if it begins with it. -/
def afterWord? (word : List Char) (cs : List Char) : Option (List Char) :=
  if (cs.take word.length).map foldChar == word then some (cs.drop word.length) else none

/-- The text after a property and a colon, blanks around the colon passed. -/
def afterProperty? (property : String) (cs : List Char) : Option (List Char) :=
  match (afterWord? property.toList cs).map (·.dropWhile isBlank) with
  | some (':' :: rest) => some (rest.dropWhile isBlank)
  | _ => none

/-- A style that begins with a declaration that hides: no display, hidden visibility, or an opacity
of exactly zero. -/
def hidesHere (cs : List Char) : Bool :=
  let gives := fun (property value : String) =>
    ((afterProperty? property cs).bind (afterWord? value.toList)).isSome
  let zeroOpacity := match afterProperty? "opacity" cs with
    | some ('0' :: rest) => !(rest.head?.any fun c => c == '.' || isDigit c)
    | _ => false
  gives "display" "none" || gives "visibility" "hidden" || zeroOpacity

/-- A style that hides its element. -/
def isHidingStyle : List Char → Bool
  | [] => false
  | c :: rest => hidesHere (c :: rest) || isHidingStyle rest

/-- The element hides itself and what is in it. -/
def Tag.hides (t : Tag) : Bool :=
  t.has "hidden" || (t.attr? "style").any fun s => isHidingStyle s.toList

/-- The element can be seen. -/
def Location.isVisible (l : Location) : Bool :=
  !(l.tag.lowerName == "input" && l.tag.inputType == "hidden")
    && !((l.tag :: l.context.tags).takeWhile (!·.isDocument)).any Tag.hides

end PageTape.Dom
