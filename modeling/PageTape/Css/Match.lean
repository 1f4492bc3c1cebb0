import PageTape.Css.Reader
import PageTape.Dom.Forest
import PageTape.Text.Case

/-!
Which elements a selector selects.  The document counts as the parent of the elements at the top of
a page, but is never selected itself.
-/

namespace PageTape.Css

open Dom

/-- An ASCII letter in lower case, in a text. -/
def lowerAscii (s : String) : String := s.map Char.toLower

/-- One list of characters stands within another. -/
def isWithin (part : List Char) : List Char → Bool
  | [] => part.isEmpty
  | c :: rest => part.isPrefixOf (c :: rest) || isWithin part rest

/-- The words between blanks, as a selector sees them. -/
def spacedWords (cs : List Char) : List (List Char) := Text.wordsList isSpace cs

namespace AttrOp

/-- A value compares with a text as asked.  A beginning, an end or a part must not be empty, and a
word is never empty and holds no blank. -/
def holds (op : AttrOp) (value wanted : List Char) : Bool :=
  match op with
  | equals => value == wanted
  | begins => !wanted.isEmpty && wanted.isPrefixOf value
  | ends => !wanted.isEmpty && wanted.isSuffixOf value
  | contains => !wanted.isEmpty && isWithin wanted value
  | word => !wanted.any isSpace && (spacedWords value).contains wanted
  | dash => value == wanted || (wanted ++ ['-']).isPrefixOf value

end AttrOp

/-- The value of an attribute, its name compared without regard to the case of ASCII letters. -/
def attrValue? (tag : Tag) (name : String) : Option AttrValue :=
  (tag.attrs.find? fun a => lowerAscii a.1 == lowerAscii name).map (·.2)

/-- The tag answers the question to an attribute. -/
def AttrTest.holds (t : AttrTest) (tag : Tag) : Bool :=
  match attrValue? tag t.name, t.compare with
  | none, _ => false
  | some _, none => true
  | some value, some (op, wanted) =>
    let fold := fun (s : String) => if t.ignoreCase then s.toList.map Text.foldChar else s.toList
    op.holds (fold value.toText) (fold wanted)

/-- The classes of an element. -/
def classes (tag : Tag) : List String :=
  match attrValue? tag "class" with
  | some (.words ws) => ws
  | some (.text s) => (spacedWords s.toList).map String.ofList
  | none => []

/-- A count from one is a position. -/
def Nth.admits (n : Nth) (count : Nat) : Bool :=
  let distance : Int := count - n.offset
  if n.step == 0 then distance == 0
  else distance % n.step == 0 && 0 ≤ distance / n.step

/-- The element stands at a position. -/
def Nth.holds (n : Nth) (l : Location) : Bool :=
  let side := if n.fromEnd then l.tagsAfter else l.tagsBefore
  let counted := if n.sameName then
      side.filter fun t => lowerAscii t.name == lowerAscii l.tag.name
    else side
  n.admits (counted.length + 1)

/-- A node that does not count as content of an empty element. -/
def isIgnorable : Node → Bool
  | .element _ _ => false
  | .text _ value => value.toList.all isSpace
  | .comment _ => true
  | .special _ _ => true

/-- A node that may stand beside the outermost element. -/
def isBesideRoot : Node → Bool
  | .element _ _ => false
  | .text _ value => value.toList.all Text.isBlank
  | .comment _ => true
  | .special kind _ => kind != .cdata

/-- The element is the outermost one of its tree, with no other content beside it. -/
def isRoot (l : Location) : Bool :=
  match l.context with
  | .top => !l.tag.isDocument
  | .inside parent before after _ =>
    parent.isDocument && before.all isBesideRoot && after.all isBesideRoot

/-- The places where the left part of a selector may be found, nearest first. -/
def Combinator.places : Combinator → Location → List Location
  | descendant, l => l.ancestors
  | child, l => l.parent?.toList
  | adjacent, l => l.elementsBefore.take 1
  | sibling, l => l.elementsBefore

mutual
/-- The element answers a question. -/
def Test.holds : Test → Location → Bool
  | .name space name, l =>
    (space == none || space == some "*")
      && (name == "*" || lowerAscii name == lowerAscii l.tag.name)
  | .ident value, l => ((attrValue? l.tag "id").map (·.toText)).getD "" == value
  | .className value, l => (classes l.tag).contains value
  | .attribute test, l => test.holds l.tag
  | .nth position, l => position.holds l
  | .empty, l => l.children.all isIgnorable
  | .root, l => isRoot l
  | .never, _ => false
  | .anyOf selectors, l => anyMatches selectors l
  | .noneOf selectors, l => !anyMatches selectors l

/-- The element answers all questions. -/
def allHold : List Test → Location → Bool
  | [], _ => true
  | t :: rest, l => t.holds l && allHold rest l

/-- A selector selects the element. -/
def Selector.matches : Selector → Location → Bool
  | .compound tests, l => allHold tests l
  | .related left combinator tests, l =>
    allHold tests l && (combinator.places l).any fun place => left.matches place

/-- One of the selectors selects the element. -/
def anyMatches : List Selector → Location → Bool
  | [], _ => false
  | s :: rest, l => s.matches l || anyMatches rest l
end

/-- The element is selected by one of the selectors. -/
def selects (selectors : List Selector) (l : Location) : Bool :=
  !l.tag.isDocument && anyMatches selectors l

/-- The selected elements below an element, in document order. -/
def selectAll (selectors : List Selector) (below : Location) : List Location :=
  below.descendants.filter (selects selectors)

/-- The first selected element below an element. -/
def selectFirst? (selectors : List Selector) (below : Location) : Option Location :=
  below.descendants.find? (selects selectors)

/-- The nearest selected element from an element outward. -/
def closest? (selectors : List Selector) (l : Location) : Option Location :=
  l.outward.find? (selects selectors)

end PageTape.Css
