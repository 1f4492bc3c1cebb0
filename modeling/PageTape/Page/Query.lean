import PageTape.Page.Fault
import PageTape.Css.Match

/-!
Looking up elements by selectors as they are written.
-/

namespace PageTape

open Dom

/-- The selectors that a text stands for. -/
def readSelectors (text : String) : Except Fault (List Css.Selector) :=
  (Css.read text).mapError .selector

namespace Dom.Location

/-- The elements below an element that a selector selects. -/
def queryAll (l : Location) (selector : String) : Except Fault (List Location) :=
  (readSelectors selector).map fun ss => Css.selectAll ss l

/-- The first element below an element that a selector selects. -/
def query? (l : Location) (selector : String) : Except Fault (Option Location) :=
  (readSelectors selector).map fun ss => Css.selectFirst? ss l

/-- The first element below an element that a selector selects; there must be one. -/
def require (l : Location) (selector : String) : Except Fault Location := do
  match ← l.query? selector with
  | some found => return found
  | none => throw (.elementNotFound selector)

/-- A selector selects the element. -/
def isSelected (l : Location) (selector : String) : Except Fault Bool :=
  (readSelectors selector).map fun ss => Css.selects ss l

/-- The nearest element from an element outward that a selector selects. -/
def closest? (l : Location) (selector : String) : Except Fault (Option Location) :=
  (readSelectors selector).map fun ss => Css.closest? ss l

end Dom.Location

end PageTape
