import PageTape.Locator.Label

/-!
Selectors that a program brings along: as they are written, and what they select.
-/

namespace PageTape.Locator

open Dom Css

/-- A selector as it is written, with what it selects. -/
abbrev Written := String × List Selector

/-- A class as a selector writes it. -/
def writtenClass (name : String) : Written := ("." ++ name, [classed name])

/-- The first of the selectors that selects something below an element, as it is written. -/
def firstPresent? (candidates : List Written) (root : Location) : Option String :=
  (candidates.find? fun c => (selectFirst? c.2 root).isSome).map (·.1)

end PageTape.Locator
