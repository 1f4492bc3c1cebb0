/-!
Selectors: what they ask of an element and of the elements around it.
-/

namespace PageTape.Css

/-- How an attribute value is compared with a text. -/
inductive AttrOp where
  | equals | begins | ends | contains | word | dash
  deriving DecidableEq, Repr, Inhabited

/-- A question to an attribute: that it is there, or how its value compares with a text. -/
structure AttrTest where
  name : String
  compare : Option (AttrOp × String)
  ignoreCase : Bool
  deriving DecidableEq, Repr, Inhabited

/-- A position among siblings: `step * k + offset` for some `k ≥ 0`, counted from one; only
siblings of the same name count if `sameName`. -/
structure Nth where
  step : Int
  offset : Int
  fromEnd : Bool
  sameName : Bool
  deriving DecidableEq, Repr, Inhabited

/-- How an element stands to the one on the left of it in a selector. -/
inductive Combinator where
  | descendant | child | adjacent | sibling
  deriving DecidableEq, Repr, Inhabited

mutual
/-- A question to one element.  A name may be `*` and may have a name space. -/
inductive Test where
  | name (space : Option String) (name : String)
  | ident (value : String)
  | className (value : String)
  | attribute (test : AttrTest)
  | nth (position : Nth)
  | empty
  | root
  | never
  | anyOf (selectors : List Selector)
  | noneOf (selectors : List Selector)

/-- The questions to an element, and what must stand to the left of it. -/
inductive Selector where
  | compound (tests : List Test)
  | related (left : Selector) (combinator : Combinator) (tests : List Test)
end

instance : Inhabited Test := ⟨.never⟩
instance : Inhabited Selector := ⟨.compound []⟩

end PageTape.Css
