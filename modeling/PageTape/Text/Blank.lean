/-!
Blank characters and the text between them.
-/

namespace PageTape.Text

/-- A blank: the white space of Unicode, with the four information separators. -/
def isBlank (c : Char) : Bool :=
  let n := c.toNat
  (9 ≤ n && n ≤ 13) || (28 ≤ n && n ≤ 32) || n == 0x85 || n == 0xA0 || n == 0x1680
    || (0x2000 ≤ n && n ≤ 0x200A) || n == 0x2028 || n == 0x2029 || n == 0x202F || n == 0x205F
    || n == 0x3000

/-- The characters between the first and the last that are not dropped. -/
def trimList (drop : Char → Bool) (cs : List Char) : List Char :=
  ((cs.dropWhile drop).reverse.dropWhile drop).reverse

/-- The text without blanks at both ends. -/
def strip (s : String) : String := String.ofList (trimList isBlank s.toList)

/-- The words of a list of characters: the longest runs without a separator. -/
def wordsList (separator : Char → Bool) (cs : List Char) : List (List Char) :=
  let step := fun (c : Char) (acc : List Char × List (List Char)) =>
    if separator c then ([], if acc.1.isEmpty then acc.2 else acc.1 :: acc.2)
    else (c :: acc.1, acc.2)
  let (word, rest) := cs.foldr step ([], [])
  if word.isEmpty then rest else word :: rest

/-- The words of a text between blanks. -/
def words (s : String) : List String := (wordsList isBlank s.toList).map String.ofList

end PageTape.Text
