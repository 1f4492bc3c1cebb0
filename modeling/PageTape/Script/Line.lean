import PageTape.Script.Literal
import PageTape.Text.Case

/-!
The lines of a script before they are text.  A line is a margin and pieces: program text, string
literals and remarks.  Only literals and remarks hold text that a page or a person has given.
-/

namespace PageTape.Script

/-- A piece of a line. -/
inductive Piece where
  /-- Program text, written as it is. -/
  | code (text : String)
  /-- A string literal of a text. -/
  | literal (text : String)
  /-- A string literal of a key name in lower case, between braces. -/
  | key (name : String)
  /-- The mark after which the line is a remark. -/
  | remark
  /-- Text inside a remark; what does not print becomes a space. -/
  | prose (text : String)
  deriving DecidableEq, Repr, Inhabited

/-- A line of a script. -/
structure Line where
  margin : String := ""
  pieces : List Piece := []
  deriving DecidableEq, Repr, Inhabited

/-- How pieces are spelled: the escape of literals and the mark of remarks. -/
structure Spelling where
  escape : Char → List Char
  mark : String

namespace Spelling

/-- A string literal. -/
def literal (sp : Spelling) (s : String) : String :=
  String.ofList (quote :: s.toList.flatMap sp.escape ++ [quote])

/-- The text of a piece. -/
def piece (sp : Spelling) : Piece → String
  | .code t => t
  | .literal s => sp.literal s
  | .key k =>
    String.ofList
      (quote :: '\x7b' :: (Text.lower (escaped sp.escape k)).toList ++ ['\x7d', quote])
  | .remark => sp.mark
  | .prose t => Text.printable t

/-- The text of a line. -/
def line (sp : Spelling) (l : Line) : String :=
  l.margin ++ String.join (l.pieces.map sp.piece)

/-- The text of a script; every line ends in a line break. -/
def render (sp : Spelling) (ls : List Line) : String :=
  String.join (ls.map fun l => sp.line l ++ "\n")

end Spelling

/-- A line that does something: not blank and not a remark alone. -/
def Line.isStatement (l : Line) : Bool :=
  match l.pieces with
  | [] => false
  | .remark :: _ => false
  | _ => true

/-- A line of program text. -/
def Line.ofCode (t : String) : Line := { pieces := [.code t] }

/-- An empty line. -/
def Line.blank : Line := {}

end PageTape.Script
