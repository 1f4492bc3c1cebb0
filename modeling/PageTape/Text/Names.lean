import PageTape.Text.Blank
import PageTape.Text.Case

/-!
Names made from prose: a property name in camel case and a function name in snake case.
-/

namespace PageTape.Text

/-- An ASCII letter or digit. -/
def isNameChar (c : Char) : Bool := c.isAlphanum

/-- What a trailing run of separators leaves behind: the upper case of its last character that is
no line break, if another separator stands before that one. -/
def trailingUpper : List Char → List Char
  | [] => []
  | _ :: rest => match rest.reverse.dropWhile (· == '\n') with
    | [] => []
    | c :: _ => upperChar c

/-- The words of a text, each after the first separator with its first letter raised; `inside`
holds the separators read since the last word, nearest first. -/
def joinWords (inside : List Char) : List Char → List Char
  | [] => trailingUpper inside.reverse
  | c :: rest =>
    if isNameChar c then (if inside.isEmpty then c else c.toUpper) :: joinWords [] rest
    else joinWords (c :: inside) rest

/-- A property name: the words of the text joined, each but the first with a capital, and nothing
kept but ASCII letters and digits. -/
def camelCase (s : String) : String :=
  let joined := match joinWords [] s.toList with
    | c :: rest => c.toLower :: rest
    | [] => []
  String.ofList (joined.filter isNameChar)

/-- An ASCII letter, digit or low line. -/
def isSnakeChar (c : Char) : Bool := c.isAlphanum || c == '_'

/-- Every run of other characters becomes one low line. -/
def snakeRuns (inRun : Bool) : List Char → List Char
  | [] => []
  | c :: rest =>
    if isSnakeChar c then c :: snakeRuns false rest
    else if inRun then snakeRuns true rest else '_' :: snakeRuns true rest

/-- A snake-case name in lower case, without low lines at its ends. -/
def snakeCase (s : String) : String :=
  String.ofList (trimList (· == '_') (snakeRuns false (lower (strip s)).toList))

end PageTape.Text
