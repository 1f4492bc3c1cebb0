import PageTape.Yaml.Style

/-!
Data as a YAML text, one entry or item a line.  What belongs to an entry is indented by two
columns, except that the dashes of a list stand at the column of its key.
-/

namespace PageTape.Yaml

namespace Writer

/-- The columns that an entry's content is indented by. -/
def step : Nat := 2

/-- A key, which is not broken into lines. -/
def key (s : String) : String :=
  String.ofList ((Style.ofText s).write 0 0 s)

/-- The text of a scalar, which begins at a column. -/
def scalar (indent column : Nat) : Datum → String
  | .text s => String.ofList ((Style.ofText s).write indent column s)
  | .bool b => if b then "true" else "false"
  | d => String.ofList (Style.plain.write indent column d.quoted)

/-- A line break and an indentation. -/
def newLine (indent : Nat) : String := String.ofList (Style.newLine indent)

mutual
/-- What follows the colon of an entry or the dash of an item, which stands before a column.  A
collection begins on a line of its own after a colon and on the same line after a dash. -/
def value (isItem : Bool) (indent column : Nat) : Datum → String
  | .null => ""
  | .list ds =>
    if ds.isEmpty then " []"
    else if isItem then " " ++ items (indent + step) ds
    else newLine indent ++ items indent ds
  | .map es =>
    if es.isEmpty then " \x7b\x7d"
    else if isItem then " " ++ entries (indent + step) es
    else newLine (indent + step) ++ entries (indent + step) es
  | d => " " ++ scalar (indent + step) (column + 1) d

/-- The entries of a map at an indentation; the first begins where the text has got to. -/
def entries (indent : Nat) : List (String × Datum) → String
  | [] => ""
  | (k, d) :: rest =>
    let k := key k
    k ++ ":" ++ value false indent (indent + k.length + 1) d
      ++ (if rest.isEmpty then "" else newLine indent ++ entries indent rest)

/-- The items of a list at an indentation; the first begins where the text has got to. -/
def items (indent : Nat) : List Datum → String
  | [] => ""
  | d :: rest =>
    "-" ++ value true indent (indent + 1) d
      ++ (if rest.isEmpty then "" else newLine indent ++ items indent rest)
end

end Writer

/-- Data as a YAML text. -/
def write : Datum → String
  | .map es => (if es.isEmpty then "\x7b\x7d" else Writer.entries 0 es) ++ "\n"
  | .list ds => (if ds.isEmpty then "[]" else Writer.items 0 ds) ++ "\n"
  | d => Writer.scalar 0 0 d ++ "\n"

end PageTape.Yaml
