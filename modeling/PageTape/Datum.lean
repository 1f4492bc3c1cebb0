import PageTape.Number.Binary64

/-!
Data without a schema, as a recording file, an options object or an event script holds it: the
values that a structured text format can write down.
-/

namespace PageTape

/-- A value read from a structured text.  A map keeps its keys in the order of their first
occurrence; a date is kept as its text. -/
inductive Datum where
  | null
  | bool (value : Bool)
  | int (value : Int)
  | float (value : Binary64)
  | text (value : String)
  | date (value : String)
  | list (items : List Datum)
  | map (entries : List (String × Datum))
  deriving Repr, Inhabited

namespace Datum

/-- The entries with `key` set to `value`: in place where the key is known, else last. -/
def setEntry (key : String) (value : Datum) : List (String × Datum) → List (String × Datum)
  | [] => [(key, value)]
  | (k, v) :: rest => if k = key then (k, value) :: rest else (k, v) :: setEntry key value rest

/-- A map from entries in reading order; of a repeated key the last value counts. -/
def ofEntries (entries : List (String × Datum)) : Datum :=
  .map (entries.foldl (fun acc e => setEntry e.1 e.2 acc) [])

/-- The entry of a map. -/
def get? (d : Datum) (key : String) : Option Datum :=
  match d with
  | .map entries => entries.lookup key
  | _ => none

/-- The entry of a map, where an entry that is null counts as absent. -/
def given? (d : Datum) (key : String) : Option Datum :=
  match d.get? key with
  | some .null => none
  | other => other

/-- Emptiness: nothing, zero, false, and every text, list or map without content. -/
def isEmpty : Datum → Bool
  | .null => true
  | .bool b => !b
  | .int n => n == 0
  | .float x => match x with
    | .finite _ m _ => m == 0
    | _ => false
  | .text s => s.isEmpty
  | .date _ => false
  | .list items => items.isEmpty
  | .map entries => entries.isEmpty

/-- The items that a value stands for where a list is wanted: an empty value has none, a text has
its letters and a map its keys. -/
def items? : Datum → Option (List Datum)
  | .list items => some items
  | .text s => some (s.toList.map fun c => .text c.toString)
  | .map entries => some (entries.map fun e => .text e.1)
  | d => if d.isEmpty then some [] else none

/-- An entry for a value that is present. -/
def optional (key : String) (value : Option Datum) : List (String × Datum) :=
  match value with
  | some v => [(key, v)]
  | none => []

end Datum

end PageTape
