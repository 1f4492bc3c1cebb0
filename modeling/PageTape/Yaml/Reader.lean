import PageTape.Text.Quoted
import PageTape.Yaml.Node
import PageTape.Yaml.Plain

/-!
The data of a YAML text.  A key may be any data, and no two keys of a map are equal; once the map
is read its keys are written as text.  The key `<<` stands for the entries of other maps, which
come last and yield to those of the map itself.
-/

namespace PageTape.Yaml

namespace Key

/-- The number that data is, truth values being 1 and 0. -/
def number? : Datum → Option Rat
  | .bool b => some (if b then 1 else 0)
  | .int n => some n
  | .float x => x.toRat?
  | _ => none

/-- Two keys are the same: equal numbers, or other data that is written alike. -/
def same (a b : Datum) : Bool :=
  match number? a, number? b with
  | some x, some y => x == y
  | none, none => a.quoted == b.quoted && a.quoted != Binary64.nan.text
  | _, _ => false

/-- The text of a key. -/
def text : Datum → String
  | .text s => s
  | .list [d] => s!"({d.quoted},)"
  | .list ds => s!"({Datum.quotedItems ds})"
  | d => d.quoted

end Key

namespace Node

/-- The key that stands for the entries of other maps. -/
def isMerge : Node → Bool
  | .scalar _ tag _ isPlain text => tag.isNone && isPlain && Plain.kind text == .merge
  | _ => false

/-- The data of a scalar.  A tag of a kind of plain data makes it read as such; any other tag makes
it neither a text nor a number. -/
def scalarDatum (tag : Option String) (isAnchored isPlain : Bool) (text : String) :
    Except Fault Datum :=
  let standard := fun name => Parse.standardTag ++ name
  match tag with
  | none => if isPlain then Plain.value isAnchored text else .ok (.text text)
  | some tag =>
    if tag == "!" then Plain.value isAnchored text
    else if tag == standard "str" then .ok (.text text)
    else if tag == standard "null" then .ok .null
    else if tag == standard "bool" then Plain.truthDatum isAnchored text
    else if tag == standard "int" then .int <$> Plain.wholeValue text
    else if tag == standard "float" then .float <$> Plain.realValue text
    else .ok (.date text)

/-- The entries of merged maps: the first map that has a key counts. -/
def addMissing (entries : List (Datum × Datum)) : List (Datum × Datum) → List (Datum × Datum)
  | [] => entries
  | e :: rest =>
    if entries.any fun known => Key.same known.1 e.1 then addMissing entries rest
    else addMissing (entries ++ [e]) rest

/-- The entries of a map, from those that it merges and its own; a fault in those that it merges
counts first. -/
def withMerged (merged own : Except Fault (List (Datum × Datum))) :
    Except Fault (List (Datum × Datum)) := do
  let merged ← merged
  return addMissing (← own) merged

mutual
/-- The data of a node. -/
def build : Node → Except Fault Datum
  | .scalar _ tag isAnchored isPlain text => scalarDatum tag isAnchored isPlain text
  | .list _ items => .list <$> buildAll items
  | .map _ entries => do
    let read ← withMerged (mergedEntries false entries) (buildEntries [] entries)
    return Datum.ofEntries (read.map fun (k, d) => (Key.text k, d))
  | .loop _ => .ok .null

/-- The data of nodes in order. -/
def buildAll : List Node → Except Fault (List Datum)
  | [] => .ok []
  | node :: rest => do return (← build node) :: (← buildAll rest)

/-- The entries of a map after those that are known.  Its merged entries are left out. -/
def buildEntries (known : List (Datum × Datum)) :
    List (Node × Node) → Except Fault (List (Datum × Datum))
  | [] => .ok known
  | (key, value) :: rest => do
    if key.isMerge then buildEntries known rest
    else
      let k ← build key
      let d ← build value
      if known.any fun e => Key.same e.1 k then throw (.malformed (some key.start))
      buildEntries (known ++ [(k, d)]) rest

/-- The entries of the maps that a map merges.  Only one key may ask for that. -/
def mergedEntries (hasMerged : Bool) :
    List (Node × Node) → Except Fault (List (Datum × Datum))
  | [] => .ok []
  | (key, value) :: rest => do
    if !key.isMerge then mergedEntries hasMerged rest
    else if hasMerged then throw (.malformed (some key.start))
    else
      let (found, entries) ← mergeSource value
      return entries ++ (← mergedEntries found rest)

/-- The entries of a map or of the maps in a list, for another map to merge; and whether there is
any such map. -/
def mergeSource : Node → Except Fault (Bool × List (Datum × Datum))
  | .map _ entries => do
    return (true, ← withMerged (mergedEntries false entries) (buildEntries [] entries))
  | .list _ items => do return (!items.isEmpty, ← listedEntries items)
  | .scalar start .. | .loop start => throw (.malformed (some start))

/-- The entries of the maps in a list. -/
def listedEntries : List Node → Except Fault (List (Datum × Datum))
  | [] => .ok []
  | node :: rest => do
    let entries ← mapEntries node
    return entries ++ (← listedEntries rest)

/-- The entries of a map. -/
def mapEntries : Node → Except Fault (List (Datum × Datum))
  | .map _ entries => withMerged (mergedEntries false entries) (buildEntries [] entries)
  | .scalar start .. | .list start _ | .loop start => throw (.malformed (some start))
end

mutual
/-- Some alias in a node stands for what it is part of. -/
def isEndless : Node → Bool
  | .scalar .. => false
  | .list _ items => anyEndless items
  | .map _ entries => anyEntryEndless entries
  | .loop _ => true

/-- Some of the nodes is endless. -/
def anyEndless : List Node → Bool
  | [] => false
  | node :: rest => isEndless node || anyEndless rest

/-- Some value of the entries is endless. -/
def anyEntryEndless : List (Node × Node) → Bool
  | [] => false
  | (_, value) :: rest => isEndless value || anyEntryEndless rest
end

/-- The data of a node. -/
def toDatum (node : Node) : Except Fault Datum := do
  let d ← node.build
  if node.isEndless then throw .endless else return d

end Node

/-- The data of a YAML text; a text without content is null. -/
def read (text : String) : Except Fault Datum := do
  let cs := text.toList
  if !cs.all isAllowed then throw (.malformed none)
  match ← nodeOf? cs with
  | some node => node.toDatum
  | none => return .null

end PageTape.Yaml
