import PageTape.Datum
import PageTape.Number.IntText

/-!
Checking data against a schema.  A check gives a value or every fault it found, each with the
place in the data; faults of several fields are collected in field order.
-/

namespace PageTape

/-- A step down into data: the key of a map or the position in a list. -/
inductive Place where
  | key (name : String)
  | index (position : Nat)
  deriving DecidableEq, Repr, Inhabited

/-- What is wrong with a value. -/
inductive FaultKind where
  | missing
  | modelType
  | listType
  | enum
  | stringType
  | intType
  | intParsing
  | intFromFloat
  | finiteNumber
  | boolType
  | boolParsing
  | belowMinimum
  | valueError
  deriving DecidableEq, Repr, Inhabited

/-- The word for a fault. -/
def FaultKind.word : FaultKind → String
  | missing => "missing"
  | modelType => "model_type"
  | listType => "list_type"
  | enum => "enum"
  | stringType => "string_type"
  | intType => "int_type"
  | intParsing => "int_parsing"
  | intFromFloat => "int_from_float"
  | finiteNumber => "finite_number"
  | boolType => "bool_type"
  | boolParsing => "bool_parsing"
  | belowMinimum => "greater_than_equal"
  | valueError => "value_error"

/-- A fault and the place where it stands, from the outside in. -/
structure Issue where
  place : List Place
  kind : FaultKind
  deriving DecidableEq, Repr, Inhabited

/-- A checked value, or the issues that were found. -/
inductive Checked (α : Type) where
  | good (value : α)
  | bad (issues : List Issue)
  deriving Repr

namespace Checked

/-- A single fault at the place of the value itself. -/
def fault {α : Type} (kind : FaultKind) : Checked α := .bad [⟨[], kind⟩]

/-- The checked value under a function. -/
def map {α β : Type} (f : α → β) : Checked α → Checked β
  | .good a => .good (f a)
  | .bad issues => .bad issues

/-- A checked function at a checked argument; the issues of both are collected. -/
def ap {α β : Type} : Checked (α → β) → Checked α → Checked β
  | .good f, .good a => .good (f a)
  | .good _, .bad issues => .bad issues
  | .bad issues, .good _ => .bad issues
  | .bad first, .bad second => .bad (first ++ second)

instance : Applicative Checked where
  pure := .good
  map := Checked.map
  seq f x := Checked.ap f (x ())

/-- The issues moved below a place. -/
def within {α : Type} (p : Place) : Checked α → Checked α
  | .good a => .good a
  | .bad issues => .bad (issues.map fun i => { i with place := p :: i.place })

/-- A check that needs a value first. -/
def andThen {α β : Type} : Checked α → (α → Checked β) → Checked β
  | .good a, f => f a
  | .bad issues, _ => .bad issues

/-- The value or the issues. -/
def toExcept {α : Type} : Checked α → Except (List Issue) α
  | .good a => .ok a
  | .bad issues => .error issues

end Checked

/-- A check of one value. -/
abbrev Check (α : Type) := Datum → Checked α

namespace Check

/-- Text; where numbers are taken, they count as their text. -/
def text (numbers : Bool) : Check String
  | .text s => .good s
  | .int n => if numbers then .good (toString n) else .fault .stringType
  | .float x => if numbers then .good x.text else .fault .stringType
  | _ => .fault .stringType

/-- A whole number: also a truth value as 1 or 0, a double that is whole, and text. -/
def int : Check Int
  | .int n => .good n
  | .bool b => .good (if b then 1 else 0)
  | .float x => match x with
    | .finite _ _ _ => match x.toInt? with
      | some n => .good n
      | none => .fault .intFromFloat
    | _ => .fault .finiteNumber
  | .text s => match IntText.field? s with
    | some n => .good n
    | none => .fault .intParsing
  | _ => .fault .intType

/-- A whole number that is not negative. -/
def natural : Check Int := fun d =>
  (int d).andThen fun n => if n < 0 then .fault .belowMinimum else .good n

/-- The words for true and for false, in lower case. -/
def trueWords : List String := ["1", "true", "t", "yes", "y", "on"]

/-- The words for false. -/
def falseWords : List String := ["0", "false", "f", "no", "n", "off"]

/-- A truth value: also 1 and 0, and the words for them in any case. -/
def bool : Check Bool
  | .bool b => .good b
  | .int n => if n = 1 then .good true else if n = 0 then .good false else .fault .boolParsing
  | .float x => match x.toInt? with
    | some 1 => .good true
    | some 0 => .good false
    | _ => .fault .boolType
  | .text s =>
    let word := s.map Char.toLower
    if trueWords.contains word then .good true
    else if falseWords.contains word then .good false
    else .fault .boolParsing
  | _ => .fault .boolType

/-- One of the given values, by its word. -/
def word {α : Type} (values : List α) (wordOf : α → String) : Check α
  | .text s => match values.find? fun a => wordOf a == s with
    | some a => .good a
    | none => .fault .enum
  | _ => .fault .enum

/-- Null, or a value. -/
def optional {α : Type} (check : Check α) : Check (Option α)
  | .null => .good none
  | d => (check d).map some

/-- The checked items of a list, from a position on. -/
def items {α : Type} (check : Check α) (position : Nat) : List Datum → Checked (List α)
  | [] => .good []
  | d :: rest =>
    List.cons <$> (check d).within (.index position) <*> items check (position + 1) rest

/-- A list of values. -/
def list {α : Type} (check : Check α) : Check (List α)
  | .list ds => items check 0 ds
  | _ => .fault .listType

/-- A map whose entries a check reads. -/
def model {α : Type} (check : List (String × Datum) → Checked α) : Check α
  | .map entries => check entries
  | _ => .fault .modelType

/-- A field found by its written key, else by its plain name; absent, it has a default or is an
issue at the written key. -/
def field {α : Type} (entries : List (String × Datum)) (key name : String) (check : Check α)
    (default : Option α) : Checked α :=
  match entries.lookup key with
  | some d => (check d).within (.key key)
  | none => match entries.lookup name with
    | some d => (check d).within (.key name)
    | none => match default with
      | some a => .good a
      | none => (Checked.fault .missing).within (.key key)

/-- A field that must be there. -/
def required {α : Type} (entries : List (String × Datum)) (key name : String)
    (check : Check α) : Checked α :=
  field entries key name check none

/-- A field with a default. -/
def withDefault {α : Type} (entries : List (String × Datum)) (key name : String)
    (check : Check α) (default : α) : Checked α :=
  field entries key name check (some default)

/-- A field that may be absent or null. -/
def maybe {α : Type} (entries : List (String × Datum)) (key name : String)
    (check : Check α) : Checked (Option α) :=
  field entries key name (optional check) (some none)

end Check

end PageTape
