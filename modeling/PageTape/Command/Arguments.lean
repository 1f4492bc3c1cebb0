/-!
The arguments of a command line.  An option begins with a dash; its value follows it, or is
attached: to a long name by an equals sign, to a short name directly.  Short options without values
may share a dash.  After two dashes nothing is an option any more.
-/

namespace PageTape.Command

/-- An option: what it is known by here, the names it may be given by, and whether it takes a
value. -/
structure Switch where
  key : String
  names : List String
  takesValue : Bool := false
  deriving DecidableEq, Repr, Inhabited

/-- Arguments sorted out: the options with their values, in order, and the others. -/
structure Arguments where
  given : List (String × String) := []
  others : List String := []
  deriving DecidableEq, Repr, Inhabited

namespace Arguments

/-- The value of an option; the last one counts. -/
def value? (a : Arguments) (key : String) : Option String := a.given.reverse.lookup key

/-- An option is given. -/
def has (a : Arguments) (key : String) : Bool := (a.value? key).isSome

/-- With more options before the others. -/
def withGiven (given : List (String × String)) (a : Arguments) : Arguments :=
  { a with given := given ++ a.given }

/-- An argument that is an option or several. -/
def isSwitch (arg : String) : Bool := arg.startsWith "-" && arg != "-"

/-- The option of a name. -/
def named? (switches : List Switch) (name : String) : Option Switch :=
  switches.find? fun s => s.names.contains name

/-- Short options behind one dash: those that are complete, and one that needs a value yet. -/
def short? (switches : List Switch) : List Char → Option (List (String × String) × Option String)
  | [] => some ([], none)
  | c :: rest => match named? switches (String.ofList ['-', c]) with
    | none => none
    | some s =>
      if s.takesValue then
        if rest.isEmpty then some ([], some s.key)
        else some ([(s.key, String.ofList rest)], none)
      else (short? switches rest).map fun (given, needs) => ((s.key, "") :: given, needs)

/-- The options of an argument: those that are complete, and one that needs a value yet. -/
def switch? (switches : List Switch) (arg : String) :
    Option (List (String × String) × Option String) :=
  let cs := arg.toList
  let name := String.ofList (cs.takeWhile (· != '='))
  let attached := if cs.contains '=' then some (String.ofList (cs.dropWhile (· != '=')).tail)
    else none
  match if name.startsWith "--" then named? switches name else none with
  | some s => match s.takesValue, attached with
    | true, some value => some ([(s.key, value)], none)
    | true, none => some ([], some s.key)
    | false, none => some ([(s.key, "")], none)
    | false, some _ => none
  | none => if arg.startsWith "--" then none else short? switches cs.tail

/-- Sorts arguments out; nothing if an option is unknown, lacks its value or has one too many. -/
def read? (switches : List Switch) : List String → Option Arguments
  | [] => some {}
  | arg :: rest =>
    if arg == "--" then some { others := rest }
    else if isSwitch arg then
      match switch? switches arg with
      | none => none
      | some (given, none) => (read? switches rest).map (·.withGiven given)
      | some (given, some key) => match rest with
        | [] => none
        | value :: rest =>
          (read? switches rest).map (·.withGiven (given ++ [(key, value)]))
    else (read? switches rest).map fun a => { a with others := arg :: a.others }

/-- Sorts out the arguments before the first that is no option; the others begin with it. -/
def readLeading? (switches : List Switch) : List String → Option Arguments
  | [] => some {}
  | arg :: rest =>
    if arg == "--" then some { others := rest }
    else if isSwitch arg then
      match switch? switches arg with
      | some (given, none) => (readLeading? switches rest).map (·.withGiven given)
      | _ => none
    else some { others := arg :: rest }

end Arguments

end PageTape.Command
