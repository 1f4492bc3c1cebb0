import PageTape.Text.Blank

/-!
The nodes of a page.  An element has an identity that edits of the page never change, a name,
attributes and children; all other nodes are text of some kind.
-/

namespace PageTape.Dom

/-- The value of an attribute: one text, or the words of a list-valued attribute. -/
inductive AttrValue where
  | text (value : String)
  | words (values : List String)
  deriving DecidableEq, Repr, Inhabited

/-- An attribute value as text; words are joined by one space. -/
def AttrValue.toText : AttrValue → String
  | text value => value
  | words values => String.intercalate " " values

/-- Attributes in the order in which they were first set. -/
abbrev Attrs := List (String × AttrValue)

namespace Attrs

/-- The attributes with one set: in place where it is known, else last. -/
def set (name : String) (value : AttrValue) : Attrs → Attrs
  | [] => [(name, value)]
  | (n, v) :: rest => if n = name then (n, value) :: rest else (n, v) :: set name value rest

/-- The attributes without one. -/
def erase (name : String) (attrs : Attrs) : Attrs := attrs.filter fun a => a.1 ≠ name

/-- The same names with the same values, in any order. -/
def same (a b : Attrs) : Bool :=
  a.length == b.length && a.all fun (n, v) => b.lookup n == some v

/-- The attributes whose value is a list of words, on any element. -/
def listNames : List String := ["class", "accesskey", "dropzone"]

/-- The attributes whose value is a list of words, on one kind of element. -/
def listNamesOf : List (String × List String) := [
  ("a", ["rel", "rev"]), ("link", ["rel", "rev"]), ("td", ["headers"]), ("th", ["headers"]),
  ("form", ["accept-charset"]), ("object", ["archive"]), ("area", ["rel"]), ("icon", ["sizes"]),
  ("iframe", ["sandbox"]), ("output", ["for"])]

/-- The value that a text stands for in an attribute of an element. -/
def valueOf (element name : String) (value : String) : AttrValue :=
  if listNames.contains name || ((listNamesOf.lookup element).getD []).contains name then
    .words (Text.words value)
  else .text value

/-- Attributes of an element as written, in order; of a repeated one the last value counts. -/
def ofTexts (element : String) (texts : List (String × String)) : Attrs :=
  texts.foldl (fun acc a => acc.set a.1 (valueOf element a.1 a.2)) []

end Attrs

/-- The text nodes: plain text, and the text inside the elements that keep theirs apart. -/
inductive TextKind where
  | plain | script | style | template | rubyText | rubyParen
  deriving DecidableEq, Repr, Inhabited

namespace TextKind

/-- The elements that keep their text apart, with the kind of that text. -/
def keepers : List (String × TextKind) := [
  ("script", script), ("style", style), ("template", template), ("rt", rubyText),
  ("rp", rubyParen)]

/-- The kind of text that belongs to an element. -/
def ofName (name : String) : TextKind := (keepers.lookup name).getD plain

end TextKind

/-- The nodes of a page that are neither elements, text nor comments. -/
inductive SpecialKind where
  | doctype | cdata | instruction | declaration
  deriving DecidableEq, Repr, Inhabited

/-- The identity of an element. -/
abbrev Id := Nat

/-- An element apart from its children. -/
structure Tag where
  id : Id
  name : String
  attrs : Attrs := []
  deriving DecidableEq, Repr, Inhabited

/-- A node. -/
inductive Node where
  | element (tag : Tag) (children : List Node)
  | text (kind : TextKind) (value : String)
  | comment (value : String)
  | special (kind : SpecialKind) (value : String)
  deriving Repr, Inhabited

namespace Tag

/-- The value of an attribute as text. -/
def attr? (t : Tag) (name : String) : Option String := (t.attrs.lookup name).map (·.toText)

/-- An attribute is there. -/
def has (t : Tag) (name : String) : Bool := (t.attrs.lookup name).isSome

/-- The `id` attribute, or nothing. -/
def ident (t : Tag) : String := (t.attr? "id").getD ""

/-- The tag with an attribute set. -/
def set (t : Tag) (name : String) (value : AttrValue) : Tag :=
  { t with attrs := t.attrs.set name value }

/-- The tag without an attribute. -/
def erase (t : Tag) (name : String) : Tag := { t with attrs := t.attrs.erase name }

/-- The value of an attribute is exactly a text. -/
def isAttr (t : Tag) (name value : String) : Bool := t.attr? name == some value

end Tag

namespace Node

/-- The tag of an element. -/
def tag? : Node → Option Tag
  | element tag _ => some tag
  | _ => none

/-- The children of an element. -/
def children : Node → List Node
  | element _ cs => cs
  | _ => []

/-- The element has this identity. -/
def hasId (id : Id) : Node → Bool
  | element tag _ => tag.id == id
  | _ => false

mutual
/-- The texts of some kinds below a node, in order. -/
def texts (takes : TextKind → Bool) (cdata : Bool) : Node → List String
  | element _ children => textsList takes cdata children
  | text kind value => if takes kind then [value] else []
  | comment _ => []
  | special kind value => if cdata && kind == .cdata then [value] else []

/-- The texts of some kinds below the nodes of a list, in order. -/
def textsList (takes : TextKind → Bool) (cdata : Bool) : List Node → List String
  | [] => []
  | n :: rest => texts takes cdata n ++ textsList takes cdata rest
end

/-- The text of an element: that of the kind it keeps, which is plain text with character data for
most. -/
def textContent : Node → String
  | element tag children =>
    let kind := TextKind.ofName tag.name
    String.join (textsList (· == kind) (kind == .plain) children)
  | _ => ""

mutual
/-- The elements below a node in document order, the node included. -/
def elements : Node → List Node
  | element tag children => element tag children :: elementsList children
  | _ => []

/-- The elements in a list of nodes in document order. -/
def elementsList : List Node → List Node
  | [] => []
  | n :: rest => elements n ++ elementsList rest
end

/-- The elements below an element, without itself. -/
def descendants (n : Node) : List Node := elementsList n.children

/-- The first element of a name below an element. -/
def findName? (n : Node) (name : String) : Option Node :=
  n.descendants.find? fun e => e.tag?.any (·.name == name)

/-- The first element below an element that has this `id` attribute. -/
def findIdent? (n : Node) (ident : String) : Option Node :=
  n.descendants.find? fun e => e.tag?.any (·.isAttr "id" ident)

end Node

end PageTape.Dom
