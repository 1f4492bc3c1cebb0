import PageTape.Yaml.Token

/-!
The nodes of a YAML text: scalars, lists and maps, as they are written.  An alias is replaced by
the node that its anchor stands for.
-/

namespace PageTape.Yaml

/-- A node and where it begins.  An alias for a node that it is part of is a loop. -/
inductive Node where
  | scalar (start : Mark) (tag : Option String) (isAnchored isPlain : Bool) (text : String)
  | list (start : Mark) (items : List Node)
  | map (start : Mark) (entries : List (Node × Node))
  | loop (start : Mark)
  deriving Repr, Inhabited

/-- Where a node begins. -/
def Node.start : Node → Mark
  | scalar start .. | list start .. | map start .. | loop start => start

/-- A node without content. -/
def Node.empty (start : Mark) : Node := .scalar start none false true ""

/-- The state of reading nodes: the tokens to come, the fault after the last of them, the nodes of
the anchors so far, and the handles of tags. -/
structure Parse where
  tokens : List Token
  fault : Option Fault
  anchors : List (String × Option Node) := []
  handles : List String := ["!", "!!"]
  deriving Inhabited

namespace Parse

/-- Reading that may fail. -/
abbrev P := StateT Parse (Except Fault)

/-- The next token.  Where there is none, the text could not be read that far. -/
def peek : P Token := do
  let s ← get
  match s.tokens, s.fault with
  | token :: _, _ => return token
  | [], some fault => throw fault
  | [], none => throw (.malformed none)

/-- The next token is one of some kinds. -/
def next (p : TokenKind → Bool) : P Bool := return p (← peek).kind

/-- Takes the next token. -/
def take : P Token := do
  let token ← peek
  modify fun s => { s with tokens := s.tokens.tail }
  return token

/-- Fails at a place, unless the text could not be read to the token after the next. -/
def failAt {α : Type} (tokensSeen : Nat) (mark : Mark) : P α := do
  let s ← get
  match s.fault with
  | some fault =>
    if s.tokens.length ≤ tokensSeen then throw fault else throw (.malformed (some mark))
  | none => throw (.malformed (some mark))

/-- Fails at the next token. -/
def unexpected {α : Type} : P α := do failAt 1 (← peek).start

/-- Sets what an anchor stands for. -/
def setAnchor (anchor : Option String) (node : Option Node) : P Unit :=
  match anchor with
  | some name => modify fun s => { s with anchors := (name, node) :: s.anchors }
  | none => return

/-! ### Properties of nodes -/

/-- The tags of the kinds of plain data have this before their names. -/
def standardTag : String := "tag:yaml.org,2002:"

/-- The full name of a tag.  Its handle must be known. -/
def fullTag (start mark : Mark) (handle : Option String) (suffix : String) : P String := do
  match handle with
  | none => return suffix
  | some "!!" => return standardTag ++ suffix
  | some handle =>
    if (← get).handles.contains handle then return handle ++ suffix
    else
      let _ := start
      failAt 0 mark

/-- The anchor and the tag before a node, in either order, and where they begin. -/
def properties : P (Option Mark × Option String × Option String) := do
  let first ← peek
  match first.kind with
  | .anchor name =>
    discard take
    let second ← peek
    match second.kind with
    | .tag handle suffix =>
      discard take
      return (some first.start, some name, some (← fullTag first.start second.start handle suffix))
    | _ => return (some first.start, some name, none)
  | .tag handle suffix =>
    discard take
    let second ← peek
    match second.kind with
    | .anchor name =>
      discard take
      return (some second.start, some name,
        some (← fullTag second.start second.start handle suffix))
    | _ => return (some first.start, none, some (← fullTag first.start first.start handle suffix))
  | _ => return (none, none, none)

/-! ### Kinds of tokens -/

/-- What ends an entry of a block map. -/
def endsBlockPart : TokenKind → Bool
  | .key | .value | .blockEnd => true
  | _ => false

/-- What ends an entry of a block list that is not indented. -/
def endsBareItem : TokenKind → Bool
  | .blockEntry | .key | .value | .blockEnd => true
  | _ => false

/-- What ends an entry of a block list. -/
def endsBlockItem : TokenKind → Bool
  | .blockEntry | .blockEnd => true
  | _ => false

/-- What ends a part of an entry of a flow map. -/
def endsFlowPart : TokenKind → Bool
  | .value | .flowEntry | .flowMapEnd => true
  | _ => false

/-- What ends an entry of a flow map. -/
def endsFlowEntry : TokenKind → Bool
  | .flowEntry | .flowMapEnd => true
  | _ => false

/-- What ends a part of a pair in a flow list. -/
def endsPairPart : TokenKind → Bool
  | .value | .flowEntry | .flowSeqEnd => true
  | _ => false

/-- What ends a pair in a flow list. -/
def endsPair : TokenKind → Bool
  | .flowEntry | .flowSeqEnd => true
  | _ => false

/-! ### Nodes -/

/-- Reads a comma between two entries of a flow collection. -/
def comma (isFirst : Bool) : P Unit := do
  if isFirst then return
  if ← next (· == .flowEntry) then discard take else unexpected

mutual
/-- A node in a block or in a flow collection; where a list may stand that is not indented, `bare`
says so. -/
def node (inBlock bare : Bool) : Nat → P Node
  | 0 => unexpected
  | n + 1 => do
    match (← peek).kind with
    | .alias name =>
      let token ← take
      match (← get).anchors.lookup name with
      | some (some node) => return node
      | some none => return .loop token.start
      | none => failAt 0 token.start
    | _ =>
      let (mark, anchor, tag) ← properties
      let token ← peek
      let start := mark.getD token.start
      setAnchor anchor none
      let made ← content inBlock bare (mark.isSome) start tag anchor.isSome n
      setAnchor anchor (some made)
      return made

/-- The content of a node whose properties have been read. -/
def content (inBlock bare hasProperties : Bool) (start : Mark) (tag : Option String)
    (isAnchored : Bool) : Nat → P Node
  | 0 => unexpected
  | n + 1 => do
    match (← peek).kind with
    | .blockEntry =>
      if bare then .list start <$> bareItems n
      else if hasProperties then return .scalar start tag isAnchored true ""
      else unexpected
    | .scalar text isPlain =>
      discard take
      return .scalar start tag isAnchored isPlain text
    | .flowSeqStart =>
      discard take
      .list start <$> flowItems true n
    | .flowMapStart =>
      discard take
      .map start <$> flowEntries true n
    | .blockSeqStart =>
      if inBlock then
        discard take
        .list start <$> blockItems n
      else if hasProperties then return .scalar start tag isAnchored true ""
      else unexpected
    | .blockMapStart =>
      if inBlock then
        discard take
        .map start <$> blockEntries n
      else if hasProperties then return .scalar start tag isAnchored true ""
      else unexpected
    | _ =>
      if hasProperties then return .scalar start tag isAnchored true ""
      else unexpected

/-- The items of a block list. -/
def blockItems : Nat → P (List Node)
  | 0 => unexpected
  | n + 1 => do
    match (← peek).kind with
    | .blockEntry =>
      let dash ← take
      let item ← if ← next endsBlockItem then pure (Node.empty dash.stop) else node true false n
      return item :: (← blockItems n)
    | .blockEnd =>
      discard take
      return []
    | _ => unexpected

/-- The items of a block list that is not indented. -/
def bareItems : Nat → P (List Node)
  | 0 => unexpected
  | n + 1 => do
    match (← peek).kind with
    | .blockEntry =>
      let dash ← take
      let item ← if ← next endsBareItem then pure (Node.empty dash.stop) else node true false n
      return item :: (← bareItems n)
    | _ => return []

/-- The entries of a block map. -/
def blockEntries : Nat → P (List (Node × Node))
  | 0 => unexpected
  | n + 1 => do
    let token ← peek
    match token.kind with
    | .key =>
      discard take
      let key ← if ← next endsBlockPart then pure (Node.empty token.stop) else node true true n
      let value ← blockValue n
      return (key, value) :: (← blockEntries n)
    | .value =>
      let value ← blockValue n
      return (Node.empty token.start, value) :: (← blockEntries n)
    | .blockEnd =>
      discard take
      return []
    | _ => unexpected

/-- The value of an entry of a block map. -/
def blockValue : Nat → P Node
  | 0 => unexpected
  | n + 1 => do
    let token ← peek
    match token.kind with
    | .value =>
      discard take
      if ← next endsBlockPart then return Node.empty token.stop else node true true n
    | _ => return Node.empty token.start

/-- The items of a flow list. -/
def flowItems (isFirst : Bool) : Nat → P (List Node)
  | 0 => unexpected
  | n + 1 => do
    if ← next (· == .flowSeqEnd) then
      discard take
      return []
    comma isFirst
    let token ← peek
    match token.kind with
    | .key =>
      discard take
      let pair ← flowPair token n
      return .map token.start [pair] :: (← flowItems false n)
    | .flowSeqEnd =>
      discard take
      return []
    | _ =>
      let item ← node false false n
      return item :: (← flowItems false n)

/-- A pair in a flow list, which is a map of its own. -/
def flowPair (token : Token) : Nat → P (Node × Node)
  | 0 => unexpected
  | n + 1 => do
    let key ← if ← next endsPairPart then pure (Node.empty token.stop) else node false false n
    let after ← peek
    if after.kind == .value then
      discard take
      let value ← if ← next endsPair then pure (Node.empty after.stop) else node false false n
      return (key, value)
    else return (key, Node.empty after.start)

/-- The entries of a flow map. -/
def flowEntries (isFirst : Bool) : Nat → P (List (Node × Node))
  | 0 => unexpected
  | n + 1 => do
    if ← next (· == .flowMapEnd) then
      discard take
      return []
    comma isFirst
    let token ← peek
    match token.kind with
    | .key =>
      discard take
      let key ← if ← next endsFlowPart then pure (Node.empty token.stop) else node false false n
      let value ← flowValue n
      return (key, value) :: (← flowEntries false n)
    | .value =>
      let value ← flowValue n
      return (Node.empty token.stop, value) :: (← flowEntries false n)
    | .flowMapEnd =>
      discard take
      return []
    | _ =>
      let key ← node false false n
      let after ← peek
      return (key, Node.empty after.start) :: (← flowEntries false n)

/-- The value of an entry of a flow map. -/
def flowValue : Nat → P Node
  | 0 => unexpected
  | n + 1 => do
    let token ← peek
    match token.kind with
    | .value =>
      discard take
      if ← next endsFlowEntry then return Node.empty token.stop else node false false n
    | _ => return Node.empty token.start
end

/-! ### Documents -/

/-- Takes the separators that end documents. -/
def skipEnds : Nat → P Unit
  | 0 => return
  | n + 1 => do
    if ← next (· == .documentEnd) then
      discard take
      skipEnds n

/-- Reads the directives before a document. -/
def directives : Nat → P Unit
  | 0 => return
  | n + 1 => do
    let token ← peek
    match token.kind with
    | .directive "YAML" (some major) =>
      discard take
      if major != 1 then failAt 0 token.start
      directives n
    | .directive _ _ =>
      discard take
      directives n
    | _ => return

/-- What the beginning of a document looks like. -/
def opensDocument : TokenKind → Bool
  | .directive _ _ | .documentStart | .streamEnd => true
  | _ => false

/-- What stands where a document has no content. -/
def endsContent : TokenKind → Bool
  | .directive _ _ | .documentStart | .documentEnd | .streamEnd => true
  | _ => false

/-- The beginning of a document that is marked as one, if the text does not end; and where it
is. -/
def markedStart (n : Nat) : P (Option Mark) := do
  skipEnds n
  if ← next (· == .streamEnd) then return none
  let start := (← peek).start
  directives n
  if ← next (· == .documentStart) then
    discard take
    return some start
  else unexpected

/-- The content of a document; one that is marked may have none. -/
def root (isMarked : Bool) (n : Nat) : P Node := do
  if isMarked then
    if ← next endsContent then return Node.empty (← peek).start else node true false n
  else node true false n

/-- Nothing may follow a document. -/
def nothingMore (n : Nat) : P Unit := do
  match ← markedStart n with
  | some mark => failAt 0 mark
  | none => return

/-- The only document of a text, if it has one. -/
def document (n : Nat) : P (Option Node) := do
  let isMarked ← next opensDocument
  if isMarked then
    if (← markedStart n).isNone then return none
  let node ← root isMarked n
  if ← next (· == .documentEnd) then
    discard take
    let after := (← peek).kind
    if opensDocument after || after == .documentEnd then nothingMore n
    else failAt 1 (← peek).start
  else nothingMore n
  return some node

end Parse

/-- The node of a text, if it holds any. -/
def nodeOf? (text : List Char) : Except Fault (Option Node) :=
  let (tokens, fault) := tokensOf text
  (Parse.document (4 * tokens.length + 8)).run' { tokens, fault }

end PageTape.Yaml
