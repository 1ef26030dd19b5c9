/-
The nodes of a YAML document, read from its tokens. A text holds at most one
document. Blocks and brackets give the same nodes; where a node is missing,
in a list entry or a value, an empty plain scalar stands for it.
-/
import CloudSession.Yaml.Token

namespace CloudSession.Yaml

-- ==================================================================== nodes

/-- A node. An alias refers to an anchored node by its number. Only the tag
of a scalar is kept. -/
inductive Node
  | scalar (tag : Option (List Char)) (style : Style) (text : List Char)
  | sequence (items : List Node)
  | mapping (pairs : List (Node × Node))
  | alias (number : Nat)
deriving Repr

/-- What stands for a node that is missing. -/
def Node.empty : Node := .scalar none .plain []

/-- A document: its root, unless the text holds none, and the anchored
nodes by number. -/
structure Document where
  root : Option Node
  anchored : List (Nat × Node)
deriving Repr

-- ================================================================ the reader

/-- The tokens to come, the tags that handles stand for, and the anchors so
far. An anchor's number is how many names had been given before it. `begun`
lists the numbers of all anchors, the latest first, and `finished` the nodes
that are complete, by how many anchors had begun before. -/
structure Reader where
  tokens : List Token
  handles : List (List Char × List Char)
  names : List (List Char × Nat)
  begun : List Nat
  finished : List (Nat × Node)

/-- A step of reading, which may refuse. -/
abbrev Reading := StateT Reader Option

namespace Reading

/-- The next token. -/
def next : Reading Token := fun r => r.tokens.head?.map (·, r)

/-- Passes over the next token. -/
def skip : Reading Unit := modify fun r => { r with tokens := r.tokens.tail }

/-- Passes over the next token if it is the given one. -/
def accept (t : Token) : Reading Bool := do
  if (← next) = t then
    skip
    return true
  else return false

/-- Whether the next token is one of some. -/
def isNext (ts : List Token) : Reading Bool := do return decide ((← next) ∈ ts)

/-- An empty scalar if one of some tokens follows, else what is read. -/
def emptyBefore (ts : List Token) (read : Reading Node) : Reading Node := do
  if (← isNext ts) then return .empty else read

-- ========================================================= anchors and tags

/-- The name of an anchor that stands here. -/
def anchor? : Reading (Option (List Char)) := do
  match ← next with
  | .anchor name => do
    skip
    return some name
  | _ => return none

/-- The tag that stands here, its handle resolved. -/
def tag? : Reading (Option (List Char)) := do
  match ← next with
  | .tag handle suffix => do
    skip
    if handle.isEmpty then return some suffix
    match (← get).handles.lookup handle with
    | some start => return some (start ++ suffix)
    | none => failure
  | _ => return none

/-- The anchor and the tag in front of a node, in either order. -/
def properties : Reading (Option (List Char) × Option (List Char)) := do
  match ← anchor? with
  | some name => return (some name, ← tag?)
  | none =>
    match ← tag? with
    | some tag => return (← anchor?, some tag)
    | none => return (none, none)

/-- Gives an anchor its number. -/
def begin (name : List Char) : Reading Unit :=
  modify fun r =>
    { r with
      names := (name, r.names.length) :: r.names.filter (·.1 != name)
      begun := r.names.length :: r.begun }

/-- The number of the anchor with a name. -/
def number (name : List Char) : Reading Nat := do
  match (← get).names.lookup name with
  | some n => return n
  | none => failure

/-- Reads a node, under an anchor if a name is given. -/
def anchoring (name : Option (List Char)) (read : Reading Node) : Reading Node := do
  match name with
  | none => read
  | some name => do
    let position := (← get).begun.length
    begin name
    let node ← read
    modify fun r => { r with finished := (position, node) :: r.finished }
    return node

-- ============================================================== collections

/-- Whether another entry follows within brackets. -/
def another (closing : Token) (first : Bool) : Reading Bool := do
  if (← accept closing) then return false
  if !first then
    if !(← accept .flowEntry) then failure
  return !(← accept closing)

mutual

/-- A node. `block` says whether blocks may stand here, and `hanging` that
the dashes of a sequence may stand at the indentation of the mapping around
it. -/
def node (block hanging : Bool) : Nat → Reading Node
  | 0 => failure
  | fuel + 1 => do
    match ← next with
    | .alias name => do
      skip
      return .alias (← number name)
    | _ => do
      let (name, tag) ← properties
      anchoring name (content block hanging (name.isSome || tag.isSome) tag fuel)

/-- The content of a node behind its anchor and its tag. Where there is
one of those it may be empty. -/
def content (block hanging marked : Bool) (tag : Option (List Char)) : Nat → Reading Node
  | 0 => failure
  | fuel + 1 => do
    match ← next with
    | .scalar style text => do
      skip
      return .scalar (tag.filter (· != ['!'])) style text
    | .flowSequenceStart => do
      skip
      return .sequence (← flowItems true fuel)
    | .flowMappingStart => do
      skip
      return .mapping (← flowPairs true fuel)
    | t =>
      if hanging && t == .blockEntry then return .sequence (← hangingItems fuel)
      else if block && t == .blockSequenceStart then do
        skip
        return .sequence (← blockItems fuel)
      else if block && t == .blockMappingStart then do
        skip
        return .mapping (← blockPairs fuel)
      else if marked then return .scalar tag .plain []
      else failure

/-- The entries of a sequence up to the end of its block. -/
def blockItems : Nat → Reading (List Node)
  | 0 => failure
  | fuel + 1 => do
    if (← accept .blockEnd) then return []
    else if (← accept .blockEntry) then
      let item ← emptyBefore [.blockEntry, .blockEnd] (node true false fuel)
      return item :: (← blockItems fuel)
    else failure

/-- The entries of a sequence in the block of the mapping around it. -/
def hangingItems : Nat → Reading (List Node)
  | 0 => failure
  | fuel + 1 => do
    if (← accept .blockEntry) then
      let item ← emptyBefore [.blockEntry, .key, .value, .blockEnd] (node true false fuel)
      return item :: (← hangingItems fuel)
    else return []

/-- The pairs of a mapping up to the end of its block. -/
def blockPairs : Nat → Reading (List (Node × Node))
  | 0 => failure
  | fuel + 1 => do
    if (← accept .blockEnd) then return []
    else if (← accept .key) then
      let part := emptyBefore [.key, .value, .blockEnd] (node true true fuel)
      let key ← part
      let value ← if (← accept .value) then part else pure .empty
      return (key, value) :: (← blockPairs fuel)
    else failure

/-- The entries of a sequence in brackets. A pair there is a mapping. -/
def flowItems (first : Bool) : Nat → Reading (List Node)
  | 0 => failure
  | fuel + 1 => do
    if (← another .flowSequenceEnd first) then
      let item ← if (← accept .key) then flowPair fuel else node false false fuel
      return item :: (← flowItems false fuel)
    else return []

/-- The pair behind a key mark within a sequence. A token in place of its
key is passed over. -/
def flowPair : Nat → Reading Node
  | 0 => failure
  | fuel + 1 => do
    let key ←
      if (← isNext [.value, .flowEntry, .flowSequenceEnd]) then do
        skip
        pure .empty
      else node false false fuel
    let value ←
      if (← accept .value) then
        emptyBefore [.flowEntry, .flowSequenceEnd] (node false false fuel)
      else pure .empty
    return .mapping [(key, value)]

/-- The pairs of a mapping in brackets. Without a key mark there is no
value. -/
def flowPairs (first : Bool) : Nat → Reading (List (Node × Node))
  | 0 => failure
  | fuel + 1 => do
    if (← another .flowMappingEnd first) then
      let marked ← accept .key
      let key ←
        if marked then
          emptyBefore [.value, .flowEntry, .flowMappingEnd] (node false false fuel)
        else node false false fuel
      let value ←
        if marked then
          if (← accept .value) then
            emptyBefore [.flowEntry, .flowMappingEnd] (node false false fuel)
          else pure .empty
        else pure .empty
      return (key, value) :: (← flowPairs false fuel)
    else return []

end

-- ================================================================ documents

/-- The handles that need no directive. -/
def defaultHandles : List (List Char × List Char) :=
  [(['!'], ['!']), (['!', '!'], "tag:yaml.org,2002:".toList)]

/-- The directives before a document. A version or a handle is given at most
once. -/
def directives (versioned : Bool) (handles : List (List Char × List Char)) :
    List Token → Option (List (List Char × List Char) × List Token)
  | .version major minor :: rest =>
    if versioned || major != 1 || (minor != 1 && minor != 2) then none
    else directives true handles rest
  | .tagDirective handle start :: rest =>
    if (handles.lookup handle).isSome then none
    else directives versioned (handles ++ [(handle, start)]) rest
  | tokens => some (handles, tokens)

/-- The tokens that no node begins with at the top of a document. -/
def isOutside : Token → Bool
  | .version _ _ => true
  | .tagDirective _ _ => true
  | t => t ∈ [.documentStart, .documentEnd, .streamEnd]

/-- The root of the document, if there is one. Without directives the mark
before a document may be left out. -/
def root : Reading (Option Node) := do
  let r ← get
  let fuel := 3 * r.tokens.length + 3
  match directives false [] r.tokens with
  | none => failure
  | some (handles, tokens) => do
    let implicit := tokens.length == r.tokens.length && (← next) != .documentStart
    if implicit && (← next) == .streamEnd then return none
    set { r with tokens := tokens, handles := handles ++ defaultHandles }
    if implicit then return some (← node true false fuel)
    if !(← accept .documentStart) then failure
    if isOutside (← next) then return some .empty
    return some (← node true false fuel)

/-- The only document of a text. -/
def document : Reading Document := do
  let root ← root
  modify fun r => { r with tokens := r.tokens.dropWhile (· == .documentEnd) }
  if (← next) != .streamEnd then failure
  let r ← get
  let numbered := r.begun.reverse.zipIdx.reverse
  return ⟨root, numbered.filterMap fun (number, position) =>
    (r.finished.lookup position).map (number, ·)⟩

end Reading

/-- The document that a text holds. -/
def Document.read? (cs : List Char) : Option Document :=
  (tokens? cs).bind fun tokens =>
    (Reading.document.run ⟨tokens, [], [], [], []⟩).map (·.1)

end CloudSession.Yaml
