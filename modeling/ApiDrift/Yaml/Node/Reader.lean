import ApiDrift.Yaml.Node

/-!
# Reading nodes

Tokens are read into nodes from left to right. Each step asks for the next token only when it needs
it, so that of two faults the one that comes first in the text is reported.
-/

namespace ApiDrift.Yaml

/-- What an anchor names: a node that is still being read, or a complete one. -/
inductive Anchored where
  | unfinished (shape : Shape) (tag : String) (place : Cursor)
  | finished (node : Node)

def Anchored.node : Anchored → Node
  | unfinished shape tag place => .around shape tag place
  | finished node => node

structure Reading where
  tokens : List Token
  fault : Option Fault
  handles : List (String × String) := []
  anchors : List (String × Anchored) := []

/-- A step of reading. -/
abbrev ReadM := StateT Reading (Except Fault)

namespace Reading

def standardHandles : List (String × String) := [("!", "!"), ("!!", "tag:yaml.org,2002:")]

/-- The next token. -/
def peek : ReadM Token := do
  let r ← get
  match r.tokens, r.fault with
  | t :: _, _ => return t
  | [], some f => throw f
  | [], none => return ⟨.streamEnd, Cursor.start [], Cursor.start []⟩

/-- Takes the next token. -/
def take : ReadM Token := do
  let t ← peek
  modify fun r => { r with tokens := r.tokens.drop 1 }
  return t

private def refuse {α : Type} (activity : Activity) (since : Cursor) (problem : Problem)
    (at_ : Cursor) : ReadM α :=
  throw (structureFault activity since problem at_)

/-- The anchor and tag in front of a node, and where they begin. -/
structure Properties where
  anchor : Option String := none
  tag : Option String := none
  start : Option Cursor := none

private def takeAnchor : ReadM (Option Token × Option String) := do
  let t ← peek
  match t.kind with
  | .anchor name => return (some (← take), some name)
  | _ => return (none, none)

private def takeTag : ReadM (Option (Token × Option String × String)) := do
  let t ← peek
  match t.kind with
  | .tag handle suffix => return some (← take, handle, suffix)
  | _ => return none

/-- The address that a handle and a suffix make. -/
private def address (since : Cursor) (t : Token) (handle : Option String) (suffix : String) :
    ReadM String := do
  match handle with
  | none => return suffix
  | some h =>
    match (← get).handles.lookup h with
    | some pre => return pre ++ suffix
    | none => refuse .node since (.undefinedHandle h) t.start

/-- Anchor and tag, in either order. -/
def properties : ReadM Properties := do
  let (first, anchor) ← takeAnchor
  let tag ← takeTag
  let (second, anchor') ← if first.isNone && tag.isSome then takeAnchor else pure (none, none)
  let start := match first, tag with
    | some t, _ => some t.start
    | none, some (t, _) => some t.start
    | none, none => second.map (·.start)
  match tag, start with
  | some (t, handle, suffix), some since =>
    return ⟨anchor.or anchor', some (← address since t handle suffix), start⟩
  | _, _ => return ⟨anchor.or anchor', none, start⟩

/-- The tag of a collection, which a lone exclamation mark leaves open. -/
private def collectionTag (tag : Option String) (default : String) : String :=
  match tag with
  | some t => if t = "!" then default else t
  | none => default

/-- The tag of a scalar: the one it is given, or by its spelling where it is bare. -/
private def scalarTag (tag : Option String) (value : String) (bare : Bool) : String :=
  match tag with
  | some t => if t = "!" then implicitTag value else t
  | none => if bare then implicitTag value else Tag.str

/-- Refuses an anchor that is there already. -/
private def reserve (anchor : Option String) (start : Cursor) : ReadM Unit := do
  match anchor with
  | none => return ()
  | some name =>
    match (← get).anchors.lookup name with
    | some a =>
      throw (.notice ⟨.references, some (.duplicateAnchor name), some a.node.place,
        .secondOccurrence, start⟩)
    | none => return ()

private def bindAnchor (anchor : Option String) (a : Anchored) : ReadM Unit :=
  match anchor with
  | none => return ()
  | some name => modify fun r => { r with anchors := (name, a) :: r.anchors }

/-- Reads a collection under its anchor. -/
private def underAnchor (anchor : Option String) (start : Cursor) (shape : Shape) (tag : String)
    (body : ReadM Node) : ReadM Node := do
  reserve anchor start
  bindAnchor anchor (.unfinished shape tag start)
  let node ← body
  bindAnchor anchor (.finished node)
  return node

private def scalarNode (p : Properties) (start : Cursor) (value : String) (bare : Bool) :
    ReadM Node := do
  reserve p.anchor start
  let node := Node.scalar (scalarTag p.tag value bare) value start
  bindAnchor p.anchor (.finished node)
  return node

/-- Where a node stands: whether blocks may begin there, and entries without indentation of their
own. -/
inductive Position where
  | flow
  | block
  | blockOrEntries
deriving DecidableEq, Repr

private def endsEntry : TokenKind → Bool
  | .blockEntry | .blockEnd => true
  | _ => false

private def endsField : TokenKind → Bool
  | .key | .value | .blockEnd => true
  | _ => false

private def endsDashed : TokenKind → Bool
  | .blockEntry | .key | .value | .blockEnd => true
  | _ => false

mutual

/-- A node. -/
def node : Nat → Position → ReadM Node
  | 0, _ => return .empty (← peek).start
  | fuel + 1, position => do
    let t ← peek
    match t.kind with
    | .reference name => do
      let t ← take
      match (← get).anchors.lookup name with
      | some a => return a.node
      | none => throw (.notice ⟨.references, none, none, .undefinedAlias name, t.start⟩)
    | _ => do
      let p ← properties
      let t ← peek
      let start := p.start.getD t.start
      let seqTag := collectionTag p.tag Tag.seq
      let mapTag := collectionTag p.tag Tag.map
      match t.kind, position with
      | .blockEntry, .blockOrEntries =>
        underAnchor p.anchor start .sequence seqTag do
          return .seq seqTag (← dashedEntries fuel) start
      | .scalar value bare, _ => do
        let _ ← take
        scalarNode p start value bare
      | .flowSequenceStart, _ =>
        underAnchor p.anchor start .sequence seqTag do
          let t ← take
          return .seq seqTag (← flowItems fuel t.start true) start
      | .flowMappingStart, _ =>
        underAnchor p.anchor start .mapping mapTag do
          let t ← take
          return .map mapTag (← flowFields fuel t.start true) start
      | .blockSequenceStart, .block | .blockSequenceStart, .blockOrEntries =>
        underAnchor p.anchor start .sequence seqTag do
          let t ← take
          return .seq seqTag (← blockEntries fuel t.start) start
      | .blockMappingStart, .block | .blockMappingStart, .blockOrEntries =>
        underAnchor p.anchor start .mapping mapTag do
          let t ← take
          return .map mapTag (← blockFields fuel t.start) start
      | kind, _ =>
        if p.anchor.isSome || p.tag.isSome then scalarNode p start "" (p.tag.isNone)
        else
          refuse (if position = .flow then .flowNode else .blockNode) start (.noContent kind.name)
            t.start

/-- The entries of an indented sequence. -/
def blockEntries : Nat → Cursor → ReadM (List Node)
  | 0, _ => return []
  | fuel + 1, since => do
    let t ← peek
    match t.kind with
    | .blockEntry => do
      let t ← take
      let item ←
        if endsEntry (← peek).kind then pure (Node.empty t.stop) else node fuel .block
      return item :: (← blockEntries fuel since)
    | .blockEnd => do
      let _ ← take
      return []
    | kind => refuse .blockCollection since (.noBlockEnd kind.name) t.start

/-- The entries of a sequence that is not indented more than the mapping around it. -/
def dashedEntries : Nat → ReadM (List Node)
  | 0 => return []
  | fuel + 1 => do
    let t ← peek
    match t.kind with
    | .blockEntry => do
      let t ← take
      let item ←
        if endsDashed (← peek).kind then pure (Node.empty t.stop) else node fuel .block
      return item :: (← dashedEntries fuel)
    | _ => return []

/-- The fields of an indented mapping. -/
def blockFields : Nat → Cursor → ReadM (List (Node × Node))
  | 0, _ => return []
  | fuel + 1, since => do
    let t ← peek
    match t.kind with
    | .key => do
      let t ← take
      let key ←
        if endsField (← peek).kind then pure (Node.empty t.stop) else node fuel .blockOrEntries
      let value ← blockValue fuel
      return (key, value) :: (← blockFields fuel since)
    | .blockEnd => do
      let _ ← take
      return []
    | kind => refuse .blockMapping since (.noBlockEnd kind.name) t.start

/-- The value of a field of an indented mapping. -/
def blockValue : Nat → ReadM Node
  | 0 => return .empty (← peek).start
  | fuel + 1 => do
    let t ← peek
    match t.kind with
    | .value => do
      let t ← take
      if endsField (← peek).kind then return .empty t.stop else node fuel .blockOrEntries
    | _ => return .empty t.start

/-- The items of a sequence in brackets. -/
def flowItems : Nat → Cursor → Bool → ReadM (List Node)
  | 0, _, _ => return []
  | fuel + 1, since, first => do
    let t ← peek
    match t.kind with
    | .flowSequenceEnd => do
      let _ ← take
      return []
    | kind => do
      if !first then
        match kind with
        | .flowEntry => let _ ← take
        | _ => refuse .flowSequence since (.noSequenceEnd kind.name) t.start
      let t ← peek
      match t.kind with
      | .flowSequenceEnd => do
        let _ ← take
        return []
      | .key => do
        let item ← flowPair fuel
        return item :: (← flowItems fuel since false)
      | _ => do
        let item ← node fuel .flow
        return item :: (← flowItems fuel since false)

/-- A single field that stands in a sequence in brackets, as a mapping of its own. -/
def flowPair : Nat → ReadM Node
  | 0 => return .empty (← peek).start
  | fuel + 1 => do
    let k ← take
    let key ←
      match (← peek).kind with
      | .value | .flowEntry | .flowSequenceEnd => pure (Node.empty k.stop)
      | _ => node fuel .flow
    let t ← peek
    let value ←
      match t.kind with
      | .value => do
        let v ← take
        match (← peek).kind with
        | .flowEntry | .flowSequenceEnd => pure (Node.empty v.stop)
        | _ => node fuel .flow
      | _ => pure (Node.empty t.start)
    let _ ← peek
    return .map Tag.map [(key, value)] k.start

/-- The fields of a mapping in braces. -/
def flowFields : Nat → Cursor → Bool → ReadM (List (Node × Node))
  | 0, _, _ => return []
  | fuel + 1, since, first => do
    let t ← peek
    match t.kind with
    | .flowMappingEnd => do
      let _ ← take
      return []
    | kind => do
      if !first then
        match kind with
        | .flowEntry => let _ ← take
        | _ => refuse .flowMapping since (.noMappingEnd kind.name) t.start
      let t ← peek
      match t.kind with
      | .flowMappingEnd => do
        let _ ← take
        return []
      | .key => do
        let k ← take
        let key ←
          match (← peek).kind with
          | .value | .flowEntry | .flowMappingEnd => pure (Node.empty k.stop)
          | _ => node fuel .flow
        let value ← flowValue fuel
        return (key, value) :: (← flowFields fuel since false)
      | _ => do
        let key ← node fuel .flow
        let value := Node.empty (← peek).start
        return (key, value) :: (← flowFields fuel since false)

/-- The value of a field of a mapping in braces. -/
def flowValue : Nat → ReadM Node
  | 0 => return .empty (← peek).start
  | fuel + 1 => do
    let t ← peek
    match t.kind with
    | .value => do
      let v ← take
      match (← peek).kind with
      | .flowEntry | .flowMappingEnd => return .empty v.stop
      | _ => node fuel .flow
    | _ => return .empty t.start

end

private def plainFault (problem : Problem) (at_ : Cursor) : Fault :=
  .notice ⟨.structure_, none, none, problem, at_⟩

/-- The directives in front of a document. -/
def directives : Nat → Bool → List (String × String) → ReadM Unit
  | 0, _, _ => return ()
  | fuel + 1, versioned, handles => do
    let t ← peek
    match t.kind with
    | .directive d => do
      let _ ← take
      match d with
      | .version major _ =>
        if versioned then throw (plainFault .duplicateVersion t.start)
        else if major ≠ 1 then throw (plainFault .foreignVersion t.start)
        else directives fuel true handles
      | .tag handle pre =>
        if (handles.lookup handle).isSome then throw (plainFault (.duplicateHandle handle) t.start)
        else directives fuel versioned ((handle, pre) :: handles)
      | .other => directives fuel versioned handles
    | _ => modify fun r => { r with handles := handles ++ standardHandles }

private def skipDocumentEnds : Nat → ReadM Unit
  | 0 => return ()
  | fuel + 1 => do
    match (← peek).kind with
    | .documentEnd => do
      let _ ← take
      skipDocumentEnds fuel
    | _ => return ()

/-- The mark of a document with its directives, if the text has one more; the place of the first. -/
def documentStart (fuel : Nat) : ReadM (Option Cursor) := do
  skipDocumentEnds fuel
  let t ← peek
  match t.kind with
  | .streamEnd => return none
  | _ => do
    directives fuel false []
    let m ← peek
    match m.kind with
    | .documentStart => do
      let _ ← take
      return some t.start
    | kind => throw (plainFault (.noDocumentStart kind.name) m.start)

/-- The content of a document after its mark. -/
private def documentContent (fuel : Nat) : ReadM Node := do
  let t ← peek
  match t.kind with
  | .directive _ | .documentStart | .documentEnd | .streamEnd => return .empty t.start
  | _ => node fuel .block

/-- The first document of a text. -/
private def firstDocument (fuel : Nat) : ReadM (Option Node) := do
  match (← peek).kind with
  | .directive _ | .documentStart | .streamEnd => do
    match ← documentStart fuel with
    | none => return none
    | some _ => return some (← documentContent fuel)
  | _ => do
    modify fun r => { r with handles := standardHandles }
    return some (← node fuel .block)

/-- The only document of a text; a second one is refused. -/
def single (fuel : Nat) : ReadM (Option Node) := do
  match ← firstDocument fuel with
  | none => return none
  | some root => do
    match (← peek).kind with
    | .documentEnd => let _ ← take
    | _ => pure ()
    match ← documentStart fuel with
    | none => return some root
    | some second =>
      throw (.notice ⟨.references, some .singleDocument, some root.place, .secondDocument, second⟩)

end Reading

/-- The tree of a text, unless the text is empty. -/
def Node.ofText (cs : List Char) : Except Fault (Option Node) :=
  let (tokens, fault) := tokensOf cs
  (Reading.single (tokens.length * 4 + 64) { tokens, fault }).map (·.1)

end ApiDrift.Yaml
