import ApiLint.Yaml.Node
import ApiLint.Yaml.Token.Lexer

/-!
# The node of a document

`Node.ofTokens` reads a text of one document: nothing at all, or directives, a node and the marks
around it. A text of comments alone has no node.

A name is given once. A reference inside the node it refers to would make the document infinite;
there it stands for an empty collection.
-/

namespace ApiLint.Yaml

/-- What a name refers to. -/
inductive Anchored
  | node (n : Node)
  /-- A collection that is still being read; for references inside it an empty one. -/
  | unfinished (n : Node)

/-- The reading of tokens: those that remain, the names given so far, and the short forms of
tags. -/
structure Composer where
  tokens : List Token
  anchors : List (List Char × Anchored)
  handles : List (List Char × List Char)

/-- The tag and the name written before a node. -/
structure Properties where
  anchor : Option (List Char)
  tag : Option (List Char)

namespace Composer

/-- The short forms of tags that are always known. -/
def defaultHandles : List (List Char × List Char) :=
  [("!".toList, "!".toList), ("!!".toList, Tag.lead)]

/-- The next token. -/
def peek (s : Composer) : Option Token := s.tokens.head?

/-- Whether one of some tokens comes next. -/
def sees (s : Composer) (ts : List Token) : Bool := s.peek.any ts.contains

/-- The reading after the next token. -/
def drop (s : Composer) : Composer := { s with tokens := s.tokens.tail }

/-- The error of a token that cannot stand here. -/
def unexpected (s : Composer) : ReadError :=
  match s.peek with
  | some (.broken e) => e
  | _ => .malformed

/-- The reading after a token that has to come next. -/
def expect (s : Composer) (t : Token) : Except ReadError Composer :=
  if s.peek = some t then .ok s.drop else .error s.unexpected

/-- Gives a node a name, which no node before it may have. -/
def bind (s : Composer) (anchor : Option (List Char)) (a : Anchored) :
    Except ReadError Composer :=
  match anchor with
  | some name =>
    if (s.anchors.lookup name).isSome then .error s.unexpected
    else .ok { s with anchors := (name, a) :: s.anchors }
  | none => .ok s

/-- Lets the name of a collection refer to it now that it is finished. -/
def finish (s : Composer) (anchor : Option (List Char)) (n : Node) : Composer :=
  match anchor with
  | some name => { s with anchors := (name, .node n) :: s.anchors }
  | none => s

/-- The node that a name refers to. -/
def resolve (s : Composer) (name : List Char) : Except ReadError Node :=
  match s.anchors.lookup name with
  | some (.node n) => .ok n
  | some (.unfinished n) => .ok n
  | none => .error .malformed

-- ---------------------------------------------------------------------------
-- Properties
-- ---------------------------------------------------------------------------

/-- The name that comes next, if there is one. -/
def anchor? (s : Composer) : Option (List Char) × Composer :=
  match s.peek with
  | some (.anchor name) => (some name, s.drop)
  | _ => (none, s)

/-- The full tag that comes next, if there is one. -/
def tag? (s : Composer) : Except ReadError (Option (List Char) × Composer) :=
  match s.peek with
  | some (.tag none text) => .ok (some text, s.drop)
  | some (.tag (some handle) text) => match s.handles.lookup handle with
    | some lead => .ok (some (lead ++ text), s.drop)
    | none => .error .malformed
  | _ => .ok (none, s)

/-- The name and the tag before a node, in either order. -/
def properties (s : Composer) : Except ReadError (Properties × Composer) := do
  let (anchor, s) := s.anchor?
  let (tag, s) ← s.tag?
  let (anchor, s) := match anchor, tag with
    | none, some _ => s.anchor?
    | anchor, _ => (anchor, s)
  return (⟨anchor, tag⟩, s)

end Composer

namespace Properties

/-- Whether the kind of a node is left to its form. -/
def isImplicit (p : Properties) : Bool := p.tag.all (· == ['!'])

/-- The tag of a collection. -/
def collectionTag (p : Properties) (kind : Tag) : Tag :=
  if p.isImplicit then kind else Tag.ofName (p.tag.getD [])

/-- The tag of a text. The form of a quoted one counts only if it is tagged with a bare mark. -/
def scalarTag (p : Properties) (plain : Bool) (text : List Char) : Tag :=
  match p.tag with
  | none => if plain then Tag.ofPlain text else .str
  | some tag => if tag = ['!'] then Tag.ofPlain text else Tag.ofName tag

end Properties

namespace Composer

/-- A text with its properties. -/
def scalar (s : Composer) (p : Properties) (plain : Bool) (text : List Char) :
    Except ReadError (Node × Composer) := do
  let n := .scalar (p.scalarTag plain text) text
  return (n, ← s.bind p.anchor (.node n))

/-- The tokens that end an entry of a mapping block. -/
def entryEnds : List Token := [.key, .value, .blockEnd]

-- ---------------------------------------------------------------------------
-- Nodes
-- ---------------------------------------------------------------------------

mutual

/-- A node. Blocks may start here only if `block` says so, and a sequence without indentation of its
own only if `indentless` does. -/
def node (block indentless : Bool) : (fuel : Nat) → Composer → Except ReadError (Node × Composer)
  | 0, _ => .error .malformed
  | fuel + 1, s => do
    if let some (.reference name) := s.peek then return (← s.resolve name, s.drop)
    let (p, s) ← s.properties
    let listTag := p.collectionTag .list
    let mapTag := p.collectionTag .map
    let list (items : Composer → Except ReadError (List Node × Composer)) (s : Composer) := do
      let (xs, s) ← items (← s.bind p.anchor (.unfinished (.sequence listTag [])))
      let n := Node.sequence listTag xs
      return (n, s.finish p.anchor n)
    let map (entries : Composer → Except ReadError (List (Node × Node) × Composer))
        (s : Composer) := do
      let (es, s) ← entries (← s.bind p.anchor (.unfinished (.mapping mapTag [])))
      let n := Node.mapping mapTag es
      return (n, s.finish p.anchor n)
    match s.peek with
    | some .blockEntry =>
      if indentless then list (indentlessItems fuel) s
      else if p.anchor.isSome || p.tag.isSome then s.scalar p true []
      else throw .malformed
    | some (.scalar plain text) => s.drop.scalar p plain text
    | some .flowSequence => list (flowItems true fuel) s.drop
    | some .flowMapping => map (flowEntries true fuel) s.drop
    | other =>
      if block && other = some .blockSequence then list (blockItems fuel) s.drop
      else if block && other = some .blockMapping then map (blockEntries fuel) s.drop
      else if p.anchor.isSome || p.tag.isSome then s.scalar p true []
      else throw s.unexpected

/-- A node, or the blank one where one of some tokens comes next. -/
def nodeOrBlank (block indentless : Bool) (ends : List Token) :
    (fuel : Nat) → Composer → Except ReadError (Node × Composer)
  | 0, _ => .error .malformed
  | fuel + 1, s => if s.sees ends then .ok (Node.blank, s) else node block indentless fuel s

/-- The items of an indented sequence, up to and with its end. -/
def blockItems : (fuel : Nat) → Composer → Except ReadError (List Node × Composer)
  | 0, _ => .error .malformed
  | fuel + 1, s => do
    if s.sees [.blockEntry] then
      let (n, s) ← nodeOrBlank true false [.blockEntry, .blockEnd] fuel s.drop
      let (ns, s) ← blockItems fuel s
      return (n :: ns, s)
    else return ([], ← s.expect .blockEnd)

/-- The items of a sequence without indentation of its own. -/
def indentlessItems : (fuel : Nat) → Composer → Except ReadError (List Node × Composer)
  | 0, _ => .error .malformed
  | fuel + 1, s => do
    if s.sees [.blockEntry] then
      let (n, s) ← nodeOrBlank true false (.blockEntry :: entryEnds) fuel s.drop
      let (ns, s) ← indentlessItems fuel s
      return (n :: ns, s)
    else return ([], s)

/-- The entries of an indented mapping, up to and with its end. -/
def blockEntries : (fuel : Nat) → Composer → Except ReadError (List (Node × Node) × Composer)
  | 0, _ => .error .malformed
  | fuel + 1, s => do
    if s.sees [.key] then
      let (k, s) ← nodeOrBlank true true entryEnds fuel s.drop
      let (v, s) ←
        if s.sees [.value] then nodeOrBlank true true entryEnds fuel s.drop
        else pure (Node.blank, s)
      let (es, s) ← blockEntries fuel s
      return ((k, v) :: es, s)
    else return ([], ← s.expect .blockEnd)

/-- A key of a flow collection, after its mark, and its value. -/
def flowPair (ends : List Token) :
    (fuel : Nat) → Composer → Except ReadError ((Node × Node) × Composer)
  | 0, _ => .error .malformed
  | fuel + 1, s => do
    let (k, s) ← nodeOrBlank false false (.value :: ends) fuel s
    let (v, s) ←
      if s.sees [.value] then nodeOrBlank false false ends fuel s.drop
      else pure (Node.blank, s)
    return ((k, v), s)

/-- The items of a flow sequence, up to and with its end. An item may be a mapping of one entry. -/
def flowItems (first : Bool) : (fuel : Nat) → Composer → Except ReadError (List Node × Composer)
  | 0, _ => .error .malformed
  | fuel + 1, s => do
    if s.sees [.flowSequenceEnd] then return ([], s.drop)
    let s ← if first then pure s else s.expect .flowEntry
    if s.sees [.flowSequenceEnd] then return ([], s.drop)
    let (n, s) ←
      if s.sees [.key] then do
        let (e, s) ← flowPair [.flowEntry, .flowSequenceEnd] fuel s.drop
        pure (Node.mapping .map [e], s)
      else node false false fuel s
    let (ns, s) ← flowItems false fuel s
    return (n :: ns, s)

/-- The entries of a flow mapping, up to and with its end. A key may stand alone. -/
def flowEntries (first : Bool) :
    (fuel : Nat) → Composer → Except ReadError (List (Node × Node) × Composer)
  | 0, _ => .error .malformed
  | fuel + 1, s => do
    if s.sees [.flowMappingEnd] then return ([], s.drop)
    let s ← if first then pure s else s.expect .flowEntry
    if s.sees [.flowMappingEnd] then return ([], s.drop)
    let (e, s) ←
      if s.sees [.key] then flowPair [.flowEntry, .flowMappingEnd] fuel s.drop
      else do
        let (k, s) ← node false false fuel s
        pure ((k, Node.blank), s)
    let (es, s) ← flowEntries false fuel s
    return (e :: es, s)

end

-- ---------------------------------------------------------------------------
-- Documents
-- ---------------------------------------------------------------------------

/-- Reads directives. There is at most one version, whose major number is 1, and a short form is
declared at most once. -/
def directives : (fuel : Nat) → (versioned : Bool) → Composer → Except ReadError Composer
  | 0, _, s => .ok s
  | fuel + 1, versioned, s =>
    match s.peek with
    | some (.directive d) =>
      match d with
      | .version major =>
        if versioned || major ≠ 1 then .error .malformed else directives fuel true s.drop
      | .shorthand handle lead =>
        if (s.handles.lookup handle).isSome then .error .malformed
        else directives fuel versioned { s.drop with handles := (handle, lead) :: s.handles }
      | .other => directives fuel versioned s.drop
    | _ => .ok s

/-- The reading after marks of the end of a document. -/
def skipEnds (s : Composer) : Composer :=
  { s with tokens := s.tokens.dropWhile (· == .documentEnd) }

/-- The rest of a document after its node: nothing but the mark of its end may follow. -/
def close (s : Composer) : Except ReadError Unit :=
  if s.skipEnds.tokens.isEmpty then .ok () else .error s.skipEnds.unexpected

/-- The node of a document that has one. -/
def document (s : Composer) : Except ReadError (Option Node) := do
  let fuel := 3 * s.tokens.length + 3
  match s.peek with
  | none => return none
  | some (.directive _) | some .documentStart =>
    let s ← directives s.tokens.length false s
    let s ← s.expect .documentStart
    let s := { s with handles := s.handles ++ defaultHandles }
    let (n, s) ← match s.peek with
      | none | some (.directive _) | some .documentStart | some .documentEnd =>
        pure (Node.blank, s)
      | _ => node true false fuel s
    s.close
    return some n
  | _ =>
    let (n, s) ← node true false fuel { s with handles := defaultHandles }
    s.close
    return some n

end Composer

/-- The node of a text, if it has one. -/
def Node.ofTokens (tokens : List Token) : Except ReadError (Option Node) :=
  Composer.document ⟨tokens, [], []⟩

end ApiLint.Yaml
