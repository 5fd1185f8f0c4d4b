import ApiLint.Yaml.Node.Composer
import ApiLint.Yaml.Tag.Conversion

/-!
# Reading YAML

`Yaml.read` yields the value of a text with at most one document; a text without one is null.

A document may hold several nodes without a value. The one that stands least deep is reported, and
of equally deep ones the first: `DeepError` is an error with its depth, and `both` joins results.
-/

namespace ApiLint.Yaml

/-- An error, and how far below the top of the document it stands. -/
structure DeepError where
  depth : Nat
  error : ReadError

/-- The error that stands less deep; the first one if they stand equally deep. -/
def DeepError.outer (a b : DeepError) : DeepError := if b.depth < a.depth then b else a

/-- Two results at once; of two errors the outer one. -/
def both {α β : Type} (a : Except DeepError α) (b : Except DeepError β) :
    Except DeepError (α × β) :=
  match a, b with
  | .ok x, .ok y => .ok (x, y)
  | .error e, .ok _ => .error e
  | .ok _, .error f => .error f
  | .error e, .error f => .error (e.outer f)

/-- Many results at once; of several errors the outer one. -/
def every {α : Type} : List (Except DeepError α) → Except DeepError (List α)
  | [] => .ok []
  | r :: rs => (fun (x, xs) => x :: xs) <$> both r (every rs)

namespace Node

mutual

/-- The text that a node stands for: its own, or the one that a mapping keeps for itself. -/
def text? : Node → Option (List Char)
  | .scalar _ text => some text
  | .sequence _ _ => none
  | .mapping _ entries => ownText? entries

/-- The text that entries keep for their mapping. -/
def ownText? : List (Node × Node) → Option (List Char)
  | [] => none
  | (k, v) :: es => if k.tag = .self then v.text? else ownText? es

end

/-- An entry of a mapping whose nodes stand at a depth. Its key has to be one that can be looked
up. -/
def entry (inner : Node → Except DeepError Value) (depth : Nat) (e : Node × Node) :
    Except DeepError (Key × Value) :=
  match inner e.1 with
  | .error f => .error (f.outer ⟨depth, .malformed⟩)
  | .ok k => match k.asKey? with
    | none => .error ⟨depth, .malformed⟩
    | some k => both (.ok k) (inner e.2)

/-- The entries of a mapping, merged ones first. -/
def entries (inner : Node → Except DeepError Value) (depth : Nat) :
    Node → Except DeepError (List (Key × Value))
  | .mapping _ es => match flatten es with
    | none => .error ⟨depth, .malformed⟩
    | some es => every (es.map (entry inner depth))
  | _ => .error ⟨depth, .malformed⟩

/-- The only entry of a mapping, as a pair. -/
def pair (inner : Node → Except DeepError Value) (depth : Nat) : Node → Except DeepError Value
  | .mapping _ [(k, v)] => (fun (k, v) => .tuple [k, v]) <$> both (inner k) (inner v)
  | _ => .error ⟨depth, .malformed⟩

/-- What `each` makes of the items of a sequence. -/
def items (each : Node → Except DeepError Value) (depth : Nat) :
    Node → Except DeepError (List Value)
  | .sequence _ ns => every (ns.map each)
  | _ => .error ⟨depth, .malformed⟩

/-- The value of a node that stands at a depth. What a collection holds stands one deeper. -/
def valueAt : (fuel depth : Nat) → Node → Except DeepError Value
  | 0, depth, _ => .error ⟨depth, .malformed⟩
  | fuel + 1, depth, n =>
    let below := depth + 1
    let inner := valueAt fuel below
    match n.tag with
    | .list => .list <$> items inner below n
    | .orderedMap | .pairs => .list <$> items (pair inner below) below n
    | .map => (fun es => .map (Entries.ofPairs es)) <$> entries inner below n
    | .set => (fun es => .set ((es.map (·.1)).foldl Key.insertInto [])) <$> entries inner below n
    | tag => match n.text?.elim (.error .malformed) tag.toScalar with
      | .ok s => .ok (.scalar s)
      | .error e => .error ⟨depth, e⟩

/-- The value of a node. -/
def toValue (n : Node) : Except ReadError Value :=
  match valueAt n.height 0 n with
  | .ok v => .ok v
  | .error e => .error e.error

end Node

/-- The value of a text. -/
def readChars (text : List Char) : Except ReadError Value := do
  match ← Node.ofTokens (Token.ofText text) with
  | some n => n.toValue
  | none => return .null

/-- The value of a text. -/
def read (text : String) : Except ReadError Value := readChars text.toList

end ApiLint.Yaml
