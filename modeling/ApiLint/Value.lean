import ApiLint.Fault

/-!
# Document values

What a loaded document consists of. Mappings keep their entries in order; their keys are scalars or
tuples of keys, so that a key that cannot be looked up cannot be written.

* `Key.same` says when two keys address one entry: integers, doubles and truth values by their exact
  numeric value, times with a known zone by the instant they name;
* `Entries.get?`, `Entries.insert` and `Entries.ofPairs` read and build mappings;
* `Value.asKey?` and `Key.toValue` pass between values and keys.
-/

namespace ApiLint

/-- A value without parts. -/
inductive Scalar
  | null
  | bool (b : Bool)
  | int (n : Int)
  | float (x : Binary64)
  | str (s : String)
  | bytes (bs : List UInt8)
  | date (d : Date)
  | time (t : DateTime)
deriving DecidableEq, Inhabited

/-- What an entry of a mapping or an element of a set is addressed by. -/
inductive Key
  | scalar (s : Scalar)
  | tuple (items : List Key)

/-- A value of a document. -/
inductive Value
  | scalar (s : Scalar)
  | list (items : List Value)
  | tuple (items : List Value)
  | set (items : List Key)
  | map (entries : List (Key × Value))

/-- The entries of a mapping, in order. -/
abbrev Entries := List (Key × Value)

instance : Inhabited Key := ⟨.scalar .null⟩
instance : Inhabited Value := ⟨.scalar .null⟩

namespace Key

/-- A text key. -/
@[match_pattern] abbrev str (s : String) : Key := .scalar (.str s)

/-- An integer key. -/
@[match_pattern] abbrev int (n : Int) : Key := .scalar (.int n)

end Key

namespace Value

@[match_pattern] abbrev null : Value := .scalar .null
@[match_pattern] abbrev bool (b : Bool) : Value := .scalar (.bool b)
@[match_pattern] abbrev int (n : Int) : Value := .scalar (.int n)
@[match_pattern] abbrev float (x : Binary64) : Value := .scalar (.float x)
@[match_pattern] abbrev str (s : String) : Value := .scalar (.str s)
@[match_pattern] abbrev bytes (bs : List UInt8) : Value := .scalar (.bytes bs)

end Value

-- ---------------------------------------------------------------------------
-- Sameness of keys
-- ---------------------------------------------------------------------------

namespace Scalar

/-- What a scalar key is compared by. -/
inductive Address
  | null
  | number (n : Int)
  | float (x : Binary64)
  | str (s : String)
  | bytes (bs : List UInt8)
  | date (d : Date)
  | clock (t : DateTime)
  | instant (microseconds : Int)
deriving DecidableEq

/-- The address of a scalar. Truth values count as 0 and 1, and a double that is whole as that
integer. -/
def address : Scalar → Address
  | .null => .null
  | .bool b => .number (if b then 1 else 0)
  | .int n => .number n
  | .float x => match x.toInt? with
    | some n => .number n
    | none => .float x
  | .str s => .str s
  | .bytes bs => .bytes bs
  | .date d => .date d
  | .time t => match t.instant? with
    | some i => .instant i
    | none => .clock t

end Scalar

namespace Key

mutual

/-- Whether two keys address the same entry. -/
def same : Key → Key → Bool
  | .scalar a, .scalar b => decide (a.address = b.address)
  | .tuple as, .tuple bs => sameItems as bs
  | _, _ => false

/-- Whether two lists of keys are of one length and agree item by item. -/
def sameItems : List Key → List Key → Bool
  | [], [] => true
  | a :: as, b :: bs => same a b && sameItems as bs
  | _, _ => false

end

end Key

-- ---------------------------------------------------------------------------
-- Mappings
-- ---------------------------------------------------------------------------

namespace Entries

/-- The value at a key. -/
def get? (es : Entries) (k : Key) : Option Value :=
  (es.find? fun e => k.same e.1).map (·.2)

/-- The value at a text key. -/
def field? (es : Entries) (name : String) : Option Value := es.get? (.str name)

/-- Puts a value at a key. A key that is there already keeps its spelling and its place. -/
def insert : Entries → Key → Value → Entries
  | [], k, v => [(k, v)]
  | (k', v') :: es, k, v =>
    if k.same k' then (k', v) :: es else (k', v') :: insert es k v

/-- The mapping that pairs build when they are put in one after the other. -/
def ofPairs (pairs : List (Key × Value)) : Entries :=
  pairs.foldl (fun es (k, v) => insert es k v) []

end Entries

/-- Adds an element to a set. -/
def Key.insertInto (items : List Key) (k : Key) : List Key :=
  if items.any k.same then items else items ++ [k]

-- ---------------------------------------------------------------------------
-- Values and keys
-- ---------------------------------------------------------------------------

mutual

/-- A key as a value. -/
def Key.toValue : Key → Value
  | .scalar s => .scalar s
  | .tuple items => .tuple (Key.toValues items)

/-- Keys as values. -/
def Key.toValues : List Key → List Value
  | [] => []
  | k :: ks => k.toValue :: Key.toValues ks

end

mutual

/-- The key that a value can serve as: only scalars and tuples of keys can. -/
def Value.asKey? : Value → Option Key
  | .scalar s => some (.scalar s)
  | .tuple items => (Value.asKeys? items).map .tuple
  | _ => none

/-- The keys that all of these values can serve as. -/
def Value.asKeys? : List Value → Option (List Key)
  | [] => some []
  | v :: vs => do
    let k ← v.asKey?
    let ks ← Value.asKeys? vs
    return k :: ks

end

namespace Value

/-- The value at a text key of a mapping; nothing for any other value. -/
def field? (v : Value) (name : String) : Option Value :=
  match v with
  | .map es => Entries.field? es name
  | _ => none

/-- The items of a list or tuple. -/
def items? : Value → Option (List Value)
  | .list items => some items
  | .tuple items => some items
  | _ => none

end Value

end ApiLint
