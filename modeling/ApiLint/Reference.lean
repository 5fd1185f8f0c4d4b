import ApiLint.Pointer

/-!
# References

A mapping with a `$ref` stands for another value. `Reference.resolve` follows one reference by one
hop and never fetches anything: a reference that leaves the document stands for an empty mapping,
and one to a place that does not exist for null.
-/

namespace ApiLint.Reference

/-- The key that makes a mapping a reference. -/
def key : String := "$ref"

/-- The pointer of a reference into the same document. -/
def local? : Value → Option String
  | .str s => if s.startsWith Pointer.marker then some s else none
  | _ => none

/-- The value that a node stands for in a document. -/
def resolve (node document : Value) : Except Fault Value :=
  match node.field? key with
  | none => .ok node
  | some target =>
    match local? target with
    | some pointer => Pointer.lookup document (Pointer.segments pointer)
    | none => .ok (.map [])

end ApiLint.Reference
