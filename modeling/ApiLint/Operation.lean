import ApiLint.Log

/-!
# Operations of a document

The operations stand under `paths`, each under a path and a method. `Operation.encounters` passes
over them in document order and says of each entry it stops at what it is: an extension, an
operation that opted out, or an operation to check. Entries that are neither are passed silently.

Paths and methods are texts of keys, and a key without text ends the passage with a fault at its
place.
-/

namespace ApiLint

/-- An operation with its path and method. Rules can be asked about any method text; a document
yields only those in `Operation.methods`. -/
structure Operation where
  path : String
  method : String
  fields : Entries
  /-- The position of the path among the entries of `paths`. -/
  pathIndex : Nat
  /-- The position of the method among the entries of its path item. -/
  methodIndex : Nat

/-- What a passage over a document stops at. -/
inductive Encounter
  | extension (path : String)
  | excluded (method path : String)
  | operation (op : Operation)

namespace Operation

/-- The keys of a path item that hold operations. -/
def methods : List String := ["get", "head", "post", "put", "patch", "delete", "options"]

/-- How the key of an extension begins. -/
def extensionMark : String := "x-"

/-- The key by which an operation opts out. -/
def excludeKey : String := "x-sdk-exclude"

/-- Whether an operation opts out: only the truth value itself counts. -/
def isExcluded (fields : Entries) : Bool :=
  match fields.field? excludeKey with
  | some (.bool true) => true
  | _ => false

/-- What stands at an entry of a path item. -/
def encounterAt (path : String) (pathIndex methodIndex : Nat) (entry : Key × Value) :
    Option (Except Fault Encounter) :=
  match entry.1.text with
  | .error fault => some (.error fault)
  | .ok method =>
    match methods.contains method, entry.2 with
    | true, .map fields =>
      if isExcluded fields then some (.ok (.excluded method path))
      else some (.ok (.operation ⟨path, method, fields, pathIndex, methodIndex⟩))
    | _, _ => none

/-- What is met in a path item. -/
def encountersIn (path : String) (pathIndex : Nat) (item : Entries) :
    List (Except Fault Encounter) :=
  item.zipIdx.filterMap fun (entry, methodIndex) => encounterAt path pathIndex methodIndex entry

/-- What is met at an entry of `paths`. -/
def encountersAt (pathIndex : Nat) (entry : Key × Value) : List (Except Fault Encounter) :=
  match entry.1.text with
  | .error fault => [.error fault]
  | .ok path =>
    if path.startsWith extensionMark then [.ok (.extension path)]
    else match entry.2 with
      | .map item => encountersIn path pathIndex item
      | _ => []

/-- The entries of `paths`, if it is a mapping. -/
def pathEntries (document : Entries) : Entries :=
  match document.field? "paths" with
  | some (.map es) => es
  | _ => []

/-- What is met in a document, in document order. -/
def encounters (document : Entries) : List (Except Fault Encounter) :=
  (pathEntries document).zipIdx.flatMap fun (entry, pathIndex) => encountersAt pathIndex entry

end Operation

namespace Encounter

/-- The operation to check at an encounter. -/
def operation? : Encounter → Option Operation
  | .operation op => some op
  | _ => none

/-- What the log says about an encounter. -/
def event? : Encounter → Option LogEvent
  | .extension path => some (.extensionSkipped path)
  | .excluded method path => some (.operationExcluded method path)
  | .operation _ => none

end Encounter

end ApiLint
