import ApiLint.Rule
import ApiLint.Finding
import ApiLint.Operation
import ApiLint.Presence
import ApiLint.Reference

/-!
# Applying a rule

`Rule.places` lists the places in an operation where it violates a rule, and `Rule.check` the
findings there. A rule knows nothing of severities. References are followed by one hop in the whole
document; beyond that a rule looks at the operation and at the two defaults of the document root.

* `isMissing` decides the four rules about a declaration that has to be there;
* `arrayResponses` lists the answers that are arrays;
* `lateRequired` lists the required parameters that come after an optional one.
-/

namespace ApiLint

namespace Operation

/-- A place in an operation, as the keys that lead to it joined by dots. -/
def place (op : Operation) (fields : List String) : String :=
  ".".intercalate ("paths" :: op.path :: op.method :: fields)

end Operation

namespace Rule

/-- Whether the document root supplies a default for a field. A list or mapping does even if it is
empty, any other value unless it is empty, zero, false or null. -/
def isDeclared (document : Entries) (field : String) : Bool :=
  match document.field? field with
  | none => false
  | some (.scalar s) => match s with
    | .null => false
    | .bool b => b
    | .int n => n != 0
    | .float x => x.toInt? != some 0
    | .str s => !s.isEmpty
    | .bytes bs => !bs.isEmpty
    | .date _ => true
    | .time _ => true
  | some (.set items) => !items.isEmpty
  | some _ => true

/-- Whether neither an operation nor the document root declares a field with content. -/
def isMissing (document : Entries) (op : Operation) (field : String) : Except Fault Bool := do
  return (← Presence.ofField op.fields field) != .nonEmpty && !isDeclared document field

/-- Whether a value is a mapping that describes an array. -/
def isArraySchema (v : Value) : Bool :=
  match v.field? "type" with
  | some (.str s) => s == "array"
  | _ => false

/-- Whether the schema of an answer, followed by one hop, describes an array. -/
def answersArray (document response : Value) : Except Fault Bool :=
  match response.field? "schema" with
  | none | some .null => .ok false
  | some schema => isArraySchema <$> Reference.resolve schema document

/-- The names of the answers that are arrays. -/
def arrayResponses (document : Value) : Entries → Except Fault (List String)
  | [] => .ok []
  | (name, response) :: rest => do
    let isArray ← answersArray document response
    if isArray then return (← name.text) :: (← arrayResponses document rest)
    else arrayResponses document rest

/-- Whether a parameter is required: it says so with the truth value itself. -/
def isRequired (parameter : Value) : Bool :=
  match parameter.field? "required" with
  | some (.bool true) => true
  | _ => false

/-- The positions, counted from `index`, of required parameters after an optional one. A parameter
that stands for null is neither. -/
def lateRequired (document : Value) (optionalSeen : Bool) (index : Nat) :
    List Value → Except Fault (List Nat)
  | [] => .ok []
  | raw :: rest => do
    match ← Reference.resolve raw document with
    | .null => lateRequired document optionalSeen (index + 1) rest
    | parameter =>
      if isRequired parameter then
        let later ← lateRequired document optionalSeen (index + 1) rest
        return if optionalSeen then index :: later else later
      else lateRequired document true (index + 1) rest

/-- The places where an operation violates a rule. -/
def places (rule : Rule) (document : Entries) (op : Operation) : Except Fault (List String) :=
  match rule with
  | .writeConsumes => do
    if op.method ≠ "put" ∧ op.method ≠ "post" then return []
    return if ← isMissing document op "consumes" then [op.place ["consumes"]] else []
  | .readConsumes => do
    if op.method ≠ "get" then return []
    match op.fields.field? "consumes" with
    | none | some .null => return []
    | some _ => return [op.place ["consumes"]]
  | .produces => do
    if op.method = "head" then return []
    return if ← isMissing document op "produces" then [op.place ["produces"]] else []
  | .operationId => do
    if (← Presence.ofField op.fields "operationId") = .nonEmpty then return []
    return [op.place ["operationId"]]
  | .summary => do
    if (← Presence.ofField op.fields "summary") = .nonEmpty then return []
    return [op.place ["summary"]]
  | .arrayResponse => do
    if op.method ≠ "get" then return []
    match op.fields.field? "responses" with
    | some (.map responses) =>
      let names ← arrayResponses (.map document) responses
      return names.map fun name => op.place ["responses", name, "schema"]
    | _ => return []
  | .parameterOrder => do
    match (op.fields.field? "parameters").bind Value.items? with
    | some parameters =>
      let positions ← lateRequired (.map document) false 0 parameters
      return positions.map fun i => op.place ["parameters"] ++ "[" ++ Decimal.ofNat i ++ "]"
    | none => return []

/-- The findings of a rule in an operation. -/
def check (rule : Rule) (document : Entries) (op : Operation) : Except Fault (List Finding) := do
  return (← rule.places document op).map fun path => ⟨path, rule.message⟩

end Rule

end ApiLint
