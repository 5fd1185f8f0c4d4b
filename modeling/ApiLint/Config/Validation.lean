import ApiLint.Config
import ApiLint.Text.CodePoint
import ApiLint.Value.Kind
import ApiLint.Value.Text

/-!
# Accepting configurations

Plain data is a configuration if its `operations`, where it has any, is a mapping that gives a
severity, and nothing else, to every rule it names. Rules that it does not name keep their shipped
severity, other keys of that mapping are dropped, and all other sections are kept as they are.
The names of the sections have to be texts, and a file can spell strings that are none.

* `Config.ofValue` accepts or refuses a whole configuration, `Severities.ofValue` the mapping alone,
  and `Config.ofObject` an object whose names may be no texts;
* `Rejection` lists everything that is wrong, rule by rule, and `Rejection.message` words it.
-/

namespace ApiLint

/-- One thing that is wrong with data. -/
inductive ConfigProblem
  /-- The value at a place is no severity. -/
  | severity (place : String) (kind : String)
  /-- What should be a mapping is none; without a place it is the whole of the data. -/
  | mapping (place : Option String) (model : String) (kind : String)
  /-- A section is named by something other than a string. -/
  | sectionKey (key : Key)
  /-- A section is named by a string that is no text. Nothing else is reported then. -/
  | sectionName

/-- Data that is no configuration. -/
structure Rejection where
  /-- What the data should have been. -/
  model : String
  problems : List ConfigProblem

namespace ConfigProblem

/-- Where a section with a key that is no text is reported. -/
def keyPlace : Key → Except Fault String
  | .scalar (.bool b) => .ok (if b then "1" else "0")
  | .int n => Decimal.integerText n
  | k => do
    let text ← k.literal
    return if text.toList.contains '.' then "`" ++ text ++ "`" else text

/-- The lines about a problem: its place, if it has one, and what is wrong. -/
def lines : ConfigProblem → Except Fault (List String)
  | .severity place kind =>
    .ok [place,
      "  Input should be 'error', 'warning' or 'off' [type=enum, input_type=" ++ kind ++ "]"]
  | .mapping place model kind =>
    .ok (place.toList ++
      ["  Input should be a valid dictionary or instance of " ++ model ++
        " [type=model_type, input_type=" ++ kind ++ "]"])
  | .sectionKey key => do
    return [← keyPlace key,
      "  Keys should be strings [type=invalid_key, input_type=" ++ key.kind ++ "]"]
  | .sectionName =>
    .ok ["  Input should be a valid string, unable to parse raw data as a unicode string " ++
      "[type=string_unicode, input_type=str]"]

end ConfigProblem

namespace Rejection

/-- All problems under a headline that counts them. -/
def message (r : Rejection) : Except Fault String := do
  let count := r.problems.length
  let headline := Decimal.ofNat count ++ " validation error" ++ (if count = 1 then "" else "s") ++
    " for " ++ r.model
  return "\n".intercalate (headline :: (← r.problems.mapM ConfigProblem.lines).flatten)

end Rejection

namespace Severities

/-- The model name of a mapping of severities. -/
def model : String := "OperationsConfig"

/-- The severity that data gives a rule, the shipped one if it does not name the rule; nothing if
it gives something else. -/
def given? (es : Entries) (rule : Rule) : Option Severity :=
  match es.field? rule.key with
  | none => some (default.of rule)
  | some (.str s) => Severity.ofName? s
  | some _ => none

/-- What is wrong with the severities of data. The places are the rule keys after a lead. -/
def problems (lead : String) (es : Entries) : List ConfigProblem :=
  Rule.all.filterMap fun rule =>
    match given? es rule with
    | some _ => none
    | none => some (.severity (lead ++ rule.key) ((es.field? rule.key).getD .null).kind)

/-- The severities of data, as far as it gives any. -/
def ofEntries (es : Entries) : Severities := ofFun fun rule => (given? es rule).getD .off

/-- The severities that data spells out. -/
def ofValue (data : Value) : Except Rejection Severities :=
  match data with
  | .map es =>
    match problems "" es with
    | [] => .ok (ofEntries es)
    | ps => .error ⟨model, ps⟩
  | v => .error ⟨model, [.mapping none model v.kind]⟩

end Severities

namespace Config

/-- The model name of a configuration. -/
def model : String := "LintConfig"

/-- The sections of data other than the severities. -/
def extrasOf (es : Entries) : Entries := es.filter fun e => !(Key.str operationsKey).same e.1

/-- What is wrong with the sections of data. -/
def problems (es : Entries) : List ConfigProblem :=
  let operations := match es.field? operationsKey with
    | none => []
    | some (.map ops) => Severities.problems (operationsKey ++ ".") ops
    | some v => [.mapping (some operationsKey) Severities.model v.kind]
  let keys := es.filterMap fun e => match e.1 with
    | .str _ => none
    | k => some (.sectionKey k)
  operations ++ keys

/-- The configuration that data spells out. -/
def ofValue (data : Value) : Except Rejection Config :=
  match data with
  | .map es =>
    match problems es with
    | [] =>
      let operations := match Entries.field? es operationsKey with
        | some (.map ops) => Severities.ofEntries ops
        | _ => Severities.default
      .ok ⟨operations, extrasOf es⟩
    | ps => .error ⟨model, ps⟩
  | v => .error ⟨model, [.mapping none model v.kind]⟩

/-- The configuration that an object spells out whose members have these names. A name that is no
text is found before anything else is looked at. -/
def ofObject (names : List (List Text.CodePoint)) (es : Entries) : Except Rejection Config :=
  if names.all Text.CodePoint.isText then ofValue (.map es) else .error ⟨model, [.sectionName]⟩

end Config

end ApiLint
