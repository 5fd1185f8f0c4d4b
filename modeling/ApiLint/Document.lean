import ApiLint.Json.Reader
import ApiLint.Value.Kind
import ApiLint.Yaml.Reader

/-!
# Documents

The text of an API description is JSON or YAML. Whoever knows which says so by a hint; without one
JSON is tried first and YAML second. Either way the document has to be a mapping.

* `Document.parse` takes the two readers as arguments, `Document.read` uses the library's own;
* `DocumentError` is a text without a document: `refused` for a reason, or `fault` when a conversion
  inside a reader fails.
-/

namespace ApiLint

/-- The format that a source announces. -/
inductive FormatHint
  | json
  | yaml
  | none
deriving DecidableEq

namespace FormatHint

/-- The name of a hint. -/
def name : FormatHint → String
  | .json => "json"
  | .yaml => "yaml"
  | .none => "none"

/-- The hint with a name; other names count as none. -/
def ofName : String → FormatHint
  | "json" => .json
  | "yaml" => .yaml
  | _ => .none

end FormatHint

/-- Why a reader found no value: the text has not its format, or a conversion failed. -/
inductive FormatError (α : Type)
  | malformed (complaint : α)
  | conversion (fault : Fault)

/-- Readers of the two formats. The one of YAML does not say what is wrong with a text. -/
structure Formats where
  json : String → Except (FormatError String) Value
  yaml : String → Except (FormatError Unit) Value

namespace Formats

/-- The reader of JSON. -/
def readJson (text : String) : Except (FormatError String) Value :=
  match Json.read text with
  | .ok v => .ok v
  | .error (.malformed problem rest) => .error (.malformed (Json.complaint text problem rest))
  | .error (.conversion fault) => .error (.conversion fault)

/-- The reader of YAML. -/
def readYaml (text : String) : Except (FormatError Unit) Value :=
  match Yaml.read text with
  | .ok v => .ok v
  | .error .malformed => .error (.malformed ())
  | .error (.conversion fault) => .error (.conversion fault)

/-- The library's own readers. -/
def standard : Formats := ⟨readJson, readYaml⟩

end Formats

namespace Document

/-- Why a text is no document. -/
inductive Refusal
  /-- It should have been JSON. -/
  | notJson (complaint : String)
  /-- It is neither format; if JSON was tried, this is the complaint. -/
  | neither (json : Option String)
  /-- It is not a mapping but a value of another kind. -/
  | notMapping (kind : String)
deriving DecidableEq

namespace Refusal

/-- What is reported. -/
def message : Refusal → String
  | .notJson complaint => "Invalid JSON: " ++ complaint
  | .neither json =>
    "\n".intercalate ("Failed to parse spec as JSON or YAML" ::
      (json.toList.map fun complaint => "  JSON error: " ++ complaint) ++ ["  YAML error:"])
  | .notMapping kind => "Spec must be a JSON/YAML object (got " ++ kind ++ ")"

end Refusal

end Document

/-- Why a text yields no document. -/
inductive DocumentError
  | refused (r : Document.Refusal)
  | fault (f : Fault)

namespace Document

/-- The entries of a mapping. Any other value is refused by its kind. -/
def requireMapping : Value → Except DocumentError Entries
  | .map es => .ok es
  | .null => .error (.refused (.notMapping "empty document"))
  | v => .error (.refused (.notMapping v.kind))

/-- The document of a text in YAML, given the complaint of an attempt at JSON before. -/
def parseYaml (formats : Formats) (json : Option String) (text : String) :
    Except DocumentError Entries :=
  match formats.yaml text with
  | .ok v => requireMapping v
  | .error (.malformed ()) => .error (.refused (.neither json))
  | .error (.conversion fault) => .error (.fault fault)

/-- The document of a text. JSON that is not a mapping is refused and not tried again. -/
def parse (formats : Formats) (hint : FormatHint) (text : String) : Except DocumentError Entries :=
  if hint = .yaml then parseYaml formats none text
  else match formats.json text with
    | .ok v => requireMapping v
    | .error (.conversion fault) => .error (.fault fault)
    | .error (.malformed complaint) =>
      if hint = .json then .error (.refused (.notJson complaint))
      else parseYaml formats (some complaint) text

/-- The document of a text, by the library's own readers. -/
def read (hint : FormatHint) (text : String) : Except DocumentError Entries :=
  parse .standard hint text

end Document

end ApiLint
