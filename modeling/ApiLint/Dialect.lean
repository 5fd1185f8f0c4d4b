import ApiLint.Value.Text

/-!
# Dialects of API descriptions

A description names its dialect and version in a field of its own. `DialectVersion.of` finds it and
refuses versions that are not supported.
-/

namespace ApiLint

/-- A dialect of API descriptions. -/
inductive Dialect
  | swagger
  | openapi
deriving DecidableEq

namespace Dialect

/-- The dialects in the order in which their fields are looked for. -/
def all : List Dialect := [.swagger, .openapi]

/-- The field that holds the version. -/
def field : Dialect → String
  | .swagger => "swagger"
  | .openapi => "openapi"

/-- The name of a dialect. -/
def label : Dialect → String
  | .swagger => "Swagger"
  | .openapi => "OpenAPI"

/-- How supported versions begin. -/
def lead : Dialect → List Char
  | .swagger => ['2', '.']
  | .openapi => ['3', '.']

end Dialect

/-- A dialect and a supported version of it. -/
structure DialectVersion where
  dialect : Dialect
  version : String

/-- Why a document has no supported version. -/
inductive DialectError
  | unsupported (dialect : Dialect) (version : String)
  | missing
  /-- The version has no text. -/
  | fault (f : Fault)

namespace DialectVersion

/-- The field of the dialect and the version. -/
def text (v : DialectVersion) : String := v.dialect.field ++ " " ++ v.version

/-- The version under the field of a dialect. -/
def check (d : Dialect) (value : Value) : Except DialectError DialectVersion :=
  match value.text with
  | .error f => .error (.fault f)
  | .ok version =>
    if d.lead.isPrefixOf version.toList then .ok ⟨d, version⟩
    else .error (.unsupported d version)

/-- The version of a document, by the first field that is there. -/
def find (document : Entries) : List Dialect → Except DialectError DialectVersion
  | [] => .error .missing
  | d :: ds => match document.field? d.field with
    | some value => check d value
    | none => find document ds

/-- The version of a document. -/
def of (document : Entries) : Except DialectError DialectVersion := find document Dialect.all

end DialectVersion

end ApiLint
