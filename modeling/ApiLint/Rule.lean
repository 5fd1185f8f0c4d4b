/-!
# Rules

The seven conventions for operations, with the key by which a configuration names each, the
description that a listing shows and the message of its findings. `Rule.all` is the order in which
the rules are applied.
-/

namespace ApiLint

/-- A convention for operations. -/
inductive Rule
  /-- PUT and POST declare what they consume. -/
  | writeConsumes
  /-- GET does not declare what it consumes. -/
  | readConsumes
  /-- All but HEAD declare what they produce. -/
  | produces
  /-- Every operation has an identifier. -/
  | operationId
  /-- Every operation has a summary. -/
  | summary
  /-- GET does not answer with an array. -/
  | arrayResponse
  /-- Required parameters come first. -/
  | parameterOrder
deriving DecidableEq, Inhabited

namespace Rule

/-- All rules, in the order in which they are applied. -/
def all : List Rule :=
  [.writeConsumes, .readConsumes, .produces, .operationId, .summary, .arrayResponse,
    .parameterOrder]

/-- The key of a rule in a configuration. -/
def key : Rule → String
  | .writeConsumes => "no_consumes_for_put_or_post"
  | .readConsumes => "get_op_has_consumes"
  | .produces => "no_produces"
  | .operationId => "no_operation_id"
  | .summary => "no_summary"
  | .arrayResponse => "no_array_responses"
  | .parameterOrder => "parameter_order"

/-- The rule with a key. -/
def ofKey? (s : String) : Option Rule := all.find? fun rule => rule.key == s

/-- What a rule asks for. -/
def description : Rule → String
  | .writeConsumes => "PUT and POST operations must have a non-empty consumes field"
  | .readConsumes => "GET operations should not specify a consumes field"
  | .produces => "Operations other than HEAD must have a non-empty produces field"
  | .operationId => "Operations must have a non-empty operationId"
  | .summary => "Operations must have a non-empty summary"
  | .arrayResponse => "GET responses must not return an array as the top-level structure"
  | .parameterOrder => "Required parameters must be listed before optional parameters"

/-- What a finding of a rule says. -/
def message : Rule → String
  | .writeConsumes => "PUT and POST operations must have a non-empty `consumes` field."
  | .readConsumes => "GET operations should not specify a consumes field."
  | .produces => "Operations must have a non-empty `produces` field."
  | .operationId => "Operations must have a non-empty `operationId`."
  | .summary => "Operations must have a non-empty `summary` field."
  | .arrayResponse =>
    "Arrays MUST NOT be returned as the top-level structure in a response body."
  | .parameterOrder => "Required parameters should appear before optional parameters."

end Rule

end ApiLint
