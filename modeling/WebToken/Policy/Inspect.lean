import WebToken.Json.Printer
import WebToken.Policy.Verifier

/-!
# Policies in diagnostics

The rendering of a policy and of its verifier, in which keys and
predicates are not shown.
-/

set_option autoImplicit false

namespace WebToken

namespace Json

mutual

/-- The rendering of a value that names the kind of each part. -/
def inspect : Json → String
  | .null => "Null"
  | .bool true => "Bool(true)"
  | .bool false => "Bool(false)"
  | .number value => "Number(" ++ String.ofList value.text ++ ")"
  | .string value => "String(" ++ Text.quoted value ++ ")"
  | .array items => "Array [" ++ Text.commaSeparated (inspectItems items) ++ "]"
  | .object members => "Object \x7b" ++ Text.commaSeparated (inspectMembers members) ++ "\x7d"

def inspectItems : List Json → List String
  | [] => []
  | item :: rest => inspect item :: inspectItems rest

def inspectMembers : List (String × Json) → List String
  | [] => []
  | (name, value) :: rest => (Text.quoted name ++ ": " ++ inspect value) :: inspectMembers rest

end

end Json

def Part.inspect : Part → String
  | .header => "Header"
  | .payload => "Payload"

def Expectation.inspect : Expectation → String
  | .value expected => s!"Value({expected.inspect})"
  | .strings expected => s!"Strings({Text.bracketed (expected.map Text.quoted)})"
  | .date expected => s!"Date({expected.toInt})"
  | .window leeway => Text.record "Window" [("leeway", toString leeway.toNat)]
  | .predicate _ => "Predicate(..)"

def Requirement.inspect (requirement : Requirement) : String :=
  Text.record "Assertion"
    [("target", requirement.part.inspect), ("name", Text.quoted requirement.name),
      ("expected", requirement.expected.inspect)]

def Requirement.inspectAll (requirements : List Requirement) : String :=
  Text.bracketed (requirements.map Requirement.inspect)

def Policy.inspect (policy : Policy) : String :=
  let leeway (seconds : Option UInt64) : String :=
    Text.optional (seconds.map fun count => toString count.toNat)
  Text.record "Verification"
    [("algorithm", policy.algorithm.inspect),
      ("assertions", Requirement.inspectAll policy.requirements),
      ("default_leeway", toString policy.defaultLeeway.toNat),
      ("expires_at_leeway", leeway policy.expiryLeeway),
      ("not_before_leeway", leeway policy.notBeforeLeeway),
      ("issued_at_leeway", leeway policy.issuedAtLeeway),
      ("ignore_issued_at", toString policy.waivesIssuedAt)]

/-- The rendering of a verifier, which does not show everything. -/
def Verifier.inspect (verifier : Verifier) : String :=
  "TokenVerifier \x7b algorithm: " ++ verifier.algorithm.inspect ++ ", assertions: " ++
    Requirement.inspectAll verifier.requirements ++ ", .. \x7d"

end WebToken
