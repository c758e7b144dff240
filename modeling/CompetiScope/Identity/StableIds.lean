import CompetiScope.Foundation.Text

/-!
# Stable identifiers

Identifiers are a prefix and the front of a SHA-256 digest of their parts.
The digest is a parameter.
-/

namespace CompetiScope

open Foundation

inductive IdPart where
  | text (value : String)
  | number (value : Nat)
  | texts (values : List String)

/-- `_identity_part`. -/
def identityPart : IdPart → String
  | .text value => strip value
  | .number value => toString value
  | .texts values => String.intercalate "," (values.map strip)

/-- `stable_prefixed_id`. -/
def stablePrefixedId (sha256Hex : String → String) (label : String)
    (parts : List IdPart) (length : Nat) : String :=
  let digest := sha256Hex (String.intercalate "|" (parts.map identityPart))
  label ++ "-" ++ String.ofList (digest.toList.take length)

/-- The value of a key of a payload. -/
inductive PayloadValue where
  | text (value : Option String)
  | texts (values : List String)
  | flag (value : Option Bool)

def payloadPart : PayloadValue → String
  | .text none => ""
  | .text (some value) => strip value
  | .texts values => String.intercalate "," (values.map strip)
  | .flag none => ""
  | .flag (some true) => "True"
  | .flag (some false) => "False"

/-- `_identity_part` of a mapping, given in the order of its keys. -/
def payloadIdentity (fields : List (String × PayloadValue)) : String :=
  String.intercalate ","
    (fields.map fun field => field.1 ++ "=" ++ payloadPart field.2)

/-- `stable_digest` of a mapping. -/
def payloadDigest (sha256Hex : String → String)
    (fields : List (String × PayloadValue)) (length : Nat) : String :=
  String.ofList ((sha256Hex (payloadIdentity fields)).toList.take length)

theorem payloadDigest_length_le (sha256Hex : String → String)
    (fields : List (String × PayloadValue)) (length : Nat) :
    (payloadDigest sha256Hex fields length).length ≤ length := by
  rw [payloadDigest, String.length_ofList]
  exact List.length_take_le length _

/-- `compute_run_id_for_idempotency_key`. -/
def computeRunIdForIdempotencyKey (sha256Hex : String → String)
    (idempotencyKey : String) : String :=
  stablePrefixedId sha256Hex "run" [.text idempotencyKey] 32

/-- `compute_report_version_id`. -/
def computeReportVersionId (sha256Hex : String → String) (runId : String)
    (versionNumber : Nat) (topicNormalized competitorSetHash : String) :
    String :=
  stablePrefixedId sha256Hex "report-version"
    [.text runId, .number versionNumber, .text topicNormalized,
      .text competitorSetHash] 20

/-- `compute_gap_fill_report_version_id`. -/
def computeGapFillReportVersionId (sha256Hex : String → String)
    (sourceReportVersionId : String)
    (filledGapIds candidateIds : List String) : String :=
  stablePrefixedId sha256Hex "report-version-gap-fill"
    [.text sourceReportVersionId, .texts filledGapIds, .texts candidateIds] 16

end CompetiScope
