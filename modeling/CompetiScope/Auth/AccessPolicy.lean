import CompetiScope.Foundation.Repr

/-!
# Access policies

The decision whether a user may act on a workspace: the scope of the user,
then the roles or the answer of an external policy engine.
-/

namespace CompetiScope

open Foundation Foundation.Json

/-- `str.upper`, which maps one character after the other. -/
class PyUppercase where
  upperChar : Char → List Char
  upperChar_ascii : ∀ char : Char, char.toNat < 128 →
    upperChar char = [char.toUpper]

/-- `str.upper()`. -/
def upper [PyUppercase] (text : String) : String :=
  String.ofList (text.toList.flatMap PyUppercase.upperChar)

/-! ## Roles -/

inductive EnterpriseRole where
  | viewer
  | reviewer
  | analyst
  | admin
  | owner
  deriving DecidableEq

/-- `_ROLE_RANK`. -/
def roleRank : EnterpriseRole → Nat
  | .viewer => 0
  | .reviewer => 1
  | .analyst => 2
  | .admin => 3
  | .owner => 4

def EnterpriseRole.text : EnterpriseRole → String
  | .viewer => "viewer"
  | .reviewer => "reviewer"
  | .analyst => "analyst"
  | .admin => "admin"
  | .owner => "owner"

/-- `_ACTION_MIN_ROLE`. -/
def actionMinRole : List (String × EnterpriseRole) :=
  [("workspace:read", .viewer),
    ("workspace:write", .admin),
    ("project:read", .viewer),
    ("project:write", .analyst),
    ("competitor:read", .viewer),
    ("evidence:read", .viewer),
    ("evidence:write", .analyst),
    ("evidence:review", .reviewer),
    ("source:read", .viewer),
    ("source:write", .analyst),
    ("source:review", .reviewer),
    ("artifact:read", .viewer),
    ("artifact:write", .analyst),
    ("report:read", .viewer),
    ("report:write", .analyst),
    ("report:review", .reviewer),
    ("schema:review", .reviewer),
    ("memory:read", .viewer),
    ("memory:write", .analyst),
    ("memory:review", .reviewer),
    ("tool:read", .viewer),
    ("model:read", .viewer),
    ("kg:read", .viewer),
    ("notification:read", .viewer),
    ("notification:write", .analyst),
    ("audit:read", .admin)]

/-- `_ACTION_ALLOWED_ROLES`; the roles in the order of their names. -/
def actionAllowedRoles (action : String) : Option (List EnterpriseRole) :=
  if action = "source:review" then some [.admin, .owner, .reviewer] else none

/-- `required_role_for_action`. -/
def requiredRoleForAction (action : String) : EnterpriseRole :=
  (actionMinRole.lookup action).getD .owner

/-- `can_perform`. -/
def canPerform (role : EnterpriseRole) (action : String) : Bool :=
  match actionAllowedRoles action with
  | some allowedRoles => role ∈ allowedRoles
  | none => roleRank (requiredRoleForAction action) ≤ roleRank role

/-! ## Requests and decisions -/

inductive AuthPolicyEngine where
  | internal
  | opa
  | cerbos
  deriving DecidableEq

structure EnterpriseUserContext where
  userId : String
  role : EnterpriseRole
  workspaceId : Option String := none
  policyEngine : AuthPolicyEngine := .internal
  policyUrl : Option String := none
  policyTimeoutSeconds : Rat := 1

/-- The arguments of `evaluate_access_policy`. -/
structure AccessRequest where
  user : EnterpriseUserContext
  workspaceId : String
  action : String
  targetType : String := "workspace"
  targetId : Option String := none

inductive PolicyEffect where
  | allow
  | deny
  deriving DecidableEq

structure PolicyRuleMatch where
  ruleId : String
  effect : PolicyEffect
  message : String
  deriving DecidableEq

inductive PolicyDecisionEngine where
  | internalOpaCompatible
  | opa
  | cerbos
  deriving DecidableEq

structure PolicyDecision where
  allowed : Bool
  effect : PolicyEffect
  engine : PolicyDecisionEngine
  policyVersion : String := "2026-05-phase5-rbac"
  subjectId : String
  role : EnterpriseRole
  scopedWorkspaceId : Option String
  workspaceId : String
  action : String
  targetType : String
  targetId : Option String
  requiredRole : EnterpriseRole
  matchedRules : List PolicyRuleMatch
  reason : String
  deriving DecidableEq

/-- The classes of exceptions that the code tells apart. -/
inductive ExceptionFamily where
  | osError
  | valueError
  | other
  deriving DecidableEq

structure PyException where
  family : ExceptionFamily
  typeName : String
  deriving DecidableEq

/-- `except (OSError, ValueError, urllib.error.URLError)`. -/
def PyException.isCaught (exception : PyException) : Bool :=
  exception.family ∈ [.osError, .valueError]

def valueError : PyException :=
  { family := .valueError
    typeName := "ValueError" }

/-- `_decision_engine_for`. -/
def decisionEngineFor : AuthPolicyEngine → PolicyDecisionEngine
  | .opa => .opa
  | .cerbos => .cerbos
  | .internal => .internalOpaCompatible

/-- `policy_engine.upper()`. -/
def AuthPolicyEngine.upperText : AuthPolicyEngine → String
  | .internal => "INTERNAL"
  | .opa => "OPA"
  | .cerbos => "CERBOS"

/-- `_decision`. -/
def decision (request : AccessRequest) (allowed : Bool)
    (engine : PolicyDecisionEngine) (matchedRules : List PolicyRuleMatch)
    (reason : String) : PolicyDecision :=
  { allowed := allowed
    effect := if allowed then .allow else .deny
    engine := engine
    subjectId := request.user.userId
    role := request.user.role
    scopedWorkspaceId := request.user.workspaceId
    workspaceId := request.workspaceId
    action := request.action
    targetType := request.targetType
    targetId := request.targetId
    requiredRole := requiredRoleForAction request.action
    matchedRules := matchedRules
    reason := reason }

/-- `_external_deny`. -/
def externalDeny (request : AccessRequest) (ruleId reason : String) :
    PolicyDecision :=
  decision request false (decisionEngineFor request.user.policyEngine)
    [{ ruleId := ruleId
       effect := .deny
       message := reason }] reason

/-! ## Payloads -/

def optionalText (value : Option String) : Json :=
  match value with
  | none => .null
  | some text => .str text

/-- `target_id or workspace_id`. -/
def AccessRequest.resourceId (request : AccessRequest) : String :=
  match request.targetId with
  | none => request.workspaceId
  | some targetId => if targetId = "" then request.workspaceId else targetId

/-- `_opa_payload`. -/
def opaPayload (request : AccessRequest) : Json :=
  .obj [("input", .obj [
    ("subject", .obj [
      ("id", .str request.user.userId),
      ("role", .str request.user.role.text),
      ("workspace_id", optionalText request.user.workspaceId)]),
    ("resource", .obj [
      ("workspace_id", .str request.workspaceId),
      ("type", .str request.targetType),
      ("id", .str request.resourceId)]),
    ("action", .str request.action)])]

/-- `_cerbos_payload`. -/
def cerbosPayload (request : AccessRequest) : Json :=
  .obj [
    ("principal", .obj [
      ("id", .str request.user.userId),
      ("roles", .arr [.str request.user.role.text]),
      ("attr", .obj [
        ("workspace_id", optionalText request.user.workspaceId)])]),
    ("resources", .arr [.obj [
      ("resource", .obj [
        ("kind", .str request.targetType),
        ("id", .str request.resourceId),
        ("attr", .obj [("workspace_id", .str request.workspaceId)])]),
      ("actions", .arr [.str request.action])]])]

/-! ## Answers -/

section Answers

variable [PyRuntime] [PyUppercase] (isPrintable : Char → Bool)

/-- `fields.get("allow", fields.get("allowed"))`. -/
def opaAllowField (result : List (String × Json)) : Option Json :=
  (fieldOf "allow" result).or (fieldOf "allowed" result)

/-- The first of the values that is true, as a text. -/
def firstTrueText (values : List (Option Json)) (default : String) : String :=
  match (values.filterMap id).find? Json.truthy with
  | none => default
  | some value => Json.text isPrintable value

/-- `_parse_opa_decision`. -/
def parseOpaDecision (response : List (String × Json)) :
    Except PyException (Bool × String) :=
  match fieldOf "result" response with
  | some (.bool result) =>
      .ok (result, if result then "Allowed by OPA policy."
        else "Denied by OPA policy.")
  | some (.obj result) =>
      let allowed := (opaAllowField result).any Json.truthy
      .ok (allowed, firstTrueText isPrintable
        [fieldOf "reason" result, fieldOf "message" result]
        (if allowed then "Allowed by OPA policy."
          else "Denied by OPA policy."))
  | _ => .error valueError

/-- The texts that stand for an allowed action. -/
def allowTexts : List String :=
  ["EFFECT_ALLOW", "ALLOW", "ALLOWED"]

/-- `value is True or str(value).upper() in {...}`. -/
def allowsAction (value : Option Json) : Bool :=
  let value := value.getD .null
  (match value with
    | .bool true => true
    | _ => false) ||
    upper (Json.text isPrintable value) ∈ allowTexts

/-- `response.get("results") or response.get("resourceInstances")`. -/
def cerbosResults (response : List (String × Json)) : Option Json :=
  match fieldOf "results" response with
  | some results =>
      if results.truthy then some results
      else fieldOf "resourceInstances" response
  | none => fieldOf "resourceInstances" response

def cerbosVerdict (allowed : Bool) : Bool × String :=
  (allowed, if allowed then "Allowed by Cerbos policy."
    else "Denied by Cerbos policy.")

/-- The verdict of the first of the results. -/
def parseCerbosResults (results : Option Json) (action : String) :
    Except PyException (Bool × String) :=
  match results with
  | some (.arr (.obj first :: _)) =>
      match fieldOf "actions" first with
      | some (.obj actions) =>
          .ok (cerbosVerdict (allowsAction isPrintable
            (fieldOf action actions)))
      | _ => .error valueError
  | _ => .error valueError

/-- `_parse_cerbos_decision`. -/
def parseCerbosDecision (response : List (String × Json)) (action : String) :
    Except PyException (Bool × String) :=
  match fieldOf "allowed" response with
  | some (.bool allowed) => .ok (cerbosVerdict allowed)
  | _ => parseCerbosResults isPrintable (cerbosResults response) action

/-- `_parse_external_decision`. -/
def parseExternalDecision (response : List (String × Json)) (action : String)
    (engine : AuthPolicyEngine) : Except PyException (Bool × String) :=
  if engine = .opa then parseOpaDecision isPrintable response
  else parseCerbosDecision isPrintable response action

end Answers

/-! ## Evaluation -/

/-- Posting a payload to a URL within a time: the decoded JSON answer, or the
exception that ends the request, the decoding or the parsing. -/
abbrev PolicyService :=
  String → Json → Rat → Except PyException Json

/-- `_post_policy_json`. -/
def postPolicyJson (service : PolicyService) (url : String) (payload : Json)
    (timeoutSeconds : Rat) : Except PyException (List (String × Json)) :=
  match service url payload timeoutSeconds with
  | .error exception => .error exception
  | .ok (.obj response) => .ok response
  | .ok _ => .error valueError

/-- The payload for the engine of the user. -/
def policyPayload (request : AccessRequest) : Json :=
  if request.user.policyEngine = .opa then opaPayload request
  else cerbosPayload request

section Evaluation

variable [PyRuntime] [PyUppercase] (isPrintable : Char → Bool)
  (service : PolicyService)

/-- What the policy service answers, as a verdict with its reason. -/
def externalVerdict (request : AccessRequest) (url : String) :
    Except PyException (Bool × String) := do
  let raw ← postPolicyJson service url (policyPayload request)
    (max (1 / 10) (min request.user.policyTimeoutSeconds 10))
  parseExternalDecision isPrintable raw request.action
    request.user.policyEngine

/-- The decision on a verdict or on the exception in its place. -/
def settleVerdict (request : AccessRequest) :
    Except PyException (Bool × String) → Except PyException PolicyDecision
  | .error exception =>
      if exception.isCaught then
        .ok (externalDeny request "deny_external_policy_unavailable"
          (request.user.policyEngine.upperText ++
            " policy engine unavailable: " ++ exception.typeName ++ "."))
      else .error exception
  | .ok (allowed, reason) =>
      .ok (decision request allowed
        (decisionEngineFor request.user.policyEngine)
        [{ ruleId := if allowed then "external_policy_allow"
             else "external_policy_deny"
           effect := if allowed then .allow else .deny
           message := reason }] reason)

/-- `_evaluate_external_policy`. -/
def evaluateExternalPolicy (request : AccessRequest) :
    Except PyException PolicyDecision :=
  let url := request.user.policyUrl.getD ""
  if url = "" then
    .ok (externalDeny request "deny_external_policy_unconfigured"
      (request.user.policyEngine.upperText ++
        " policy engine is enabled without a policy URL."))
  else settleVerdict request (externalVerdict isPrintable service request url)

/-- The decision by the role of the user. -/
def evaluateRole (request : AccessRequest) : PolicyDecision :=
  let role := request.user.role.text
  let requiredRole := (requiredRoleForAction request.action).text
  if ! canPerform request.user.role request.action then
    match actionAllowedRoles request.action with
    | some allowedRoles =>
        decision request false .internalOpaCompatible
          [{ ruleId := "deny_role_not_allowed"
             effect := .deny
             message := "Action requires one of: " ++ String.intercalate ", "
               (allowedRoles.map (·.text)) ++ "." }]
          ("Role " ++ role ++ " is not allowed for " ++ request.action ++ ".")
    | none =>
        decision request false .internalOpaCompatible
          [{ ruleId := "deny_role_below_minimum"
             effect := .deny
             message := "Action requires role " ++ requiredRole ++
               " or higher." }]
          ("Role " ++ role ++ " is below required role " ++ requiredRole ++
            ".")
  else
    decision request true .internalOpaCompatible
      [{ ruleId := "allow_workspace_role_minimum"
         effect := .allow
         message := "Workspace scope and minimum role checks passed." }]
      "Allowed by workspace RBAC policy."

/-- The user's own workspace is another one. -/
def AccessRequest.crossesScope (request : AccessRequest) : Bool :=
  request.user.workspaceId.any (· ≠ request.workspaceId)

/-- `evaluate_access_policy`. -/
def evaluateAccessPolicy (request : AccessRequest) :
    Except PyException PolicyDecision :=
  if request.crossesScope then
    .ok (decision request false (decisionEngineFor request.user.policyEngine)
      [{ ruleId := "deny_cross_workspace_scope"
         effect := .deny
         message := "User workspace scope does not match requested " ++
           "workspace." }]
      "Cross-workspace access is denied.")
  else if request.user.policyEngine ≠ .internal then
    evaluateExternalPolicy isPrintable service request
  else .ok (evaluateRole request)

end Evaluation

end CompetiScope
