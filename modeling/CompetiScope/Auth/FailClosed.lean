import CompetiScope.Auth.AccessPolicy
import CompetiScope.Foundation.Numerals

/-!
# Decisions that fail closed

An access decision fails closed just when the answer of the policy service
hides no allowed value behind another shape: the flag of an object is a
boolean, the first result is for the requested resource, and a failure is one
of those that are caught.
-/

namespace CompetiScope

open Foundation Foundation.Json

/-! ## Explicit answers -/

section Explicit

variable [PyUppercase]

/-- A value that stands for an allowed action. -/
def IsAllow : Json → Prop
  | .bool value => value = true
  | .str value => upper value ∈ allowTexts
  | _ => False

/-- The result names no other resource than the requested one. -/
def ForResource (request : AccessRequest) (result : List (String × Json)) :
    Prop :=
  ∀ resource, fieldOf "resource" result = some (.obj resource) →
    (∀ kind, fieldOf "kind" resource = some kind →
      kind = .str request.targetType) ∧
    ∀ id, fieldOf "id" resource = some id → id = .str request.resourceId

/-- The result allows the requested action on the requested resource. -/
def AllowsResource (request : AccessRequest) (result : Json) : Prop :=
  ∃ fields actions value, result = .obj fields ∧ ForResource request fields ∧
    fieldOf "actions" fields = some (.obj actions) ∧
      fieldOf request.action actions = some value ∧ IsAllow value

/-- The answer allows the request in so many words. -/
def ExplicitAllow (request : AccessRequest) (answer : Json) : Prop :=
  ∃ response, answer = .obj response ∧
    match request.user.policyEngine with
    | .internal => False
    | .opa => fieldOf "result" response = some (.bool true) ∨
        ∃ result, fieldOf "result" response = some (.obj result) ∧
          opaAllowField result = some (.bool true)
    | .cerbos => fieldOf "allowed" response = some (.bool true) ∨
        ∃ results, cerbosResults response = some (.arr results) ∧
          ∃ result ∈ results, AllowsResource request result

/-- The URL of the policy service. -/
def AccessRequest.url (request : AccessRequest) : String :=
  request.user.policyUrl.getD ""

/-- The answer of the policy service, when it is asked. -/
def AccessRequest.answer (service : PolicyService) (request : AccessRequest) :
    Except PyException Json :=
  service request.url (policyPayload request)
    (max (1 / 10) (min request.user.policyTimeoutSeconds 10))

/-- The evaluation returns, keeps to the scope of the user, and allows on an
explicit answer only. -/
structure FailsClosed (service : PolicyService) (request : AccessRequest)
    (outcome : Except PyException PolicyDecision) : Prop where
  returns : ∃ decided, outcome = .ok decided
  inScope : request.crossesScope → ∀ decided, outcome = .ok decided →
    decided.allowed = false
  explicit : request.user.policyEngine ≠ .internal →
    ∀ decided, outcome = .ok decided → decided.allowed = true →
      ∃ answer, request.answer service = .ok answer ∧
        ExplicitAllow request answer

/-- The policy service is asked. -/
structure AccessRequest.Consults (request : AccessRequest) : Prop where
  inScope : request.crossesScope = false
  engine : request.user.policyEngine ≠ .internal
  configured : request.url ≠ ""

/-- The service ends in an exception that is caught, or its answer means what
it states. -/
structure SafeAnswer (request : AccessRequest)
    (answer : Except PyException Json) : Prop where
  caught : ∀ exception, answer = .error exception → exception.isCaught
  opa : request.user.policyEngine = .opa → ∀ response result value,
    answer = .ok (.obj response) →
      fieldOf "result" response = some (.obj result) →
        opaAllowField result = some value → value.truthy →
          value = .bool true
  cerbos : request.user.policyEngine = .cerbos →
    ∀ response first others actions value,
      answer = .ok (.obj response) →
        (∀ allowed, fieldOf "allowed" response ≠ some (.bool allowed)) →
          cerbosResults response = some (.arr (.obj first :: others)) →
            fieldOf "actions" first = some (.obj actions) →
              fieldOf request.action actions = some value → IsAllow value →
                ForResource request first ∨
                  ∃ result ∈ others, AllowsResource request result

end Explicit

/-! ## Texts that allow -/

/-- The texts of floats: digits, signs and exponents, `inf` and `nan`. -/
def PlainFloats [PyRuntime] : Prop :=
  ∀ value : Float, ∀ char ∈ (PyRuntime.floatRepr value).toList,
    char.isDigit = true ∨ char ∈ ['.', '+', '-', 'e', 'i', 'n', 'f', 'a']

section Texts

variable [PyUppercase]

/-- A character whose capital is not a `W`. -/
def SmallOther (char : Char) : Prop :=
  char.toNat < 128 ∧ char.toUpper ≠ 'W'

/-- Every text that allows has a `W`. -/
theorem upper_not_allow {text : String}
    (other : ∀ char ∈ text.toList, SmallOther char) :
    upper text ∉ allowTexts := by
  have noW : 'W' ∉ (upper text).toList := by
    rw [upper, String.toList_ofList]
    intro member
    obtain ⟨char, inText, inUpper⟩ := List.mem_flatMap.mp member
    obtain ⟨ascii, small⟩ := other char inText
    rw [PyUppercase.upperChar_ascii char ascii,
      List.mem_singleton] at inUpper
    exact small inUpper.symm
  have hasW : ∀ text ∈ allowTexts, 'W' ∈ text.toList := by
    decide
  exact fun allows => noW (hasW _ allows)

/-- Every text that allows begins with an `A` or an `E`. -/
theorem upper_not_allow_of_head {char : Char} {rest : List Char}
    (ascii : char.toNat < 128) (other : char.toUpper ∉ ['A', 'E']) :
    upper (String.ofList (char :: rest)) ∉ allowTexts := by
  have head : (upper (String.ofList (char :: rest))).toList.head? =
      some char.toUpper := by
    rw [upper, String.toList_ofList, String.toList_ofList, List.flatMap_cons,
      PyUppercase.upperChar_ascii char ascii]
    rfl
  have heads : ∀ text ∈ allowTexts,
      text.toList.head? ∈ ['A', 'E'].map some := by
    decide
  intro allows
  have isHead := heads _ allows
  rw [head] at isHead
  obtain ⟨first, member, same⟩ := List.mem_map.mp isHead
  rw [Option.some.inj same] at member
  exact other member

omit [PyUppercase] in
theorem smallOther_of_isDigit {char : Char} (digit : char.isDigit = true) :
    SmallOther char := by
  have code : char.toNat ≤ 57 := by
    have bounds := digit
    rw [Char.isDigit, Bool.and_eq_true, decide_eq_true_iff,
      decide_eq_true_iff] at bounds
    exact UInt32.le_iff_toNat_le.mp bounds.2
  have small : char.toUpper = char := by
    have notLower : ¬ (char.val ≥ 'a'.val ∧ char.val ≤ 'z'.val) := by
      intro lower
      have above : 97 ≤ char.toNat := UInt32.le_iff_toNat_le.mp lower.1
      omega
    unfold Char.toUpper
    rw [dif_neg notLower]
  refine ⟨by omega, ?_⟩
  rw [small]
  rintro rfl
  exact absurd digit (by decide)

omit [PyUppercase] in
theorem smallOther_natText (value : Nat) :
    ∀ char ∈ (toString value).toList, SmallOther char := by
  intro char member
  apply smallOther_of_isDigit
  by_contra other
  exact notMem_numeral (Bool.of_not_eq_true other) value member

instance (char : Char) : Decidable (SmallOther char) := by
  unfold SmallOther
  infer_instance

omit [PyUppercase] in
theorem smallOther_intText (value : Int) :
    ∀ char ∈ (toString value).toList, SmallOther char := by
  cases value with
  | ofNat number => exact smallOther_natText number
  | negSucc number =>
      have dash : (toString (Int.negSucc number)).toList =
          '-' :: (toString (number + 1)).toList := by
        show ("-" ++ toString (number + 1)).toList = _
        rw [String.toList_append]
        rfl
      rw [dash, List.forall_mem_cons]
      exact ⟨by decide, smallOther_natText (number + 1)⟩

variable [PyRuntime] {isPrintable : Char → Bool}

omit [PyUppercase] in
theorem smallOther_floatText (floats : PlainFloats) (value : Float) :
    ∀ char ∈ (PyRuntime.floatRepr value).toList, SmallOther char := by
  have listed : ∀ char ∈ ['.', '+', '-', 'e', 'i', 'n', 'f', 'a'],
      SmallOther char := by
    decide
  intro char member
  rcases floats value char member with digit | isListed
  · exact smallOther_of_isDigit digit
  · exact listed char isListed

/-- An action is allowed by an explicit value only. -/
theorem allowsAction_iff (floats : PlainFloats) (value : Option Json) :
    allowsAction isPrintable value = true ↔
      ∃ given, value = some given ∧ IsAllow given := by
  have none : upper (Json.text isPrintable .null) ∉ allowTexts := by
    show upper "None" ∉ allowTexts
    exact upper_not_allow (by decide)
  cases value with
  | none => simp [allowsAction, none]
  | some value =>
      cases value with
      | null => simp [allowsAction, none, IsAllow]
      | bool value =>
          cases value with
          | true => simp [allowsAction, IsAllow]
          | false =>
              have no : upper (Json.text isPrintable (.bool false)) ∉
                  allowTexts := by
                show upper "False" ∉ allowTexts
                exact upper_not_allow (by decide)
              simp [allowsAction, no, IsAllow]
      | int value =>
          have no : upper (Json.text isPrintable (.int value)) ∉
              allowTexts := by
            show upper (String.ofList (toString value).toList) ∉ allowTexts
            apply upper_not_allow
            rw [String.toList_ofList]
            exact smallOther_intText value
          simp [allowsAction, no, IsAllow]
      | float value =>
          have no : upper (Json.text isPrintable (.float value)) ∉
              allowTexts := by
            show upper (String.ofList (PyRuntime.floatRepr value).toList) ∉ allowTexts
            apply upper_not_allow
            rw [String.toList_ofList]
            exact smallOther_floatText floats value
          simp [allowsAction, no, IsAllow]
      | str value =>
          simp only [allowsAction, Json.text, Option.getD_some,
            Bool.false_or, Option.some.injEq, exists_eq_left', IsAllow]
          exact decide_eq_true_iff
      | arr items =>
          have no : upper (Json.text isPrintable (.arr items)) ∉
              allowTexts := by
            show upper (String.ofList ('[' :: _)) ∉ allowTexts
            exact upper_not_allow_of_head (by decide) (by decide)
          simp [allowsAction, no, IsAllow]
      | obj fields =>
          have no : upper (Json.text isPrintable (.obj fields)) ∉
              allowTexts := by
            show upper (String.ofList ('\x7b' :: _)) ∉ allowTexts
            exact upper_not_allow_of_head (by decide) (by decide)
          simp [allowsAction, no, IsAllow]

end Texts

/-! ## Answers that allow -/

section Answers

variable [PyRuntime] [PyUppercase] {isPrintable : Char → Bool}
  {response : List (String × Json)} {action : String}

omit [PyUppercase] in
theorem parseOpa_allows_iff :
    (∃ reason, parseOpaDecision isPrintable response = .ok (true, reason)) ↔
      fieldOf "result" response = some (.bool true) ∨
        ∃ result value, fieldOf "result" response = some (.obj result) ∧
          opaAllowField result = some value ∧ value.truthy := by
  unfold parseOpaDecision
  cases found : fieldOf "result" response with
  | none => simp
  | some result =>
      cases result with
      | bool result => simp
      | obj result => simp [Option.any_eq_true]
      | _ => simp

/-- Of the results the first is read. -/
theorem parseResults_allows_iff {results : Option Json} :
    (∃ reason, parseCerbosResults isPrintable results action =
        .ok (true, reason)) ↔
      ∃ first others actions, results = some (.arr (.obj first :: others)) ∧
        fieldOf "actions" first = some (.obj actions) ∧
          allowsAction isPrintable (fieldOf action actions) = true := by
  unfold parseCerbosResults
  constructor
  · intro allows
    obtain ⟨reason, allows⟩ := allows
    split at allows
    · next first others =>
        split at allows
        · next actions isActions =>
            have same := congrArg Prod.fst (Except.ok.inj allows)
            exact ⟨first, others, actions, rfl, isActions, same⟩
        · cases allows
    · cases allows
  · intro isFirst
    obtain ⟨first, others, actions, rfl, isActions, allows⟩ := isFirst
    refine ⟨(cerbosVerdict true).2, ?_⟩
    dsimp only
    rw [isActions]
    dsimp only
    rw [allows]
    rfl

theorem parseCerbos_allows_iff :
    (∃ reason, parseCerbosDecision isPrintable response action =
        .ok (true, reason)) ↔
      fieldOf "allowed" response = some (.bool true) ∨
        (∀ allowed, fieldOf "allowed" response ≠ some (.bool allowed)) ∧
          ∃ first others actions,
            cerbosResults response = some (.arr (.obj first :: others)) ∧
              fieldOf "actions" first = some (.obj actions) ∧
                allowsAction isPrintable (fieldOf action actions) = true := by
  rw [← parseResults_allows_iff]
  unfold parseCerbosDecision
  cases allowed : fieldOf "allowed" response with
  | none => simp
  | some value =>
      cases value with
      | bool value => simp [cerbosVerdict]
      | _ => simp

/-- Answers that cannot be read end in a value error. -/
theorem parse_isCaught {engine : AuthPolicyEngine} {exception : PyException}
    (failed : parseExternalDecision isPrintable response action engine =
      .error exception) : exception.isCaught := by
  have read : exception = valueError := by
    unfold parseExternalDecision at failed
    split at failed
    · unfold parseOpaDecision at failed
      split at failed
      · cases failed
      · cases failed
      · exact (Except.error.inj failed).symm
    · unfold parseCerbosDecision at failed
      split at failed
      · cases failed
      · unfold parseCerbosResults at failed
        split at failed
        · split at failed
          · cases failed
          · exact (Except.error.inj failed).symm
        · exact (Except.error.inj failed).symm
  rw [read]
  decide

end Answers

/-! ## The evaluation -/

section Settling

variable {request : AccessRequest} {parsed : Except PyException (Bool × String)}

theorem settle_allows_iff :
    (∃ decided, settleVerdict request parsed = .ok decided ∧
        decided.allowed = true) ↔
      ∃ reason, parsed = .ok (true, reason) := by
  cases parsed with
  | error exception =>
      by_cases caught : exception.isCaught = true
      · simp [settleVerdict, caught, externalDeny, decision]
      · simp [settleVerdict, caught]
  | ok verdict => simp [settleVerdict, decision, Prod.ext_iff]

theorem settle_returns_iff :
    (∃ decided, settleVerdict request parsed = .ok decided) ↔
      ∀ exception, parsed = .error exception → exception.isCaught := by
  cases parsed with
  | error exception =>
      by_cases caught : exception.isCaught = true
      · simp [settleVerdict, caught]
      · simp [settleVerdict, caught]
  | ok verdict => simp [settleVerdict]

end Settling

section Evaluation

variable [PyRuntime] [PyUppercase] {isPrintable : Char → Bool}
  {service : PolicyService} {request : AccessRequest}

theorem verdict_allows_iff :
    (∃ reason, externalVerdict isPrintable service request request.url =
        .ok (true, reason)) ↔
      ∃ response, request.answer service = .ok (.obj response) ∧
        ∃ reason, parseExternalDecision isPrintable response request.action
          request.user.policyEngine = .ok (true, reason) := by
  unfold externalVerdict postPolicyJson AccessRequest.answer
  cases service request.url (policyPayload request)
    (max (1 / 10) (min request.user.policyTimeoutSeconds 10)) with
  | error exception => simp [bind, Except.bind]
  | ok answer =>
      cases answer with
      | obj response => simp [bind, Except.bind]
      | _ => simp [bind, Except.bind]

/-- Only the exceptions of the service are not caught. -/
theorem verdict_caught_iff :
    (∀ exception, externalVerdict isPrintable service request request.url =
        .error exception → exception.isCaught) ↔
      ∀ exception, request.answer service = .error exception →
        exception.isCaught := by
  have caught : valueError.isCaught := by
    decide
  unfold externalVerdict postPolicyJson AccessRequest.answer
  cases service request.url (policyPayload request)
    (max (1 / 10) (min request.user.policyTimeoutSeconds 10)) with
  | error exception => simp [bind, Except.bind]
  | ok answer =>
      cases answer with
      | obj response =>
          simp only [bind, Except.bind, reduceCtorEq, false_imp_iff,
            implies_true, iff_true]
          exact fun exception => parse_isCaught
      | _ => simp [bind, Except.bind, caught]

theorem evaluate_crossed (crossed : request.crossesScope = true) :
    ∃ decided, evaluateAccessPolicy isPrintable service request =
      .ok decided ∧ decided.allowed = false := by
  unfold evaluateAccessPolicy
  rw [if_pos crossed]
  exact ⟨_, rfl, rfl⟩

theorem evaluate_internal (inScope : request.crossesScope = false)
    (internal : request.user.policyEngine = .internal) :
    evaluateAccessPolicy isPrintable service request =
      .ok (evaluateRole request) := by
  unfold evaluateAccessPolicy
  rw [inScope, if_neg Bool.false_ne_true, if_neg (not_not_intro internal)]

theorem evaluate_unconfigured (inScope : request.crossesScope = false)
    (engine : request.user.policyEngine ≠ .internal)
    (unconfigured : request.url = "") :
    ∃ decided, evaluateAccessPolicy isPrintable service request =
      .ok decided ∧ decided.allowed = false := by
  unfold evaluateAccessPolicy evaluateExternalPolicy
  unfold AccessRequest.url at unconfigured
  dsimp only
  rw [inScope, if_neg Bool.false_ne_true, if_pos engine, if_pos unconfigured]
  exact ⟨_, rfl, rfl⟩

theorem evaluate_consulted (consults : request.Consults) :
    evaluateAccessPolicy isPrintable service request =
      settleVerdict request
        (externalVerdict isPrintable service request request.url) := by
  have configured := consults.configured
  unfold AccessRequest.url at configured
  unfold evaluateAccessPolicy evaluateExternalPolicy
  dsimp only
  rw [consults.inScope, if_neg Bool.false_ne_true, if_pos consults.engine,
    if_neg configured]
  rfl

omit [PyRuntime] in
/-- A decision that denies fails closed. -/
theorem failsClosed_of_denied
    {outcome : Except PyException PolicyDecision}
    (denied : ∃ decided, outcome = .ok decided ∧ decided.allowed = false) :
    FailsClosed service request outcome := by
  obtain ⟨decided, rfl, isDenied⟩ := denied
  constructor
  case returns => exact ⟨decided, rfl⟩
  case inScope =>
    intro _ other same
    rw [← Except.ok.inj same, isDenied]
  case explicit =>
    intro _ other same allowed
    rw [← Except.ok.inj same, isDenied] at allowed
    cases allowed

/-- The verdict allows just when the answer is read so. -/
theorem allows_of_read (response : List (String × Json))
    (answered : request.answer service = .ok (.obj response))
    (allows : ∃ reason, parseExternalDecision isPrintable response
      request.action request.user.policyEngine = .ok (true, reason)) :
    ∃ decided, settleVerdict request
        (externalVerdict isPrintable service request request.url) =
      .ok decided ∧ decided.allowed = true :=
  settle_allows_iff.mpr
    (verdict_allows_iff.mpr ⟨response, answered, allows⟩)

theorem safeAnswer_of_failsClosed (floats : PlainFloats)
    (engine : request.user.policyEngine ≠ .internal)
    (closed : FailsClosed service request (settleVerdict request
      (externalVerdict isPrintable service request request.url))) :
    SafeAnswer request (request.answer service) := by
  have explicit : ∀ response, request.answer service = .ok (.obj response) →
      (∃ reason, parseExternalDecision isPrintable response request.action
        request.user.policyEngine = .ok (true, reason)) →
          ExplicitAllow request (.obj response) := by
    intro response answered allows
    obtain ⟨decided, same, allowed⟩ := allows_of_read response answered allows
    obtain ⟨answer, isAnswer, explicitly⟩ :=
      closed.explicit engine decided same allowed
    rw [answered] at isAnswer
    rwa [Except.ok.inj isAnswer]
  constructor
  case caught =>
    exact verdict_caught_iff.mp (settle_returns_iff.mp closed.returns)
  case opa =>
    intro isOpa response result value answered isResult isFlag truthy
    have allows : ∃ reason, parseExternalDecision isPrintable response
        request.action request.user.policyEngine = .ok (true, reason) := by
      unfold parseExternalDecision
      rw [if_pos isOpa]
      exact parseOpa_allows_iff.mpr
        (.inr ⟨result, value, isResult, isFlag, truthy⟩)
    obtain ⟨known, same, explicitly⟩ := explicit response answered allows
    cases same
    rw [isOpa] at explicitly
    rcases explicitly with plain | ⟨other, isOther, flag⟩
    · rw [isResult] at plain
      cases plain
    · rw [isResult] at isOther
      cases isOther
      rw [isFlag] at flag
      exact Option.some.inj flag
  case cerbos =>
    intro isCerbos response first others actions value answered notPlain
      isResults isActions isValue isAllow
    have allows : ∃ reason, parseExternalDecision isPrintable response
        request.action request.user.policyEngine = .ok (true, reason) := by
      unfold parseExternalDecision
      rw [isCerbos, if_neg (by decide)]
      apply parseCerbos_allows_iff.mpr
      refine .inr ⟨notPlain, first, others, actions, isResults, isActions, ?_⟩
      exact (allowsAction_iff floats _).mpr ⟨value, isValue, isAllow⟩
    obtain ⟨known, same, explicitly⟩ := explicit response answered allows
    cases same
    rw [isCerbos] at explicitly
    rcases explicitly with plain | ⟨results, same, result, member, allowed⟩
    · exact absurd plain (notPlain true)
    · rw [isResults] at same
      cases same
      rcases List.mem_cons.mp member with rfl | later
      · obtain ⟨fields, -, -, isFields, forResource, -⟩ := allowed
        cases isFields
        exact .inl forResource
      · exact .inr ⟨result, later, allowed⟩

theorem failsClosed_of_safeAnswer (floats : PlainFloats)
    (consults : request.Consults)
    (safe : SafeAnswer request (request.answer service)) :
    FailsClosed service request (settleVerdict request
      (externalVerdict isPrintable service request request.url)) := by
  constructor
  case returns =>
    exact settle_returns_iff.mpr (verdict_caught_iff.mpr safe.caught)
  case inScope =>
    intro crossed
    rw [consults.inScope] at crossed
    cases crossed
  case explicit =>
    intro engine decided same allowed
    obtain ⟨response, answered, allows⟩ := verdict_allows_iff.mp
      (settle_allows_iff.mp ⟨decided, same, allowed⟩)
    refine ⟨.obj response, answered, response, rfl, ?_⟩
    unfold parseExternalDecision at allows
    cases isEngine : request.user.policyEngine with
    | internal => exact absurd isEngine engine
    | opa =>
        rw [if_pos isEngine] at allows
        rcases parseOpa_allows_iff.mp allows with
          plain | ⟨result, value, isResult, isFlag, truthy⟩
        · exact .inl plain
        · rw [safe.opa isEngine response result value answered isResult isFlag
            truthy] at isFlag
          exact .inr ⟨result, isResult, isFlag⟩
    | cerbos =>
        rw [isEngine, if_neg (by decide)] at allows
        rcases parseCerbos_allows_iff.mp allows with
          plain | ⟨notPlain, first, others, actions, isResults, isActions,
            allowed⟩
        · exact .inl plain
        · obtain ⟨value, isValue, isAllow⟩ :=
            (allowsAction_iff floats _).mp allowed
          refine .inr ⟨_, isResults, ?_⟩
          rcases safe.cerbos isEngine response first others actions value
              answered notPlain isResults isActions isValue isAllow with
            forResource | ⟨result, later, allowed⟩
          · exact ⟨_, List.mem_cons_self, first, actions, value, rfl,
              forResource, isActions, isValue, isAllow⟩
          · exact ⟨result, List.mem_cons_of_mem _ later, allowed⟩

/-- The evaluation fails closed just when the service, if it is asked, ends
in a caught exception or in an answer that means what it states. -/
theorem evaluateAccessPolicy_failsClosed_iff (floats : PlainFloats) :
    FailsClosed service request
        (evaluateAccessPolicy isPrintable service request) ↔
      (request.Consults → SafeAnswer request (request.answer service)) := by
  constructor
  · intro closed consults
    rw [evaluate_consulted consults] at closed
    exact safeAnswer_of_failsClosed floats consults.engine closed
  · intro safe
    by_cases crossed : request.crossesScope = true
    · exact failsClosed_of_denied (evaluate_crossed crossed)
    · have inScope := Bool.of_not_eq_true crossed
      by_cases internal : request.user.policyEngine = .internal
      · rw [evaluate_internal inScope internal]
        constructor
        case returns => exact ⟨_, rfl⟩
        case inScope => exact fun isCrossed => absurd isCrossed crossed
        case explicit => exact fun engine => absurd internal engine
      · by_cases unconfigured : request.url = ""
        · exact failsClosed_of_denied
            (evaluate_unconfigured inScope internal unconfigured)
        · have consults : request.Consults :=
            ⟨inScope, internal, unconfigured⟩
          rw [evaluate_consulted consults]
          exact failsClosed_of_safeAnswer floats consults (safe consults)

end Evaluation

namespace FailClosedExample

/-- A runtime that is exact on ASCII texts and on one float. -/
@[reducible] local instance failClosedRuntime : PyRuntime :=
  { asciiRuntime with
    floatRepr := fun _ => "0.5" }

@[reducible] local instance failClosedUppercase : PyUppercase :=
  { upperChar := fun char => [char.toUpper]
    upperChar_ascii := fun _ _ => rfl }

/-- A viewer that asks an OPA service whether it may write. -/
def request : AccessRequest :=
  { user :=
      { userId := "viewer-1"
        role := .viewer
        workspaceId := some "workspace-a"
        policyEngine := .opa
        policyUrl := some "http://opa.test/v1/data/authz" }
    workspaceId := "workspace-a"
    action := "project:write" }

/-- The service denies, with a flag that is a text. -/
def service : PolicyService :=
  fun _ _ _ => .ok (.obj [("result", .obj [("allow", .str "false")])])

theorem plainFloats : PlainFloats := by
  have zero : ∀ char ∈ "0.5".toList,
      char.isDigit = true ∨ char ∈ ['.', '+', '-', 'e', 'i', 'n', 'f', 'a'] := by
    decide
  exact fun _ => zero

theorem textFlag_failsClosed_iff :
    FailsClosed service request
        (evaluateAccessPolicy (fun _ => true) service request) ↔
      (request.Consults → SafeAnswer request (request.answer service)) :=
  evaluateAccessPolicy_failsClosed_iff plainFloats

/-- The text `"false"` allows. -/
theorem textFlag_allows :
    ¬ FailsClosed service request
      (evaluateAccessPolicy (fun _ => true) service request) := by
  intro closed
  have consults : request.Consults := by
    constructor
    case inScope => decide
    case engine => decide
    case configured => decide
  rw [evaluate_consulted consults] at closed
  have safe := safeAnswer_of_failsClosed plainFloats consults.engine closed
  have flag := safe.opa rfl _ _ (.str "false") rfl rfl rfl rfl
  cases flag

end FailClosedExample

end CompetiScope
