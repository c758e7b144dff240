import Std.Data.String.ToNat
import Mathlib.Data.List.Nodup
import Mathlib.Data.Set.Function
import Mathlib.Tactic.IntervalCases
import CompetiScope.Foundation.Json
import CompetiScope.Foundation.Transition
import CompetiScope.Identity.StableIds

/-!
# The message queue of a run

Agents leave messages for each other in the record of a run.  A message is
consumed directly by the code that appended it, or with every other queued
message that passes the filters of an agent.
-/

namespace CompetiScope

open Foundation

/-- How a payload model declares one of the two fields the filters read. -/
inductive ScopeField where
  | forbidden
  | text
  | optionalText
  deriving DecidableEq

def ScopeField.accepts : ScopeField → Option Json → Bool
  | .forbidden, none => true
  | .text, some (.str _) => true
  | .optionalText, none => true
  | .optionalText, some .null => true
  | .optionalText, some (.str _) => true
  | _, _ => false

structure PayloadModel where
  dimension : ScopeField := .forbidden
  competitor : ScopeField := .forbidden

/-- `AGENT_MESSAGE_PAYLOAD_SCHEMAS`, with the fields the filters read. -/
def agentMessagePayloadSchemas : List (String × PayloadModel) :=
  [("AnalysisPlan", {}),
   ("AnalystDispatchPlan", {}),
   ("AnalysisTaskPayload", { dimension := .text, competitor := .text }),
   ("CollectTaskPayload", { dimension := .text, competitor := .optionalText }),
   ("CollectorDispatchPlan", {}),
   ("CommunitySearchSummary", { dimension := .text, competitor := .text }),
   ("ClaimCardBundle", {}),
   ("CompetitorKBDigest", {}),
   ("CompetitorKnowledge", { dimension := .optionalText, competitor := .text }),
   ("ComparisonMatrix", {}),
   ("DecisionCardBundle", {}),
   ("HitlLifecyclePayload", {}),
   ("HitlMemoryFeedbackPayload", {}),
   ("KBCacheEntry", { dimension := .text, competitor := .text }),
   ("MarkdownReport", {}),
   ("QCIssue[]", {}),
   ("RawSource[]", { dimension := .text, competitor := .optionalText }),
   ("RawSourceDigest", {}),
   ("RedoRequestPayload", {}),
   ("ReflectionRecord", {}),
   ("SurveyEvidenceBundle[]", {}),
   ("ToolError", { dimension := .optionalText })]

abbrev Payload := Dict String Json

/-- SHA-256, and the first error a registered payload model reports for a
payload: its location and its message. -/
structure MessageLibrary where
  sha256Hex : String → String
  modelValidate : String → Payload → Option (List String × String)

inductive MessageStatus where
  | queued
  | consumed
  deriving DecidableEq

structure AgentMessage where
  id : String
  runId : String
  fromAgent : String
  toAgent : String
  messageType : String
  payloadSchema : String
  payload : Payload := Dict.empty
  sourceMessageIds : List String := []
  traceSpanIds : List String := []
  status : MessageStatus := .queued
  consumedBy : Option String := none
  consumedAt : Option Nat := none
  consumerContextId : Option String := none
  createdAt : Nat

/-- The arguments of `_append_agent_message`. -/
structure MessageDraft where
  fromAgent : String
  toAgent : String
  messageType : String
  payloadSchema : String
  payload : Option Payload := none
  sourceMessageIds : Option (List String) := none
  traceSpanIds : Option (List String) := none

/-- The messages of a run and the number of its trace spans. -/
structure MessageRecord where
  runId : String
  traceSpans : Nat := 0
  messages : List AgentMessage := []

/-- Who consumes, and the clock at the position of each message. -/
structure Consumer where
  agent : String
  contextId : Option String := none
  clock : Nat → Nat

/-- The filters of `_consume_queued_agent_messages`. -/
structure QueueFilters where
  toAgent : String
  consumerAgent : Option String := none
  messageTypes : Option (List String) := none
  dimension : Option String := none
  competitor : Option String := none

/-- What the two consuming functions assign. -/
def AgentMessage.consumedAs (message : AgentMessage) (consumer : Consumer)
    (position : Nat) : AgentMessage :=
  { message with
    status := .consumed
    consumedBy := some consumer.agent
    consumedAt := some (consumer.clock position)
    consumerContextId := consumer.contextId }

namespace MessageLibrary

variable (library : MessageLibrary)

/-- `validate_agent_message_payload`. -/
def validateAgentMessagePayload (payloadSchema : String) (payload : Payload) :
    Except String Unit :=
  match agentMessagePayloadSchemas.lookup payloadSchema with
  | none =>
      .error ("agent_message.payload_schema.unregistered: " ++ payloadSchema)
  | some _ =>
      match library.modelValidate payloadSchema payload with
      | none => .ok ()
      | some (location, message) =>
          let place := String.intercalate "." location
          .error ("agent_message.payload_schema.invalid: " ++ payloadSchema ++
            "." ++ (if place = "" then "<root>" else place) ++ ": " ++ message)

def messageId (runId : String) (number : Nat) : String :=
  stablePrefixedId library.sha256Hex "msg" [.text runId, .number number] 16

/-- `_append_agent_message`. -/
def appendAgentMessage (draft : MessageDraft) (now : Nat)
    (record : MessageRecord) : MessageRecord × Except String AgentMessage :=
  let payload := draft.payload.getD Dict.empty
  match library.validateAgentMessagePayload draft.payloadSchema payload with
  | .error raised => (record, .error raised)
  | .ok () =>
      let message : AgentMessage :=
        { id := library.messageId record.runId (record.messages.length + 1)
          runId := record.runId
          fromAgent := draft.fromAgent
          toAgent := draft.toAgent
          messageType := draft.messageType
          payloadSchema := draft.payloadSchema
          payload := payload
          sourceMessageIds := draft.sourceMessageIds.getD []
          traceSpanIds := draft.traceSpanIds.getD
            ["span-" ++ toString (record.traceSpans + 1)]
          createdAt := now }
      let spans := if draft.traceSpanIds = none then 1 else 0
      ({ record with
         traceSpans := record.traceSpans + spans
         messages := record.messages ++ [message] }, .ok message)

/-- `_consume_agent_message` on the message at a position of the queue. -/
def consumeAgentMessage (consumer : Consumer) (position : Nat)
    (message : AgentMessage) : Except String AgentMessage :=
  if message.status = .consumed then
    .ok message
  else
    match library.validateAgentMessagePayload message.payloadSchema
        message.payload with
    | .error raised => .error raised
    | .ok () => .ok (message.consumedAs consumer position)

/-- The record after `_consume_agent_message` on one of its messages. -/
def consumeDirectly (consumer : Consumer) (position : Nat)
    (message : AgentMessage) (record : MessageRecord) :
    MessageRecord × Except String AgentMessage :=
  match library.consumeAgentMessage consumer position message with
  | .error raised => (record, .error raised)
  | .ok moved =>
      let spans := if message.status = .consumed then 0 else 1
      ({ record with
         traceSpans := record.traceSpans + spans
         messages := record.messages.set position moved }, .ok moved)

end MessageLibrary

/-- `payload.get(key) not in {None, wanted}`, unless nothing is wanted; a list
or a mapping has no hash. -/
def payloadAdmits (payload : Payload) (key : String) :
    Option String → Except String Bool
  | none => .ok true
  | some wanted =>
      match payload.get? key with
      | none => .ok true
      | some .null => .ok true
      | some (.str text) => .ok (text = wanted)
      | some (.arr _) => .error "unhashable type: 'list'"
      | some (.obj _) => .error "unhashable type: 'dict'"
      | some _ => .ok false

/-- The tests of `_consume_queued_agent_messages` on a message. -/
def QueueFilters.wants (filters : QueueFilters) (message : AgentMessage) :
    Except String Bool :=
  if message.status ≠ .queued ∨ message.toAgent ≠ filters.toAgent then
    .ok false
  else if (filters.messageTypes.any
      fun types => !types.contains message.messageType) then
    .ok false
  else
    match payloadAdmits message.payload "dimension" filters.dimension with
    | .error raised => .error raised
    | .ok false => .ok false
    | .ok true => payloadAdmits message.payload "competitor" filters.competitor

/-- `consumer_agent or to_agent`. -/
def QueueFilters.consumer (filters : QueueFilters) : String :=
  match filters.consumerAgent with
  | none => filters.toAgent
  | some agent => if agent = "" then filters.toAgent else agent

/-- What the loop over the queue leaves: it ends where a test raises. -/
structure QueueSweep where
  messages : List AgentMessage := []
  consumed : List AgentMessage := []
  raised : Option String := none

namespace MessageLibrary

variable (library : MessageLibrary)

/-- The loop of `_consume_queued_agent_messages`. -/
def sweep (filters : QueueFilters) (consumer : Consumer) :
    Nat → List AgentMessage → QueueSweep
  | _, [] => {}
  | position, message :: rest =>
      let later := sweep filters consumer (position + 1) rest
      match filters.wants message with
      | .error raised =>
          { messages := message :: rest
            raised := some raised }
      | .ok false => { later with messages := message :: later.messages }
      | .ok true =>
          match library.consumeAgentMessage consumer position message with
          | .error raised =>
              { messages := message :: rest
                raised := some raised }
          | .ok moved =>
              { later with
                messages := moved :: later.messages
                consumed := moved :: later.consumed }

/-- `_consume_queued_agent_messages`. -/
def consumeQueuedAgentMessages (filters : QueueFilters)
    (contextId : Option String) (clock : Nat → Nat) (record : MessageRecord) :
    MessageRecord × Except String (List AgentMessage) :=
  let swept := library.sweep filters
    { agent := filters.consumer
      contextId := contextId
      clock := clock } 0 record.messages
  ({ record with
     traceSpans := record.traceSpans + swept.consumed.length
     messages := swept.messages },
    match swept.raised with
    | some raised => .error raised
    | none => .ok swept.consumed)

end MessageLibrary

inductive MessageAction where
  | append (draft : MessageDraft) (now : Nat)
  | consume (position : Nat) (consumer : Consumer)
  | consumeQueued (filters : QueueFilters) (contextId : Option String)
      (clock : Nat → Nat)
  /-- Other code appends a trace span. -/
  | trace

/-- A call may raise, which leaves what it did before. -/
def MessageLibrary.step (library : MessageLibrary) (record : MessageRecord) :
    MessageAction → Option MessageRecord
  | .append draft now => some (library.appendAgentMessage draft now record).1
  | .consume position consumer =>
      match record.messages[position]? with
      | none => none
      | some message =>
          some (library.consumeDirectly consumer position message record).1
  | .consumeQueued filters contextId clock =>
      some (library.consumeQueuedAgentMessages filters contextId clock record).1
  | .trace => some { record with traceSpans := record.traceSpans + 1 }

/-! ## One message -/

@[simp]
theorem AgentMessage.consumedAs_status (message : AgentMessage)
    (consumer : Consumer) (position : Nat) :
    (message.consumedAs consumer position).status = .consumed :=
  rfl

/-- The tests of the filters that no operation changes. -/
def QueueFilters.Accepts (filters : QueueFilters) (message : AgentMessage) :
    Prop :=
  message.toAgent = filters.toAgent ∧
    (∀ types, filters.messageTypes = some types →
      message.messageType ∈ types) ∧
    (∀ dimension, filters.dimension = some dimension →
      message.payload.get? "dimension" ∈
        [none, some .null, some (.str dimension)]) ∧
    ∀ competitor, filters.competitor = some competitor →
      message.payload.get? "competitor" ∈
        [none, some .null, some (.str competitor)]

/-- The operation consumes the message at a position as the consumer, if it
is still queued. -/
inductive MessageAction.Takes :
    MessageAction → Nat → AgentMessage → Consumer → Prop where
  | direct (position : Nat) (consumer : Consumer) (message : AgentMessage) :
      Takes (.consume position consumer) position message consumer
  | filtered {filters : QueueFilters} {message : AgentMessage}
      (accepted : filters.Accepts message) (contextId : Option String)
      (clock : Nat → Nat) (position : Nat) :
      Takes (.consumeQueued filters contextId clock) position message
        { agent := filters.consumer
          contextId := contextId
          clock := clock }

def MessageAction.Ignores (action : MessageAction) (position : Nat)
    (message : AgentMessage) : Prop :=
  ∀ consumer, ¬ action.Takes position message consumer

/-- The dimension and the competitor of a payload are texts, if present. -/
def Payload.Scoped (payload : Payload) : Prop :=
  ∀ key ∈ ["dimension", "competitor"], ∀ value,
    payload.get? key = some value → value = .null ∨ ∃ text, value = .str text

theorem ScopeField.text_of_accepts {field : ScopeField} {value : Json}
    (accepted : field.accepts (some value) = true) :
    value = .null ∨ ∃ text, value = .str text := by
  cases field with
  | forbidden => simp [accepts] at accepted
  | text =>
      cases value with
      | str text => exact Or.inr ⟨text, rfl⟩
      | _ => simp [accepts] at accepted
  | optionalText =>
      cases value with
      | null => exact Or.inl rfl
      | str text => exact Or.inr ⟨text, rfl⟩
      | _ => simp [accepts] at accepted

theorem payloadAdmits_of_scoped {payload : Payload} (texts : payload.Scoped)
    {key : String} (read : key ∈ ["dimension", "competitor"])
    (wanted : Option String) :
    ∃ admitted, payloadAdmits payload key wanted = .ok admitted ∧
      (admitted = true ↔ ∀ value, wanted = some value →
        payload.get? key ∈ [none, some .null, some (.str value)]) := by
  cases wanted with
  | none => exact ⟨true, rfl, by simp⟩
  | some value =>
      cases found : payload.get? key with
      | none =>
          refine ⟨true, ?_, by simp⟩
          simp [payloadAdmits, found]
      | some entry =>
          rcases texts key read entry found with isNull | ⟨text, isText⟩
          · subst isNull
            refine ⟨true, ?_, by simp⟩
            simp [payloadAdmits, found]
          · subst isText
            refine ⟨decide (text = value), ?_, by simp⟩
            simp [payloadAdmits, found]

namespace QueueFilters

variable {filters : QueueFilters} {message : AgentMessage}

/-- The tests never raise on a scoped payload. -/
theorem wants_of_scoped (filters : QueueFilters)
    (texts : message.payload.Scoped) :
    ∃ wanted, filters.wants message = .ok wanted ∧
      (wanted = true ↔ message.status = .queued ∧ filters.Accepts message) := by
  by_cases skipped : message.status ≠ .queued ∨
      message.toAgent ≠ filters.toAgent
  · refine ⟨false, if_pos skipped, ?_⟩
    constructor
    · intro impossible
      cases impossible
    · rintro ⟨queued, accepted⟩
      rcases skipped with consumed | other
      · exact absurd queued consumed
      · exact absurd accepted.1 other
  · have addressed : message.status = .queued ∧
        message.toAgent = filters.toAgent := by
      simpa only [not_or, not_not] using skipped
    by_cases otherType : (filters.messageTypes.any
        fun types => !types.contains message.messageType) = true
    · refine ⟨false, ?_, ?_⟩
      · rw [wants, if_neg skipped, if_pos otherType]
      · constructor
        · intro impossible
          cases impossible
        · rintro ⟨_, accepted⟩
          cases filtered : filters.messageTypes with
          | none => simp [filtered] at otherType
          | some types =>
              have listed := accepted.2.1 types filtered
              simp [filtered, listed] at otherType
    · have typed : ∀ types, filters.messageTypes = some types →
          message.messageType ∈ types := by
        intro types filtered
        simpa [filtered] using otherType
      obtain ⟨inDimension, tested, dimensionIff⟩ :=
        payloadAdmits_of_scoped texts List.mem_cons_self filters.dimension
      obtain ⟨ofCompetitor, testedToo, competitorIff⟩ :=
        payloadAdmits_of_scoped texts
          (List.mem_cons_of_mem _ List.mem_cons_self) filters.competitor
      cases inDimension with
      | false =>
          refine ⟨false, ?_, ?_⟩
          · rw [wants, if_neg skipped, if_neg otherType, tested]
          · constructor
            · intro impossible
              cases impossible
            · rintro ⟨_, accepted⟩
              exact dimensionIff.mpr accepted.2.2.1
      | true =>
          refine ⟨ofCompetitor, ?_, ?_⟩
          · rw [wants, if_neg skipped, if_neg otherType, tested, ← testedToo]
          · rw [competitorIff]
            constructor
            · intro matching
              exact ⟨addressed.1, addressed.2, typed, dimensionIff.mp rfl,
                matching⟩
            · rintro ⟨_, accepted⟩
              exact accepted.2.2.2

end QueueFilters

namespace MessageLibrary

variable {library : MessageLibrary}

/-- A registered model refuses payloads whose dimension or competitor is not
of the declared type. -/
def ChecksScope (library : MessageLibrary) : Prop :=
  ∀ payloadSchema model payload,
    agentMessagePayloadSchemas.lookup payloadSchema = some model →
    library.modelValidate payloadSchema payload = none →
      model.dimension.accepts (payload.get? "dimension") = true ∧
        model.competitor.accepts (payload.get? "competitor") = true

theorem scoped_of_valid (checks : library.ChecksScope) {payloadSchema : String}
    {payload : Payload}
    (valid : library.validateAgentMessagePayload payloadSchema payload =
      .ok ()) :
    payload.Scoped := by
  rw [validateAgentMessagePayload] at valid
  cases registered : agentMessagePayloadSchemas.lookup payloadSchema with
  | none => simp [registered] at valid
  | some model =>
      cases checked : library.modelValidate payloadSchema payload with
      | some error => simp [registered, checked] at valid
      | none =>
          obtain ⟨dimension, competitor⟩ :=
            checks payloadSchema model payload registered checked
          intro key read value found
          rcases List.mem_pair.mp read with isDimension | isCompetitor
          · subst isDimension
            rw [found] at dimension
            exact ScopeField.text_of_accepts dimension
          · subst isCompetitor
            rw [found] at competitor
            exact ScopeField.text_of_accepts competitor

/-- What every message of the queue keeps. -/
structure Kept (library : MessageLibrary) (runId : String) (position : Nat)
    (message : AgentMessage) : Prop where
  numbered : message.id = library.messageId runId (position + 1)
  valid : library.validateAgentMessagePayload message.payloadSchema
    message.payload = .ok ()
  unread : message.status = .queued → message.consumedBy = none ∧
    message.consumedAt = none ∧ message.consumerContextId = none

theorem Kept.consumedAs {runId : String} {position : Nat}
    {message : AgentMessage} (kept : library.Kept runId position message)
    (consumer : Consumer) (place : Nat) :
    library.Kept runId position (message.consumedAs consumer place) := by
  constructor
  case numbered => exact kept.numbered
  case valid => exact kept.valid
  case unread =>
    intro queued
    cases queued

theorem consumeAgentMessage_of_kept {runId : String} {place : Nat}
    {message : AgentMessage} (kept : library.Kept runId place message)
    (consumer : Consumer) (position : Nat) :
    library.consumeAgentMessage consumer position message =
      .ok (if message.status = .consumed then message
        else message.consumedAs consumer position) := by
  rw [consumeAgentMessage]
  by_cases already : message.status = .consumed
  · rw [if_pos already, if_pos already]
  · rw [if_neg already, if_neg already, kept.valid]

end MessageLibrary

/-! ## One pass over the queue -/

/-- The messages a pass that never raises leaves, and those it moves. -/
inductive Swept (filters : QueueFilters) (consumer : Consumer) :
    Nat → List AgentMessage → List AgentMessage → List AgentMessage →
      Prop where
  | done (position : Nat) : Swept filters consumer position [] [] []
  | moves {position : Nat} {message : AgentMessage}
      {rest after consumed : List AgentMessage}
      (queued : message.status = .queued) (accepted : filters.Accepts message)
      (later : Swept filters consumer (position + 1) rest after consumed) :
      Swept filters consumer position (message :: rest)
        (message.consumedAs consumer position :: after)
        (message.consumedAs consumer position :: consumed)
  | stays {position : Nat} {message : AgentMessage}
      {rest after consumed : List AgentMessage}
      (passed : ¬ (message.status = .queued ∧ filters.Accepts message))
      (later : Swept filters consumer (position + 1) rest after consumed) :
      Swept filters consumer position (message :: rest) (message :: after)
        consumed

/-- The messages an operation moved, in the order of the queue. -/
def movedMessages (before after : List AgentMessage) : List AgentMessage :=
  (before.zip after).filterMap fun pair =>
    if pair.1.status = .queued ∧ pair.2.status = .consumed then
      some pair.2
    else
      none

namespace Swept

variable {filters : QueueFilters} {consumer : Consumer} {position : Nat}
  {before after consumed : List AgentMessage}

theorem consumed_eq
    (swept : Swept filters consumer position before after consumed) :
    consumed = movedMessages before after := by
  induction swept with
  | done position => rfl
  | moves queued accepted later induction =>
      simp [movedMessages, queued, induction]
  | stays passed later induction =>
      rw [movedMessages, List.zip_cons_cons, List.filterMap_cons_none, induction]
      · rfl
      · apply if_neg
        rintro ⟨queued, moved⟩
        rw [queued] at moved
        cases moved

/-- What becomes of the message at a place. -/
theorem at_place
    (swept : Swept filters consumer position before after consumed)
    {index : Nat} {message : AgentMessage}
    (found : before[index]? = some message) :
    ∃ later, after[index]? = some later ∧
      (message.status = .queued → filters.Accepts message →
        later = message.consumedAs consumer (position + index)) ∧
      (¬ (message.status = .queued ∧ filters.Accepts message) →
        later = message) := by
  induction swept generalizing index with
  | done position => simp at found
  | moves queued accepted later induction =>
      cases index with
      | zero =>
          cases found
          refine ⟨_, rfl, fun _ _ => rfl, ?_⟩
          intro passed
          exact absurd ⟨queued, accepted⟩ passed
      | succ index =>
          obtain ⟨final, kept, moved, stayed⟩ := induction found
          refine ⟨final, kept, ?_, stayed⟩
          rw [show ∀ start, start + (index + 1) = start + 1 + index by omega]
          exact moved
  | stays passed later induction =>
      cases index with
      | zero =>
          cases found
          refine ⟨_, rfl, ?_, fun _ => rfl⟩
          intro queued accepted
          exact absurd ⟨queued, accepted⟩ passed
      | succ index =>
          obtain ⟨final, kept, moved, stayed⟩ := induction found
          refine ⟨final, kept, ?_, stayed⟩
          rw [show ∀ start, start + (index + 1) = start + 1 + index by omega]
          exact moved

theorem length_eq
    (swept : Swept filters consumer position before after consumed) :
    after.length = before.length := by
  induction swept with
  | done position => rfl
  | moves queued accepted later induction => simp [induction]
  | stays passed later induction => simp [induction]

end Swept

namespace MessageLibrary

variable {library : MessageLibrary}

theorem sweep_swept (checks : library.ChecksScope) {runId : String}
    (filters : QueueFilters) (consumer : Consumer)
    {messages : List AgentMessage} {position : Nat}
    (kept : ∀ index message, messages[index]? = some message →
      library.Kept runId (position + index) message) :
    (library.sweep filters consumer position messages).raised = none ∧
      Swept filters consumer position messages
        (library.sweep filters consumer position messages).messages
        (library.sweep filters consumer position messages).consumed := by
  induction messages generalizing position with
  | nil => exact ⟨rfl, .done position⟩
  | cons message rest induction =>
      have here : library.Kept runId position message := kept 0 message rfl
      obtain ⟨returns, later⟩ := @induction (position + 1) (by
        intro index other found
        rw [show position + 1 + index = position + (index + 1) by omega]
        exact kept (index + 1) other found)
      obtain ⟨wanted, tested, wantedIff⟩ :=
        filters.wants_of_scoped (scoped_of_valid checks here.valid)
      have consumption :=
        consumeAgentMessage_of_kept here consumer position
      cases wanted with
      | false =>
          have passed : ¬ (message.status = .queued ∧
              filters.Accepts message) := by
            simpa using wantedIff
          rw [sweep, tested]
          exact ⟨returns, .stays passed later⟩
      | true =>
          obtain ⟨queued, accepted⟩ := wantedIff.mp rfl
          have unread : message.status ≠ .consumed := by
            rw [queued]
            decide
          rw [if_neg unread] at consumption
          rw [sweep, tested, consumption]
          exact ⟨returns, .moves queued accepted later⟩

/-! ## Runs of the queue -/

def KeptRecord (library : MessageLibrary) (record : MessageRecord) : Prop :=
  ∀ index message, record.messages[index]? = some message →
    library.Kept record.runId index message

/-- What an operation does to the message at a position. -/
structure Changed (action : MessageAction) (position : Nat)
    (message after : AgentMessage) : Prop where
  taken : message.status = .queued → ∀ consumer,
    action.Takes position message consumer →
      after = message.consumedAs consumer position
  left : message.status = .consumed ∨ action.Ignores position message →
    after = message

theorem Changed.kept {action : MessageAction} {position : Nat}
    {message after : AgentMessage} {runId : String}
    (changed : Changed action position message after)
    (kept : library.Kept runId position message) :
    library.Kept runId position after := by
  by_cases ignored : message.status = .consumed ∨
      action.Ignores position message
  · rw [changed.left ignored]
    exact kept
  · rw [not_or, MessageAction.Ignores, not_forall] at ignored
    obtain ⟨unread, consumer, takes⟩ := ignored
    have queued : message.status = .queued := by
      cases known : message.status with
      | queued => rfl
      | consumed => exact absurd known unread
    rw [changed.taken queued consumer (not_not.mp takes)]
    exact kept.consumedAs consumer position

theorem consumeQueued_swept (checks : library.ChecksScope)
    {record : MessageRecord} (kept : library.KeptRecord record)
    (filters : QueueFilters) (contextId : Option String)
    (clock : Nat → Nat) :
    ∃ consumed,
      (library.consumeQueuedAgentMessages filters contextId clock record).2 =
        .ok consumed ∧
      Swept filters
        { agent := filters.consumer
          contextId := contextId
          clock := clock } 0 record.messages
        (library.consumeQueuedAgentMessages filters contextId clock
          record).1.messages consumed := by
  obtain ⟨returns, swept⟩ := @sweep_swept library checks record.runId filters
    { agent := filters.consumer
      contextId := contextId
      clock := clock } record.messages 0 (by simpa [KeptRecord] using kept)
  refine ⟨_, ?_, swept⟩
  rw [consumeQueuedAgentMessages, returns]

/-- What a step does to the messages that are there. -/
theorem step_changed (checks : library.ChecksScope)
    {record next : MessageRecord} {action : MessageAction}
    (kept : library.KeptRecord record)
    (stepped : library.step record action = some next)
    {position : Nat} {message : AgentMessage}
    (found : record.messages[position]? = some message) :
    ∃ after, next.messages[position]? = some after ∧
      Changed action position message after := by
  have unchanged : (∀ consumer, ¬ action.Takes position message consumer) →
      Changed action position message message := by
    intro ignored
    constructor
    case taken =>
      intro queued consumer takes
      exact absurd takes (ignored consumer)
    case left =>
      intro known
      rfl
  cases action with
  | append draft now =>
      refine ⟨message, ?_, unchanged (by rintro consumer ⟨⟩)⟩
      cases stepped
      have inside := (List.getElem?_eq_some_iff.mp found).1
      unfold appendAgentMessage
      dsimp only
      split
      · exact found
      · rw [List.getElem?_append_left inside]
        exact found
  | consume place consumer =>
      cases there : record.messages[place]? with
      | none => simp [step, there] at stepped
      | some target =>
          have settled := consumeAgentMessage_of_kept (kept place target there)
            consumer place
          simp only [step, there, consumeDirectly, settled,
            Option.some.injEq] at stepped
          subst stepped
          by_cases here : place = position
          · subst here
            have same : target = message := by
              rw [there] at found
              exact Option.some.inj found
            subst same
            have inside := (List.getElem?_eq_some_iff.mp found).1
            refine ⟨_, List.getElem?_set_self inside, ?_⟩
            constructor
            case taken =>
              intro queued other takes
              cases takes
              rw [if_neg (by rw [queued]; decide)]
            case left =>
              rintro (consumed | ignored)
              · rw [if_pos consumed]
              · exact absurd (.direct place consumer target) (ignored consumer)
          · refine ⟨message, ?_, unchanged ?_⟩
            · rw [List.getElem?_set_ne here]
              exact found
            · rintro other takes
              cases takes
              exact here rfl
  | consumeQueued filters contextId clock =>
      obtain ⟨consumed, returned, swept⟩ :=
        consumeQueued_swept checks kept filters contextId clock
      cases stepped
      obtain ⟨after, there, moved, stayed⟩ := swept.at_place found
      refine ⟨after, there, ?_⟩
      constructor
      case taken =>
        intro queued consumer takes
        cases takes with
        | filtered accepted =>
            rw [moved queued accepted, Nat.zero_add]
      case left =>
        rintro (already | ignored)
        · apply stayed
          rintro ⟨queued, _⟩
          rw [queued] at already
          cases already
        · apply stayed
          rintro ⟨_, accepted⟩
          exact ignored _ (.filtered accepted contextId clock position)
  | trace =>
      cases stepped
      exact ⟨message, found, unchanged (by rintro consumer ⟨⟩)⟩

/-- Only an append makes the queue longer, by a message of its own. -/
theorem step_messages (checks : library.ChecksScope)
    {record next : MessageRecord} {action : MessageAction}
    (kept : library.KeptRecord record)
    (stepped : library.step record action = some next) :
    next.runId = record.runId ∧
      (next.messages.length = record.messages.length ∨
        ∃ message, next.messages = record.messages ++ [message] ∧
          library.Kept record.runId record.messages.length message) := by
  cases action with
  | append draft now =>
      cases stepped
      unfold appendAgentMessage
      dsimp only
      split
      · exact ⟨rfl, Or.inl rfl⟩
      · rename_i valid
        refine ⟨rfl, Or.inr ⟨_, rfl, ?_⟩⟩
        constructor
        case numbered => rfl
        case valid => exact valid
        case unread => exact fun _ => ⟨rfl, rfl, rfl⟩
  | consume place consumer =>
      cases there : record.messages[place]? with
      | none => simp [step, there] at stepped
      | some target =>
          have settled := consumeAgentMessage_of_kept (kept place target there)
            consumer place
          simp only [step, there, consumeDirectly, settled,
            Option.some.injEq] at stepped
          subst stepped
          exact ⟨rfl, Or.inl (List.length_set)⟩
  | consumeQueued filters contextId clock =>
      obtain ⟨consumed, returned, swept⟩ :=
        consumeQueued_swept checks kept filters contextId clock
      cases stepped
      exact ⟨rfl, Or.inl swept.length_eq⟩
  | trace =>
      cases stepped
      exact ⟨rfl, Or.inl rfl⟩

theorem step_kept (checks : library.ChecksScope)
    (record : MessageRecord) (action : MessageAction) (next : MessageRecord)
    (kept : library.KeptRecord record)
    (stepped : library.step record action = some next) :
    library.KeptRecord next := by
  obtain ⟨sameRun, grown⟩ := step_messages checks kept stepped
  have old : ∀ position message, position < record.messages.length →
      next.messages[position]? = some message →
        library.Kept next.runId position message := by
    intro position message inside found
    obtain ⟨after, there, changed⟩ := step_changed checks kept stepped
      (List.getElem?_eq_getElem inside)
    rw [there] at found
    rw [sameRun, ← Option.some.inj found]
    exact changed.kept (kept position _ (List.getElem?_eq_getElem inside))
  intro position message found
  have inside := (List.getElem?_eq_some_iff.mp found).1
  rcases grown with same | ⟨added, isAppended, addedKept⟩
  · exact old position message (by rwa [same] at inside) found
  · by_cases known : position < record.messages.length
    · exact old position message known found
    · have last : position = record.messages.length := by
        rw [isAppended, List.length_append, List.length_singleton] at inside
        omega
      subst last
      rw [isAppended, List.getElem?_concat_length] at found
      rw [sameRun, ← Option.some.inj found]
      exact addedKept

/-- What a run leaves of a message that was there at its start. -/
structure Settled (later : List MessageAction) (position : Nat)
    (message after : AgentMessage) : Prop where
  /-- A consumed message never changes. -/
  consumed : message.status = .consumed → after = message
  /-- Nor does a message no filter matches. -/
  ignored : (∀ action ∈ later, action.Ignores position message) →
    after = message
  /-- The first consumer whose filters match is the only one. -/
  taken : message.status = .queued → ∀ skipped taker rest consumer,
    later = skipped ++ taker :: rest →
    (∀ action ∈ skipped, action.Ignores position message) →
    taker.Takes position message consumer →
      after = message.consumedAs consumer position

theorem run_settled (checks : library.ChecksScope)
    {record final : MessageRecord} {actions : List MessageAction}
    (kept : library.KeptRecord record)
    (run : exec library.step record actions = some final)
    {position : Nat} {message : AgentMessage}
    (found : record.messages[position]? = some message) :
    ∃ after, final.messages[position]? = some after ∧
      Settled actions position message after := by
  induction actions generalizing record message with
  | nil =>
      cases run
      refine ⟨message, found, ?_⟩
      constructor
      case consumed => exact fun _ => rfl
      case ignored => exact fun _ => rfl
      case taken => simp
  | cons action actions induction =>
      obtain ⟨next, stepped, rest⟩ := exec_cons_eq_some.mp run
      obtain ⟨middle, there, changed⟩ :=
        step_changed checks kept stepped found
      obtain ⟨after, atEnd, settled⟩ := induction
        (step_kept checks record action next kept stepped) rest there
      refine ⟨after, atEnd, ?_⟩
      constructor
      case consumed =>
        intro consumed
        have same := changed.left (Or.inl consumed)
        subst same
        exact settled.consumed consumed
      case ignored =>
        intro ignored
        have same := changed.left (Or.inr (ignored action List.mem_cons_self))
        subst same
        exact settled.ignored fun other member =>
          ignored other (List.mem_cons_of_mem action member)
      case taken =>
        intro queued skipped taker others consumer split ignored takes
        cases skipped with
        | nil =>
            cases split
            have moved := changed.taken queued consumer takes
            subst moved
            exact settled.consumed rfl
        | cons first skipped =>
            cases split
            have same := changed.left
              (Or.inr (ignored action List.mem_cons_self))
            subst same
            exact settled.taken queued skipped taker others consumer rfl
              (fun other member =>
                ignored other (List.mem_cons_of_mem action member)) takes

/-! ## Ids -/

/-- The front of the digest that an id keeps. -/
def idDigest (library : MessageLibrary) (text : String) : List Char :=
  (library.sha256Hex text).toList.take 16

/-- The texts hashed for the ids of the first messages of a run. -/
def hashedTexts (runId : String) (count : Nat) : Set String :=
  { text | ∃ number ≤ count,
    text = String.intercalate "|" [strip runId, toString number] }

theorem hashedTexts_inj {runId : String} {first second : Nat}
    (same : String.intercalate "|" [strip runId, toString first] =
      String.intercalate "|" [strip runId, toString second]) :
    first = second := by
  have joined := congrArg String.toList same
  simp only [String.toList_intercalate, List.map_cons, List.map_nil,
    List.intercalate_cons_cons, List.intercalate_singleton,
    List.append_cancel_left_eq, String.toList_inj] at joined
  exact Nat.repr_injective joined

theorem messageId_inj {runId : String} {count first second : Nat}
    (collisionFree : Set.InjOn library.idDigest (hashedTexts runId count))
    (firstCounted : first ≤ count) (secondCounted : second ≤ count)
    (same : library.messageId runId first = library.messageId runId second) :
    first = second := by
  have texts := congrArg String.toList same
  simp only [messageId, stablePrefixedId, String.toList_append,
    List.append_cancel_left_eq, String.toList_ofList] at texts
  exact hashedTexts_inj
    (collisionFree ⟨first, firstCounted, rfl⟩ ⟨second, secondCounted, rfl⟩
      texts)

theorem KeptRecord.ids_nodup {record : MessageRecord}
    (kept : library.KeptRecord record)
    (collisionFree : Set.InjOn library.idDigest
      (hashedTexts record.runId record.messages.length)) :
    (record.messages.map AgentMessage.id).Nodup := by
  rw [List.nodup_iff_injective_get]
  intro first second same
  have numbered : ∀ place : Fin (record.messages.map AgentMessage.id).length,
      (record.messages.map AgentMessage.id).get place =
        library.messageId record.runId (place + 1) := by
    intro place
    have inside : place.val < record.messages.length := by
      simpa using place.isLt
    have known := kept place _ (List.getElem?_eq_getElem inside)
    simpa using known.numbered
  rw [numbered, numbered] at same
  have counted : ∀ place : Fin (record.messages.map AgentMessage.id).length,
      place.val + 1 ≤ record.messages.length := by
    intro place
    exact Nat.succ_le_of_lt (by simpa using place.isLt)
  have equal := messageId_inj collisionFree (counted first) (counted second)
    same
  exact Fin.ext (Nat.succ.inj equal)

theorem run_kept (checks : library.ChecksScope) {record final : MessageRecord}
    {actions : List MessageAction} (kept : library.KeptRecord record)
    (run : exec library.step record actions = some final) :
    library.KeptRecord final :=
  exec_invariant (step_kept checks) kept run

theorem run_runId (checks : library.ChecksScope) {record final : MessageRecord}
    {actions : List MessageAction} (kept : library.KeptRecord record)
    (run : exec library.step record actions = some final) :
    final.runId = record.runId := by
  let sameRun (state : MessageRecord) : Prop :=
    library.KeptRecord state ∧ state.runId = record.runId
  have preserved : ∀ state action next, sameRun state →
      library.step state action = some next → sameRun next := by
    rintro state action next ⟨here, same⟩ stepped
    exact ⟨step_kept checks state action next here stepped,
      (step_messages checks here stepped).1.trans same⟩
  exact (exec_invariant preserved ⟨kept, rfl⟩ run).2

/-- In every run of the queue the ids stay distinct, a message is consumed by
the first consumer whose filters match and by no other, nothing else of it
changes, and a pass over the queue returns what it moved. -/
theorem agentMessages_exactlyOnce (checks : library.ChecksScope)
    {runId : String} {traceSpans : Nat} {actions : List MessageAction}
    {final : MessageRecord}
    (run : exec library.step
      { runId := runId
        traceSpans := traceSpans } actions = some final)
    (collisionFree : Set.InjOn library.idDigest
      (hashedTexts runId final.messages.length)) :
    (final.messages.map AgentMessage.id).Nodup ∧
    (∀ message ∈ final.messages, message.status = .queued →
      message.consumedBy = none ∧ message.consumedAt = none ∧
        message.consumerContextId = none) ∧
    ∀ past later middle, actions = past ++ later →
      exec library.step
        { runId := runId
          traceSpans := traceSpans } past = some middle →
      (∀ position message, middle.messages[position]? = some message →
        ∃ after, final.messages[position]? = some after ∧
          Settled later position message after) ∧
      ∀ filters contextId clock rest,
        later = .consumeQueued filters contextId clock :: rest →
          (library.consumeQueuedAgentMessages filters contextId clock
            middle).2 =
          .ok (movedMessages middle.messages
            (library.consumeQueuedAgentMessages filters contextId clock
              middle).1.messages) := by
  have start : library.KeptRecord
      { runId := runId
        traceSpans := traceSpans } := by
    intro position message found
    simp at found
  have kept := run_kept checks start run
  refine ⟨?_, ?_, ?_⟩
  · apply kept.ids_nodup
    rw [run_runId checks start run]
    exact collisionFree
  · intro message member
    obtain ⟨position, inside, there⟩ := List.getElem_of_mem member
    have found : final.messages[position]? = some message := by
      rw [List.getElem?_eq_getElem inside, there]
    exact (kept position message found).unread
  · intro past later middle split before
    subst split
    obtain ⟨other, reached, rest⟩ := exec_append_eq_some.mp run
    have same : other = middle := Option.some.inj (reached.symm.trans before)
    subst same
    have keptThere := run_kept checks start before
    constructor
    · intro position message found
      exact run_settled checks keptThere rest found
    · intro filters contextId clock remaining isNext
      obtain ⟨consumed, returned, swept⟩ :=
        consumeQueued_swept checks keptThere filters contextId clock
      rw [returned, swept.consumed_eq]

end MessageLibrary

namespace MessageExample

def digest (text : String) : String :=
  if text = "run-7|0" then
    "c4c81b10be38489f253820ae04ae53a6de720b2470729305fd206b055abbf0e2"
  else if text = "run-7|1" then
    "ebc61f10b28e9c3d17c7bf52dfd5c371f631d77868d966e9fab601270f4fc17e"
  else
    "b684a41d466b12c93a4223ffbbe17278f2d785bfb7335a2b550432e07ce1ce7a"

def library : MessageLibrary :=
  { sha256Hex := digest
    modelValidate := fun payloadSchema payload =>
      match agentMessagePayloadSchemas.lookup payloadSchema with
      | none => none
      | some model =>
          if model.dimension.accepts (payload.get? "dimension") = true ∧
              model.competitor.accepts (payload.get? "competitor") = true then
            none
          else
            some (["dimension"], "Field required") }

theorem library_checksScope : library.ChecksScope := by
  intro payloadSchema model payload registered accepted
  simp only [library, registered] at accepted
  by_contra refused
  rw [if_neg refused] at accepted
  cases accepted

def draft (dimension : String) : MessageDraft :=
  { fromAgent := "collector"
    toAgent := "analyst"
    messageType := "raw_sources_ready"
    payloadSchema := "RawSource[]"
    payload := some (Dict.empty.set "dimension" (.str dimension)) }

/-- Two messages, a pass for one dimension and a late direct consumption. -/
def actions : List MessageAction :=
  [.append (draft "pricing") 1,
   .append (draft "security") 2,
   .consumeQueued
     { toAgent := "analyst"
       dimension := some "pricing" } (some "context-1") (fun _ => 3),
   .trace,
   .consume 0
     { agent := "comparator"
       clock := fun _ => 4 }]

theorem digests_differ :
    Set.InjOn library.idDigest (MessageLibrary.hashedTexts "run-7" 2) := by
  rintro _ ⟨first, firstSmall, rfl⟩ _ ⟨second, secondSmall, rfl⟩ same
  interval_cases first <;> interval_cases second <;>
    first | rfl | exact absurd same (by decide +kernel)

theorem agentMessages_exactlyOnce_pass :
    ∃ final, exec library.step { runId := "run-7" } actions = some final ∧
      (final.messages.map AgentMessage.id).Nodup ∧
      final.messages.map AgentMessage.consumedBy = [some "analyst", none] ∧
      final.messages.map AgentMessage.consumedAt = [some 3, none] := by
  have ran : exec library.step { runId := "run-7" } actions = some _ := rfl
  have sound := MessageLibrary.agentMessages_exactlyOnce library_checksScope ran
    digests_differ
  exact ⟨_, ran, sound.1, rfl, rfl⟩

end MessageExample

end CompetiScope
