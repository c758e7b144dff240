import CompetiScope.Foundation.Transition
import Mathlib.Data.List.Nodup

/-!
# The event streams of a run

A stream replays the events of a run and follows the new ones: behind a queue
of its own, or, with a journal, by reading the events again and again.  A run
interleaves what is emitted with the reads of any number of streams.
-/

namespace CompetiScope

open Foundation

/-- A `RunEvent`: its id, and all the rest of it. -/
structure RunEvent (Body : Type) where
  id : Nat
  body : Body

/-- Where the generator `stream_events` is suspended. -/
inductive StreamPhase (Body : Type) where
  /-- In the loop over `record.events`. -/
  | replays (position : Nat)
  | listens (queue : List (RunEvent Body))
  /-- In the loop over a list of events that was read from the journal. -/
  | polls (source position : Nat)
  /-- In `asyncio.sleep`, or not started. -/
  | sleeps
  | closed

structure EventStream (Body : Type) where
  phase : StreamPhase Body
  yielded : List (RunEvent Body)

/-- A run record, with the rows of its events in the journal.  A list that
`record.events` was before lives on in the streams that loop over it. -/
structure EventHub (Body : Type) where
  rows : Option (List (RunEvent Body))
  events : List (RunEvent Body) := []
  retired : List (List (RunEvent Body)) := []
  /-- The streams that own the queues of `record.subscribers`. -/
  subscribers : List Nat := []
  streams : List (EventStream Body) := []

inductive HubAction (Body : Type) where
  | emit (body : Body)
  /-- `_load_run_record` of some reader. -/
  | load
  | stream
  | read (index : Nat)
  | close (index : Nat)

variable {Body : Type}

/-- `insert or replace`, read in the order of the ids. -/
def insertRow (event : RunEvent Body) (rows : List (RunEvent Body)) :
    List (RunEvent Body) :=
  rows.filter (·.id < event.id) ++ event :: rows.filter (event.id < ·.id)

/-- `queue.put`. -/
def EventStream.put (event : RunEvent Body) (stream : EventStream Body) :
    EventStream Body :=
  match stream.phase with
  | .listens queue => { stream with phase := .listens (queue ++ [event]) }
  | _ => stream

namespace EventHub

variable (hub : EventHub Body)

/-- `emit`, and `_append_run_event_sync`. -/
def emit (body : Body) : EventHub Body :=
  let event :=
    { id := hub.events.length + 1
      body := body }
  { hub with
    events := hub.events ++ [event]
    rows := hub.rows.map (insertRow event)
    streams := hub.subscribers.foldl
      (fun streams index => streams.modify index (EventStream.put event))
      hub.streams }

/-- `_load_run_record`. -/
def load : EventHub Body :=
  match hub.rows with
  | none => hub
  | some rows =>
      { hub with
        events := rows
        retired := hub.retired ++ [hub.events] }

/-- A list of events as it is now. -/
def listAt (source : Nat) : List (RunEvent Body) :=
  (hub.retired ++ [hub.events])[source]?.getD []

def setStream (index : Nat) (stream : EventStream Body) : EventHub Body :=
  { hub with streams := hub.streams.set index stream }

/-- The loop over a list that was read, to the next event not yielded. -/
def poll (index : Nat) (stream : EventStream Body)
    (source position : Nat) : EventHub Body :=
  let list := hub.listAt source
  match (list.drop position).dropWhile fun event =>
      event.id ∈ stream.yielded.map (·.id) with
  | [] => hub.setStream index { stream with phase := .sleeps }
  | event :: rest =>
      hub.setStream index
        { phase := .polls source (list.length - rest.length)
          yielded := stream.yielded ++ [event] }

/-- A stream runs on to its next event, or to where it waits for one. -/
def read (index : Nat) (stream : EventStream Body) :
    Option (EventHub Body) :=
  match stream.phase with
  | .replays position =>
      match hub.events[position]? with
      | some event =>
          some (hub.setStream index
            { phase := .replays (position + 1)
              yielded := stream.yielded ++ [event] })
      | none =>
          some
            { hub.setStream index { stream with phase := .listens [] } with
              subscribers := hub.subscribers ++ [index] }
  | .listens (event :: queue) =>
      some (hub.setStream index
        { phase := .listens queue
          yielded := stream.yielded ++ [event] })
  | .polls source position => some (hub.poll index stream source position)
  | .sleeps => some (hub.load.poll index stream hub.load.retired.length 0)
  | .listens [] | .closed => none

def step : HubAction Body → Option (EventHub Body)
  | .emit body => some (hub.emit body)
  | .load => some hub.load
  | .stream =>
      some
        { hub with
          streams := hub.streams ++
            [{ phase := if hub.rows.isSome then .sleeps else .replays 0
               yielded := [] }] }
  | .read index => hub.streams[index]?.bind (hub.read index)
  | .close index =>
      hub.streams[index]?.map fun stream =>
        { hub.setStream index { stream with phase := .closed } with
          subscribers := hub.subscribers.erase index }

/-- A run record without events, with a journal or without one. -/
def start (journaled : Bool) : EventHub Body :=
  { rows := if journaled then some [] else none }

end EventHub

/-! ## What a stream has and what it gets -/

def StreamPhase.isListening : StreamPhase Body → Bool
  | .listens _ => true
  | _ => false

def StreamPhase.isOpen : StreamPhase Body → Bool
  | .closed => false
  | _ => true

/-- Where a stream goes on misses none of the events. -/
def StreamPhase.Fits (events yielded : List (RunEvent Body)) :
    StreamPhase Body → Prop
  | .replays position => position = yielded.length
  | .listens queue => yielded ++ queue = events
  | .polls _ position => position ≤ yielded.length
  | .sleeps | .closed => True

/-- A stream yielded the first of the events, and knows where the others
are. -/
structure EventStream.Follows (events : List (RunEvent Body))
    (stream : EventStream Body) : Prop where
  inOrder : stream.yielded <+: events
  here : stream.phase.Fits events stream.yielded

structure EventHub.Sound (hub : EventHub Body) : Prop where
  numbered : ∀ index event, hub.events[index]? = some event →
    event.id = index + 1
  recorded : ∀ rows ∈ hub.rows, rows = hub.events
  retired : ∀ list ∈ hub.retired, list <+: hub.events
  subscribed : hub.subscribers.Nodup
  listening : ∀ index, index ∈ hub.subscribers ↔
    (hub.streams[index]?.map (·.phase.isListening)) = some true
  follows : ∀ stream ∈ hub.streams, stream.Follows hub.events

section Lists

variable {events yielded list : List (RunEvent Body)}

theorem append_next {event : RunEvent Body} (front : yielded <+: events)
    (next : events[yielded.length]? = some event) :
    yielded ++ [event] <+: events := by
  obtain ⟨rest, rfl⟩ := front
  rw [List.getElem?_append_right (Nat.le_refl _), Nat.sub_self] at next
  cases rest with
  | nil => cases next
  | cons first rest =>
      cases next
      exact ⟨rest, List.append_assoc _ _ _⟩

theorem getElem?_of_front {index : Nat} {event : RunEvent Body}
    (front : list <+: events) (found : list[index]? = some event) :
    events[index]? = some event := by
  obtain ⟨rest, rfl⟩ := front
  rw [List.getElem?_append_left (List.getElem?_eq_some_iff.mp found).1]
  exact found

/-- Only what was yielded is skipped. -/
theorem dropWhile_yielded
    (numbered : ∀ index event, events[index]? = some event →
      event.id = index + 1)
    (inOrder : yielded <+: events) (front : list <+: events) :
    ∀ position ≤ yielded.length,
      (list.drop position).dropWhile (fun event =>
        event.id ∈ yielded.map (·.id)) = list.drop yielded.length := by
  intro position few
  induction few using Nat.decreasingInduction with
  | self =>
      cases isRest : list.drop yielded.length with
      | nil => rfl
      | cons event rest =>
          have found : list[yielded.length]? = some event := by
            rw [← Nat.add_zero yielded.length, ← List.getElem?_drop, isRest]
            rfl
          have isId := numbered _ _ (getElem?_of_front front found)
          apply List.dropWhile_cons_of_neg
          rw [decide_eq_true_eq, List.mem_map]
          rintro ⟨other, member, sameId⟩
          obtain ⟨index, isOther⟩ := List.mem_iff_getElem?.mp member
          have otherId := numbered _ _ (getElem?_of_front inOrder isOther)
          have short := (List.getElem?_eq_some_iff.mp isOther).1
          omega
  | of_succ position few induction =>
      rw [← induction]
      cases isRest : list.drop position with
      | nil =>
          rw [List.drop_eq_nil_iff] at isRest
          rw [List.drop_eq_nil_of_le (Nat.le_succ_of_le isRest)]
      | cons event rest =>
          have found : list[position]? = some event := by
            rw [← Nat.add_zero position, ← List.getElem?_drop, isRest]
            rfl
          have isTail : list.drop (position + 1) = rest := by
            rw [← List.tail_drop, isRest]
            rfl
          have isId := numbered _ _ (getElem?_of_front front found)
          have isYielded : ∃ other, yielded[position]? = some other :=
            ⟨_, List.getElem?_eq_getElem few⟩
          obtain ⟨other, isOther⟩ := isYielded
          have otherId := numbered _ _ (getElem?_of_front inOrder isOther)
          rw [isTail]
          apply List.dropWhile_cons_of_pos
          rw [decide_eq_true_eq, List.mem_map]
          exact ⟨other, List.mem_of_getElem? isOther, by omega⟩

end Lists

/-! ## What a step keeps -/

section Steps

variable {hub : EventHub Body} {stream next : EventStream Body} {index : Nat}

namespace EventHub

theorem listAt_front (sound : hub.Sound) (source : Nat) :
    hub.listAt source <+: hub.events := by
  unfold listAt
  cases found : (hub.retired ++ [hub.events])[source]? with
  | none => exact List.nil_prefix
  | some list =>
      rcases List.mem_append.mp (List.mem_of_getElem? found) with old | new
      · exact sound.retired list old
      · rw [Option.getD_some, List.mem_singleton.mp new]

/-- One stream moves, and its queue comes to the subscribers or goes. -/
theorem Sound.setStream (sound : hub.Sound) {subscribers : List Nat}
    (found : hub.streams[index]? = some stream)
    (distinct : subscribers.Nodup)
    (own : index ∈ subscribers ↔ next.phase.isListening = true)
    (others : ∀ other, other ≠ index →
      (other ∈ subscribers ↔ other ∈ hub.subscribers))
    (follows : next.Follows hub.events) :
    ({ hub.setStream index next with subscribers := subscribers } :
      EventHub Body).Sound :=
  { numbered := sound.numbered
    recorded := sound.recorded
    retired := sound.retired
    subscribed := distinct
    listening := by
      intro other
      rw [EventHub.setStream, List.getElem?_set]
      by_cases isOther : index = other
      · subst isOther
        rw [if_pos rfl, if_pos (List.getElem?_eq_some_iff.mp found).1,
          Option.map_some, Option.some.injEq]
        exact own
      · rw [if_neg isOther]
        exact (others other (Ne.symm isOther)).trans (sound.listening other)
    follows := by
      intro other member
      rcases List.mem_or_eq_of_mem_set member with old | isNew
      · exact sound.follows other old
      · rw [isNew]
        exact follows }

theorem Sound.moved (sound : hub.Sound)
    (found : hub.streams[index]? = some stream)
    (same : next.phase.isListening = stream.phase.isListening)
    (follows : next.Follows hub.events) : (hub.setStream index next).Sound := by
  refine sound.setStream found sound.subscribed ?_ (fun _ _ => Iff.rfl)
    follows
  rw [sound.listening, found, Option.map_some, Option.some.injEq, same]

theorem Sound.poll (sound : hub.Sound) {source position : Nat}
    (found : hub.streams[index]? = some stream)
    (follows : stream.Follows hub.events)
    (quiet : stream.phase.isListening = false)
    (few : position ≤ stream.yielded.length) :
    (hub.poll index stream source position).Sound := by
  have front := listAt_front sound source
  unfold EventHub.poll
  dsimp only
  rw [dropWhile_yielded sound.numbered follows.inOrder front position few]
  cases isRest : (hub.listAt source).drop stream.yielded.length with
  | nil =>
      refine sound.moved found ?_ ?_
      · exact quiet.symm
      · exact ⟨follows.inOrder, trivial⟩
  | cons event rest =>
      have isNext : (hub.listAt source)[stream.yielded.length]? =
          some event := by
        rw [← Nat.add_zero stream.yielded.length, ← List.getElem?_drop,
          isRest]
        rfl
      have lengths := congrArg List.length isRest
      rw [List.length_drop, List.length_cons] at lengths
      refine sound.moved found ?_ ?_
      · exact quiet.symm
      · refine ⟨append_next follows.inOrder
          (getElem?_of_front front isNext), ?_⟩
        change _ ≤ (stream.yielded ++ [event]).length
        rw [List.length_append, List.length_singleton]
        omega

theorem Sound.load (sound : hub.Sound) :
    hub.load.Sound ∧ hub.load.events = hub.events ∧
      hub.load.streams = hub.streams := by
  unfold EventHub.load
  cases isRows : hub.rows with
  | none => exact ⟨sound, rfl, rfl⟩
  | some rows =>
      have same := sound.recorded rows isRows
      subst same
      refine ⟨?_, rfl, rfl⟩
      exact
        { numbered := sound.numbered
          recorded := by
            rintro rows isNew
            exact sound.recorded rows (isRows.trans isNew)
          retired := by
            intro list member
            rcases List.mem_append.mp member with old | isNew
            · exact sound.retired list old
            · rw [List.mem_singleton.mp isNew]
          subscribed := sound.subscribed
          listening := sound.listening
          follows := sound.follows }

/-- Every subscriber gets the event once. -/
theorem getElem?_put (event : RunEvent Body) {subscribers : List Nat}
    (distinct : subscribers.Nodup) (streams : List (EventStream Body))
    (index : Nat) :
    (subscribers.foldl (fun streams index =>
      streams.modify index (EventStream.put event)) streams)[index]? =
      if index ∈ subscribers then streams[index]?.map (·.put event)
      else streams[index]? := by
  induction subscribers generalizing streams with
  | nil => simp
  | cons first subscribers induction =>
      obtain ⟨isNew, later⟩ := List.nodup_cons.mp distinct
      rw [List.foldl_cons, induction later, List.getElem?_modify]
      by_cases isFirst : first = index
      · subst isFirst
        simp [isNew]
      · simp [isFirst, Ne.symm isFirst]

theorem insertRow_last {events : List (RunEvent Body)}
    (numbered : ∀ index event, events[index]? = some event →
      event.id = index + 1) {event : RunEvent Body}
    (isLast : event.id = events.length + 1) :
    insertRow event events = events ++ [event] := by
  have small : ∀ other ∈ events, other.id < event.id := by
    intro other member
    obtain ⟨index, found⟩ := List.mem_iff_getElem?.mp member
    have isId := numbered _ _ found
    have short := (List.getElem?_eq_some_iff.mp found).1
    omega
  have all : events.filter (·.id < event.id) = events :=
    List.filter_eq_self.mpr fun other member =>
      decide_eq_true (small other member)
  have none : events.filter (event.id < ·.id) = [] := by
    apply List.filter_eq_nil_iff.mpr
    intro other member
    have before := small other member
    simp only [decide_eq_true_eq]
    omega
  rw [insertRow, all, none]

theorem Sound.emit (sound : hub.Sound) (body : Body) :
    (hub.emit body).Sound := by
  unfold EventHub.emit
  dsimp only
  generalize isEvent : ({ id := hub.events.length + 1, body := body } :
    RunEvent Body) = event
  have isId : event.id = hub.events.length + 1 := by rw [← isEvent]
  have front : hub.events <+: hub.events ++ [event] := List.prefix_append _ _
  have put : ∀ other : Nat, (hub.subscribers.foldl (fun streams index =>
      streams.modify index (EventStream.put event)) hub.streams)[other]? =
        hub.streams[other]?.map (EventStream.put event) := by
    intro other
    rw [getElem?_put event sound.subscribed]
    split
    · rfl
    · next notIn =>
        -- nothing is put where nobody listens
        rw [sound.listening] at notIn
        cases found : hub.streams[other]? with
        | none => rfl
        | some stream =>
            rw [found] at notIn
            unfold EventStream.put
            obtain ⟨phase, yielded⟩ := stream
            cases phase with
            | listens queue => exact absurd rfl notIn
            | replays | polls | sleeps | closed => rfl
  exact
    { numbered := by
        intro index other found
        rw [List.getElem?_append] at found
        split at found
        · exact sound.numbered index other found
        · next long =>
            have isIndex := (List.getElem?_eq_some_iff.mp found).1
            rw [List.length_singleton] at isIndex
            have isLast : index = hub.events.length := by omega
            rw [isLast, Nat.sub_self] at found
            cases found
            rw [isId, isLast]
      recorded := by
        intro rows isRows
        obtain ⟨old, isOld, rfl⟩ := Option.mem_map.mp isRows
        rw [sound.recorded old isOld]
        exact insertRow_last sound.numbered isId
      retired := fun list member => (sound.retired list member).trans front
      subscribed := sound.subscribed
      listening := by
        intro other
        rw [put, sound.listening]
        cases hub.streams[other]? with
        | none => rfl
        | some stream =>
            obtain ⟨phase, yielded⟩ := stream
            cases phase with
            | replays | listens | polls | sleeps | closed => rfl
      follows := by
        intro after member
        obtain ⟨other, found⟩ := List.mem_iff_getElem?.mp member
        rw [put] at found
        obtain ⟨stream, isStream, rfl⟩ := Option.map_eq_some_iff.mp found
        obtain ⟨inOrder, here⟩ :=
          sound.follows stream (List.mem_of_getElem? isStream)
        obtain ⟨phase, yielded⟩ := stream
        cases phase with
        | listens queue =>
            refine ⟨inOrder.trans front, ?_⟩
            change yielded ++ (queue ++ [event]) = _
            rw [← List.append_assoc]
            exact congrArg (· ++ [event]) here
        | replays | polls | sleeps | closed =>
            exact ⟨inOrder.trans front, here⟩ }

theorem Sound.read {after : EventHub Body} (sound : hub.Sound)
    (found : hub.streams[index]? = some stream)
    (taken : hub.read index stream = some after) : after.Sound := by
  have follows := sound.follows stream (List.mem_of_getElem? found)
  have inOrder := follows.inOrder
  have here := follows.here
  unfold EventHub.read at taken
  split at taken
  · next position isPhase =>
      rw [isPhase] at here
      change position = stream.yielded.length at here
      subst here
      split at taken
      · next event isNext =>
          cases taken
          refine sound.moved found ?_
            ⟨append_next inOrder isNext, ?_⟩
          · rw [isPhase]
            rfl
          · change _ = (stream.yielded ++ [event]).length
            rw [List.length_append, List.length_singleton]
      · next none =>
          cases taken
          obtain ⟨rest, isRest⟩ := inOrder
          have short := List.getElem?_eq_none_iff.mp none
          have lengths := congrArg List.length isRest
          rw [List.length_append] at lengths
          have isEmpty : rest = [] := List.length_eq_zero_iff.mp (by omega)
          have notIn : index ∉ hub.subscribers := by
            rw [sound.listening, found, Option.map_some, isPhase]
            exact fun listens => nomatch listens
          refine sound.setStream found ?_ (iff_of_true (by simp) rfl) ?_
            ⟨follows.inOrder, ?_⟩
          · rw [← List.concat_eq_append]
            exact List.Nodup.concat notIn sound.subscribed
          · intro other isOther
            rw [List.mem_append, List.mem_singleton, or_iff_left isOther]
          · change stream.yielded ++ [] = hub.events
            rw [← isRest, isEmpty]
  · next event queue isPhase =>
      rw [isPhase] at here
      cases taken
      have rest : stream.yielded ++ [event] ++ queue = hub.events := by
        rw [List.append_assoc]
        exact here
      refine sound.moved found ?_ ⟨⟨queue, rest⟩, rest⟩
      rw [isPhase]
      rfl
  · next source position isPhase =>
      rw [isPhase] at here
      cases taken
      exact sound.poll found follows (by rw [isPhase]; rfl) here
  · next isPhase =>
      cases taken
      obtain ⟨loaded, isEvents, isStreams⟩ := sound.load
      apply loaded.poll (by rw [isStreams]; exact found)
        (by rw [isEvents]; exact follows) (by rw [isPhase]; rfl)
        (Nat.zero_le _)
  · cases taken
  · cases taken

theorem Sound.step {action : HubAction Body} {after : EventHub Body}
    (sound : hub.Sound) (taken : hub.step action = some after) :
    after.Sound := by
  cases action with
  | emit body =>
      cases taken
      exact sound.emit body
  | load =>
      cases taken
      exact sound.load.1
  | stream =>
      cases taken
      exact
        { numbered := sound.numbered
          recorded := sound.recorded
          retired := sound.retired
          subscribed := sound.subscribed
          listening := by
            intro other
            rw [sound.listening, List.getElem?_append]
            split
            · rfl
            · next long =>
                rw [List.getElem?_eq_none (Nat.le_of_not_lt long)]
                cases other - hub.streams.length with
                | zero =>
                    cases hub.rows with
                    | none => simp [StreamPhase.isListening]
                    | some rows => simp [StreamPhase.isListening]
                | succ count => simp
          follows := by
            intro other member
            rcases List.mem_append.mp member with old | isNew
            · exact sound.follows other old
            · rw [List.mem_singleton.mp isNew]
              refine ⟨List.nil_prefix, ?_⟩
              cases hub.rows with
              | none => rfl
              | some rows => trivial }
  | read index =>
      obtain ⟨stream, found, taken⟩ := Option.bind_eq_some_iff.mp taken
      exact sound.read found taken
  | close index =>
      obtain ⟨stream, found, rfl⟩ := Option.map_eq_some_iff.mp taken
      have follows := sound.follows stream (List.mem_of_getElem? found)
      refine sound.setStream found (sound.subscribed.erase index)
        (iff_of_false ?_ Bool.false_ne_true) ?_ ⟨follows.inOrder, trivial⟩
      · rw [sound.subscribed.mem_erase_iff]
        exact fun member => member.1 rfl
      · intro other isOther
        rw [sound.subscribed.mem_erase_iff, and_iff_right isOther]

end EventHub

end Steps

/-! ## Reading on -/

section Progress

variable {hub : EventHub Body} {stream : EventStream Body} {index : Nat}

/-- How many reads a stream is from all events, at most. -/
def EventStream.behind (total : Nat) (stream : EventStream Body) : Nat :=
  2 * (total - stream.yielded.length) +
    match stream.phase with
    | .polls _ _ => 1
    | _ => 0

/-- A read of an open stream that is behind takes it further. -/
structure Advances (hub after : EventHub Body) (index : Nat)
    (stream : EventStream Body) : Prop where
  events : after.events = hub.events
  further : ∃ next, after.streams[index]? = some next ∧
    next.phase.isOpen = true ∧
      next.behind hub.events.length < stream.behind hub.events.length

theorem advances_setStream {next : EventStream Body}
    (found : hub.streams[index]? = some stream)
    (isOpen : next.phase.isOpen = true)
    (less : next.behind hub.events.length < stream.behind hub.events.length) :
    Advances hub (hub.setStream index next) index stream :=
  { events := rfl
    further := ⟨next, List.getElem?_set_self
      (List.getElem?_eq_some_iff.mp found).1, isOpen, less⟩ }

theorem behind_append {event : RunEvent Body} {phase : StreamPhase Body}
    {total : Nat} (isBehind : stream.yielded.length < total) :
    EventStream.behind total
        { phase := phase
          yielded := stream.yielded ++ [event] } <
      stream.behind total := by
  have less : (stream.yielded ++ [event]).length =
      stream.yielded.length + 1 := by
    rw [List.length_append, List.length_singleton]
  unfold EventStream.behind
  rw [less]
  cases phase with
  | polls source position =>
      dsimp only
      omega
  | replays | listens | sleeps | closed =>
      dsimp only
      omega

theorem advances_poll (sound : hub.Sound) {source position : Nat}
    (found : hub.streams[index]? = some stream)
    (few : position ≤ stream.yielded.length)
    (isBehind : stream.yielded.length < hub.events.length)
    (whole : hub.listAt source = hub.events ∨
      ∃ source position, stream.phase = .polls source position) :
    Advances hub (hub.poll index stream source position) index stream := by
  have follows := sound.follows stream (List.mem_of_getElem? found)
  have front := EventHub.listAt_front sound source
  unfold EventHub.poll
  dsimp only
  rw [dropWhile_yielded sound.numbered follows.inOrder front position few]
  cases isRest : (hub.listAt source).drop stream.yielded.length with
  | nil =>
      apply advances_setStream found rfl
      rcases whole with isWhole | ⟨source, position, isPhase⟩
      · rw [isWhole, List.drop_eq_nil_iff] at isRest
        omega
      · unfold EventStream.behind
        rw [isPhase]
        exact Nat.lt_succ_self _
  | cons event rest =>
      exact advances_setStream found rfl (behind_append isBehind)

theorem exists_advances (sound : hub.Sound)
    (found : hub.streams[index]? = some stream)
    (isOpen : stream.phase.isOpen = true)
    (isBehind : stream.yielded.length < hub.events.length) :
    ∃ after, hub.step (.read index) = some after ∧
      Advances hub after index stream := by
  have here := (sound.follows stream (List.mem_of_getElem? found)).here
  rw [EventHub.step, found, Option.bind_some, EventHub.read]
  cases isPhase : stream.phase with
  | replays position =>
      rw [isPhase] at here
      change position = stream.yielded.length at here
      subst here
      dsimp only
      rw [List.getElem?_eq_getElem isBehind]
      exact ⟨_, rfl, advances_setStream found rfl (behind_append isBehind)⟩
  | listens queue =>
      rw [isPhase] at here
      cases queue with
      | nil =>
          have whole : stream.yielded = hub.events :=
            (List.append_nil _).symm.trans here
          rw [whole] at isBehind
          exact absurd isBehind (Nat.lt_irrefl _)
      | cons event queue =>
          exact ⟨_, rfl,
            advances_setStream found rfl (behind_append isBehind)⟩
  | polls source position =>
      rw [isPhase] at here
      exact ⟨_, rfl, advances_poll sound found here isBehind
        (.inr ⟨source, position, isPhase⟩)⟩
  | sleeps =>
      obtain ⟨loaded, isEvents, isStreams⟩ := sound.load
      have current : hub.load.listAt hub.load.retired.length =
          hub.load.events := by
        rw [EventHub.listAt, List.getElem?_append_right (Nat.le_refl _),
          Nat.sub_self]
        rfl
      have advances := advances_poll loaded (isStreams ▸ found)
        (Nat.zero_le _) (isEvents ▸ isBehind) (.inl current)
      refine ⟨_, rfl, advances.events.trans isEvents, ?_⟩
      have further := advances.further
      rwa [isEvents] at further
  | closed =>
      rw [isPhase] at isOpen
      cases isOpen

/-- An open stream that is read on gets all events. -/
theorem drains (sound : hub.Sound)
    (found : hub.streams[index]? = some stream)
    (isOpen : stream.phase.isOpen = true) :
    ∃ count after, exec EventHub.step hub
        (List.replicate count (.read index)) = some after ∧
      after.events = hub.events ∧
        ∃ next, after.streams[index]? = some next ∧
          next.yielded = hub.events := by
  induction isMeasure : stream.behind hub.events.length using
    Nat.strongRecOn generalizing hub stream with
  | ind behind induction =>
      by_cases isBehind : stream.yielded.length < hub.events.length
      · obtain ⟨after, taken, advances⟩ :=
          exists_advances sound found isOpen isBehind
        obtain ⟨next, isNext, stillOpen, less⟩ := advances.further
        have isEvents := advances.events
        obtain ⟨count, final, run, same, last⟩ :=
          induction _ (isMeasure ▸ less) (sound.step taken) isNext stillOpen
            (by rw [isEvents])
        rw [isEvents] at same last
        exact ⟨count + 1, final, exec_cons_eq_some.mpr ⟨after, taken, run⟩,
          same, last⟩
      · have inOrder :=
          (sound.follows stream (List.mem_of_getElem? found)).inOrder
        exact ⟨0, hub, rfl, rfl, stream, found,
          inOrder.eq_of_length_le (Nat.le_of_not_lt isBehind)⟩

end Progress

theorem sound_start (journaled : Bool) :
    (EventHub.start journaled : EventHub Body).Sound :=
  { numbered := fun _ _ found => nomatch found
    recorded := by
      intro rows isRows
      cases journaled with
      | false => cases isRows
      | true =>
          cases isRows
          rfl
    retired := List.forall_mem_nil _
    subscribed := List.nodup_nil
    listening := fun index => by simp [EventHub.start]
    follows := List.forall_mem_nil _ }

/-- However emits, reads, new and closed streams and loads from the journal
follow each other: each stream has yielded the first of the events, each once
and in order, the ids count the events, and an open stream gets all events
by reading on. -/
theorem streams_deliver {journaled : Bool} {actions : List (HubAction Body)}
    {final : EventHub Body}
    (run : exec EventHub.step (.start journaled) actions = some final) :
    (∀ index event, final.events[index]? = some event →
      event.id = index + 1) ∧
    ∀ index stream, final.streams[index]? = some stream →
      stream.yielded <+: final.events ∧
      (stream.phase.isOpen = true → ∃ count after,
        exec EventHub.step final (List.replicate count (.read index)) =
            some after ∧ after.events = final.events ∧
          ∃ next, after.streams[index]? = some next ∧
            next.yielded = final.events) := by
  have sound : final.Sound := exec_invariant
    (fun _ _ _ sound taken => sound.step taken) (sound_start journaled) run
  refine ⟨sound.numbered, ?_⟩
  intro index stream found
  exact ⟨(sound.follows stream (List.mem_of_getElem? found)).inOrder,
    drains sound found⟩

namespace EventStreamExample

/-- Two streams of a journaled run; one starts over, the other is closed. -/
def actions : List (HubAction String) :=
  [.emit "run_created", .stream, .read 0, .stream, .emit "node_started",
    .load, .read 0, .emit "node_completed", .read 1, .close 1, .read 0,
    .read 0]

theorem actions_run :
    (exec EventHub.step (.start true) actions).isSome := by
  decide +kernel

theorem streams_deliver_journaled :
    let final := (exec EventHub.step (.start true) actions).get actions_run
    ∀ stream ∈ final.streams, stream.yielded <+: final.events := by
  intro final stream member
  obtain ⟨index, found⟩ := List.mem_iff_getElem?.mp member
  exact ((streams_deliver (Option.some_get actions_run).symm).2 index stream
    found).1

end EventStreamExample

end CompetiScope
