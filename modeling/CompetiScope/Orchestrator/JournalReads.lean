import CompetiScope.Foundation.Transition
import CompetiScope.Orchestrator.ServedRun

/-!
# Readers of a journaled run

A pipeline step holds the detail object it found in the record, writes to it
and persists, at its events, whatever object the record has by then.  A
reader replaces the object of the record by a copy of the journal row.
-/

namespace CompetiScope

open Foundation

/-- What a pipeline step does to the detail between two awaits. -/
inductive StepOp where
  /-- A write through the object the step holds. -/
  | write (update : RunDetail → RunDetail)
  /-- A write through `record.detail`. -/
  | writeRecord (update : RunDetail → RunDetail)
  /-- `emit`, which persists the run. -/
  | emit

/-- A pipeline step ends with an event. -/
structure StepProgram where
  ops : List StepOp
  endsWithEmit : ops.getLast? = some .emit

/-- A step under way: the detail object it holds and what it has to do. -/
structure ActiveStep where
  held : Nat
  program : StepProgram

/-- A record with its journal row.  Detail objects are numbered in the order
of their allocation; the other fields are the history of the run, which no
function reads. -/
structure JournaledRun where
  objects : Nat → RunDetail
  allocated : Nat
  current : Nat
  journal : RunDetail
  steps : List ActiveStep := []
  initial : RunDetail
  /-- The writes made so far, by steps and readers. -/
  writes : List (RunDetail → RunDetail) := []
  /-- How many there were when the row was saved. -/
  persisted : Nat := 0
  /-- How many there were when the last step to complete did. -/
  completed : Nat := 0

inductive JournalAction where
  /-- A step takes `record.detail`. -/
  | begin (program : StepProgram)
  /-- A step goes on. -/
  | advance (index : Nat)
  /-- `get_run`, `get_trace` or a round of `stream_events`. -/
  | read

namespace JournaledRun

/-- `record.detail`. -/
def detail (run : JournaledRun) : RunDetail :=
  run.objects run.current

def writeTo (run : JournaledRun) (object : Nat)
    (update : RunDetail → RunDetail) : JournaledRun :=
  { run with
    objects := Function.update run.objects object (update (run.objects object))
    writes := run.writes ++ [update] }

/-- `_persist_run`. -/
def persist (run : JournaledRun) : JournaledRun :=
  { run with
    journal := run.detail
    persisted := run.writes.length }

def perform (run : JournaledRun) (held : Nat) : StepOp → JournaledRun
  | .write update => run.writeTo held update
  | .writeRecord update => run.writeTo run.current update
  | .emit => run.persist

/-- `_load_run_record` and the repair that goes with it: the record gets a
new object made from the journal row. -/
def loadRunRecord (run : JournaledRun) : JournaledRun :=
  let loaded :=
    { run with
      objects := Function.update run.objects run.allocated run.journal
      allocated := run.allocated + 1
      current := run.allocated }
  (loaded.writeTo run.allocated (·.repairInconsistentHitlStatus)).persist

/-- One operation of a step; the last one completes it. -/
def advance (run : JournaledRun) (index : Nat) (step : ActiveStep) :
    Option JournaledRun :=
  match step.program with
  | { ops := [], endsWithEmit := _ } => none
  | { ops := [op], endsWithEmit := _ } =>
      let done := run.perform step.held op
      some
        { done with
          steps := run.steps.eraseIdx index
          completed := done.writes.length }
  | { ops := op :: next :: rest, endsWithEmit := ends } =>
      some
        { run.perform step.held op with
          steps :=
            run.steps.set index
              { held := step.held
                program :=
                  { ops := next :: rest
                    endsWithEmit := by simpa using ends } } }

end JournaledRun

def journalStep (run : JournaledRun) : JournalAction → Option JournaledRun
  | .begin program =>
      some
        { run with
          steps :=
            run.steps ++
              [{ held := run.current
                 program := program }] }
  | .advance index =>
      match run.steps[index]? with
      | none => none
      | some step => run.advance index step
  | .read => some run.loadRunRecord

/-- A persisted run. -/
def journaled (detail : RunDetail) : JournaledRun :=
  { objects := fun _ => detail
    allocated := 1
    current := 0
    journal := detail
    initial := detail }

/-- A detail after some writes. -/
def applyWrites (detail : RunDetail) (writes : List (RunDetail → RunDetail)) :
    RunDetail :=
  writes.foldl (fun detail write => write detail) detail

theorem applyWrites_concat (detail : RunDetail)
    (writes : List (RunDetail → RunDetail)) (write : RunDetail → RunDetail) :
    applyWrites detail (writes ++ [write]) =
      write (applyWrites detail writes) := by
  simp [applyWrites]

namespace JournaledRun

/-- `record.detail` has every write; the journal row has all those made
before some moment after the completion of the last step to complete, and
every write when no step is under way. -/
structure KeepsWrites (run : JournaledRun) : Prop where
  inMemory : run.detail = applyWrites run.initial run.writes
  inJournal : ∃ persisted, run.completed ≤ persisted ∧
    run.journal = applyWrites run.initial (run.writes.take persisted)
  atRest : run.steps = [] → run.journal = run.detail

end JournaledRun

def StepOp.writesHeld : StepOp → Bool
  | write _ => true
  | writeRecord _ => false
  | emit => false

/-- The step will write to the object it holds. -/
def ActiveStep.writesHeld (step : ActiveStep) : Bool :=
  step.program.ops.any (·.writesHeld)

namespace JournaledRun

/-- A reader comes when all writes are persisted and no step under way is
going to write to the object it holds. -/
def ReadsBetweenWrites (run : JournaledRun) : JournalAction → Prop
  | .read => run.persisted = run.writes.length ∧
      ∀ step ∈ run.steps, step.writesHeld = false
  | _ => True

instance (run : JournaledRun) :
    ∀ action, Decidable (run.ReadsBetweenWrites action)
  | .read => inferInstanceAs (Decidable (_ ∧ _))
  | .begin _ => isTrue trivial
  | .advance _ => isTrue trivial

/-- The invariant: memory and row are the initial detail with a front of the
history, and a step that has yet to write holds the object of the record. -/
structure InStep (run : JournaledRun) : Prop where
  memory : run.detail = applyWrites run.initial run.writes
  row : run.journal = applyWrites run.initial (run.writes.take run.persisted)
  persistedLe : run.persisted ≤ run.writes.length
  completedLe : run.completed ≤ run.persisted
  held : ∀ step ∈ run.steps, step.writesHeld = true →
    step.held = run.current
  atRest : run.steps = [] → run.persisted = run.writes.length

theorem InStep.keepsWrites {run : JournaledRun} (inStep : run.InStep) :
    run.KeepsWrites := by
  refine
    { inMemory := inStep.memory
      inJournal := ⟨run.persisted, inStep.completedLe, inStep.row⟩
      atRest := ?_ }
  intro resting
  rw [inStep.row, inStep.atRest resting, List.take_length, inStep.memory]

/-! ## Single operations -/

/-- The part of the invariant that does not speak of the steps. -/
structure Recorded (run : JournaledRun) : Prop where
  memory : run.detail = applyWrites run.initial run.writes
  row : run.journal = applyWrites run.initial (run.writes.take run.persisted)
  persistedLe : run.persisted ≤ run.writes.length
  completedLe : run.completed ≤ run.persisted

theorem InStep.recorded {run : JournaledRun} (inStep : run.InStep) :
    run.Recorded :=
  ⟨inStep.memory, inStep.row, inStep.persistedLe, inStep.completedLe⟩

theorem Recorded.writeTo {run : JournaledRun} (recorded : run.Recorded)
    (update : RunDetail → RunDetail) :
    (run.writeTo run.current update).Recorded := by
  refine
    { memory := ?_
      row := ?_
      persistedLe := ?_
      completedLe := recorded.completedLe }
  · have written : (run.writeTo run.current update).detail =
        update run.detail := by
      change Function.update run.objects run.current
        (update (run.objects run.current)) run.current = _
      rw [Function.update_self]
      rfl
    rw [written, recorded.memory]
    exact (applyWrites_concat run.initial run.writes update).symm
  · change run.journal =
      applyWrites run.initial ((run.writes ++ [update]).take run.persisted)
    rw [List.take_append_of_le_length recorded.persistedLe]
    exact recorded.row
  · change run.persisted ≤ (run.writes ++ [update]).length
    rw [List.length_append]
    exact recorded.persistedLe.trans (Nat.le_add_right _ _)

theorem Recorded.persist {run : JournaledRun} (recorded : run.Recorded) :
    run.persist.Recorded :=
  { memory := recorded.memory
    row := by
      change run.detail =
        applyWrites run.initial (run.writes.take run.writes.length)
      rw [List.take_length, recorded.memory]
    persistedLe := Nat.le_refl _
    completedLe := recorded.completedLe.trans recorded.persistedLe }

theorem Recorded.perform {run : JournaledRun} (recorded : run.Recorded)
    {held : Nat} {op : StepOp}
    (holds : op.writesHeld = true → held = run.current) :
    (run.perform held op).Recorded := by
  cases op with
  | write update =>
      rw [holds rfl]
      exact recorded.writeTo update
  | writeRecord update => exact recorded.writeTo update
  | emit => exact recorded.persist

/-- Operations neither replace the object of the record nor start steps. -/
theorem perform_frame (run : JournaledRun) (held : Nat) (op : StepOp) :
    (run.perform held op).current = run.current ∧
      (run.perform held op).steps = run.steps ∧
        (run.perform held op).completed = run.completed := by
  cases op <;> exact ⟨rfl, rfl, rfl⟩

/-- A copy of a row that has every write is as good as the object. -/
theorem Recorded.loadRunRecord {run : JournaledRun}
    (recorded : run.Recorded)
    (allPersisted : run.persisted = run.writes.length) :
    run.loadRunRecord.Recorded := by
  apply Recorded.persist
  have loaded : Recorded
      { run with
        objects := Function.update run.objects run.allocated run.journal
        allocated := run.allocated + 1
        current := run.allocated } :=
    { memory := by
        change Function.update run.objects run.allocated run.journal
          run.allocated = _
        rw [Function.update_self, recorded.row, allPersisted,
          List.take_length]
      row := recorded.row
      persistedLe := recorded.persistedLe
      completedLe := recorded.completedLe }
  exact loaded.writeTo _

/-! ## Steps and readers -/

theorem InStep.begin {run next : JournaledRun} {program : StepProgram}
    (inStep : run.InStep)
    (stepped : journalStep run (.begin program) = some next) :
    next.InStep := by
  cases stepped
  refine { inStep with held := ?_, atRest := ?_ }
  · intro step member writes
    rcases List.mem_append.mp member with earlier | added
    · exact inStep.held step earlier writes
    · rw [List.mem_singleton.mp added]
  · intro resting
    exact (List.append_ne_nil_of_right_ne_nil _ (List.cons_ne_nil _ _)
      resting).elim

theorem InStep.read {run : JournaledRun} (inStep : run.InStep)
    (allowed : run.ReadsBetweenWrites .read) : run.loadRunRecord.InStep := by
  have recorded := inStep.recorded.loadRunRecord allowed.1
  refine
    { memory := recorded.memory
      row := recorded.row
      persistedLe := recorded.persistedLe
      completedLe := recorded.completedLe
      held := ?_
      atRest := fun _ => rfl }
  intro step member writes
  rw [allowed.2 step member] at writes
  cases writes

theorem InStep.advance {run next : JournaledRun} {index : Nat}
    {step : ActiveStep} (inStep : run.InStep)
    (found : run.steps[index]? = some step)
    (stepped : run.advance index step = some next) : next.InStep := by
  have member : step ∈ run.steps := List.mem_of_getElem? found
  unfold JournaledRun.advance at stepped
  split at stepped
  · cases stepped
  · next op ends same =>
    cases stepped
    have isEmit : op = .emit := by simpa using ends
    subst isEmit
    have recorded := inStep.recorded.persist
    exact
      { memory := recorded.memory
        row := recorded.row
        persistedLe := Nat.le_refl _
        completedLe := Nat.le_refl _
        held := fun other kept =>
          inStep.held other (List.mem_of_mem_eraseIdx kept)
        atRest := fun _ => rfl }
  · next op following rest ends same =>
    cases stepped
    have holds : op.writesHeld = true → step.held = run.current := by
      intro writes
      apply inStep.held step member
      simp [ActiveStep.writesHeld, same, writes]
    have recorded := inStep.recorded.perform holds
    obtain ⟨current, steps, -⟩ := perform_frame run step.held op
    refine
      { memory := recorded.memory
        row := recorded.row
        persistedLe := recorded.persistedLe
        completedLe := recorded.completedLe
        held := ?_
        atRest := ?_ }
    · intro other kept writes
      change other.held = (run.perform step.held op).current
      rw [current]
      rcases List.mem_or_eq_of_mem_set kept with earlier | moved
      · exact inStep.held other earlier writes
      · subst moved
        apply inStep.held step member
        have later : (following :: rest).any (·.writesHeld) = true := writes
        simp only [ActiveStep.writesHeld, same, List.any_cons] at later ⊢
        rw [later, Bool.or_true]
    · intro resting
      have bound := (List.getElem?_eq_some_iff.mp found).1
      have empty := congrArg List.length resting
      rw [List.length_set, List.length_nil] at empty
      omega

theorem InStep.step {run next : JournaledRun} {action : JournalAction}
    (inStep : run.InStep) (allowed : run.ReadsBetweenWrites action)
    (stepped : journalStep run action = some next) : next.InStep := by
  cases action with
  | begin program => exact inStep.begin stepped
  | advance index =>
      unfold journalStep at stepped
      dsimp only at stepped
      split at stepped
      · cases stepped
      · next step found => exact inStep.advance found stepped
  | read =>
      cases stepped
      exact inStep.read allowed

theorem journaled_inStep (detail : RunDetail) : (journaled detail).InStep :=
  { memory := rfl
    row := rfl
    persistedLe := Nat.le_refl 0
    completedLe := Nat.le_refl 0
    held := fun _ impossible => by cases impossible
    atRest := fun _ => rfl }

end JournaledRun

/-- In every interleaving of pipeline steps with readers that come between
the writes, no write of a step is lost, neither in memory nor in the
journal. -/
theorem journalReads_keepWrites_along (detail : RunDetail)
    (actions : List JournalAction) (run : JournaledRun)
    (between : Along journalStep JournaledRun.ReadsBetweenWrites
      (journaled detail) actions)
    (reached : exec journalStep (journaled detail) actions = some run) :
    run.KeepsWrites := by
  have preserved : ∀ before action after, before.InStep →
      before.ReadsBetweenWrites action →
        journalStep before action = some after → after.InStep :=
    fun _ _ _ inStep allowed stepped => inStep.step allowed stepped
  have inStep := exec_invariant_along preserved
    (JournaledRun.journaled_inStep detail) between reached
  exact inStep.keepsWrites

/-! ## A reader between two writes of the planner -/

/-- `_real_planner_step` on the fields of the model: a run without
competitors gets those discovered. -/
def realPlannerStep (topicOnly : Bool) (discovered : List String) :
    StepProgram :=
  { ops :=
      [.write fun detail => { detail with currentNode := some "planner" },
        .emit] ++
        (if topicOnly then
          [.write fun detail =>
              { detail with
                plan := { detail.plan with competitors := discovered } },
            .emit]
        else []) ++
          [.emit]
    endsWithEmit := by cases topicOnly <;> rfl }

def topicOnlyDetail : RunDetail :=
  { id := "run"
    status := .running
    plan :=
      { competitors := []
        dimensions := ["pricing"] } }

/-- Readers before and after the planner, and after its last write. -/
def readAround : List JournalAction :=
  [.read, .begin (realPlannerStep true ["Acme"]), .advance 0, .advance 0,
    .advance 0, .advance 0, .read, .advance 0, .read]

theorem journalReads_keepWrites_around :
    ∃ run,
      exec journalStep (journaled topicOnlyDetail) readAround = some run ∧
        run.KeepsWrites :=
  ⟨_, rfl,
    journalReads_keepWrites_along topicOnlyDetail readAround _ (by decide)
      rfl⟩

/-- One reader while the planner looks for competitors: those it found are
neither in memory nor in the journal. -/
theorem journalReads_lose_discovered :
    ∃ run,
      exec journalStep (journaled topicOnlyDetail)
          [.begin (realPlannerStep true ["Acme"]), .advance 0, .advance 0,
            .read, .advance 0, .advance 0, .advance 0] = some run ∧
        run.steps.length = 0 ∧
        run.detail.plan.competitors = [] ∧
        run.journal.plan.competitors = [] ∧ ¬ run.KeepsWrites := by
  refine ⟨_, rfl, rfl, rfl, rfl, ?_⟩
  intro keeps
  have lost : ([] : List String) = ["Acme"] :=
    congrArg (·.plan.competitors) keeps.inMemory
  exact absurd lost (by decide)

end CompetiScope
