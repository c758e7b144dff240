import Mathlib.Data.List.Basic

/-!
# Programs that log events

A program reads and writes a state with a log that only grows, and returns or
raises.  `Emits` says what a program returns or raises with, together with the
events it adds, whatever was logged before; the rules follow the program.
-/

namespace Foundation

variable {State Event Error : Type} {Result Next : Type}

/-- From every state the program adds events to the log, and what it returns
or raises fits them. -/
def Emits (log : State → List Event) (program : EStateM Error State Result)
    (returns : Result → List Event → Prop)
    (raises : Error → List Event → Prop) : Prop :=
  ∀ state, match program state with
    | .ok result after =>
        ∃ news, log after = log state ++ news ∧ returns result news
    | .error error after =>
        ∃ news, log after = log state ++ news ∧ raises error news

namespace Emits

variable {log : State → List Event} {program : EStateM Error State Result}
  {returns : Result → List Event → Prop}
  {raises : Error → List Event → Prop}

theorem pure {result : Result} (returned : returns result []) :
    Emits log (Pure.pure result) returns raises :=
  fun state => ⟨[], (List.append_nil (log state)).symm, returned⟩

theorem throw {error : Error} (raised : raises error []) :
    Emits log (MonadExcept.throw error : EStateM Error State Result) returns
      raises :=
  fun state => ⟨[], (List.append_nil (log state)).symm, raised⟩

/-- A program may look at the state. -/
theorem get {next : State → EStateM Error State Result}
    (emits : ∀ state, Emits log (next state) returns raises) :
    Emits log (MonadState.get >>= next) returns raises :=
  fun state => emits state state

/-- A write that adds some events. -/
theorem modify {write : State → State} {returns : Unit → List Event → Prop}
    {news : List Event}
    (appended : ∀ state, log (write state) = log state ++ news)
    (returned : returns () news) :
    Emits log (MonadState.modifyGet fun state => ((), write state)) returns
      raises :=
  fun state => ⟨news, appended state, returned⟩

theorem mono {moreReturns : Result → List Event → Prop}
    {moreRaises : Error → List Event → Prop}
    (emits : Emits log program returns raises)
    (returned : ∀ result news, returns result news → moreReturns result news)
    (raised : ∀ error news, raises error news → moreRaises error news) :
    Emits log program moreReturns moreRaises := by
  intro state
  have here := emits state
  cases made : program state with
  | ok result after =>
      rw [made] at here
      obtain ⟨news, appended, fits⟩ := here
      exact ⟨news, appended, returned result news fits⟩
  | error error after =>
      rw [made] at here
      obtain ⟨news, appended, fits⟩ := here
      exact ⟨news, appended, raised error news fits⟩

/-- The events of a sequence are those of its parts. -/
theorem bind {next : Result → EStateM Error State Next}
    {nextReturns : Next → List Event → Prop}
    {nextRaises : Error → List Event → Prop}
    (emits : Emits log program returns raises)
    (continues : ∀ result news, returns result news →
      Emits log (next result)
        (fun final more => nextReturns final (news ++ more))
        (fun error more => nextRaises error (news ++ more)))
    (raised : ∀ error news, raises error news → nextRaises error news) :
    Emits log (program >>= next) nextReturns nextRaises := by
  intro state
  have here := emits state
  change match EStateM.bind program next state with
    | .ok result after => _
    | .error error after => _
  unfold EStateM.bind
  cases made : program state with
  | error error after =>
      rw [made] at here
      obtain ⟨news, appended, fits⟩ := here
      exact ⟨news, appended, raised error news fits⟩
  | ok result after =>
      rw [made] at here
      obtain ⟨news, appended, fits⟩ := here
      have later := continues result news fits after
      dsimp only
      cases ended : next result after with
      | ok final last =>
          rw [ended] at later
          obtain ⟨more, laterAppended, laterFits⟩ := later
          refine ⟨news ++ more, ?_, laterFits⟩
          rw [laterAppended, appended, List.append_assoc]
      | error error last =>
          rw [ended] at later
          obtain ⟨more, laterAppended, laterFits⟩ := later
          refine ⟨news ++ more, ?_, laterFits⟩
          rw [laterAppended, appended, List.append_assoc]

/-- The events of a program that raised stay when the error is handled. -/
theorem tryCatch {handle : Error → EStateM Error State Result}
    {finalReturns : Result → List Event → Prop}
    {finalRaises : Error → List Event → Prop}
    (emits : Emits log program returns raises)
    (handled : ∀ error news, raises error news →
      Emits log (handle error)
        (fun result more => finalReturns result (news ++ more))
        (fun error more => finalRaises error (news ++ more)))
    (returned : ∀ result news, returns result news →
      finalReturns result news) :
    Emits log (MonadExcept.tryCatch program handle) finalReturns
      finalRaises := by
  intro state
  have here := emits state
  change match EStateM.tryCatch program handle state with
    | .ok result after => _
    | .error error after => _
  unfold EStateM.tryCatch
  dsimp only [EStateM.Backtrackable.save]
  cases made : program state with
  | ok result after =>
      rw [made] at here
      obtain ⟨news, appended, fits⟩ := here
      exact ⟨news, appended, returned result news fits⟩
  | error error after =>
      rw [made] at here
      obtain ⟨news, appended, fits⟩ := here
      have later := handled error news fits after
      dsimp only [EStateM.Backtrackable.restore, EStateM.dummyRestore]
      cases ended : handle error after with
      | ok final last =>
          rw [ended] at later
          obtain ⟨more, laterAppended, laterFits⟩ := later
          refine ⟨news ++ more, ?_, laterFits⟩
          rw [laterAppended, appended, List.append_assoc]
      | error error last =>
          rw [ended] at later
          obtain ⟨more, laterAppended, laterFits⟩ := later
          refine ⟨news ++ more, ?_, laterFits⟩
          rw [laterAppended, appended, List.append_assoc]

theorem tryFinally_eq (final : EStateM Error State Unit) (state : State) :
    tryFinally program final state =
      match program state with
      | .ok result after =>
          match final after with
          | .ok _ last => .ok result last
          | .error error last => .error error last
      | .error error after =>
          match final after with
          | .ok _ last => .error error last
          | .error later last => .error later last := by
  change EStateM.map Prod.fst (MonadFinally.tryFinally' program
    fun _ => final) state = _
  unfold EStateM.map
  simp only [MonadFinally.tryFinally']
  cases program state with
  | ok result after =>
      dsimp only
      cases final after with
      | ok _ last => rfl
      | error error last => rfl
  | error error after =>
      dsimp only
      cases final after with
      | ok _ last => rfl
      | error later last => rfl

/-- What is done at the end is logged behind a result or an error. -/
theorem ensuring {final : EStateM Error State Unit}
    {finalReturns : Result → List Event → Prop}
    {finalRaises : Error → List Event → Prop}
    (emits : Emits log program returns raises)
    (afterResult : ∀ result news, returns result news →
      Emits log final (fun _ more => finalReturns result (news ++ more))
        (fun error more => finalRaises error (news ++ more)))
    (afterError : ∀ error news, raises error news →
      Emits log final (fun _ more => finalRaises error (news ++ more))
        (fun later more => finalRaises later (news ++ more))) :
    Emits log (tryFinally program final) finalReturns finalRaises := by
  intro state
  have here := emits state
  rw [tryFinally_eq]
  cases made : program state with
  | ok result after =>
      rw [made] at here
      obtain ⟨news, appended, fits⟩ := here
      have later := afterResult result news fits after
      dsimp only
      cases ended : final after with
      | ok done last =>
          rw [ended] at later
          obtain ⟨more, laterAppended, laterFits⟩ := later
          refine ⟨news ++ more, ?_, laterFits⟩
          rw [laterAppended, appended, List.append_assoc]
      | error error last =>
          rw [ended] at later
          obtain ⟨more, laterAppended, laterFits⟩ := later
          refine ⟨news ++ more, ?_, laterFits⟩
          rw [laterAppended, appended, List.append_assoc]
  | error error after =>
      rw [made] at here
      obtain ⟨news, appended, fits⟩ := here
      have later := afterError error news fits after
      dsimp only
      cases ended : final after with
      | ok done last =>
          rw [ended] at later
          obtain ⟨more, laterAppended, laterFits⟩ := later
          refine ⟨news ++ more, ?_, laterFits⟩
          rw [laterAppended, appended, List.append_assoc]
      | error other last =>
          rw [ended] at later
          obtain ⟨more, laterAppended, laterFits⟩ := later
          refine ⟨news ++ more, ?_, laterFits⟩
          rw [laterAppended, appended, List.append_assoc]

end Emits

/-! ## Results -/

/-- What the program returns is good, from every state. -/
def Returns (program : EStateM Error State Result) (good : Result → Prop) :
    Prop :=
  ∀ state, match program state with
    | .ok result _ => good result
    | .error _ _ => True

namespace Returns

variable {program : EStateM Error State Result} {good : Result → Prop}

theorem pure {result : Result} (isGood : good result) :
    Returns (Pure.pure result : EStateM Error State Result) good :=
  fun _ => isGood

theorem throw (error : Error) :
    Returns (MonadExcept.throw error : EStateM Error State Result) good :=
  fun _ => trivial

/-- The last part of a sequence returns. -/
theorem bind {next : Result → EStateM Error State Next}
    {good : Next → Prop} (returns : ∀ result, Returns (next result) good) :
    Returns (program >>= next) good := by
  intro state
  change match EStateM.bind program next state with
    | .ok result _ => _
    | .error _ _ => _
  unfold EStateM.bind
  cases program state with
  | ok result after => exact returns result after
  | error error after => trivial

theorem tryCatch {handle : Error → EStateM Error State Result}
    (returns : Returns program good)
    (handled : ∀ error, Returns (handle error) good) :
    Returns (MonadExcept.tryCatch program handle) good := by
  intro state
  have here := returns state
  change match EStateM.tryCatch program handle state with
    | .ok result _ => _
    | .error _ _ => _
  unfold EStateM.tryCatch
  cases made : program state with
  | ok result after =>
      rw [made] at here
      exact here
  | error error after => exact handled error _

theorem ensuring {final : EStateM Error State Unit}
    (returns : Returns program good) :
    Returns (tryFinally program final) good := by
  intro state
  have here := returns state
  rw [Emits.tryFinally_eq]
  cases made : program state with
  | ok result after =>
      rw [made] at here
      dsimp only
      cases final after with
      | ok _ last => exact here
      | error error last => trivial
  | error error after =>
      dsimp only
      cases final after with
      | ok _ last => trivial
      | error later last => trivial

end Returns

end Foundation
