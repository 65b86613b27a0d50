import Mathlib.Tactic.Common

/-! Runs of a system whose events may be impossible: what every state reached keeps, and
conditions on all steps of a run. Chains of labelled changes: the state goes through one change
after another, and their labels are collected in order. -/

namespace Runs

variable {State Event : Type}

section

variable (step : State → Event → Option State)

/-- The state after all the events, `none` where one of them is impossible. -/
def run : State → List Event → Option State
  | s, [] => some s
  | s, e :: events =>
      match step s e with
      | none => none
      | some next => run next events

/-- Every event that happens meets the condition in the state it happens in. -/
def EachStep (condition : State → Event → Prop) : State → List Event → Prop
  | _, [] => True
  | s, e :: events =>
      ∀ next, step s e = some next → condition s e ∧ EachStep condition next events

/-- `EachStep` for a condition that can be computed. -/
def checkSteps (check : State → Event → Bool) : State → List Event → Bool
  | _, [] => true
  | s, e :: events =>
      match step s e with
      | none => true
      | some next => check s e && checkSteps check next events

/-- The property holds in every state the run reaches, the first one included. -/
def EveryState (property : State → Prop) : State → List Event → Prop
  | s, [] => property s
  | s, e :: events =>
      property s ∧ ∀ next, step s e = some next → EveryState property next events

end

variable {step : State → Event → Option State}

theorem run_cons_some (s final : State) (e : Event) (events : List Event)
    (reached : run step s (e :: events) = some final) :
    ∃ next, step s e = some next ∧ run step next events = some final := by
  simp only [run] at reached
  cases stepped : step s e with
  | none => simp [stepped] at reached
  | some next => exact ⟨next, rfl, by simpa [stepped] using reached⟩

theorem run_next {s next : State} {e : Event} (stepped : step s e = some next)
    (events : List Event) : run step s (e :: events) = run step next events := by
  simp only [run, stepped]

theorem run_append (s : State) (front back : List Event) :
    run step s (front ++ back) = (run step s front).bind fun middle => run step middle back := by
  induction front generalizing s with
  | nil => rfl
  | cons e front ih =>
      simp only [List.cons_append, run]
      cases step s e with
      | none => rfl
      | some next => exact ih next

theorem eachStep_of_check (check : State → Event → Bool) (condition : State → Event → Prop)
    (sound : ∀ s e, check s e = true → condition s e) (s : State) (events : List Event)
    (checked : checkSteps step check s events = true) : EachStep step condition s events := by
  induction events generalizing s with
  | nil => trivial
  | cons e events ih =>
      intro next stepped
      simp only [checkSteps, stepped, Bool.and_eq_true] at checked
      exact ⟨sound s e checked.1, ih next checked.2⟩

theorem run_invariant (condition : State → Event → Prop) (invariant : State → Prop)
    (preserved : ∀ s e next, invariant s → condition s e → step s e = some next → invariant next)
    (s final : State) (events : List Event) (start : invariant s)
    (each : EachStep step condition s events) (reached : run step s events = some final) :
    invariant final := by
  induction events generalizing s with
  | nil =>
      cases reached
      exact start
  | cons e events ih =>
      obtain ⟨next, stepped, rest⟩ := run_cons_some s final e events reached
      obtain ⟨now, later⟩ := each next stepped
      exact ih next (preserved s e next start now stepped) later rest

theorem run_preserved (invariant : State → Prop)
    (preserved : ∀ s e next, invariant s → step s e = some next → invariant next)
    (s final : State) (events : List Event) (start : invariant s)
    (reached : run step s events = some final) : invariant final := by
  induction events generalizing s with
  | nil =>
      cases reached
      exact start
  | cons e events ih =>
      obtain ⟨next, stepped, rest⟩ := run_cons_some s final e events reached
      exact ih next (preserved s e next start stepped) rest

theorem eachStep_and (left right : State → Event → Prop) (s : State) (events : List Event)
    (first : EachStep step left s events) (second : EachStep step right s events) :
    EachStep step (fun s e => left s e ∧ right s e) s events := by
  induction events generalizing s with
  | nil => trivial
  | cons e events ih =>
      intro next stepped
      obtain ⟨now, later⟩ := first next stepped
      obtain ⟨now', later'⟩ := second next stepped
      exact ⟨⟨now, now'⟩, ih next later later'⟩

theorem eachStep_true (s : State) (events : List Event) :
    EachStep step (fun _ _ => True) s events := by
  induction events generalizing s with
  | nil => trivial
  | cons e events ih => exact fun next _ => ⟨trivial, ih next⟩

theorem everyState_final (property : State → Prop) (s final : State) (events : List Event)
    (every : EveryState step property s events) (reached : run step s events = some final) :
    property final := by
  induction events generalizing s with
  | nil =>
      cases reached
      exact every
  | cons e events ih =>
      obtain ⟨next, stepped, rest⟩ := run_cons_some s final e events reached
      exact ih next (every.2 next stepped) rest

theorem everyState_imp (property implied : State → Prop) (implies : ∀ s, property s → implied s)
    (s : State) (events : List Event) (every : EveryState step property s events) :
    EveryState step implied s events := by
  induction events generalizing s with
  | nil => exact implies s every
  | cons e events ih =>
      exact ⟨implies s every.1, fun next stepped => ih next (every.2 next stepped)⟩

theorem eachStep_mono (left right : State → Event → Prop) (invariant : State → Prop)
    (preserved : ∀ s e next, invariant s → left s e → step s e = some next → invariant next)
    (implies : ∀ s e next, invariant s → step s e = some next → left s e → right s e)
    (s : State) (events : List Event) (start : invariant s) (each : EachStep step left s events) :
    EachStep step right s events := by
  induction events generalizing s with
  | nil => trivial
  | cons e events ih =>
      intro next stepped
      obtain ⟨now, later⟩ := each next stepped
      constructor
      · exact implies s e next start stepped now
      · exact ih next (preserved s e next start now stepped) later

/-- Conditions that agree wherever the invariant holds agree along a run; steps that meet
them may be what keeps the invariant. -/
theorem eachStep_congr (left right : State → Event → Prop) (invariant : State → Prop)
    (preserved : ∀ s e next, invariant s → right s e → step s e = some next → invariant next)
    (agree : ∀ s e next, invariant s → step s e = some next → (left s e ↔ right s e))
    (s : State) (events : List Event) (start : invariant s) :
    EachStep step left s events ↔ EachStep step right s events := by
  constructor
  · apply eachStep_mono left right invariant _ _ s events start
    · intro s e next now met stepped
      exact preserved s e next now ((agree s e next now stepped).mp met) stepped
    · intro s e next now stepped
      exact (agree s e next now stepped).mp
  · apply eachStep_mono right left invariant preserved _ s events start
    intro s e next now stepped
    exact (agree s e next now stepped).mpr

/-- A history is kept beside the state: it sees every step, and has no part in it. -/
def observed {History : Type} (step : State → Event → Option State)
    (record : State → Event → State → History → History) (now : State × History) (e : Event) :
    Option (State × History) :=
  (step now.1 e).map fun next => (next, record now.1 e next now.2)

theorem observed_some {History : Type} (record : State → Event → State → History → History)
    (now after : State × History) (e : Event) (stepped : observed step record now e = some after) :
    step now.1 e = some after.1 ∧ after.2 = record now.1 e after.1 now.2 := by
  simp only [observed, Option.map_eq_some_iff] at stepped
  obtain ⟨next, stepped, rfl⟩ := stepped
  exact ⟨stepped, rfl⟩

theorem run_observed {History : Type} (record : State → Event → State → History → History)
    (now : State × History) (events : List Event) :
    (run (observed step record) now events).map Prod.fst = run step now.1 events := by
  induction events generalizing now with
  | nil => rfl
  | cons e events ih =>
      simp only [run, observed]
      cases step now.1 e with
      | none => rfl
      | some next => exact ih (next, record now.1 e next now.2)

theorem everyState_invariant (condition : State → Event → Prop) (invariant property : State → Prop)
    (holds : ∀ s, invariant s → property s)
    (preserved : ∀ s e next, invariant s → condition s e → step s e = some next → invariant next)
    (s : State) (events : List Event) (start : invariant s)
    (each : EachStep step condition s events) : EveryState step property s events := by
  induction events generalizing s with
  | nil => exact holds s start
  | cons e events ih =>
      refine ⟨holds s start, fun next stepped => ?_⟩
      obtain ⟨now, later⟩ := each next stepped
      exact ih next (preserved s e next start now stepped) later

/-- Where a step keeps the invariant as long as it meets the condition, and breaks the
property at once where it does not, the property holds throughout a run exactly when every
step of it meets the condition. All steps are of a kind the run is made of. -/
theorem everyState_iff (kind condition : State → Event → Prop) (invariant property : State → Prop)
    (holds : ∀ s, invariant s → property s)
    (kept : ∀ s e next, invariant s → kind s e → step s e = some next → condition s e →
      invariant next)
    (broken : ∀ s e next, invariant s → kind s e → step s e = some next → property next →
      condition s e)
    (s : State) (events : List Event) (start : invariant s) (each : EachStep step kind s events) :
    EveryState step property s events ↔ EachStep step condition s events := by
  induction events generalizing s with
  | nil => exact ⟨fun _ => trivial, fun _ => holds s start⟩
  | cons e events ih =>
      constructor
      · rintro ⟨-, later⟩ next stepped
        obtain ⟨of_kind, rest⟩ := each next stepped
        have first : property next := by
          cases events with
          | nil => exact later next stepped
          | cons e' events => exact (later next stepped).1
        have now := broken s e next start of_kind stepped first
        have start' := kept s e next start of_kind stepped now
        exact ⟨now, (ih next start' rest).mp (later next stepped)⟩
      · intro met
        refine ⟨holds s start, fun next stepped => ?_⟩
        obtain ⟨of_kind, rest⟩ := each next stepped
        obtain ⟨now, later⟩ := met next stepped
        have start' := kept s e next start of_kind stepped now
        exact (ih next start' rest).mpr later

theorem eachStep_append (condition : State → Event → Prop) (s middle : State)
    (front back : List Event) (reached : run step s front = some middle)
    (each : EachStep step condition s (front ++ back)) :
    EachStep step condition middle back := by
  induction front generalizing s with
  | nil =>
      cases reached
      exact each
  | cons e front ih =>
      obtain ⟨next, stepped, rest⟩ := run_cons_some s middle e front reached
      exact ih next rest (each next stepped).2

end Runs

namespace Chains

variable {State Label : Type}

section

variable (change : State → List Label → State → Prop)

inductive Chain : State → List Label → State → Prop where
  | done (s : State) : Chain s [] s
  | next (s middle t : State) (first rest : List Label) (now : change s first middle)
      (later : Chain middle rest t) : Chain s (first ++ rest) t

end

namespace Chain

variable {change : State → List Label → State → Prop}

theorem single {s t : State} {labels : List Label} (now : change s labels t) :
    Chain change s labels t := by
  have chain := Chain.next s t t labels [] now (.done t)
  rwa [List.append_nil] at chain

theorem append {s t u : State} {front back : List Label} (first : Chain change s front t)
    (second : Chain change t back u) : Chain change s (front ++ back) u := by
  induction first with
  | done s => exact second
  | next s middle t label rest now later ih =>
      rw [List.append_assoc]
      exact .next s middle u label (rest ++ back) now (ih second)

theorem relates (relation : State → List Label → State → Prop)
    (refl : ∀ s, relation s [] s)
    (extend : ∀ s middle t first rest, change s first middle → relation middle rest t →
      relation s (first ++ rest) t)
    {s t : State} {labels : List Label} (chain : Chain change s labels t) :
    relation s labels t := by
  induction chain with
  | done s => exact refl s
  | next s middle t first rest now later ih => exact extend s middle t first rest now ih

theorem keeps (invariant : State → Prop)
    (kept : ∀ s labels t, invariant s → change s labels t → invariant t)
    {s t : State} {labels : List Label} (chain : Chain change s labels t)
    (start : invariant s) : invariant t := by
  induction chain with
  | done s => exact start
  | next s middle t first rest now later ih => exact ih (kept s first middle start now)

theorem foldl {Item : Type} (invariant : State → Prop) (f : State → Item → State)
    (calls : ∀ s item, invariant s →
      ∃ labels, Chain change s labels (f s item) ∧ invariant (f s item))
    (items : List Item) (s : State) (start : invariant s) :
    ∃ labels, Chain change s labels (items.foldl f s) ∧ invariant (items.foldl f s) := by
  induction items generalizing s with
  | nil => exact ⟨[], .done s, start⟩
  | cons item items ih =>
      obtain ⟨front, first, middle⟩ := calls s item start
      obtain ⟨back, second, final⟩ := ih (f s item) middle
      exact ⟨front ++ back, first.append second, final⟩

end Chain

end Chains
