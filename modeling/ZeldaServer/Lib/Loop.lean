import Mathlib.Tactic.Common

/-! While loops run with fuel: when they leave, what they leave with, and when
they never leave. -/

namespace WhileLoop

inductive Pass (σ ρ : Type) where
  | again (next : σ)
  | exit (result : ρ)

variable {σ ρ : Type}

/-- At most `fuel` passes; `none` when the loop has not left by then. -/
def run (body : σ → Pass σ ρ) : Nat → σ → Option ρ
  | 0, _ => none
  | fuel + 1, state =>
      match body state with
      | .again next => run body fuel next
      | .exit result => some result

def Leaves (body : σ → Pass σ ρ) (state : σ) (result : ρ) : Prop :=
  ∃ fuel, run body fuel state = some result

theorem run_again (body : σ → Pass σ ρ) (fuel : Nat) (state next : σ)
    (pass : body state = .again next) : run body (fuel + 1) state = run body fuel next := by
  simp only [run, pass]

theorem run_exit (body : σ → Pass σ ρ) (fuel : Nat) (state : σ) (result : ρ)
    (pass : body state = .exit result) : run body (fuel + 1) state = some result := by
  simp only [run, pass]

theorem run_mono (body : σ → Pass σ ρ) (fuel more : Nat) (state : σ) (result : ρ)
    (left : run body fuel state = some result) (enough : fuel ≤ more) :
    run body more state = some result := by
  induction fuel generalizing state more with
  | zero => cases left
  | succ fuel ih =>
      obtain ⟨rest, rfl⟩ : ∃ rest, more = rest + 1 := ⟨more - 1, by omega⟩
      cases pass : body state with
      | again next =>
          rw [run_again body fuel state next pass] at left
          rw [run_again body rest state next pass]
          exact ih rest next left (by omega)
      | exit value =>
          rw [run_exit body fuel state value pass] at left
          rw [run_exit body rest state value pass]
          exact left

theorem leaves_unique (body : σ → Pass σ ρ) (state : σ) (first second : ρ)
    (one : Leaves body state first) (two : Leaves body state second) : first = second := by
  obtain ⟨m, hm⟩ := one
  obtain ⟨n, hn⟩ := two
  have atFirst := run_mono body m (max m n) state first hm (Nat.le_max_left m n)
  have atSecond := run_mono body n (max m n) state second hn (Nat.le_max_right m n)
  exact Option.some.inj (atFirst.symm.trans atSecond)

theorem leaves_again (body : σ → Pass σ ρ) (state next : σ) (result : ρ)
    (pass : body state = .again next) :
    Leaves body state result ↔ Leaves body next result := by
  constructor
  · rintro ⟨fuel, left⟩
    cases fuel with
    | zero => cases left
    | succ fuel => exact ⟨fuel, by rwa [run_again body fuel state next pass] at left⟩
  · rintro ⟨fuel, left⟩
    exact ⟨fuel + 1, by rwa [run_again body fuel state next pass]⟩

theorem leaves_exit (body : σ → Pass σ ρ) (state : σ) (result : ρ)
    (pass : body state = .exit result) : Leaves body state result :=
  ⟨1, run_exit body 0 state result pass⟩

theorem never_leaves (body : σ → Pass σ ρ) (Stuck : σ → Prop)
    (again : ∀ state, Stuck state → ∃ next, body state = .again next ∧ Stuck next)
    (state : σ) (stuck : Stuck state) (result : ρ) : ¬ Leaves body state result := by
  rintro ⟨fuel, left⟩
  induction fuel generalizing state with
  | zero => cases left
  | succ fuel ih =>
      obtain ⟨next, pass, still⟩ := again state stuck
      rw [run_again body fuel state next pass] at left
      exact ih next still left

/-- A loop whose measure falls on every pass that can still leave has left, if it
leaves at all, once the measure is used up. -/
theorem leaves_within (body : σ → Pass σ ρ) (measure : σ → Nat) (Stuck : σ → Prop)
    (again : ∀ state, Stuck state → ∃ next, body state = .again next ∧ Stuck next)
    (falls : ∀ state next, body state = .again next →
      measure next < measure state ∨ Stuck state)
    (state : σ) (result : ρ) (left : Leaves body state result) :
    run body (measure state + 1) state = some result := by
  induction bound : measure state using Nat.strongRecOn generalizing state with
  | ind count ih =>
      cases pass : body state with
      | exit value =>
          have same := leaves_unique body state value result (leaves_exit body state value pass) left
          rw [run_exit body _ state value pass, same]
      | again next =>
          rcases falls state next pass with less | stuck
          · have later := (leaves_again body state next result pass).mp left
            have inside := ih (measure next) (by omega) next later rfl
            rw [run_again body _ state next pass]
            exact run_mono body _ _ next result inside (by omega)
          · exact absurd left (never_leaves body Stuck again state stuck result)

theorem leaves_invariant (body : σ → Pass σ ρ) (Inv : σ → Prop) (Post : ρ → Prop)
    (keeps : ∀ state next, Inv state → body state = .again next → Inv next)
    (exits : ∀ state result, Inv state → body state = .exit result → Post result)
    (state : σ) (result : ρ) (start : Inv state) (left : Leaves body state result) :
    Post result := by
  obtain ⟨fuel, left⟩ := left
  induction fuel generalizing state with
  | zero => cases left
  | succ fuel ih =>
      cases pass : body state with
      | again next =>
          rw [run_again body fuel state next pass] at left
          exact ih next (keeps state next start pass) left
      | exit value =>
          rw [run_exit body fuel state value pass] at left
          exact Option.some.inj left ▸ exits state value start pass

theorem run_ranked (body : σ → Pass σ ρ) (Ranked : σ → Nat → Prop) (Post : ρ → Prop)
    (falls : ∀ state rank next, Ranked state rank → body state = .again next →
      ∃ lower < rank, Ranked next lower)
    (exits : ∀ state rank result, Ranked state rank → body state = .exit result → Post result)
    (state : σ) (rank : Nat) (start : Ranked state rank) :
    ∃ result, run body (rank + 1) state = some result ∧ Post result := by
  induction rank using Nat.strongRecOn generalizing state with
  | ind rank ih =>
      cases pass : body state with
      | exit value =>
          exact ⟨value, run_exit body rank state value pass, exits state rank value start pass⟩
      | again next =>
          obtain ⟨lower, less, ranked⟩ := falls state rank next start pass
          obtain ⟨result, left, post⟩ := ih lower less next ranked
          refine ⟨result, ?_, post⟩
          rw [run_again body rank state next pass]
          exact run_mono body (lower + 1) rank next result left less

end WhileLoop
