import Mathlib.Data.Finset.Card
import Mathlib.Data.List.Basic

/-! The sessions that a `Service` counts and keeps alive, over any history of connects and
disconnects, with and without `NDEBUG`. -/

namespace ZeldaServer

namespace Service

variable {σ : Type} [DecidableEq σ]

/-- `_connected` of the sessions, and `_sessions` and `_sessionCount` of their service. -/
structure State (σ : Type) where
  connected : σ → Bool
  sessions : Finset σ
  sessionCount : Int

def State.initial : State σ := ⟨fun _ => false, ∅, 0⟩

/-- The calls in their order. A `Disconnect` that `OnConnected` or `RegisterRecv` makes comes
behind the `ProcessConnect` it is made from. -/
inductive Call (σ : Type) where
  /-- With what `WSAGetOverlappedResult` returns. -/
  | processConnect (session : σ) (succeeded : Bool)
  | disconnect (session : σ)
  deriving DecidableEq

def addSession (state : State σ) (session : σ) : State σ :=
  { state with
    sessionCount := state.sessionCount + 1
    sessions := insert session state.sessions }

/-- `assert` evaluates its argument unless `NDEBUG` is defined; `none` is where it aborts. -/
def releaseSession (ndebug : Bool) (state : State σ) (session : σ) : Option (State σ) :=
  let released := { state with sessionCount := state.sessionCount - 1 }
  if ndebug then some released
  else if session ∈ state.sessions then
    some { released with sessions := state.sessions.erase session }
  else none

def processConnect (state : State σ) (session : σ) (succeeded : Bool) : State σ :=
  if succeeded then
    addSession { state with connected := Function.update state.connected session true } session
  else state

def disconnect (ndebug : Bool) (state : State σ) (session : σ) : Option (State σ) :=
  if state.connected session then
    releaseSession ndebug
      { state with connected := Function.update state.connected session false } session
  else some state

def step (ndebug : Bool) (state : State σ) : Call σ → Option (State σ)
  | .processConnect session succeeded => some (processConnect state session succeeded)
  | .disconnect session => disconnect ndebug state session

def run (ndebug : Bool) (calls : List (Call σ)) : Option (State σ) :=
  calls.foldlM (step ndebug) .initial

structure Accounts (state : State σ) : Prop where
  kept : ∀ session, session ∈ state.sessions ↔ state.connected session = true
  counted : state.sessionCount = state.sessions.card

/-- A call that the accounts survive: no session is connected twice, and with `NDEBUG` no
connected session is disconnected. -/
def Sound {σ : Type} (ndebug : Bool) (connected : σ → Bool) : Call σ → Prop
  | .processConnect session succeeded => succeeded = true → connected session = false
  | .disconnect session => ndebug = true → connected session = false

omit [DecidableEq σ] in
theorem accounts_initial : Accounts (State.initial : State σ) :=
  ⟨by simp [State.initial], by simp [State.initial]⟩

def flagAfter (session : σ) (connected : Bool) : Call σ → Bool
  | .processConnect other succeeded => if other = session ∧ succeeded then true else connected
  | .disconnect other => if other = session then false else connected

def connectedAfter (calls : List (Call σ)) (session : σ) : Bool :=
  calls.foldl (flagAfter session) false

theorem step_connected {ndebug : Bool} {state after : State σ} {call : Call σ}
    (did : step ndebug state call = some after) (session : σ) :
    after.connected session = flagAfter session (state.connected session) call := by
  cases call with
  | processConnect other succeeded =>
      obtain rfl : processConnect state other succeeded = after := Option.some.inj did
      cases succeeded with
      | false => simp [processConnect, flagAfter]
      | true =>
          by_cases same : session = other
          · simp [processConnect, addSession, flagAfter, same]
          · simp [processConnect, addSession, flagAfter, same, Ne.symm same]
  | disconnect other =>
      change disconnect ndebug state other = some after at did
      have cleared : Function.update state.connected other false session =
          if other = session then false else state.connected session := by
        by_cases same : session = other
        · simp [same]
        · simp [same, Ne.symm same]
      unfold disconnect releaseSession at did
      split at did
      · split at did
        · cases did
          exact cleared
        · split at did
          · cases did
            exact cleared
          · cases did
      case isFalse off =>
        cases did
        by_cases same : other = session
        · subst same
          simpa [flagAfter] using off
        · simp [flagAfter, same]

theorem run_connected {ndebug : Bool} (calls : List (Call σ)) {state : State σ}
    (did : run ndebug calls = some state) : state.connected = connectedAfter calls := by
  induction calls using List.reverseRecOn generalizing state with
  | nil =>
      cases did
      rfl
  | append_singleton calls call ih =>
      unfold run at did
      rw [List.foldlM_append] at did
      obtain ⟨before, earlier, last⟩ := Option.bind_eq_some_iff.mp did
      simp only [List.foldlM_cons, List.foldlM_nil, bind_pure] at last
      funext session
      rw [step_connected last session, ih earlier, connectedAfter, connectedAfter,
        List.foldl_append]
      rfl

theorem step_accounts_iff (ndebug : Bool) (state : State σ) (call : Call σ)
    (accounts : Accounts state) :
    (∃ after, step ndebug state call = some after ∧ Accounts after) ↔
      Sound ndebug state.connected call := by
  obtain ⟨kept, counted⟩ := accounts
  cases call with
  | processConnect session succeeded =>
      cases succeeded with
      | false => simpa [step, processConnect, Sound] using ⟨kept, counted⟩
      | true =>
          simp only [step, Option.some.injEq, exists_eq_left', processConnect, if_true, addSession,
            Sound, true_implies]
          constructor
          · rintro ⟨-, counted'⟩
            by_contra twice
            have inside : session ∈ state.sessions := (kept session).mpr (by simpa using twice)
            dsimp only at counted'
            rw [Finset.insert_eq_of_mem inside] at counted'
            omega
          · intro fresh
            have outside : session ∉ state.sessions := by simp [kept, fresh]
            constructor
            · intro other
              by_cases same : other = session
              · simp [same]
              · simp [same, kept]
            · dsimp only
              rw [Finset.card_insert_of_notMem outside]
              push_cast
              omega
  | disconnect session =>
      simp only [step, disconnect, Sound]
      by_cases on : state.connected session = true
      case neg => simpa [on] using ⟨kept, counted⟩
      case pos =>
        have inside : session ∈ state.sessions := (kept session).mpr on
        cases ndebug with
        | true =>
            -- the session stays in `_sessions`
            simp only [on, if_true, releaseSession, true_implies, Bool.true_eq_false, iff_false]
            rintro ⟨after, did, kept', -⟩
            cases did
            have flag := (kept' session).mp inside
            simp at flag
        | false =>
            simp only [on, if_true, releaseSession, Bool.false_eq_true, if_false, if_pos inside,
              Option.some.injEq, exists_eq_left', false_implies, iff_true]
            constructor
            · intro other
              by_cases same : other = session
              · simp [same]
              · simp [same, kept]
            · dsimp only
              have positive : 0 < state.sessions.card := Finset.card_pos.mpr ⟨session, inside⟩
              rw [Finset.card_erase_of_mem inside]
              omega

/-- The service keeps and counts exactly the connected sessions behind every call of a history if
and only if no connected session is connected again and, with `NDEBUG`, none is disconnected. -/
theorem session_accounts_iff (ndebug : Bool) (calls : List (Call σ)) :
    (∀ before, before <+: calls → ∃ state, run ndebug before = some state ∧ Accounts state) ↔
      ∀ before call after, calls = before ++ call :: after →
        Sound ndebug (connectedAfter before) call := by
  have last (front : List (Call σ)) (call : Call σ) (state : State σ)
      (did : run ndebug front = some state) (accounts : Accounts state) :
      (∃ state', run ndebug (front ++ [call]) = some state' ∧ Accounts state') ↔
        Sound ndebug (connectedAfter front) call := by
    have next : run ndebug (front ++ [call]) = step ndebug state call := by
      unfold run at did ⊢
      rw [List.foldlM_append, did]
      simp
    rw [next, ← run_connected front did]
    exact step_accounts_iff ndebug state call accounts
  constructor
  · rintro all front call after rfl
    obtain ⟨state, did, accounts⟩ := all front (List.prefix_append front (call :: after))
    apply (last front call state did accounts).mp
    apply all
    exact ⟨after, by simp⟩
  · intro sound before
    induction before using List.reverseRecOn with
    | nil => exact fun _ => ⟨.initial, rfl, accounts_initial⟩
    | append_singleton front call ih =>
        rintro ⟨after, rfl⟩
        obtain ⟨state, did, accounts⟩ := ih ⟨call :: after, by simp⟩
        exact (last front call state did accounts).mpr (sound front call after (by simp))

/-- One client comes and goes. -/
theorem release_build_keeps_session :
    ¬ ∀ (ndebug : Bool) (calls : List (Call Nat)), ∀ before, before <+: calls →
      ∃ state, run ndebug before = some state ∧ Accounts state := by
  intro all
  obtain ⟨state, did, kept, -⟩ :=
    all true [.processConnect 1 true, .disconnect 1] _ (List.prefix_refl _)
  cases did
  exact absurd ((kept 1).mp (Finset.mem_insert_self 1 ∅)) (by decide)

end Service

end ZeldaServer
