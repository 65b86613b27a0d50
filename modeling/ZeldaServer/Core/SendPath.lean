import ZeldaServer.Core.Session

/-! Sending: the flag `_sendRegistered` is a baton. The thread that sets it goes through
`RegisterSend`, the outstanding `WSASend` carries it on, and the thread that completes it
registers the next send or gives it back. -/

namespace ZeldaServer

open Baton (Owner Carried)

/-- Inside `RegisterSend` or `ProcessSend`. -/
def Point.sending : Point → Bool
  | .registerSend | .copy | .gather | .post _ | .sendFailed _ | .clear | .release
  | .processSend _ | .sent _ | .drain => true
  | _ => false

/-- The next step reads or changes `_sendEvent.sendBuffers`. -/
def Point.touches : Point → Bool
  | .copy | .gather | .clear | .processSend _ => true
  | _ => false

theorem sending_of_touches (point : Point) (touches : point.touches = true) :
    point.sending = true := by
  cases point with
  | copy | gather | clear | processSend _ => rfl
  | _ => cases touches

namespace Session

/-- What is true where the thread that holds the baton is: the buffers pushed are those
posted, those in its hand, and those of the queue. -/
def Holding (s : Session) : Point → Prop
  | .registerSend => s.sendBuffers = [] ∧ s.pushed = s.posted ++ s.sendQueue
  | .copy | .sent _ | .drain =>
      s.link ≠ .unconnected ∧ s.sendBuffers = [] ∧ s.pushed = s.posted ++ s.sendQueue
  | .gather => s.link ≠ .unconnected ∧ s.pushed = s.posted ++ s.sendBuffers ++ s.sendQueue
  | .post wsaBufs =>
      s.link ≠ .unconnected ∧ wsaBufs = s.sendBuffers ∧
        s.pushed = s.posted ++ s.sendBuffers ++ s.sendQueue
  | .sendFailed errorCode =>
      s.link ≠ .unconnected ∧ resets errorCode = true ∧
        s.pushed = s.posted ++ s.sendBuffers ++ s.sendQueue
  | .processSend _ => s.link ≠ .unconnected ∧ s.pushed = s.posted ++ s.sendQueue
  | _ => False

inductive Sending (s : Session) : Owner ThreadId → Prop where
  | rests (carried : Carried Point.sending s.threads .nobody)
      (registered : s.sendRegistered = false) (sends : s.sends = 0) (empty : s.sendQueue = [])
      (buffers : s.sendBuffers = []) (data : s.pushed = s.posted) : Sending s .nobody
  | works (t : ThreadId) (carried : Carried Point.sending s.threads (.thread t))
      (registered : s.sendRegistered = true) (sends : s.sends = 0)
      (holding : s.Holding (s.threads t)) : Sending s (.thread t)
  | waits (carried : Carried Point.sending s.threads .outside)
      (registered : s.sendRegistered = true) (sends : s.sends = 1)
      (link : s.link ≠ .unconnected) (data : s.pushed = s.posted ++ s.sendQueue) :
      Sending s .outside

/-- The steps that keep the baton: while the session is connected `WSASend` fails with a code
that disconnects, if at all, and `RegisterSend` does not find it unconnected yet. -/
structure KeepsSending (s : Session) (e : SessionEvent) : Prop where
  codes : ∀ t errorCode, e = .wsaSend t (.error errorCode) → s.link = .connected →
    errorCode = WSA_IO_PENDING ∨ resets errorCode = true
  connected : ∀ t, e = .run t → s.threads t = .registerSend → s.link ≠ .unconnected

theorem Sending.carried {s : Session} {owner : Owner ThreadId} (sending : s.Sending owner) :
    Carried Point.sending s.threads owner := by
  cases sending with
  | rests carried => exact carried
  | works t carried => exact carried
  | waits carried => exact carried

theorem Sending.pass_by {s : Session} {owner : Owner ThreadId} (sending : s.Sending owner)
    (next : Session) (t : ThreadId) (point : Point) (without : (s.threads t).sending = false)
    (still : point.sending = false) (threads : next.threads = Function.update s.threads t point)
    (queue : next.sendQueue = s.sendQueue) (registered : next.sendRegistered = s.sendRegistered)
    (buffers : next.sendBuffers = s.sendBuffers) (sends : next.sends = s.sends)
    (pushed : next.pushed = s.pushed) (posted : next.posted = s.posted)
    (link : s.link ≠ .unconnected → next.link ≠ .unconnected) : next.Sending owner := by
  have carried := sending.carried.pass_by t point without still
  rw [← threads] at carried
  cases sending with
  | rests _ registered' sends' empty buffers' data =>
      apply Sending.rests carried
      · rw [registered, registered']
      · rw [sends, sends']
      · rw [queue, empty]
      · rw [buffers, buffers']
      · rw [pushed, posted, data]
  | works t' carried' registered' sends' holding =>
      have apart : t' ≠ t := by
        intro same
        have held := (carried' t').mpr rfl
        rw [same, without] at held
        cases held
      have same : next.threads t' = s.threads t' := by
        rw [threads, Function.update_of_ne apart]
      apply Sending.works t' carried
      · rw [registered, registered']
      · rw [sends, sends']
      · rw [same]
        cases point' : s.threads t' with
        | registerSend =>
            rw [point'] at holding
            simpa only [Holding, buffers, pushed, posted, queue] using holding
        | copy | sent _ | drain | gather | post _ | sendFailed _ | processSend _ =>
            rw [point'] at holding
            simp only [Holding, buffers, pushed, posted, queue] at holding ⊢
            exact ⟨link holding.1, holding.2⟩
        | _ =>
            rw [point'] at holding
            cases holding
  | waits _ registered' sends' link' data =>
      apply Sending.waits carried
      · rw [registered, registered']
      · rw [sends, sends']
      · exact link link'
      · rw [pushed, posted, queue, data]

theorem Sending.at_work {s : Session} {owner : Owner ThreadId} (sending : s.Sending owner)
    (t : ThreadId) (held : (s.threads t).sending = true) :
    Carried Point.sending s.threads (.thread t) ∧ s.sendRegistered = true ∧ s.sends = 0 ∧
      s.Holding (s.threads t) := by
  have same := sending.carried.owner_of_holds t held
  subst same
  cases sending with
  | works _ carried registered sends holding => exact ⟨carried, registered, sends, holding⟩

theorem Sending.holding_at {s : Session} {owner : Owner ThreadId} (sending : s.Sending owner)
    (t : ThreadId) {point : Point} (here : s.threads t = point) (inside : point.sending = true) :
    (s.threads t).sending = true ∧ s.Holding point := by
  subst here
  exact ⟨inside, (sending.at_work t inside).2.2.2⟩

theorem Sending.goes_on {s : Session} {owner : Owner ThreadId} (sending : s.Sending owner)
    (next : Session) (t : ThreadId) (point : Point) (held : (s.threads t).sending = true)
    (still : point.sending = true) (threads : next.threads = Function.update s.threads t point)
    (registered : next.sendRegistered = s.sendRegistered) (sends : next.sends = s.sends)
    (holding : next.Holding point) : next.Sending (.thread t) := by
  obtain ⟨carried, registered', sends', -⟩ := sending.at_work t held
  have carried' := carried.keep t point held still
  rw [← threads] at carried'
  apply Sending.works t carried'
  · rw [registered, registered']
  · rw [sends, sends']
  · rw [threads, Function.update_self]
    exact holding

theorem Sending.gives_back {s : Session} {owner : Owner ThreadId} (sending : s.Sending owner)
    (t : ThreadId) (held : (s.threads t).sending = true) (empty : s.sendQueue = [])
    (buffers : s.sendBuffers = []) (data : s.pushed = s.posted ++ s.sendQueue) :
    ({ s with sendRegistered := false }.goTo t .outside).Sending .nobody := by
  obtain ⟨carried, -, sends, -⟩ := sending.at_work t held
  apply Sending.rests
  · exact carried.give .outside rfl .nobody (by simp)
  · rfl
  · exact sends
  · exact empty
  · exact buffers
  · rw [empty, List.append_nil] at data
    exact data

theorem Sending.posts {s : Session} {owner : Owner ThreadId} (sending : s.Sending owner)
    (t : ThreadId) (wsaBufs : List SendBufferRef) (point : s.threads t = .post wsaBufs) :
    ({ s with sends := s.sends + 1, posted := s.posted ++ wsaBufs }.goTo t .outside).Sending
      .outside := by
  have held : (s.threads t).sending = true := by rw [point]; rfl
  obtain ⟨carried, registered, sends, holding⟩ := sending.at_work t held
  rw [point] at holding
  obtain ⟨link, gathered, data⟩ := holding
  apply Sending.waits
  · exact carried.give .outside rfl .outside (by simp)
  · exact registered
  · exact congrArg (· + 1) sends
  · exact link
  · rw [gathered]
    exact data

theorem Sending.completes {s : Session} {owner : Owner ThreadId} (sending : s.Sending owner)
    (t : ThreadId) (numOfBytes : Nat) (outstanding : 0 < s.sends) :
    ({ s with sends := s.sends - 1 }.goTo t (.processSend numOfBytes)).Sending (.thread t) := by
  cases sending with
  | rests _ _ sends =>
      rw [sends] at outstanding
      exact absurd outstanding (Nat.lt_irrefl 0)
  | works _ _ _ sends =>
      rw [sends] at outstanding
      exact absurd outstanding (Nat.lt_irrefl 0)
  | waits carried registered sends link data =>
      apply Sending.works t
      · exact carried.take t (.processSend numOfBytes) (by simp) rfl
      · exact registered
      · exact congrArg (· - 1) sends
      · simp only [goTo, Function.update_self]
        exact ⟨link, data⟩

theorem Sending.push {s : Session} {owner : Owner ThreadId} (sending : s.Sending owner)
    (t : ThreadId) (sendBuffer : SendBufferRef) (point : s.threads t = .send sendBuffer) :
    ∃ owner', (s.push t sendBuffer).Sending owner' := by
  have without : (s.threads t).sending = false := by rw [point]; rfl
  cases sending with
  | rests carried registered sends empty buffers data =>
      refine ⟨.thread t, ?_⟩
      simp only [Session.push, registered, Bool.false_eq_true, if_false]
      apply Sending.works t
      · exact carried.take t .registerSend (by simp) rfl
      · rfl
      · exact sends
      · simp only [goTo, Function.update_self]
        refine ⟨buffers, ?_⟩
        rw [data, empty, List.nil_append]
  | works t' carried registered sends holding =>
      refine ⟨.thread t', ?_⟩
      simp only [Session.push, registered, if_true]
      have apart : t' ≠ t := by
        intro same
        have held := (carried t').mpr rfl
        rw [same, without] at held
        cases held
      apply Sending.works t'
      · exact carried.pass_by t .outside without rfl
      · rfl
      · exact sends
      · simp only [goTo, Function.update_of_ne apart]
        cases point' : s.threads t' with
        | registerSend =>
            rw [point'] at holding
            obtain ⟨buffers, data⟩ := holding
            refine ⟨buffers, ?_⟩
            rw [data, List.append_assoc]
        | copy | sent _ | drain =>
            rw [point'] at holding
            obtain ⟨link, buffers, data⟩ := holding
            refine ⟨link, buffers, ?_⟩
            rw [data, List.append_assoc]
        | gather | processSend _ =>
            rw [point'] at holding
            obtain ⟨link, data⟩ := holding
            refine ⟨link, ?_⟩
            rw [data, List.append_assoc]
        | post _ | sendFailed _ =>
            rw [point'] at holding
            obtain ⟨link, fits, data⟩ := holding
            refine ⟨link, fits, ?_⟩
            rw [data, List.append_assoc]
        | _ =>
            rw [point'] at holding
            cases holding
  | waits carried registered sends link data =>
      refine ⟨.outside, ?_⟩
      simp only [Session.push, registered, if_true]
      apply Sending.waits
      · exact carried.pass_by t .outside without rfl
      · rfl
      · exact sends
      · exact link
      · rw [data, List.append_assoc]
        rfl

theorem disconnect_idle (s : Session) (alive : s.disconnect.link ≠ .disconnected) :
    s.disconnect = s := by
  by_cases link : s.link = .connected
  · simp [disconnect, link] at alive
  · simp only [disconnect, if_neg link]

theorem disconnected_of_established (s : Session) (established : s.link ≠ .unconnected) :
    s.disconnect.link = .disconnected := by
  cases link : s.link with
  | unconnected => exact absurd link established
  | _ => simp [disconnect, link]

theorem advance_working (s next : Session) (t : ThreadId) (owner : Owner ThreadId)
    (sending : s.Sending owner) (inside : (s.threads t).sending = true)
    (connected : s.threads t = .registerSend → s.link ≠ .unconnected)
    (advanced : s.advance t = some next) (alive : next.link ≠ .disconnected) :
    ∃ owner', next.Sending owner' := by
  unfold advance at advanced
  cases point : s.threads t with
  | registerSend =>
      rw [point] at advanced
      cases advanced
      obtain ⟨held, holding⟩ := sending.holding_at t point rfl
      have link : s.link = .connected := by
        have established := connected point
        cases link : s.link with
        | connected => rfl
        | unconnected => exact absurd link established
        | disconnected => exact absurd link alive
      refine ⟨.thread t, ?_⟩
      simp only [isConnected, link, decide_true, if_true]
      exact sending.goes_on _ t .copy held rfl rfl rfl rfl ⟨by simp [goTo, link], holding⟩
  | copy =>
      rw [point] at advanced
      cases advanced
      obtain ⟨held, link, buffers, data⟩ := sending.holding_at t point rfl
      refine ⟨.thread t, sending.goes_on _ t .gather held rfl rfl rfl rfl ⟨link, ?_⟩⟩
      simp only [goTo, buffers, List.nil_append, List.append_nil]
      exact data
  | gather =>
      rw [point] at advanced
      cases advanced
      obtain ⟨held, link, data⟩ := sending.holding_at t point rfl
      exact ⟨.thread t, sending.goes_on _ t (.post s.sendBuffers) held rfl rfl rfl rfl
        ⟨link, rfl, data⟩⟩
  | sendFailed errorCode =>
      rw [point] at advanced
      cases advanced
      obtain ⟨-, established, resets, -⟩ := sending.holding_at t point rfl
      simp only [handleError, resets, if_true] at alive
      exact absurd (disconnected_of_established s established) alive
  | clear | release => exact (sending.holding_at t point rfl).2.elim
  | processSend numOfBytes =>
      rw [point] at advanced
      cases advanced
      obtain ⟨held, link, data⟩ := sending.holding_at t point rfl
      exact ⟨.thread t, sending.goes_on _ t (.sent numOfBytes) held rfl rfl rfl rfl
        ⟨link, rfl, data⟩⟩
  | sent numOfBytes =>
      rw [point] at advanced
      obtain ⟨held, holding⟩ := sending.holding_at t point rfl
      dsimp only at advanced
      split at advanced
      case isTrue =>
        cases advanced
        exact absurd (disconnected_of_established s holding.1) alive
      case isFalse =>
        cases advanced
        exact ⟨.thread t, sending.goes_on _ t .drain held rfl rfl rfl rfl holding⟩
  | drain =>
      rw [point] at advanced
      obtain ⟨held, -, buffers, data⟩ := sending.holding_at t point rfl
      dsimp only at advanced
      split at advanced
      case isTrue empty =>
        cases advanced
        exact ⟨.nobody, sending.gives_back t held empty buffers data⟩
      case isFalse =>
        cases advanced
        exact ⟨.thread t, sending.goes_on _ t .registerSend held rfl rfl rfl rfl ⟨buffers, data⟩⟩
  | post _ =>
      rw [point] at advanced
      cases advanced
  | _ =>
      rw [point] at inside
      cases inside

theorem advance_passing (s next : Session) (t : ThreadId) (owner : Owner ThreadId)
    (sending : s.Sending owner) (without : (s.threads t).sending = false)
    (advanced : s.advance t = some next) (alive : next.link ≠ .disconnected) :
    ∃ owner', next.Sending owner' := by
  have elsewhere (point : Point) (still : point.sending = false) :
      (s.goTo t point).Sending owner :=
    sending.pass_by _ t point without still rfl rfl rfl rfl rfl rfl rfl id
  unfold advance at advanced
  cases point : s.threads t with
  | send sendBuffer =>
      rw [point] at advanced
      cases advanced
      exact sending.push t sendBuffer point
  | processConnect =>
      rw [point] at advanced
      cases advanced
      refine ⟨owner, sending.pass_by _ t .onConnected without rfl rfl rfl rfl rfl rfl rfl rfl ?_⟩
      intro _
      simp [goTo]
  | onConnected =>
      rw [point] at advanced
      cases advanced
      exact ⟨owner, elsewhere .registerRecv rfl⟩
  | registerRecv =>
      rw [point] at advanced
      cases advanced
      refine ⟨owner, elsewhere _ ?_⟩
      split <;> rfl
  | recvFailed errorCode =>
      rw [point] at advanced
      cases advanced
      have same : s.handleError errorCode = s := by
        unfold handleError at alive ⊢
        split
        case isTrue resets =>
          rw [if_pos resets] at alive
          exact disconnect_idle s alive
        case isFalse => rfl
      rw [same]
      exact ⟨owner, elsewhere .outside rfl⟩
  | outside | recv | processRecv _ =>
      rw [point] at advanced
      cases advanced
  | _ =>
      rw [point] at without
      cases without

theorem advance_sending (s next : Session) (t : ThreadId) (owner : Owner ThreadId)
    (sending : s.Sending owner) (connected : s.threads t = .registerSend → s.link ≠ .unconnected)
    (advanced : s.advance t = some next) (alive : next.link ≠ .disconnected) :
    ∃ owner', next.Sending owner' := by
  cases inside : (s.threads t).sending with
  | true => exact advance_working s next t owner sending inside connected advanced alive
  | false => exact advance_passing s next t owner sending inside advanced alive

theorem Sending.answered {s : Session} {owner : Owner ThreadId} (sending : s.Sending owner)
    (t : ThreadId) (wsaBufs : List SendBufferRef) (result : WsaResult)
    (point : s.threads t = .post wsaBufs)
    (codes : ∀ errorCode, result = .error errorCode → s.link = .connected →
      errorCode = WSA_IO_PENDING ∨ resets errorCode = true)
    (alive : (s.posting t wsaBufs result).link ≠ .disconnected) :
    ∃ owner', (s.posting t wsaBufs result).Sending owner' := by
  rcases posting_cases s t wsaBufs result with posted | ⟨errorCode, error, failed, result⟩
  · rw [posted]
    exact ⟨.outside, sending.posts t wsaBufs point⟩
  · obtain ⟨held, established, -, data⟩ := sending.holding_at t point rfl
    rw [result] at alive ⊢
    have link : s.link = .connected := by
      cases link : s.link with
      | connected => rfl
      | unconnected => exact absurd link established
      | disconnected => exact absurd link alive
    have reset := (codes errorCode error link).resolve_left failed
    exact ⟨.thread t, sending.goes_on _ t (.sendFailed errorCode) held rfl rfl rfl rfl
      ⟨established, reset, data⟩⟩

theorem step_sending (s next : Session) (e : SessionEvent) (owner : Owner ThreadId)
    (sending : s.Sending owner) (keeps : s.KeepsSending e) (stepped : s.step e = some next)
    (alive : next.link ≠ .disconnected) : ∃ owner', next.Sending owner' := by
  have elsewhere (t : ThreadId) (point : Point) (without : (s.threads t).sending = false)
      (still : point.sending = false) : (s.goTo t point).Sending owner :=
    sending.pass_by _ t point without still rfl rfl rfl rfl rfl rfl rfl id
  cases step_happens s next e stepped with
  | calls t sendBuffer idle =>
      exact ⟨owner, elsewhere t (.send sendBuffer) (by rw [idle]; rfl) rfl⟩
  | runs t _ advanced =>
      exact advance_sending s next t owner sending (keeps.connected t rfl) advanced alive
  | sends t wsaBufs result point =>
      apply sending.answered t wsaBufs result point _ alive
      intro errorCode failed
      exact keeps.codes t errorCode (by rw [failed])
  | receives t result point =>
      have without : (s.threads t).sending = false := by rw [point]; rfl
      refine ⟨owner, ?_⟩
      rcases receiving_cases s t result with received | ⟨errorCode, -, -, failed⟩
      · rw [received]
        exact sending.pass_by _ t .outside without rfl rfl rfl rfl rfl rfl rfl rfl id
      · rw [failed]
        exact elsewhere t (.recvFailed errorCode) without rfl
  | handles t numOfBytes point =>
      exact ⟨owner, elsewhere t .registerRecv (by rw [point]; rfl) rfl⟩
  | refuses t accepted numOfBytes point =>
      rw [disconnect_idle s alive]
      exact ⟨owner, elsewhere t .outside (by rw [point]; rfl) rfl⟩
  | connects t succeeded outstanding idle =>
      refine ⟨owner, sending.pass_by _ t _ (by rw [idle]; rfl) ?_ rfl rfl rfl rfl rfl rfl rfl id⟩
      split <;> rfl
  | sent t numOfBytes outstanding => exact ⟨.thread t, sending.completes t numOfBytes outstanding⟩
  | received t numOfBytes outstanding idle =>
      exact ⟨owner, sending.pass_by _ t (.processRecv numOfBytes) (by rw [idle]; rfl) rfl rfl rfl rfl
        rfl rfl rfl rfl id⟩
  | disconnects =>
      rw [disconnect_idle s alive]
      exact ⟨owner, sending⟩

/-- Inside `Send`, `RegisterSend` or `ProcessSend`. -/
def inSend (s : Session) (t : ThreadId) : Bool :=
  match s.threads t with
  | .send _ => true
  | point => point.sending

structure Established (s : Session) : Prop where
  link : s.link = .connected
  queue : s.sendQueue = []
  registered : s.sendRegistered = false
  buffers : s.sendBuffers = []
  sends : s.sends = 0
  pushed : s.pushed = []
  posted : s.posted = []
  threads : ∀ t, (s.threads t).sending = false

/-- `WSASend` succeeds or is pending, and the session stays connected. -/
structure Smooth (s : Session) (e : SessionEvent) : Prop where
  codes : ∀ t errorCode, e = .wsaSend t (.error errorCode) → errorCode = WSA_IO_PENDING
  connected : ∀ next, s.step e = some next → next.link = .connected

theorem Established.sending {s : Session} (established : s.Established) : s.Sending .nobody := by
  apply Sending.rests
  · intro t
    apply iff_of_false _ (by simp)
    rw [established.threads t]
    exact Bool.false_ne_true
  · exact established.registered
  · exact established.sends
  · exact established.queue
  · exact established.buffers
  · rw [established.pushed, established.posted]

theorem smooth_step (s next : Session) (e : SessionEvent)
    (before : s.link = .connected ∧ ∃ owner, s.Sending owner) (smooth : s.Smooth e)
    (stepped : s.step e = some next) : next.link = .connected ∧ ∃ owner, next.Sending owner := by
  obtain ⟨link, owner, sending⟩ := before
  have link' := smooth.connected next stepped
  refine ⟨link', step_sending s next e owner sending ?_ stepped (by simp [link'])⟩
  constructor
  · exact fun t errorCode failed _ => .inl (smooth.codes t errorCode failed)
  · exact fun _ _ _ => by simp [link]

theorem smooth_sending (start final : Session) (events : List SessionEvent)
    (established : start.Established) (smooth : Runs.EachStep step Smooth start events)
    (reached : Runs.run step start events = some final) : ∃ owner, final.Sending owner := by
  have begins : start.link = .connected ∧ ∃ owner, start.Sending owner :=
    ⟨established.link, .nobody, established.sending⟩
  exact (Runs.run_invariant Smooth (fun s => s.link = .connected ∧ ∃ owner, s.Sending owner)
    (fun s e next before fine stepped => smooth_step s next e before fine stepped)
    start final events begins smooth reached).2

theorem Sending.one_send {s : Session} {owner : Owner ThreadId} (sending : s.Sending owner) :
    s.sends ≤ 1 := by
  cases sending with
  | rests _ _ sends => omega
  | works _ _ _ sends => omega
  | waits _ _ sends => omega

theorem Sending.posted_prefix {s : Session} {owner : Owner ThreadId} (sending : s.Sending owner) :
    s.posted <+: s.pushed := by
  cases sending with
  | rests _ _ _ _ _ data =>
      refine ⟨[], ?_⟩
      rw [List.append_nil, data]
  | works t _ _ _ holding =>
      cases point : s.threads t with
      | registerSend | processSend _ =>
          rw [point] at holding
          exact ⟨_, holding.2.symm⟩
      | copy | sent _ | drain =>
          rw [point] at holding
          exact ⟨_, holding.2.2.symm⟩
      | gather =>
          rw [point] at holding
          refine ⟨s.sendBuffers ++ s.sendQueue, ?_⟩
          rw [holding.2, List.append_assoc]
      | post _ | sendFailed _ =>
          rw [point] at holding
          refine ⟨s.sendBuffers ++ s.sendQueue, ?_⟩
          rw [holding.2.2, List.append_assoc]
      | _ =>
          rw [point] at holding
          cases holding
  | waits _ _ _ _ data => exact ⟨_, data.symm⟩

theorem Sending.quiet {s : Session} {owner : Owner ThreadId} (sending : s.Sending owner)
    (nobody : ∀ t, s.inSend t = false) (none : s.sends = 0) :
    s.sendQueue = [] ∧ s.posted = s.pushed := by
  cases sending with
  | rests _ _ _ empty _ data => exact ⟨empty, data.symm⟩
  | works t carried =>
      have held : (s.threads t).sending = true := (carried t).mpr rfl
      have out := nobody t
      unfold inSend at out
      split at out
      · cases out
      · rw [held] at out
        cases out
  | waits _ _ sends => omega

/-- However many threads send through a connected session: at most one `WSASend` is
outstanding, one thread at a time touches its buffers, they are posted in the order of their
pushes, each once, and none is left when all is quiet. -/
theorem sends_one_at_a_time (start final : Session) (events : List SessionEvent)
    (established : start.Established) (smooth : Runs.EachStep step Smooth start events)
    (reached : Runs.run step start events = some final) :
    final.sends ≤ 1 ∧
      (∀ t t', (final.threads t).touches = true → (final.threads t').touches = true → t = t') ∧
      final.posted <+: final.pushed ∧
      ((∀ t, final.inSend t = false) → final.sends = 0 →
        final.sendQueue = [] ∧ final.posted = final.pushed) := by
  obtain ⟨owner, sending⟩ := smooth_sending start final events established smooth reached
  refine ⟨sending.one_send, fun t t' first second => ?_, sending.posted_prefix, sending.quiet⟩
  exact sending.carried.unique t t' (sending_of_touches _ first) (sending_of_touches _ second)

def established : Session := { create with link := .connected, connecting := false, recvs := 1 }

/-- Two threads send; a third buffer is pushed while the first two are on their way. -/
def twoSenders : List SessionEvent :=
  [.callSend 1 10, .callSend 2 20, .run 1, .run 2, .run 1, .run 1, .run 1,
    .wsaSend 1 (.error WSA_IO_PENDING), .callSend 2 30, .run 2, .dispatchSend 3 64, .run 3, .run 3,
    .run 3, .run 3, .run 3, .run 3, .wsaSend 3 .success, .dispatchSend 1 32, .run 1, .run 1, .run 1]

def smoothStep (s : Session) (e : SessionEvent) : Bool :=
  (match e with
    | .wsaSend _ (.error errorCode) => errorCode = WSA_IO_PENDING
    | _ => true) &&
  (s.step e).all fun next => next.link = .connected

theorem smoothStep_sound (s : Session) (e : SessionEvent) (checked : smoothStep s e = true) :
    s.Smooth e := by
  obtain ⟨code, link⟩ := Bool.and_eq_true _ _ |>.mp checked
  constructor
  · intro t errorCode same
    subst same
    exact of_decide_eq_true code
  · intro next stepped
    rw [stepped] at link
    exact of_decide_eq_true link

theorem two_senders_in_order : ∃ final, Runs.run step established twoSenders = some final ∧
    final.posted = [10, 20, 30] ∧ final.posted <+: final.pushed ∧ final.sends ≤ 1 := by
  have run : (Runs.run step established twoSenders).any (fun final =>
      final.posted = [10, 20, 30]) = true := by decide
  obtain ⟨final, reached, posted⟩ := Option.any_eq_true _ _ |>.mp run
  have smooth : Runs.EachStep step Smooth established twoSenders :=
    Runs.eachStep_of_check smoothStep Smooth smoothStep_sound _ _ (by decide)
  have good := sends_one_at_a_time established final twoSenders
    ⟨rfl, rfl, rfl, rfl, rfl, rfl, rfl, fun _ => rfl⟩ smooth reached
  exact ⟨final, reached, of_decide_eq_true posted, good.2.2.1, good.1⟩

end Session

end ZeldaServer
