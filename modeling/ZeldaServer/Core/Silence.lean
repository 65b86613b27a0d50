import ZeldaServer.Core.SendPath

/-! A connected session never goes silent: what is pushed is on its way, and a receive is
outstanding. The right to call `WSARecv` is a second baton, which the `ConnectEx` or `AcceptEx`
has first. -/

namespace ZeldaServer

open Baton (Owner Carried)

/-- Inside `ProcessConnect`, `RegisterRecv` or `ProcessRecv`. -/
def Point.receiving : Point → Bool
  | .processConnect | .onConnected | .registerRecv | .recv | .recvFailed _ | .processRecv _ => true
  | _ => false

namespace Session

def Place (s : Session) : Point → Prop
  | .processConnect => s.link = .unconnected
  | .recvFailed errorCode =>
      s.link ≠ .unconnected ∧ (s.link = .connected → resets errorCode = true)
  | _ => s.link ≠ .unconnected

inductive Receiving (s : Session) : Owner ThreadId → Prop where
  | lost (carried : Carried Point.receiving s.threads .nobody) (connecting : s.connecting = false)
      (recvs : s.recvs = 0) (link : s.link ≠ .connected) : Receiving s .nobody
  | works (t : ThreadId) (carried : Carried Point.receiving s.threads (.thread t))
      (connecting : s.connecting = false) (recvs : s.recvs = 0) (place : s.Place (s.threads t)) :
      Receiving s (.thread t)
  | connects (carried : Carried Point.receiving s.threads .outside)
      (connecting : s.connecting = true) (recvs : s.recvs = 0) (link : s.link = .unconnected) :
      Receiving s .outside
  | waits (carried : Carried Point.receiving s.threads .outside) (connecting : s.connecting = false)
      (recvs : s.recvs = 1) (link : s.link ≠ .unconnected) : Receiving s .outside

structure KeepsAlive (s : Session) (e : SessionEvent) : Prop extends s.KeepsSending e where
  recvCodes : ∀ t errorCode, e = .wsaRecv t (.error errorCode) → s.link = .connected →
    errorCode = WSA_IO_PENDING ∨ resets errorCode = true

/-- While the session is connected and no thread is inside its functions, a buffer that was
not posted waits for the outstanding send, no buffer is lost, and one receive is
outstanding. -/
def NeverSilent (s : Session) : Prop :=
  s.link = .connected → (∀ t, s.threads t = .outside) →
    (s.pushed ≠ s.posted → 0 < s.sends) ∧ s.pushed = s.posted ++ s.sendQueue ∧ s.recvs = 1

theorem disconnect_link (s : Session) :
    (s.disconnect.link = .unconnected ↔ s.link = .unconnected) ∧ s.disconnect.link ≠ .connected := by
  cases link : s.link with
  | _ => simp [disconnect, link]

theorem handleError_link (s : Session) (errorCode : ErrorCode) :
    (s.handleError errorCode).link = s.link ∨
      (s.handleError errorCode).link = s.disconnect.link := by
  unfold handleError
  split
  · exact .inr rfl
  · exact .inl rfl

/-- The step does not connect, and a session that was disconnected stays so. -/
def LinkKept (s next : Session) : Prop :=
  (next.link = .unconnected ↔ s.link = .unconnected) ∧ (next.link = .connected → s.link = .connected)

theorem LinkKept.same {s next : Session} (link : next.link = s.link) : s.LinkKept next := by
  unfold LinkKept
  rw [link]
  exact ⟨Iff.rfl, id⟩

theorem LinkKept.disconnected {s next : Session} (link : next.link = s.disconnect.link) :
    s.LinkKept next := by
  unfold LinkKept
  rw [link]
  exact ⟨(disconnect_link s).1, fun connected => absurd connected (disconnect_link s).2⟩

theorem LinkKept.stays {s next : Session} (kept : s.LinkKept next)
    (link : s.link = .disconnected) : next.link = .disconnected := by
  cases after : next.link with
  | unconnected =>
      have first := kept.1.mp after
      rw [link] at first
      cases first
  | connected =>
      have first := kept.2 after
      rw [link] at first
      cases first
  | disconnected => rfl

theorem advance_link (s next : Session) (t : ThreadId) (advanced : s.advance t = some next)
    (elsewhere : s.threads t ≠ .processConnect) : s.LinkKept next := by
  unfold advance at advanced
  cases point : s.threads t with
  | processConnect => exact absurd point elsewhere
  | outside | post _ | recv | processRecv _ =>
      rw [point] at advanced
      cases advanced
  | sendFailed errorCode | recvFailed errorCode =>
      rw [point] at advanced
      cases advanced
      rcases handleError_link s errorCode with same | reset
      · exact LinkKept.same same
      · exact LinkKept.disconnected reset
  | sent numOfBytes =>
      rw [point] at advanced
      dsimp only at advanced
      split at advanced
      · cases advanced
        exact LinkKept.disconnected rfl
      · cases advanced
        exact LinkKept.same rfl
  | drain =>
      rw [point] at advanced
      dsimp only at advanced
      split at advanced
      · cases advanced
        exact LinkKept.same rfl
      · cases advanced
        exact LinkKept.same rfl
  | _ =>
      rw [point] at advanced
      cases advanced
      exact LinkKept.same rfl

theorem step_link (s next : Session) (e : SessionEvent) (stepped : s.step e = some next)
    (elsewhere : ∀ t, e = .run t → s.threads t ≠ .processConnect) : s.LinkKept next := by
  cases step_happens s next e stepped with
  | runs t _ advanced => exact advance_link s next t advanced (elsewhere t rfl)
  | refuses | disconnects => exact LinkKept.disconnected rfl
  | sends t wsaBufs result =>
      rcases posting_cases s t wsaBufs result with posted | ⟨errorCode, -, -, failed⟩
      · rw [posted]
        exact LinkKept.same rfl
      · rw [failed]
        exact LinkKept.same rfl
  | receives t result =>
      rcases receiving_cases s t result with received | ⟨errorCode, -, -, failed⟩
      · rw [received]
        exact LinkKept.same rfl
      · rw [failed]
        exact LinkKept.same rfl
  | _ => exact LinkKept.same rfl

theorem Receiving.carried {s : Session} {owner : Owner ThreadId} (receiving : s.Receiving owner) :
    Carried Point.receiving s.threads owner := by
  cases receiving with
  | lost carried => exact carried
  | works t carried => exact carried
  | connects carried => exact carried
  | waits carried => exact carried

theorem Receiving.at_work {s : Session} {owner : Owner ThreadId} (receiving : s.Receiving owner)
    (t : ThreadId) (held : (s.threads t).receiving = true) :
    Carried Point.receiving s.threads (.thread t) ∧ s.connecting = false ∧ s.recvs = 0 ∧
      s.Place (s.threads t) := by
  have same := receiving.carried.owner_of_holds t held
  subst same
  cases receiving with
  | works _ carried connecting recvs place => exact ⟨carried, connecting, recvs, place⟩

theorem Receiving.place_at {s : Session} {owner : Owner ThreadId} (receiving : s.Receiving owner)
    (t : ThreadId) {point : Point} (here : s.threads t = point) (inside : point.receiving = true) :
    (s.threads t).receiving = true ∧ s.Place point := by
  subst here
  exact ⟨inside, (receiving.at_work t inside).2.2.2⟩

theorem Receiving.frame {s : Session} {owner : Owner ThreadId} (receiving : s.Receiving owner)
    (next : Session) (carried : Carried Point.receiving next.threads owner)
    (points : ∀ t, (s.threads t).receiving = true → next.threads t = s.threads t)
    (connecting : next.connecting = s.connecting) (recvs : next.recvs = s.recvs)
    (link : s.LinkKept next) : next.Receiving owner := by
  cases receiving with
  | lost _ connecting' recvs' link' =>
      apply Receiving.lost carried
      · rw [connecting, connecting']
      · rw [recvs, recvs']
      · exact fun connected => link' (link.2 connected)
  | works t carried' connecting' recvs' place =>
      have same := points t ((carried' t).mpr rfl)
      apply Receiving.works t carried
      · rw [connecting, connecting']
      · rw [recvs, recvs']
      · rw [same]
        cases point : s.threads t with
        | processConnect =>
            rw [point] at place
            exact link.1.mpr place
        | recvFailed errorCode =>
            rw [point] at place
            exact ⟨fun first => place.1 (link.1.mp first),
              fun connected => place.2 (link.2 connected)⟩
        | _ =>
            rw [point] at place
            exact fun first => place (link.1.mp first)
  | connects _ connecting' recvs' link' =>
      apply Receiving.connects carried
      · rw [connecting, connecting']
      · rw [recvs, recvs']
      · exact link.1.mpr link'
  | waits _ connecting' recvs' link' =>
      apply Receiving.waits carried
      · rw [connecting, connecting']
      · rw [recvs, recvs']
      · exact fun first => link' (link.1.mp first)

theorem Receiving.pass_by {s : Session} {owner : Owner ThreadId} (receiving : s.Receiving owner)
    (next : Session) (t : ThreadId) (point : Point) (without : (s.threads t).receiving = false)
    (still : point.receiving = false) (threads : next.threads = Function.update s.threads t point)
    (connecting : next.connecting = s.connecting) (recvs : next.recvs = s.recvs)
    (link : s.LinkKept next) : next.Receiving owner := by
  have carried := receiving.carried.pass_by t point without still
  rw [← threads] at carried
  apply receiving.frame next carried _ connecting recvs link
  intro t' held
  rw [threads]
  apply Function.update_of_ne
  intro same
  rw [same, without] at held
  cases held

theorem Receiving.goes_on {s : Session} {owner : Owner ThreadId} (receiving : s.Receiving owner)
    (next : Session) (t : ThreadId) (point : Point) (held : (s.threads t).receiving = true)
    (still : point.receiving = true) (threads : next.threads = Function.update s.threads t point)
    (connecting : next.connecting = s.connecting) (recvs : next.recvs = s.recvs)
    (place : next.Place point) : next.Receiving (.thread t) := by
  obtain ⟨carried, connecting', recvs', -⟩ := receiving.at_work t held
  have carried' := carried.keep t point held still
  rw [← threads] at carried'
  apply Receiving.works t carried'
  · rw [connecting, connecting']
  · rw [recvs, recvs']
  · rw [threads, Function.update_self]
    exact place

theorem Receiving.ends {s : Session} {owner : Owner ThreadId} (receiving : s.Receiving owner)
    (next : Session) (t : ThreadId) (held : (s.threads t).receiving = true)
    (threads : next.threads = Function.update s.threads t .outside)
    (connecting : next.connecting = s.connecting) (recvs : next.recvs = s.recvs)
    (link : next.link ≠ .connected) : next.Receiving .nobody := by
  obtain ⟨carried, connecting', recvs', -⟩ := receiving.at_work t held
  have carried' := carried.give .outside rfl .nobody (by simp)
  rw [← threads] at carried'
  apply Receiving.lost carried'
  · rw [connecting, connecting']
  · rw [recvs, recvs']
  · exact link

theorem Receiving.posts {s : Session} {owner : Owner ThreadId} (receiving : s.Receiving owner)
    (t : ThreadId) (point : s.threads t = .recv) :
    ({ s with recvs := s.recvs + 1 }.goTo t .outside).Receiving .outside := by
  obtain ⟨carried, connecting, recvs, place⟩ := receiving.at_work t (by rw [point]; rfl)
  rw [point] at place
  apply Receiving.waits
  · exact carried.give .outside rfl .outside (by simp)
  · exact connecting
  · exact congrArg (· + 1) recvs
  · exact place

theorem Receiving.completes {s : Session} {owner : Owner ThreadId} (receiving : s.Receiving owner)
    (t : ThreadId) (numOfBytes : Nat) (outstanding : 0 < s.recvs) :
    ({ s with recvs := s.recvs - 1 }.goTo t (.processRecv numOfBytes)).Receiving (.thread t) := by
  cases receiving with
  | lost _ _ recvs => omega
  | works _ _ _ recvs => omega
  | connects _ _ recvs => omega
  | waits carried connecting recvs link =>
      apply Receiving.works t
      · exact carried.take t (.processRecv numOfBytes) (by simp) rfl
      · exact connecting
      · exact congrArg (· - 1) recvs
      · simp only [goTo, Function.update_self]
        exact link

theorem Receiving.connected {s : Session} {owner : Owner ThreadId} (receiving : s.Receiving owner)
    (t : ThreadId) (succeeded : Bool) (outstanding : s.connecting = true)
    (idle : s.threads t = .outside) :
    ∃ owner', ({ s with connecting := false }.goTo t
      (if succeeded then .processConnect else .outside)).Receiving owner' := by
  have without : (s.threads t).receiving = false := by rw [idle]; rfl
  cases receiving with
  | lost _ connecting => simp [connecting] at outstanding
  | works _ _ connecting => simp [connecting] at outstanding
  | waits _ connecting => simp [connecting] at outstanding
  | connects carried connecting recvs link =>
      cases succeeded with
      | true =>
          refine ⟨.thread t, Receiving.works t ?_ rfl recvs ?_⟩
          · exact carried.take t .processConnect (by simp) rfl
          · simp only [goTo, if_true, Function.update_self]
            exact link
      | false =>
          refine ⟨.nobody, Receiving.lost ?_ rfl recvs ?_⟩
          · exact (carried.pass_by t .outside without rfl).hand_over (by simp) .nobody (by simp)
          · simp [goTo, link]

theorem advance_receiving (s next : Session) (t : ThreadId) (owner : Owner ThreadId)
    (receiving : s.Receiving owner) (held : (s.threads t).receiving = true)
    (advanced : s.advance t = some next) : ∃ owner', next.Receiving owner' := by
  obtain ⟨-, -, -, place⟩ := receiving.at_work t held
  unfold advance at advanced
  cases point : s.threads t with
  | processConnect =>
      rw [point] at advanced
      cases advanced
      exact ⟨.thread t, receiving.goes_on _ t .onConnected held rfl rfl rfl rfl (by simp [Place, goTo])⟩
  | onConnected =>
      rw [point] at advanced place
      cases advanced
      exact ⟨.thread t, receiving.goes_on _ t .registerRecv held rfl rfl rfl rfl place⟩
  | registerRecv =>
      rw [point] at advanced place
      cases advanced
      by_cases link : s.link = .connected
      · simp only [isConnected, link, decide_true, if_true]
        exact ⟨.thread t, receiving.goes_on _ t .recv held rfl rfl rfl rfl place⟩
      · simp only [isConnected, link, decide_false, Bool.false_eq_true, if_false]
        exact ⟨.nobody, receiving.ends _ t held rfl rfl rfl link⟩
  | recvFailed errorCode =>
      rw [point] at advanced place
      cases advanced
      refine ⟨.nobody, ?_⟩
      unfold handleError
      split
      case isTrue =>
        exact receiving.ends _ t held rfl rfl rfl (disconnect_link s).2
      case isFalse logs =>
        exact receiving.ends _ t held rfl rfl rfl fun link => logs (place.2 link)
  | recv | processRecv _ =>
      rw [point] at advanced
      cases advanced
  | _ =>
      rw [point] at held
      cases held

theorem advance_elsewhere (s next : Session) (t : ThreadId)
    (without : (s.threads t).receiving = false) (advanced : s.advance t = some next) :
    ∃ point : Point, point.receiving = false ∧
      next.threads = Function.update s.threads t point ∧ next.connecting = s.connecting ∧
      next.recvs = s.recvs := by
  unfold advance at advanced
  cases point : s.threads t with
  | processConnect | onConnected | registerRecv | recv | recvFailed _ | processRecv _ =>
      rw [point] at without
      cases without
  | outside | post _ =>
      rw [point] at advanced
      cases advanced
  | send sendBuffer =>
      rw [point] at advanced
      cases advanced
      refine ⟨_, ?_, rfl, rfl, rfl⟩
      split <;> rfl
  | registerSend =>
      rw [point] at advanced
      cases advanced
      refine ⟨_, ?_, rfl, rfl, rfl⟩
      split <;> rfl
  | sendFailed errorCode =>
      rw [point] at advanced
      cases advanced
      unfold handleError
      split
      · exact ⟨.clear, rfl, rfl, rfl, rfl⟩
      · exact ⟨.clear, rfl, rfl, rfl, rfl⟩
  | sent numOfBytes =>
      rw [point] at advanced
      dsimp only at advanced
      split at advanced
      · cases advanced
        exact ⟨.outside, rfl, rfl, rfl, rfl⟩
      · cases advanced
        exact ⟨.drain, rfl, rfl, rfl, rfl⟩
  | drain =>
      rw [point] at advanced
      dsimp only at advanced
      split at advanced
      · cases advanced
        exact ⟨.outside, rfl, rfl, rfl, rfl⟩
      · cases advanced
        exact ⟨.registerSend, rfl, rfl, rfl, rfl⟩
  | copy | gather | clear | release | processSend _ =>
      rw [point] at advanced
      cases advanced
      exact ⟨_, rfl, rfl, rfl, rfl⟩

theorem advanced_receiving (s next : Session) (t : ThreadId) (owner : Owner ThreadId)
    (receiving : s.Receiving owner) (advanced : s.advance t = some next) :
    ∃ owner', next.Receiving owner' := by
  cases inside : (s.threads t).receiving with
  | true => exact advance_receiving s next t owner receiving inside advanced
  | false =>
      obtain ⟨point, still, threads, connecting, recvs⟩ := advance_elsewhere s next t inside advanced
      have link : s.LinkKept next := by
        apply advance_link s next t advanced
        intro connecting
        rw [connecting] at inside
        cases inside
      exact ⟨owner, receiving.pass_by next t point inside still threads connecting recvs link⟩

theorem Receiving.answered {s : Session} {owner : Owner ThreadId} (receiving : s.Receiving owner)
    (t : ThreadId) (result : WsaResult) (point : s.threads t = .recv)
    (codes : ∀ errorCode, result = .error errorCode → s.link = .connected →
      errorCode = WSA_IO_PENDING ∨ resets errorCode = true) :
    ∃ owner', (s.receiving t result).Receiving owner' := by
  obtain ⟨held, place⟩ := receiving.place_at t point rfl
  rcases receiving_cases s t result with received | ⟨errorCode, error, failed, result⟩
  · rw [received]
    exact ⟨.outside, receiving.posts t point⟩
  · rw [result]
    refine ⟨.thread t, receiving.goes_on _ t (.recvFailed errorCode) held rfl rfl rfl rfl ?_⟩
    exact ⟨place, fun link => (codes errorCode error link).resolve_left failed⟩

theorem step_receiving (s next : Session) (e : SessionEvent) (owner : Owner ThreadId)
    (receiving : s.Receiving owner)
    (recvCodes : ∀ t errorCode, e = .wsaRecv t (.error errorCode) → s.link = .connected →
      errorCode = WSA_IO_PENDING ∨ resets errorCode = true)
    (stepped : s.step e = some next) : ∃ owner', next.Receiving owner' := by
  cases step_happens s next e stepped with
  | runs t _ advanced => exact advanced_receiving s next t owner receiving advanced
  | receives t result point =>
      apply receiving.answered t result point
      intro errorCode failed
      exact recvCodes t errorCode (by rw [failed])
  | handles t numOfBytes point =>
      obtain ⟨held, place⟩ := receiving.place_at t point rfl
      exact ⟨.thread t, receiving.goes_on _ t .registerRecv held rfl rfl rfl rfl place⟩
  | refuses t accepted numOfBytes point =>
      obtain ⟨held, -⟩ := receiving.place_at t point rfl
      exact ⟨.nobody, receiving.ends _ t held rfl rfl rfl (disconnect_link s).2⟩
  | connects t succeeded outstanding idle => exact receiving.connected t succeeded outstanding idle
  | received t numOfBytes outstanding =>
      exact ⟨.thread t, receiving.completes t numOfBytes outstanding⟩
  | calls t sendBuffer idle =>
      exact ⟨owner, receiving.pass_by _ t (.send sendBuffer) (by rw [idle]; rfl) rfl rfl rfl rfl
        (LinkKept.same rfl)⟩
  | sent t numOfBytes outstanding idle =>
      exact ⟨owner, receiving.pass_by _ t (.processSend numOfBytes) (by rw [idle]; rfl) rfl rfl rfl
        rfl (LinkKept.same rfl)⟩
  | sends t wsaBufs result point =>
      have without : (s.threads t).receiving = false := by rw [point]; rfl
      refine ⟨owner, ?_⟩
      rcases posting_cases s t wsaBufs result with posted | ⟨errorCode, -, -, failed⟩
      · rw [posted]
        exact receiving.pass_by _ t .outside without rfl rfl rfl rfl (LinkKept.same rfl)
      · rw [failed]
        exact receiving.pass_by _ t (.sendFailed errorCode) without rfl rfl rfl rfl
          (LinkKept.same rfl)
  | disconnects =>
      exact ⟨owner, receiving.frame _ receiving.carried (fun _ _ => rfl) rfl rfl
        (LinkKept.disconnected rfl)⟩

/-- What a session keeps: the baton of receiving always, that of sending until it is
disconnected. -/
def Batons (s : Session) : Prop :=
  (∃ owner, s.Receiving owner) ∧ (s.link ≠ .disconnected → ∃ owner, s.Sending owner)

theorem create_batons : create.Batons := by
  constructor
  · refine ⟨.outside, Receiving.connects ?_ rfl rfl rfl⟩
    intro t
    exact iff_of_false Bool.false_ne_true (by simp)
  · intro _
    refine ⟨.nobody, Sending.rests ?_ rfl rfl rfl rfl rfl⟩
    intro t
    exact iff_of_false Bool.false_ne_true (by simp)

theorem stays_disconnected (s next : Session) (e : SessionEvent) (owner : Owner ThreadId)
    (receiving : s.Receiving owner) (stepped : s.step e = some next)
    (link : s.link = .disconnected) : next.link = .disconnected := by
  apply (step_link s next e stepped _).stays link
  intro t _ point
  have unconnected : s.link = .unconnected := (receiving.place_at t point rfl).2
  rw [link] at unconnected
  cases unconnected

theorem step_batons (s next : Session) (e : SessionEvent) (batons : s.Batons)
    (keeps : s.KeepsAlive e) (stepped : s.step e = some next) : next.Batons := by
  obtain ⟨⟨owner, receiving⟩, sending⟩ := batons
  constructor
  · exact step_receiving s next e owner receiving keeps.recvCodes stepped
  · intro alive
    have before : s.link ≠ .disconnected := by
      intro link
      exact alive (stays_disconnected s next e owner receiving stepped link)
    obtain ⟨owner', sending⟩ := sending before
    exact step_sending s next e owner' sending keeps.toKeepsSending stepped alive

theorem Sending.not_silent {s : Session} {owner : Owner ThreadId} (sending : s.Sending owner)
    (out : ∀ t, s.threads t = .outside) :
    (s.pushed ≠ s.posted → 0 < s.sends) ∧ s.pushed = s.posted ++ s.sendQueue := by
  cases sending with
  | rests _ _ _ empty _ data =>
      rw [empty, data]
      exact ⟨fun lost => absurd rfl lost, (List.append_nil _).symm⟩
  | works t carried =>
      have held := (carried t).mpr rfl
      rw [out t] at held
      cases held
  | waits _ _ sends _ data => exact ⟨fun _ => by omega, data⟩

theorem Receiving.not_silent {s : Session} {owner : Owner ThreadId} (receiving : s.Receiving owner)
    (link : s.link = .connected) (out : ∀ t, s.threads t = .outside) : s.recvs = 1 := by
  cases receiving with
  | lost _ _ _ lost => exact absurd link lost
  | works t carried =>
      have held := (carried t).mpr rfl
      rw [out t] at held
      cases held
  | connects _ _ _ first =>
      rw [link] at first
      cases first
  | waits _ _ recvs => exact recvs

theorem Batons.not_silent {s : Session} (batons : s.Batons) : s.NeverSilent := by
  intro link out
  obtain ⟨⟨owner, receiving⟩, sending⟩ := batons
  obtain ⟨owner', sending⟩ := sending (by simp [link])
  obtain ⟨sent, kept⟩ := sending.not_silent out
  exact ⟨sent, kept, receiving.not_silent link out⟩

/-- Where every `RegisterSend` finds the session connected already, and whatever fails does
so with a code that disconnects, a connected session never goes silent. -/
theorem never_silent (events : List SessionEvent)
    (each : Runs.EachStep step KeepsAlive create events) :
    Runs.EveryState step NeverSilent create events := by
  apply Runs.everyState_invariant KeepsAlive Batons NeverSilent _ _ create events create_batons each
  · intro s batons
    exact batons.not_silent
  · intro s e next batons keeps stepped
    exact step_batons s next e batons keeps stepped

def keepsAlive (s : Session) : SessionEvent → Bool
  | .wsaSend _ (.error errorCode) | .wsaRecv _ (.error errorCode) =>
      s.link ≠ .connected || (errorCode = WSA_IO_PENDING || resets errorCode)
  | .run t => s.threads t ≠ .registerSend || s.link ≠ .unconnected
  | _ => true

theorem keepsAlive_sound (s : Session) (e : SessionEvent) (checked : keepsAlive s e = true) :
    s.KeepsAlive e := by
  refine ⟨⟨?_, ?_⟩, ?_⟩
  · intro t errorCode same link
    subst same
    simpa [keepsAlive, link] using checked
  · intro t same registers
    subst same
    simpa [keepsAlive, registers] using checked
  · intro t errorCode same link
    subst same
    simpa [keepsAlive, link] using checked

/-- The session connects, receives, and sends in between. -/
def liveSession : List SessionEvent :=
  [.dispatchConnect 1 true, .run 1, .callSend 2 10, .run 1, .run 2, .run 1, .wsaRecv 1 .success,
    .run 2, .run 2, .run 2, .wsaSend 2 (.error WSA_IO_PENDING), .dispatchRecv 1 8,
    .handle 1 true, .run 1, .wsaRecv 1 (.error WSA_IO_PENDING)]

theorem live_session_not_silent : (Runs.run step create liveSession).isSome = true ∧
    Runs.EveryState step NeverSilent create liveSession := by
  refine ⟨by decide, never_silent liveSession ?_⟩
  exact Runs.eachStep_of_check keepsAlive KeepsAlive keepsAlive_sound _ _ (by decide)

/-- A buffer is sent before `_connected.store(true)`: `RegisterSend` returns, and leaves
`_sendRegistered` set. -/
def sentTooEarly : List SessionEvent :=
  [.callSend 1 10, .run 1, .run 1, .dispatchConnect 2 true, .run 2, .run 2, .run 2,
    .wsaRecv 2 .success]

/-- What is left: connected, one buffer in the queue, and nothing that will post it. -/
def stuck : Session :=
  { create with
    link := .connected
    sendQueue := [10]
    sendRegistered := true
    connecting := false
    recvs := 1
    pushed := [10] }

theorem early_send_reaches : Runs.run step create sentTooEarly = some stuck := by
  simp [sentTooEarly, Runs.run, step, advance, push, receiving, isConnected, goTo, create, stuck]

theorem silent_after_early_send : ¬ ∀ events, Runs.EveryState step NeverSilent create events := by
  intro always
  have quiet := Runs.everyState_final NeverSilent _ _ _ (always sentTooEarly) early_send_reaches
  have sends := (quiet rfl fun _ => rfl).1 (by decide)
  exact Nat.lt_irrefl 0 sends

end Session

end ZeldaServer
