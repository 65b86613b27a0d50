import ZeldaServer.Core.Session

/-! `ChatConnector`: the session to the chat server and its `ClientService` are replaced while
IOCP threads are still inside the functions of the old session. A session has a weak pointer to
its service. The strong ones are `_service` and the temporaries of `GetService()`. -/

namespace ZeldaServer

abbrev ServiceId := Nat

abbrev RelayId := Nat

/-- `Server.cpp` calls `TryReconnect` on one thread only. -/
def logicThread : ThreadId := 0

/-- `kReconnectIntervalMs` -/
def reconnectIntervalMs : Nat := 5000

inductive RelayPoint where
  | outside
  /-- `TryReconnect`, before its check of the interval -/
  | tryReconnect (now : UInt64)
  /-- `Connect` or `TryReconnect`, before `_session` is replaced -/
  | makeSession
  /-- before `_service` is replaced -/
  | makeService
  /-- `ClientService::Start`, before `CreateSession` -/
  | createSession
  | registerConnect (s : RelayId)
  /-- before `ConnectEx` -/
  | connectEx (s : RelayId)
  /-- `ProcessConnect`, before `_connected.store(true)` -/
  | processConnect (s : RelayId)
  /-- before `GetService()` -/
  | addSession (s : RelayId)
  /-- inside `AddSession` of the service that `GetService()` has returned -/
  | adding (s : RelayId) (service : ServiceId)
  /-- `RegisterRecv`, before `IsConnected()` -/
  | registerRecv (s : RelayId)
  /-- before `WSARecv` -/
  | recv (s : RelayId)
  /-- `Disconnect`, before `_connected.exchange(false)` -/
  | disconnect (s : RelayId)
  /-- before `GetService()` -/
  | releaseSession (s : RelayId)
  /-- inside `ReleaseSession` -/
  | releasing (s : RelayId) (service : ServiceId)
  deriving DecidableEq

/-- The session whose `GetService()` is dereferenced next, in `ProcessConnect` or
`Disconnect`. -/
def RelayPoint.uses : RelayPoint → Option RelayId
  | .addSession s | .releaseSession s => some s
  | _ => none

def WsaResult.outstanding : WsaResult → Bool
  | .success => true
  | .error errorCode => errorCode = WSA_IO_PENDING

/-- `HandleError` disconnects. -/
def WsaResult.resets : WsaResult → Bool
  | .success => false
  | .error errorCode => Session.resets errorCode

/-- What has a strong pointer to a `ClientService`. -/
inductive ServiceOwner where
  /-- `_service` -/
  | connector
  /-- The temporary of a `GetService()`. -/
  | thread (t : ThreadId)
  deriving DecidableEq

structure ChatRelaySession where
  connected : Bool
  /-- `_service`, a weak pointer -/
  service : Option ServiceId
  /-- The service whose `CreateSession` made the session its own. -/
  creator : Option ServiceId
  /-- `ConnectEx` is outstanding. -/
  connecting : Bool
  /-- `WSARecv` calls outstanding -/
  recvs : Nat

def ChatRelaySession.create : ChatRelaySession where
  connected := false
  service := none
  creator := none
  connecting := false
  recvs := 0

/-- `GChatConnector` with all it has made, and the threads of the server. -/
structure ChatConnector where
  session : Option RelayId
  service : Option ServiceId
  lastTryAt : UInt64
  sessions : RelayId → ChatRelaySession
  sessionCount : Nat
  /-- The strong pointers to each service. A service without one has been destroyed. -/
  owners : ServiceId → List ServiceOwner
  serviceCount : Nat
  threads : List RelayPoint

inductive ChatEvent where
  /-- The thread takes its next step. -/
  | run (t : ThreadId)
  /-- The logic thread asks `IsConnected()`, and calls `TryReconnect` if it is not. -/
  | poll (now : UInt64)
  /-- `SetReuseAddress` and `BindAnyAddress` in `RegisterConnect` -/
  | bind (t : ThreadId) (succeeded : Bool)
  | connectEx (t : ThreadId) (result : WsaResult)
  | dispatchConnect (t : ThreadId) (s : RelayId) (succeeded : Bool)
  /-- `ProcessRecv` has handled what came, or refused it. -/
  | dispatchRecv (t : ThreadId) (s : RelayId) (accepted : Bool)
  | wsaRecv (t : ThreadId) (result : WsaResult)
  /-- A send of the session has failed, or has sent nothing. -/
  | sendFailed (t : ThreadId) (s : RelayId)
  deriving DecidableEq

namespace ChatConnector

/-- The logic thread is at the start of `Connect`. -/
def start (workers : Nat) : ChatConnector where
  session := none
  service := none
  lastTryAt := 0
  sessions := fun _ => .create
  sessionCount := 0
  owners := fun _ => []
  serviceCount := 0
  threads := .makeSession :: List.replicate workers .outside

def goTo (c : ChatConnector) (t : ThreadId) (point : RelayPoint) : ChatConnector :=
  { c with threads := c.threads.set t point }

def setSession (c : ChatConnector) (s : RelayId) (session : ChatRelaySession) : ChatConnector :=
  { c with sessions := Function.update c.sessions s session }

def take (c : ChatConnector) (owner : ServiceOwner) (k : ServiceId) : ChatConnector :=
  { c with owners := Function.update c.owners k (owner :: c.owners k) }

def drop (c : ChatConnector) (owner : ServiceOwner) (k : ServiceId) : ChatConnector :=
  { c with owners := Function.update c.owners k ((c.owners k).erase owner) }

/-- `Session::GetService`, that is `_service.lock()` -/
def getService (c : ChatConnector) (s : RelayId) : Option ServiceId :=
  (c.sessions s).service.filter fun k => c.owners k ≠ []

def isConnected (c : ChatConnector) : Bool :=
  match c.session with
  | none => false
  | some s => (c.sessions s).connected

/-- `_session = make_shared<ChatRelaySession>()` -/
def makeSession (c : ChatConnector) : ChatConnector :=
  { c with session := some c.sessionCount, sessionCount := c.sessionCount + 1 }

/-- `_service = make_shared<ClientService>(...)`, which lets go of the old one. -/
def makeService (c : ChatConnector) : ChatConnector :=
  let made := { c with service := some c.serviceCount, serviceCount := c.serviceCount + 1 }.take
    .connector c.serviceCount
  match c.service with
  | none => made
  | some old => made.drop .connector old

/-- `CreateSession`: the factory returns `_session`. -/
def createSession (c : ChatConnector) (t : ThreadId) : Option ChatConnector :=
  match c.session with
  | none => none
  | some s =>
      some ((c.setSession s
        { c.sessions s with service := c.service, creator := c.service }).goTo t
        (.registerConnect s))

/-- The next step of a thread; `none` where it waits for an answer of the system, and where
the server is gone because `GetService()` has returned null. -/
def advance (c : ChatConnector) (t : ThreadId) : Option ChatConnector :=
  match c.threads[t]? with
  | some (.tryReconnect now) =>
      if (now - c.lastTryAt).toNat < reconnectIntervalMs then some (c.goTo t .outside)
      else some ({ c with lastTryAt := now }.goTo t .makeSession)
  | some .makeSession => some (c.makeSession.goTo t .makeService)
  | some .makeService => some (c.makeService.goTo t .createSession)
  | some .createSession => c.createSession t
  | some (.processConnect s) =>
      some ((c.setSession s { c.sessions s with connected := true }).goTo t (.addSession s))
  | some (.addSession s) =>
      (c.getService s).map fun k => (c.take (.thread t) k).goTo t (.adding s k)
  | some (.adding s k) => some ((c.drop (.thread t) k).goTo t (.registerRecv s))
  | some (.registerRecv s) =>
      some (c.goTo t (if (c.sessions s).connected then .recv s else .outside))
  | some (.disconnect s) =>
      if (c.sessions s).connected then
        some ((c.setSession s { c.sessions s with connected := false }).goTo t (.releaseSession s))
      else some (c.goTo t .outside)
  | some (.releaseSession s) =>
      (c.getService s).map fun k => (c.take (.thread t) k).goTo t (.releasing s k)
  | some (.releasing _ k) => some ((c.drop (.thread t) k).goTo t .outside)
  | _ => none

/-- `RegisterConnect` up to its socket options. `IsConnected()` is false for a session that has
never connected, and the service is a client's. -/
def bind (c : ChatConnector) (t : ThreadId) (succeeded : Bool) : Option ChatConnector :=
  match c.threads[t]? with
  | some (.registerConnect s) =>
      if (c.sessions s).connected then some (c.goTo t .outside)
      else (c.getService s).map fun _ =>
        c.goTo t (if succeeded then .connectEx s else .outside)
  | _ => none

/-- `ConnectEx` to the address of `GetService()`. -/
def connectEx (c : ChatConnector) (t : ThreadId) (result : WsaResult) : Option ChatConnector :=
  match c.threads[t]? with
  | some (.connectEx s) =>
      (c.getService s).map fun _ =>
        if result.outstanding then
          (c.setSession s { c.sessions s with connecting := true }).goTo t .outside
        else c.goTo t .outside
  | _ => none

/-- `WSARecv`, and `HandleError` where it fails. -/
def wsaRecv (c : ChatConnector) (t : ThreadId) (result : WsaResult) : Option ChatConnector :=
  match c.threads[t]? with
  | some (.recv s) =>
      some (if result.outstanding then
        (c.setSession s { c.sessions s with recvs := (c.sessions s).recvs + 1 }).goTo t .outside
      else c.goTo t (if result.resets then .disconnect s else .outside))
  | _ => none

def step (c : ChatConnector) : ChatEvent → Option ChatConnector
  | .run t => c.advance t
  | .poll now =>
      if c.threads[logicThread]? = some .outside then
        some (if c.isConnected then c else c.goTo logicThread (.tryReconnect now))
      else none
  | .bind t succeeded => c.bind t succeeded
  | .connectEx t result => c.connectEx t result
  | .dispatchConnect t s succeeded =>
      if c.threads[t]? = some .outside ∧ (c.sessions s).connecting then
        some ((c.setSession s { c.sessions s with connecting := false }).goTo t
          (if succeeded then .processConnect s else .outside))
      else none
  | .dispatchRecv t s accepted =>
      if c.threads[t]? = some .outside ∧ 0 < (c.sessions s).recvs then
        some ((c.setSession s { c.sessions s with recvs := (c.sessions s).recvs - 1 }).goTo t
          (if accepted then .registerRecv s else .disconnect s))
      else none
  | .wsaRecv t result => c.wsaRecv t result
  | .sendFailed t s =>
      if c.threads[t]? = some .outside ∧ s < c.sessionCount then
        some (c.goTo t (.disconnect s))
      else none

/-- `_service` is the service of the session. -/
def Current (c : ChatConnector) (s : RelayId) : Prop :=
  (c.sessions s).service.isSome ∧ (c.sessions s).service = c.service

instance (c : ChatConnector) (s : RelayId) : Decidable (c.Current s) :=
  inferInstanceAs (Decidable (_ ∧ _))

/-- `GetService()`, wherever a thread is about to dereference it, is the service that created
the session. -/
def Locked (c : ChatConnector) : Prop :=
  ∀ point ∈ c.threads, ∀ s ∈ point.uses,
    ∃ k, (c.sessions s).creator = some k ∧ c.getService s = some k

/-- The service is replaced while no thread is about to use it, and only sessions of the service
that is there connect and disconnect. -/
def Careful (c : ChatConnector) : ChatEvent → Prop
  | .run t =>
      match c.threads[t]? with
      | some .makeService => ∀ point ∈ c.threads, ∀ s ∈ point.uses, ¬c.Current s
      | some (.processConnect s) => c.Current s
      | some (.disconnect s) => (c.sessions s).connected → c.Current s
      | _ => True
  | _ => True

instance (c : ChatConnector) (e : ChatEvent) : Decidable (c.Careful e) := by
  unfold Careful
  split
  · split <;> infer_instance
  · infer_instance

structure Held (c : ChatConnector) : Prop where
  fresh : ∀ k, c.service = some k → k < c.serviceCount
  owned : ∀ k, c.service = some k → .connector ∈ c.owners k
  created : ∀ s, (c.sessions s).creator = (c.sessions s).service
  current : ∀ point ∈ c.threads, ∀ s ∈ point.uses, c.Current s

variable {c next : ChatConnector}

theorem Held.locked (held : c.Held) : c.Locked := by
  intro point member s used
  obtain ⟨known, current⟩ := held.current point member s used
  obtain ⟨k, service⟩ := Option.isSome_iff_exists.mp known
  have owned := held.owned k (current.symm.trans service)
  refine ⟨k, (held.created s).trans service, ?_⟩
  simp only [getService, service, Option.filter_some]
  simp [List.ne_nil_of_mem owned]

theorem start_held (workers : Nat) : (start workers).Held where
  fresh := fun _ service => nomatch service
  owned := fun _ service => nomatch service
  created := fun _ => rfl
  current := by
    intro point member s used
    rcases List.mem_cons.mp member with rfl | worker
    · cases used
    · rw [List.eq_of_mem_replicate worker] at used
      cases used

structure Steady (c next : ChatConnector) (t : ThreadId) (point : RelayPoint) : Prop where
  service : next.service = c.service
  serviceCount : next.serviceCount = c.serviceCount
  owners : ∀ k, ServiceOwner.connector ∈ c.owners k → .connector ∈ next.owners k
  created : ∀ s, (next.sessions s).creator = (c.sessions s).creator
  pointers : ∀ s, (next.sessions s).service = (c.sessions s).service
  threads : next.threads = c.threads.set t point

theorem Steady.current {t : ThreadId} {point : RelayPoint} (steady : c.Steady next t point)
    {s : RelayId} (current : c.Current s) : next.Current s := by
  unfold Current
  rw [steady.pointers, steady.service]
  exact current

theorem Held.steady {t : ThreadId} {point : RelayPoint} (held : c.Held)
    (steady : c.Steady next t point) (current : ∀ s ∈ point.uses, c.Current s) : next.Held where
  fresh := by
    rw [steady.service, steady.serviceCount]
    exact held.fresh
  owned := by
    intro k service
    rw [steady.service] at service
    exact steady.owners k (held.owned k service)
  created := by
    intro s
    rw [steady.created, steady.pointers]
    exact held.created s
  current := by
    intro other member s used
    rw [steady.threads] at member
    rcases List.mem_or_eq_of_mem_set member with stays | rfl
    · exact steady.current (held.current other stays s used)
    · exact steady.current (current s used)

theorem goTo_steady (c : ChatConnector) (t : ThreadId) (point : RelayPoint) :
    c.Steady (c.goTo t point) t point where
  service := rfl
  serviceCount := rfl
  owners := fun _ => id
  created := fun _ => rfl
  pointers := fun _ => rfl
  threads := rfl

theorem setSession_steady (c : ChatConnector) (s : RelayId) (session : ChatRelaySession)
    (t : ThreadId) (point : RelayPoint) (creator : session.creator = (c.sessions s).creator)
    (service : session.service = (c.sessions s).service) :
    c.Steady ((c.setSession s session).goTo t point) t point where
  service := rfl
  serviceCount := rfl
  owners := fun _ => id
  created := by
    intro r
    by_cases same : r = s
    · subst same
      simpa [goTo, setSession] using creator
    · simp [goTo, setSession, same]
  pointers := by
    intro r
    by_cases same : r = s
    · subst same
      simpa [goTo, setSession] using service
    · simp [goTo, setSession, same]
  threads := rfl

theorem take_steady (c : ChatConnector) (owner : ServiceOwner) (k : ServiceId) (t : ThreadId)
    (point : RelayPoint) : c.Steady ((c.take owner k).goTo t point) t point where
  service := rfl
  serviceCount := rfl
  owners := by
    intro r owned
    by_cases same : r = k
    · subst same
      simp [goTo, take, owned]
    · simpa [goTo, take, same] using owned
  created := fun _ => rfl
  pointers := fun _ => rfl
  threads := rfl

theorem drop_steady (c : ChatConnector) (holder : ThreadId) (k : ServiceId) (t : ThreadId)
    (point : RelayPoint) : c.Steady ((c.drop (.thread holder) k).goTo t point) t point where
  service := rfl
  serviceCount := rfl
  owners := by
    intro r owned
    by_cases same : r = k
    · subst same
      simp only [goTo, drop, Function.update_self]
      exact (List.mem_erase_of_ne ServiceOwner.noConfusion).mpr owned
    · simpa [goTo, drop, same] using owned
  created := fun _ => rfl
  pointers := fun _ => rfl
  threads := rfl

theorem makeService_service (c : ChatConnector) :
    c.makeService.service = some c.serviceCount ∧
      c.makeService.serviceCount = c.serviceCount + 1 ∧
      c.makeService.sessions = c.sessions ∧ c.makeService.threads = c.threads := by
  unfold makeService
  split <;> exact ⟨rfl, rfl, rfl, rfl⟩

theorem makeService_owned (fresh : ∀ k, c.service = some k → k < c.serviceCount) :
    .connector ∈ c.makeService.owners c.serviceCount := by
  unfold makeService
  split
  · simp [take]
  case h_2 old service =>
    have other : c.serviceCount ≠ old := Nat.ne_of_gt (fresh old service)
    simp [take, drop, other]

theorem makeService_held (held : c.Held)
    (unused : ∀ point ∈ c.threads, ∀ s ∈ point.uses, ¬c.Current s) (t : ThreadId) :
    (c.makeService.goTo t .createSession).Held := by
  obtain ⟨service, serviceCount, sessions, threads⟩ := makeService_service c
  exact {
    fresh := by
      intro k made
      have same : c.serviceCount = k := Option.some.inj (service.symm.trans made)
      rw [← same]
      exact Nat.lt_of_lt_of_eq (Nat.lt_succ_self _) serviceCount.symm
    owned := by
      intro k made
      have same : c.serviceCount = k := Option.some.inj (service.symm.trans made)
      rw [← same]
      exact makeService_owned held.fresh
    created := by
      intro s
      simpa only [goTo, sessions] using held.created s
    current := by
      intro point member s used
      simp only [goTo, threads] at member
      rcases List.mem_or_eq_of_mem_set member with stays | rfl
      · exact absurd (held.current point stays s used) (unused point stays s used)
      · cases used }

theorem createSession_held (held : c.Held) (t : ThreadId)
    (created : c.createSession t = some next) : next.Held := by
  unfold createSession at created
  split at created
  · cases created
  case h_2 s session =>
    cases created
    exact {
      fresh := held.fresh
      owned := held.owned
      created := by
        intro r
        by_cases same : r = s
        · subst same
          simp [goTo, setSession]
        · simpa [goTo, setSession, same] using held.created r
      current := by
        intro point member r used
        rcases List.mem_or_eq_of_mem_set member with stays | rfl
        · obtain ⟨known, current⟩ := held.current point stays r used
          by_cases same : r = s
          · subst same
            simpa [Current, goTo, setSession] using current ▸ known
          · simpa [Current, goTo, setSession, same] using And.intro known current
        · cases used }

inductive Advances (c : ChatConnector) (t : ThreadId) : ChatConnector → Prop where
  | replaces (point : c.threads[t]? = some .makeService) :
      Advances c t (c.makeService.goTo t .createSession)
  | creates (next : ChatConnector) (created : c.createSession t = some next) : Advances c t next
  | connects (s : RelayId) (point : c.threads[t]? = some (.processConnect s)) (next : ChatConnector)
      (steady : c.Steady next t (.addSession s)) : Advances c t next
  | disconnects (s : RelayId) (point : c.threads[t]? = some (.disconnect s))
      (connected : (c.sessions s).connected) (next : ChatConnector)
      (steady : c.Steady next t (.releaseSession s)) : Advances c t next
  | passes (next : ChatConnector) (point : RelayPoint) (unused : point.uses = none)
      (steady : c.Steady next t point) : Advances c t next

theorem advance_advances (t : ThreadId) (advanced : c.advance t = some next) :
    c.Advances t next := by
  unfold advance at advanced
  cases point : c.threads[t]? with
  | none =>
      rw [point] at advanced
      cases advanced
  | some place =>
      rw [point] at advanced
      cases place with
      | tryReconnect now =>
          dsimp only at advanced
          split at advanced
          · cases advanced
            exact .passes _ .outside rfl (goTo_steady c t .outside)
          · cases advanced
            exact .passes _ .makeSession rfl
              ⟨rfl, rfl, fun _ => id, fun _ => rfl, fun _ => rfl, rfl⟩
      | makeSession =>
          cases advanced
          exact .passes _ .makeService rfl ⟨rfl, rfl, fun _ => id, fun _ => rfl, fun _ => rfl, rfl⟩
      | makeService =>
          cases advanced
          exact .replaces point
      | createSession => exact .creates next advanced
      | processConnect s =>
          cases advanced
          exact .connects s point _ (setSession_steady c s _ t (.addSession s) rfl rfl)
      | addSession s =>
          obtain ⟨k, -, rfl⟩ := Option.map_eq_some_iff.mp advanced
          exact .passes _ (.adding s k) rfl (take_steady c (.thread t) k t (.adding s k))
      | adding s k =>
          cases advanced
          exact .passes _ (.registerRecv s) rfl (drop_steady c t k t (.registerRecv s))
      | registerRecv s =>
          cases advanced
          exact .passes _ _ (by split <;> rfl) (goTo_steady c t _)
      | disconnect s =>
          dsimp only at advanced
          split at advanced
          case isTrue connected =>
            cases advanced
            exact .disconnects s point connected _
              (setSession_steady c s _ t (.releaseSession s) rfl rfl)
          case isFalse =>
            cases advanced
            exact .passes _ .outside rfl (goTo_steady c t .outside)
      | releaseSession s =>
          obtain ⟨k, -, rfl⟩ := Option.map_eq_some_iff.mp advanced
          exact .passes _ (.releasing s k) rfl (take_steady c (.thread t) k t (.releasing s k))
      | releasing s k =>
          cases advanced
          exact .passes _ .outside rfl (drop_steady c t k t .outside)
      | outside | registerConnect | connectEx | recv => cases advanced

theorem Held.unused {t : ThreadId} {point : RelayPoint} (held : c.Held)
    (steady : c.Steady next t point) (unused : point.uses = none) : next.Held := by
  apply held.steady steady
  intro s used
  rw [unused] at used
  cases used

theorem advance_held (held : c.Held) (t : ThreadId) (careful : c.Careful (.run t))
    (advanced : c.advance t = some next) : next.Held := by
  cases advance_advances t advanced with
  | replaces point =>
      simp only [Careful, point] at careful
      exact makeService_held held careful t
  | creates _ created => exact createSession_held held t created
  | connects s point _ steady =>
      simp only [Careful, point] at careful
      apply held.steady steady
      intro r used
      cases used
      exact careful
  | disconnects s point connected _ steady =>
      simp only [Careful, point] at careful
      apply held.steady steady
      intro r used
      cases used
      exact careful connected
  | passes _ point unused steady => exact held.unused steady unused

theorem step_passes (e : ChatEvent) (outside : ∀ t, e ≠ .run t) (stepped : c.step e = some next) :
    next = c ∨ ∃ t point, point.uses = none ∧ c.Steady next t point := by
  cases e with
  | run t => exact absurd rfl (outside t)
  | poll now =>
      obtain ⟨-, result⟩ := Option.ite_none_right_eq_some.mp stepped
      cases result
      split
      · exact .inl rfl
      · exact .inr ⟨logicThread, .tryReconnect now, rfl, goTo_steady c logicThread _⟩
  | bind t succeeded =>
      simp only [step, bind] at stepped
      split at stepped
      case h_1 s point =>
        split at stepped
        · cases stepped
          exact .inr ⟨t, .outside, rfl, goTo_steady c t _⟩
        · obtain ⟨k, -, rfl⟩ := Option.map_eq_some_iff.mp stepped
          exact .inr ⟨t, _, by split <;> rfl, goTo_steady c t _⟩
      case h_2 => cases stepped
  | connectEx t result =>
      simp only [step, connectEx] at stepped
      split at stepped
      case h_1 s point =>
        obtain ⟨k, -, rfl⟩ := Option.map_eq_some_iff.mp stepped
        split
        · exact .inr ⟨t, .outside, rfl, setSession_steady c s _ t .outside rfl rfl⟩
        · exact .inr ⟨t, .outside, rfl, goTo_steady c t _⟩
      case h_2 => cases stepped
  | dispatchConnect t s succeeded =>
      obtain ⟨-, result⟩ := Option.ite_none_right_eq_some.mp stepped
      cases result
      exact .inr ⟨t, _, by split <;> rfl, setSession_steady c s _ t _ rfl rfl⟩
  | dispatchRecv t s accepted =>
      obtain ⟨-, result⟩ := Option.ite_none_right_eq_some.mp stepped
      cases result
      exact .inr ⟨t, _, by split <;> rfl, setSession_steady c s _ t _ rfl rfl⟩
  | wsaRecv t result =>
      simp only [step, wsaRecv] at stepped
      split at stepped
      case h_1 s point =>
        cases stepped
        split
        · exact .inr ⟨t, .outside, rfl, setSession_steady c s _ t .outside rfl rfl⟩
        · exact .inr ⟨t, _, by split <;> rfl, goTo_steady c t _⟩
      case h_2 => cases stepped
  | sendFailed t s =>
      obtain ⟨-, result⟩ := Option.ite_none_right_eq_some.mp stepped
      cases result
      exact .inr ⟨t, .disconnect s, rfl, goTo_steady c t _⟩

theorem step_held (e : ChatEvent) (held : c.Held) (careful : c.Careful e)
    (stepped : c.step e = some next) : next.Held := by
  by_cases runs : ∃ t, e = .run t
  · obtain ⟨t, rfl⟩ := runs
    exact advance_held held t careful stepped
  · have passes := step_passes e (fun t same => runs ⟨t, same⟩) stepped
    rcases passes with rfl | ⟨t, point, unused, steady⟩
    · exact held
    · exact held.unused steady unused

/-- In a run whose steps are careful, no session of the chat server outlives its service. -/
theorem chat_service_locked (workers : Nat) (events : List ChatEvent)
    (careful : Runs.EachStep step Careful (start workers) events) :
    Runs.EveryState step Locked (start workers) events :=
  Runs.everyState_invariant Careful Held Locked (fun _ => Held.locked)
    (fun _ e _ held careful stepped => step_held e held careful stepped)
    (start workers) events (start_held workers) careful

/-- `Connect` or, after its first steps, `TryReconnect`. -/
def makes : List ChatEvent :=
  [.run 0, .run 0, .run 0, .bind 0 true, .connectEx 0 (.error WSA_IO_PENDING)]

/-- The chat server is there, goes away, and is connected to again. -/
def reconnection : List ChatEvent :=
  makes ++ [ChatEvent.dispatchConnect 1 0 true, .run 1, .run 1, .run 1, .run 1, .wsaRecv 1 .success,
    .dispatchRecv 2 0 false, .run 2, .run 2, .run 2, .poll 10000, .run 0] ++
    makes ++ [ChatEvent.dispatchConnect 2 1 true, .run 2, .run 2]

theorem reconnection_locked :
    (Runs.run step (start 2) reconnection).isSome ∧
      Runs.EveryState step Locked (start 2) reconnection :=
  ⟨by decide, chat_service_locked 2 reconnection
    (Runs.eachStep_of_check (fun c e => decide (c.Careful e)) Careful
      (fun _ _ => of_decide_eq_true) (start 2) reconnection (by decide))⟩

/-- `ConnectEx` completes after the logic thread has found the session not connected and has
replaced its service. -/
def lateConnect : List ChatEvent :=
  makes ++ [ChatEvent.poll 10000, .run 0, .run 0, .run 0, .dispatchConnect 1 0 true, .run 1]

theorem late_connect_unlocked :
    ¬∀ (workers : Nat) (events : List ChatEvent),
      Runs.EveryState step Locked (start workers) events := by
  intro always
  have reached : (Runs.run step (start 1) lateConnect).map (fun c =>
      (c.threads, c.getService 0)) = some ([.createSession, .addSession 0], none) := by decide
  obtain ⟨final, reached, result⟩ := Option.map_eq_some_iff.mp reached
  obtain ⟨threads, gone⟩ := Prod.mk.inj result
  have locked := Runs.everyState_final _ _ final _ (always 1 lateConnect) reached
  obtain ⟨k, -, found⟩ := locked (.addSession 0) (by simp [threads]) 0 rfl
  rw [gone] at found
  cases found

end ChatConnector

end ZeldaServer
