import ZeldaServer.Lib.Baton
import ZeldaServer.Lib.Runs

/-! `Session`: sending and receiving through IOCP. Any number of threads are inside its
functions at once; a section under `WRITE_LOCK`, or an access to an atomic, is one step. A call
that a handler makes (`OnConnected`, `OnRecv`, `OnSend`) is an activity like a thread's, during
which its caller stays where it is. -/

namespace ZeldaServer

abbrev SendBufferRef := Nat

abbrev ThreadId := Nat

/-- `WSAGetLastError()` -/
abbrev ErrorCode := Nat

def WSA_IO_PENDING : ErrorCode := 997

def WSAECONNABORTED : ErrorCode := 10053

def WSAECONNRESET : ErrorCode := 10054

def WSAENOTCONN : ErrorCode := 10057

/-- `_connected`, false before `ProcessConnect` has set it and after a `Disconnect`. -/
inductive Link where
  | unconnected
  | connected
  | disconnected
  deriving DecidableEq

inductive Point where
  | outside
  /-- `Send`, before its lock -/
  | send (sendBuffer : SendBufferRef)
  /-- `RegisterSend`, before `IsConnected()` -/
  | registerSend
  /-- before its lock -/
  | copy
  /-- before `wsaBufs` is filled -/
  | gather
  /-- before `WSASend` -/
  | post (wsaBufs : List SendBufferRef)
  /-- before `HandleError` -/
  | sendFailed (errorCode : ErrorCode)
  /-- before `sendBuffers.clear()` -/
  | clear
  /-- before `_sendRegistered.store(false)` -/
  | release
  | processSend (numOfBytes : Nat)
  /-- before `numOfBytes == 0` -/
  | sent (numOfBytes : Nat)
  /-- after `OnSend`, before the lock -/
  | drain
  /-- `ProcessConnect`, before `_connected.store(true)` -/
  | processConnect
  /-- before `AddSession` and `OnConnected` -/
  | onConnected
  /-- `RegisterRecv`, before `IsConnected()` -/
  | registerRecv
  /-- before `WSARecv` -/
  | recv
  /-- before `HandleError` -/
  | recvFailed (errorCode : ErrorCode)
  | processRecv (numOfBytes : Nat)
  deriving DecidableEq

structure Session where
  link : Link
  sendQueue : List SendBufferRef
  sendRegistered : Bool
  /-- `_sendEvent.sendBuffers` -/
  sendBuffers : List SendBufferRef
  threads : ThreadId → Point
  /-- The `ConnectEx` or `AcceptEx` of the session is outstanding. -/
  connecting : Bool
  /-- `WSASend` calls outstanding -/
  sends : Nat
  /-- `WSARecv` calls outstanding -/
  recvs : Nat
  /-- All buffers pushed into `_sendQueue` so far, and all that were posted. -/
  pushed : List SendBufferRef
  posted : List SendBufferRef

inductive WsaResult where
  | success
  | error (errorCode : ErrorCode)
  deriving DecidableEq

inductive SessionEvent where
  | callSend (t : ThreadId) (sendBuffer : SendBufferRef)
  /-- The thread takes its next step. -/
  | run (t : ThreadId)
  | wsaSend (t : ThreadId) (result : WsaResult)
  | wsaRecv (t : ThreadId) (result : WsaResult)
  /-- `OnRecv` has handled what came, or refused it. -/
  | handle (t : ThreadId) (accepted : Bool)
  | dispatchConnect (t : ThreadId) (succeeded : Bool)
  | dispatchSend (t : ThreadId) (numOfBytes : Nat)
  | dispatchRecv (t : ThreadId) (numOfBytes : Nat)
  /-- `Disconnect` is called. -/
  | disconnect
  deriving DecidableEq

namespace Session

def create : Session where
  link := .unconnected
  sendQueue := []
  sendRegistered := false
  sendBuffers := []
  threads := fun _ => .outside
  connecting := true
  sends := 0
  recvs := 0
  pushed := []
  posted := []

def goTo (s : Session) (t : ThreadId) (point : Point) : Session :=
  { s with threads := Function.update s.threads t point }

def isConnected (s : Session) : Bool := s.link = .connected

/-- `_connected.exchange(false)` in `Disconnect` -/
def disconnect (s : Session) : Session :=
  { s with link := if s.link = .connected then .disconnected else s.link }

/-- The codes after which `HandleError` disconnects. -/
def resets (errorCode : ErrorCode) : Bool :=
  errorCode = WSAECONNRESET || errorCode = WSAECONNABORTED || errorCode = WSAENOTCONN

def handleError (s : Session) (errorCode : ErrorCode) : Session :=
  if resets errorCode then s.disconnect else s

/-- The locked section of `Send` -/
def push (s : Session) (t : ThreadId) (sendBuffer : SendBufferRef) : Session :=
  { s with
    sendQueue := s.sendQueue ++ [sendBuffer]
    sendRegistered := true
    pushed := s.pushed ++ [sendBuffer] }.goTo t (if s.sendRegistered then .outside else .registerSend)

/-- The next step of a thread; `none` where it waits for an answer of the system. -/
def advance (s : Session) (t : ThreadId) : Option Session :=
  match s.threads t with
  | .send sendBuffer => some (s.push t sendBuffer)
  | .registerSend => some (s.goTo t (if s.isConnected then .copy else .outside))
  | .copy =>
      some ({ s with sendQueue := [], sendBuffers := s.sendBuffers ++ s.sendQueue }.goTo t .gather)
  | .gather => some (s.goTo t (.post s.sendBuffers))
  | .sendFailed errorCode => some ((s.handleError errorCode).goTo t .clear)
  | .clear => some ({ s with sendBuffers := [] }.goTo t .release)
  | .release => some ({ s with sendRegistered := false }.goTo t .outside)
  | .processSend numOfBytes => some ({ s with sendBuffers := [] }.goTo t (.sent numOfBytes))
  | .sent numOfBytes =>
      some (if numOfBytes = 0 then s.disconnect.goTo t .outside else s.goTo t .drain)
  | .drain =>
      some (if s.sendQueue = [] then { s with sendRegistered := false }.goTo t .outside
        else s.goTo t .registerSend)
  | .processConnect => some ({ s with link := .connected }.goTo t .onConnected)
  | .onConnected => some (s.goTo t .registerRecv)
  | .registerRecv => some (s.goTo t (if s.isConnected then .recv else .outside))
  | .recvFailed errorCode => some ((s.handleError errorCode).goTo t .outside)
  | .outside | .post _ | .recv | .processRecv _ => none

/-- `WSASend` was called with `wsaBufs`. -/
def posting (s : Session) (t : ThreadId) (wsaBufs : List SendBufferRef) : WsaResult → Session
  | .success => { s with sends := s.sends + 1, posted := s.posted ++ wsaBufs }.goTo t .outside
  | .error errorCode =>
      if errorCode = WSA_IO_PENDING then
        { s with sends := s.sends + 1, posted := s.posted ++ wsaBufs }.goTo t .outside
      else s.goTo t (.sendFailed errorCode)

/-- `WSARecv` was called. -/
def receiving (s : Session) (t : ThreadId) : WsaResult → Session
  | .success => { s with recvs := s.recvs + 1 }.goTo t .outside
  | .error errorCode =>
      if errorCode = WSA_IO_PENDING then { s with recvs := s.recvs + 1 }.goTo t .outside
      else s.goTo t (.recvFailed errorCode)

/-- One event; `none` where it cannot happen. -/
def step (s : Session) : SessionEvent → Option Session
  | .callSend t sendBuffer =>
      if s.threads t = .outside then some (s.goTo t (.send sendBuffer)) else none
  | .run t => s.advance t
  | .wsaSend t result =>
      match s.threads t with
      | .post wsaBufs => some (s.posting t wsaBufs result)
      | _ => none
  | .wsaRecv t result => if s.threads t = .recv then some (s.receiving t result) else none
  | .handle t accepted =>
      match s.threads t with
      | .processRecv numOfBytes =>
          some (if numOfBytes ≠ 0 ∧ accepted = true then s.goTo t .registerRecv
            else s.disconnect.goTo t .outside)
      | _ => none
  | .dispatchConnect t succeeded =>
      if s.connecting = true ∧ s.threads t = .outside then
        some ({ s with connecting := false }.goTo t
          (if succeeded then .processConnect else .outside))
      else none
  | .dispatchSend t numOfBytes =>
      if 0 < s.sends ∧ s.threads t = .outside then
        some ({ s with sends := s.sends - 1 }.goTo t (.processSend numOfBytes))
      else none
  | .dispatchRecv t numOfBytes =>
      if 0 < s.recvs ∧ s.threads t = .outside then
        some ({ s with recvs := s.recvs - 1 }.goTo t (.processRecv numOfBytes))
      else none
  | .disconnect => some s.disconnect

inductive Happens (s : Session) : SessionEvent → Session → Prop where
  | calls (t : ThreadId) (sendBuffer : SendBufferRef) (idle : s.threads t = .outside) :
      Happens s (.callSend t sendBuffer) (s.goTo t (.send sendBuffer))
  | runs (t : ThreadId) (next : Session) (advanced : s.advance t = some next) :
      Happens s (.run t) next
  | sends (t : ThreadId) (wsaBufs : List SendBufferRef) (result : WsaResult)
      (point : s.threads t = .post wsaBufs) :
      Happens s (.wsaSend t result) (s.posting t wsaBufs result)
  | receives (t : ThreadId) (result : WsaResult) (point : s.threads t = .recv) :
      Happens s (.wsaRecv t result) (s.receiving t result)
  | handles (t : ThreadId) (numOfBytes : Nat) (point : s.threads t = .processRecv numOfBytes) :
      Happens s (.handle t true) (s.goTo t .registerRecv)
  | refuses (t : ThreadId) (accepted : Bool) (numOfBytes : Nat)
      (point : s.threads t = .processRecv numOfBytes) :
      Happens s (.handle t accepted) (s.disconnect.goTo t .outside)
  | connects (t : ThreadId) (succeeded : Bool) (outstanding : s.connecting = true)
      (idle : s.threads t = .outside) :
      Happens s (.dispatchConnect t succeeded) ({ s with connecting := false }.goTo t
        (if succeeded then .processConnect else .outside))
  | sent (t : ThreadId) (numOfBytes : Nat) (outstanding : 0 < s.sends)
      (idle : s.threads t = .outside) :
      Happens s (.dispatchSend t numOfBytes)
        ({ s with sends := s.sends - 1 }.goTo t (.processSend numOfBytes))
  | received (t : ThreadId) (numOfBytes : Nat) (outstanding : 0 < s.recvs)
      (idle : s.threads t = .outside) :
      Happens s (.dispatchRecv t numOfBytes)
        ({ s with recvs := s.recvs - 1 }.goTo t (.processRecv numOfBytes))
  | disconnects : Happens s .disconnect s.disconnect

theorem step_happens (s next : Session) (e : SessionEvent) (stepped : s.step e = some next) :
    s.Happens e next := by
  cases e with
  | callSend t sendBuffer =>
      obtain ⟨idle, result⟩ := Option.ite_none_right_eq_some.mp stepped
      cases result
      exact .calls t sendBuffer idle
  | run t => exact .runs t next stepped
  | wsaSend t result =>
      simp only [step] at stepped
      split at stepped
      case h_1 wsaBufs point =>
        cases stepped
        exact .sends t wsaBufs result point
      case h_2 => cases stepped
  | wsaRecv t result =>
      obtain ⟨point, result⟩ := Option.ite_none_right_eq_some.mp stepped
      cases result
      exact .receives t _ point
  | handle t accepted =>
      simp only [step] at stepped
      split at stepped
      case h_1 numOfBytes point =>
        split at stepped
        case isTrue fine =>
          cases stepped
          rw [fine.2]
          exact .handles t numOfBytes point
        case isFalse =>
          cases stepped
          exact .refuses t accepted numOfBytes point
      case h_2 => cases stepped
  | dispatchConnect t succeeded =>
      obtain ⟨⟨outstanding, idle⟩, result⟩ := Option.ite_none_right_eq_some.mp stepped
      cases result
      exact .connects t succeeded outstanding idle
  | dispatchSend t numOfBytes =>
      obtain ⟨⟨outstanding, idle⟩, result⟩ := Option.ite_none_right_eq_some.mp stepped
      cases result
      exact .sent t numOfBytes outstanding idle
  | dispatchRecv t numOfBytes =>
      obtain ⟨⟨outstanding, idle⟩, result⟩ := Option.ite_none_right_eq_some.mp stepped
      cases result
      exact .received t numOfBytes outstanding idle
  | disconnect =>
      cases stepped
      exact .disconnects

theorem posting_cases (s : Session) (t : ThreadId) (wsaBufs : List SendBufferRef)
    (result : WsaResult) :
    s.posting t wsaBufs result =
        { s with sends := s.sends + 1, posted := s.posted ++ wsaBufs }.goTo t .outside ∨
      ∃ errorCode, result = .error errorCode ∧ errorCode ≠ WSA_IO_PENDING ∧
        s.posting t wsaBufs result = s.goTo t (.sendFailed errorCode) := by
  cases result with
  | success => exact .inl rfl
  | error errorCode =>
      by_cases pending : errorCode = WSA_IO_PENDING
      · exact .inl (if_pos pending)
      · exact .inr ⟨errorCode, rfl, pending, if_neg pending⟩

theorem receiving_cases (s : Session) (t : ThreadId) (result : WsaResult) :
    s.receiving t result = { s with recvs := s.recvs + 1 }.goTo t .outside ∨
      ∃ errorCode, result = .error errorCode ∧ errorCode ≠ WSA_IO_PENDING ∧
        s.receiving t result = s.goTo t (.recvFailed errorCode) := by
  cases result with
  | success => exact .inl rfl
  | error errorCode =>
      by_cases pending : errorCode = WSA_IO_PENDING
      · exact .inl (if_pos pending)
      · exact .inr ⟨errorCode, rfl, pending, if_neg pending⟩

end Session

end ZeldaServer
