import ZeldaServer.World.Locking

/-! The order of the mutexes. Outside of `GSessionManager` nothing is nested but the log under
`GPartyManager`; under it the loops send, and a `Send` that disconnects its session comes back
to `GSessionManager`. -/

namespace ZeldaServer

open Locks (Sections)

/-- `WSASend` or `WSARecv` fails, and the session is disconnected for it. -/
def Registering.disconnects : Registering → Bool
  | .answered (.error errorCode) (.now _ _) => Session.resets errorCode
  | _ => false

/-- One of the `Send`s does. -/
def Sends.disconnects : Sends → Bool
  | .done => false
  | .queued _ rest => rest.disconnects
  | .registers _ registering rest => registering.disconnects || rest.disconnects

namespace Locking

/-- Nothing is nested but the log under `GPartyManager`. -/
def Flat (sections : Sections Mutex) : Prop :=
  ∀ outer inner, sections.Nested outer inner → outer = .partyManager ∧ inner = .logger

theorem flat_done : Flat .done := by
  intro outer inner nested
  exact nested.elim

theorem flat_append (before after : Sections Mutex) (first : Flat before) (second : Flat after) :
    Flat (before ++ after) := by
  intro outer inner nested
  rcases (Sections.nested_append outer inner before after).mp nested with here | later
  · exact first outer inner here
  · exact second outer inner later

theorem flat_each {Item : Type} (scope : Item → Sections Mutex) (items : List Item)
    (flat : ∀ item ∈ items, Flat (scope item)) : Flat (.each scope items) := by
  intro outer inner nested
  obtain ⟨item, member, nested⟩ := (Sections.nested_each scope outer inner items).mp nested
  exact flat item member outer inner nested

theorem flat_leaf (mutex : Mutex) : Flat (.lock mutex .done) := by
  intro outer inner nested
  simp [Sections.mutexes, Sections.Nested] at nested

theorem flat_write : Flat write := flat_leaf .logger

theorem flat_party (inside : Sections Mutex) (flat : Flat inside)
    (logs : ∀ mutex ∈ inside.mutexes, mutex = .logger) : Flat (.lock .partyManager inside) := by
  intro outer inner nested
  rcases (Sections.nested_lock outer inner .partyManager inside).mp nested with ⟨same, held⟩ | deeper
  · exact ⟨same.symm, logs inner held⟩
  · exact flat outer inner deeper

theorem flat_ite (condition : Prop) [Decidable condition] (yes no : Sections Mutex)
    (first : Flat yes) (second : Flat no) : Flat (if condition then yes else no) := by
  split
  · exact first
  · exact second

theorem fresh_of_flat (sections : Sections Mutex) (flat : Flat sections) : sections.Fresh := by
  intro mutex nested
  obtain ⟨party, logger⟩ := flat mutex mutex nested
  rw [party] at logger
  cases logger

theorem createParty_flat (parties : PartyManager) (leaderId : ObjectId) :
    Flat (createParty parties leaderId) := by
  apply flat_party
  · split
    · exact flat_done
    · exact flat_write
  · split <;> simp [write, Sections.mutexes]

theorem addMember_flat (parties : PartyManager) (partyId : PartyId) (playerId : ObjectId) :
    Flat (addMember parties partyId playerId) := by
  apply flat_party
  · split
    · exact flat_done
    · apply flat_ite
      · exact flat_done
      · split
        · exact flat_done
        · exact flat_write
  · split
    · simp [Sections.mutexes]
    · split
      · simp [Sections.mutexes]
      · split <;> simp [write, Sections.mutexes]

theorem disbandParty_flat (parties : PartyManager) (partyId : PartyId) :
    Flat (disbandParty parties partyId) := by
  unfold disbandParty
  split
  · exact flat_done
  · exact flat_write

theorem disbandParty_logs (parties : PartyManager) (partyId : PartyId) (mutex : Mutex)
    (acquired : mutex ∈ (disbandParty parties partyId).mutexes) : mutex = .logger := by
  unfold disbandParty at acquired
  split at acquired
  · simp [Sections.mutexes] at acquired
  · simpa [write, Sections.mutexes] using acquired

theorem removeMember_flat (parties : PartyManager) (partyId : PartyId) (playerId : ObjectId) :
    Flat (removeMember parties partyId playerId) := by
  apply flat_party
  · split
    · exact flat_done
    · apply flat_append _ _ flat_write
      apply flat_ite
      · exact disbandParty_flat parties partyId
      · exact flat_ite _ _ _ flat_write flat_done
  · intro mutex acquired
    split at acquired
    · simp [Sections.mutexes] at acquired
    · rw [Sections.mutexes_append, List.mem_append] at acquired
      rcases acquired with first | second
      · simpa [write, Sections.mutexes] using first
      · split at second
        · exact disbandParty_logs parties partyId mutex second
        · split at second
          · simpa [write, Sections.mutexes] using second
          · simp [Sections.mutexes] at second

theorem leaveParty_flat (leaving : Leaving) (playerId : ObjectId) (updates : Sections Mutex)
    (flat : Flat updates) : Flat (leaveParty leaving playerId updates) := by
  apply flat_append _ _ (flat_leaf _)
  apply flat_ite _ _ _ flat_done
  apply flat_append
  · exact flat_append _ _ (removeMember_flat _ _ _) (flat_leaf _)
  · split
    · exact flat
    · exact flat_done

theorem onDisconnected_flat (peer : Peer) (leaving : Leaving) (updates : Sections Mutex)
    (flat : Flat updates) : Flat (onDisconnected peer leaving updates) := by
  cases peer with
  | relay n => exact flat_write
  | game session =>
      apply flat_append
      · apply flat_append _ _ (flat_leaf _)
        split
        · exact flat_done
        · apply flat_append
          · exact flat_ite _ _ _ flat_write flat_done
          · exact leaveParty_flat leaving _ updates flat
      · split
        · exact flat_leaf _
        · exact flat_done

theorem answer_flat (result : WsaResult) (disconnects : Sections Mutex) (flat : Flat disconnects) :
    Flat (answer result disconnects) := by
  cases result with
  | success => exact flat_done
  | error errorCode =>
      apply flat_ite _ _ _ flat_done
      exact flat_ite _ _ _ flat flat_done

mutual

theorem registerSend_flat (peer : Peer) : (registering : Registering) →
    Flat (registerSend peer registering)
  | .unconnected => flat_done
  | .answered result disconnecting =>
      flat_append _ _ (flat_leaf _) (answer_flat result _ (disconnect_flat peer disconnecting))

theorem disconnect_flat (peer : Peer) : (disconnecting : Disconnecting) →
    Flat (disconnect peer disconnecting)
  | .already => flat_done
  | .now leaving updates =>
      flat_append _ _ (onDisconnected_flat peer leaving _ (sends_flat updates)) (flat_leaf _)

theorem sends_flat : (all : Sends) → Flat (sends all)
  | .done => flat_done
  | .queued _ rest => flat_append _ _ (flat_leaf _) (sends_flat rest)
  | .registers session registering rest =>
      flat_append _ _ (flat_append _ _ (flat_leaf _) (registerSend_flat (.game session) registering))
        (sends_flat rest)

end

theorem send_flat (peer : Peer) (sent : Option Registering) : Flat (send peer sent) := by
  cases sent with
  | none => exact flat_leaf _
  | some registering => exact flat_append _ _ (flat_leaf _) (registerSend_flat peer registering)

theorem registerRecv_flat (peer : Peer) (registering : Registering) :
    Flat (registerRecv peer registering) := by
  cases registering with
  | unconnected => exact flat_done
  | answered result disconnecting => exact answer_flat result _ (disconnect_flat peer disconnecting)

theorem onConnected_flat (peer : Peer) : Flat (onConnected peer) := by
  cases peer with
  | game session => exact flat_leaf _
  | relay n => exact flat_write

theorem processConnect_flat (peer : Peer) (registering : Option Registering) :
    Flat (processConnect peer registering) := by
  cases registering with
  | none => exact flat_done
  | some registering =>
      apply flat_append
      · exact flat_append _ _ (flat_leaf _) (onConnected_flat peer)
      · exact registerRecv_flat peer registering

theorem processSend_flat (peer : Peer) (finds : SendDone) : Flat (processSend peer finds) := by
  cases finds with
  | noBytes disconnecting => exact disconnect_flat peer disconnecting
  | empty => exact flat_leaf _
  | more registering => exact flat_append _ _ (flat_leaf _) (registerSend_flat peer registering)

theorem sendTo_flat (found : Found) : Flat (sendTo found) := by
  cases found with
  | none => exact flat_done
  | some target => exact send_flat _ _

theorem handleToRoom_flat (gameRoom : Option RoomRef) : Flat (handleToRoom gameRoom) := by
  cases gameRoom with
  | none => exact flat_done
  | some gameRoom => exact flat_leaf _

theorem handleLogin_flat (session : SessionId) (finds : LoggingIn) :
    Flat (handleLogin session finds) := by
  cases finds with
  | refused => exact flat_done
  | enters saved loaded sent room =>
      apply flat_append _ _ _ flat_write
      apply flat_append _ _ _ (handleToRoom_flat room)
      apply flat_append _ _ _ (send_flat _ sent)
      apply flat_append _ _ flat_write
      apply flat_ite _ _ _ _ flat_write
      exact flat_append _ _ (flat_ite _ _ _ flat_write flat_done) flat_write

theorem chatSend_flat (sent : Option (Nat × Option Registering)) : Flat (chatSend sent) := by
  cases sent with
  | none => exact flat_write
  | some sent => exact send_flat _ _

theorem handleChat_flat (finds : Chatting) : Flat (handleChat finds) := by
  cases finds with
  | refused => exact flat_done
  | relayed sent => exact chatSend_flat sent
  | party partyId sent =>
      exact flat_append _ _ (flat_leaf _) (flat_ite _ _ _ flat_done (chatSend_flat sent))

theorem handlePacket_flat (session : SessionId) (packet : Handled) :
    Flat (handlePacket session packet) := by
  cases packet with
  | unknown => exact flat_done
  | toRoom gameRoom => exact handleToRoom_flat gameRoom
  | login finds => exact handleLogin_flat session finds
  | chat finds => exact handleChat_flat finds
  | getRanking sent => exact send_flat _ sent

theorem roomCall_flat (call : RoomCall) : Flat (roomCall call) := by
  cases call with
  | send session sent => exact send_flat _ sent
  | createParty parties leaderId => exact createParty_flat parties leaderId
  | addMember parties partyId playerId => exact addMember_flat parties partyId playerId
  | removeMember parties partyId playerId => exact removeMember_flat parties partyId playerId
  | _ => exact flat_leaf _

theorem updateRoom_flat (update : RoomUpdate) : Flat (updateRoom update) := by
  have calls (batches : List (List RoomCall)) : Flat (.each (.each roomCall) batches) := by
    apply flat_each
    intro batch _
    apply flat_each
    intro call _
    exact roomCall_flat call
  exact flat_append _ _ (flat_append _ _ (flat_leaf _) (calls update.jobs)) (calls update.steps)

theorem destroyed_flat (destroyed : List SessionId) : Flat (.each destroy destroyed) := by
  apply flat_each
  intro session _
  exact flat_write

theorem gameRound_flat (round : GameRound) : Flat (gameRound round) := by
  apply flat_append
  · apply flat_append
    · apply flat_each
      intro update _
      exact updateRoom_flat update
    · apply flat_each
      intro destroyed _
      exact flat_append _ _ (destroyed_flat destroyed) flat_write
  · split
    · exact flat_done
    · exact flat_append _ _ flat_write (flat_ite _ _ _ flat_done flat_write)

theorem answer_mem (result : WsaResult) (disconnects : Sections Mutex) (mutex : Mutex) :
    mutex ∈ (answer result disconnects).mutexes ↔
      (∃ errorCode, result = .error errorCode ∧ Session.resets errorCode = true) ∧
        mutex ∈ disconnects.mutexes := by
  cases result with
  | success => simp [answer, Sections.mutexes]
  | error errorCode =>
      by_cases pending : errorCode = WSA_IO_PENDING
      · simp [answer, pending, Sections.mutexes, Session.resets, WSA_IO_PENDING, WSAECONNRESET,
          WSAECONNABORTED, WSAENOTCONN]
      · by_cases reset : Session.resets errorCode = true
        · simp [answer, pending, handleError, reset]
        · simp [answer, pending, handleError, reset, Sections.mutexes]

theorem manager_mem_registerSend (session : SessionId) (registering : Registering) :
    Mutex.sessionManager ∈ (registerSend (.game session) registering).mutexes ↔
      registering.disconnects = true := by
  cases registering with
  | unconnected => simp [registerSend, Sections.mutexes, Registering.disconnects]
  | answered result disconnecting =>
      rw [registerSend, Sections.mutexes_append, List.mem_append, answer_mem]
      cases disconnecting with
      | already =>
          cases result with
          | _ => simp [disconnect, Sections.mutexes, Registering.disconnects]
      | now leaving updates =>
          cases result with
          | _ => simp [disconnect, onDisconnected, remove, Sections.mutexes, Registering.disconnects]

theorem manager_mem_sends (all : Sends) :
    Mutex.sessionManager ∈ (sends all).mutexes ↔ all.disconnects = true := by
  match all with
  | .done => simp [sends, Sections.mutexes, Sends.disconnects]
  | .queued session rest =>
      have ih := manager_mem_sends rest
      simp [sends, Sections.mutexes, Sends.disconnects, ih]
  | .registers session registering rest =>
      have ih := manager_mem_sends rest
      have first := manager_mem_registerSend session registering
      simp [sends, Sections.mutexes, Sends.disconnects, ih, first]

/-- Under which mutexes others are acquired; none is acquired twice where it is calm. -/
structure Charted (calm : Bool) (sections : Sections Mutex) : Prop where
  fresh : sections.Fresh ↔ calm = true
  nested : ∀ outer inner, sections.Nested outer inner →
    outer = .sessionManager ∨ (outer = .partyManager ∧ inner = .logger)

theorem charted_of_flat (sections : Sections Mutex) (flat : Flat sections) :
    Charted true sections := by
  constructor
  · exact iff_of_true (fresh_of_flat sections flat) rfl
  · intro outer inner nested
    exact .inr (flat outer inner nested)

theorem Charted.append_flat {calm : Bool} {before : Sections Mutex} (charted : Charted calm before)
    (after : Sections Mutex) (flat : Flat after) : Charted calm (before ++ after) := by
  constructor
  · rw [Sections.fresh_append, charted.fresh]
    exact and_iff_left (fresh_of_flat after flat)
  · intro outer inner nested
    rcases (Sections.nested_append outer inner before after).mp nested with here | later
    · exact charted.nested outer inner here
    · exact .inr (flat outer inner later)

theorem Charted.after_flat {calm : Bool} {after : Sections Mutex} (charted : Charted calm after)
    (before : Sections Mutex) (flat : Flat before) : Charted calm (before ++ after) := by
  constructor
  · rw [Sections.fresh_append, charted.fresh]
    exact and_iff_right (fresh_of_flat before flat)
  · intro outer inner nested
    rcases (Sections.nested_append outer inner before after).mp nested with here | later
    · exact .inr (flat outer inner here)
    · exact charted.nested outer inner later

theorem charted_each {Item : Type} (scope : Item → Sections Mutex) (calm : Item → Bool)
    (items : List Item) (charted : ∀ item ∈ items, Charted (calm item) (scope item)) :
    Charted (items.all calm) (.each scope items) := by
  constructor
  · rw [Sections.fresh_each, List.all_eq_true]
    exact forall₂_congr fun item member => (charted item member).fresh
  · intro outer inner nested
    obtain ⟨item, member, nested⟩ := (Sections.nested_each scope outer inner items).mp nested
    exact (charted item member).nested outer inner nested

theorem broadcast_charted (all : Sends) : Charted (!all.disconnects) (broadcast all) := by
  constructor
  · rw [broadcast, Sections.fresh_lock, manager_mem_sends, Bool.not_eq_true, Bool.not_eq_true']
    exact and_iff_left (fresh_of_flat _ (sends_flat all))
  · intro outer inner nested
    rcases (Sections.nested_lock outer inner _ _).mp nested with ⟨manager, -⟩ | deeper
    · exact .inl manager.symm
    · exact .inr (sends_flat all outer inner deeper)

end Locking

/-- No `Send` in a loop of `GSessionManager` disconnects its session. -/
def RelayPacket.calm : RelayPacket → Bool
  | .global all => !all.disconnects
  | .party (some chosen) => !chosen.disconnects
  | _ => true

def Published.calm : Published → Bool
  | .broadcast all => !all.disconnects
  | _ => true

def Completion.calm : Completion → Bool
  | .recvRelay _ (.handled packets _) | .recvRelay _ (.misread packets _) =>
      packets.all RelayPacket.calm
  | _ => true

def EntryPoint.calm : EntryPoint → Bool
  | .iocp completion _ => completion.calm
  | .redis published _ => published.calm
  | .game _ => true

namespace Locking

theorem whisper_flat (target sender : Found) : Flat (onRecvRelayed (.whisper target sender)) := by
  cases target with
  | none => exact flat_append _ _ (flat_append _ _ (flat_leaf _) (flat_leaf _)) (sendTo_flat sender)
  | some target => exact flat_append _ _ (flat_leaf _) (sendTo_flat _)

theorem onRecvRelayed_charted (packet : RelayPacket) :
    Charted packet.calm (onRecvRelayed packet) := by
  cases packet with
  | unknown => exact charted_of_flat _ flat_done
  | global all => exact broadcast_charted all
  | party chosen =>
      cases chosen with
      | none => exact charted_of_flat _ (flat_leaf _)
      | some chosen => exact (broadcast_charted chosen).after_flat _ (flat_leaf _)
  | whisper target sender => exact charted_of_flat _ (whisper_flat target sender)

theorem onMessage_charted (published : Published) : Charted published.calm (onMessage published) := by
  cases published with
  | unparsed => exact charted_of_flat _ flat_done
  | whisper target =>
      apply charted_of_flat
      exact flat_append _ _ (flat_leaf _) (sendTo_flat target)
  | broadcast all => exact broadcast_charted all

theorem relayed_charted (packets : List RelayPacket) :
    Charted (packets.all RelayPacket.calm) (.each onRecvRelayed packets) := by
  apply charted_each
  intro packet _
  exact onRecvRelayed_charted packet

theorem processRecv_flat (session : SessionId) (received : Received Handled) :
    Flat (processRecv (.game session) (handlePacket session) received) := by
  have handled (packets : List Handled) : Flat (.each (handlePacket session) packets) := by
    apply flat_each
    intro packet _
    exact handlePacket_flat session packet
  cases received with
  | refused disconnecting => exact disconnect_flat _ disconnecting
  | handled packets registering => exact flat_append _ _ (handled packets) (registerRecv_flat _ _)
  | misread packets disconnecting => exact flat_append _ _ (handled packets) (disconnect_flat _ _)

theorem dispatch_charted (completion : Completion) :
    Charted completion.calm (dispatch completion) := by
  cases completion with
  | accept session registering => exact charted_of_flat _ (processConnect_flat _ registering)
  | connect n registering => exact charted_of_flat _ (processConnect_flat _ registering)
  | disconnect => exact charted_of_flat _ flat_done
  | recv session received => exact charted_of_flat _ (processRecv_flat session received)
  | send peer finds => exact charted_of_flat _ (processSend_flat peer finds)
  | recvRelay n received =>
      cases received with
      | refused disconnecting => exact charted_of_flat _ (disconnect_flat _ disconnecting)
      | handled packets registering =>
          exact (relayed_charted packets).append_flat _ (registerRecv_flat _ registering)
      | misread packets disconnecting =>
          exact (relayed_charted packets).append_flat _ (disconnect_flat _ disconnecting)

end Locking

theorem EntryPoint.charted (entry : EntryPoint) : Locking.Charted entry.calm entry.sections := by
  cases entry with
  | iocp completion destroyed =>
      exact (Locking.dispatch_charted completion).append_flat _ (Locking.destroyed_flat _)
  | redis published destroyed =>
      exact (Locking.onMessage_charted published).append_flat _ (Locking.destroyed_flat _)
  | game round => exact Locking.charted_of_flat _ (Locking.gameRound_flat round)

def EntryPoint.NoReacquire (entry : EntryPoint) : Prop :=
  ∀ mutex, ¬ Locks.AcquiredUnder mutex mutex [] entry.sections.ops

/-- Somewhere in the server `inner` is acquired while another mutex, `outer`, is held. -/
def Nests (outer inner : Mutex) : Prop :=
  outer ≠ inner ∧ ∃ entry : EntryPoint, Locks.AcquiredUnder outer inner [] entry.sections.ops

def Mutex.rank : Mutex → Nat
  | .sessionManager => 0
  | .partyManager => 1
  | _ => 2

theorem rank_of_nests (outer inner : Mutex) (nests : Nests outer inner) :
    outer.rank < inner.rank := by
  obtain ⟨different, entry, acquired⟩ := nests
  have nested := (Sections.acquiredUnder_iff_nested outer inner entry.sections).mp acquired
  rcases entry.charted.nested outer inner nested with rfl | ⟨rfl, rfl⟩
  · cases inner with
    | sessionManager => exact absurd rfl different
    | _ => simp [Mutex.rank]
  · decide

theorem nests_acyclic : Locks.Acyclic Nests := Locks.acyclic_of_rank Nests Mutex.rank rank_of_nests

/-- A thread acquires no mutex twice, and the order of the mutexes has no cycle, exactly where no
`Send` in a loop of `GSessionManager` disconnects its session. -/
theorem lock_discipline_iff (entry : EntryPoint) :
    (entry.NoReacquire ∧ Locks.Acyclic Nests) ↔ entry.calm = true := by
  rw [and_iff_left nests_acyclic, ← entry.charted.fresh]
  exact forall_congr' fun mutex =>
    not_congr (Sections.acquiredUnder_iff_nested mutex mutex entry.sections)

/-- A message for everybody, and one client, who has reset the connection. -/
def resetDuringBroadcast : EntryPoint :=
  .redis
    (.broadcast
      (.registers 1
        (.answered (.error WSAECONNRESET)
          (.now { player := none, accountId := 0, partyId := 0, parties := .initial, room := none }
            .done))
        .done))
    none

theorem manager_acquired_twice :
    ¬ ∀ entry : EntryPoint, entry.NoReacquire ∧ Locks.Acyclic Nests := by
  intro always
  apply (always resetDuringBroadcast).1 .sessionManager
  rw [Sections.acquiredUnder_iff_nested]
  left
  exact ⟨rfl, by decide⟩

end ZeldaServer
