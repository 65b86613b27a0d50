import ZeldaServer.Core.Session
import ZeldaServer.Lib.Locks
import ZeldaServer.World.State

/-! What the entry points of the server do with its mutexes. Each `WRITE_LOCK`, and each guard
of a `_jobLock`, is a scope. What a call finds in the shared state, and what `WSASend` and
`WSARecv` answer, is given: other threads may have done anything before. -/

namespace ZeldaServer

open Locks (Sections)

/-- A `Session` of the server: of a client, or one to the chat server. -/
inductive Peer where
  | game (session : SessionId)
  | relay (n : Nat)
  deriving DecidableEq

inductive Mutex where
  | sessionManager
  | partyManager
  | session (peer : Peer)
  | serverService
  /-- Each session to the chat server has a `ClientService` of its own. -/
  | clientService (n : Nat)
  | jobLock (room : RoomRef)
  | logger
  deriving DecidableEq

/-- What `GameSession::OnDisconnected` finds. -/
structure Leaving where
  player : Option ObjectId
  accountId : AccountId
  /-- `GetPartyIdByPlayer` -/
  partyId : PartyId
  /-- The parties as `RemoveMember` finds them. -/
  parties : PartyManager
  room : Option RoomRef

mutual

/-- What `RegisterSend` or `RegisterRecv` finds, and what `WSASend` or `WSARecv` answers. -/
inductive Registering where
  | unconnected
  | answered (result : WsaResult) (disconnecting : Disconnecting)

/-- What `Disconnect` finds, where it is called. -/
inductive Disconnecting where
  /-- `_connected` was false. -/
  | already
  | now (leaving : Leaving) (updates : Sends)

/-- `Send`s to clients, one after the other: `_sendRegistered` is set, or `RegisterSend` is
called. -/
inductive Sends where
  | done
  | queued (session : SessionId) (rest : Sends)
  | registers (session : SessionId) (registering : Registering) (rest : Sends)

end

namespace Locking

/-- `ServerLogger::Write` -/
def write : Sections Mutex := .lock .logger .done

def pushJob (room : RoomRef) : Sections Mutex := .lock (.jobLock room) .done

def getService : Peer → Mutex
  | .game _ => .serverService
  | .relay n => .clientService n

def addSession (peer : Peer) : Sections Mutex := .lock (getService peer) .done

def releaseSession (peer : Peer) : Sections Mutex := .lock (getService peer) .done

def createParty (parties : PartyManager) (leaderId : ObjectId) : Sections Mutex :=
  .lock .partyManager
    (match parties.playerToParty leaderId with
      | some _ => .done
      | none => write)

def addMember (parties : PartyManager) (partyId : PartyId) (playerId : ObjectId) : Sections Mutex :=
  .lock .partyManager
    (match parties.parties partyId with
      | none => .done
      | some party =>
          if PartyManager.maxPartySize ≤ party.memberIds.length then .done
          else
            match parties.playerToParty playerId with
            | some _ => .done
            | none => write)

def disbandParty (parties : PartyManager) (partyId : PartyId) : Sections Mutex :=
  match parties.parties partyId with
  | none => .done
  | some _ => write

def removeMember (parties : PartyManager) (partyId : PartyId) (playerId : ObjectId) :
    Sections Mutex :=
  .lock .partyManager
    (match parties.parties partyId with
      | none => .done
      | some party =>
          write ++
            -- the party is still listed when it is disbanded
            (if (party.memberIds.filter (· ≠ playerId)).length ≤ 1 then disbandParty parties partyId
            else if party.leaderId = playerId then write
            else .done))

def getParty : Sections Mutex := .lock .partyManager .done

def getPartyIdByPlayer : Sections Mutex := .lock .partyManager .done

def isInParty : Sections Mutex := .lock .partyManager .done

def isLeader : Sections Mutex := .lock .partyManager .done

def add : Sections Mutex := .lock .sessionManager .done

def remove : Sections Mutex := .lock .sessionManager .done

def findByPlayerName : Sections Mutex := .lock .sessionManager .done

def onConnected : Peer → Sections Mutex
  | .game _ => add
  | .relay _ => write

/-- The party of the player who leaves; `updates` are the `Send`s to the rest of it. -/
def leaveParty (leaving : Leaving) (playerId : ObjectId) (updates : Sections Mutex) :
    Sections Mutex :=
  getPartyIdByPlayer ++
    (if leaving.partyId = 0 then .done
    else
      removeMember leaving.parties leaving.partyId playerId ++ getParty ++
        (match leaving.room with
          | some _ => updates
          | none => .done))

def onDisconnected (peer : Peer) (leaving : Leaving) (updates : Sections Mutex) : Sections Mutex :=
  match peer with
  | .relay _ => write
  | .game _ =>
      remove ++
        (match leaving.player with
          | none => .done
          | some playerId =>
              (if 0 < leaving.accountId then write else .done) ++
                leaveParty leaving playerId updates) ++
        (match leaving.room with
          | some room => pushJob room
          | none => .done)

def handleError (errorCode : ErrorCode) (disconnects : Sections Mutex) : Sections Mutex :=
  if Session.resets errorCode then disconnects else .done

/-- After `WSASend` or `WSARecv` -/
def answer (result : WsaResult) (disconnects : Sections Mutex) : Sections Mutex :=
  match result with
  | .success => .done
  | .error errorCode =>
      if errorCode = WSA_IO_PENDING then .done else handleError errorCode disconnects

mutual

def registerSend (peer : Peer) : Registering → Sections Mutex
  | .unconnected => .done
  | .answered result disconnecting =>
      .lock (.session peer) .done ++ answer result (disconnect peer disconnecting)

def disconnect (peer : Peer) : Disconnecting → Sections Mutex
  | .already => .done
  | .now leaving updates => onDisconnected peer leaving (sends updates) ++ releaseSession peer

def sends : Sends → Sections Mutex
  | .done => .done
  | .queued session rest => .lock (.session (.game session)) .done ++ sends rest
  | .registers session registering rest =>
      .lock (.session (.game session)) .done ++ registerSend (.game session) registering ++
        sends rest

end

/-- `Send`: `none` where `_sendRegistered` is set. -/
def send (peer : Peer) : Option Registering → Sections Mutex
  | none => .lock (.session peer) .done
  | some registering => .lock (.session peer) .done ++ registerSend peer registering

def registerRecv (peer : Peer) : Registering → Sections Mutex
  | .unconnected => .done
  | .answered result disconnecting => answer result (disconnect peer disconnecting)

/-- `ProcessConnect`: `none` where `ConnectEx` has failed. -/
def processConnect (peer : Peer) : Option Registering → Sections Mutex
  | none => .done
  | some registering => addSession peer ++ onConnected peer ++ registerRecv peer registering

def broadcast (all : Sends) : Sections Mutex := .lock .sessionManager (sends all)

def sendToPlayerIds (chosen : Sends) : Sections Mutex := .lock .sessionManager (sends chosen)

end Locking

/-- What `Handle_C_Login` finds. -/
inductive LoggingIn where
  /-- No name, or no account can be made. -/
  | refused
  /-- `saved`: the account has a player. `loaded`: `LoadPlayerData` finds its row. -/
  | enters (saved loaded : Bool) (sent : Option Registering) (room : Option RoomRef)

/-- What `Handle_C_Chat` finds; `none` for a chat server that is not connected. -/
inductive Chatting where
  | refused
  | relayed (sent : Option (Nat × Option Registering))
  | party (partyId : PartyId) (sent : Option (Nat × Option Registering))

/-- What `HandlePacket` finds. -/
inductive Handled where
  | unknown
  /-- `C_Move`, `C_Attack`, `C_ChangeMap`, `C_Turn`, `C_EquipItem`, `C_UnequipItem`, `C_UseItem`,
  `C_PartyInvite`, `C_PartyAnswer` and `C_PartyLeave`. -/
  | toRoom (gameRoom : Option RoomRef)
  | login (finds : LoggingIn)
  | chat (finds : Chatting)
  | getRanking (sent : Option Registering)

namespace Locking

def handleToRoom : Option RoomRef → Sections Mutex
  | none => .done
  | some gameRoom => pushJob gameRoom

/-- `FindOrCreateAccount`, `ApplyFromSaveData` and `SavePlayerData` write to the log each time. -/
def handleLogin (session : SessionId) : LoggingIn → Sections Mutex
  | .refused => .done
  | .enters saved loaded sent room =>
      write ++ (if saved then (if loaded then write else .done) ++ write else write) ++
        send (.game session) sent ++ handleToRoom room ++ write

/-- `ChatConnector::Send` -/
def chatSend : Option (Nat × Option Registering) → Sections Mutex
  | none => write
  | some (n, sent) => send (.relay n) sent

def handleChat : Chatting → Sections Mutex
  | .refused => .done
  | .relayed sent => chatSend sent
  | .party partyId sent => getPartyIdByPlayer ++ (if partyId = 0 then .done else chatSend sent)

def handlePacket (session : SessionId) : Handled → Sections Mutex
  | .unknown => .done
  | .toRoom gameRoom => handleToRoom gameRoom
  | .login finds => handleLogin session finds
  | .chat finds => handleChat finds
  | .getRanking sent => send (.game session) sent

end Locking

/-- A player who is found, and the `Send` to it. -/
abbrev Found := Option (SessionId × Option Registering)

/-- What `ChatRelaySession::OnRecvPacket` finds. -/
inductive RelayPacket where
  | unknown
  | global (all : Sends)
  /-- `none` where there is no such party. -/
  | party (chosen : Option Sends)
  | whisper (target sender : Found)

/-- What the callback of `RedisSubscriber` finds. -/
inductive Published where
  | unparsed
  | whisper (target : Found)
  | broadcast (all : Sends)

namespace Locking

def sendTo : Found → Sections Mutex
  | none => .done
  | some (session, sent) => send (.game session) sent

def onRecvRelayed : RelayPacket → Sections Mutex
  | .unknown => .done
  | .global all => broadcast all
  | .party none => getParty
  | .party (some chosen) => getParty ++ sendToPlayerIds chosen
  | .whisper (some target) _ => findByPlayerName ++ sendTo (some target)
  | .whisper none sender => findByPlayerName ++ findByPlayerName ++ sendTo sender

def onMessage : Published → Sections Mutex
  | .unparsed => .done
  | .whisper target => findByPlayerName ++ sendTo target
  | .broadcast all => broadcast all

end Locking

/-- What `ProcessRecv` finds. -/
inductive Received (Packet : Type) where
  /-- No bytes, or more than fit. -/
  | refused (disconnecting : Disconnecting)
  | handled (packets : List Packet) (registering : Registering)
  /-- `OnRecv` has given a length that is not right. -/
  | misread (packets : List Packet) (disconnecting : Disconnecting)

/-- What `ProcessSend` finds. -/
inductive SendDone where
  | noBytes (disconnecting : Disconnecting)
  | empty
  | more (registering : Registering)

inductive Completion where
  /-- `Listener::ProcessAccept` -/
  | accept (session : SessionId) (registering : Option Registering)
  | connect (n : Nat) (registering : Option Registering)
  | disconnect
  | recv (session : SessionId) (received : Received Handled)
  | recvRelay (n : Nat) (received : Received RelayPacket)
  | send (peer : Peer) (finds : SendDone)

namespace Locking

def processRecv {Packet : Type} (peer : Peer) (onRecvPacket : Packet → Sections Mutex) :
    Received Packet → Sections Mutex
  | .refused disconnecting => disconnect peer disconnecting
  | .handled packets registering => .each onRecvPacket packets ++ registerRecv peer registering
  | .misread packets disconnecting => .each onRecvPacket packets ++ disconnect peer disconnecting

def processSend (peer : Peer) : SendDone → Sections Mutex
  | .noBytes disconnecting => disconnect peer disconnecting
  | .empty => .lock (.session peer) .done
  | .more registering => .lock (.session peer) .done ++ registerSend peer registering

def dispatch : Completion → Sections Mutex
  | .accept session registering => processConnect (.game session) registering
  | .connect n registering => processConnect (.relay n) registering
  | .disconnect => .done
  | .recv session received => processRecv (.game session) (handlePacket session) received
  | .recvRelay n received => processRecv (.relay n) onRecvRelayed received
  | .send peer finds => processSend peer finds

end Locking

/-- A call that a job of a room, or `Step`, makes; none of them takes a lock by itself. -/
inductive RoomCall where
  | send (session : SessionId) (sent : Option Registering)
  | write
  | pushJob (room : RoomRef)
  | createParty (parties : PartyManager) (leaderId : ObjectId)
  | addMember (parties : PartyManager) (partyId : PartyId) (playerId : ObjectId)
  | removeMember (parties : PartyManager) (partyId : PartyId) (playerId : ObjectId)
  | getParty
  | getPartyIdByPlayer
  | isInParty
  | isLeader

structure RoomUpdate where
  room : RoomRef
  jobs : List (List RoomCall)
  steps : List (List RoomCall)

/-- What a round of the game thread finds: the rooms with their jobs and steps, the dungeons it
removes with the sessions that go with each, and whether it is time to `TryReconnect`, and
`Start` succeeds. -/
structure GameRound where
  rooms : List RoomUpdate
  removed : List (List SessionId)
  tryReconnect : Option Bool

namespace Locking

def roomCall : RoomCall → Sections Mutex
  | .send session sent => send (.game session) sent
  | .write => write
  | .pushJob room => pushJob room
  | .createParty parties leaderId => createParty parties leaderId
  | .addMember parties partyId playerId => addMember parties partyId playerId
  | .removeMember parties partyId playerId => removeMember parties partyId playerId
  | .getParty => getParty
  | .getPartyIdByPlayer => getPartyIdByPlayer
  | .isInParty => isInParty
  | .isLeader => isLeader

/-- `GameRoom::Update` -/
def updateRoom (update : RoomUpdate) : Sections Mutex :=
  .lock (.jobLock update.room) .done ++ .each (.each roomCall) update.jobs ++
    .each (.each roomCall) update.steps

/-- `~GameSession` -/
def destroy (_session : SessionId) : Sections Mutex := write

def removeDungeonInstance (destroyed : List SessionId) : Sections Mutex :=
  .each destroy destroyed ++ write

def tryReconnect (started : Bool) : Sections Mutex :=
  write ++ (if started then .done else write)

def gameRound (round : GameRound) : Sections Mutex :=
  .each updateRoom round.rooms ++ .each removeDungeonInstance round.removed ++
    (match round.tryReconnect with
      | none => .done
      | some started => tryReconnect started)

end Locking

inductive EntryPoint where
  /-- A completion, and the session whose last reference goes with it. -/
  | iocp (completion : Completion) (destroyed : Option SessionId)
  | redis (published : Published) (destroyed : Option SessionId)
  | game (round : GameRound)

def EntryPoint.sections : EntryPoint → Sections Mutex
  | .iocp completion destroyed =>
      Locking.dispatch completion ++ .each Locking.destroy destroyed.toList
  | .redis published destroyed =>
      Locking.onMessage published ++ .each Locking.destroy destroyed.toList
  | .game round => Locking.gameRound round

end ZeldaServer
