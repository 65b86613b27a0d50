import ZeldaServer.World.PartyNews

/-! Chat between game servers: a `C_Chat` goes to the ChatServer, and from there to all game
servers, or through Redis to those that subscribed to a channel. The servers rest while a
message is under way. -/

namespace ZeldaServer

/-- `SS_BroadcastChat` -/
structure SSBroadcastChat where
  sender : Bytes
  type : ChatType
  msg : Bytes
  target : Bytes
  partyId : PartyId
  deriving DecidableEq

/-- `S_Chat` -/
structure SChat where
  sender : Bytes
  type : ChatType
  msg : Bytes
  deriving DecidableEq

def systemName : Bytes := "System".toUTF8.toList

def playerNotFound : Bytes := "[System] 해당 플레이어를 찾을 수 없습니다.".toUTF8.toList

/-- A game server in a state that it can reach, with the elements of `_sessions` and its
`GServerAddr`. -/
structure GameServer where
  world : World
  sessions : List SessionId
  addr : Bytes
  runs : ∃ data store redisConnected rand events,
    reached data store redisConnected rand events = some world
  nodup : sessions.Nodup
  connected : ∀ s, s ∈ sessions ↔ (world.routing.sessions s).connection = .connected

namespace GameServer

variable (g : GameServer)

/-- `session->player.lock()` -/
def player (s : SessionId) : Option ObjectId := lockPlayer g.world.routing g.world.scene [] s

def playerName (s : SessionId) : Option Bytes :=
  (g.player s).map fun id => (g.world.scene.players id).info.name

/-- `GameSessionManager::Broadcast` -/
def broadcast (pkt : SChat) : List (SessionId × SChat) := g.sessions.map fun s => (s, pkt)

/-- `GameSessionManager::SendToPlayerIds` -/
def sendToPlayerIds (playerIds : List ObjectId) (pkt : SChat) : List (SessionId × SChat) :=
  (g.sessions.filter fun s => (g.player s).any (· ∈ playerIds)).map fun s => (s, pkt)

/-- `GameSessionManager::FindByPlayerName` -/
def findByPlayerName (name : Bytes) : Option SessionId :=
  g.sessions.find? fun s => g.playerName s = some name

/-- What `Handle_C_Chat` gives to `GChatConnector`. -/
def relays (s : SessionId) (pkt : CChat) : List SSRelayChat :=
  (handleCChat g.world s pkt).scene.relayed.drop g.world.scene.relayed.length

/-- `ChatRelaySession::OnRecvPacket`, with the sessions it sends to. -/
def onRecvPacket (pkt : SSBroadcastChat) : List (SessionId × SChat) :=
  let chatPkt : SChat := ⟨pkt.sender, pkt.type, pkt.msg⟩
  if pkt.type = ChatType.global then g.broadcast chatPkt
  else if pkt.type = ChatType.party then
    match g.world.routing.parties.parties pkt.partyId with
    | none => []
    | some party => g.sendToPlayerIds party.memberIds chatPkt
  else if pkt.type = ChatType.whisper then
    match g.findByPlayerName pkt.target with
    | some target => [(target, chatPkt)]
    | none =>
        match g.findByPlayerName pkt.sender with
        | some senderSession =>
            [(senderSession, ⟨systemName, ChatType.whisper, playerNotFound⟩)]
        | none => []
  else []

/-- `on_message` of `RedisSubscriber::Start` -/
def onMessage (pkt : SSBroadcastChat) : List (SessionId × SChat) :=
  let chat : SChat := ⟨pkt.sender, pkt.type, pkt.msg⟩
  if pkt.type = ChatType.whisper then
    match g.findByPlayerName pkt.target with
    | some target => [(target, chat)]
    | none => []
  else g.broadcast chat

end GameServer

/-- `chat:global` and `chat:whisper:{addr}` -/
inductive Channel where
  | global
  | whisper (addr : Bytes)
  deriving DecidableEq

/-- A server subscribes to `chat:global` and to the whispers for its own address. -/
def GameServer.subscribes (g : GameServer) : Channel → Bool
  | .global => true
  | .whisper addr => addr = g.addr

inductive Forwarded where
  | broadcastAll (pkt : SSBroadcastChat)
  | publish (channel : Channel) (payload : SSBroadcastChat)
  | dropped

/-- `ChatPacketHandler::Handle_SS_RelayChat`; `loc` reads the keys `player:loc:{name}`. -/
def handleSSRelayChat (redisConnected : Bool) (loc : Bytes → Option Bytes) (pkt : SSRelayChat) :
    Forwarded :=
  let broadcast : SSBroadcastChat := ⟨pkt.sender, pkt.type, pkt.msg, pkt.target, pkt.partyId⟩
  if ¬ redisConnected then .broadcastAll broadcast
  else if pkt.type = ChatType.global then .publish .global broadcast
  else if pkt.type = ChatType.whisper then
    match loc pkt.target with
    | some addr => .publish (.whisper addr) broadcast
    | none =>
        match loc pkt.sender with
        | some addr =>
            .publish (.whisper addr) ⟨systemName, ChatType.whisper, playerNotFound, pkt.sender, 0⟩
        | none => .dropped
  else .broadcastAll broadcast

variable {n : Nat}

def deliver (servers : Fin n → GameServer) (forwarded : Forwarded) (j : Fin n) :
    List (SessionId × SChat) :=
  match forwarded with
  | .broadcastAll pkt => (servers j).onRecvPacket pkt
  | .publish channel payload =>
      if (servers j).subscribes channel then (servers j).onMessage payload else []
  | .dropped => []

def arrivals (events : List Event) : List SessionId :=
  events.filterMap fun
    | .connect s => some s
    | _ => none

theorem arrived_of_run (data : GameData) (w final : World) (events : List Event)
    (inRange : w.routing.InRange) (ended : Runs.run (World.step data) w events = some final)
    (s : SessionId) (seen : (final.routing.sessions s).connection ≠ .fresh) :
    (w.routing.sessions s).connection ≠ .fresh ∨ s ∈ arrivals events := by
  induction events generalizing w with
  | nil =>
      cases ended
      exact .inl seen
  | cons e events ih =>
      obtain ⟨next, stepped, rest⟩ := Runs.run_cons_some w final e events ended
      rcases ih next (step_inRange data w next e inRange stepped) rest with there | later
      · rw [step_connection data w next e inRange stepped, Connection.after] at there
        split at there
        case isTrue arrives =>
          right
          rw [arrives]
          exact List.mem_cons_self
        case isFalse =>
          split at there
          case isTrue leaves =>
            left
            rw [(step_connected data w next e s stepped).2.1 leaves]
            decide
          case isFalse => exact .inl there
      · right
        rw [arrivals, List.filterMap_cons]
        split
        · exact later
        · exact List.mem_cons_of_mem _ later

theorem connected_of_run (data : GameData) (store : Store) (redisConnected : Bool)
    (rand : List Nat) (events : List Event) (w : World)
    (ended : reached data store redisConnected rand events = some w)
    (online : ∀ s ∈ arrivals events, (w.routing.sessions s).connection = .connected)
    (s : SessionId) :
    s ∈ arrivals events ↔ (w.routing.sessions s).connection = .connected := by
  have blank := init_blank data store redisConnected rand
  constructor
  · exact online s
  · intro connected
    rcases arrived_of_run data _ w events blank.inRange ended s (by rw [connected]; decide) with
      before | arrived
    · rw [blank.sessions] at before
      exact absurd rfl before
    · exact arrived

/-- `GServerAddr` -/
def serverAddr (port : Nat) : Bytes := ("127.0.0.1:" ++ toString port).toUTF8.toList

/-- A server of `smallGame` after a run, if the run goes through and nobody has left. -/
def serverAfter (port : Nat) (events : List Event)
    (checked : (reached smallGame newStore true [] events).any (fun w =>
      ∀ s ∈ arrivals events, (w.routing.sessions s).connection = .connected) = true)
    (nodup : (arrivals events).Nodup) : GameServer where
  world := (reached smallGame newStore true [] events).get
    (Option.isSome_of_any checked)
  sessions := arrivals events
  addr := serverAddr port
  runs := ⟨smallGame, newStore, true, [], events, (Option.some_get _).symm⟩
  nodup := nodup
  connected := by
    obtain ⟨w, ended, online⟩ := (Option.any_eq_true _ _).mp checked
    intro s
    have same : (reached smallGame newStore true [] events).get (Option.isSome_of_any checked) = w := by
      simp [ended]
    rw [same]
    exact connected_of_run smallGame newStore true [] events w ended (of_decide_eq_true online) s

namespace GameServer

variable (g : GameServer)

theorem wellFormed : g.world.routing.parties.WellFormed := by
  obtain ⟨data, store, redisConnected, rand, events, ended⟩ := g.runs
  have blank := init_blank data store redisConnected rand
  have start : (World.init data store redisConnected rand).routing.InRange ∧
      (World.init data store redisConnected rand).routing.parties.WellFormed := by
    refine ⟨blank.inRange, ?_⟩
    rw [blank.parties]
    exact PartyManager.WellFormed.initial
  refine (Runs.run_preserved (fun w => w.routing.InRange ∧ w.routing.parties.WellFormed) ?_ _
    g.world events start ended).2
  rintro w e next ⟨inRange, wellFormed⟩ stepped
  exact ⟨step_inRange data w next e inRange stepped,
    step_wellFormedParties data w next e inRange wellFormed stepped⟩

/-- The number of the party that the session's player is in, zero for none. -/
def partyNumber (s : SessionId) : PartyId :=
  match g.player s with
  | none => 0
  | some id => g.world.routing.parties.partyIdByPlayer id

def membersNumbered (partyId : PartyId) : List ObjectId :=
  ((g.world.routing.parties.parties partyId).map Party.memberIds).getD []

def Plays (s : SessionId) (members : List ObjectId) : Prop :=
  s ∈ g.sessions ∧ ∃ id ∈ members, g.player s = some id

theorem mem_sendToPlayerIds (playerIds : List ObjectId) (pkt chat : SChat) (s : SessionId) :
    (s, chat) ∈ g.sendToPlayerIds playerIds pkt ↔ g.Plays s playerIds ∧ chat = pkt := by
  simp only [sendToPlayerIds, List.mem_map, List.mem_filter, Option.any_eq_true,
    decide_eq_true_eq, Prod.mk.injEq, Plays]
  constructor
  · rintro ⟨s', ⟨connected, id, locked, listed⟩, rfl, rfl⟩
    exact ⟨⟨connected, id, listed, locked⟩, rfl⟩
  · rintro ⟨⟨connected, id, listed, locked⟩, rfl⟩
    exact ⟨s, ⟨connected, id, locked, listed⟩, rfl, rfl⟩

theorem onRecvPacket_party (pkt : SSBroadcastChat) (party : pkt.type = ChatType.party) :
    g.onRecvPacket pkt =
      g.sendToPlayerIds (g.membersNumbered pkt.partyId) ⟨pkt.sender, pkt.type, pkt.msg⟩ := by
  have other : ¬ ChatType.party = ChatType.global := by decide
  simp only [onRecvPacket, party, if_neg other, if_true, membersNumbered]
  cases g.world.routing.parties.parties pkt.partyId with
  | none => simp [sendToPlayerIds]
  | some found => rfl

theorem relays_party (s : SessionId) (pkt : CChat) (party : pkt.type = ChatType.party) :
    (g.partyNumber s = 0 ∧ g.relays s pkt = []) ∨
      ∃ sender, g.relays s pkt = [⟨sender, ChatType.party, pkt.msg, [], g.partyNumber s⟩] := by
  have other : ¬ ChatType.party = ChatType.global := by decide
  simp only [relays, partyNumber, handleCChat, player]
  cases lockPlayer g.world.routing g.world.scene [] s with
  | none => exact .inl ⟨rfl, List.drop_length⟩
  | some id =>
      simp only [chatRelay, party, if_neg other, if_true]
      split
      case h_1 alone =>
        split at alone
        case isTrue zero => exact .inl ⟨zero, List.drop_length⟩
        case isFalse => cases alone
      case h_2 relay made =>
        split at made
        case isTrue => cases made
        case isFalse grouped =>
          cases made
          exact .inr ⟨_, List.drop_left⟩

end GameServer

section PartyChat

variable (servers : Fin n → GameServer) (redisConnected : Bool) (loc : Bytes → Option Bytes)
  (i : Fin n) (s : SessionId)

/-- What server `j` sends to its clients when session `s` of server `i` chats. -/
def chats (pkt : CChat) (j : Fin n) : List (SessionId × SChat) :=
  ((servers i).relays s pkt).flatMap fun relay =>
    deliver servers (handleSSRelayChat redisConnected loc relay) j

/-- The session plays a member of the party of session `s` of server `i`. -/
def InParty (j : Fin n) (s' : SessionId) : Prop :=
  j = i ∧ ∃ id, (servers i).player s = some id ∧
    (servers i).Plays s' ((servers i).world.routing.parties.membersOf id)

/-- A party message is sent to the sessions of the party, and other sessions cannot tell one
message from another one. -/
structure PartyChatPrivate : Prop where
  reaches : ∀ pkt : CChat, pkt.type = ChatType.party → ∀ j s',
    (∃ chat, (s', chat) ∈ chats servers redisConnected loc i s pkt j) ↔ InParty servers i s j s'
  blind : ∀ pkt pkt' : CChat, pkt.type = ChatType.party → pkt'.type = ChatType.party → ∀ j s',
    ¬ InParty servers i s j s' →
      (chats servers redisConnected loc i s pkt j).filter (·.1 = s') =
        (chats servers redisConnected loc i s pkt' j).filter (·.1 = s')

theorem chats_party (pkt : CChat) (party : pkt.type = ChatType.party) (j : Fin n)
    (s' : SessionId) : (∃ chat, (s', chat) ∈ chats servers redisConnected loc i s pkt j) ↔
      (servers j).Plays s' ((servers j).membersNumbered ((servers i).partyNumber s)) := by
  have other : ¬ ChatType.party = ChatType.global ∧ ¬ ChatType.party = ChatType.whisper := by
    decide
  have forwarded (sender : Bytes) (partyId : PartyId) :
      handleSSRelayChat redisConnected loc ⟨sender, ChatType.party, pkt.msg, [], partyId⟩ =
        .broadcastAll ⟨sender, ChatType.party, pkt.msg, [], partyId⟩ := by
    simp only [handleSSRelayChat, if_neg other.1, if_neg other.2, ite_self]
  rcases (servers i).relays_party s pkt party with ⟨alone, silent⟩ | ⟨sender, relayed⟩
  · have nobody : (servers j).membersNumbered 0 = [] := by
      rw [GameServer.membersNumbered, PartyManager.parties_zero _ (servers j).wellFormed]
      rfl
    rw [chats, silent, alone, nobody]
    simp [GameServer.Plays]
  · rw [chats, relayed]
    simp only [List.flatMap_cons, List.flatMap_nil, List.append_nil, forwarded, deliver]
    rw [GameServer.onRecvPacket_party _ _ rfl]
    constructor
    · rintro ⟨chat, sent⟩
      exact ((GameServer.mem_sendToPlayerIds _ _ _ _ _).mp sent).1
    · intro plays
      exact ⟨_, (GameServer.mem_sendToPlayerIds _ _ _ _ _).mpr ⟨plays, rfl⟩⟩

theorem membersNumbered_own (g : GameServer) (s' : SessionId) :
    g.Plays s' (g.membersNumbered (g.partyNumber s)) ↔
      ∃ id, g.player s = some id ∧ g.Plays s' (g.world.routing.parties.membersOf id) := by
  rw [GameServer.partyNumber]
  cases g.player s with
  | none =>
      rw [GameServer.membersNumbered, PartyManager.parties_zero _ g.wellFormed]
      simp [GameServer.Plays]
  | some id =>
      have same : g.membersNumbered (g.world.routing.parties.partyIdByPlayer id) =
          g.world.routing.parties.membersOf id := by
        rw [GameServer.membersNumbered, PartyManager.membersOf]
        cases g.world.routing.parties.parties (g.world.routing.parties.partyIdByPlayer id) <;> rfl
      simp only [same, Option.some.injEq, exists_eq_left']

theorem inParty_own (s' : SessionId) :
    InParty servers i s i s' ↔
      (servers i).Plays s' ((servers i).membersNumbered ((servers i).partyNumber s)) := by
  rw [membersNumbered_own s (servers i) s', InParty]
  exact ⟨fun both => both.2, fun plays => ⟨rfl, plays⟩⟩

end PartyChat

set_option maxRecDepth 20000 in
def twinServers (i : Fin 2) : GameServer :=
  serverAfter (7777 + i) pairInTown (by decide +kernel) (by decide)

/-- Servers and the values of the keys `player:loc:{name}`, which are right for every player
that is online. Names that differ are not even needed, and there may be other keys. -/
structure Placement (n : Nat) where
  servers : Fin n → GameServer
  loc : Bytes → Option Bytes
  located : ∀ i, ∀ s ∈ (servers i).sessions, ∀ name ∈ (servers i).playerName s,
    loc name = some (servers i).addr

theorem GameServer.findByPlayerName_some (g : GameServer) (name : Bytes) (s : SessionId)
    (found : g.findByPlayerName name = some s) :
    s ∈ g.sessions ∧ g.playerName s = some name :=
  ⟨List.mem_of_find?_eq_some found, by simpa using List.find?_some found⟩

namespace Placement

variable (p : Placement n)

def OnlineAt (i : Fin n) (name : Bytes) : Prop :=
  ∃ s ∈ (p.servers i).sessions, (p.servers i).playerName s = some name

def RoutesAgree (pkt : SSRelayChat) : Prop :=
  ∀ j s chat, (s, chat) ∈ deliver p.servers (handleSSRelayChat true p.loc pkt) j ↔
    (s, chat) ∈ deliver p.servers (handleSSRelayChat false p.loc pkt) j

theorem find_offline (i : Fin n) (name : Bytes) (offline : ¬ p.OnlineAt i name) :
    (p.servers i).findByPlayerName name = none := by
  cases found : (p.servers i).findByPlayerName name with
  | none => rfl
  | some s =>
      obtain ⟨connected, named⟩ := (p.servers i).findByPlayerName_some name s found
      exact absurd ⟨s, connected, named⟩ offline

theorem find_online (i : Fin n) (name : Bytes) (online : p.OnlineAt i name) :
    ∃ s, (p.servers i).findByPlayerName name = some s := by
  obtain ⟨s, connected, named⟩ := online
  apply Option.isSome_iff_exists.mp
  simp only [GameServer.findByPlayerName, List.find?_isSome, decide_eq_true_eq]
  exact ⟨s, connected, named⟩

theorem loc_online (i : Fin n) (name : Bytes) (online : p.OnlineAt i name) :
    p.loc name = some (p.servers i).addr := by
  obtain ⟨s, connected, named⟩ := online
  exact p.located i s connected name named

/-- A message for the client of a name, at a server that need not have it. -/
def toName (j : Fin n) (name : Bytes) (chat : SChat) : List (SessionId × SChat) :=
  match (p.servers j).findByPlayerName name with
  | some s => [(s, chat)]
  | none => []

theorem toName_offline (j : Fin n) (name : Bytes) (chat : SChat) (offline : ¬ p.OnlineAt j name) :
    p.toName j name chat = [] := by
  rw [toName, p.find_offline j name offline]

theorem toName_keyed (j : Fin n) (name addr : Bytes) (chat : SChat)
    (keyed : p.loc name = some addr) :
    (if (p.servers j).subscribes (.whisper addr) then p.toName j name chat else []) =
      p.toName j name chat := by
  by_cases online : p.OnlineAt j name
  · have here := p.loc_online j name online
    rw [keyed] at here
    exact if_pos (decide_eq_true (Option.some.inj here))
  · rw [p.toName_offline j name chat online, ite_self]

def notice : SChat := ⟨systemName, ChatType.whisper, playerNotFound⟩

section Whisper

variable (pkt : SSRelayChat) (whisper : pkt.type = ChatType.whisper) (j : Fin n)

include whisper

theorem whisper_broadcast : deliver p.servers (handleSSRelayChat false p.loc pkt) j =
    match (p.servers j).findByPlayerName pkt.target with
    | some target => [(target, ⟨pkt.sender, pkt.type, pkt.msg⟩)]
    | none => p.toName j pkt.sender notice := by
  have other : ¬ ChatType.whisper = ChatType.global ∧ ¬ ChatType.whisper = ChatType.party := by
    decide
  simp only [handleSSRelayChat, Bool.false_eq_true, not_false_eq_true, if_true, deliver,
    GameServer.onRecvPacket, whisper, if_neg other.1, if_neg other.2, toName, notice]

theorem whisper_published : deliver p.servers (handleSSRelayChat true p.loc pkt) j =
    match p.loc pkt.target with
    | some _ => p.toName j pkt.target ⟨pkt.sender, pkt.type, pkt.msg⟩
    | none => p.toName j pkt.sender notice := by
  have other : ¬ ChatType.whisper = ChatType.global := by decide
  simp only [handleSSRelayChat, not_true_eq_false, if_false, whisper, if_neg other, if_true]
  cases keyed : p.loc pkt.target with
  | some addr =>
      rw [← p.toName_keyed j pkt.target addr _ keyed]
      simp only [deliver, GameServer.onMessage, if_true]
      rfl
  | none =>
      dsimp only
      cases located : p.loc pkt.sender with
      | some addr =>
          rw [← p.toName_keyed j pkt.sender addr _ located]
          simp only [deliver, GameServer.onMessage, if_true]
          rfl
      | none =>
          have offline : ¬ p.OnlineAt j pkt.sender := by
            intro online
            rw [p.loc_online j pkt.sender online] at located
            cases located
          rw [p.toName_offline j pkt.sender notice offline]
          rfl

end Whisper

theorem others_agree (pkt : SSRelayChat) (other : pkt.type ≠ ChatType.whisper) :
    p.RoutesAgree pkt := by
  intro j s chat
  by_cases global : pkt.type = ChatType.global
  · have apart : ¬ ChatType.global = ChatType.whisper := by decide
    simp only [handleSSRelayChat, global, not_true_eq_false, if_false, if_true,
      Bool.false_eq_true, not_false_eq_true, deliver, GameServer.subscribes,
      GameServer.onMessage, GameServer.onRecvPacket, if_neg apart]
  · simp only [handleSSRelayChat, if_neg global, if_neg other, ite_self]

end Placement

def visitor (name : Bytes) : List Event := [.connect 1, .packet 1 (.login name)] ++ updateTown 1

set_option maxRecDepth 20000 in
def twoVisitors (i : Fin 2) : GameServer :=
  if i = 0 then serverAfter 7777 (visitor [97]) (by decide +kernel) (by decide)
  else serverAfter 7778 (visitor [98]) (by decide +kernel) (by decide)

set_option maxRecDepth 20000 in
/-- Player a is on the first server, player b on the second one, and both have their keys. -/
def visitorsApart : Placement 2 where
  servers := twoVisitors
  loc := fun name =>
    if name = [97] then some (serverAddr 7777)
    else if name = [98] then some (serverAddr 7778) else none
  located := by decide +kernel

end ZeldaServer
