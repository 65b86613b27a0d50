import ZeldaServer.Game.Player
import ZeldaServer.Game.PartyManager

/-! The state of the game server. A `GameRoom` is kept in two parts: the routing holds who
is in it and the jobs that wait for it, the scene holds what its ticks run on. -/

namespace ZeldaServer

abbrev RoomRef := Nat

/-- `_accountId`, 0 before the login. -/
abbrev AccountId := Nat

abbrev InstanceId := Nat

inductive FieldId where
  | town
  | dungeon
  deriving DecidableEq

/-- The lambdas pushed by `PushJob`, with what they capture. -/
inductive Job where
  | move (session : SessionId) (pkt : CMove)
  | turn (session : SessionId) (pkt : CTurn)
  | attack (session : SessionId) (pkt : CAttack)
  | changeMap (session : SessionId) (pkt : CChangeMap)
  | equipItem (session : SessionId) (slot : Int)
  | unequipItem (session : SessionId) (equipType : Int)
  | useItem (session : SessionId) (slot : Int)
  | partyInvite (session : SessionId) (targetId : ObjectId)
  | partyAnswer (session : SessionId) (inviterId : ObjectId) (accept : Bool)
  | partyLeave (session : SessionId)
  | enterRoom (session : SessionId) (player : ObjectId)
  | leaveRoom (session : SessionId)
  deriving DecidableEq

def Job.holdsRoom : Job → Bool
  | .equipItem _ _ | .unequipItem _ _ | .useItem _ _ => false
  | _ => true

/-- The player an `EnterRoom` lambda captures. -/
def Job.entering : Job → Option ObjectId
  | .enterRoom _ player => some player
  | _ => none

/-- `_players` by its ascending keys, and the queue of a `GameRoom`. -/
structure Room where
  fieldId : FieldId
  channel : Int
  instanceId : InstanceId
  players : List ObjectId
  jobs : List Job
  /-- The local `jobs` of `Update`, what it has not run yet. -/
  batch : List Job
  deriving DecidableEq

namespace Room

def create (fieldId : FieldId) (channel : Int) (instanceId : InstanceId) : Room :=
  { fieldId, channel, instanceId, players := [], jobs := [], batch := [] }

def queue (room : Room) : List Job := room.batch ++ room.jobs

end Room

inductive Connection where
  | fresh
  | connected
  | disconnected
  deriving DecidableEq

/-- `GameSession`; `gameRoom` and `player` are weak pointers. -/
structure GameSession where
  connection : Connection
  gameRoom : Option RoomRef
  player : Option ObjectId
  accountId : AccountId
  deriving DecidableEq

def GameSession.fresh : GameSession := ⟨.fresh, none, none, 0⟩

/-- A call of `SavePlayerData`, with the player object its data was taken from. -/
structure SaveCall where
  account : AccountId
  player : ObjectId
  data : SaveData
  deriving DecidableEq

/-- The database. `rows` stands for the players, inventory and equipment tables; `saves`
records the calls of this run, the last one in front. -/
structure Store where
  accounts : List (Bytes × AccountId)
  accountIdGen : AccountId
  rows : AccountId → Option SaveData
  saves : List SaveCall

/-- A `Handle_C_Login` that went through, with the player it created. -/
structure Login where
  session : SessionId
  account : AccountId
  player : ObjectId
  deriving DecidableEq

/-- The room `Update` works on: it drains the queue (`steps` is `none`), then it has run
so many steps. -/
structure Visit where
  room : RoomRef
  steps : Option Nat
  deriving DecidableEq

/-- A call of `GameRoomManager::Update` under way. -/
structure Pass where
  now : Nat
  /-- Static rooms not visited yet. -/
  statics : List RoomRef
  /-- `_instanceIdGen` when the loop over the dungeons began. -/
  dungeonsFrom : Option InstanceId
  visited : List InstanceId
  current : Option Visit
  deriving DecidableEq

/-- Who is in which room and what waits where: the sessions, the queues, the room tables,
the parties, the database, and the pointers `session` and `room` of the players. -/
structure Routing where
  rooms : RoomRef → Room
  roomCount : Nat
  staticRooms : List ((FieldId × Int) × RoomRef)
  dungeonInstances : List (InstanceId × RoomRef)
  instanceIdGen : InstanceId
  pendingRemoveDungeon : List InstanceId
  sessions : SessionId → GameSession
  playerSession : ObjectId → Option SessionId
  playerRoom : ObjectId → Option RoomRef
  parties : PartyManager
  store : Store
  /-- The logins of this run, the last one in front. -/
  logins : List Login
  pass : Option Pass

structure Monster where
  info : ObjectInfo
  homePos : Vec2Int
  aggroRange : Int
  leashRange : Int
  templateId : Int
  waitUntil : Nat
  /-- a weak pointer -/
  target : Option ObjectId
  deriving DecidableEq

structure Arrow where
  info : ObjectInfo
  ownerId : ObjectId
  expireTick : Nat
  waitUntil : Nat
  spawned : Bool
  deriving DecidableEq

structure RespawnRequest where
  due : Nat
  homePos : Vec2Int
  templateId : Int
  aggroRange : Int
  leashRange : Int
  deriving DecidableEq

/-- The part of a `GameRoom` that its steps run on. Monsters and arrows stand in the order
of their ids, which is the order of their creation. -/
structure Field where
  tilemap : Tilemap
  config : Option RoomConfigData
  monsters : List Monster
  projectiles : List Arrow
  respawnQueue : List RespawnRequest
  nextTick : Nat
  deriving DecidableEq

def Field.empty : Field := ⟨.empty, none, [], [], [], 0⟩

inductive Fault where
  | nullPointer
  | badCast
  | outOfBounds
  | divisionByZero
  /-- an exception of the Redis client that no one catches -/
  | redisDown
  /-- No more random numbers were supplied: the action did not get to its end. -/
  | unfinished
  deriving DecidableEq

inductive RedisCommand where
  | setLocation (name : Bytes)
  | delLocation (name : Bytes)
  | rankLevel (name : Bytes) (level : Int)
  deriving DecidableEq

structure Scene where
  players : ObjectId → Player
  fields : RoomRef → Field
  /-- `GetTickCount64()` -/
  now : Nat
  /-- The results of the coming `rand()` calls. -/
  rand : List Nat
  sent : List (SessionId × ServerPacket)
  relayed : List SSRelayChat
  redisConnected : Bool
  redis : List RedisCommand
  fault : Option Fault

structure World where
  routing : Routing
  scene : Scene
  /-- `GameObject::s_idGenerator` -/
  idGen : ObjectId

namespace Routing

def setRoom (routing : Routing) (r : RoomRef) (room : Room) : Routing :=
  { routing with rooms := Function.update routing.rooms r room }

def pushJob (routing : Routing) (r : RoomRef) (job : Job) : Routing :=
  routing.setRoom r { routing.rooms r with jobs := (routing.rooms r).jobs ++ [job] }

def setSession (routing : Routing) (s : SessionId) (session : GameSession) : Routing :=
  { routing with sessions := Function.update routing.sessions s session }

/-- `_players[id] = player; player->room = GetRoomRef()` -/
def addPlayer (routing : Routing) (r : RoomRef) (id : ObjectId) : Routing :=
  let room := routing.rooms r
  { routing.setRoom r
      { room with
        players :=
          if id ∈ room.players then room.players else room.players.orderedInsert (· ≤ ·) id } with
    playerRoom := Function.update routing.playerRoom id (some r) }

/-- `_players.erase(id); player->room = nullptr` -/
def erasePlayer (routing : Routing) (r : RoomRef) (id : ObjectId) : Routing :=
  let room := routing.rooms r
  { routing.setRoom r { room with players := room.players.filter (· ≠ id) } with
    playerRoom := Function.update routing.playerRoom id none }

end Routing

namespace Scene

def fail (scene : Scene) (fault : Fault) : Scene :=
  { scene with fault := scene.fault <|> some fault }

/-- `Session::Send` -/
def send (scene : Scene) (s : SessionId) (pkt : ServerPacket) : Scene :=
  { scene with sent := scene.sent ++ [(s, pkt)] }

def setPlayer (scene : Scene) (id : ObjectId) (p : Player) : Scene :=
  { scene with players := Function.update scene.players id p }

def setField (scene : Scene) (r : RoomRef) (field : Field) : Scene :=
  { scene with fields := Function.update scene.fields r field }

/-- `GRedisClient.Get()` and a command: without a connection the client throws. -/
def redisCommand (scene : Scene) (command : RedisCommand) : Scene :=
  if scene.redisConnected then { scene with redis := scene.redis ++ [command] }
  else scene.fail .redisDown

/-- The next result of `rand()`. -/
def draw (scene : Scene) : Nat × Scene :=
  match scene.rand with
  | [] => (0, scene.fail .unfinished)
  | n :: rest => (n, { scene with rand := rest })

end Scene

/-! ### Weak pointers

`lock()` gives the object back while somebody owns it. A room is owned by the tables, by
the objects in it and by the lambdas that captured it, its own queue included; a player by
the rooms it is in, by the `EnterRoom` lambdas and by the local variables of the running
job, which are passed as `held`. -/

section Locking

variable (routing : Routing) (scene : Scene)

def roomAlive (r : RoomRef) : Bool :=
  let room := routing.rooms r
  routing.staticRooms.any (·.2 = r) ||
    routing.dungeonInstances.any (·.2 = r) ||
    !(scene.fields r).monsters.isEmpty ||
    !(scene.fields r).projectiles.isEmpty ||
    room.queue.any Job.holdsRoom ||
    room.players.any (fun id => routing.playerRoom id = some r)

def playerAlive (held : List ObjectId) (id : ObjectId) : Bool :=
  held.contains id ||
    (List.range routing.roomCount).any fun r =>
      (roomAlive routing scene r && (routing.rooms r).players.contains id) ||
        (routing.rooms r).queue.any (·.entering = some id)

/-- `session->player.lock()` -/
def lockPlayer (held : List ObjectId) (s : SessionId) : Option ObjectId :=
  match (routing.sessions s).player with
  | none => none
  | some id => if playerAlive routing scene held id then some id else none

/-- `session->gameRoom.lock()` -/
def lockRoom (s : SessionId) : Option RoomRef :=
  match (routing.sessions s).gameRoom with
  | none => none
  | some r => if roomAlive routing scene r then some r else none

end Locking

end ZeldaServer
