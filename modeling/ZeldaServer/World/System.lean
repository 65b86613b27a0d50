import ZeldaServer.Lib.Runs
import ZeldaServer.World.PacketHandler

/-! The server as a whole: `GameRoomManager::Update` on the logic thread, taken apart into
jobs and steps, with connections, packets and disconnects in between. -/

namespace ZeldaServer

variable (data : GameData)

def World.empty (store : Store) (redisConnected : Bool) (rand : List Nat) : World where
  routing :=
    { rooms := fun _ => Room.create .town 0 0
      roomCount := 0
      staticRooms := []
      dungeonInstances := []
      instanceIdGen := 1
      pendingRemoveDungeon := []
      sessions := fun _ => .fresh
      playerSession := fun _ => none
      playerRoom := fun _ => none
      parties := .initial
      store := { store with saves := [] }
      logins := []
      pass := none }
  scene :=
    { players := Player.create data
      fields := fun _ => .empty
      now := 0
      rand
      sent := []
      relayed := []
      redisConnected
      redis := []
      fault := none }
  idGen := 1

/-- A static room as `GameRoomManager::Init` makes it. -/
def World.openTown (w : World) (channel : Int) (roomId : RoomName) : World :=
  let r := w.routing.roomCount
  let routing := w.routing.addRoom (Room.create .town channel 0)
  let made := initFromConfig data routing r roomId w.scene w.idGen
  { routing := { routing with staticRooms := routing.staticRooms ++ [((.town, channel), r)] }
    scene := made.1
    idGen := made.2 }

/-- `GameRoomManager::Init`: without its data the server has no room. -/
def World.init (store : Store) (redisConnected : Bool) (rand : List Nat) : World :=
  let w := World.empty data store redisConnected rand
  if data.loaded then (w.openTown data 1 .town1).openTown data 2 .town2 else w

def kTickMs : Nat := 50

def kMaxCatchUp : Nat := 5

def Routing.setPass (routing : Routing) (pass : Pass) : Routing :=
  { routing with pass := some pass }

/-- `swap(jobs, _jobs)` at the start of `GameRoom::Update`. -/
def Routing.startVisit (routing : Routing) (pass : Pass) (r : RoomRef) : Routing :=
  let room := routing.rooms r
  (routing.setRoom r { room with batch := room.batch ++ room.jobs, jobs := [] }).setPass
    { pass with current := some ⟨r, none⟩ }

/-- `RemoveDungeonInstance` for all of `_pendingRemoveDungeon`. -/
def Routing.removeDungeons (routing : Routing) : Routing :=
  { routing with
    dungeonInstances :=
      routing.dungeonInstances.filter fun entry => entry.1 ∉ routing.pendingRemoveDungeon
    pendingRemoveDungeon := []
    pass := none }

inductive Event where
  | connect (session : SessionId)
  | packet (session : SessionId) (pkt : ClientPacket)
  | disconnect (session : SessionId)
  /-- time goes by -/
  | clock (now : Nat)
  /-- `Update` is called, with the time of the clock. -/
  | update
  | visitStatic
  | loopDungeons
  | visitDungeon (instanceId : InstanceId)
  /-- The front job of the room's batch runs, with these results of `rand()`. -/
  | job (rand : List Nat)
  /-- The batch is empty. -/
  | endJobs
  | step (rand : List Nat)
  | endRoom
  | endUpdate
  deriving DecidableEq

def Routing.nextJob (routing : Routing) : Option (RoomRef × Job × List Job) :=
  match routing.pass with
  | some { current := some ⟨r, none⟩, .. } =>
      match (routing.rooms r).batch with
      | [] => none
      | job :: rest => some (r, job, rest)
  | _ => none

def Routing.popJob (routing : Routing) (r : RoomRef) (rest : List Job) : Routing :=
  routing.setRoom r { routing.rooms r with batch := rest }

/-- `jobs.front()(); jobs.pop();` -/
def World.runNextJob (w : World) (rand : List Nat) : Option World :=
  match w.routing.nextJob with
  | none => none
  | some (r, job, rest) =>
      some (runJob data
        { w with routing := w.routing.popJob r rest, scene := { w.scene with rand } } r job)

/-- The other events of an `Update` under way. -/
def World.stepPass (w : World) (pass : Pass) : Event → Option World
  | .visitStatic =>
      match pass.current, pass.statics with
      | none, r :: statics =>
          some { w with routing := w.routing.startVisit { pass with statics } r }
      | _, _ => none
  | .loopDungeons =>
      if pass.current = none ∧ pass.statics = [] ∧ pass.dungeonsFrom = none then
        some { w with
          routing := w.routing.setPass { pass with dungeonsFrom := some w.routing.instanceIdGen } }
      else none
  | .visitDungeon instanceId =>
      -- An instance created during the loop may be visited in it or not.
      match w.routing.dungeonInstances.find? (·.1 = instanceId) with
      | none => none
      | some entry =>
          if pass.current = none ∧ pass.dungeonsFrom ≠ none ∧ instanceId ∉ pass.visited then
            some { w with
              routing := w.routing.startVisit
                { pass with visited := pass.visited ++ [instanceId] } entry.2 }
          else none
  | .endJobs =>
      match pass.current with
      | some ⟨r, none⟩ =>
          if (w.routing.rooms r).batch = [] then
            let field := w.scene.fields r
            let nextTick := if field.nextTick = 0 then pass.now + kTickMs else field.nextTick
            some { w with
              routing := w.routing.setPass { pass with current := some ⟨r, some 0⟩ }
              scene := w.scene.setField r { field with nextTick } }
          else none
      | _ => none
  | .step rand =>
      match pass.current with
      | some ⟨r, some steps⟩ =>
          if (w.scene.fields r).nextTick ≤ pass.now ∧ steps < kMaxCatchUp then
            let made := gameStep data w.routing r { w.scene with rand } w.idGen
            let field := made.1.fields r
            some
              { routing := w.routing.setPass { pass with current := some ⟨r, some (steps + 1)⟩ }
                scene := made.1.setField r { field with nextTick := field.nextTick + kTickMs }
                idGen := made.2 }
          else none
      | _ => none
  | .endRoom =>
      match pass.current with
      | some ⟨r, some steps⟩ =>
          let field := w.scene.fields r
          if field.nextTick ≤ pass.now ∧ steps < kMaxCatchUp then none
          else
            let nextTick := if field.nextTick ≤ pass.now then pass.now + kTickMs else field.nextTick
            some { w with
              routing := w.routing.setPass { pass with current := none }
              scene := w.scene.setField r { field with nextTick } }
      | _ => none
  | .endUpdate =>
      match pass.dungeonsFrom with
      | none => none
      | some dungeonsFrom =>
          if pass.current = none ∧ w.routing.dungeonInstances.all (fun entry =>
              entry.1 ∈ pass.visited ∨ dungeonsFrom ≤ entry.1) then
            some { w with routing := w.routing.removeDungeons }
          else none
  | _ => none

/-- What an event does; `none` where it cannot happen. -/
def World.act (w : World) : Event → Option World
  | .connect s =>
      if (w.routing.sessions s).connection = .fresh then some (onConnected w s) else none
  | .packet s pkt =>
      if (w.routing.sessions s).connection = .connected then some (handlePacket data w s pkt)
      else none
  | .disconnect s =>
      if (w.routing.sessions s).connection = .connected then some (onDisconnected w s) else none
  | .clock now =>
      if w.scene.now ≤ now then some (w.onScene fun scene => { scene with now }) else none
  | .update =>
      match w.routing.pass with
      | some _ => none
      | none =>
          some { w with
            routing := w.routing.setPass
              { now := w.scene.now
                statics := w.routing.staticRooms.map (·.2)
                dungeonsFrom := none
                visited := []
                current := none } }
  | .job rand => w.runNextJob data rand
  | event =>
      match w.routing.pass with
      | none => none
      | some pass => w.stepPass data pass event

def World.step (w : World) (e : Event) : Option World :=
  match w.act data e with
  | none => none
  | some next => if next.scene.fault = none then some next else none

def reached (store : Store) (redisConnected : Bool) (rand : List Nat) (events : List Event) :
    Option World :=
  Runs.run (World.step data) (World.init data store redisConnected rand) events

/-! ### A small server

The rooms are seven cells wide and high, free of walls and monsters; a player of level 1
has 100 hp, attacks with 20 and defends with 5. -/

def smallRoom (roomId : RoomName) : RoomConfigData where
  skillEnabled := true
  monsterSpawnEnabled := roomId = .dungeonForest
  respawnTimeMs := 1000
  tilemap := ⟨⟨7, 7⟩, []⟩
  maxPlayers := 10

def smallGame : GameData where
  loaded := true
  roomConfig := fun roomId => some (smallRoom roomId)
  spawnConfig := fun _ => none
  monsterTemplate := fun _ => none
  levelData := fun level => if level = 1 then some ⟨0, 100, 20, 5⟩ else none
  itemTemplate := fun _ => none
  monsterDrops := fun _ => none

/-- A monster stands next to the entrance of the first town. -/
def huntGame : GameData :=
  { smallGame with
    roomConfig := fun roomId => some { smallRoom roomId with monsterSpawnEnabled := true }
    spawnConfig := fun roomId =>
      if roomId = .town1 then some ⟨[⟨⟨5, 4⟩, [⟨0, 0⟩], [⟨1, 1, 5, 5⟩]⟩]⟩ else none
    monsterTemplate := fun _ => some ⟨[], 50, 7, 0, 0⟩ }

def newStore : Store := ⟨[], 1, fun _ => none, []⟩

def visit (room : Event) (jobs : Nat) : List Event :=
  room :: List.replicate jobs (.job []) ++ [.endJobs, .endRoom]

/-- An `Update` in which the first town has so many jobs to run, and there is no dungeon. -/
def updateTown (jobs : Nat) : List Event :=
  [Event.update] ++ visit .visitStatic jobs ++ visit .visitStatic 0 ++
    [Event.loopDungeons, .endUpdate]

def toDungeon : Event := .packet 1 (.changeMap ⟨MapId.dungeon, 0⟩)

/-- Player 1 logs in, and goes from the first town to the first dungeon. -/
def intoDungeon : List Event :=
  [Event.connect 1, .packet 1 (.login [97])] ++ updateTown 1 ++ [toDungeon, .update] ++
    visit .visitStatic 1 ++ visit .visitStatic 0 ++ [Event.loopDungeons] ++
    visit (.visitDungeon 1) 1 ++ [Event.endUpdate]

/-- Players 1 and 2 log in, and player 2 joins the party of player 1. -/
def pairInTown : List Event :=
  [Event.connect 1, .connect 2, .packet 1 (.login [97]), .packet 2 (.login [98])] ++ updateTown 2 ++
    [Event.packet 1 (.partyInvite 2)] ++ updateTown 1 ++ [Event.packet 2 (.partyAnswer 1 true)] ++
    updateTown 1

end ZeldaServer
