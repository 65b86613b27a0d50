import ZeldaServer.World.Objects

/-! The jobs of a `GameRoom`: entering, leaving, changing the map, moving and fighting. -/

namespace ZeldaServer

variable (data : GameData)

def World.onScene (w : World) (f : Scene → Scene) : World := { w with scene := f w.scene }

def World.sendTo (w : World) (s : SessionId) (pkt : ServerPacket) : World :=
  w.onScene fun scene => scene.send s pkt

/-- The `S_AddObject` an entering player is sent: all that is in the room. -/
def enterRoomObjects (w : World) (r : RoomRef) : SAddObject :=
  let field := w.scene.fields r
  ⟨(playerIds w.routing r).map (fun id => (w.scene.players id).info) ++
    field.monsters.map (·.info) ++ field.projectiles.map (·.info)⟩

/-- A party member as the rooms see it: by its object, or by its stored name. -/
def partyMember (w : World) (r : RoomRef) (party : Party) (memberId : ObjectId) :
    PartyMemberInfo :=
  match findObject w.routing w.scene r memberId with
  | some (.player id) =>
      let p := w.scene.players id
      ⟨memberId, p.info.name, p.level, p.info.hp, p.info.maxHp, memberId = party.leaderId⟩
  | some _ => ⟨memberId, [], 0, 0, 0, memberId = party.leaderId⟩
  | none =>
      let name := (party.memberNames memberId).getD "Unknown".toUTF8.toList
      ⟨memberId, name ++ "(Away)".toUTF8.toList, 0, 0, 0, memberId = party.leaderId⟩

def partyUpdate (w : World) (r : RoomRef) (party : Party) : ServerPacket :=
  .partyUpdate (party.memberIds.map (partyMember w r party))

def sendToMembers (r : RoomRef) (memberIds : List ObjectId) (pkt : ServerPacket) (w : World) :
    World :=
  w.onScene fun scene =>
    memberIds.foldl (fun scene memberId =>
      if memberId ∈ playerIds w.routing r then sendToPlayer w.routing memberId pkt scene
      else scene) scene

/-- The end of `EnterRoom`: the party is told. A member id that is no player of the room
but another object of it is cast to a player all the same. -/
def enterRoomParty (w : World) (r : RoomRef) (player : ObjectId) : World :=
  let partyId := w.routing.parties.partyIdByPlayer player
  if partyId = 0 then w
  else
    match w.routing.parties.parties partyId with
    | none => w
    | some party =>
        let miscast := party.memberIds.any fun memberId =>
          match findObject w.routing w.scene r memberId with
          | some (.player _) | none => false
          | some _ => true
        if miscast then w.onScene (·.fail .badCast)
        else sendToMembers r party.memberIds (partyUpdate w r party) w

/-- The pointers `EnterRoom` sets first. -/
def Routing.bind (routing : Routing) (r : RoomRef) (s : SessionId) (player : ObjectId) : Routing :=
  { routing.setSession s
      { routing.sessions s with gameRoom := some r, player := some player } with
    playerSession := Function.update routing.playerSession player (some s) }

def entrance : Vec2Int := ⟨5, 5⟩

/-- `GameRoom::EnterRoom` -/
def World.enterRoom (w : World) (r : RoomRef) (s : SessionId) (player : ObjectId) : World :=
  let w := { w with routing := w.routing.bind r s player }
  let p := w.scene.players player
  let p :=
    { p with info := { p.info.setCellPos entrance with state := .idle }, moveEndTick := 0 }
  let w := w.onScene fun scene => (scene.setPlayer player p).send s (.myPlayer p.info)
  let w := w.onScene fun scene => p.sendInventoryData.foldl (emit w.routing player) scene
  let w := w.sendTo s (.addObject (enterRoomObjects w r))
  let w := { w with routing := w.routing.addPlayer r player }
  let w := w.onScene (broadcast w.routing r (.addObject ⟨[p.info]⟩))
  enterRoomParty w r player

/-- `RemoveObject` of a player. -/
def World.removePlayer (w : World) (r : RoomRef) (id : ObjectId) : World :=
  let w := { w with routing := w.routing.erasePlayer r id }
  w.onScene (broadcast w.routing r (.removeObject [id]))

/-- `RemoveObject(id)` for the id of a player: where the room does not have the player,
it has no object of that id. -/
def World.removeObject (w : World) (r : RoomRef) (id : ObjectId) : World :=
  if id ∈ playerIds w.routing r then w.removePlayer r id else w

/-- The end of `LeaveRoom`: an empty dungeon asks to be removed. -/
def Routing.requestRemoval (routing : Routing) (r : RoomRef) : Routing :=
  let room := routing.rooms r
  if room.fieldId = .dungeon ∧ room.players = [] ∧ room.instanceId ≠ 0 then
    { routing with pendingRemoveDungeon := routing.pendingRemoveDungeon ++ [room.instanceId] }
  else routing

/-- `GameRoom::LeaveRoom`, run while the local variables own the players `held`. -/
def World.leaveRoom (w : World) (held : List ObjectId) (r : RoomRef) (s : SessionId) : World :=
  match lockPlayer w.routing w.scene held s with
  | none => w
  | some id =>
      let w := w.removeObject r id
      { w with routing := w.routing.requestRemoval r }

/-- `GameRoom::Handle_C_Move` -/
def handleCMove (routing : Routing) (r : RoomRef) (s : SessionId) (pkt : CMove) (scene : Scene) :
    Scene :=
  match lockPlayer routing scene [] s with
  | none => scene
  | some id =>
      let player := scene.players id
      if player.info.state = .move then scene
      else if !pkt.dir.isValid then scene
      else if player.info.dir ≠ pkt.dir then
        let info := { player.info with dir := pkt.dir, state := .idle }
        broadcast routing r (.turn info) (scene.setPlayer id { player with info })
      else
        let nextPos := player.info.frontCellPos
        if !canGo routing scene r nextPos then
          let info := { player.info with state := .idle }
          broadcast routing r (.move info) (scene.setPlayer id { player with info })
        else
          let info := ({ player.info with state := .move } : ObjectInfo).setCellPos nextPos
          broadcast routing r (.move info)
            (scene.setPlayer id { player with info, moveEndTick := scene.now + 75 })

/-- `GameRoom::Handle_C_Turn` -/
def handleCTurn (routing : Routing) (r : RoomRef) (s : SessionId) (pkt : CTurn) (scene : Scene) :
    Scene :=
  match lockPlayer routing scene [] s with
  | none => scene
  | some id =>
      let player := scene.players id
      if !pkt.dir.isValid then scene
      else if player.info.dir = pkt.dir then scene
      else
        let info := { player.info with dir := pkt.dir, state := .idle }
        broadcast routing r (.turn info) (scene.setPlayer id { player with info })

/-- `CombatSystem::HandleSwordAttack`; only here a player can be the target of a player. -/
def handleSwordAttack (w : World) (r : RoomRef) (attacker : ObjectId) : World :=
  let info := (w.scene.players attacker).info
  match gameObjectAt w.routing w.scene r info.frontCellPos with
  | some (.player target) =>
      let damage := max 1 (info.attack - (w.scene.players target).info.defence)
      let w := w.onScene (·.hurtPlayer target damage)
      let targetInfo := (w.scene.players target).info
      let w := w.onScene (broadcast w.routing r (damaged info.objectId targetInfo damage))
      if targetInfo.hp = 0 then w.removePlayer r target else w
  | some (.monster target) =>
      let damage := max 1 (info.attack - target.info.defence)
      let hit := hitMonster w.routing r info.objectId damage target w.scene
      { w with
        scene :=
          if hit.1.info.hp = 0 then killMonster data w.routing r attacker hit.1 hit.2 else hit.2 }
  | some (.projectile _) | none => w

/-- `CombatSystem::HandleBowAttack` -/
def handleBowAttack (w : World) (r : RoomRef) (attacker : ObjectId) (pkt : CAttack) : World :=
  let start := (w.scene.players attacker).info.cellPos
  let arrow : Arrow :=
    { info :=
        { ObjectInfo.default with
          objectId := w.idGen
          objectType := .projectile
          dir := pkt.dir
          posX := start.x
          posY := start.y }
      ownerId := (w.scene.players attacker).info.objectId
      expireTick := 0
      waitUntil := 0
      spawned := false }
  { w with scene := addArrow w.routing r arrow w.scene, idGen := w.idGen + 1 }

/-- `forward` of `HandleStaffAttack` -/
def staffForward (dir : Dir) : Vec2Int :=
  if dir = Dir.up then ⟨0, -2⟩
  else if dir = Dir.down then ⟨0, 2⟩
  else if dir = Dir.left then ⟨-2, 0⟩
  else if dir = Dir.right then ⟨2, 0⟩
  else ⟨0, 0⟩

/-- The nine cells in the order of the loops over `dy` and `dx`. -/
def staffCells (center : Vec2Int) : List Vec2Int :=
  [⟨-1, -1⟩, ⟨0, -1⟩, ⟨1, -1⟩, ⟨-1, 0⟩, ⟨0, 0⟩, ⟨1, 0⟩, ⟨-1, 1⟩, ⟨0, 1⟩, ⟨1, 1⟩].map (center + ·)

/-- One cell of a staff attack; the monsters that died so far come with the scene. Half of
a difference of int32 is a float in the code, exact below 2^24. -/
def staffCell (routing : Routing) (r : RoomRef) (attacker : ObjectInfo)
    (now : List Monster × Scene) (cell : Vec2Int) : List Monster × Scene :=
  match monsterAt now.2 r cell with
  | none => now
  | some target =>
      let damage := max 1 ((attacker.attack - target.info.defence).tdiv 2)
      let hit := hitMonster routing r attacker.objectId damage target now.2
      (if hit.1.info.hp = 0 then now.1 ++ [hit.1] else now.1, hit.2)

/-- `CombatSystem::HandleStaffAttack` -/
def handleStaffAttack (routing : Routing) (r : RoomRef) (attacker : ObjectId) (pkt : CAttack)
    (scene : Scene) : Scene :=
  let info := (scene.players attacker).info
  let hit := (staffCells (info.cellPos + staffForward pkt.dir)).foldl (staffCell routing r info)
    ([], scene)
  hit.1.foldl (fun scene m => killMonster data routing r attacker m scene) hit.2

/-- `GameRoom::Handle_C_Attack` with `CombatSystem::HandleAttack`. -/
def handleCAttack (w : World) (r : RoomRef) (s : SessionId) (pkt : CAttack) : World :=
  match lockPlayer w.routing w.scene [] s with
  | none => w
  | some attacker =>
      let id := (w.scene.players attacker).info.objectId
      let w := w.onScene (broadcast w.routing r (.attack id pkt.dir pkt.weaponType))
      if pkt.weaponType = WeaponType.sword then handleSwordAttack data w r attacker
      else if pkt.weaponType = WeaponType.bow then handleBowAttack w r attacker pkt
      else if pkt.weaponType = WeaponType.staff then
        w.onScene (handleStaffAttack data w.routing r attacker pkt)
      else w

/-- `GameRoomManager::GetStaticRoom` -/
def Routing.staticRoom (routing : Routing) (field : FieldId) (channel : Int) : Option RoomRef :=
  (routing.staticRooms.find? (·.1 = (field, channel))).map (·.2)

def Routing.addRoom (routing : Routing) (room : Room) : Routing :=
  { routing.setRoom routing.roomCount room with roomCount := routing.roomCount + 1 }

def Routing.openDungeon (routing : Routing) : Routing :=
  { routing.addRoom (Room.create .dungeon 0 routing.instanceIdGen) with
    instanceIdGen := routing.instanceIdGen + 1
    dungeonInstances :=
      routing.dungeonInstances ++ [(routing.instanceIdGen, routing.roomCount)] }

/-- `GameRoomManager::CreateDungeonInstance`: the new instance's id, its room and the
world after it. -/
def World.createDungeonInstance (w : World) : InstanceId × RoomRef × World :=
  let r := w.routing.roomCount
  let routing := w.routing.openDungeon
  let made := initFromConfig data routing r .dungeonForest (w.scene.setField r .empty) w.idGen
  (w.routing.instanceIdGen, r, { routing, scene := made.1, idGen := made.2 })

def changeMapRefused (pkt : CChangeMap) : ServerPacket := .changeMap false pkt.mapId pkt.channel 0

/-- A player leaves `from`, and its `EnterRoom` waits in `dest`. -/
def World.moveOver (w : World) (held : List ObjectId) (source dest : RoomRef) (pkt : CChangeMap)
    (instanceId : InstanceId) (s : SessionId) (player : ObjectId) : World :=
  let w := w.sendTo s (.changeMap true pkt.mapId pkt.channel instanceId)
  let w := w.leaveRoom held source s
  { w with routing := w.routing.pushJob dest (.enterRoom s player) }

/-- `toMove`: the party's members among the players of the room, with their sessions. -/
def partyToMove (routing : Routing) (r : RoomRef) (party : Party) :
    List (SessionId × ObjectId) :=
  party.memberIds.filterMap fun memberId =>
    if memberId ∈ playerIds routing r then
      (routing.playerSession memberId).map fun s => (s, memberId)
    else none

/-- The end of `Handle_C_ChangeMap`, with the room to go to: a leader who enters a dungeon
takes the party along, everybody else goes alone. -/
def World.changeMapTo (w : World) (source dest : RoomRef) (s : SessionId) (requester : ObjectId)
    (pkt : CChangeMap) (instanceId : InstanceId) : World :=
  let party :=
    if pkt.mapId = MapId.dungeon ∧ w.routing.parties.isLeader requester then
      w.routing.parties.parties (w.routing.parties.partyIdByPlayer requester)
    else none
  match party with
  | some party =>
      let toMove := partyToMove w.routing source party
      let held := requester :: toMove.map (·.2)
      toMove.foldl (fun w member =>
        w.moveOver held source dest pkt instanceId member.1 member.2) w
  | none => w.moveOver [requester] source dest pkt instanceId s requester

/-- `GameRoom::Handle_C_ChangeMap` -/
def handleCChangeMap (w : World) (r : RoomRef) (s : SessionId) (pkt : CChangeMap) : World :=
  match lockPlayer w.routing w.scene [] s with
  | none => w
  | some requester =>
      let refused := w.sendTo s (changeMapRefused pkt)
      if pkt.mapId = MapId.town then
        match w.routing.staticRoom .town pkt.channel with
        | some dest => w.changeMapTo r dest s requester pkt 0
        | none => refused
      else if pkt.mapId = MapId.dungeon then
        if w.routing.parties.isInParty requester && !w.routing.parties.isLeader requester then
          refused
        else
          let (instanceId, dest, w) := w.createDungeonInstance data
          w.changeMapTo r dest s requester pkt instanceId
      else refused

end ZeldaServer
