import ZeldaServer.World.Cells

/-! What the objects of a room do to each other: rewards, removal, the monsters' and the
arrows' updates, spawning. None of it changes who is in a room: the routing is only read. -/

namespace ZeldaServer

section Room

variable (data : GameData) (routing : Routing) (r : RoomRef)

def Scene.setMonster (scene : Scene) (m : Monster) : Scene :=
  let field := scene.fields r
  scene.setField r
    { field with
      monsters := field.monsters.map fun old =>
        if old.info.objectId = m.info.objectId then m else old }

def Scene.setProjectile (scene : Scene) (a : Arrow) : Scene :=
  let field := scene.fields r
  scene.setField r
    { field with
      projectiles := field.projectiles.map fun old =>
        if old.info.objectId = a.info.objectId then a else old }

def Scene.hurtPlayer (scene : Scene) (id : ObjectId) (damage : Int) : Scene :=
  scene.setPlayer id ((scene.players id).onDamaged damage)

/-- `CombatSystem::DistributeExp` -/
def distributeExp (killer : ObjectId) (m : Monster) (scene : Scene) : Scene :=
  let gain (share : Int) (scene : Scene) (id : ObjectId) : Scene :=
    actPlayer routing id (Player.gainExp data share) scene
  match data.monsterTemplate m.templateId with
  | none => scene
  | some templateData =>
      if templateData.exp ≤ 0 then scene
      else
        let partyId := routing.parties.partyIdByPlayer killer
        if partyId = 0 then gain templateData.exp scene killer
        else
          match routing.parties.parties partyId with
          | none => gain templateData.exp scene killer
          | some party =>
              let nearby := party.memberIds.filter (· ∈ playerIds routing r)
              let share := max 1 (templateData.exp / nearby.length)
              nearby.foldl (gain share) scene

/-- `CombatSystem::ProcessMonsterDrop` -/
def processMonsterDrop (killer : ObjectId) (m : Monster) (scene : Scene) : Scene :=
  match data.monsterDrops m.templateId with
  | none => scene
  | some drops =>
      drops.foldl (fun scene drop =>
        let (n, scene) := scene.draw
        if (n % 100 : Int) < drop.dropRate then
          actPlayer routing killer (fun p => (Player.addItem data drop.itemId 1 p).2) scene
        else scene) scene

/-! ### Removal

Ids come from one generator, so that the object `RemoveObject(id)` finds is the monster or
the arrow the caller took the id from. -/

def shouldSpawn (field : Field) : Bool :=
  match field.config with
  | none => false
  | some config => config.monsterSpawnEnabled

/-- `SpawnSystem::TryReserve` -/
def tryReserve (m : Monster) (now : Nat) (field : Field) : Field :=
  match field.config with
  | none => field
  | some config =>
      if config.monsterSpawnEnabled then
        { field with
          respawnQueue := field.respawnQueue ++
            [{ due := now + config.respawnTimeMs
               homePos := m.homePos
               templateId := m.templateId
               aggroRange := m.aggroRange
               leashRange := m.leashRange }] }
      else field

/-- `RemoveObject` of a monster. -/
def removeMonster (m : Monster) (scene : Scene) : Scene :=
  let field := tryReserve m scene.now (scene.fields r)
  broadcast routing r (.removeObject [m.info.objectId]) <|
    scene.setField r
      { field with
        monsters := field.monsters.filter (·.info.objectId ≠ m.info.objectId) }

/-- `RemoveObject` of an arrow. -/
def removeProjectile (id : ObjectId) (scene : Scene) : Scene :=
  let field := scene.fields r
  broadcast routing r (.removeObject [id]) <|
    scene.setField r
      { field with projectiles := field.projectiles.filter (·.info.objectId ≠ id) }

def damaged (attackerId : ObjectId) (target : ObjectInfo) (damage : Int) : ServerPacket :=
  .damaged attackerId target.objectId target.hp damage

/-- A monster is hit by `attacker`: `OnDamaged` and the broadcast; the monster after it. -/
def hitMonster (attackerId : ObjectId) (damage : Int) (m : Monster) (scene : Scene) :
    Monster × Scene :=
  let m := { m with info := m.info.onDamaged damage }
  (m, broadcast routing r (damaged attackerId m.info damage) (scene.setMonster r m))

def killMonster (killer : ObjectId) (m : Monster) (scene : Scene) : Scene :=
  removeMonster routing r m
    (processMonsterDrop data routing killer m (distributeExp data routing r killer m scene))

/-- `SetDir(GetLookAtDir(pos)); SetCellPos(pos); _waitUntil = ..; SetState(MOVE, true)` of
an idle monster. -/
def monsterGo (m : Monster) (nextPos : Vec2Int) (waitUntil : Nat) (scene : Scene) : Scene :=
  let info := ({ m.info with dir := m.info.lookAtDir nextPos } : ObjectInfo).setCellPos nextPos
  let m := { m with info := { info with state := .move }, waitUntil }
  broadcast routing r (.move m.info) (scene.setMonster r m)

def pathOf (scene : Scene) (src dest : Vec2Int) : Option (List Vec2Int) :=
  findPath (canGo routing scene r) src dest 20

/-- One cell back to `_homePos`. -/
def monsterGoHome (m : Monster) (scene : Scene) : Scene :=
  let scene := scene.setMonster r m
  match pathOf routing r scene m.info.cellPos m.homePos with
  | some (_ :: nextPos :: _) =>
      if canGo routing scene r nextPos then monsterGo routing r m nextPos (scene.now + 300) scene
      else scene
  | _ => scene

/-- `FindClosestPlayer`, and whether the monster turns from its target to it. -/
def chooseTarget (m : Monster) (scene : Scene) : Option ObjectId :=
  let target := m.target.filter (playerAlive routing scene [])
  let distance (id : ObjectId) : Nat := ((scene.players id).info.cellPos - m.info.cellPos).manhattan
  match findClosestPlayer routing scene r m.info.cellPos, target with
  | none, target => target
  | some nearest, none => some nearest
  | some nearest, some target =>
      if distance nearest + 1 < distance target then some nearest else some target

def monsterAttack (m : Monster) (target : ObjectId) (scene : Scene) : Scene :=
  let info := { m.info with dir := m.info.lookAtDir (scene.players target).info.cellPos }
  let m := { m with info := { info with state := .skill }, waitUntil := scene.now + 1000 }
  let scene := broadcast routing r (.move m.info) (scene.setMonster r m)
  let damage := max 1 (m.info.attack - (scene.players target).info.defence)
  let scene := scene.hurtPlayer target damage
  broadcast routing r (damaged m.info.objectId (scene.players target).info damage) scene

def monsterChase (m : Monster) (target : ObjectId) (scene : Scene) : Scene :=
  let scene := scene.setMonster r m
  match pathOf routing r scene m.info.cellPos (scene.players target).info.cellPos with
  | some (_ :: nextPos :: _) =>
      if m.leashRange < ((nextPos - m.homePos).manhattan : Int) then
        scene.setMonster r { m with target := none }
      else if canGo routing scene r nextPos then
        monsterGo routing r m nextPos (scene.now + 1000) scene
      else scene
  | _ => scene

/-- `Monster::UpdateIdle` -/
def monsterUpdateIdle (m : Monster) (scene : Scene) : Scene :=
  let m := if m.homePos = ⟨-1, -1⟩ then { m with homePos := m.info.cellPos } else m
  let myPos := m.info.cellPos
  if m.leashRange < ((myPos - m.homePos).manhattan : Int) then
    monsterGoHome routing r { m with target := none } scene
  else
    match chooseTarget routing r m scene with
    | none =>
        if myPos ≠ m.homePos then monsterGoHome routing r m scene else scene.setMonster r m
    | some target =>
        let m := { m with target := some target }
        let distTarget := ((scene.players target).info.cellPos - myPos).manhattan
        if m.aggroRange < (distTarget : Int) then
          let m := { m with target := none }
          if myPos ≠ m.homePos then monsterGoHome routing r m scene else scene.setMonster r m
        else if distTarget = 1 then monsterAttack routing r m target scene
        else monsterChase routing r m target scene

/-- `Monster::UpdateMove` and `Monster::UpdateSkill` -/
def monsterRest (m : Monster) (scene : Scene) : Scene :=
  if scene.now < m.waitUntil then scene
  else scene.setMonster r { m with info := { m.info with state := .idle } }

def monsterUpdate (scene : Scene) (id : ObjectId) : Scene :=
  match (scene.fields r).monster id with
  | none => scene
  | some m =>
      match m.info.state with
      | .idle => monsterUpdateIdle routing r m scene
      | .move | .skill => monsterRest r m scene

def moveIntervalMs : Nat := 80

def lifeTimeMs : Nat := 1500

/-- `deltaXY[info.dir()]` -/
def deltaXY (dir : Dir) : Option Vec2Int :=
  if dir = 0 then some ⟨0, -1⟩
  else if dir = 1 then some ⟨0, 1⟩
  else if dir = 2 then some ⟨-1, 0⟩
  else if dir = 3 then some ⟨1, 0⟩
  else none

def ObjectRef.info (scene : Scene) : ObjectRef → ObjectInfo
  | .player id => (scene.players id).info
  | .monster m => m.info
  | .projectile a => a.info

/-- The arrow meets a monster: the owner, where the room still has it, hits. -/
def arrowHit (a : Arrow) (target : Monster) (scene : Scene) : Scene :=
  let scene :=
    match findObject routing scene r a.ownerId with
    | none => scene
    | some owner =>
        let damage := max 1 ((owner.info scene).attack - target.info.defence)
        let hit := hitMonster routing r (owner.info scene).objectId damage target scene
        if hit.1.info.hp = 0 then
          match owner with
          | .player killer => killMonster data routing r killer hit.1 hit.2
          | _ => removeMonster routing r hit.1 hit.2
        else hit.2
  removeProjectile routing r a.info.objectId scene

/-- `Arrow::UpdateIdle` -/
def arrowUpdateIdle (a : Arrow) (scene : Scene) : Scene :=
  if scene.now < a.waitUntil then scene
  else
    match deltaXY a.info.dir with
    | none => scene.fail .outOfBounds
    | some delta =>
        let nextPos := a.info.cellPos + delta
        if isBlockedByWall scene r nextPos then removeProjectile routing r a.info.objectId scene
        else
          match monsterAt scene r nextPos with
          | some target => arrowHit data routing r a target scene
          | none =>
              let standing := a.info.setCellPos nextPos
              let info := { standing with state := .move }
              let scene :=
                scene.setProjectile r { a with info, waitUntil := scene.now + moveIntervalMs }
              -- `SetCellPos`, `SetState` and the call behind them broadcast each
              broadcast routing r (.move info) <| broadcast routing r (.move info) <|
                broadcast routing r (.move standing) scene

/-- `Arrow::UpdateMove` -/
def arrowUpdateMove (a : Arrow) (scene : Scene) : Scene :=
  if scene.now < a.waitUntil then scene
  else
    let info := { a.info with state := .idle }
    broadcast routing r (.move info) <| broadcast routing r (.move info) <|
      scene.setProjectile r { a with info }

def arrowStart (now : Nat) (a : Arrow) : Arrow :=
  if a.spawned then a
  else { a with spawned := true, expireTick := now + lifeTimeMs, waitUntil := now }

def arrowUpdate (scene : Scene) (id : ObjectId) : Scene :=
  match (scene.fields r).projectile id with
  | none => scene
  | some fired =>
      let a := arrowStart scene.now fired
      let scene := scene.setProjectile r a
      if !fired.spawned && isBlockedByWall scene r a.info.cellPos then
        removeProjectile routing r id scene
      else if a.expireTick ≤ scene.now then removeProjectile routing r id scene
      else
        match a.info.state with
        | .idle => arrowUpdateIdle data routing r a scene
        | .move => arrowUpdateMove routing r a scene
        | .skill =>
            let info := { a.info with state := .idle }
            broadcast routing r (.move info) (scene.setProjectile r { a with info })

/-! ### Spawning

The functions that create objects return the scene and the id generator. -/

/-- `GetRandomEmptyCellPos`: it draws cells until one is free. -/
def randomEmptyCellPos (scene : Scene) : Nat → Vec2Int × Scene
  | 0 => (⟨-1, -1⟩, scene.fail .unfinished)
  | draws + 1 =>
      let size := (scene.fields r).tilemap.mapSize
      if size.x = 0 ∨ size.y = 0 then (⟨-1, -1⟩, scene.fail .divisionByZero)
      else
        let (x, afterX) := scene.draw
        let (y, afterY) := afterX.draw
        let cellPos : Vec2Int := ⟨(x : Int).tmod size.x, (y : Int).tmod size.y⟩
        if canGo routing afterY r cellPos then (cellPos, afterY)
        else randomEmptyCellPos afterY draws

/-- `AddObject` of a monster. -/
def addMonster (m : Monster) (scene : Scene) : Scene :=
  let field := scene.fields r
  broadcast routing r (.addObject ⟨[m.info]⟩)
    (scene.setField r { field with monsters := field.monsters ++ [m] })

def addArrow (a : Arrow) (scene : Scene) : Scene :=
  let field := scene.fields r
  broadcast routing r (.addObject ⟨[a.info]⟩)
    (scene.setField r { field with projectiles := field.projectiles ++ [a] })

def monsterName : Bytes := "MonsterName".toUTF8.toList

/-- `GameObject::CreateMonster` and the setters behind it, with the template's values
where there is a template. -/
def createMonster (id : ObjectId) (pos : Vec2Int) (aggroRange leashRange templateId : Int) :
    Monster :=
  let stats := (data.monsterTemplate templateId).getD
    { name := monsterName, maxHp := 50, attack := 7, defence := 0, exp := 0 }
  { info :=
      { ObjectInfo.default with
        objectId := id
        objectType := .monster
        name := stats.name
        hp := stats.maxHp
        maxHp := stats.maxHp
        attack := stats.attack
        defence := stats.defence
        posX := pos.x
        posY := pos.y
        extra := some (.monster templateId) }
    homePos := pos
    aggroRange
    leashRange
    templateId
    waitUntil := 0
    target := none }

def spawnAt (pos : Vec2Int) (aggroRange leashRange templateId : Int) (made : Scene × ObjectId) :
    Scene × ObjectId :=
  let scene := made.1
  let (cell, scene) :=
    if canGo routing scene r pos then (pos, scene)
    else randomEmptyCellPos routing r scene (scene.rand.length + 1)
  (addMonster routing r (createMonster data made.2 cell aggroRange leashRange templateId) scene,
    made.2 + 1)

/-- The loop over `i` of one entry: as many of the offsets left as the entry counts. -/
def spawnEntry (anchor : Vec2Int) (entry : MonsterInfo)
    (made : (Scene × ObjectId) × List Vec2Int) : (Scene × ObjectId) × List Vec2Int :=
  match data.monsterTemplate entry.templateId with
  | none => made
  | some _ =>
      let used := made.2.take entry.count.toNat
      (used.foldl (fun now offset =>
        spawnAt data routing r (anchor + offset) entry.aggroRange entry.leashRange entry.templateId
          now) made.1,
        made.2.drop entry.count.toNat)

def spawnGroup (made : Scene × ObjectId) (group : MonsterSpawnData) : Scene × ObjectId :=
  (group.monsters.foldl (fun now entry => spawnEntry data routing r group.anchor entry now)
    (made, group.offsets)).1

/-- `GameRoom::InitFromConfig` with `SpawnSystem::Init`. -/
def initFromConfig (roomId : RoomName) (scene : Scene) (idGen : ObjectId) : Scene × ObjectId :=
  match data.roomConfig roomId with
  | none => (scene, idGen)
  | some config =>
      let scene := scene.setField r
        { scene.fields r with tilemap := config.tilemap, config := some config }
      match data.spawnConfig roomId with
      | none => (scene, idGen)
      | some spawnConfig =>
          if config.monsterSpawnEnabled then
            spawnConfig.spawns.foldl (spawnGroup data routing r) (scene, idGen)
          else (scene, idGen)

/-- One request of `ProcessRespawn`; a request that is not due stays in the queue. -/
def respawn (made : Scene × ObjectId) (request : RespawnRequest) : Scene × ObjectId :=
  let scene := made.1
  if scene.now < request.due then
    let field := scene.fields r
    (scene.setField r { field with respawnQueue := field.respawnQueue ++ [request] }, made.2)
  else
    spawnAt data routing r request.homePos request.aggroRange request.leashRange
      request.templateId made

/-- `SpawnSystem::Tick` -/
def spawnTick (scene : Scene) (idGen : ObjectId) : Scene × ObjectId :=
  let field := scene.fields r
  if shouldSpawn field then
    field.respawnQueue.foldl (respawn data routing r)
      (scene.setField r { field with respawnQueue := [] }, idGen)
  else (scene, idGen)

/-- `GameRoom::Step`; its argument only counts the time, the objects read the clock. -/
def gameStep (scene : Scene) (idGen : ObjectId) : Scene × ObjectId :=
  let scene := (playerIds routing r).foldl (fun scene id =>
    actPlayer routing id (Player.update scene.now) scene) scene
  let scene := ((scene.fields r).monsters.map (·.info.objectId)).foldl
    (monsterUpdate routing r) scene
  let scene := ((scene.fields r).projectiles.map (·.info.objectId)).foldl
    (arrowUpdate data routing r) scene
  spawnTick data routing r scene idGen

end Room

end ZeldaServer
