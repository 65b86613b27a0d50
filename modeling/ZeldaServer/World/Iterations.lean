import ZeldaServer.Lib.Iterators
import ZeldaServer.World.Confinement
import ZeldaServer.World.Flights
import ZeldaServer.World.Rosters

/-! The loops of a room over its containers, with every change of a container that the calls
in their bodies make. A session whose `Send` fails is disconnected on the spot. -/

namespace ZeldaServer

open Iterators (Op Code Memory Loops Runs op each eachAhead drain)

variable (data : GameData)

inductive Container where
  | players (r : RoomRef)
  | monsters (r : RoomRef)
  | projectiles (r : RoomRef)
  | respawnQueue (r : RoomRef)
  | deadTargets
  /-- `GSessionManager._sessions` -/
  | sessions
  /-- `Service::_sessions` -/
  | connections
  | memberIds (partyId : PartyId)
  | jobs (r : RoomRef)
  deriving DecidableEq

inductive Entry where
  | player (id : ObjectId)
  | monster (id : ObjectId)
  | projectile (id : ObjectId)
  | request (request : RespawnRequest)
  | session (s : SessionId)
  | job (job : Job)
  deriving DecidableEq

abbrev RoomCode := Code Container Entry

/-- What `OnDisconnected` and `ReleaseSession` change, with what the calls of `Send` do by
which the rest of the party is told. -/
def disconnectOps (s : SessionId) (member : Option (PartyId × ObjectId)) (room : Option RoomRef)
    (told : List (Op Container Entry)) : List (Op Container Entry) :=
  .erase .sessions (.session s) ::
    (member.map fun (partyId, id) => Op.erase (.memberIds partyId) (.player id)).toList ++ told ++
    (room.map fun r => Op.insert (.jobs r) (.job (.leaveRoom s))).toList ++
    [.erase .connections (.session s)]

/-- Calls of `Send` in a row: the packet is queued, or the session is disconnected. -/
inductive SendCalls : List SessionId → List (Op Container Entry) → Prop where
  | done : SendCalls [] []
  | queued (s : SessionId) (rest : List SessionId) (ops : List (Op Container Entry))
      (later : SendCalls rest ops) : SendCalls (s :: rest) ops
  | dropped (s : SessionId) (rest party : List SessionId) (member : Option (PartyId × ObjectId))
      (room : Option RoomRef) (told ops : List (Op Container Entry)) (telling : SendCalls party told)
      (later : SendCalls rest ops) : SendCalls (s :: rest) (disconnectOps s member room told ++ ops)

def sendCode (s : Option SessionId) : RoomCode := { ops | SendCalls s.toList ops }

section Room

variable (routing : Routing) (r : RoomRef)

/-- `GameRoom::Broadcast` -/
def broadcastCode : RoomCode :=
  each (.players r) <| (playerIds routing r).map fun id =>
    (.player id, sendCode (routing.playerSession id))

def emitCode (id : ObjectId) : Emission → RoomCode
  | .session _ => sendCode (routing.playerSession id)
  | .room _ =>
      match routing.playerRoom id with
      | some r => broadcastCode routing r
      | none => 1
  | .rank _ _ => 1

def actCode (id : ObjectId) (method : Player → Player × List Emission) (scene : Scene) : RoomCode :=
  ((method (scene.players id)).2.map (emitCode routing id)).prod

def callsCode {State Item : Type} (code : State → Item → RoomCode) (call : State → Item → State) :
    List Item → State → RoomCode
  | [], _ => 1
  | item :: items, state => code state item * callsCode code call items (call state item)

/-- `CombatSystem::DistributeExp` -/
def distributeExpCode (killer : ObjectId) (m : Monster) (scene : Scene) : RoomCode :=
  let gain (share : Int) (scene : Scene) (id : ObjectId) : RoomCode :=
    actCode routing id (Player.gainExp data share) scene
  match data.monsterTemplate m.templateId with
  | none => 1
  | some templateData =>
      if templateData.exp ≤ 0 then 1
      else
        let partyId := routing.parties.partyIdByPlayer killer
        if partyId = 0 then gain templateData.exp scene killer
        else
          match routing.parties.parties partyId with
          | none => gain templateData.exp scene killer
          | some party =>
              let nearby := party.memberIds.filter (· ∈ playerIds routing r)
              let share := max 1 (templateData.exp / nearby.length)
              callsCode (gain share)
                (fun scene id => actPlayer routing id (Player.gainExp data share) scene) nearby scene

/-- `CombatSystem::ProcessMonsterDrop` -/
def processMonsterDropCode (killer : ObjectId) (m : Monster) (scene : Scene) : RoomCode :=
  match data.monsterDrops m.templateId with
  | none => 1
  | some drops =>
      callsCode
        (fun scene drop =>
          let (n, scene) := scene.draw
          if (n % 100 : Int) < drop.dropRate then
            actCode routing killer (fun p => (Player.addItem data drop.itemId 1 p).2) scene
          else 1)
        (fun scene drop =>
          let (n, scene) := scene.draw
          if (n % 100 : Int) < drop.dropRate then
            actPlayer routing killer (fun p => (Player.addItem data drop.itemId 1 p).2) scene
          else scene)
        drops scene

/-- `SpawnSystem::TryReserve` -/
def tryReserveCode (m : Monster) (now : Nat) (field : Field) : RoomCode :=
  match field.config with
  | none => 1
  | some config =>
      if config.monsterSpawnEnabled then
        op (.insert (.respawnQueue r) (.request
          { due := now + config.respawnTimeMs
            homePos := m.homePos
            templateId := m.templateId
            aggroRange := m.aggroRange
            leashRange := m.leashRange }))
      else 1

/-- `RemoveObject` of a monster. -/
def removeMonsterCode (m : Monster) (scene : Scene) : RoomCode :=
  tryReserveCode r m scene.now (scene.fields r) *
    (op (.erase (.monsters r) (.monster m.info.objectId)) * broadcastCode routing r)

/-- `RemoveObject` of an arrow. -/
def removeProjectileCode (id : ObjectId) : RoomCode :=
  op (.erasePassed (.projectiles r) (.projectile id)) * broadcastCode routing r

def killMonsterCode (killer : ObjectId) (m : Monster) (scene : Scene) : RoomCode :=
  distributeExpCode data routing r killer m scene *
    (processMonsterDropCode data routing killer m (distributeExp data routing r killer m scene) *
      removeMonsterCode routing r m
        (processMonsterDrop data routing killer m (distributeExp data routing r killer m scene)))

def monsterGoHomeCode (m : Monster) (scene : Scene) : RoomCode :=
  let scene := scene.setMonster r m
  match pathOf routing r scene m.info.cellPos m.homePos with
  | some (_ :: nextPos :: _) =>
      if canGo routing scene r nextPos then broadcastCode routing r else 1
  | _ => 1

def monsterChaseCode (m : Monster) (target : ObjectId) (scene : Scene) : RoomCode :=
  let scene := scene.setMonster r m
  match pathOf routing r scene m.info.cellPos (scene.players target).info.cellPos with
  | some (_ :: nextPos :: _) =>
      if m.leashRange < ((nextPos - m.homePos).manhattan : Int) then 1
      else if canGo routing scene r nextPos then broadcastCode routing r
      else 1
  | _ => 1

/-- `Monster::UpdateIdle` -/
def monsterUpdateIdleCode (m : Monster) (scene : Scene) : RoomCode :=
  let m := if m.homePos = ⟨-1, -1⟩ then { m with homePos := m.info.cellPos } else m
  let myPos := m.info.cellPos
  if m.leashRange < ((myPos - m.homePos).manhattan : Int) then
    monsterGoHomeCode routing r { m with target := none } scene
  else
    match chooseTarget routing r m scene with
    | none => if myPos ≠ m.homePos then monsterGoHomeCode routing r m scene else 1
    | some target =>
        let m := { m with target := some target }
        let distTarget := ((scene.players target).info.cellPos - myPos).manhattan
        if m.aggroRange < (distTarget : Int) then
          let m := { m with target := none }
          if myPos ≠ m.homePos then monsterGoHomeCode routing r m scene else 1
        else if distTarget = 1 then broadcastCode routing r * broadcastCode routing r
        else monsterChaseCode routing r m target scene

def monsterUpdateCode (scene : Scene) (id : ObjectId) : RoomCode :=
  match (scene.fields r).monster id with
  | none => 1
  | some m =>
      match m.info.state with
      | .idle => monsterUpdateIdleCode routing r m scene
      | .move | .skill => 1

def arrowHitCode (a : Arrow) (target : Monster) (scene : Scene) : RoomCode :=
  (match findObject routing scene r a.ownerId with
    | none => 1
    | some owner =>
        let damage := max 1 ((owner.info scene).attack - target.info.defence)
        let hit := hitMonster routing r (owner.info scene).objectId damage target scene
        broadcastCode routing r *
          if hit.1.info.hp = 0 then
            match owner with
            | .player killer => killMonsterCode data routing r killer hit.1 hit.2
            | _ => removeMonsterCode routing r hit.1 hit.2
          else 1) *
    removeProjectileCode routing r a.info.objectId

/-- `Arrow::UpdateIdle` -/
def arrowUpdateIdleCode (a : Arrow) (scene : Scene) : RoomCode :=
  if scene.now < a.waitUntil then 1
  else
    match deltaXY a.info.dir with
    | none => 1
    | some delta =>
        let nextPos := a.info.cellPos + delta
        if isBlockedByWall scene r nextPos then removeProjectileCode routing r a.info.objectId
        else
          match monsterAt scene r nextPos with
          | some target => arrowHitCode data routing r a target scene
          | none => broadcastCode routing r * (broadcastCode routing r * broadcastCode routing r)

def arrowUpdateCode (scene : Scene) (id : ObjectId) : RoomCode :=
  match (scene.fields r).projectile id with
  | none => 1
  | some fired =>
      let a := arrowStart scene.now fired
      let scene := scene.setProjectile r a
      if !fired.spawned && isBlockedByWall scene r a.info.cellPos then
        removeProjectileCode routing r id
      else if a.expireTick ≤ scene.now then removeProjectileCode routing r id
      else
        match a.info.state with
        | .idle => arrowUpdateIdleCode data routing r a scene
        | .move =>
            if scene.now < a.waitUntil then 1
            else broadcastCode routing r * broadcastCode routing r
        | .skill => broadcastCode routing r

def updatePasses (entry : ObjectId → Entry) (code : Scene → ObjectId → RoomCode)
    (update : Scene → ObjectId → Scene) : List ObjectId → Scene → List (Entry × RoomCode)
  | [], _ => []
  | id :: ids, scene =>
      (entry id, op (.update (entry id)) * code scene id) ::
        updatePasses entry code update ids (update scene id)

/-- The requests of `ProcessRespawn`: those that are due make a monster. -/
def respawnPasses : List RespawnRequest → Scene × ObjectId → List (Entry × Option RoomCode)
  | [], _ => []
  | request :: requests, made =>
      (.request request,
        if made.1.now < request.due then none
        else some (op (.insert (.monsters r) (.monster made.2)) * broadcastCode routing r)) ::
        respawnPasses requests (respawn data routing r made request)

/-- `SpawnSystem::Tick` -/
def spawnTickCode (scene : Scene) (idGen : ObjectId) : RoomCode :=
  let field := scene.fields r
  if shouldSpawn field then
    drain (.respawnQueue r) (respawnPasses data routing r field.respawnQueue
      (scene.setField r { field with respawnQueue := [] }, idGen))
  else 1

/-- `GameRoom::Step` -/
def stepCode (scene : Scene) (idGen : ObjectId) : RoomCode :=
  let ticked := stepPlayers routing r scene
  let ready := stepMonsters routing r ticked
  each (.players r)
      (updatePasses .player (fun scene id => actCode routing id (Player.update scene.now) scene)
        (fun scene id => actPlayer routing id (Player.update scene.now) scene)
        (playerIds routing r) scene) *
    (each (.monsters r)
        (updatePasses .monster (monsterUpdateCode routing r) (monsterUpdate routing r)
          ((ticked.fields r).monsters.map (·.info.objectId)) ticked) *
      (eachAhead (.projectiles r)
          (updatePasses .projectile (arrowUpdateCode data routing r) (arrowUpdate data routing r)
            ((ready.fields r).projectiles.map (·.info.objectId)) ready) *
        spawnTickCode data routing r (stepArrows data routing r ready) idGen))

def staffCellCode (attacker : ObjectInfo) (now : List Monster × Scene) (cell : Vec2Int) : RoomCode :=
  match monsterAt now.2 r cell with
  | none => 1
  | some target =>
      let damage := max 1 ((attacker.attack - target.info.defence).tdiv 2)
      let hit := hitMonster routing r attacker.objectId damage target now.2
      broadcastCode routing r *
        if hit.1.info.hp = 0 then op (.insert .deadTargets (.monster hit.1.info.objectId)) else 1

/-- The passes of the loop over `deadTargets`. -/
def killPasses (killer : ObjectId) : List Monster → Scene → List (Entry × RoomCode)
  | [], _ => []
  | m :: rest, scene =>
      (.monster m.info.objectId, killMonsterCode data routing r killer m scene) ::
        killPasses killer rest (killMonster data routing r killer m scene)

/-- `CombatSystem::HandleStaffAttack` -/
def staffCode (attacker : ObjectId) (pkt : CAttack) (scene : Scene) : RoomCode :=
  let info := (scene.players attacker).info
  let cells := staffCells (info.cellPos + staffForward pkt.dir)
  let hit := cells.foldl (staffCell routing r info) ([], scene)
  callsCode (staffCellCode routing r info) (staffCell routing r info) cells ([], scene) *
    each .deadTargets (killPasses data routing r attacker hit.1 hit.2)

end Room

def Container.Outside : Container → Prop
  | .sessions | .connections | .memberIds _ | .jobs _ => True
  | _ => False

theorem sendCalls_outside {ss : List SessionId} {ops : List (Op Container Entry)} (does : SendCalls ss ops) :
    ∀ o ∈ ops, ∃ c k, c.Outside ∧ (o = .insert c k ∨ o = .erase c k) := by
  induction does with
  | done => exact List.forall_mem_nil _
  | queued s rest ops later ih => exact ih
  | dropped s rest party member room told ops telling later ihTold ihLater =>
      intro o found
      simp only [disconnectOps, List.mem_append, List.mem_cons, Option.mem_toList,
        Option.map_eq_some_iff, List.not_mem_nil, or_false] at found
      rcases found with ((((rfl | ⟨member, -, rfl⟩) | within) | ⟨r, -, rfl⟩) | rfl) | after
      · exact ⟨.sessions, _, trivial, .inr rfl⟩
      · exact ⟨.memberIds _, _, trivial, .inr rfl⟩
      · exact ihTold o within
      · exact ⟨.jobs r, _, trivial, .inl rfl⟩
      · exact ⟨.connections, _, trivial, .inr rfl⟩
      · exact ihLater o after

section Room

variable (routing : Routing) (r : RoomRef)

def Inside (loops : Loops Container) : Prop := ∀ loop ∈ loops, ¬ loop.1.Outside

theorem Inside.cons {loops : Loops Container} (inside : Inside loops) (c : Container) (left : Nat)
    (within : ¬ c.Outside) : Inside ((c, left) :: loops) :=
  List.forall_mem_cons.mpr ⟨within, inside⟩

/-- The code leaves the rooms as they are, whatever loops it is called from. -/
def Quiet (code : RoomCode) : Prop :=
  ∀ loops a, Inside loops →
    (∀ r, a.contents (.players r) = (playerIds routing r).map .player) →
    Runs loops a code (a.Same Container.Outside)

namespace Quiet

variable {routing} {code first second : RoomCode}

theorem one : Quiet routing 1 := fun _ a _ _ => .one (.refl a)

theorem mul (before : Quiet routing first) (behind : Quiet routing second) :
    Quiet routing (first * second) := by
  intro loops a inside players
  apply (before loops a inside players).mul
  intro b same
  apply (behind loops b inside _).weaken
  · exact fun c later => same.trans later
  · intro r
    rw [same.contents (.players r) id, players]

theorem prod (codes : List RoomCode) (all : ∀ code ∈ codes, Quiet routing code) :
    Quiet routing codes.prod := by
  induction codes with
  | nil => exact one
  | cons code codes ih =>
      rw [List.prod_cons]
      exact (all code List.mem_cons_self).mul
        (ih fun code later => all code (List.mem_cons_of_mem _ later))

theorem send (s : Option SessionId) : Quiet routing (sendCode s) := by
  intro loops a inside _
  apply Runs.outside Container.Outside inside
  · cases s with
    | none => exact ⟨[], .done⟩
    | some s => exact ⟨[], .queued s [] [] .done⟩
  · exact fun ops does => sendCalls_outside does

theorem each (r : RoomRef) (body : List (Entry × RoomCode))
    (keys : body.map Prod.fst = (playerIds routing r).map .player)
    (all : ∀ pass ∈ body, Quiet routing pass.2) : Quiet routing (each (.players r) body) := by
  intro loops a inside players
  apply (Runs.each (.players r) body ((players r).trans keys.symm)
    (fun rest b => (∀ pass ∈ rest, Quiet routing pass.2) ∧ a.Same Container.Outside b)
    ⟨all, .refl a⟩ _).weaken
  · exact fun b ends => ends.2
  · rintro k code rest front b ⟨quiet, same⟩ -
    obtain ⟨now, later⟩ := List.forall_mem_cons.mp quiet
    apply (now _ b (inside.cons (.players r) _ id) _).weaken
    · exact fun c next => ⟨⟨later, same.trans next⟩, next.contents (.players r) id⟩
    · intro r'
      rw [same.contents (.players r') id, players]

theorem broadcast (r : RoomRef) : Quiet routing (broadcastCode routing r) := by
  apply each r
  · rw [List.map_map]
    rfl
  · intro pass member
    obtain ⟨id, -, rfl⟩ := List.mem_map.mp member
    exact send _

theorem act (id : ObjectId) (method : Player → Player × List Emission) (scene : Scene) :
    Quiet routing (actCode routing id method scene) := by
  apply prod
  intro code member
  obtain ⟨emission, -, rfl⟩ := List.mem_map.mp member
  cases emission with
  | session pkt => exact send _
  | room pkt =>
      unfold emitCode
      cases routing.playerRoom id with
      | none => exact one
      | some r => exact broadcast r
  | rank name level => exact one

theorem calls {State Item : Type} (code : State → Item → RoomCode) (call : State → Item → State)
    (all : ∀ state item, Quiet routing (code state item)) (items : List Item) (state : State) :
    Quiet routing (callsCode code call items state) := by
  induction items generalizing state with
  | nil => exact one
  | cons item items ih => exact (all state item).mul (ih _)

theorem distributeExp (r : RoomRef) (killer : ObjectId) (m : Monster) (scene : Scene) :
    Quiet routing (distributeExpCode data routing r killer m scene) := by
  unfold distributeExpCode
  dsimp only
  cases data.monsterTemplate m.templateId with
  | none => exact one
  | some templateData =>
      dsimp only
      split
      · exact one
      · split
        · exact act killer _ scene
        · cases routing.parties.parties (routing.parties.partyIdByPlayer killer) with
          | none => exact act killer _ scene
          | some party => exact calls _ _ (fun scene id => act id _ scene) _ scene

theorem processMonsterDrop (killer : ObjectId) (m : Monster) (scene : Scene) :
    Quiet routing (processMonsterDropCode data routing killer m scene) := by
  unfold processMonsterDropCode
  cases data.monsterDrops m.templateId with
  | none => exact one
  | some drops =>
      apply calls
      intro scene drop
      dsimp only
      split
      · exact act killer _ _
      · exact one

theorem goHome (r : RoomRef) (m : Monster) (scene : Scene) :
    Quiet routing (monsterGoHomeCode routing r m scene) := by
  unfold monsterGoHomeCode
  dsimp only
  split
  · split
    · exact broadcast r
    · exact one
  · exact one

theorem chase (r : RoomRef) (m : Monster) (target : ObjectId) (scene : Scene) :
    Quiet routing (monsterChaseCode routing r m target scene) := by
  unfold monsterChaseCode
  dsimp only
  split
  · split
    · exact one
    · split
      · exact broadcast r
      · exact one
  · exact one

theorem monsterUpdateIdle (r : RoomRef) (m : Monster) (scene : Scene) :
    Quiet routing (monsterUpdateIdleCode routing r m scene) := by
  unfold monsterUpdateIdleCode
  dsimp only
  generalize (if m.homePos = ⟨-1, -1⟩ then { m with homePos := m.info.cellPos } else m) = m'
  split
  · exact goHome r _ scene
  · split
    · split
      · exact goHome r _ scene
      · exact one
    · split
      · split
        · exact goHome r _ scene
        · exact one
      · split
        · exact (broadcast r).mul (broadcast r)
        · exact chase r _ _ scene

theorem monsterUpdate (r : RoomRef) (scene : Scene) (id : ObjectId) :
    Quiet routing (monsterUpdateCode routing r scene id) := by
  unfold monsterUpdateCode
  split
  · exact one
  · split
    · exact monsterUpdateIdle r _ scene
    · exact one
    · exact one

end Quiet

structure Scene.SameKeys (a b : Scene) : Prop where
  monsters : ∀ r, (b.fields r).monsters.map (·.info.objectId) =
    (a.fields r).monsters.map (·.info.objectId)
  projectiles : ∀ r, (b.fields r).projectiles.map (·.info.objectId) =
    (a.fields r).projectiles.map (·.info.objectId)
  respawnQueue : ∀ r, (b.fields r).respawnQueue = (a.fields r).respawnQueue

namespace Scene.SameKeys

variable {a b c : Scene}

theorem of_fields (fields : b.fields = a.fields) : a.SameKeys b := by
  constructor <;> intro r <;> rw [fields]

theorem trans (first : a.SameKeys b) (second : b.SameKeys c) : a.SameKeys c where
  monsters := fun r => (second.monsters r).trans (first.monsters r)
  projectiles := fun r => (second.projectiles r).trans (first.projectiles r)
  respawnQueue := fun r => (second.respawnQueue r).trans (first.respawnQueue r)

theorem setField (a : Scene) (r : RoomRef) (field : Field)
    (monsters : field.monsters.map (·.info.objectId) =
      (a.fields r).monsters.map (·.info.objectId))
    (projectiles : field.projectiles.map (·.info.objectId) =
      (a.fields r).projectiles.map (·.info.objectId))
    (respawnQueue : field.respawnQueue = (a.fields r).respawnQueue) :
    a.SameKeys (a.setField r field) := by
  constructor
  all_goals
    intro r'
    rcases setField_cases a r r' field with ⟨rfl, here⟩ | away
  · rw [here, monsters]
  · rw [away]
  · rw [here, projectiles]
  · rw [away]
  · rw [here, respawnQueue]
  · rw [away]

theorem map_keys {Item : Type} (key : Item → ObjectId) (new : Item) (items : List Item) :
    (items.map fun old => if key old = key new then new else old).map key = items.map key := by
  rw [List.map_map]
  apply List.map_congr_left
  intro old _
  dsimp only [Function.comp_apply]
  split
  case isTrue same => exact same.symm
  case isFalse => rfl

theorem setMonster (a : Scene) (r : RoomRef) (m : Monster) : a.SameKeys (a.setMonster r m) :=
  setField a r _ (map_keys (·.info.objectId) m _) rfl rfl

theorem setProjectile (a : Scene) (r : RoomRef) (arrow : Arrow) :
    a.SameKeys (a.setProjectile r arrow) :=
  setField a r _ rfl (map_keys (·.info.objectId) arrow _) rfl

theorem broadcast (pkt : ServerPacket) (first : a.SameKeys b) :
    a.SameKeys (broadcast routing r pkt b) :=
  first.trans (of_fields (Scene.Quiet.broadcast routing r pkt b).fields)

theorem goHome (m : Monster) (scene : Scene) :
    scene.SameKeys (monsterGoHome routing r m scene) := by
  have set := setMonster scene r m
  unfold monsterGoHome
  dsimp only
  split
  · split
    · exact broadcast routing r _ (set.trans (setMonster _ r _))
    · exact set
  · exact set

theorem chase (m : Monster) (target : ObjectId) (scene : Scene) :
    scene.SameKeys (monsterChase routing r m target scene) := by
  have set := setMonster scene r m
  unfold monsterChase
  dsimp only
  split
  · split
    · exact set.trans (setMonster _ r _)
    · split
      · exact broadcast routing r _ (set.trans (setMonster _ r _))
      · exact set
  · exact set

theorem attack (m : Monster) (target : ObjectId) (scene : Scene) :
    scene.SameKeys (monsterAttack routing r m target scene) := by
  unfold monsterAttack
  apply broadcast
  exact (broadcast routing r _ (setMonster scene r _)).trans (of_fields rfl)

theorem monsterUpdate (scene : Scene) (id : ObjectId) :
    scene.SameKeys (monsterUpdate routing r scene id) := by
  have resting (m : Monster) : scene.SameKeys (monsterRest r m scene) := by
    unfold monsterRest
    split
    · exact of_fields rfl
    · exact setMonster scene r _
  unfold ZeldaServer.monsterUpdate
  split
  · exact of_fields rfl
  · split
    · unfold monsterUpdateIdle
      dsimp only
      rename_i m _ _ _
      generalize (if m.homePos = ⟨-1, -1⟩ then { m with homePos := m.info.cellPos } else m) = m'
      split
      · exact goHome routing r _ scene
      · split
        · split
          · exact goHome routing r _ scene
          · exact setMonster scene r _
        · split
          · split
            · exact goHome routing r _ scene
            · exact setMonster scene r _
          · split
            · exact attack routing r _ _ scene
            · exact chase routing r _ _ scene
    · exact resting _
    · exact resting _

end Scene.SameKeys

def Scene.keysOf (scene : Scene) : Container → Option (List Entry)
  | .players r => some ((playerIds routing r).map .player)
  | .monsters r => some (((scene.fields r).monsters.map (·.info.objectId)).map .monster)
  | .projectiles r => some (((scene.fields r).projectiles.map (·.info.objectId)).map .projectile)
  | .respawnQueue r => some ((scene.fields r).respawnQueue.map .request)
  | _ => none

def Scene.Held (scene : Scene) (a : Memory Container Entry) : Prop :=
  ∀ c keys, scene.keysOf routing c = some keys → a.contents c = keys

theorem keysOf_inside (scene : Scene) (c : Container) (keys : List Entry)
    (named : scene.keysOf routing c = some keys) : ¬ c.Outside := by
  cases c <;> first | exact id | cases named

namespace Scene.Held

variable {routing} {scene scene' : Scene} {a b : Memory Container Entry}

theorem players (held : scene.Held routing a) (r : RoomRef) :
    a.contents (.players r) = (playerIds routing r).map .player := held _ _ rfl

theorem of_keysOf (held : scene.Held routing a)
    (same : ∀ c, scene'.keysOf routing c = scene.keysOf routing c) : scene'.Held routing a :=
  fun c keys named => held c keys ((same c).symm.trans named)

theorem keys (held : scene.Held routing a) (same : scene.SameKeys scene') :
    scene'.Held routing a := by
  apply held.of_keysOf
  intro c
  cases c with
  | monsters r => simp only [keysOf, same.monsters]
  | projectiles r => simp only [keysOf, same.projectiles]
  | respawnQueue r => simp only [keysOf, same.respawnQueue]
  | _ => rfl

theorem same (held : scene.Held routing a) (same : a.Same Container.Outside b) :
    scene.Held routing b := fun c keys named =>
  (same.contents c (keysOf_inside routing scene c keys named)).trans (held c keys named)

theorem set (held : scene.Held routing a) (c : Container) (keys : List Entry)
    (own : scene'.keysOf routing c = some keys)
    (others : ∀ d, d ≠ c → scene'.keysOf routing d = scene.keysOf routing d) :
    scene'.Held routing (a.set c keys) := by
  intro d keys' named
  by_cases here : d = c
  · subst here
    rw [Memory.set_contents]
    exact Option.some.inj (own.symm.trans named)
  · rw [Memory.set_other keys d here]
    exact held d keys' ((others d here).symm.trans named)

end Scene.Held

section Keys

variable (scene : Scene)

theorem keysOf_setField (field : Field) (c : Container)
    (monsters : c = .monsters r ∨ field.monsters = (scene.fields r).monsters)
    (projectiles : c = .projectiles r ∨ field.projectiles = (scene.fields r).projectiles)
    (respawnQueue : c = .respawnQueue r ∨ field.respawnQueue = (scene.fields r).respawnQueue)
    (d : Container) (apart : d ≠ c) :
    (scene.setField r field).keysOf routing d = scene.keysOf routing d := by
  cases d with
  | monsters r' =>
      rcases setField_cases scene r r' field with ⟨rfl, here⟩ | away
      · simp only [Scene.keysOf, here, monsters.resolve_left (Ne.symm apart)]
      · simp only [Scene.keysOf, away]
  | projectiles r' =>
      rcases setField_cases scene r r' field with ⟨rfl, here⟩ | away
      · simp only [Scene.keysOf, here, projectiles.resolve_left (Ne.symm apart)]
      · simp only [Scene.keysOf, away]
  | respawnQueue r' =>
      rcases setField_cases scene r r' field with ⟨rfl, here⟩ | away
      · simp only [Scene.keysOf, here, respawnQueue.resolve_left (Ne.symm apart)]
      · simp only [Scene.keysOf, away]
  | _ => rfl

theorem keys_filter {Item : Type} (entry : ObjectId → Entry) (one : Function.Injective entry)
    (key : Item → ObjectId) (items : List Item) (id : ObjectId) :
    ((items.filter (key · ≠ id)).map key).map entry =
      ((items.map key).map entry).filter (· ≠ entry id) := by
  induction items with
  | nil => rfl
  | cons item items ih =>
      have named : entry (key item) = entry id ↔ key item = id := one.eq_iff
      by_cases same : key item = id <;> simp_all

end Keys

def Follows (loops : Loops Container) (code : RoomCode) (scene scene' : Scene) : Prop :=
  ∀ a, scene.Held routing a → Runs loops a code fun b =>
    scene'.Held routing b ∧ b.updated = a.updated ∧
      b.contents .deadTargets = a.contents .deadTargets

namespace Follows

variable {routing} {loops : Loops Container} {code first second : RoomCode}
  {scene scene' : Scene}

theorem quiet (inside : Inside loops) (quiet : Quiet routing code)
    (same : scene.SameKeys scene') : Follows routing loops code scene scene' := by
  intro a held
  apply (quiet loops a inside held.players).weaken
  intro b unchanged
  exact ⟨(held.same unchanged).keys same, unchanged.updated, unchanged.contents _ id⟩

theorem mul {m : Scene} (before : Follows routing loops first scene m)
    (behind : Follows routing loops second m scene') :
    Follows routing loops (first * second) scene scene' := by
  intro a held
  apply (before a held).mul
  rintro b ⟨held', updated, dead⟩
  apply (behind b held').weaken
  rintro c ⟨held'', updated', dead'⟩
  exact ⟨held'', updated'.trans updated, dead'.trans dead⟩

theorem start {m : Scene} (same : scene.SameKeys m) (later : Follows routing loops code m scene') :
    Follows routing loops code scene scene' := fun a held => later a (held.keys same)

theorem insert (c : Container) (k : Entry) (keys : List Entry) (idle : ∀ loop ∈ loops, loop.1 ≠ c)
    (own : scene.keysOf routing c = some keys)
    (added : scene'.keysOf routing c = some (keys ++ [k]))
    (others : ∀ d, d ≠ c → scene'.keysOf routing d = scene.keysOf routing d) :
    Follows routing loops (op (.insert c k)) scene scene' := by
  intro a held
  apply Runs.insert c k idle
  rw [held c keys own]
  refine ⟨held.set c _ added others, rfl, Memory.set_other _ _ ?_⟩
  rintro rfl
  cases own

theorem erase (c : Container) (k : Entry) (keys : List Entry) (idle : ∀ loop ∈ loops, loop.1 ≠ c)
    (own : scene.keysOf routing c = some keys)
    (removed : scene'.keysOf routing c = some (keys.filter (· ≠ k)))
    (others : ∀ d, d ≠ c → scene'.keysOf routing d = scene.keysOf routing d) :
    Follows routing loops (op (.erase c k)) scene scene' := by
  intro a held
  apply Runs.erase c k idle
  rw [held c keys own]
  refine ⟨held.set c _ removed others, rfl, Memory.set_other _ _ ?_⟩
  rintro rfl
  cases own

theorem erasePassed (c : Container) (k : Entry) (keys : List Entry)
    (safe : ∀ a : Memory Container Entry, a.contents c = keys →
      ∀ loop ∈ loops, loop.1 = c → a.JustPassed c loop.2 k)
    (own : scene.keysOf routing c = some keys)
    (removed : scene'.keysOf routing c = some (keys.filter (· ≠ k)))
    (others : ∀ d, d ≠ c → scene'.keysOf routing d = scene.keysOf routing d) :
    Follows routing loops (op (.erasePassed c k)) scene scene' := by
  intro a held
  have contents := held c keys own
  apply Runs.erasePassed c k (safe a contents)
  rw [contents]
  refine ⟨held.set c _ removed others, rfl, Memory.set_other _ _ ?_⟩
  rintro rfl
  cases own

variable {r : RoomRef}

theorem tryReserve (m : Monster) (scene : Scene)
    (idle : ∀ loop ∈ loops, loop.1 ≠ .respawnQueue r) :
    Follows routing loops (tryReserveCode r m scene.now (scene.fields r)) scene
      (scene.setField r (tryReserve m scene.now (scene.fields r))) := by
  have none_done : Follows routing loops 1 scene (scene.setField r (scene.fields r)) := by
    have same : scene.setField r (scene.fields r) = scene := by
      simp [Scene.setField, Function.update_eq_self]
    rw [same]
    exact fun a held => .one ⟨held, rfl, rfl⟩
  unfold tryReserveCode ZeldaServer.tryReserve
  cases (scene.fields r).config with
  | none => exact none_done
  | some config =>
      dsimp only
      split
      · apply insert _ _ _ idle rfl
        · simp [Scene.keysOf, Scene.setField]
        · exact keysOf_setField routing r scene _ _ (.inr rfl) (.inr rfl) (.inl rfl)
      · exact none_done

theorem removeMonster (inside : Inside loops) (m : Monster) (scene : Scene)
    (idle : ∀ loop ∈ loops, loop.1 ≠ .monsters r ∧ loop.1 ≠ .respawnQueue r) :
    Follows routing loops (removeMonsterCode routing r m scene) scene
      (ZeldaServer.removeMonster routing r m scene) := by
  apply (tryReserve m scene fun loop member => (idle loop member).2).mul
  unfold ZeldaServer.removeMonster
  dsimp only
  generalize reserve : ZeldaServer.tryReserve m scene.now (scene.fields r) = field
  have again (field' : Field) :
      scene.setField r field' = (scene.setField r field).setField r field' := by
    simp [Scene.setField, Function.update_idem]
  have stands : (scene.setField r field).fields r = field := by
    simp [Scene.setField]
  rw [again { field with
    monsters := field.monsters.filter (·.info.objectId ≠ m.info.objectId) }]
  apply mul (m := (scene.setField r field).setField r
    { field with monsters := field.monsters.filter (·.info.objectId ≠ m.info.objectId) })
  · apply erase _ _ _ (fun loop member => (idle loop member).1) rfl
    · simp only [Scene.keysOf, Scene.setField, Function.update_self]
      exact congrArg some
        (keys_filter .monster (fun _ _ => Entry.monster.inj) (·.info.objectId) field.monsters _)
    · apply keysOf_setField
      · exact .inl rfl
      · exact .inr (congrArg Field.projectiles stands).symm
      · exact .inr (congrArg Field.respawnQueue stands).symm
  · exact quiet inside (.broadcast r)
      (.of_fields (Scene.Quiet.broadcast routing r _ _).fields)

/-- A loop whose iterator is just behind `id`, and `id` does not come again. -/
def Passed (keys : List ObjectId) (left : Nat) (id : ObjectId) : Prop :=
  ∃ front rest, keys = front ++ id :: rest ∧ id ∉ rest ∧ left = rest.length

theorem passed_justPassed {keys : List ObjectId} {left : Nat} {id : ObjectId}
    (passed : Passed keys left id) (a : Memory Container Entry) (c : Container)
    (contents : a.contents c = keys.map .projectile) : a.JustPassed c left (.projectile id) := by
  obtain ⟨front, rest, rfl, single, rfl⟩ := passed
  have split : a.contents c = (front ++ [id]).map .projectile ++ rest.map .projectile := by
    rw [contents]
    simp
  rw [← List.length_map (f := Entry.projectile)]
  constructor
  · rw [Iterators.passed_append a c _ _ split]
    simp
  · rw [Iterators.ahead_append a c _ _ split]
    simpa using single

theorem removeProjectile (inside : Inside loops) (id : ObjectId) (scene : Scene)
    (safe : ∀ loop ∈ loops, loop.1 = .projectiles r →
      Passed ((scene.fields r).projectiles.map (·.info.objectId)) loop.2 id) :
    Follows routing loops (removeProjectileCode routing r id) scene
      (ZeldaServer.removeProjectile routing r id scene) := by
  unfold ZeldaServer.removeProjectile
  dsimp only
  apply mul (m := scene.setField r { scene.fields r with
    projectiles := (scene.fields r).projectiles.filter (·.info.objectId ≠ id) })
  · apply erasePassed _ _ _ _ rfl
    · simp only [Scene.keysOf, Scene.setField, Function.update_self]
      exact congrArg some
        (keys_filter .projectile (fun _ _ => Entry.projectile.inj) (·.info.objectId)
          (scene.fields r).projectiles id)
    · exact keysOf_setField routing r scene _ _ (.inr rfl) (.inl rfl) (.inr rfl)
    · intro a contents loop member same
      exact passed_justPassed (safe loop member same) a _ contents
  · exact quiet inside (.broadcast r)
      (.of_fields (Scene.Quiet.broadcast routing r _ _).fields)

theorem killMonster (inside : Inside loops) (killer : ObjectId) (m : Monster) (scene : Scene)
    (idle : ∀ loop ∈ loops, loop.1 ≠ .monsters r ∧ loop.1 ≠ .respawnQueue r) :
    Follows routing loops (killMonsterCode data routing r killer m scene) scene
      (ZeldaServer.killMonster data routing r killer m scene) := by
  unfold ZeldaServer.killMonster killMonsterCode
  have rewarded := rewards_fields data routing r killer m scene
  rw [← mul_assoc]
  apply mul _ (removeMonster inside m _ idle)
  apply quiet inside
  · exact (Quiet.distributeExp data r killer m scene).mul
      (Quiet.processMonsterDrop data killer m _)
  · exact .of_fields rewarded

/-- The loops that an arrow may be updated from: those over the arrows have just passed it. -/
structure Clear (loops : Loops Container) (r : RoomRef) (id : ObjectId) (scene : Scene) : Prop where
  inside : Inside loops
  idle : ∀ loop ∈ loops, loop.1 ≠ .monsters r ∧ loop.1 ≠ .respawnQueue r
  passed : ∀ loop ∈ loops, loop.1 = .projectiles r →
    Passed ((scene.fields r).projectiles.map (·.info.objectId)) loop.2 id

variable {id : ObjectId}

theorem Clear.arrows (clear : Clear loops r id scene)
    (same : (scene'.fields r).projectiles.map (·.info.objectId) =
      (scene.fields r).projectiles.map (·.info.objectId)) : Clear loops r id scene' :=
  ⟨clear.inside, clear.idle, fun loop member here => same ▸ clear.passed loop member here⟩

theorem broadcast (inside : Inside loops) (pkt : ServerPacket) (same : scene.SameKeys scene') :
    Follows routing loops (broadcastCode routing r) scene
      (ZeldaServer.broadcast routing r pkt scene') :=
  quiet inside (.broadcast r) (same.broadcast routing r pkt)

theorem arrowHit (a : Arrow) (target : Monster) (scene : Scene)
    (clear : Clear loops r a.info.objectId scene) :
    Follows routing loops (arrowHitCode data routing r a target scene) scene
      (ZeldaServer.arrowHit data routing r a target scene) := by
  unfold arrowHitCode ZeldaServer.arrowHit
  dsimp only
  cases findObject routing scene r a.ownerId with
  | none =>
      rw [one_mul]
      exact removeProjectile clear.inside _ scene clear.passed
  | some owner =>
      dsimp only
      generalize max 1 ((owner.info scene).attack - target.info.defence) = damage
      have hurt : scene.SameKeys
          (hitMonster routing r (owner.info scene).objectId damage target scene).2 :=
        (Scene.SameKeys.setMonster scene r _).broadcast routing r _
      have told : Follows routing loops (broadcastCode routing r) scene
          (hitMonster routing r (owner.info scene).objectId damage target scene).2 :=
        quiet clear.inside (.broadcast r) hurt
      generalize hitMonster routing r (owner.info scene).objectId damage target scene = hit
        at hurt told
      have clear' := clear.arrows (hurt.projectiles r)
      split
      case isFalse =>
        rw [mul_one]
        exact told.mul (removeProjectile clear.inside _ hit.2 clear'.passed)
      case isTrue =>
        rw [mul_assoc]
        apply told.mul
        cases owner with
        | player killer =>
            apply (killMonster data clear.inside killer hit.1 hit.2 clear.idle).mul
            apply removeProjectile clear.inside
            rw [killMonster_projectiles]
            exact clear'.passed
        | monster m =>
            apply (removeMonster clear.inside hit.1 hit.2 clear.idle).mul
            apply removeProjectile clear.inside
            rw [removeMonster_projectiles]
            exact clear'.passed
        | projectile other =>
            apply (removeMonster clear.inside hit.1 hit.2 clear.idle).mul
            apply removeProjectile clear.inside
            rw [removeMonster_projectiles]
            exact clear'.passed

theorem arrowUpdateIdle (a : Arrow) (scene : Scene)
    (clear : Clear loops r a.info.objectId scene) :
    Follows routing loops (arrowUpdateIdleCode data routing r a scene) scene
      (ZeldaServer.arrowUpdateIdle data routing r a scene) := by
  unfold arrowUpdateIdleCode ZeldaServer.arrowUpdateIdle
  dsimp only
  split
  · exact quiet clear.inside .one (.of_fields rfl)
  · cases deltaXY a.info.dir with
    | none => exact quiet clear.inside .one (.of_fields rfl)
    | some delta =>
        dsimp only
        split
        · exact removeProjectile clear.inside _ scene clear.passed
        · cases monsterAt scene r (a.info.cellPos + delta) with
          | some target => exact arrowHit data a target scene clear
          | none =>
              dsimp only
              apply (broadcast clear.inside _ (Scene.SameKeys.setProjectile scene r _)).mul
              apply (broadcast clear.inside _ (.of_fields rfl)).mul
              exact broadcast clear.inside _ (.of_fields rfl)

theorem arrowUpdate (scene : Scene) (clear : Clear loops r id scene) :
    Follows routing loops (arrowUpdateCode data routing r scene id) scene
      (ZeldaServer.arrowUpdate data routing r scene id) := by
  unfold arrowUpdateCode ZeldaServer.arrowUpdate
  cases found : (scene.fields r).projectile id with
  | none => exact quiet clear.inside .one (.of_fields rfl)
  | some fired =>
      have named : fired.info.objectId = id := by simpa using List.find?_some found
      have started : (arrowStart scene.now fired).info.objectId = id := by
        rw [(arrowStart_keeps scene.now fired).1, named]
      dsimp only
      generalize arrowStart scene.now fired = a at started
      subst started
      have set := Scene.SameKeys.setProjectile scene r a
      have clear' := clear.arrows (set.projectiles r)
      apply start set
      generalize scene.setProjectile r a = scene' at clear'
      split
      · exact removeProjectile clear.inside _ scene' clear'.passed
      · split
        · exact removeProjectile clear.inside _ scene' clear'.passed
        · cases a.info.state with
          | idle => exact arrowUpdateIdle data a scene' clear'
          | move =>
              dsimp only
              unfold ZeldaServer.arrowUpdateMove
              split
              · exact quiet clear.inside .one (.of_fields rfl)
              · apply (broadcast clear.inside _ (Scene.SameKeys.setProjectile scene' r _)).mul
                exact broadcast clear.inside _ (.of_fields rfl)
          | skill => exact broadcast clear.inside _ (Scene.SameKeys.setProjectile scene' r _)

end Follows

end Room

end ZeldaServer
