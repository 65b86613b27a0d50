import ZeldaServer.World.Births
import ZeldaServer.World.Turns

/-! What the server tells: the packets a client keeps its player and its party by, and the
presence keys in Redis. All other output leaves both alone. -/

namespace ZeldaServer

variable (data : GameData)

def ServerPacket.isNews : ServerPacket → Bool
  | .myPlayer _ | .changeMap _ _ _ _ | .partyUpdate _ | .partyLeave => true
  | _ => false

/-- The commands on the keys `player:loc:{name}`. -/
def RedisCommand.isLocation : RedisCommand → Bool
  | .setLocation _ | .delLocation _ => true
  | .rankLevel _ _ => false

def Emission.isNews : Emission → Bool
  | .session pkt | .room pkt => pkt.isNews
  | .rank _ _ => false

def Scene.news (scene : Scene) : List (SessionId × ServerPacket) :=
  scene.sent.filter (·.2.isNews)

def Scene.locations (scene : Scene) : List RedisCommand :=
  scene.redis.filter RedisCommand.isLocation

/-- From `a` to `b` this news is sent, and no presence key is touched. -/
structure Scene.Tells (a : Scene) (news : List (SessionId × ServerPacket)) (b : Scene) : Prop where
  news : b.news = a.news ++ news
  locations : b.locations = a.locations
  redisConnected : b.redisConnected = a.redisConnected

namespace Scene.Tells

theorem of_same {a b : Scene} (sent : b.sent = a.sent) (redis : b.redis = a.redis)
    (redisConnected : b.redisConnected = a.redisConnected) : a.Tells [] b := by
  refine ⟨?_, ?_, redisConnected⟩
  · rw [List.append_nil, Scene.news, Scene.news, sent]
  · rw [Scene.locations, Scene.locations, redis]

theorem refl (scene : Scene) : scene.Tells [] scene := of_same rfl rfl rfl

theorem trans {a b c : Scene} {front back : List (SessionId × ServerPacket)}
    (first : a.Tells front b) (second : b.Tells back c) : a.Tells (front ++ back) c where
  news := by rw [second.news, first.news, List.append_assoc]
  locations := second.locations.trans first.locations
  redisConnected := second.redisConnected.trans first.redisConnected

theorem after {a b c : Scene} {news : List (SessionId × ServerPacket)} (first : a.Tells [] b)
    (second : b.Tells news c) : a.Tells news c := first.trans second

theorem before {a b c : Scene} {news : List (SessionId × ServerPacket)}
    (first : a.Tells news b) (second : b.Tells [] c) : a.Tells news c := by
  have both := first.trans second
  rwa [List.append_nil] at both

theorem foldl {Item : Type} (f : Scene → Item → Scene)
    (calls : ∀ (scene : Scene) item, scene.Tells [] (f scene item)) (items : List Item)
    (scene : Scene) : scene.Tells [] (items.foldl f scene) := by
  induction items generalizing scene with
  | nil => exact refl scene
  | cons head tail ih => exact (calls scene head).after (ih (f scene head))

theorem send (scene : Scene) (s : SessionId) (pkt : ServerPacket) (news : pkt.isNews = true) :
    scene.Tells [(s, pkt)] (scene.send s pkt) := by
  refine ⟨?_, rfl, rfl⟩
  simp only [Scene.news, Scene.send, List.filter_append, List.filter_singleton, news, cond_true]

theorem sendOther (scene : Scene) (s : SessionId) (pkt : ServerPacket)
    (other : pkt.isNews = false) : scene.Tells [] (scene.send s pkt) := by
  refine ⟨?_, rfl, rfl⟩
  simp only [Scene.news, Scene.send, List.filter_append, List.filter_singleton, other,
    cond_false]

theorem broadcast (routing : Routing) (r : RoomRef) (pkt : ServerPacket)
    (other : pkt.isNews = false) (scene : Scene) :
    scene.Tells [] (broadcast routing r pkt scene) := by
  apply foldl
  intro scene id
  cases routing.playerSession id with
  | none => exact of_same rfl rfl rfl
  | some s => exact sendOther scene s pkt other

theorem sendToPlayer (routing : Routing) (id : ObjectId) (pkt : ServerPacket)
    (other : pkt.isNews = false) (scene : Scene) :
    scene.Tells [] (sendToPlayer routing id pkt scene) := by
  unfold ZeldaServer.sendToPlayer
  cases routing.playerSession id with
  | none => exact refl scene
  | some s => exact sendOther scene s pkt other

theorem rankLevel (scene : Scene) (name : Bytes) (level : Int) :
    scene.Tells [] (scene.redisCommand (.rankLevel name level)) := by
  unfold Scene.redisCommand
  split
  · refine ⟨(List.append_nil _).symm, ?_, rfl⟩
    simp only [Scene.locations, List.filter_append, List.filter_singleton, RedisCommand.isLocation,
      cond_false, List.append_nil]
  · exact of_same rfl rfl rfl

theorem emit (routing : Routing) (id : ObjectId) (scene : Scene) (emission : Emission)
    (other : emission.isNews = false) : scene.Tells [] (emit routing id scene emission) := by
  cases emission with
  | session pkt => exact sendToPlayer routing id pkt other scene
  | room pkt =>
      unfold ZeldaServer.emit
      cases routing.playerRoom id with
      | none => exact refl scene
      | some r => exact broadcast routing r pkt other scene
  | rank name level => exact rankLevel scene name level

theorem emissions (routing : Routing) (id : ObjectId) (emissions : List Emission)
    (others : ∀ emission ∈ emissions, emission.isNews = false) (scene : Scene) :
    scene.Tells [] (emissions.foldl (ZeldaServer.emit routing id) scene) := by
  induction emissions generalizing scene with
  | nil => exact refl scene
  | cons head tail ih =>
      have first := emit routing id scene head (others head List.mem_cons_self)
      apply first.after
      exact ih (fun emission later => others emission (List.mem_cons_of_mem head later)) _

theorem draw (scene : Scene) : scene.Tells [] scene.draw.2 := by
  unfold Scene.draw
  cases scene.rand <;> exact of_same rfl rfl rfl

theorem actPlayer (routing : Routing) (id : ObjectId) (method : Player → Player × List Emission)
    (others : ∀ p, ∀ emission ∈ (method p).2, emission.isNews = false) (scene : Scene) :
    scene.Tells [] (actPlayer routing id method scene) := by
  have set : scene.Tells [] (scene.setPlayer id (method (scene.players id)).1) :=
    of_same rfl rfl rfl
  exact set.after (emissions routing id _ (others _) _)

end Scene.Tells

namespace Player

theorem levelUps_others (passes : Nat) (p : Player) :
    ∀ emission ∈ (levelUps data passes p).2, emission.isNews = false := by
  induction passes generalizing p with
  | zero => exact List.forall_mem_nil _
  | succ passes ih =>
      unfold levelUps
      split
      · dsimp only
        split
        · exact List.forall_mem_nil _
        · intro emission member
          rcases List.mem_append.mp member with now | later
          · simp only [processLevelUp, List.mem_cons, List.not_mem_nil, or_false] at now
            rcases now with rfl | rfl <;> rfl
          · exact ih _ emission later
      · exact List.forall_mem_nil _

theorem gainExp_others (amount : Int) (p : Player) :
    ∀ emission ∈ (gainExp data amount p).2, emission.isNews = false := by
  unfold gainExp
  split
  · exact List.forall_mem_nil _
  · split
    · exact List.forall_mem_nil _
    · intro emission member
      rcases List.mem_append.mp member with ups | last
      · exact levelUps_others data _ _ emission ups
      · rw [List.mem_singleton.mp last]
        rfl

theorem addItem_others (itemId count : Int) (p : Player) :
    ∀ emission ∈ (addItem data itemId count p).2.2, emission.isNews = false := by
  unfold addItem
  cases data.itemTemplate itemId with
  | none => exact List.forall_mem_nil _
  | some tmpl =>
      dsimp only
      split
      · exact (List.forall_mem_singleton).mpr rfl
      · cases p.findEmptySlot with
        | none => exact List.forall_mem_nil _
        | some i => exact (List.forall_mem_singleton).mpr rfl

theorem update_others (now : Nat) (p : Player) :
    ∀ emission ∈ (update now p).2, emission.isNews = false := by
  unfold update
  split
  · exact (List.forall_mem_singleton).mpr rfl
  · exact List.forall_mem_nil _

theorem equipItem_others (slot : Int) (p : Player) :
    ∀ emission ∈ (equipItem data slot p).2, emission.isNews = false := by
  unfold equipItem
  cases storageSlot slot with
  | none => exact List.forall_mem_nil _
  | some i =>
      dsimp only
      split
      · exact List.forall_mem_nil _
      · cases data.itemTemplate (p.storage i).itemId with
        | none => exact List.forall_mem_nil _
        | some tmpl =>
            dsimp only
            cases EquipSlot.ofItemType tmpl.type with
            | none => exact List.forall_mem_nil _
            | some equip => exact (List.forall_mem_singleton).mpr rfl

theorem unequipItem_others (equipType : Int) (p : Player) :
    ∀ emission ∈ (unequipItem data equipType p).2, emission.isNews = false := by
  unfold unequipItem
  cases EquipSlot.ofEquipType equipType with
  | none => exact List.forall_mem_nil _
  | some equip =>
      dsimp only
      split
      · exact List.forall_mem_nil _
      · cases p.findEmptySlot with
        | none => exact List.forall_mem_nil _
        | some i => exact (List.forall_mem_singleton).mpr rfl

theorem useItem_others (slot : Int) (p : Player) :
    ∀ emission ∈ (useItem data slot p).2, emission.isNews = false := by
  unfold useItem
  cases UseSlot.ofInt slot with
  | none => exact List.forall_mem_nil _
  | some target =>
      dsimp only
      split
      · exact List.forall_mem_nil _
      · cases data.itemTemplate (p.useSlot target).itemId with
        | none => exact List.forall_mem_nil _
        | some tmpl =>
            dsimp only
            split
            · exact List.forall_mem_nil _
            · exact (List.forall_mem_singleton).mpr rfl

end Player

section Room

variable (routing : Routing) (r : RoomRef)

namespace Scene.Tells

theorem setPlayer (id : ObjectId) (p : Player) (scene : Scene) :
    scene.Tells [] (scene.setPlayer id p) := of_same rfl rfl rfl

theorem setField (field : Field) (scene : Scene) : scene.Tells [] (scene.setField r field) :=
  of_same rfl rfl rfl

theorem setMonster (m : Monster) (scene : Scene) : scene.Tells [] (scene.setMonster r m) :=
  of_same rfl rfl rfl

theorem setProjectile (a : Arrow) (scene : Scene) : scene.Tells [] (scene.setProjectile r a) :=
  of_same rfl rfl rfl

theorem gainExp (share : Int) (scene : Scene) (id : ObjectId) :
    scene.Tells [] (ZeldaServer.actPlayer routing id (Player.gainExp data share) scene) :=
  actPlayer routing id _ (Player.gainExp_others data share) scene

theorem distributeExp (killer : ObjectId) (m : Monster) (scene : Scene) :
    scene.Tells [] (distributeExp data routing r killer m scene) := by
  unfold ZeldaServer.distributeExp
  dsimp only
  cases data.monsterTemplate m.templateId with
  | none => exact refl scene
  | some templateData =>
      dsimp only
      split
      · exact refl scene
      · split
        · exact gainExp data routing _ scene killer
        · cases routing.parties.parties (routing.parties.partyIdByPlayer killer) with
          | none => exact gainExp data routing _ scene killer
          | some party => exact foldl _ (gainExp data routing _) _ scene

theorem processMonsterDrop (killer : ObjectId) (m : Monster) (scene : Scene) :
    scene.Tells [] (processMonsterDrop data routing killer m scene) := by
  unfold ZeldaServer.processMonsterDrop
  cases data.monsterDrops m.templateId with
  | none => exact refl scene
  | some drops =>
      apply foldl
      intro scene drop
      dsimp only
      split
      · apply (draw scene).after
        exact actPlayer routing killer _ (Player.addItem_others data drop.itemId 1) _
      · exact draw scene

theorem removeMonster (m : Monster) (scene : Scene) :
    scene.Tells [] (removeMonster routing r m scene) :=
  (setField r _ scene).after (broadcast routing r _ rfl _)

theorem removeProjectile (id : ObjectId) (scene : Scene) :
    scene.Tells [] (removeProjectile routing r id scene) :=
  (setField r _ scene).after (broadcast routing r _ rfl _)

theorem hitMonster (attackerId : ObjectId) (damage : Int) (m : Monster) (scene : Scene) :
    scene.Tells [] (hitMonster routing r attackerId damage m scene).2 :=
  (setMonster r _ scene).after (broadcast routing r _ rfl _)

theorem killMonster (killer : ObjectId) (m : Monster) (scene : Scene) :
    scene.Tells [] (killMonster data routing r killer m scene) := by
  apply (distributeExp data routing r killer m scene).after
  exact (processMonsterDrop data routing killer m _).after (removeMonster routing r m _)

theorem monsterGo (m : Monster) (nextPos : Vec2Int) (waitUntil : Nat) (scene : Scene) :
    scene.Tells [] (monsterGo routing r m nextPos waitUntil scene) :=
  (setMonster r _ scene).after (broadcast routing r _ rfl _)

theorem monsterGoHome (m : Monster) (scene : Scene) :
    scene.Tells [] (monsterGoHome routing r m scene) := by
  have set := setMonster r m scene
  unfold ZeldaServer.monsterGoHome
  dsimp only
  split
  · split
    · exact set.after (monsterGo routing r m _ _ _)
    · exact set
  · exact set

theorem monsterAttack (m : Monster) (target : ObjectId) (scene : Scene) :
    scene.Tells [] (monsterAttack routing r m target scene) := by
  unfold ZeldaServer.monsterAttack
  dsimp only
  apply Tells.after _ (broadcast routing r _ rfl _)
  apply Tells.after _ (setPlayer target _ _)
  apply Tells.after _ (broadcast routing r _ rfl _)
  exact setMonster r _ scene

theorem monsterChase (m : Monster) (target : ObjectId) (scene : Scene) :
    scene.Tells [] (monsterChase routing r m target scene) := by
  have set := setMonster r m scene
  unfold ZeldaServer.monsterChase
  dsimp only
  split
  · split
    · exact set.after (setMonster r _ _)
    · split
      · exact set.after (monsterGo routing r m _ _ _)
      · exact set
  · exact set

theorem monsterUpdateIdle (m : Monster) (scene : Scene) :
    scene.Tells [] (monsterUpdateIdle routing r m scene) := by
  unfold ZeldaServer.monsterUpdateIdle
  dsimp only
  generalize (if m.homePos = ⟨-1, -1⟩ then { m with homePos := m.info.cellPos } else m) = m
  split
  · exact monsterGoHome routing r _ scene
  · cases chooseTarget routing r m scene with
    | none =>
        dsimp only
        split
        · exact monsterGoHome routing r m scene
        · exact setMonster r m scene
    | some target =>
        dsimp only
        split
        · split
          · exact monsterGoHome routing r _ scene
          · exact setMonster r _ scene
        · split
          · exact monsterAttack routing r _ target scene
          · exact monsterChase routing r _ target scene

theorem monsterUpdate (scene : Scene) (id : ObjectId) :
    scene.Tells [] (monsterUpdate routing r scene id) := by
  unfold ZeldaServer.monsterUpdate
  cases (scene.fields r).monster id with
  | none => exact refl scene
  | some m =>
      have rested : scene.Tells [] (monsterRest r m scene) := by
        unfold monsterRest
        split
        · exact refl scene
        · exact setMonster r _ scene
      dsimp only
      cases m.info.state with
      | idle => exact monsterUpdateIdle routing r m scene
      | move => exact rested
      | skill => exact rested

theorem arrowHit (a : Arrow) (target : Monster) (scene : Scene) :
    scene.Tells [] (arrowHit data routing r a target scene) := by
  unfold ZeldaServer.arrowHit
  dsimp only
  apply Tells.after _ (removeProjectile routing r _ _)
  cases findObject routing scene r a.ownerId with
  | none => exact refl scene
  | some owner =>
      have hit := hitMonster routing r (owner.info scene).objectId
        (max 1 ((owner.info scene).attack - target.info.defence)) target scene
      dsimp only
      split
      · cases owner with
        | player killer => exact hit.after (killMonster data routing r killer _ _)
        | monster m => exact hit.after (removeMonster routing r _ _)
        | projectile other => exact hit.after (removeMonster routing r _ _)
      · exact hit

theorem arrowUpdateIdle (a : Arrow) (scene : Scene) :
    scene.Tells [] (arrowUpdateIdle data routing r a scene) := by
  unfold ZeldaServer.arrowUpdateIdle
  split
  · exact refl scene
  · cases deltaXY a.info.dir with
    | none => exact of_same rfl rfl rfl
    | some delta =>
        dsimp only
        split
        · exact removeProjectile routing r _ scene
        · cases monsterAt scene r (a.info.cellPos + delta) with
          | some target => exact arrowHit data routing r a target scene
          | none =>
              dsimp only
              apply Tells.after _ (broadcast routing r _ rfl _)
              apply Tells.after _ (broadcast routing r _ rfl _)
              apply Tells.after _ (broadcast routing r _ rfl _)
              exact setProjectile r _ scene

theorem arrowUpdateMove (a : Arrow) (scene : Scene) :
    scene.Tells [] (arrowUpdateMove routing r a scene) := by
  unfold ZeldaServer.arrowUpdateMove
  split
  · exact refl scene
  · dsimp only
    apply Tells.after _ (broadcast routing r _ rfl _)
    apply Tells.after _ (broadcast routing r _ rfl _)
    exact setProjectile r _ scene

theorem arrowUpdate (scene : Scene) (id : ObjectId) :
    scene.Tells [] (arrowUpdate data routing r scene id) := by
  unfold ZeldaServer.arrowUpdate
  cases (scene.fields r).projectile id with
  | none => exact refl scene
  | some fired =>
      have started := setProjectile r (arrowStart scene.now fired) scene
      dsimp only
      split
      · exact started.after (removeProjectile routing r _ _)
      · split
        · exact started.after (removeProjectile routing r _ _)
        · cases (arrowStart scene.now fired).info.state with
          | idle => exact started.after (arrowUpdateIdle data routing r _ _)
          | move => exact started.after (arrowUpdateMove routing r _ _)
          | skill =>
              apply started.after
              exact (setProjectile r _ _).after (broadcast routing r _ rfl _)

theorem spawning : Scene.Spawning routing r fun a b => a.Tells [] b where
  refl := refl
  trans := after
  draw := draw
  fail := fun _ _ _ => of_same rfl rfl rfl
  field := fun scene field => setField r field scene
  told := fun scene pkt => broadcast routing r (.addObject pkt) rfl scene

theorem gameStep (scene : Scene) (idGen : ObjectId) :
    scene.Tells [] (gameStep data routing r scene idGen).1 := by
  rw [gameStep_eq]
  apply Tells.after _ ((spawning routing r).spawnTick data _ idGen)
  unfold stepObjects
  apply Tells.after _ (foldl _ (arrowUpdate data routing r) _ _)
  apply Tells.after _ (foldl _ (monsterUpdate routing r) _ _)
  apply foldl
  intro scene id
  exact actPlayer routing id _ (Player.update_others scene.now) scene

end Scene.Tells

end Room

def Routing.addressees (a : Routing) (r : RoomRef) (memberIds : List ObjectId) : List SessionId :=
  memberIds.filterMap fun memberId =>
    if memberId ∈ playerIds a r then a.playerSession memberId else none

def toEach (sessions : List SessionId) (pkt : ServerPacket) : List (SessionId × ServerPacket) :=
  sessions.map fun s => (s, pkt)

theorem sendToMembers_tells (r : RoomRef) (memberIds : List ObjectId) (pkt : ServerPacket)
    (news : pkt.isNews = true) (w : World) :
    w.scene.Tells (toEach (w.routing.addressees r memberIds) pkt)
      (sendToMembers r memberIds pkt w).scene := by
  have told (memberIds : List ObjectId) (scene : Scene) :
      scene.Tells (toEach (w.routing.addressees r memberIds) pkt)
        (memberIds.foldl (fun scene memberId =>
          if memberId ∈ playerIds w.routing r then sendToPlayer w.routing memberId pkt scene
          else scene) scene) := by
    induction memberIds generalizing scene with
    | nil => exact .refl scene
    | cons head tail ih =>
        rw [List.foldl_cons, Routing.addressees, List.filterMap_cons]
        by_cases standing : head ∈ playerIds w.routing r
        · rw [if_pos standing, if_pos standing, sendToPlayer]
          cases w.routing.playerSession head with
          | none => exact ih scene
          | some s => exact (Scene.Tells.send scene s pkt news).trans (ih _)
        · rw [if_neg standing, if_neg standing]
          exact ih scene
  exact told memberIds w.scene

theorem leaveRoom_tells (w : World) (held : List ObjectId) (r : RoomRef) (s : SessionId) :
    w.scene.Tells [] (w.leaveRoom held r s).scene := by
  unfold World.leaveRoom
  cases lockPlayer w.routing w.scene held s with
  | none => exact .refl _
  | some id =>
      simp only [World.removeObject]
      split
      · exact Scene.Tells.broadcast (w.routing.erasePlayer r id) r _ rfl w.scene
      · exact .refl _

theorem moveOver_tells (w : World) (held : List ObjectId) (source dest : RoomRef)
    (pkt : CChangeMap) (instanceId : InstanceId) (s : SessionId) (player : ObjectId) :
    w.scene.Tells [(s, .changeMap true pkt.mapId pkt.channel instanceId)]
      (w.moveOver held source dest pkt instanceId s player).scene :=
  (Scene.Tells.send w.scene s (.changeMap true pkt.mapId pkt.channel instanceId) rfl).before
    (leaveRoom_tells (w.sendTo s (.changeMap true pkt.mapId pkt.channel instanceId)) held source s)

theorem moveAll_tells (held : List ObjectId) (source dest : RoomRef) (pkt : CChangeMap)
    (instanceId : InstanceId) (toMove : List (SessionId × ObjectId)) (w : World) :
    w.scene.Tells
      (toEach (toMove.map Prod.fst) (.changeMap true pkt.mapId pkt.channel instanceId))
      (toMove.foldl (fun w member =>
        w.moveOver held source dest pkt instanceId member.1 member.2) w).scene := by
  induction toMove generalizing w with
  | nil => exact .refl _
  | cons head tail ih =>
      exact (moveOver_tells w held source dest pkt instanceId head.1 head.2).trans (ih _)

def movers (w : World) (r : RoomRef) (job : Job) : List (SessionId × ObjectId) :=
  match changesChannel w job with
  | some (_, mover) => [mover]
  | none =>
      match opensDungeon w job with
      | some (s, requester) => goAlong w.routing r s requester
      | none => []

theorem handleCChangeMap_tells (w : World) (r : RoomRef) (s : SessionId) (pkt : CChangeMap)
    (made : r < w.routing.roomCount) :
    (∃ instanceId, w.scene.Tells
      (toEach ((movers w r (.changeMap s pkt)).map Prod.fst)
        (.changeMap true pkt.mapId pkt.channel instanceId))
      (handleCChangeMap data w r s pkt).scene) ∨
    (movers w r (.changeMap s pkt) = [] ∧
      w.scene.Tells [(s, changeMapRefused pkt)] (handleCChangeMap data w r s pkt).scene) := by
  cases handleCChangeMap_cases data w r s pkt with
  | absent unlocked result =>
      have nobody : movers w r (.changeMap s pkt) = [] := by
        simp [movers, changesChannel, opensDungeon, unlocked]
      rw [result, nobody]
      exact .inl ⟨0, .refl _⟩
  | refused requester locked refused result =>
      obtain ⟨unopened, unchanged⟩ := refused_stays w s pkt requester locked refused
      rw [result]
      right
      constructor
      · simp [movers, unopened, unchanged]
      · exact Scene.Tells.send w.scene s (changeMapRefused pkt) rfl
  | town requester locked mapId dest found result =>
      have goes : movers w r (.changeMap s pkt) = [(s, requester)] := by
        rw [movers, changesChannel_found w s pkt requester locked mapId dest found]
      rw [result, goes, changeMapTo_alone w r dest s requester pkt 0 (town_alone pkt mapId _)]
      exact .inl ⟨0, moveOver_tells w [requester] r dest pkt 0 s requester⟩
  | dungeon requester locked mapId free result =>
      have opens := opensDungeon_free w s pkt requester locked mapId free
      have stays : changesChannel w (.changeMap s pkt) = none := by
        simp [changesChannel, locked, mapId, MapId.dungeon, MapId.town]
      have goes : movers w r (.changeMap s pkt) = goAlong w.routing r s requester := by
        rw [movers, stays, opens]
      have opened : w.scene.Tells [] (w.createDungeonInstance data).2.2.scene :=
        (Scene.Tells.setField w.routing.roomCount .empty w.scene).after
          ((Scene.Tells.spawning _ _).initFromConfig data _ _ _)
      obtain ⟨held, -, moved⟩ := changeMapTo_dungeon (w.createDungeonInstance data).2.2 r
        w.routing.roomCount s requester pkt w.routing.instanceIdGen mapId
      rw [createDungeonInstance_routing, goAlong_openDungeon w.routing r made] at moved
      rw [result, goes, moved]
      left
      exact ⟨w.routing.instanceIdGen, opened.after (moveAll_tells held r _ pkt _ _ _)⟩

theorem handleCMove_tells (routing : Routing) (r : RoomRef) (s : SessionId) (pkt : CMove)
    (scene : Scene) : scene.Tells [] (handleCMove routing r s pkt scene) := by
  have shown (id : ObjectId) (p : Player) (pkt : ServerPacket) (other : pkt.isNews = false) :
      scene.Tells [] (broadcast routing r pkt (scene.setPlayer id p)) :=
    (Scene.Tells.setPlayer id p scene).after (.broadcast routing r pkt other _)
  unfold handleCMove
  cases lockPlayer routing scene [] s with
  | none => exact .refl scene
  | some id =>
      dsimp only
      split
      · exact .refl scene
      · split
        · exact .refl scene
        · split
          · exact shown id _ _ rfl
          · split
            · exact shown id _ _ rfl
            · exact shown id _ _ rfl

theorem handleCTurn_tells (routing : Routing) (r : RoomRef) (s : SessionId) (pkt : CTurn)
    (scene : Scene) : scene.Tells [] (handleCTurn routing r s pkt scene) := by
  unfold handleCTurn
  cases lockPlayer routing scene [] s with
  | none => exact .refl scene
  | some id =>
      dsimp only
      split
      · exact .refl scene
      · split
        · exact .refl scene
        · exact (Scene.Tells.setPlayer id _ scene).after (.broadcast routing r _ rfl _)

theorem removePlayer_tells (w : World) (r : RoomRef) (id : ObjectId) :
    w.scene.Tells [] (w.removePlayer r id).scene :=
  Scene.Tells.broadcast (w.routing.erasePlayer r id) r _ rfl w.scene

theorem handleSwordAttack_tells (w : World) (r : RoomRef) (attacker : ObjectId) :
    w.scene.Tells [] (handleSwordAttack data w r attacker).scene := by
  unfold handleSwordAttack
  dsimp only
  cases gameObjectAt w.routing w.scene r (w.scene.players attacker).info.frontCellPos with
  | none => exact .refl _
  | some object =>
      cases object with
      | projectile a => exact .refl _
      | monster target =>
          dsimp only
          have hit := Scene.Tells.hitMonster w.routing r (w.scene.players attacker).info.objectId
            (max 1 ((w.scene.players attacker).info.attack - target.info.defence)) target w.scene
          split
          · exact hit.after (.killMonster data w.routing r attacker _ _)
          · exact hit
      | player target =>
          dsimp only
          have hurt (p : Player) (pkt : ServerPacket) (other : pkt.isNews = false) :
              w.scene.Tells [] (broadcast w.routing r pkt (w.scene.setPlayer target p)) :=
            (Scene.Tells.setPlayer target p w.scene).after (.broadcast w.routing r pkt other _)
          split
          · apply Scene.Tells.after _ (removePlayer_tells _ r target)
            exact hurt _ _ rfl
          · exact hurt _ _ rfl

theorem staffHits_tells (routing : Routing) (r : RoomRef) (attacker : ObjectInfo)
    (cells : List Vec2Int) (now : List Monster × Scene) :
    now.2.Tells [] (cells.foldl (staffCell routing r attacker) now).2 := by
  induction cells generalizing now with
  | nil => exact .refl _
  | cons cell cells ih =>
      apply Scene.Tells.after _ (ih _)
      unfold staffCell
      cases monsterAt now.2 r cell with
      | none => exact .refl _
      | some target => exact .hitMonster routing r _ _ target now.2

theorem handleCAttack_tells (w : World) (r : RoomRef) (s : SessionId) (pkt : CAttack) :
    w.scene.Tells [] (handleCAttack data w r s pkt).scene := by
  unfold handleCAttack
  cases lockPlayer w.routing w.scene [] s with
  | none => exact .refl _
  | some attacker =>
      dsimp only
      have shown := Scene.Tells.broadcast w.routing r
        (.attack (w.scene.players attacker).info.objectId pkt.dir pkt.weaponType) rfl w.scene
      split
      · apply Scene.Tells.after _ (handleSwordAttack_tells data _ r attacker)
        exact shown
      · split
        · apply shown.after
          exact (Scene.Tells.setField r _ _).after (.broadcast w.routing r _ rfl _)
        · split
          · apply shown.after
            unfold World.onScene handleStaffAttack
            dsimp only
            apply (staffHits_tells w.routing r _ _ ([], _)).after
            exact Scene.Tells.foldl _ (fun scene m =>
              .killMonster data w.routing r attacker m scene) _ _
          · exact shown

theorem itemJob_tells (method : Player → Player × List Emission)
    (others : ∀ p, ∀ emission ∈ (method p).2, emission.isNews = false) (w : World)
    (s : SessionId) : w.scene.Tells [] (itemJob method w s).scene := by
  unfold itemJob
  cases lockPlayer w.routing w.scene [] s with
  | none => exact .refl _
  | some id => exact Scene.Tells.actPlayer w.routing id method others w.scene

theorem partyInvite_tells (w : World) (r : RoomRef) (s : SessionId) (targetId : ObjectId) :
    w.scene.Tells [] (partyInvite w r s targetId).scene := by
  unfold partyInvite
  cases lockPlayer w.routing w.scene [] s with
  | none => exact .refl _
  | some inviter =>
      dsimp only
      split
      · exact .refl _
      · split
        · exact .refl _
        · split
          · exact .refl _
          · split
            · exact .refl _
            · cases findPlayer w r targetId with
              | none => exact .refl _
              | some target => exact Scene.Tells.sendToPlayer w.routing target _ rfl w.scene

theorem handlePacket_tells (w : World) (s : SessionId) (pkt : ClientPacket)
    (request : ∀ username, pkt ≠ .login username) :
    w.scene.Tells [] (handlePacket data w s pkt).scene := by
  cases handlePacket_requested data w s pkt request with
  | nothing result =>
      rw [result]
      exact .refl _
  | pushed job r is room result =>
      rw [result]
      exact .refl _
  | chats relay result =>
      rw [result]
      exact .of_same rfl rfl rfl

theorem stepPass_tells (w next : World) (pass : Pass) (e : Event)
    (passed : w.stepPass data pass e = some next) :
    w.scene.Tells [] next.scene ∧ next.routing.sessions = w.routing.sessions := by
  unfold World.stepPass at passed
  split at passed
  case h_1 =>
    split at passed
    · cases passed
      exact ⟨.refl _, rfl⟩
    · cases passed
  case h_2 =>
    split at passed
    · cases passed
      exact ⟨.refl _, rfl⟩
    · cases passed
  case h_3 instanceId =>
    split at passed
    · cases passed
    · split at passed
      · cases passed
        exact ⟨.refl _, rfl⟩
      · cases passed
  case h_4 =>
    split at passed
    · split at passed
      · cases passed
        exact ⟨.setField _ _ _, rfl⟩
      · cases passed
    · cases passed
  case h_5 rand =>
    split at passed
    · split at passed
      · cases passed
        have supplied : w.scene.Tells [] { w.scene with rand } := .of_same rfl rfl rfl
        refine ⟨?_, rfl⟩
        apply Scene.Tells.after _ (.setField _ _ _)
        exact supplied.after (.gameStep data w.routing _ _ w.idGen)
      · cases passed
    · cases passed
  case h_6 =>
    split at passed
    · dsimp only at passed
      split at passed
      · cases passed
      · cases passed
        exact ⟨.setField _ _ _, rfl⟩
    · cases passed
  case h_7 =>
    split at passed
    · cases passed
    · split at passed
      · cases passed
        exact ⟨.refl _, rfl⟩
      · cases passed
  case h_8 => cases passed

theorem step_silent (w next : World) (e : Event) (jobless : ∀ rand, e ≠ .job rand)
    (request : ∀ s username, e ≠ .packet s (.login username))
    (stays : ∀ s, e ≠ .disconnect s) (stepped : w.step data e = some next) :
    w.scene.Tells [] next.scene := by
  obtain ⟨acted, -⟩ := step_act data w next e stepped
  cases e with
  | connect s =>
      simp only [World.act] at acted
      split at acted
      · cases acted
        exact .refl _
      · cases acted
  | packet s pkt =>
      simp only [World.act] at acted
      split at acted
      · cases acted
        apply handlePacket_tells
        intro username same
        exact request s username (by rw [same])
      · cases acted
  | disconnect s => exact absurd rfl (stays s)
  | clock now =>
      simp only [World.act] at acted
      split at acted
      · cases acted
        exact .of_same rfl rfl rfl
      · cases acted
  | update =>
      simp only [World.act] at acted
      split at acted
      · cases acted
      · cases acted
        exact .refl _
  | job rand => exact absurd rfl (jobless rand)
  | visitStatic | loopDungeons | visitDungeon _ | endJobs | step _ | endRoom | endUpdate =>
      simp only [World.act] at acted
      split at acted
      · cases acted
      · exact (stepPass_tells data w next _ _ acted).1

def Connection.after (e : Event) (s : SessionId) (before : Connection) : Connection :=
  if e = .connect s then .connected else if e = .disconnect s then .disconnected else before

theorem Routing.sessions_connection {a : Routing} {s s' : SessionId} {session : GameSession}
    (same : session.connection = (a.sessions s).connection) :
    ((a.setSession s session).sessions s').connection = (a.sessions s').connection := by
  rw [sessions_setSession]
  split
  case isTrue equal => rw [same, equal]
  case isFalse => rfl

theorem handlePacket_connection (w : World) (s s' : SessionId) (pkt : ClientPacket) :
    ((handlePacket data w s pkt).routing.sessions s').connection =
      (w.routing.sessions s').connection := by
  by_cases request : ∃ username, pkt = .login username
  · obtain ⟨username, rfl⟩ := request
    rcases handleCLogin_cases data w s username with ⟨store, result, -⟩ | ⟨-, -, result, -⟩
    · rw [handlePacket, result]
      rfl
    · have entered (a : Routing) : (a.enterTown s w.idGen).sessions = a.sessions := by
        unfold Routing.enterTown
        cases a.staticRoom .town 1 <;> rfl
      rw [handlePacket, result, Routing.loggedIn, entered]
      exact Routing.sessions_connection rfl
  · rcases handlePacket_routing data w s pkt (fun username same => request ⟨username, same⟩)
      with same | ⟨job, r, -, -, result⟩
    · rw [same]
    · rw [result]
      rfl

theorem step_connection (w next : World) (e : Event) (inRange : w.routing.InRange)
    (stepped : w.step data e = some next) (s : SessionId) :
    (next.routing.sessions s).connection = (w.routing.sessions s).connection.after e s := by
  obtain ⟨acted, -⟩ := step_act data w next e stepped
  cases e with
  | connect s' =>
      simp only [World.act] at acted
      split at acted
      · cases acted
        simp only [onConnected, Routing.sessions_setSession, Connection.after, Event.connect.injEq]
        by_cases same : s = s'
        · simp [same]
        · simp [same, Ne.symm same]
      · cases acted
  | disconnect s' =>
      simp only [World.act] at acted
      split at acted
      · cases acted
        rw [onDisconnected_sessions]
        by_cases same : s = s'
        · simp [Connection.after, same]
        · simp [Connection.after, same, Ne.symm same]
      · cases acted
  | packet s' pkt =>
      simp only [World.act] at acted
      split at acted
      · cases acted
        exact handlePacket_connection data w s' s pkt
      · cases acted
  | clock now =>
      simp only [World.act] at acted
      split at acted
      · cases acted
        rfl
      · cases acted
  | update =>
      simp only [World.act] at acted
      split at acted
      · cases acted
      · cases acted
        rfl
  | job rand =>
      obtain ⟨r, job, rest, front, result⟩ := runNextJob_some data w next rand acted
      by_cases stays : job.entering = none
      · have calm := runJob_calm data (w.forJob r rest rand) r job
          ((forJob_keeps w r job rest rand front).inRange inRange) stays
        rw [result, calm.sessions]
        rfl
      · cases job with
        | enterRoom s' id =>
            rw [result, runJob, enterRoom_routing]
            exact Routing.sessions_connection (a := w.routing.popJob r rest) rfl
        | _ => exact absurd rfl stays
  | visitStatic | loopDungeons | visitDungeon _ | endJobs | step _ | endRoom | endUpdate =>
      simp only [World.act] at acted
      split at acted
      · cases acted
      · rw [(stepPass_tells data w next _ _ acted).2]
        rfl

theorem step_connected (w next : World) (e : Event) (s : SessionId)
    (stepped : w.step data e = some next) :
    (e = .connect s → (w.routing.sessions s).connection = .fresh) ∧
      (e = .disconnect s → (w.routing.sessions s).connection = .connected) ∧
      ∀ pkt, e = .packet s pkt → (w.routing.sessions s).connection = .connected := by
  obtain ⟨acted, -⟩ := step_act data w next e stepped
  refine ⟨?_, ?_, ?_⟩
  · rintro rfl
    simp only [World.act] at acted
    split at acted
    case isTrue fresh => exact fresh
    case isFalse => cases acted
  · rintro rfl
    simp only [World.act] at acted
    split at acted
    case isTrue connected => exact connected
    case isFalse => cases acted
  · rintro pkt rfl
    simp only [World.act] at acted
    split at acted
    case isTrue connected => exact connected
    case isFalse => cases acted

end ZeldaServer
