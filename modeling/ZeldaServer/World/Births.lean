import ZeldaServer.World.Deeds

/-! How monsters come into a room: at its start, and out of the queue of respawn requests. -/

namespace ZeldaServer

open Chains (Chain)

variable (data : GameData)

theorem canGo_congr {scene scene' : Scene} (same : scene.SameObjects scene') (routing : Routing)
    (r : RoomRef) (pos : Vec2Int) : canGo routing scene' r pos = canGo routing scene r pos := by
  unfold canGo
  rw [creatureAt_congr same, same.fields]

section Spawning

variable (routing : Routing) (r : RoomRef)

theorem randomEmptyCellPos_spec (draws : Nat) (scene : Scene) :
    scene.Quiet (randomEmptyCellPos routing r scene draws).2 ∧
      ((randomEmptyCellPos routing r scene draws).2.fault = none → scene.fault = none ∧
        canGo routing scene r (randomEmptyCellPos routing r scene draws).1 = true) := by
  induction draws generalizing scene with
  | zero =>
      unfold randomEmptyCellPos
      exact ⟨.fail scene .unfinished, fun fine => absurd fine (fault_fail scene .unfinished)⟩
  | succ draws ih =>
      have drawn : scene.Quiet scene.draw.2.draw.2 :=
        (Scene.Quiet.draw scene).trans (Scene.Quiet.draw scene.draw.2)
      unfold randomEmptyCellPos
      dsimp only
      split
      · exact ⟨.fail scene .divisionByZero,
          fun fine => absurd fine (fault_fail scene .divisionByZero)⟩
      · split
        case isTrue free =>
          rw [canGo_congr drawn.toSameObjects] at free
          exact ⟨drawn, fun fine => ⟨drawn.fault fine, free⟩⟩
        case isFalse =>
          obtain ⟨quiet, found⟩ := ih scene.draw.2.draw.2
          refine ⟨drawn.trans quiet, fun fine => ?_⟩
          obtain ⟨before, free⟩ := found fine
          rw [canGo_congr drawn.toSameObjects] at free
          exact ⟨drawn.fault before, free⟩

def Monster.profile (m : Monster) : Int × Int × Int := (m.templateId, m.aggroRange, m.leashRange)

def RespawnRequest.profile (request : RespawnRequest) : Int × Int × Int :=
  (request.templateId, request.aggroRange, request.leashRange)

def Scene.waitFor (scene : Scene) (r : RoomRef) (request : RespawnRequest) : Scene :=
  scene.setField r
    { scene.fields r with respawnQueue := (scene.fields r).respawnQueue ++ [request] }

/-- A monster is created with the next id and put into a free cell, or a request goes back
into the queue. -/
inductive Scene.Birth (routing : Routing) (r : RoomRef) (a : Scene × ObjectId) :
    List Monster → Scene × ObjectId → Prop where
  | born (cell : Vec2Int) (aggroRange leashRange templateId : Int) (b : Scene × ObjectId)
      (next : b.2 = a.2 + 1) (players : b.1.players = a.1.players)
      (fields : b.1.fields = (a.1.setField r
        { a.1.fields r with
          monsters := (a.1.fields r).monsters ++
            [createMonster data a.2 cell aggroRange leashRange templateId] }).fields)
      (now : b.1.now = a.1.now)
      (free : b.1.fault = none → a.1.fault = none ∧ canGo routing a.1 r cell = true) :
      Birth routing r a [createMonster data a.2 cell aggroRange leashRange templateId] b
  | waits (request : RespawnRequest) : Birth routing r a [] (a.1.waitFor r request, a.2)

abbrev Scene.Births (routing : Routing) (r : RoomRef) :
    Scene × ObjectId → List Monster → Scene × ObjectId → Prop :=
  Chain (Scene.Birth data routing r)

namespace Scene.Births

theorem spawnAt (pos : Vec2Int) (aggroRange leashRange templateId : Int)
    (made : Scene × ObjectId) :
    ∃ m : Monster, m.profile = (templateId, aggroRange, leashRange) ∧
      Scene.Birth data routing r made [m]
        (spawnAt data routing r pos aggroRange leashRange templateId made) := by
  obtain ⟨scene, idGen⟩ := made
  have placed (cell : Vec2Int) (now : Scene) (quiet : scene.Quiet now)
      (free : now.fault = none → scene.fault = none ∧ canGo routing scene r cell = true) :
      ∃ m : Monster, m.profile = (templateId, aggroRange, leashRange) ∧
        Scene.Birth data routing r (scene, idGen) [m]
          (addMonster routing r (createMonster data idGen cell aggroRange leashRange templateId) now,
            idGen + 1) := by
    have said := Scene.Quiet.broadcast routing r
      (.addObject ⟨[(createMonster data idGen cell aggroRange leashRange templateId).info]⟩)
      (now.setField r
        { now.fields r with
          monsters := (now.fields r).monsters ++
            [createMonster data idGen cell aggroRange leashRange templateId] })
    refine ⟨createMonster data idGen cell aggroRange leashRange templateId, rfl, ?_⟩
    apply Scene.Birth.born
    case next => rfl
    case players => exact said.players.trans quiet.players
    case fields =>
      apply said.fields.trans
      unfold Scene.setField
      rw [quiet.fields]
    case now => exact said.now.trans quiet.now
    case free =>
      intro fine
      have before := said.fault fine
      exact free before
  unfold ZeldaServer.spawnAt
  dsimp only
  split
  case isTrue free => exact placed pos scene (.refl scene) fun fine => ⟨fine, free⟩
  case isFalse =>
    obtain ⟨quiet, found⟩ := randomEmptyCellPos_spec routing r (scene.rand.length + 1) scene
    exact placed _ _ quiet found

theorem foldl {Item : Type} (f : Scene × ObjectId → Item → Scene × ObjectId)
    (profiles : Item → List (Int × Int × Int))
    (calls : ∀ made item, ∃ born, Scene.Births data routing r made born (f made item) ∧
      born.map Monster.profile = profiles item)
    (items : List Item) (made : Scene × ObjectId) :
    ∃ born, Scene.Births data routing r made born (items.foldl f made) ∧
      born.map Monster.profile = items.flatMap profiles := by
  induction items generalizing made with
  | nil => exact ⟨[], .done made, rfl⟩
  | cons head tail ih =>
      obtain ⟨front, first, fronts⟩ := calls made head
      obtain ⟨back, second, backs⟩ := ih (f made head)
      refine ⟨front ++ back, first.append second, ?_⟩
      rw [List.map_append, fronts, backs, List.flatMap_cons]

end Scene.Births

/-- The profiles of the monsters one entry creates, of so many offsets left. -/
def MonsterInfo.profiles (entry : MonsterInfo) (left : Nat) : List (Int × Int × Int) :=
  match data.monsterTemplate entry.templateId with
  | none => []
  | some _ =>
      List.replicate (min entry.count.toNat left)
        (entry.templateId, entry.aggroRange, entry.leashRange)

/-- The profiles of a group's monsters: each entry leaves some offsets to the next one. -/
def groupProfiles : List MonsterInfo → Nat → List (Int × Int × Int)
  | [], _ => []
  | entry :: entries, left =>
      entry.profiles data left ++
        groupProfiles entries (left - (entry.profiles data left).length)

def MonsterSpawnData.profiles (group : MonsterSpawnData) : List (Int × Int × Int) :=
  groupProfiles data group.monsters group.offsets.length

namespace Scene.Births

theorem spawnEntry (anchor : Vec2Int) (entry : MonsterInfo)
    (made : (Scene × ObjectId) × List Vec2Int) :
    ∃ born, Scene.Births data routing r made.1 born (spawnEntry data routing r anchor entry made).1 ∧
      born.map Monster.profile = entry.profiles data made.2.length ∧
      (ZeldaServer.spawnEntry data routing r anchor entry made).2.length =
        made.2.length - (entry.profiles data made.2.length).length := by
  unfold ZeldaServer.spawnEntry MonsterInfo.profiles
  cases data.monsterTemplate entry.templateId with
  | none => exact ⟨[], .done made.1, rfl, rfl⟩
  | some templateData =>
      dsimp only
      obtain ⟨born, chain, profiles⟩ := foldl data routing r
        (fun now offset => ZeldaServer.spawnAt data routing r (anchor + offset) entry.aggroRange
          entry.leashRange entry.templateId now)
        (fun _ => [(entry.templateId, entry.aggroRange, entry.leashRange)])
        (fun made offset => by
          obtain ⟨m, profile, birth⟩ := spawnAt data routing r (anchor + offset) entry.aggroRange
            entry.leashRange entry.templateId made
          exact ⟨[m], Chain.single birth, congrArg (fun p => [p]) profile⟩)
        (made.2.take entry.count.toNat) made.1
      refine ⟨born, chain, ?_, ?_⟩
      · rw [profiles, ← List.map_eq_flatMap, List.map_const', List.length_take]
      · rw [List.length_drop, List.length_replicate]
        omega

theorem spawnEntries (anchor : Vec2Int) (entries : List MonsterInfo)
    (made : (Scene × ObjectId) × List Vec2Int) :
    ∃ born, Scene.Births data routing r made.1 born
        (entries.foldl (fun now entry =>
          ZeldaServer.spawnEntry data routing r anchor entry now) made).1 ∧
      born.map Monster.profile = groupProfiles data entries made.2.length := by
  induction entries generalizing made with
  | nil => exact ⟨[], .done made.1, rfl⟩
  | cons entry entries ih =>
      obtain ⟨front, first, fronts, left⟩ := spawnEntry data routing r anchor entry made
      obtain ⟨back, second, backs⟩ := ih (ZeldaServer.spawnEntry data routing r anchor entry made)
      refine ⟨front ++ back, first.append second, ?_⟩
      rw [List.map_append, fronts, backs, left, groupProfiles]

theorem spawnGroup (made : Scene × ObjectId) (group : MonsterSpawnData) :
    ∃ born, Scene.Births data routing r made born (spawnGroup data routing r made group) ∧
      born.map Monster.profile = group.profiles data :=
  spawnEntries data routing r group.anchor group.monsters (made, group.offsets)

end Scene.Births

/-- The profiles of the monsters `InitFromConfig` creates. -/
def roomProfiles (roomId : RoomName) : List (Int × Int × Int) :=
  match data.roomConfig roomId, data.spawnConfig roomId with
  | some config, some spawnConfig =>
      if config.monsterSpawnEnabled then
        spawnConfig.spawns.flatMap (MonsterSpawnData.profiles data)
      else []
  | _, _ => []

def configured (roomId : RoomName) (field : Field) : Field :=
  match data.roomConfig roomId with
  | none => field
  | some config => { field with tilemap := config.tilemap, config := some config }

theorem initFromConfig_births (roomId : RoomName) (scene : Scene) (idGen : ObjectId) :
    ∃ born, Scene.Births data routing r
        (scene.setField r (configured data roomId (scene.fields r)), idGen) born
        (initFromConfig data routing r roomId scene idGen) ∧
      born.map Monster.profile = roomProfiles data roomId := by
  unfold initFromConfig configured roomProfiles
  cases data.roomConfig roomId with
  | none =>
      have same : scene.setField r (scene.fields r) = scene := by
        unfold Scene.setField
        rw [Function.update_eq_self]
      dsimp only
      rw [same]
      exact ⟨[], .done _, rfl⟩
  | some config =>
      dsimp only
      cases data.spawnConfig roomId with
      | none => exact ⟨[], .done _, rfl⟩
      | some spawnConfig =>
          dsimp only
          split
          · exact Scene.Births.foldl data routing r _ _ (Scene.Births.spawnGroup data routing r)
              spawnConfig.spawns _
          · exact ⟨[], .done _, rfl⟩

theorem birth_keeps {made made' : Scene × ObjectId} {born : List Monster}
    (birth : Scene.Birth data routing r made born made') :
    made'.1.now = made.1.now ∧ made'.1.players = made.1.players ∧
      ∀ r', r' ≠ r → made'.1.fields r' = made.1.fields r' := by
  cases birth with
  | born cell aggroRange leashRange templateId b next players fields now free =>
      refine ⟨now, players, fun r' other => ?_⟩
      rw [fields]
      exact Function.update_of_ne other _ _
  | waits request => exact ⟨rfl, rfl, fun r' other => Function.update_of_ne other _ _⟩

theorem births_keep {made made' : Scene × ObjectId} {born : List Monster}
    (births : Scene.Births data routing r made born made') :
    made'.1.now = made.1.now ∧ made'.1.players = made.1.players ∧
      ∀ r', r' ≠ r → made'.1.fields r' = made.1.fields r' := by
  apply births.relates (fun made _ made' => made'.1.now = made.1.now ∧
    made'.1.players = made.1.players ∧ ∀ r', r' ≠ r → made'.1.fields r' = made.1.fields r')
  · exact fun made => ⟨rfl, rfl, fun _ _ => rfl⟩
  · intro made middle made' first rest now later
    obtain ⟨clock, players, fields⟩ := birth_keeps data routing r now
    refine ⟨later.1.trans clock, later.2.1.trans players, fun r' other => ?_⟩
    rw [later.2.2 r' other, fields r' other]

theorem respawn_births (made : Scene × ObjectId) (request : RespawnRequest) :
    ∃ born, Scene.Births data routing r made born (respawn data routing r made request) ∧
      born.map Monster.profile =
        ([request].filter (·.due ≤ made.1.now)).map RespawnRequest.profile ∧
      ((respawn data routing r made request).1.fields r).respawnQueue =
        (made.1.fields r).respawnQueue ++ [request].filter (made.1.now < ·.due) := by
  unfold respawn
  dsimp only
  split
  case isTrue early =>
    refine ⟨[], Chain.single (.waits request), ?_, ?_⟩
    · rw [List.filter_singleton, decide_eq_false (Nat.not_le_of_lt early)]
      rfl
    · simp [Scene.setField, early]
  case isFalse due =>
    obtain ⟨m, profile, birth⟩ := Scene.Births.spawnAt data routing r request.homePos
      request.aggroRange request.leashRange request.templateId made
    refine ⟨[m], Chain.single birth, ?_, ?_⟩
    · rw [List.filter_singleton, decide_eq_true (Nat.le_of_not_lt due)]
      exact congrArg (fun p => [p]) profile
    · generalize spawnAt data routing r request.homePos request.aggroRange request.leashRange
        request.templateId made = made' at birth
      cases birth with
      | born cell aggroRange leashRange templateId b next players fields now free =>
          simp [fields, Scene.setField, due]

theorem respawns (requests : List RespawnRequest) (made : Scene × ObjectId) :
    ∃ born, Scene.Births data routing r made born (requests.foldl (respawn data routing r) made) ∧
      born.map Monster.profile =
        (requests.filter (·.due ≤ made.1.now)).map RespawnRequest.profile ∧
      ((requests.foldl (respawn data routing r) made).1.fields r).respawnQueue =
        (made.1.fields r).respawnQueue ++ requests.filter (made.1.now < ·.due) := by
  induction requests generalizing made with
  | nil => exact ⟨[], .done made, rfl, by simp⟩
  | cons request requests ih =>
      obtain ⟨front, first, fronts, queued⟩ := respawn_births data routing r made request
      obtain ⟨back, second, backs, later⟩ := ih (respawn data routing r made request)
      have clock := (births_keep data routing r first).1
      rw [clock] at backs later
      refine ⟨front ++ back, first.append second, ?_, ?_⟩
      · rw [List.map_append, fronts, backs, ← List.map_append, ← List.filter_append,
          List.singleton_append]
      · rw [List.foldl_cons, later, queued, List.append_assoc, ← List.filter_append,
          List.singleton_append]

/-- The queue that `ProcessRespawn` goes through is empty meanwhile. -/
def Scene.drained (scene : Scene) (r : RoomRef) : Scene :=
  if shouldSpawn (scene.fields r) then
    scene.setField r { scene.fields r with respawnQueue := [] }
  else scene

theorem drained_keeps (scene : Scene) :
    (scene.drained r).now = scene.now ∧ (scene.drained r).players = scene.players ∧
      (scene.drained r).fault = scene.fault ∧
      ((scene.drained r).fields r).monsters = (scene.fields r).monsters ∧
      ((scene.drained r).fields r).tilemap = (scene.fields r).tilemap ∧
      ((scene.drained r).fields r).projectiles = (scene.fields r).projectiles ∧
      ((scene.drained r).fields r).config = (scene.fields r).config ∧
      ∀ r', r' ≠ r → (scene.drained r).fields r' = scene.fields r' := by
  unfold Scene.drained
  split
  · refine ⟨rfl, rfl, rfl, ?_, ?_, ?_, ?_, fun r' other => Function.update_of_ne other _ _⟩ <;>
      simp [Scene.setField]
  · exact ⟨rfl, rfl, rfl, rfl, rfl, rfl, rfl, fun _ _ => rfl⟩

theorem spawnTick_births (scene : Scene) (idGen : ObjectId) :
    ∃ born, Scene.Births data routing r (scene.drained r, idGen) born
        (spawnTick data routing r scene idGen) ∧
      (shouldSpawn (scene.fields r) = true →
        born.map Monster.profile =
          ((scene.fields r).respawnQueue.filter (·.due ≤ scene.now)).map RespawnRequest.profile ∧
        ((spawnTick data routing r scene idGen).1.fields r).respawnQueue =
          (scene.fields r).respawnQueue.filter (scene.now < ·.due)) := by
  unfold spawnTick Scene.drained
  dsimp only
  split
  case isTrue =>
    obtain ⟨born, chain, profiles, queue⟩ := respawns data routing r (scene.fields r).respawnQueue
      (scene.setField r { scene.fields r with respawnQueue := [] }, idGen)
    refine ⟨born, chain, fun _ => ⟨profiles, ?_⟩⟩
    apply queue.trans
    simp only [Scene.setField, Function.update_self]
    exact List.nil_append _
  case isFalse off => exact ⟨[], .done _, fun spawns => absurd spawns off⟩

/-- A relation of scenes that is kept by the numbers drawn, by a failure, by changes of the
room's field, and by telling the room of new objects. -/
structure Scene.Spawning (R : Scene → Scene → Prop) : Prop where
  refl : ∀ scene, R scene scene
  trans : ∀ {a b c}, R a b → R b c → R a c
  draw : ∀ scene, R scene scene.draw.2
  fail : ∀ scene fault, fault ≠ .redisDown → R scene (scene.fail fault)
  field : ∀ scene field, R scene (scene.setField r field)
  told : ∀ scene pkt, R scene (broadcast routing r (.addObject pkt) scene)

namespace Scene.Spawning

variable {routing r} {R : Scene → Scene → Prop}

theorem randomEmptyCellPos (kept : Scene.Spawning routing r R) (draws : Nat) (scene : Scene) :
    R scene (randomEmptyCellPos routing r scene draws).2 := by
  induction draws generalizing scene with
  | zero => exact kept.fail scene .unfinished (by decide)
  | succ draws ih =>
      unfold ZeldaServer.randomEmptyCellPos
      dsimp only
      split
      · exact kept.fail scene .divisionByZero (by decide)
      · have drawn := kept.trans (kept.draw scene) (kept.draw scene.draw.2)
        split
        · exact drawn
        · exact kept.trans drawn (ih _)

theorem spawnAt (kept : Scene.Spawning routing r R) (pos : Vec2Int)
    (aggroRange leashRange templateId : Int) (made : Scene × ObjectId) :
    R made.1 (spawnAt data routing r pos aggroRange leashRange templateId made).1 := by
  unfold ZeldaServer.spawnAt addMonster
  dsimp only
  apply kept.trans _ (kept.told _ _)
  apply kept.trans _ (kept.field _ _)
  split
  · exact kept.refl made.1
  · exact kept.randomEmptyCellPos _ made.1

theorem creations {Item : Type} (kept : Scene.Spawning routing r R)
    (f : Scene × ObjectId → Item → Scene × ObjectId)
    (calls : ∀ (made : Scene × ObjectId) item, R made.1 (f made item).1) (items : List Item)
    (made : Scene × ObjectId) : R made.1 (items.foldl f made).1 := by
  induction items generalizing made with
  | nil => exact kept.refl made.1
  | cons head tail ih => exact kept.trans (calls made head) (ih (f made head))

theorem spawnEntry (kept : Scene.Spawning routing r R) (anchor : Vec2Int) (entry : MonsterInfo)
    (made : (Scene × ObjectId) × List Vec2Int) :
    R made.1.1 (spawnEntry data routing r anchor entry made).1.1 := by
  unfold ZeldaServer.spawnEntry
  cases data.monsterTemplate entry.templateId with
  | none => exact kept.refl made.1.1
  | some _ =>
      apply kept.creations
      intro made offset
      exact kept.spawnAt data _ _ _ _ made

theorem spawnGroup (kept : Scene.Spawning routing r R) (made : Scene × ObjectId)
    (group : MonsterSpawnData) : R made.1 (spawnGroup data routing r made group).1 := by
  have entries (monsters : List MonsterInfo) (now : (Scene × ObjectId) × List Vec2Int) :
      R now.1.1 (monsters.foldl (fun now entry =>
        ZeldaServer.spawnEntry data routing r group.anchor entry now) now).1.1 := by
    induction monsters generalizing now with
    | nil => exact kept.refl now.1.1
    | cons entry monsters ih => exact kept.trans (kept.spawnEntry data _ entry now) (ih _)
  exact entries group.monsters (made, group.offsets)

theorem initFromConfig (kept : Scene.Spawning routing r R) (roomId : RoomName) (scene : Scene)
    (idGen : ObjectId) : R scene (initFromConfig data routing r roomId scene idGen).1 := by
  unfold ZeldaServer.initFromConfig
  cases data.roomConfig roomId with
  | none => exact kept.refl scene
  | some config =>
      have set := kept.field scene
        { scene.fields r with tilemap := config.tilemap, config := some config }
      cases data.spawnConfig roomId with
      | none => exact set
      | some spawnConfig =>
          dsimp only
          split
          · exact kept.trans set
              (kept.creations _ (kept.spawnGroup data) spawnConfig.spawns (_, idGen))
          · exact set

theorem respawn (kept : Scene.Spawning routing r R) (made : Scene × ObjectId)
    (request : RespawnRequest) : R made.1 (respawn data routing r made request).1 := by
  unfold ZeldaServer.respawn
  dsimp only
  split
  · exact kept.field made.1 _
  · exact kept.spawnAt data _ _ _ _ made

theorem spawnTick (kept : Scene.Spawning routing r R) (scene : Scene) (idGen : ObjectId) :
    R scene (spawnTick data routing r scene idGen).1 := by
  unfold ZeldaServer.spawnTick
  dsimp only
  split
  · apply kept.trans (kept.field scene { scene.fields r with respawnQueue := [] })
    exact kept.creations _ (kept.respawn data) (scene.fields r).respawnQueue (_, idGen)
  · exact kept.refl scene

end Scene.Spawning

end Spawning

end ZeldaServer
