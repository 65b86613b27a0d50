import ZeldaServer.World.Parties
import ZeldaServer.World.OneRoom
import ZeldaServer.World.Output
import ZeldaServer.World.Views

/-! A change of the map as a whole: who goes, what becomes of the room that is left, and that
a refused request leaves everything as it was. -/

namespace ZeldaServer

variable (data : GameData)

/-- The players `gone` leave `source`, and an `EnterRoom` waits for each of them in `dest`; a
dungeon that this empties is to be removed. Nothing else of the routing is touched. -/
structure Routing.Departs (source dest : RoomRef) (gone : List (SessionId × ObjectId))
    (a b : Routing) : Prop where
  rooms : ∀ r, b.rooms r =
    { a.rooms r with
      players :=
        if r = source then (a.rooms r).players.filter (· ∉ gone.map (·.2)) else (a.rooms r).players
      jobs := (a.rooms r).jobs ++ if r = dest then enterJobs gone else [] }
  playerRoom : ∀ id, b.playerRoom id = if id ∈ gone.map (·.2) then none else a.playerRoom id
  requests : b.pendingRemoveDungeon = a.pendingRemoveDungeon ++
    if (a.rooms source).fieldId = .dungeon ∧ (a.rooms source).players ≠ [] ∧
        (b.rooms source).players = [] then [(a.rooms source).instanceId] else []
  others : b =
    { a with
      rooms := b.rooms
      playerRoom := b.playerRoom
      pendingRemoveDungeon := b.pendingRemoveDungeon }

namespace Routing.Departs

variable {source dest : RoomRef} {a b c : Routing}

theorem nobody (a : Routing) : Departs source dest [] a a where
  rooms := by
    intro r
    have all : (a.rooms r).players.filter (· ∉ ([] : List (SessionId × ObjectId)).map (·.2)) =
        (a.rooms r).players := List.filter_eq_self.mpr (by simp)
    rw [all, ite_self, enterJobs, List.map_nil, ite_self, List.append_nil]
  playerRoom := fun id => by simp
  requests := by
    have kept : ¬ ((a.rooms source).fieldId = .dungeon ∧ (a.rooms source).players ≠ [] ∧
        (a.rooms source).players = []) := fun emptied => emptied.2.1 emptied.2.2
    rw [if_neg kept, List.append_nil]
  others := rfl

theorem trans {front back : List (SessionId × ObjectId)} (first : Departs source dest front a b)
    (second : Departs source dest back b c) : Departs source dest (front ++ back) a c where
  rooms := by
    intro r
    rw [second.rooms r, first.rooms r]
    dsimp only
    congr 1
    · split
      case isTrue =>
        rw [List.filter_filter]
        apply List.filter_congr
        intro id _
        rw [← Bool.decide_and, List.map_append]
        apply decide_eq_decide.mpr
        rw [List.mem_append, not_or]
        exact and_comm
      case isFalse => rfl
    · rw [List.append_assoc]
      split
      case isTrue => rw [enterJobs, enterJobs, enterJobs, List.map_append]
      case isFalse => rfl
  playerRoom := by
    intro id
    rw [second.playerRoom id, first.playerRoom id, List.map_append]
    by_cases early : id ∈ front.map (·.2)
    · simp only [early, List.mem_append, true_or, if_true, ite_self]
    · simp only [early, List.mem_append, false_or, if_false]
  requests := by
    have same : (b.rooms source).fieldId = (a.rooms source).fieldId ∧
        (b.rooms source).instanceId = (a.rooms source).instanceId := by
      rw [first.rooms source]
      exact ⟨rfl, rfl⟩
    have stays (now : (b.rooms source).players ≠ []) : (a.rooms source).players ≠ [] := by
      intro nobody
      rw [first.rooms source, if_pos rfl, nobody] at now
      exact now rfl
    have still (now : (b.rooms source).players = []) : (c.rooms source).players = [] := by
      rw [second.rooms source, if_pos rfl, now]
      rfl
    rw [second.requests, first.requests, same.1, same.2, List.append_assoc]
    congr 1
    by_cases emptied : (b.rooms source).players = []
    · simp [emptied, still emptied]
    · simp [emptied, stays emptied]
  others := by
    rw [second.others, first.others]

theorem one (a : Routing) (s : SessionId) (id : ObjectId)
    (standing : id ∈ (a.rooms source).players)
    (named : (a.rooms source).fieldId = .dungeon → (a.rooms source).instanceId ≠ 0) :
    Departs source dest [(s, id)] a ((a.leave source id).pushJob dest (.enterRoom s id)) := by
  have left : a.leave source id = (a.erasePlayer source id).requestRemoval source := by
    unfold leave
    exact congrArg (requestRemoval · source) (if_pos standing)
  have erased (r : RoomRef) : (a.leave source id).rooms r =
      { a.rooms r with
        players :=
          if r = source then (a.rooms r).players.filter (· ≠ id) else (a.rooms r).players } := by
    rw [left, requestRemoval_rooms, erasePlayer, rooms_setRoom]
    split
    case isTrue same => rw [same]
    case isFalse => rfl
  constructor
  · intro r
    rw [pushJob, rooms_setRoom, erased, erased]
    split
    case isTrue same =>
      subst same
      simp [enterJobs]
    case isFalse => simp
  · intro other
    rw [left, pushJob]
    have kept : ((a.erasePlayer source id).requestRemoval source).playerRoom =
        Function.update a.playerRoom id none := by
      unfold requestRemoval
      dsimp only
      split <;> rfl
    change ((a.erasePlayer source id).requestRemoval source).playerRoom other = _
    rw [kept, Function.update_apply]
    simp
  · have after : (((a.leave source id).pushJob dest (.enterRoom s id)).rooms source).players =
        ((a.erasePlayer source id).rooms source).players := by
      rw [players_pushJob, left, requestRemoval_rooms]
    rw [after, left]
    change ((a.erasePlayer source id).requestRemoval source).pendingRemoveDungeon = _
    have same := sameRoom_erasePlayer a source source id
    unfold requestRemoval
    dsimp only
    rw [same.fieldId, same.instanceId]
    split
    case isTrue request =>
      rw [if_pos ⟨request.1, List.ne_nil_of_mem standing, request.2.1⟩]
      rfl
    case isFalse kept =>
      rw [if_neg fun emptied => kept ⟨emptied.1, emptied.2.2, named emptied.1⟩, List.append_nil]
      rfl
  · rw [left]
    unfold requestRemoval
    dsimp only
    split <;> rfl

end Routing.Departs

def ServerPacket.isChangeMap : ServerPacket → Bool
  | .changeMap _ _ _ _ => true
  | _ => false

/-- In addition each of the players gets the answer once, and the players of the room are told
who has gone. -/
structure World.Departs (source dest : RoomRef) (answer : ServerPacket)
    (gone : List (SessionId × ObjectId)) (w next : World) : Prop where
  routing : Routing.Departs source dest gone w.routing next.routing
  idGen : next.idGen = w.idGen
  scene : ∃ told, next.scene = { w.scene with sent := w.scene.sent ++ told } ∧
    told.filter (·.2.isChangeMap) = gone.map (fun member => (member.1, answer)) ∧
    ∀ entry ∈ told, entry.2.isChangeMap = false → w.routing.Listens source entry.1 ∧
      ∃ member ∈ gone, entry.2 = .removeObject [member.2]

def Routing.AllSeated (a : Routing) (r : RoomRef) : Prop :=
  ∀ id ∈ playerIds a r, ∃ s, a.playerSession id = some s

theorem broadcast_seated (routing : Routing) (r : RoomRef) (pkt : ServerPacket) (scene : Scene)
    (seated : routing.AllSeated r) :
    broadcast routing r pkt scene =
      { scene with sent := scene.sent ++ toPlayers routing (playerIds routing r) pkt } := by
  unfold Routing.AllSeated at seated
  unfold broadcast toPlayers
  generalize playerIds routing r = ids at seated
  induction ids generalizing scene with
  | nil => rw [List.foldl_nil, List.filterMap_nil, List.append_nil]
  | cons id ids ih =>
      obtain ⟨s, session⟩ := seated id List.mem_cons_self
      have later := ih (scene.send s pkt) fun other member =>
        seated other (List.mem_cons_of_mem id member)
      rw [List.filterMap_cons_some (by rw [session]; rfl), List.foldl_cons, session]
      dsimp only
      rw [later]
      simp [Scene.send]

theorem mem_toPlayers {routing : Routing} {ids : List ObjectId} {pkt : ServerPacket}
    {entry : SessionId × ServerPacket} (told : entry ∈ toPlayers routing ids pkt) :
    entry.2 = pkt ∧ ∃ id ∈ ids, routing.playerSession id = some entry.1 := by
  obtain ⟨id, member, made⟩ := List.mem_filterMap.mp told
  obtain ⟨s, session, rfl⟩ := Option.map_eq_some_iff.mp made
  exact ⟨rfl, id, member, session⟩

namespace World.Departs

variable {source dest : RoomRef} {answer : ServerPacket} {w next last : World}

theorem nobody (w : World) : Departs source dest answer [] w w where
  routing := .nobody w.routing
  idGen := rfl
  scene := ⟨[], by rw [List.append_nil], rfl, fun _ none => absurd none List.not_mem_nil⟩

theorem trans {front back : List (SessionId × ObjectId)}
    (first : Departs source dest answer front w next)
    (second : Departs source dest answer back next last) :
    Departs source dest answer (front ++ back) w last where
  routing := first.routing.trans second.routing
  idGen := second.idGen.trans first.idGen
  scene := by
    obtain ⟨told, scene, answers, rest⟩ := first.scene
    obtain ⟨told', scene', answers', rest'⟩ := second.scene
    refine ⟨told ++ told', ?_, ?_, ?_⟩
    · rw [scene', scene]
      dsimp only
      rw [List.append_assoc]
    · rw [List.filter_append, answers, answers', List.map_append]
    · intro entry member other
      rcases List.mem_append.mp member with early | late
      · obtain ⟨listens, mover, goes, same⟩ := rest entry early other
        exact ⟨listens, mover, List.mem_append_left _ goes, same⟩
      · obtain ⟨⟨id, standing, session⟩, mover, goes, same⟩ := rest' entry late other
        refine ⟨⟨id, ?_, ?_⟩, mover, List.mem_append_right _ goes, same⟩
        · rw [playerIds, first.routing.rooms source, if_pos rfl] at standing
          exact (List.mem_filter.mp standing).1
        · rw [first.routing.others] at session
          exact session

theorem leaveRoom_scene (held : List ObjectId) (s : SessionId) (id : ObjectId) (w : World)
    (standing : id ∈ (w.routing.rooms source).players)
    (locked : lockPlayer w.routing w.scene held s = some id) :
    (w.leaveRoom held source s).scene =
      broadcast (w.routing.erasePlayer source id) source (.removeObject [id]) w.scene := by
  have here : id ∈ playerIds w.routing source := standing
  unfold World.leaveRoom
  simp only [locked, World.removeObject, if_pos here]
  rfl

theorem moveOver_scene (held : List ObjectId) (pkt : CChangeMap) (instanceId : InstanceId)
    (s : SessionId) (id : ObjectId) (w : World)
    (standing : id ∈ (w.routing.rooms source).players)
    (names : (w.routing.sessions s).player = some id) (owned : id ∈ held) :
    (w.moveOver held source dest pkt instanceId s id).scene =
      broadcast (w.routing.erasePlayer source id) source (.removeObject [id])
        (w.scene.send s (.changeMap true pkt.mapId pkt.channel instanceId)) := by
  have locked := lockPlayer_held w.routing
    (w.sendTo s (.changeMap true pkt.mapId pkt.channel instanceId)).scene held s id names owned
  exact leaveRoom_scene held s id (w.sendTo s (.changeMap true pkt.mapId pkt.channel instanceId))
    standing locked

theorem moveOver (held : List ObjectId) (pkt : CChangeMap) (instanceId : InstanceId)
    (s : SessionId) (id : ObjectId) (w : World)
    (standing : id ∈ (w.routing.rooms source).players)
    (names : (w.routing.sessions s).player = some id) (owned : id ∈ held)
    (seated : w.routing.AllSeated source)
    (named : (w.routing.rooms source).fieldId = .dungeon →
      (w.routing.rooms source).instanceId ≠ 0) :
    Departs source dest (.changeMap true pkt.mapId pkt.channel instanceId) [(s, id)] w
      (w.moveOver held source dest pkt instanceId s id) where
  routing := by
    rw [moveOver_leave w held source dest pkt instanceId s id names owned]
    exact .one w.routing s id standing named
  idGen := moveOver_idGen w held source dest pkt instanceId s id
  scene := by
    have left (r : RoomRef) := (Routing.Follows.erasePlayer w.routing source id).players r
    have seated' : (w.routing.erasePlayer source id).AllSeated source := by
      intro other stays
      exact seated other (left source other stays)
    rw [moveOver_scene held pkt instanceId s id w standing names owned,
      broadcast_seated _ _ _ _ seated']
    refine ⟨(s, .changeMap true pkt.mapId pkt.channel instanceId) ::
      toPlayers (w.routing.erasePlayer source id)
        (playerIds (w.routing.erasePlayer source id) source) (.removeObject [id]), ?_, ?_, ?_⟩
    · simp [Scene.send]
    · rw [List.filter_cons_of_pos rfl, List.filter_eq_nil_iff.mpr]
      · rfl
      · intro entry told
        rw [(mem_toPlayers told).1]
        exact Bool.false_ne_true
    · intro entry told other
      rcases List.mem_cons.mp told with rfl | later
      · cases other
      · obtain ⟨same, id', stays, session⟩ := mem_toPlayers later
        exact ⟨⟨id', left source id' stays, session⟩, _, List.mem_singleton_self _, same⟩

theorem moveAll (held : List ObjectId) (pkt : CChangeMap) (instanceId : InstanceId)
    (toMove : List (SessionId × ObjectId)) (w : World)
    (distinct : (toMove.map (·.2)).Nodup)
    (standing : ∀ member ∈ toMove, member.2 ∈ (w.routing.rooms source).players ∧
      (w.routing.sessions member.1).player = some member.2 ∧ member.2 ∈ held)
    (seated : w.routing.AllSeated source)
    (named : (w.routing.rooms source).fieldId = .dungeon →
      (w.routing.rooms source).instanceId ≠ 0) :
    Departs source dest (.changeMap true pkt.mapId pkt.channel instanceId) toMove w
      (toMove.foldl (fun w member =>
        w.moveOver held source dest pkt instanceId member.1 member.2) w) := by
  induction toMove generalizing w with
  | nil => exact nobody w
  | cons head tail ih =>
      obtain ⟨here, names, owned⟩ := standing head List.mem_cons_self
      rw [List.map_cons, List.nodup_cons] at distinct
      have first : Departs source dest (.changeMap true pkt.mapId pkt.channel instanceId) [head] w
          (w.moveOver held source dest pkt instanceId head.1 head.2) :=
        moveOver held pkt instanceId head.1 head.2 w here names owned seated named
      have stays (id : ObjectId) : id ∈ ((w.moveOver held source dest pkt instanceId head.1
          head.2).routing.rooms source).players ↔
            id ∈ (w.routing.rooms source).players ∧ id ≠ head.2 := by
        rw [first.routing.rooms source, if_pos rfl]
        simp
      have others := first.routing.others
      apply first.trans
      apply ih _ distinct.2
      · intro member later
        obtain ⟨there, names', owned'⟩ := standing member (List.mem_cons_of_mem head later)
        refine ⟨(stays member.2).mpr ⟨there, ?_⟩, ?_, owned'⟩
        · intro same
          exact distinct.1 (same ▸ List.mem_map_of_mem later)
        · rw [others]
          exact names'
      · intro id standing'
        rw [others]
        exact seated id ((stays id).mp standing').1
      · rw [first.routing.rooms source]
        exact named

end World.Departs

/-- Only the field of room `r`, the random numbers and a fault make a difference. -/
structure Scene.Apart (r : RoomRef) (a b : Scene) : Prop where
  players : b.players = a.players
  fields : ∀ r', r' ≠ r → b.fields r' = a.fields r'
  now : b.now = a.now
  sent : b.sent = a.sent
  relayed : b.relayed = a.relayed
  redisConnected : b.redisConnected = a.redisConnected
  redis : b.redis = a.redis

namespace Scene.Apart

variable {r : RoomRef} {routing : Routing}

theorem refl (scene : Scene) : Apart r scene scene := ⟨rfl, fun _ _ => rfl, rfl, rfl, rfl, rfl, rfl⟩

theorem trans {a b c : Scene} (first : Apart r a b) (second : Apart r b c) : Apart r a c where
  players := second.players.trans first.players
  fields := fun r' other => (second.fields r' other).trans (first.fields r' other)
  now := second.now.trans first.now
  sent := second.sent.trans first.sent
  relayed := second.relayed.trans first.relayed
  redisConnected := second.redisConnected.trans first.redisConnected
  redis := second.redis.trans first.redis

theorem setField (field : Field) (scene : Scene) : Apart r scene (scene.setField r field) :=
  ⟨rfl, fun _ other => Function.update_of_ne other _ _, rfl, rfl, rfl, rfl, rfl⟩

theorem fail (fault : Fault) (scene : Scene) : Apart r scene (scene.fail fault) :=
  ⟨rfl, fun _ _ => rfl, rfl, rfl, rfl, rfl, rfl⟩

theorem draw (scene : Scene) : Apart r scene scene.draw.2 := by
  unfold Scene.draw
  split
  · exact fail _ scene
  · exact ⟨rfl, fun _ _ => rfl, rfl, rfl, rfl, rfl, rfl⟩

theorem spawning (empty : playerIds routing r = []) : Scene.Spawning routing r (Apart r) where
  refl := refl
  trans := trans
  draw := draw
  fail := fun scene fault _ => fail fault scene
  field := fun scene field => setField field scene
  told := fun scene pkt => by
    unfold broadcast
    rw [empty]
    exact refl scene

end Scene.Apart

theorem createDungeonInstance_apart (w : World) :
    Scene.Apart w.routing.roomCount w.scene (w.createDungeonInstance data).2.2.scene := by
  have empty : playerIds w.routing.openDungeon w.routing.roomCount = [] := by
    rw [playerIds, Routing.Housed.rooms_openDungeon, if_pos rfl]
    rfl
  apply (Scene.Apart.setField .empty w.scene).trans
  exact (Scene.Apart.spawning empty).initFromConfig data .dungeonForest _ w.idGen

/-- Who goes: a leader takes the members along into a dungeon that are players of the room and
have a session; all others go alone. -/
def Goes (a : Routing) (r : RoomRef) (s : SessionId) (requester : ObjectId) (pkt : CChangeMap)
    (member : SessionId × ObjectId) : Prop :=
  if pkt.mapId = MapId.dungeon ∧ a.parties.isLeader requester = true then
    (∃ party, a.parties.parties (a.parties.partyIdByPlayer requester) = some party ∧
      member.2 ∈ party.memberIds) ∧
    member.2 ∈ playerIds a r ∧ a.playerSession member.2 = some member.1
  else member = (s, requester)

/-- Where a request leads, and the world once that room is there: a channel of the town, or a
new instance that nothing but the tables knows of. -/
inductive Leads (w : World) (pkt : CChangeMap) : RoomRef → InstanceId → World → Prop where
  | town (dest : RoomRef) (mapId : pkt.mapId = MapId.town)
      (channel : w.routing.staticRoom .town pkt.channel = some dest) : Leads w pkt dest 0 w
  | dungeon (opened : World) (mapId : pkt.mapId = MapId.dungeon)
      (routing : opened.routing = w.routing.openDungeon)
      (scene : Scene.Apart w.routing.roomCount w.scene opened.scene) :
      Leads w pkt w.routing.roomCount w.routing.instanceIdGen opened

/-- The request is carried out for all who go, and each of them goes once. -/
structure ChangesMap (w : World) (r : RoomRef) (s : SessionId) (requester : ObjectId)
    (pkt : CChangeMap) (dest : RoomRef) (instanceId : InstanceId) (opened : World)
    (gone : List (SessionId × ObjectId)) (next : World) : Prop where
  leads : Leads w pkt dest instanceId opened
  goes : ∀ member, member ∈ gone ↔ Goes w.routing r s requester pkt member
  sessions : (gone.map (·.1)).Nodup
  players : (gone.map (·.2)).Nodup
  departs : World.Departs r dest (.changeMap true pkt.mapId pkt.channel instanceId) gone opened next

theorem mem_goAlong (a : Routing) (r : RoomRef) (s : SessionId) (requester : ObjectId)
    (pkt : CChangeMap) (mapId : pkt.mapId = MapId.dungeon) (member : SessionId × ObjectId) :
    member ∈ goAlong a r s requester ↔ Goes a r s requester pkt member := by
  unfold goAlong Goes
  by_cases leader : a.parties.isLeader requester = true
  · obtain ⟨-, party, found⟩ := isLeader_party a.parties requester leader
    simp [leader, mapId, found, mem_partyToMove_iff]
  · simp [leader]

/-- The requester stands in the room, and its session and those of the other players there
name them. -/
structure Asks (w : World) (r : RoomRef) (s : SessionId) (requester : ObjectId) : Prop where
  bound : ∀ id ∈ playerIds w.routing r, ∀ s', w.routing.playerSession id = some s' →
    (w.routing.sessions s').player = some id
  owner : (w.routing.sessions s).player = some requester
  present : requester ∈ playerIds w.routing r

structure World.Receives (w : World) (r : RoomRef) (s : SessionId) (requester : ObjectId) : Prop
    extends Asks w r s requester where
  inRange : w.routing.InRange
  known : w.routing.Registered r
  named : (w.routing.rooms r).fieldId = .dungeon → (w.routing.rooms r).instanceId ≠ 0
  parties : w.routing.parties.WellFormed
  seated : w.routing.AllSeated r

namespace World.Receives

variable {w : World} {r : RoomRef} {s : SessionId} {requester : ObjectId}

theorem locked (receives : w.Receives r s requester) :
    lockPlayer w.routing w.scene [] s = some requester := by
  apply lockPlayer_of_alive w.routing w.scene [] s requester receives.owner
  exact standing_alive w.routing w.scene receives.inRange [] r requester receives.known
    receives.present

theorem town (receives : w.Receives r s requester) (pkt : CChangeMap) (dest : RoomRef)
    (mapId : pkt.mapId = MapId.town)
    (channel : w.routing.staticRoom .town pkt.channel = some dest) :
    ChangesMap w r s requester pkt dest 0 w [(s, requester)]
      (w.changeMapTo r dest s requester pkt 0) where
  leads := .town dest mapId channel
  goes := by
    intro member
    rw [Goes, if_neg (town_alone pkt mapId _), List.mem_singleton]
  sessions := List.nodup_singleton _
  players := List.nodup_singleton _
  departs := by
    rw [changeMapTo_alone w r dest s requester pkt 0 (town_alone pkt mapId _)]
    exact .moveOver [requester] pkt 0 s requester w receives.present receives.owner
      (List.mem_singleton_self _) receives.seated receives.named

theorem goAlong_distinct (receives : w.Receives r s requester) :
    ((goAlong w.routing r s requester).map (·.2)).Nodup := by
  unfold goAlong
  dsimp only
  split
  case h_1 party found =>
    split at found
    case isTrue =>
      exact (partyToMove_sublist w.routing r party).nodup (receives.parties.party _ party found).nodup
    case isFalse => cases found
  case h_2 => exact List.nodup_singleton _

theorem goAlong_standing (receives : w.Receives r s requester) (member : SessionId × ObjectId)
    (goes : member ∈ goAlong w.routing r s requester) :
    member.2 ∈ playerIds w.routing r ∧ (w.routing.sessions member.1).player = some member.2 := by
  unfold goAlong at goes
  dsimp only at goes
  split at goes
  case h_1 party _ =>
    obtain ⟨-, standing, session⟩ := (mem_partyToMove_iff w.routing r party member).mp goes
    exact ⟨standing, receives.bound member.2 standing member.1 session⟩
  case h_2 =>
    rw [List.mem_singleton.mp goes]
    exact ⟨receives.present, receives.owner⟩

theorem goAlong_sessions (receives : w.Receives r s requester) :
    ((goAlong w.routing r s requester).map (·.1)).Nodup := by
  apply List.Nodup.map_on _ (List.Nodup.of_map _ receives.goAlong_distinct)
  intro member goes other goes' same
  have names := (receives.goAlong_standing member goes).2
  have names' := (receives.goAlong_standing other goes').2
  rw [same, names'] at names
  exact Prod.ext same (Option.some.inj names).symm

theorem dungeon (receives : w.Receives r s requester) (pkt : CChangeMap)
    (mapId : pkt.mapId = MapId.dungeon) :
    ChangesMap w r s requester pkt w.routing.roomCount w.routing.instanceIdGen
      (w.createDungeonInstance data).2.2 (goAlong w.routing r s requester)
      ((w.createDungeonInstance data).2.2.changeMapTo r w.routing.roomCount s requester pkt
        w.routing.instanceIdGen) where
  leads := .dungeon _ mapId rfl (createDungeonInstance_apart data w)
  goes := mem_goAlong w.routing r s requester pkt mapId
  sessions := receives.goAlong_sessions
  players := receives.goAlong_distinct
  departs := by
    have made := receives.inRange.registered r receives.known
    have old : (w.createDungeonInstance data).2.2.routing.rooms r = w.routing.rooms r :=
      (Routing.Housed.rooms_openDungeon w.routing r).trans (if_neg (Nat.ne_of_lt made))
    obtain ⟨held, owned, moved⟩ := changeMapTo_dungeon (w.createDungeonInstance data).2.2 r
      w.routing.roomCount s requester pkt w.routing.instanceIdGen mapId
    rw [createDungeonInstance_routing, goAlong_openDungeon w.routing r made] at owned moved
    rw [moved]
    apply World.Departs.moveAll held pkt _ _ _ receives.goAlong_distinct
    · intro member goes
      obtain ⟨standing, names⟩ := receives.goAlong_standing member goes
      rw [old]
      exact ⟨standing, names, owned member goes⟩
    · intro id standing
      rw [playerIds, old] at standing
      exact receives.seated id standing
    · rw [old]
      exact receives.named

end World.Receives

theorem ChangesMap.answered {w next opened : World} {r dest : RoomRef} {s : SessionId}
    {requester : ObjectId} {pkt : CChangeMap} {instanceId : InstanceId}
    {gone : List (SessionId × ObjectId)}
    (changes : ChangesMap w r s requester pkt dest instanceId opened gone next) :
    next ≠ w.sendTo s (changeMapRefused pkt) := by
  intro refused
  obtain ⟨told, scene, answers, -⟩ := changes.departs.scene
  have before : opened.scene.sent = w.scene.sent := by
    cases changes.leads with
    | town => rfl
    | dungeon _ _ _ apart => exact apart.sent
  have sent : w.scene.sent ++ told = w.scene.sent ++ [(s, changeMapRefused pkt)] := by
    rw [← before]
    calc
      opened.scene.sent ++ told = next.scene.sent := by rw [scene]
      _ = opened.scene.sent ++ [(s, changeMapRefused pkt)] := by
        rw [refused, before]
        rfl
  rw [List.append_cancel_left sent] at answers
  have one : (s, changeMapRefused pkt) ∈ gone.map fun member =>
      (member.1, ServerPacket.changeMap true pkt.mapId pkt.channel instanceId) := by
    rw [← answers]
    exact List.mem_singleton_self _
  obtain ⟨member, -, same⟩ := List.mem_map.mp one
  cases same

theorem granted_town (a : Routing) (requester : ObjectId) (pkt : CChangeMap) (dest : RoomRef)
    (mapId : pkt.mapId = MapId.town) (found : a.staticRoom .town pkt.channel = some dest) :
    ¬ ChangeRefused a requester pkt := by
  rintro (⟨away, -⟩ | ⟨-, missing⟩ | ⟨dungeon, -⟩)
  · exact away mapId
  · rw [found] at missing
    cases missing
  · rw [mapId] at dungeon
    exact absurd dungeon (by decide)

theorem granted_dungeon (a : Routing) (requester : ObjectId) (pkt : CChangeMap)
    (mapId : pkt.mapId = MapId.dungeon)
    (free : (a.parties.isInParty requester && !a.parties.isLeader requester) = false) :
    ¬ ChangeRefused a requester pkt := by
  rintro (⟨-, away⟩ | ⟨town, -⟩ | ⟨-, member, follows⟩)
  · exact away mapId
  · rw [mapId] at town
    exact absurd town (by decide)
  · simp [member, follows] at free

theorem handleCChangeMap_whole (w : World) (r : RoomRef) (s : SessionId) (requester : ObjectId)
    (receives : w.Receives r s requester) (pkt : CChangeMap) :
    (ChangeRefused w.routing requester pkt →
      handleCChangeMap data w r s pkt = w.sendTo s (changeMapRefused pkt)) ∧
    (¬ ChangeRefused w.routing requester pkt → ∃ dest instanceId opened gone,
      ChangesMap w r s requester pkt dest instanceId opened gone
        (handleCChangeMap data w r s pkt)) := by
  have same (other : ObjectId) (locked : lockPlayer w.routing w.scene [] s = some other) :
      other = requester := Option.some.inj (locked.symm.trans receives.locked)
  cases handleCChangeMap_cases data w r s pkt with
  | absent unlocked _ =>
      rw [receives.locked] at unlocked
      cases unlocked
  | refused other locked refused result =>
      rw [same other locked] at refused
      exact ⟨fun _ => result, fun granted => absurd refused granted⟩
  | town other locked mapId dest found result =>
      rw [result, same other locked]
      refine ⟨fun refused => ?_, fun _ => ⟨dest, 0, w, _, receives.town pkt dest mapId found⟩⟩
      exact absurd refused (granted_town w.routing requester pkt dest mapId found)
  | dungeon other locked mapId free result =>
      rw [same other locked] at free result
      rw [result]
      refine ⟨fun refused => ?_, fun _ => ⟨_, _, _, _, receives.dungeon data pkt mapId⟩⟩
      exact absurd refused (granted_dungeon w.routing requester pkt mapId free)

inductive Arises : World → Prop where
  | between (store : Store) (redisConnected : Bool) (rand : List Nat) (events : List Event)
      (w : World) (run : reached data store redisConnected rand events = some w) : Arises w
  | atJob (store : Store) (redisConnected : Bool) (rand : List Nat) (events : List Event)
      (w : World) (run : reached data store redisConnected rand events = some w)
      (r : RoomRef) (job : Job) (rest : List Job)
      (front : w.routing.nextJob = some (r, job, rest)) (rand' : List Nat) :
      Arises (w.forJob r rest rand')

theorem Asks.receives {w : World} {r : RoomRef} {s : SessionId} {requester : ObjectId}
    (asks : Asks w r s requester) (inRange : w.routing.InRange) (housed : w.routing.Housed)
    (parties : w.routing.parties.WellFormed) (seated : w.routing.AllSeated r) :
    w.Receives r s requester := by
  have known := housed.registered r (.inl ⟨requester, asks.present⟩)
  refine ⟨asks, inRange, known, ?_, parties, seated⟩
  intro dungeon
  have listed := housed.dungeons _ r (housed.entry r known dungeon)
  exact Nat.ne_of_gt listed.2.2.1

theorem arises_receives {w : World} (arises : Arises data w) {r : RoomRef} {s : SessionId}
    {requester : ObjectId} (asks : Asks w r s requester) : w.Receives r s requester := by
  cases arises with
  | between store redisConnected rand events w run =>
      have governed := reached_governed data store redisConnected rand events w run
      exact asks.receives governed.inRange governed.housed governed.parties (governed.standing r)
  | atJob store redisConnected rand events w run r' job rest front rand' =>
      have governed := reached_governed data store redisConnected rand events w run
      apply asks.receives _ (governed.housed.popJob r' job rest front) governed.parties
      · intro id standing
        have before : id ∈ ((w.routing.popJob r' rest).rooms r).players := standing
        rw [Routing.players_popJob] at before
        exact governed.standing r id before
      · exact (forJob_keeps w r' job rest rand' front).inRange governed.inRange

/-- A change of the map is refused, and then changes nothing, or it is carried out for all who
go, and for nobody else. -/
theorem change_map_all_or_nothing (w : World) (arises : Arises data w) (r : RoomRef)
    (s : SessionId) (requester : ObjectId) (asks : Asks w r s requester) (pkt : CChangeMap) :
    (handleCChangeMap data w r s pkt = w.sendTo s (changeMapRefused pkt) ↔
      ChangeRefused w.routing requester pkt) ∧
    (¬ ChangeRefused w.routing requester pkt → ∃ dest instanceId opened gone,
      ChangesMap w r s requester pkt dest instanceId opened gone
        (handleCChangeMap data w r s pkt)) := by
  obtain ⟨refused, granted⟩ :=
    handleCChangeMap_whole data w r s requester (arises_receives data arises asks) pkt
  refine ⟨⟨?_, refused⟩, granted⟩
  intro nothing
  by_contra goes
  obtain ⟨dest, instanceId, opened, gone, changes⟩ := granted goes
  exact changes.answered nothing

set_option maxRecDepth 20000 in
theorem pair_changes_map : ∃ w, reached smallGame newStore false [] pairInTown = some w ∧
    ∃ dest instanceId opened gone, ChangesMap w 0 1 1 ⟨MapId.dungeon, 0⟩ dest instanceId opened gone
      (handleCChangeMap smallGame w 0 1 ⟨MapId.dungeon, 0⟩) := by
  have run : (reached smallGame newStore false [] pairInTown).any (fun w =>
      playerIds w.routing 0 = [1, 2] ∧
        (w.routing.playerSession 1 = some 1 ∧ w.routing.playerSession 2 = some 2) ∧
        ((w.routing.sessions 1).player = some 1 ∧ (w.routing.sessions 2).player = some 2) ∧
        w.routing.parties.isLeader 1 = true) = true := by decide +kernel
  obtain ⟨w, run, checked⟩ := Option.any_eq_true _ _ |>.mp run
  obtain ⟨players, ⟨first, second⟩, ⟨owner, other⟩, leads⟩ := of_decide_eq_true checked
  have asks : Asks w 0 1 1 := by
    refine ⟨?_, owner, players ▸ List.mem_cons_self⟩
    intro id standing s' session
    rw [players] at standing
    rcases List.mem_pair.mp standing with rfl | rfl
    · rw [first] at session
      cases session
      exact owner
    · rw [second] at session
      cases session
      exact other
  have granted : ¬ ChangeRefused w.routing 1 ⟨MapId.dungeon, 0⟩ := by
    rintro (⟨-, away⟩ | ⟨town, -⟩ | ⟨-, -, follows⟩)
    · exact away rfl
    · exact absurd town (by decide)
    · rw [leads] at follows
      cases follows
  refine ⟨w, run, ?_⟩
  exact (change_map_all_or_nothing smallGame w (.between newStore false [] pairInTown w run) 0 1 1
    asks ⟨MapId.dungeon, 0⟩).2 granted

end ZeldaServer
