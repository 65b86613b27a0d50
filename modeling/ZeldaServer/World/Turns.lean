import ZeldaServer.World.Events

/-! What a job and a step do to the rooms, the tables and the pass, in closed form. -/

namespace ZeldaServer

variable (data : GameData)

/-- Players move from a room to another one, in turn: each one's session takes its player
out of the room, if that is still alive, and an `EnterRoom` is left for the player. -/
inductive Routing.Moves (source dest : RoomRef) :
    List (SessionId × ObjectId) → Routing → Routing → Prop where
  | nil (a : Routing) : Moves source dest [] a a
  | stay (a b : Routing) (s : SessionId) (id : ObjectId) (rest : List (SessionId × ObjectId))
      (away : ∀ other, (a.sessions s).player = some other → other ∉ (a.rooms source).players)
      (later : Moves source dest rest (a.pushJob dest (.enterRoom s id)) b) :
      Moves source dest ((s, id) :: rest) a b
  | leave (a b : Routing) (s : SessionId) (id other : ObjectId)
      (rest : List (SessionId × ObjectId)) (named : (a.sessions s).player = some other)
      (later : Moves source dest rest ((a.leave source other).pushJob dest (.enterRoom s id)) b) :
      Moves source dest ((s, id) :: rest) a b

/-- The tables of `GameRoomManager` and the pass are the same. -/
structure Routing.SameTables (a b : Routing) : Prop where
  statics : b.staticRooms = a.staticRooms
  dungeons : b.dungeonInstances = a.dungeonInstances
  roomCount : b.roomCount = a.roomCount
  instanceIdGen : b.instanceIdGen = a.instanceIdGen
  pass : b.pass = a.pass

namespace Routing.SameTables

theorem refl (a : Routing) : a.SameTables a := ⟨rfl, rfl, rfl, rfl, rfl⟩

theorem trans {a b c : Routing} (first : a.SameTables b) (second : b.SameTables c) :
    a.SameTables c where
  statics := second.statics.trans first.statics
  dungeons := second.dungeons.trans first.dungeons
  roomCount := second.roomCount.trans first.roomCount
  instanceIdGen := second.instanceIdGen.trans first.instanceIdGen
  pass := second.pass.trans first.pass

theorem leave (a : Routing) (r : RoomRef) (id : ObjectId) : a.SameTables (a.leave r id) := by
  unfold Routing.leave Routing.requestRemoval
  dsimp only
  split
  · split <;> exact ⟨rfl, rfl, rfl, rfl, rfl⟩
  · split <;> exact ⟨rfl, rfl, rfl, rfl, rfl⟩

theorem moves {source dest : RoomRef} {moves : List (SessionId × ObjectId)} {a b : Routing}
    (moved : Routing.Moves source dest moves a b) : a.SameTables b := by
  induction moved with
  | nil a => exact refl a
  | stay a b s id rest _ _ ih =>
      exact ⟨ih.statics, ih.dungeons, ih.roomCount, ih.instanceIdGen, ih.pass⟩
  | leave a b s id other rest _ _ ih =>
      apply (SameTables.leave a source other).trans
      exact ⟨ih.statics, ih.dungeons, ih.roomCount, ih.instanceIdGen, ih.pass⟩

theorem registered {a b : Routing} (same : a.SameTables b) (r : RoomRef) :
    b.Registered r ↔ a.Registered r := by
  simp only [Routing.Registered, same.statics, same.dungeons]

end Routing.SameTables

theorem leave_sessions (a : Routing) (r : RoomRef) (id : ObjectId) :
    (a.leave r id).sessions = a.sessions :=
  (leave_calm a r id).sessions

structure Routing.SameRoom (a b : Routing) (r : RoomRef) : Prop where
  fieldId : (b.rooms r).fieldId = (a.rooms r).fieldId
  instanceId : (b.rooms r).instanceId = (a.rooms r).instanceId
  batch : (b.rooms r).batch = (a.rooms r).batch

theorem Routing.SameRoom.trans {a b c : Routing} {r : RoomRef} (first : a.SameRoom b r)
    (second : b.SameRoom c r) : a.SameRoom c r where
  fieldId := second.fieldId.trans first.fieldId
  instanceId := second.instanceId.trans first.instanceId
  batch := second.batch.trans first.batch

namespace Routing

theorem sameRoom_of_eq {a b : Routing} {r : RoomRef} (same : b.rooms r = a.rooms r) :
    a.SameRoom b r := by
  constructor <;> rw [same]

theorem sameRoom_pushJob (a : Routing) (r r' : RoomRef) (job : Job) :
    a.SameRoom (a.pushJob r job) r' := by
  constructor
  all_goals
    rw [pushJob, rooms_setRoom]
    split
    case isTrue same => rw [same]
    case isFalse => rfl

theorem sameRoom_erasePlayer (a : Routing) (r r' : RoomRef) (id : ObjectId) :
    a.SameRoom (a.erasePlayer r id) r' := by
  constructor
  all_goals
    rw [erasePlayer, rooms_setRoom]
    split
    case isTrue same => rw [same]
    case isFalse => rfl

theorem popJob_identity (a : Routing) (r r' : RoomRef) (rest : List Job) :
    ((a.popJob r rest).rooms r').fieldId = (a.rooms r').fieldId ∧
      ((a.popJob r rest).rooms r').instanceId = (a.rooms r').instanceId := by
  rw [popJob, rooms_setRoom]
  split
  case isTrue same => rw [same]; exact ⟨rfl, rfl⟩
  case isFalse => exact ⟨rfl, rfl⟩

theorem jobs_popJob (a : Routing) (r r' : RoomRef) (rest : List Job) :
    ((a.popJob r rest).rooms r').jobs = (a.rooms r').jobs := by
  rw [popJob, rooms_setRoom]
  split
  case isTrue same => rw [same]
  case isFalse => rfl

theorem batch_popJob (a : Routing) (r r' : RoomRef) (rest : List Job) :
    ((a.popJob r rest).rooms r').batch = if r' = r then rest else (a.rooms r').batch := by
  rw [popJob, rooms_setRoom]
  split <;> rfl

theorem sameRoom_addPlayer (a : Routing) (r r' : RoomRef) (id : ObjectId) :
    a.SameRoom (a.addPlayer r id) r' := by
  constructor
  all_goals
    rw [addPlayer, rooms_setRoom]
    split
    case isTrue same => rw [same]
    case isFalse => rfl

theorem jobs_addPlayer (a : Routing) (r r' : RoomRef) (id : ObjectId) :
    ((a.addPlayer r id).rooms r').jobs = (a.rooms r').jobs := by
  rw [addPlayer, rooms_setRoom]
  split
  case isTrue same => rw [same]
  case isFalse => rfl

theorem sameRoom_leave (a : Routing) (r r' : RoomRef) (id : ObjectId) :
    a.SameRoom (a.leave r id) r' := by
  unfold leave
  split
  · apply (sameRoom_erasePlayer a r r' id).trans
    exact sameRoom_of_eq (congrFun (requestRemoval_rooms _ r) r')
  · exact sameRoom_of_eq (congrFun (requestRemoval_rooms a r) r')

theorem jobs_pushJob (a : Routing) (r r' : RoomRef) (job : Job) :
    ((a.pushJob r job).rooms r').jobs =
      if r' = r then (a.rooms r').jobs ++ [job] else (a.rooms r').jobs := by
  rw [pushJob, rooms_setRoom]
  split
  case isTrue same => rw [same]
  case isFalse => rfl

theorem jobs_erasePlayer (a : Routing) (r r' : RoomRef) (id : ObjectId) :
    ((a.erasePlayer r id).rooms r').jobs = (a.rooms r').jobs := by
  rw [erasePlayer, rooms_setRoom]
  split
  case isTrue same => rw [same]
  case isFalse => rfl

theorem jobs_leave (a : Routing) (r r' : RoomRef) (id : ObjectId) :
    ((a.leave r id).rooms r').jobs = (a.rooms r').jobs := by
  unfold leave
  rw [requestRemoval_rooms]
  split
  · exact jobs_erasePlayer a r r' id
  · rfl

end Routing

theorem moves_sameRoom {source dest : RoomRef} {moves : List (SessionId × ObjectId)}
    {a b : Routing} (moved : Routing.Moves source dest moves a b) (r : RoomRef) :
    a.SameRoom b r := by
  induction moved with
  | nil a => exact ⟨rfl, rfl, rfl⟩
  | stay a b s id rest _ _ ih => exact (Routing.sameRoom_pushJob a dest r _).trans ih
  | leave a b s id other rest _ _ ih =>
      exact (Routing.sameRoom_leave a source r other).trans
        ((Routing.sameRoom_pushJob _ dest r _).trans ih)

/-- The `EnterRoom` jobs of the moves, in their order. -/
def enterJobs (moves : List (SessionId × ObjectId)) : List Job :=
  moves.map fun move => .enterRoom move.1 move.2

theorem moves_jobs {source dest : RoomRef} {moves : List (SessionId × ObjectId)}
    {a b : Routing} (moved : Routing.Moves source dest moves a b) (r : RoomRef) :
    (b.rooms r).jobs = (a.rooms r).jobs ++ if r = dest then enterJobs moves else [] := by
  induction moved with
  | nil a => simp [enterJobs]
  | stay a b s id rest _ _ ih =>
      rw [ih, Routing.jobs_pushJob]
      split <;> simp [enterJobs]
  | leave a b s id other rest _ _ ih =>
      rw [ih, Routing.jobs_pushJob, Routing.jobs_leave]
      split <;> simp [enterJobs]

theorem moves_players {source dest : RoomRef} {moves : List (SessionId × ObjectId)}
    {a b : Routing} (moved : Routing.Moves source dest moves a b) (r : RoomRef) (id : ObjectId) :
    id ∈ (b.rooms r).players ↔ id ∈ (a.rooms r).players ∧
      (r = source → ∀ move ∈ moves, (a.sessions move.1).player ≠ some id) := by
  induction moved with
  | nil a => simp
  | stay a b s id' rest away _ ih =>
      rw [ih, Routing.players_pushJob]
      constructor
      · rintro ⟨standing, others⟩
        refine ⟨standing, fun same move member => ?_⟩
        rcases List.mem_cons.mp member with rfl | later
        · intro named
          exact away id named (same ▸ standing)
        · exact others same move later
      · rintro ⟨standing, others⟩
        exact ⟨standing, fun same move later => others same move (List.mem_cons_of_mem _ later)⟩
  | leave a b s id' other rest named _ ih =>
      have sessions : ((a.leave source other).pushJob dest (.enterRoom s id')).sessions =
          a.sessions := leave_sessions a source other
      rw [ih, Routing.players_pushJob, players_leave, sessions]
      constructor
      · rintro ⟨standing, others⟩
        split at standing
        case isTrue same =>
          obtain ⟨before, apart⟩ := List.mem_filter.mp standing
          refine ⟨before, fun _ move member => ?_⟩
          rcases List.mem_cons.mp member with rfl | later
          · intro names
            rw [named] at names
            exact of_decide_eq_true apart (Option.some.inj names).symm
          · exact others same move later
        case isFalse apart => exact ⟨standing, fun same => absurd same apart⟩
      · rintro ⟨standing, others⟩
        refine ⟨?_, fun same move later => others same move (List.mem_cons_of_mem _ later)⟩
        split
        case isTrue same =>
          apply List.mem_filter.mpr
          refine ⟨standing, decide_eq_true ?_⟩
          intro same
          subst same
          exact others same (s, id') List.mem_cons_self named
        case isFalse => exact standing

theorem leave_pending (a : Routing) (r : RoomRef) (id : ObjectId) (instanceId : InstanceId) :
    instanceId ∈ (a.leave r id).pendingRemoveDungeon ↔
      instanceId ∈ a.pendingRemoveDungeon ∨
        (instanceId = (a.rooms r).instanceId ∧ (a.rooms r).fieldId = .dungeon ∧
          ((a.leave r id).rooms r).players = [] ∧ instanceId ≠ 0) := by
  have kept (b : Routing) (pending : b.pendingRemoveDungeon = a.pendingRemoveDungeon)
      (same : a.SameRoom b r) :
      instanceId ∈ (b.requestRemoval r).pendingRemoveDungeon ↔
        instanceId ∈ a.pendingRemoveDungeon ∨
          (instanceId = (a.rooms r).instanceId ∧ (a.rooms r).fieldId = .dungeon ∧
            ((b.requestRemoval r).rooms r).players = [] ∧ instanceId ≠ 0) := by
    rw [Routing.requestRemoval_rooms]
    unfold Routing.requestRemoval
    dsimp only
    rw [same.fieldId, same.instanceId]
    split
    case isTrue request =>
      obtain ⟨dungeon, empty, nonzero⟩ := request
      rw [List.mem_append, List.mem_singleton, pending]
      apply or_congr_right
      constructor
      · intro same
        exact ⟨same, dungeon, empty, same ▸ nonzero⟩
      · exact fun request => request.1
    case isFalse none =>
      rw [pending]
      constructor
      · exact Or.inl
      · rintro (before | ⟨same, dungeon, empty, nonzero⟩)
        · exact before
        · exact absurd ⟨dungeon, empty, same ▸ nonzero⟩ none
  unfold Routing.leave
  split
  · exact kept _ rfl (Routing.sameRoom_erasePlayer a r r id)
  · exact kept a rfl ⟨rfl, rfl, rfl⟩

theorem moves_pending_mono {source dest : RoomRef} {moves : List (SessionId × ObjectId)}
    {a b : Routing} (moved : Routing.Moves source dest moves a b) (instanceId : InstanceId)
    (requested : instanceId ∈ a.pendingRemoveDungeon) : instanceId ∈ b.pendingRemoveDungeon := by
  induction moved with
  | nil a => exact requested
  | stay a b s id rest _ _ ih => exact ih requested
  | leave a b s id other rest _ _ ih =>
      apply ih
      exact (leave_pending a source other instanceId).mpr (.inl requested)

theorem moves_pending {source dest : RoomRef} {moves : List (SessionId × ObjectId)}
    {a b : Routing} (moved : Routing.Moves source dest moves a b) (instanceId : InstanceId)
    (requested : instanceId ∈ b.pendingRemoveDungeon) :
    instanceId ∈ a.pendingRemoveDungeon ∨
      (instanceId = (a.rooms source).instanceId ∧ (a.rooms source).fieldId = .dungeon ∧
        (b.rooms source).players = []) := by
  induction moved with
  | nil a => exact .inl requested
  | stay a b s id rest _ later ih =>
      have same := Routing.sameRoom_pushJob a dest source (.enterRoom s id)
      rw [← same.fieldId, ← same.instanceId]
      exact ih requested
  | leave a b s id other rest _ later ih =>
      have left := Routing.sameRoom_leave a source source other
      have same := left.trans (Routing.sameRoom_pushJob _ dest source (.enterRoom s id))
      rw [← same.fieldId, ← same.instanceId]
      rcases ih requested with before | request
      · rcases (leave_pending a source other instanceId).mp before with old | ⟨named, dungeon, empty, -⟩
        · exact .inl old
        · refine .inr ⟨named.trans same.instanceId.symm, same.fieldId.trans dungeon, ?_⟩
          apply List.eq_nil_iff_forall_not_mem.mpr
          intro standing member
          have before := ((moves_players later source standing).mp member).1
          rw [Routing.players_pushJob, empty] at before
          cases before
      · exact .inr request

theorem moves_emptied {source dest : RoomRef} {moves : List (SessionId × ObjectId)}
    {a b : Routing} (moved : Routing.Moves source dest moves a b)
    (dungeon : (a.rooms source).fieldId = .dungeon) (nonzero : (a.rooms source).instanceId ≠ 0)
    (before : (a.rooms source).players ≠ []) (after : (b.rooms source).players = []) :
    (a.rooms source).instanceId ∈ b.pendingRemoveDungeon := by
  induction moved with
  | nil a => exact absurd after before
  | stay a b s id rest _ later ih =>
      have same := Routing.sameRoom_pushJob a dest source (.enterRoom s id)
      rw [← same.instanceId]
      apply ih
      · rw [same.fieldId, dungeon]
      · rwa [same.instanceId]
      · rwa [Routing.players_pushJob]
      · exact after
  | leave a b s id other rest _ later ih =>
      have left := Routing.sameRoom_leave a source source other
      have same := left.trans (Routing.sameRoom_pushJob _ dest source (.enterRoom s id))
      by_cases empty : ((a.leave source other).rooms source).players = []
      · apply moves_pending_mono later
        apply (leave_pending a source other _).mpr
        exact .inr ⟨rfl, dungeon, empty, nonzero⟩
      · rw [← same.instanceId]
        apply ih
        · rw [same.fieldId, dungeon]
        · rwa [same.instanceId]
        · rwa [Routing.players_pushJob]
        · exact after

theorem lockPlayer_away (w : World) (inRange : w.routing.InRange) (held : List ObjectId)
    (r : RoomRef) (s : SessionId) (known : w.routing.Registered r)
    (locked : lockPlayer w.routing w.scene held s = none) (other : ObjectId)
    (named : (w.routing.sessions s).player = some other) : other ∉ (w.routing.rooms r).players := by
  intro standing
  have alive := standing_alive w.routing w.scene inRange held r other known standing
  rw [lockPlayer_of_alive w.routing w.scene held s other named alive] at locked
  cases locked

theorem moveAll_moves (held : List ObjectId) (source dest : RoomRef) (pkt : CChangeMap)
    (instanceId : InstanceId) (toMove : List (SessionId × ObjectId)) (w : World)
    (inRange : w.routing.InRange) (known : w.routing.Registered source)
    (known' : w.routing.Registered dest) :
    Routing.Moves source dest toMove w.routing (toMove.foldl (fun w member =>
      w.moveOver held source dest pkt instanceId member.1 member.2) w).routing := by
  induction toMove generalizing w with
  | nil => exact .nil _
  | cons head tail ih =>
      have moved := moveOver_routing w held source dest pkt instanceId head.1 head.2
      rw [leaveRoom_routing, sendTo_routing] at moved
      have left := ((leaveRoom_calm (w.sendTo head.1
        (.changeMap true pkt.mapId pkt.channel instanceId)) held source head.1)).toKeeps
      rw [leaveRoom_routing, sendTo_routing] at left
      have made := (left.inRange inRange).registered dest (left.registered dest known')
      have keeps := left.trans (.pushJob _ dest (.enterRoom head.1 head.2) made)
      rw [← moved] at keeps
      have rest := ih (w.moveOver held source dest pkt instanceId head.1 head.2)
        (keeps.inRange inRange) (keeps.registered source known) (keeps.registered dest known')
      cases locked : lockPlayer w.routing (w.sendTo head.1
          (.changeMap true pkt.mapId pkt.channel instanceId)).scene held head.1 with
      | none =>
          simp only [locked] at moved
          rw [moved] at rest
          apply Routing.Moves.stay _ _ head.1 head.2 tail _ rest
          exact lockPlayer_away (w.sendTo head.1 _) inRange held source head.1 known locked
      | some other =>
          simp only [locked] at moved
          rw [moved] at rest
          exact .leave _ _ head.1 head.2 other tail (lockPlayer_some _ _ _ _ _ locked).1 rest

/-- The session and the player that go into a new dungeon: a player in no party, or its
leader. -/
def opensDungeon (w : World) : Job → Option (SessionId × ObjectId)
  | .changeMap s pkt =>
      match lockPlayer w.routing w.scene [] s with
      | none => none
      | some requester =>
          if pkt.mapId = MapId.dungeon ∧
              (w.routing.parties.isInParty requester && !w.routing.parties.isLeader requester) =
                false then
            some (s, requester)
          else none
  | _ => none

def changesChannel (w : World) : Job → Option (RoomRef × SessionId × ObjectId)
  | .changeMap s pkt =>
      match lockPlayer w.routing w.scene [] s with
      | none => none
      | some requester =>
          if pkt.mapId = MapId.town then
            (w.routing.staticRoom .town pkt.channel).map fun dest => (dest, s, requester)
          else none
  | _ => none

theorem changesChannel_unopened (w : World) (job : Job) (dest : RoomRef)
    (member : SessionId × ObjectId) (changes : changesChannel w job = some (dest, member)) :
    opensDungeon w job = none := by
  cases job with
  | changeMap s pkt =>
      simp only [changesChannel] at changes
      simp only [opensDungeon]
      cases locked : lockPlayer w.routing w.scene [] s with
      | none => rfl
      | some requester =>
          simp only [locked] at changes
          split at changes
          case isTrue town =>
            have other : ¬ pkt.mapId = MapId.dungeon := by
              rw [town]
              decide
            exact if_neg fun both => other both.1
          case isFalse => cases changes
  | _ => cases changes

theorem changesChannel_static (w : World) (job : Job) (dest : RoomRef)
    (member : SessionId × ObjectId) (changes : changesChannel w job = some (dest, member)) :
    ∃ key, (key, dest) ∈ w.routing.staticRooms := by
  cases job with
  | changeMap s pkt =>
      simp only [changesChannel] at changes
      cases locked : lockPlayer w.routing w.scene [] s with
      | none => simp [locked] at changes
      | some requester =>
          simp only [locked] at changes
          split at changes
          case isTrue =>
            obtain ⟨found, there, same⟩ := Option.map_eq_some_iff.mp changes
            cases same
            simp only [Routing.staticRoom, Option.map_eq_some_iff] at there
            obtain ⟨entry, first, rfl⟩ := there
            exact ⟨entry.1, List.mem_of_find?_eq_some first⟩
          case isFalse => cases changes
  | _ => cases changes

/-- Those who go into the dungeon: with its leader all of a party that is in the room. -/
def goAlong (a : Routing) (r : RoomRef) (s : SessionId) (requester : ObjectId) :
    List (SessionId × ObjectId) :=
  let party :=
    if a.parties.isLeader requester then a.parties.parties (a.parties.partyIdByPlayer requester)
    else none
  match party with
  | some party => partyToMove a r party
  | none => [(s, requester)]

/-- The jobs that call the `PartyManager`'s updates. -/
def Job.changesParties : Job → Bool
  | .partyAnswer _ _ _ | .partyLeave _ => true
  | _ => false

/-- What a job of room `r` other than an `EnterRoom` does to the rooms and the tables. -/
inductive World.Worked (w : World) (r : RoomRef) (job : Job) (b : Routing) : Prop where
  | rooms (rooms : b.rooms = w.routing.rooms) (tables : w.routing.SameTables b)
      (pending : b.pendingRemoveDungeon = w.routing.pendingRemoveDungeon)
      (unopened : opensDungeon w job = none) (unchanged : changesChannel w job = none)
      (parties : job.changesParties = false → b.parties = w.routing.parties) : Worked w r job b
  | buried (victim : ObjectId) (s : SessionId) (pkt : CAttack) (attack : job = .attack s pkt)
      (killed : attackVictim w r s pkt = some victim)
      (result : b = w.routing.erasePlayer r victim) : Worked w r job b
  | left (s : SessionId) (id : ObjectId) (leaves : job = .leaveRoom s)
      (locked : lockPlayer w.routing w.scene [] s = some id)
      (result : b = w.routing.leave r id) : Worked w r job b
  | moved (dest : RoomRef) (s : SessionId) (requester : ObjectId)
      (changes : changesChannel w job = some (dest, s, requester))
      (result : Routing.Moves r dest [(s, requester)] w.routing b) : Worked w r job b
  | opened (s : SessionId) (requester : ObjectId)
      (opens : opensDungeon w job = some (s, requester))
      (result : Routing.Moves r w.routing.roomCount (goAlong w.routing r s requester)
        w.routing.openDungeon b) : Worked w r job b

theorem partyToMove_openDungeon (a : Routing) (r : RoomRef) (made : r < a.roomCount)
    (party : Party) : partyToMove a.openDungeon r party = partyToMove a r party := by
  have same : a.openDungeon.rooms r = a.rooms r :=
    (Routing.rooms_addRoom a r _).trans (if_neg (Nat.ne_of_lt made))
  have players : playerIds a.openDungeon r = playerIds a r := congrArg Room.players same
  unfold partyToMove
  rw [players]
  rfl

theorem goAlong_openDungeon (a : Routing) (r : RoomRef) (made : r < a.roomCount) (s : SessionId)
    (requester : ObjectId) : goAlong a.openDungeon r s requester = goAlong a r s requester := by
  have parties : a.openDungeon.parties = a.parties := rfl
  unfold goAlong
  rw [parties]
  dsimp only
  split
  · exact partyToMove_openDungeon a r made _
  · rfl

theorem changeMapTo_dungeon (w : World) (source dest : RoomRef) (s : SessionId)
    (requester : ObjectId) (pkt : CChangeMap) (instanceId : InstanceId)
    (mapId : pkt.mapId = MapId.dungeon) :
    ∃ held, (∀ member ∈ goAlong w.routing source s requester, member.2 ∈ held) ∧
      w.changeMapTo source dest s requester pkt instanceId =
        (goAlong w.routing source s requester).foldl (fun w member =>
          w.moveOver held source dest pkt instanceId member.1 member.2) w := by
  unfold World.changeMapTo goAlong
  simp only [mapId, true_and]
  cases (if w.routing.parties.isLeader requester = true then
      w.routing.parties.parties (w.routing.parties.partyIdByPlayer requester)
    else none) with
  | none =>
      refine ⟨[requester], fun member goes => ?_, rfl⟩
      rw [List.mem_singleton.mp goes]
      exact List.mem_singleton_self _
  | some party =>
      exact ⟨_, fun member goes => List.mem_cons_of_mem _ (List.mem_map_of_mem goes), rfl⟩

theorem refused_stays (w : World) (s : SessionId) (pkt : CChangeMap) (requester : ObjectId)
    (locked : lockPlayer w.routing w.scene [] s = some requester)
    (refused : ChangeRefused w.routing requester pkt) :
    opensDungeon w (.changeMap s pkt) = none ∧ changesChannel w (.changeMap s pkt) = none := by
  have apart : MapId.town ≠ MapId.dungeon := by decide
  rcases refused with ⟨away, elsewhere⟩ | ⟨town, missing⟩ | ⟨dungeon, member, follows⟩
  · simp [opensDungeon, changesChannel, locked, away, elsewhere]
  · simp [opensDungeon, changesChannel, locked, town, missing, apart]
  · simp [opensDungeon, changesChannel, locked, dungeon, member, follows, apart.symm]

theorem opensDungeon_free (w : World) (s : SessionId) (pkt : CChangeMap) (requester : ObjectId)
    (locked : lockPlayer w.routing w.scene [] s = some requester)
    (mapId : pkt.mapId = MapId.dungeon)
    (free : (w.routing.parties.isInParty requester &&
      !w.routing.parties.isLeader requester) = false) :
    opensDungeon w (.changeMap s pkt) = some (s, requester) := by
  simp only [opensDungeon, locked]
  exact if_pos ⟨mapId, free⟩

theorem changesChannel_found (w : World) (s : SessionId) (pkt : CChangeMap)
    (requester : ObjectId) (locked : lockPlayer w.routing w.scene [] s = some requester)
    (mapId : pkt.mapId = MapId.town) (dest : RoomRef)
    (found : w.routing.staticRoom .town pkt.channel = some dest) :
    changesChannel w (.changeMap s pkt) = some (dest, s, requester) := by
  simp [changesChannel, locked, mapId, found]

theorem handleCChangeMap_worked (w : World) (r : RoomRef) (s : SessionId) (pkt : CChangeMap)
    (inRange : w.routing.InRange) (known : w.routing.Registered r) :
    w.Worked r (.changeMap s pkt) (handleCChangeMap data w r s pkt).routing := by
  cases handleCChangeMap_cases data w r s pkt with
  | absent unlocked result =>
      rw [result]
      exact .rooms rfl (.refl _) rfl (by simp [opensDungeon, unlocked])
        (by simp [changesChannel, unlocked]) fun _ => rfl
  | refused requester locked refused result =>
      obtain ⟨unopened, unchanged⟩ := refused_stays w s pkt requester locked refused
      rw [result]
      exact .rooms rfl (.refl _) rfl unopened unchanged fun _ => rfl
  | town requester locked mapId dest found result =>
      rw [result, changeMapTo_alone w r dest s requester pkt 0 (town_alone pkt mapId _)]
      apply World.Worked.moved dest s requester
        (changesChannel_found w s pkt requester locked mapId dest found)
      exact moveAll_moves [requester] r dest pkt 0 [(s, requester)] w inRange known
        (staticRoom_registered _ _ _ _ found)
  | dungeon requester locked mapId free result =>
      have opened := Routing.Keeps.openDungeon w.routing
      have fresh : w.routing.openDungeon.Registered w.routing.roomCount :=
        (Routing.Keeps.registered_openDungeon w.routing _).mpr (.inr rfl)
      obtain ⟨held, -, goes⟩ := changeMapTo_dungeon (w.createDungeonInstance data).2.2 r
        w.routing.roomCount s requester pkt w.routing.instanceIdGen mapId
      rw [createDungeonInstance_routing,
        goAlong_openDungeon w.routing r (inRange.registered r known)] at goes
      rw [result, goes]
      apply World.Worked.opened s requester (opensDungeon_free w s pkt requester locked mapId free)
      exact moveAll_moves held r w.routing.roomCount pkt w.routing.instanceIdGen _
        (w.createDungeonInstance data).2.2 (opened.inRange inRange) (opened.registered r known) fresh

theorem runJob_worked (w : World) (r : RoomRef) (job : Job) (inRange : w.routing.InRange)
    (known : w.routing.Registered r) (stays : job.entering = none) :
    w.Worked r job (runJob data w r job).routing := by
  have still (b : Routing) (same : b = w.routing) (unopened : opensDungeon w job = none)
      (unchanged : changesChannel w job = none) : w.Worked r job b := by
    rw [same]
    exact .rooms rfl (.refl _) rfl unopened unchanged fun _ => rfl
  cases job with
  | move s pkt => exact still _ rfl rfl rfl
  | turn s pkt => exact still _ rfl rfl rfl
  | attack s pkt =>
      rw [runJob, handleCAttack_routing]
      cases killed : attackVictim w r s pkt with
      | none => exact still _ rfl rfl rfl
      | some victim => exact .buried victim s pkt rfl killed rfl
  | changeMap s pkt => exact handleCChangeMap_worked data w r s pkt inRange known
  | equipItem s slot => exact still _ (itemJob_routing _ w s) rfl rfl
  | unequipItem s equipType => exact still _ (itemJob_routing _ w s) rfl rfl
  | useItem s slot => exact still _ (itemJob_routing _ w s) rfl rfl
  | partyInvite s targetId => exact still _ (partyInvite_routing w r s targetId) rfl rfl
  | partyAnswer s inviterId accept =>
      obtain ⟨parties, result, -⟩ := partyAnswer_routing w r s inviterId accept
      rw [runJob, result]
      exact .rooms rfl ⟨rfl, rfl, rfl, rfl, rfl⟩ rfl rfl rfl fun other => by cases other
  | partyLeave s =>
      obtain ⟨parties, result, -⟩ := partyLeave_routing w r s
      rw [runJob, result]
      exact .rooms rfl ⟨rfl, rfl, rfl, rfl, rfl⟩ rfl rfl rfl fun other => by cases other
  | enterRoom s player => cases stays
  | leaveRoom s =>
      rw [runJob, leaveRoom_routing]
      cases locked : lockPlayer w.routing w.scene [] s with
      | none => exact still _ rfl rfl rfl
      | some id => exact .left s id rfl locked rfl

theorem leave_parties (a : Routing) (r : RoomRef) (id : ObjectId) :
    (a.leave r id).parties = a.parties := by
  unfold Routing.leave Routing.requestRemoval
  dsimp only
  split
  · split <;> rfl
  · split <;> rfl

theorem moves_parties {source dest : RoomRef} {moves : List (SessionId × ObjectId)}
    {a b : Routing} (moved : Routing.Moves source dest moves a b) : b.parties = a.parties := by
  induction moved with
  | nil a => rfl
  | stay a b s id rest _ _ ih => exact ih
  | leave a b s id other rest _ _ ih => exact ih.trans (leave_parties a source other)

theorem worked_parties (w : World) (r : RoomRef) (job : Job) (b : Routing)
    (worked : w.Worked r job b) (other : job.changesParties = false) :
    b.parties = w.routing.parties := by
  cases worked with
  | rooms _ _ _ _ _ parties => exact parties other
  | buried victim s pkt _ _ result =>
      rw [result]
      rfl
  | left s id _ _ result =>
      rw [result]
      exact leave_parties w.routing r id
  | moved dest s requester _ result => exact moves_parties result
  | opened s requester _ result =>
      have opened : w.routing.openDungeon.parties = w.routing.parties := rfl
      exact (moves_parties result).trans opened

inductive World.Turned (w next : World) : Event → Prop where
  | quiet (e : Event) (jobless : ∀ rand, e ≠ .job rand) (ongoing : e ≠ .endUpdate)
      (rooms : next.routing.rooms = w.routing.rooms)
      (tables : w.routing.SameTables next.routing)
      (pending : next.routing.pendingRemoveDungeon = w.routing.pendingRemoveDungeon) :
      Turned w next e
  | pushed (s : SessionId) (pkt : ClientPacket) (r : RoomRef) (job : Job)
      (sends : pkt.job s = some job) (bound : (w.routing.sessions s).gameRoom = some r)
      (result : next.routing = w.routing.pushJob r job) : Turned w next (.packet s pkt)
  | login (s : SessionId) (username : Bytes) (r : RoomRef) (id : ObjectId)
      (town : w.routing.staticRoom .town 1 = some r)
      (rooms : next.routing.rooms = (w.routing.pushJob r (.enterRoom s id)).rooms)
      (tables : w.routing.SameTables next.routing)
      (pending : next.routing.pendingRemoveDungeon = w.routing.pendingRemoveDungeon) :
      Turned w next (.packet s (.login username))
  | left (s : SessionId) (r : RoomRef) (bound : (w.routing.sessions s).gameRoom = some r)
      (rooms : next.routing.rooms = (w.routing.pushJob r (.leaveRoom s)).rooms)
      (tables : w.routing.SameTables next.routing)
      (pending : next.routing.pendingRemoveDungeon = w.routing.pendingRemoveDungeon) :
      Turned w next (.disconnect s)
  | ran (rand : List Nat) (r : RoomRef) (job : Job) (rest : List Job)
      (front : w.routing.nextJob = some (r, job, rest))
      (result : next = runJob data (w.forJob r rest rand) r job) : Turned w next (.job rand)
  | update (idle : w.routing.pass = none)
      (result : next.routing = w.routing.setPass
        ⟨w.scene.now, w.routing.staticRooms.map (·.2), none, [], none⟩) : Turned w next .update
  | visitStatic (pass : Pass) (r : RoomRef) (statics : List RoomRef)
      (under_way : w.routing.pass = some pass) (idle : pass.current = none)
      (left : pass.statics = r :: statics)
      (result : next.routing = w.routing.startVisit { pass with statics } r) :
      Turned w next .visitStatic
  | loopDungeons (pass : Pass) (under_way : w.routing.pass = some pass)
      (idle : pass.current = none) (left : pass.statics = []) (first : pass.dungeonsFrom = none)
      (result : next.routing =
        w.routing.setPass { pass with dungeonsFrom := some w.routing.instanceIdGen }) :
      Turned w next .loopDungeons
  | visitDungeon (pass : Pass) (r : RoomRef) (instanceId : InstanceId)
      (under_way : w.routing.pass = some pass) (idle : pass.current = none)
      (loop : pass.dungeonsFrom ≠ none) (unvisited : instanceId ∉ pass.visited)
      (listed : (instanceId, r) ∈ w.routing.dungeonInstances)
      (result : next.routing =
        w.routing.startVisit { pass with visited := pass.visited ++ [instanceId] } r) :
      Turned w next (.visitDungeon instanceId)
  | goOn (e : Event) (jobless : ∀ rand, e ≠ .job rand) (ongoing : e ≠ .endUpdate) (pass : Pass)
      (visit : Visit) (current : Option Visit)
      (under_way : w.routing.pass = some pass) (visiting : pass.current = some visit)
      (drained : visit.steps = none → (w.routing.rooms visit.room).batch = [])
      (goes : current = none ∨ ∃ steps, current = some ⟨visit.room, some steps⟩)
      (result : next.routing = w.routing.setPass { pass with current }) : Turned w next e
  | endUpdate (pass : Pass) (dungeonsFrom : InstanceId) (under_way : w.routing.pass = some pass)
      (idle : pass.current = none) (loop : pass.dungeonsFrom = some dungeonsFrom)
      (complete : ∀ entry ∈ w.routing.dungeonInstances,
        entry.1 ∈ pass.visited ∨ dungeonsFrom ≤ entry.1)
      (result : next.routing = w.routing.removeDungeons) : Turned w next .endUpdate

theorem stepPass_turned (w next : World) (pass : Pass) (e : Event)
    (under_way : w.routing.pass = some pass) (passed : w.stepPass data pass e = some next) :
    w.Turned data next e := by
  unfold World.stepPass at passed
  split at passed
  case h_1 =>
    split at passed
    case h_1 r statics idle left =>
      cases passed
      exact .visitStatic pass r statics under_way idle left rfl
    case h_2 => cases passed
  case h_2 =>
    split at passed
    case isTrue ready =>
      cases passed
      exact .loopDungeons pass under_way ready.1 ready.2.1 ready.2.2 rfl
    case isFalse => cases passed
  case h_3 instanceId =>
    split at passed
    case h_1 => cases passed
    case h_2 entry found =>
      split at passed
      case isTrue ready =>
        cases passed
        have listed := List.mem_of_find?_eq_some found
        have named : entry.1 = instanceId := by simpa using List.find?_some found
        refine .visitDungeon pass entry.2 instanceId under_way ready.1 ready.2.1 ready.2.2 ?_ rfl
        rw [← named]
        exact listed
      case isFalse => cases passed
  case h_4 =>
    split at passed
    case h_1 r draining =>
      split at passed
      case isTrue empty =>
        cases passed
        exact .goOn _ (by simp) (by simp) pass ⟨r, none⟩ _ under_way draining (fun _ => empty) (.inr ⟨0, rfl⟩) rfl
      case isFalse => cases passed
    case h_2 => cases passed
  case h_5 rand =>
    split at passed
    case h_1 r steps stepping =>
      split at passed
      case isTrue =>
        cases passed
        exact .goOn _ (by simp) (by simp) pass ⟨r, some steps⟩ _ under_way stepping (fun none => by cases none)
          (.inr ⟨steps + 1, rfl⟩) rfl
      case isFalse => cases passed
    case h_2 => cases passed
  case h_6 =>
    split at passed
    case h_1 r steps stepping =>
      dsimp only at passed
      split at passed
      case isTrue => cases passed
      case isFalse =>
        cases passed
        exact .goOn _ (by simp) (by simp) pass ⟨r, some steps⟩ _ under_way stepping (fun none => by cases none)
          (.inl rfl) rfl
    case h_2 => cases passed
  case h_7 =>
    split at passed
    case h_1 => cases passed
    case h_2 dungeonsFrom loop =>
      split at passed
      case isTrue ready =>
        cases passed
        refine .endUpdate pass dungeonsFrom under_way ready.1 loop ?_ rfl
        intro entry listed
        exact of_decide_eq_true (List.all_eq_true.mp ready.2 entry listed)
      case isFalse => cases passed
  case h_8 => cases passed

theorem handleCLogin_turned (w : World) (s : SessionId) (username : Bytes) :
    w.Turned data (handleCLogin data w s username) (.packet s (.login username)) := by
  rcases handleCLogin_cases data w s username with ⟨store, result, -⟩ | ⟨-, -, result, -⟩
  · apply World.Turned.quiet _ (by simp) (by simp)
    all_goals rw [result]
    · rfl
    · exact ⟨rfl, rfl, rfl, rfl, rfl⟩
    · rfl
  · cases town : w.routing.staticRoom .town 1 with
    | none =>
        have nowhere : ∀ store, (w.routing.recordLogin s (w.routing.store.accountOf username)
            w.idGen store).staticRoom .town 1 = none := fun _ => town
        simp only [Routing.loggedIn, Routing.enterTown, nowhere] at result
        apply World.Turned.quiet _ (by simp) (by simp)
        all_goals rw [result]
        · rfl
        · exact ⟨rfl, rfl, rfl, rfl, rfl⟩
        · rfl
    | some r =>
        have there : ∀ store, (w.routing.recordLogin s (w.routing.store.accountOf username)
            w.idGen store).staticRoom .town 1 = some r := fun _ => town
        simp only [Routing.loggedIn, Routing.enterTown, there] at result
        apply World.Turned.login s username r w.idGen town
        all_goals rw [result]
        · rfl
        · exact ⟨rfl, rfl, rfl, rfl, rfl⟩
        · rfl

theorem onDisconnected_turned (w : World) (s : SessionId) :
    w.Turned data (onDisconnected w s) (.disconnect s) := by
  obtain ⟨store, parties, result, -⟩ := disconnecting_routing w s
  have same := lockRoom_disconnecting w s s
  rw [onDisconnected_eq, same]
  cases locked : lockRoom w.routing w.scene s with
  | none =>
      dsimp only
      apply World.Turned.quiet _ (by simp) (by simp)
      all_goals rw [result]
      · rfl
      · exact ⟨rfl, rfl, rfl, rfl, rfl⟩
      · rfl
  | some r =>
      dsimp only
      apply World.Turned.left s r (lockRoom_some _ _ _ _ locked).1
      all_goals
        dsimp only
        rw [result]
      · rfl
      · exact ⟨rfl, rfl, rfl, rfl, rfl⟩
      · rfl

theorem step_turned (w next : World) (e : Event) (stepped : w.step data e = some next) :
    w.Turned data next e := by
  obtain ⟨acted, -⟩ := step_act data w next e stepped
  cases e with
  | connect s =>
      simp only [World.act] at acted
      split at acted
      · cases acted
        exact .quiet _ (by simp) (by simp) rfl ⟨rfl, rfl, rfl, rfl, rfl⟩ rfl
      · cases acted
  | packet s pkt =>
      simp only [World.act] at acted
      split at acted
      case isFalse => cases acted
      case isTrue =>
        cases acted
        by_cases request : ∃ username, pkt = .login username
        · obtain ⟨username, rfl⟩ := request
          exact handleCLogin_turned data w s username
        · rcases handlePacket_routing data w s pkt (fun username same => request ⟨username, same⟩)
            with same | ⟨job, r, sends, locked, result⟩
          · apply World.Turned.quiet _ (by simp) (by simp)
            all_goals rw [same]
            exact .refl _
          · exact .pushed s pkt r job sends (lockRoom_some _ _ _ _ locked).1 result
  | disconnect s =>
      simp only [World.act] at acted
      split at acted
      · cases acted
        exact onDisconnected_turned data w s
      · cases acted
  | clock now =>
      simp only [World.act] at acted
      split at acted
      · cases acted
        exact .quiet _ (by simp) (by simp) rfl (.refl _) rfl
      · cases acted
  | update =>
      simp only [World.act] at acted
      split at acted
      · cases acted
      · rename_i idle
        cases acted
        exact .update idle rfl
  | job rand =>
      obtain ⟨r, job, rest, front, result⟩ := runNextJob_some data w next rand acted
      exact .ran rand r job rest front result
  | visitStatic | loopDungeons | visitDungeon _ | endJobs | step _ | endRoom | endUpdate =>
      simp only [World.act] at acted
      split at acted
      · cases acted
      · rename_i pass under_way
        exact stepPass_turned data w next pass _ under_way acted

end ZeldaServer
