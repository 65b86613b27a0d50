import ZeldaServer.World.Routing

/-! What the jobs of a room do to the routing. -/

namespace ZeldaServer

variable (data : GameData)

@[simp] theorem onScene_routing (w : World) (f : Scene → Scene) :
    (w.onScene f).routing = w.routing := rfl

@[simp] theorem sendTo_routing (w : World) (s : SessionId) (pkt : ServerPacket) :
    (w.sendTo s pkt).routing = w.routing := rfl

@[simp] theorem enterRoomParty_routing (w : World) (r : RoomRef) (player : ObjectId) :
    (enterRoomParty w r player).routing = w.routing := by
  unfold enterRoomParty
  dsimp only
  split
  · rfl
  · cases w.routing.parties.parties _ with
    | none => rfl
    | some party =>
        dsimp only
        split <;> rfl

@[simp] theorem sendPartyUpdateFromRoom_routing (w : World) (r : RoomRef) (partyId : PartyId) :
    (sendPartyUpdateFromRoom w r partyId).routing = w.routing := by
  unfold sendPartyUpdateFromRoom
  cases w.routing.parties.parties partyId <;> rfl

theorem enterRoom_routing (w : World) (r : RoomRef) (s : SessionId) (player : ObjectId) :
    (w.enterRoom r s player).routing = (w.routing.bind r s player).addPlayer r player :=
  enterRoomParty_routing _ r player

/-- `LeaveRoom` for the player its session names. -/
def Routing.leave (a : Routing) (r : RoomRef) (id : ObjectId) : Routing :=
  (if id ∈ playerIds a r then a.erasePlayer r id else a).requestRemoval r

theorem Routing.requestRemoval_rooms (a : Routing) (r : RoomRef) :
    (a.requestRemoval r).rooms = a.rooms := by
  unfold requestRemoval
  dsimp only
  split <;> rfl

theorem players_leave (a : Routing) (r r' : RoomRef) (id : ObjectId) :
    ((a.leave r id).rooms r').players =
      if r' = r then (a.rooms r').players.filter (· ≠ id) else (a.rooms r').players := by
  unfold Routing.leave
  rw [Routing.requestRemoval_rooms]
  split
  case isTrue => exact Routing.players_erasePlayer a r r' id
  case isFalse away =>
    split
    case isTrue same =>
      rw [same]
      apply Eq.symm
      apply List.filter_eq_self.mpr
      intro other standing
      apply decide_eq_true
      intro equal
      exact away (equal ▸ standing)
    case isFalse => rfl

theorem leaveRoom_routing (w : World) (held : List ObjectId) (r : RoomRef) (s : SessionId) :
    (w.leaveRoom held r s).routing =
      match lockPlayer w.routing w.scene held s with
      | none => w.routing
      | some id => w.routing.leave r id := by
  unfold World.leaveRoom
  cases lockPlayer w.routing w.scene held s with
  | none => rfl
  | some id =>
      simp only [World.removeObject, Routing.leave]
      split <;> rfl

theorem leave_calm (a : Routing) (r : RoomRef) (id : ObjectId) : a.Calm (a.leave r id) := by
  unfold Routing.leave
  split
  · exact (Routing.Calm.erasePlayer a r id).trans (.requestRemoval _ r)
  · exact .requestRemoval a r

theorem leaveRoom_calm (w : World) (held : List ObjectId) (r : RoomRef) (s : SessionId) :
    w.routing.Calm (w.leaveRoom held r s).routing := by
  rw [leaveRoom_routing]
  cases lockPlayer w.routing w.scene held s with
  | none => exact .refl _
  | some id => exact leave_calm w.routing r id

theorem lockPlayer_some (routing : Routing) (scene : Scene) (held : List ObjectId) (s : SessionId)
    (id : ObjectId) (locked : lockPlayer routing scene held s = some id) :
    (routing.sessions s).player = some id ∧ playerAlive routing scene held id = true := by
  unfold lockPlayer at locked
  cases bound : (routing.sessions s).player with
  | none => simp [bound] at locked
  | some other =>
      simp only [bound] at locked
      split at locked
      case isTrue alive =>
        cases locked
        exact ⟨rfl, alive⟩
      case isFalse => cases locked

theorem lockPlayer_of_alive (routing : Routing) (scene : Scene) (held : List ObjectId)
    (s : SessionId) (id : ObjectId) (bound : (routing.sessions s).player = some id)
    (alive : playerAlive routing scene held id = true) :
    lockPlayer routing scene held s = some id := by
  simp only [lockPlayer, bound, alive, if_true]

theorem lockPlayer_held (routing : Routing) (scene : Scene) (held : List ObjectId)
    (s : SessionId) (id : ObjectId) (bound : (routing.sessions s).player = some id)
    (owned : id ∈ held) : lockPlayer routing scene held s = some id := by
  refine lockPlayer_of_alive routing scene held s id bound ?_
  simp [playerAlive, owned]

theorem placed_of_alive (routing : Routing) (scene : Scene) (id : ObjectId)
    (alive : playerAlive routing scene [] id = true) : routing.Placed id := by
  simp only [playerAlive, List.contains_eq_mem, List.not_mem_nil, decide_false, Bool.false_or,
    List.any_eq_true, Bool.or_eq_true, Bool.and_eq_true, decide_eq_true_eq] at alive
  obtain ⟨r, -, ⟨-, standing⟩ | ⟨job, waiting, entering⟩⟩ := alive
  · exact ⟨r, .inl standing⟩
  · refine ⟨r, .inr ?_⟩
    cases job with
    | enterRoom s player =>
        cases entering
        exact ⟨s, waiting⟩
    | _ => cases entering

theorem registered_alive (a : Routing) (scene : Scene) (r : RoomRef) (known : a.Registered r) :
    roomAlive a scene r = true := by
  simp only [roomAlive, Bool.or_eq_true, List.any_eq_true, decide_eq_true_eq]
  rcases known with ⟨key, listed⟩ | ⟨instanceId, listed⟩
  · exact .inl (.inl (.inl (.inl (.inl ⟨_, listed, rfl⟩))))
  · exact .inl (.inl (.inl (.inl (.inr ⟨_, listed, rfl⟩))))

theorem standing_alive (a : Routing) (scene : Scene) (inRange : a.InRange) (held : List ObjectId)
    (r : RoomRef) (p : ObjectId) (known : a.Registered r) (standing : p ∈ (a.rooms r).players) :
    playerAlive a scene held p = true := by
  have room := registered_alive a scene r known
  simp only [playerAlive, List.any_eq_true, Bool.or_eq_true, Bool.and_eq_true, List.mem_range,
    List.contains_eq_mem, decide_eq_true_eq]
  exact .inr ⟨r, inRange.players r p standing, .inl ⟨room, standing⟩⟩

/-- `b` comes from `a` by sending, drawing numbers or failing: no object is touched. -/
structure Scene.SameObjects (a b : Scene) : Prop where
  players : b.players = a.players
  fields : b.fields = a.fields

namespace Scene.SameObjects

theorem refl (scene : Scene) : scene.SameObjects scene := ⟨rfl, rfl⟩

theorem trans {a b c : Scene} (first : a.SameObjects b) (second : b.SameObjects c) :
    a.SameObjects c where
  players := second.players.trans first.players
  fields := second.fields.trans first.fields

theorem foldl {Item : Type} (f : Scene → Item → Scene)
    (step : ∀ (scene : Scene) item, scene.SameObjects (f scene item)) (items : List Item) (scene : Scene) :
    scene.SameObjects (items.foldl f scene) := by
  induction items generalizing scene with
  | nil => exact refl scene
  | cons head tail ih => exact (step scene head).trans (ih (f scene head))

theorem broadcast (routing : Routing) (r : RoomRef) (pkt : ServerPacket) (scene : Scene) :
    scene.SameObjects (broadcast routing r pkt scene) := by
  apply foldl
  intro scene id
  cases routing.playerSession id <;> exact ⟨rfl, rfl⟩

theorem sendToPlayer (routing : Routing) (id : ObjectId) (pkt : ServerPacket) (scene : Scene) :
    scene.SameObjects (sendToPlayer routing id pkt scene) := by
  unfold ZeldaServer.sendToPlayer
  cases routing.playerSession id <;> exact ⟨rfl, rfl⟩

theorem redisCommand (scene : Scene) (command : RedisCommand) :
    scene.SameObjects (scene.redisCommand command) := by
  unfold Scene.redisCommand
  split <;> exact ⟨rfl, rfl⟩

theorem emit (routing : Routing) (id : ObjectId) (scene : Scene) (emission : Emission) :
    scene.SameObjects (emit routing id scene emission) := by
  cases emission with
  | session pkt => exact sendToPlayer routing id pkt scene
  | room pkt =>
      unfold ZeldaServer.emit
      cases routing.playerRoom id with
      | none => exact refl scene
      | some r => exact broadcast routing r pkt scene
  | rank name level => exact redisCommand scene _

theorem sendToMembers (r : RoomRef) (memberIds : List ObjectId) (pkt : ServerPacket) (w : World) :
    w.scene.SameObjects (sendToMembers r memberIds pkt w).scene := by
  apply foldl
  intro scene id
  split
  · exact sendToPlayer w.routing id pkt scene
  · exact refl scene

end Scene.SameObjects

def swordVictim (w : World) (r : RoomRef) (attacker : ObjectId) : Option ObjectId :=
  let info := (w.scene.players attacker).info
  match gameObjectAt w.routing w.scene r info.frontCellPos with
  | some (.player target) =>
      let targetInfo := (w.scene.players target).info
      let damage := max 1 (info.attack - targetInfo.defence)
      if (targetInfo.onDamaged damage).hp = 0 then some target else none
  | _ => none

def attackVictim (w : World) (r : RoomRef) (s : SessionId) (pkt : CAttack) : Option ObjectId :=
  match lockPlayer w.routing w.scene [] s with
  | none => none
  | some attacker => if pkt.weaponType = WeaponType.sword then swordVictim w r attacker else none

def Routing.bury (a : Routing) (r : RoomRef) : Option ObjectId → Routing
  | none => a
  | some victim => a.erasePlayer r victim

theorem gameObjectAt_player (routing : Routing) (scene : Scene) (r : RoomRef) (pos : Vec2Int)
    (id : ObjectId) (found : gameObjectAt routing scene r pos = some (.player id)) :
    id ∈ playerIds routing r := by
  have standing : playerAt routing scene r pos = some id := by
    unfold gameObjectAt creatureAt at found
    cases first : playerAt routing scene r pos with
    | some other => simpa [first] using found
    | none =>
        cases monster : monsterAt scene r pos with
        | some m => simp [first, monster] at found
        | none => simp [first, monster] at found
  exact List.mem_of_find?_eq_some standing

theorem handleSwordAttack_routing (w : World) (r : RoomRef) (attacker : ObjectId) :
    (handleSwordAttack data w r attacker).routing =
      w.routing.bury r (swordVictim w r attacker) := by
  unfold handleSwordAttack swordVictim
  dsimp only
  cases gameObjectAt w.routing w.scene r (w.scene.players attacker).info.frontCellPos with
  | none => rfl
  | some object =>
      cases object with
      | projectile a => rfl
      | monster m => rfl
      | player target =>
          have hurt (damage : Int) :
              ((w.scene.hurtPlayer target damage).players target).info =
                (w.scene.players target).info.onDamaged damage := by
            simp [Scene.hurtPlayer, Scene.setPlayer, Player.onDamaged]
          simp only [World.onScene, hurt]
          split <;> rfl

theorem creatureAt_congr {scene scene' : Scene} (same : scene.SameObjects scene')
    (routing : Routing) (r : RoomRef) (pos : Vec2Int) :
    creatureAt routing scene' r pos = creatureAt routing scene r pos := by
  unfold creatureAt playerAt monsterAt
  rw [same.players, same.fields]

theorem gameObjectAt_congr {scene scene' : Scene} (same : scene.SameObjects scene')
    (routing : Routing) (r : RoomRef) (pos : Vec2Int) :
    gameObjectAt routing scene' r pos = gameObjectAt routing scene r pos := by
  unfold gameObjectAt
  rw [creatureAt_congr same, same.fields]

theorem handleCAttack_routing (w : World) (r : RoomRef) (s : SessionId) (pkt : CAttack) :
    (handleCAttack data w r s pkt).routing = w.routing.bury r (attackVictim w r s pkt) := by
  unfold handleCAttack attackVictim
  cases lockPlayer w.routing w.scene [] s with
  | none => rfl
  | some attacker =>
      dsimp only
      split
      case isTrue =>
        rw [handleSwordAttack_routing, onScene_routing]
        have same := Scene.SameObjects.broadcast w.routing r (.attack
          (w.scene.players attacker).info.objectId pkt.dir pkt.weaponType) w.scene
        congr 1
        simp only [swordVictim, World.onScene, same.players, gameObjectAt_congr same]
      case isFalse =>
        split
        · rfl
        · split
          · exact (onScene_routing _ _).trans (onScene_routing _ _)
          · exact onScene_routing _ _

theorem handleCAttack_calm (w : World) (r : RoomRef) (s : SessionId) (pkt : CAttack) :
    w.routing.Calm (handleCAttack data w r s pkt).routing := by
  rw [handleCAttack_routing]
  cases attackVictim w r s pkt with
  | none => exact .refl _
  | some victim => exact .erasePlayer _ r victim

theorem itemJob_routing (method : Player → Player × List Emission) (w : World) (s : SessionId) :
    (itemJob method w s).routing = w.routing := by
  unfold itemJob
  cases lockPlayer w.routing w.scene [] s <;> rfl

theorem partyInvite_routing (w : World) (r : RoomRef) (s : SessionId) (targetId : ObjectId) :
    (partyInvite w r s targetId).routing = w.routing := by
  unfold partyInvite
  cases lockPlayer w.routing w.scene [] s with
  | none => rfl
  | some inviter =>
      dsimp only
      split
      · rfl
      · split
        · rfl
        · split
          · rfl
          · split
            · rfl
            · cases findPlayer w r targetId <;> rfl

theorem inviterParty_routing (w : World) (r : RoomRef) (inviterId : ObjectId) :
    ∃ parties, (inviterParty w r inviterId).2.routing = w.routing.onParties (fun _ => parties) ∧
      (w.routing.parties.Listed → parties.Listed) := by
  unfold inviterParty
  dsimp only
  split
  · exact ⟨w.routing.parties, rfl, fun listed => listed⟩
  · cases findObject w.routing w.scene r inviterId with
    | none =>
        exact ⟨_, rfl, fun listed => PartyManager.createParty_listed _ inviterId listed⟩
    | some inviter =>
        exact ⟨_, rfl, fun listed => PartyManager.setMemberName_listed _ _ inviterId _
          (PartyManager.createParty_listed _ inviterId listed)⟩

theorem partyAnswer_routing (w : World) (r : RoomRef) (s : SessionId) (inviterId : ObjectId)
    (accept : Bool) :
    ∃ parties, (partyAnswer w r s inviterId accept).routing =
        w.routing.onParties (fun _ => parties) ∧
      (w.routing.parties.Listed → parties.Listed) := by
  have kept : ∃ parties, w.routing = w.routing.onParties (fun _ => parties) ∧
      (w.routing.parties.Listed → parties.Listed) := ⟨w.routing.parties, rfl, fun listed => listed⟩
  unfold partyAnswer
  cases lockPlayer w.routing w.scene [] s with
  | none => exact kept
  | some acceptor =>
      dsimp only
      split
      · exact kept
      · split
        · exact kept
        · obtain ⟨parties, created, listed⟩ := inviterParty_routing w r inviterId
          split
          · exact ⟨parties, created, listed⟩
          · split
            · exact ⟨parties, created, listed⟩
            · rw [sendPartyUpdateFromRoom_routing]
              dsimp only
              rw [created]
              refine ⟨_, rfl, fun before => ?_⟩
              exact PartyManager.setMemberName_listed _ _ _ _
                (PartyManager.addMember_listed _ _ _ (listed before))

def PartyManager.MayLeave (m m' : PartyManager) : Prop :=
  m' = m ∨ ∃ player partyId, m.playerToParty player = some partyId ∧
    m' = m.removeMember partyId player

theorem PartyManager.MayLeave.listed {m m' : PartyManager} (left : m.MayLeave m')
    (listed : m.Listed) : m'.Listed := by
  rcases left with same | ⟨player, partyId, current, result⟩
  · rw [same]
    exact listed
  · rw [result]
    exact PartyManager.removeMember_listed m partyId player listed current

theorem playerToParty_of_nonzero (m : PartyManager) (player : ObjectId)
    (grouped : ¬ m.partyIdByPlayer player = 0) :
    m.playerToParty player = some (m.partyIdByPlayer player) := by
  unfold PartyManager.partyIdByPlayer at grouped ⊢
  cases mapped : m.playerToParty player with
  | none => simp [mapped] at grouped
  | some partyId => rfl

theorem mayLeave_own (m : PartyManager) (player : ObjectId)
    (grouped : ¬ m.partyIdByPlayer player = 0) :
    m.MayLeave (m.removeMember (m.partyIdByPlayer player) player) :=
  .inr ⟨player, _, playerToParty_of_nonzero m player grouped, rfl⟩

theorem partyLeave_routing (w : World) (r : RoomRef) (s : SessionId) :
    ∃ parties, (partyLeave w r s).routing = w.routing.onParties (fun _ => parties) ∧
      w.routing.parties.MayLeave parties := by
  have kept : ∃ parties, w.routing = w.routing.onParties (fun _ => parties) ∧
      w.routing.parties.MayLeave parties := ⟨w.routing.parties, rfl, .inl rfl⟩
  unfold partyLeave
  cases lockPlayer w.routing w.scene [] s with
  | none => exact kept
  | some player =>
      dsimp only
      split
      case isTrue => exact kept
      case isFalse grouped =>
        cases found : w.routing.parties.parties (w.routing.parties.partyIdByPlayer player) with
        | none => exact kept
        | some party =>
            refine ⟨_, ?_, mayLeave_own w.routing.parties player grouped⟩
            dsimp only
            split
            · rw [sendPartyUpdateFromRoom_routing]
              rfl
            · rfl

/-- There is no such map, no such channel of the town, or a member asks for a dungeon in place
of its leader. -/
def ChangeRefused (a : Routing) (requester : ObjectId) (pkt : CChangeMap) : Prop :=
  (pkt.mapId ≠ MapId.town ∧ pkt.mapId ≠ MapId.dungeon) ∨
  (pkt.mapId = MapId.town ∧ a.staticRoom .town pkt.channel = none) ∨
  (pkt.mapId = MapId.dungeon ∧ a.parties.isInParty requester = true ∧
    a.parties.isLeader requester = false)

/-- What `Handle_C_ChangeMap` comes to. -/
inductive HandlesChangeMap (w : World) (r : RoomRef) (s : SessionId) (pkt : CChangeMap)
    (next : World) : Prop where
  | absent (unlocked : lockPlayer w.routing w.scene [] s = none) (result : next = w)
  | refused (requester : ObjectId) (locked : lockPlayer w.routing w.scene [] s = some requester)
      (refused : ChangeRefused w.routing requester pkt)
      (result : next = w.sendTo s (changeMapRefused pkt))
  | town (requester : ObjectId) (locked : lockPlayer w.routing w.scene [] s = some requester)
      (mapId : pkt.mapId = MapId.town) (dest : RoomRef)
      (found : w.routing.staticRoom .town pkt.channel = some dest)
      (result : next = w.changeMapTo r dest s requester pkt 0)
  | dungeon (requester : ObjectId) (locked : lockPlayer w.routing w.scene [] s = some requester)
      (mapId : pkt.mapId = MapId.dungeon)
      (free : (w.routing.parties.isInParty requester &&
        !w.routing.parties.isLeader requester) = false)
      (result : next = (w.createDungeonInstance data).2.2.changeMapTo r w.routing.roomCount s
        requester pkt w.routing.instanceIdGen)

theorem handleCChangeMap_cases (w : World) (r : RoomRef) (s : SessionId) (pkt : CChangeMap) :
    HandlesChangeMap data w r s pkt (handleCChangeMap data w r s pkt) := by
  unfold handleCChangeMap
  cases locked : lockPlayer w.routing w.scene [] s with
  | none => exact .absent locked rfl
  | some requester =>
      dsimp only
      split
      case isTrue town =>
        cases found : w.routing.staticRoom .town pkt.channel with
        | none => exact .refused requester locked (.inr (.inl ⟨town, found⟩)) rfl
        | some dest => exact .town requester locked town dest found rfl
      case isFalse away =>
        split
        case isTrue dungeon =>
          split
          case isTrue follows =>
            simp only [Bool.and_eq_true, Bool.not_eq_true'] at follows
            exact .refused requester locked (.inr (.inr ⟨dungeon, follows⟩)) rfl
          case isFalse free => exact .dungeon requester locked dungeon (Bool.eq_false_iff.mpr free) rfl
        case isFalse elsewhere => exact .refused requester locked (.inl ⟨away, elsewhere⟩) rfl

theorem changeMapTo_alone (w : World) (source dest : RoomRef) (s : SessionId)
    (requester : ObjectId) (pkt : CChangeMap) (instanceId : InstanceId)
    (alone : ¬ (pkt.mapId = MapId.dungeon ∧ w.routing.parties.isLeader requester = true)) :
    w.changeMapTo source dest s requester pkt instanceId =
      w.moveOver [requester] source dest pkt instanceId s requester := by
  simp only [World.changeMapTo, if_neg alone]

theorem town_alone (pkt : CChangeMap) (mapId : pkt.mapId = MapId.town) (leads : Prop) :
    ¬ (pkt.mapId = MapId.dungeon ∧ leads) := by
  rw [mapId]
  exact fun both => absurd both.1 (by decide)

theorem createDungeonInstance_routing (w : World) :
    (w.createDungeonInstance data).2.2.routing = w.routing.openDungeon := rfl

theorem moveOver_routing (w : World) (held : List ObjectId) (source dest : RoomRef)
    (pkt : CChangeMap) (instanceId : InstanceId) (s : SessionId) (player : ObjectId) :
    (w.moveOver held source dest pkt instanceId s player).routing =
      (((w.sendTo s (.changeMap true pkt.mapId pkt.channel instanceId)).leaveRoom held source
        s).routing).pushJob dest (.enterRoom s player) := rfl

theorem moveOver_calm {a : Routing} (w : World) (held : List ObjectId) (source dest : RoomRef)
    (pkt : CChangeMap) (instanceId : InstanceId) (s : SessionId) (player : ObjectId)
    (calm : a.Calm w.routing) (inRange : a.InRange) (known : w.routing.Registered dest)
    (placed : a.Placed player)
    (bound : a.playerSession player = some s ∨ (a.sessions s).player = some player) :
    a.Calm (w.moveOver held source dest pkt instanceId s player).routing := by
  rw [moveOver_routing]
  have left := calm.trans (leaveRoom_calm (w.sendTo s
    (.changeMap true pkt.mapId pkt.channel instanceId)) held source s)
  refine left.pushEnter dest s player placed bound ?_
  have ranged := left.inRange inRange
  exact ranged.registered dest ((leaveRoom_calm (w.sendTo s
    (.changeMap true pkt.mapId pkt.channel instanceId)) held source s).registered dest known)

theorem mem_partyToMove_iff (a : Routing) (r : RoomRef) (party : Party)
    (member : SessionId × ObjectId) :
    member ∈ partyToMove a r party ↔
      member.2 ∈ party.memberIds ∧ member.2 ∈ playerIds a r ∧
        a.playerSession member.2 = some member.1 := by
  constructor
  · intro goes
    obtain ⟨id, listed, chosen⟩ := List.mem_filterMap.mp goes
    split at chosen
    case isTrue standing =>
      obtain ⟨s, session, rfl⟩ := Option.map_eq_some_iff.mp chosen
      exact ⟨listed, standing, session⟩
    case isFalse => cases chosen
  · rintro ⟨listed, standing, session⟩
    apply List.mem_filterMap.mpr
    refine ⟨member.2, listed, ?_⟩
    rw [if_pos standing, session]
    rfl

theorem mem_partyToMove (routing : Routing) (r : RoomRef) (party : Party) (s : SessionId)
    (id : ObjectId) (member : (s, id) ∈ partyToMove routing r party) :
    id ∈ party.memberIds ∧ id ∈ playerIds routing r ∧ routing.playerSession id = some s :=
  (mem_partyToMove_iff routing r party (s, id)).mp member

theorem moveAll_calm {a : Routing} (held : List ObjectId) (source dest : RoomRef)
    (pkt : CChangeMap) (instanceId : InstanceId) (toMove : List (SessionId × ObjectId))
    (inRange : a.InRange)
    (bound : ∀ member ∈ toMove, a.Placed member.2 ∧ a.playerSession member.2 = some member.1)
    (w : World) (calm : a.Calm w.routing) (known : w.routing.Registered dest) :
    a.Calm (toMove.foldl (fun w member =>
      w.moveOver held source dest pkt instanceId member.1 member.2) w).routing := by
  induction toMove generalizing w with
  | nil => exact calm
  | cons head tail ih =>
      obtain ⟨placed, session⟩ := bound head (by simp)
      refine ih (fun member later => bound member (by simp [later])) _ ?_ ?_
      · exact moveOver_calm w held source dest pkt instanceId head.1 head.2 calm inRange known
          placed (.inl session)
      · rw [moveOver_routing]
        have left := (leaveRoom_calm (w.sendTo head.1
          (.changeMap true pkt.mapId pkt.channel instanceId)) held source head.1).registered dest known
        exact left

theorem changeMapTo_calm {a : Routing} (w : World) (source dest : RoomRef) (s : SessionId)
    (requester : ObjectId) (pkt : CChangeMap) (instanceId : InstanceId)
    (calm : a.Calm w.routing) (inRange : a.InRange) (known : w.routing.Registered dest)
    (placed : a.Placed requester) (bound : (a.sessions s).player = some requester) :
    a.Calm (w.changeMapTo source dest s requester pkt instanceId).routing := by
  unfold World.changeMapTo
  dsimp only
  split
  · rename_i party _
    refine moveAll_calm _ source dest pkt instanceId _ inRange ?_ w calm known
    intro member chosen
    obtain ⟨-, standing, session⟩ := mem_partyToMove w.routing source party member.1 member.2 chosen
    rw [calm.playerSession] at session
    exact ⟨⟨source, .inl (calm.players source _ standing)⟩, session⟩
  · exact moveOver_calm w _ source dest pkt instanceId s requester calm inRange known placed
      (.inr bound)

theorem handleCChangeMap_calm (w : World) (r : RoomRef) (s : SessionId) (pkt : CChangeMap)
    (inRange : w.routing.InRange) :
    w.routing.Calm (handleCChangeMap data w r s pkt).routing := by
  have placed (requester : ObjectId)
      (locked : lockPlayer w.routing w.scene [] s = some requester) :
      (w.routing.sessions s).player = some requester ∧ w.routing.Placed requester := by
    obtain ⟨bound, alive⟩ := lockPlayer_some _ _ _ _ _ locked
    exact ⟨bound, placed_of_alive w.routing w.scene requester alive⟩
  cases handleCChangeMap_cases data w r s pkt with
  | absent _ result =>
      rw [result]
      exact .refl _
  | refused requester _ _ result =>
      rw [result]
      exact .refl _
  | town requester locked _ dest found result =>
      obtain ⟨bound, place⟩ := placed requester locked
      rw [result]
      refine changeMapTo_calm w r dest s requester pkt 0 (.refl _) inRange ?_ place bound
      simp only [Routing.staticRoom, Option.map_eq_some_iff] at found
      obtain ⟨entry, first, rfl⟩ := found
      exact .inl ⟨entry.1, List.mem_of_find?_eq_some first⟩
  | dungeon requester locked _ _ result =>
      obtain ⟨bound, place⟩ := placed requester locked
      rw [result]
      refine changeMapTo_calm _ r _ s requester pkt _ (.openDungeon _ inRange) inRange ?_ place bound
      exact (Routing.Keeps.registered_openDungeon w.routing _).mpr (.inr rfl)

theorem runJob_calm (w : World) (r : RoomRef) (job : Job) (inRange : w.routing.InRange)
    (stays : job.entering = none) : w.routing.Calm (runJob data w r job).routing := by
  cases job with
  | move s pkt => exact .refl _
  | turn s pkt => exact .refl _
  | attack s pkt => exact handleCAttack_calm data w r s pkt
  | changeMap s pkt => exact handleCChangeMap_calm data w r s pkt inRange
  | equipItem s slot =>
      rw [runJob, itemJob_routing]
      exact .refl _
  | unequipItem s equipType =>
      rw [runJob, itemJob_routing]
      exact .refl _
  | useItem s slot =>
      rw [runJob, itemJob_routing]
      exact .refl _
  | partyInvite s targetId =>
      rw [runJob, partyInvite_routing]
      exact .refl _
  | partyAnswer s inviterId accept =>
      obtain ⟨parties, result, listed⟩ := partyAnswer_routing w r s inviterId accept
      rw [runJob, result]
      exact .onParties _ _ listed
  | partyLeave s =>
      obtain ⟨parties, result, left⟩ := partyLeave_routing w r s
      rw [runJob, result]
      exact .onParties _ _ left.listed
  | enterRoom s player => cases stays
  | leaveRoom s => exact leaveRoom_calm w [] r s

end ZeldaServer
