import ZeldaServer.World.Jobs

/-! What a single event can do to the routing, and the invariants that every run keeps:
the rooms in range, and an id generator that only goes up. -/

namespace ZeldaServer

variable (data : GameData)

@[simp] theorem onScene_idGen (w : World) (f : Scene → Scene) : (w.onScene f).idGen = w.idGen := rfl

theorem foldl_idGen {Item : Type} (f : Scene × ObjectId → Item → Scene × ObjectId)
    (raises : ∀ made item, made.2 ≤ (f made item).2) (items : List Item)
    (made : Scene × ObjectId) : made.2 ≤ (items.foldl f made).2 := by
  induction items generalizing made with
  | nil => exact Nat.le_refl _
  | cons head tail ih => exact Nat.le_trans (raises made head) (ih (f made head))

theorem spawnEntry_idGen (routing : Routing) (r : RoomRef) (anchor : Vec2Int) (entry : MonsterInfo)
    (made : (Scene × ObjectId) × List Vec2Int) :
    made.1.2 ≤ (spawnEntry data routing r anchor entry made).1.2 := by
  unfold spawnEntry
  cases data.monsterTemplate entry.templateId with
  | none => exact Nat.le_refl _
  | some stats =>
      exact foldl_idGen _ (fun now offset => Nat.le_succ now.2) _ _

theorem spawnGroup_idGen (routing : Routing) (r : RoomRef) (made : Scene × ObjectId)
    (group : MonsterSpawnData) : made.2 ≤ (spawnGroup data routing r made group).2 := by
  unfold spawnGroup
  generalize group.offsets = offsets
  induction group.monsters generalizing made offsets with
  | nil => exact Nat.le_refl _
  | cons head tail ih =>
      have first := spawnEntry_idGen data routing r group.anchor head (made, offsets)
      exact Nat.le_trans first (ih (spawnEntry data routing r group.anchor head (made, offsets)).1
        (spawnEntry data routing r group.anchor head (made, offsets)).2)

theorem initFromConfig_idGen (routing : Routing) (r : RoomRef) (roomId : RoomName) (scene : Scene)
    (idGen : ObjectId) : idGen ≤ (initFromConfig data routing r roomId scene idGen).2 := by
  unfold initFromConfig
  cases data.roomConfig roomId with
  | none => exact Nat.le_refl _
  | some config =>
      cases data.spawnConfig roomId with
      | none => exact Nat.le_refl _
      | some spawnConfig =>
          dsimp only
          split
          · exact foldl_idGen _ (spawnGroup_idGen data routing r) _ (_, idGen)
          · exact Nat.le_refl _

theorem respawn_idGen (routing : Routing) (r : RoomRef) (made : Scene × ObjectId)
    (request : RespawnRequest) : made.2 ≤ (respawn data routing r made request).2 := by
  unfold respawn
  dsimp only
  split
  · exact Nat.le_refl _
  · exact Nat.le_succ _

theorem gameStep_idGen (routing : Routing) (r : RoomRef) (scene : Scene) (idGen : ObjectId) :
    idGen ≤ (gameStep data routing r scene idGen).2 := by
  unfold gameStep spawnTick
  dsimp only
  split
  · exact foldl_idGen _ (respawn_idGen data routing r) _ (_, idGen)
  · exact Nat.le_refl _

theorem leaveRoom_idGen (w : World) (held : List ObjectId) (r : RoomRef) (s : SessionId) :
    (w.leaveRoom held r s).idGen = w.idGen := by
  unfold World.leaveRoom
  cases lockPlayer w.routing w.scene held s with
  | none => rfl
  | some id =>
      simp only [World.removeObject]
      split <;> rfl

theorem moveOver_idGen (w : World) (held : List ObjectId) (source dest : RoomRef)
    (pkt : CChangeMap) (instanceId : InstanceId) (s : SessionId) (player : ObjectId) :
    (w.moveOver held source dest pkt instanceId s player).idGen = w.idGen :=
  leaveRoom_idGen (w.sendTo s (.changeMap true pkt.mapId pkt.channel instanceId)) held source s

theorem moveAll_idGen (held : List ObjectId) (source dest : RoomRef) (pkt : CChangeMap)
    (instanceId : InstanceId) (toMove : List (SessionId × ObjectId)) (w : World) :
    (toMove.foldl (fun w member =>
      w.moveOver held source dest pkt instanceId member.1 member.2) w).idGen = w.idGen := by
  induction toMove generalizing w with
  | nil => rfl
  | cons head tail ih => rw [List.foldl_cons, ih, moveOver_idGen]

theorem changeMapTo_idGen (w : World) (source dest : RoomRef) (s : SessionId)
    (requester : ObjectId) (pkt : CChangeMap) (instanceId : InstanceId) :
    (w.changeMapTo source dest s requester pkt instanceId).idGen = w.idGen := by
  unfold World.changeMapTo
  dsimp only
  split
  · exact moveAll_idGen _ source dest pkt instanceId _ w
  · exact moveOver_idGen w _ source dest pkt instanceId s requester

theorem handleCChangeMap_idGen (w : World) (r : RoomRef) (s : SessionId) (pkt : CChangeMap) :
    w.idGen ≤ (handleCChangeMap data w r s pkt).idGen := by
  cases handleCChangeMap_cases data w r s pkt with
  | absent _ result =>
      rw [result]
  | refused _ _ _ result =>
      rw [result]
      exact Nat.le_refl _
  | town requester _ _ dest _ result =>
      rw [result, changeMapTo_idGen]
  | dungeon requester _ _ _ result =>
      rw [result, changeMapTo_idGen]
      exact initFromConfig_idGen data _ _ _ _ _

theorem handleSwordAttack_idGen (w : World) (r : RoomRef) (attacker : ObjectId) :
    (handleSwordAttack data w r attacker).idGen = w.idGen := by
  unfold handleSwordAttack
  dsimp only
  cases gameObjectAt w.routing w.scene r (w.scene.players attacker).info.frontCellPos with
  | none => rfl
  | some object =>
      cases object with
      | projectile a => rfl
      | monster m => rfl
      | player target =>
          dsimp only
          split <;> rfl

theorem handleBowAttack_idGen (w : World) (r : RoomRef) (attacker : ObjectId) (pkt : CAttack) :
    w.idGen ≤ (handleBowAttack w r attacker pkt).idGen :=
  Nat.le_succ w.idGen

theorem handleCAttack_idGen (w : World) (r : RoomRef) (s : SessionId) (pkt : CAttack) :
    w.idGen ≤ (handleCAttack data w r s pkt).idGen := by
  unfold handleCAttack
  cases lockPlayer w.routing w.scene [] s with
  | none => exact Nat.le_refl _
  | some attacker =>
      dsimp only
      split
      · rw [handleSwordAttack_idGen]
        exact Nat.le_refl _
      · split
        · exact handleBowAttack_idGen (w.onScene _) r attacker pkt
        · split
          · exact Nat.le_of_eq ((onScene_idGen _ _).trans (onScene_idGen _ _)).symm
          · exact Nat.le_of_eq (onScene_idGen _ _).symm

theorem sendPartyUpdateFromRoom_idGen (w : World) (r : RoomRef) (partyId : PartyId) :
    (sendPartyUpdateFromRoom w r partyId).idGen = w.idGen := by
  unfold sendPartyUpdateFromRoom
  cases w.routing.parties.parties partyId <;> rfl

theorem inviterParty_idGen (w : World) (r : RoomRef) (inviterId : ObjectId) :
    (inviterParty w r inviterId).2.idGen = w.idGen := by
  unfold inviterParty
  dsimp only
  split <;> rfl

theorem enterRoomParty_idGen (w : World) (r : RoomRef) (player : ObjectId) :
    (enterRoomParty w r player).idGen = w.idGen := by
  unfold enterRoomParty
  dsimp only
  split
  · rfl
  · cases w.routing.parties.parties _ with
    | none => rfl
    | some party =>
        dsimp only
        split <;> rfl

theorem enterRoom_idGen (w : World) (r : RoomRef) (s : SessionId) (player : ObjectId) :
    (w.enterRoom r s player).idGen = w.idGen :=
  enterRoomParty_idGen _ r player

theorem itemJob_idGen (method : Player → Player × List Emission) (w : World) (s : SessionId) :
    (itemJob method w s).idGen = w.idGen := by
  unfold itemJob
  cases lockPlayer w.routing w.scene [] s <;> rfl

theorem partyInvite_idGen (w : World) (r : RoomRef) (s : SessionId) (targetId : ObjectId) :
    (partyInvite w r s targetId).idGen = w.idGen := by
  unfold partyInvite
  cases lockPlayer w.routing w.scene [] s with
  | none => rfl
  | some inviter =>
      dsimp only
      split
      · rfl
      · split
        · rfl
        · split
          · rfl
          · split
            · rfl
            · cases findPlayer w r targetId <;> rfl

theorem partyAnswer_idGen (w : World) (r : RoomRef) (s : SessionId) (inviterId : ObjectId)
    (accept : Bool) : (partyAnswer w r s inviterId accept).idGen = w.idGen := by
  unfold partyAnswer
  cases lockPlayer w.routing w.scene [] s with
  | none => rfl
  | some acceptor =>
      dsimp only
      split
      · rfl
      · split
        · rfl
        · split
          · exact inviterParty_idGen w r inviterId
          · split
            · exact inviterParty_idGen w r inviterId
            · rw [sendPartyUpdateFromRoom_idGen]
              exact inviterParty_idGen w r inviterId

theorem partyLeave_idGen (w : World) (r : RoomRef) (s : SessionId) :
    (partyLeave w r s).idGen = w.idGen := by
  unfold partyLeave
  cases lockPlayer w.routing w.scene [] s with
  | none => rfl
  | some player =>
      dsimp only
      split
      · rfl
      · cases w.routing.parties.parties (w.routing.parties.partyIdByPlayer player) with
        | none => rfl
        | some party =>
            dsimp only
            split
            · exact sendPartyUpdateFromRoom_idGen _ r _
            · rfl

theorem runJob_idGen (w : World) (r : RoomRef) (job : Job) :
    w.idGen ≤ (runJob data w r job).idGen := by
  cases job with
  | move s pkt => exact Nat.le_refl _
  | turn s pkt => exact Nat.le_refl _
  | attack s pkt => exact handleCAttack_idGen data w r s pkt
  | changeMap s pkt => exact handleCChangeMap_idGen data w r s pkt
  | equipItem s slot => exact Nat.le_of_eq (itemJob_idGen _ w s).symm
  | unequipItem s equipType => exact Nat.le_of_eq (itemJob_idGen _ w s).symm
  | useItem s slot => exact Nat.le_of_eq (itemJob_idGen _ w s).symm
  | partyInvite s targetId => exact Nat.le_of_eq (partyInvite_idGen w r s targetId).symm
  | partyAnswer s inviterId accept =>
      exact Nat.le_of_eq (partyAnswer_idGen w r s inviterId accept).symm
  | partyLeave s => exact Nat.le_of_eq (partyLeave_idGen w r s).symm
  | enterRoom s player => exact Nat.le_of_eq (enterRoom_idGen w r s player).symm
  | leaveRoom s => exact Nat.le_of_eq (leaveRoom_idGen w [] r s).symm

theorem findOrCreateAccount_kept (store : Store) (username : Bytes) :
    (store.findOrCreateAccount username).2.rows = store.rows ∧
      (store.findOrCreateAccount username).2.saves = store.saves := by
  unfold Store.findOrCreateAccount
  split <;> exact ⟨rfl, rfl⟩

/-- The account a username stands for, the one that is created for it included. -/
def Store.accountOf (store : Store) (username : Bytes) : AccountId :=
  (store.findOrCreateAccount username).1

def World.loginMade (w : World) (username : Bytes) : Player × Store :=
  loginPlayer data (w.routing.store.findOrCreateAccount username).2
    (w.routing.store.accountOf username) w.idGen username

def Routing.loggedIn (a : Routing) (s : SessionId) (account : AccountId) (id : ObjectId)
    (store : Store) : Routing :=
  (a.recordLogin s account id store).enterTown s id

/-- `Handle_C_Login` either only looks the account up, or creates the next player for it
and leaves an `EnterRoom` job in the first town. -/
theorem handleCLogin_cases (w : World) (s : SessionId) (username : Bytes) :
    (∃ store, (handleCLogin data w s username).routing = w.routing.onStore (fun _ => store) ∧
      (handleCLogin data w s username).idGen = w.idGen ∧
      store.rows = w.routing.store.rows ∧ store.saves = w.routing.store.saves) ∨
    (username ≠ [] ∧ w.routing.store.accountOf username ≠ 0 ∧
      (handleCLogin data w s username).routing =
        w.routing.loggedIn s (w.routing.store.accountOf username) w.idGen
          (w.loginMade data username).2 ∧
      (handleCLogin data w s username).idGen = w.idGen + 1) := by
  obtain ⟨rows, saves⟩ := findOrCreateAccount_kept w.routing.store username
  unfold handleCLogin
  split
  case isTrue => exact .inl ⟨w.routing.store, rfl, rfl, rfl, rfl⟩
  case isFalse named =>
    dsimp only
    split
    case isTrue => exact .inl ⟨_, rfl, rfl, rows, saves⟩
    case isFalse found => exact .inr ⟨named, found, rfl, rfl⟩

theorem staticRoom_registered (a : Routing) (field : FieldId) (channel : Int) (r : RoomRef)
    (found : a.staticRoom field channel = some r) : a.Registered r := by
  simp only [Routing.staticRoom, Option.map_eq_some_iff] at found
  obtain ⟨entry, first, rfl⟩ := found
  exact .inl ⟨entry.1, List.mem_of_find?_eq_some first⟩

theorem recordLogin_keeps (a : Routing) (s : SessionId) (account : AccountId)
    (player : ObjectId) (store : Store) : a.Keeps (a.recordLogin s account player store) := by
  refine .of_tables rfl rfl rfl rfl ?_ fun _ _ players queue => ⟨players, queue⟩
  intro s' r bound
  simp only [Routing.recordLogin, Routing.sessions_setSession] at bound
  split at bound
  case isTrue same => exact .inl (same ▸ bound)
  case isFalse => exact .inl bound

theorem enterTown_keeps (a : Routing) (inRange : a.InRange) (s : SessionId) (player : ObjectId) :
    a.Keeps (a.enterTown s player) := by
  unfold Routing.enterTown
  cases town : a.staticRoom .town 1 with
  | none => exact .refl a
  | some r => exact .pushJob a r _ (inRange.registered r (staticRoom_registered a _ _ r town))

theorem setSession_rests (a : Routing) (s : SessionId) (connection : Connection) :
    a.Rests (a.setSession s { a.sessions s with connection }) where
  samePlayers := fun _ => rfl
  samePlaces := fun _ => rfl
  playerRoom := rfl
  roomCount := rfl
  players := fun _ _ member => member
  queue := fun _ _ member => member
  entering := fun _ _ _ waiting => .inl waiting
  playerSession := rfl
  player := fun s' => by
    rw [Routing.sessions_setSession]
    split
    case isTrue same => rw [same]
    case isFalse => rfl
  gameRoom := fun s' => by
    rw [Routing.sessions_setSession]
    split
    case isTrue same => rw [same]
    case isFalse => rfl
  accountId := fun s' => by
    rw [Routing.sessions_setSession]
    split
    case isTrue same => rw [same]
    case isFalse => rfl
  logins := rfl

theorem setSession_keeps (a : Routing) (s : SessionId) (connection : Connection) :
    a.Keeps (a.setSession s { a.sessions s with connection }) := by
  refine .of_tables rfl rfl rfl rfl ?_ fun _ _ players queue => ⟨players, queue⟩
  intro s' r bound
  rw [Routing.sessions_setSession] at bound
  split at bound
  case isTrue same => exact .inl (same ▸ bound)
  case isFalse => exact .inl bound

theorem onStore_rests (a : Routing) (f : Store → Store) : a.Rests (a.onStore f) :=
  .of_rooms rfl rfl rfl rfl rfl rfl

theorem onStore_keeps (a : Routing) (f : Store → Store) : a.Keeps (a.onStore f) :=
  .of_tables rfl rfl rfl rfl (fun _ _ => .inl) fun _ _ players queue => ⟨players, queue⟩

theorem onParties_rests (a : Routing) (f : PartyManager → PartyManager) :
    a.Rests (a.onParties f) :=
  .of_rooms rfl rfl rfl rfl rfl rfl

theorem onParties_keeps (a : Routing) (f : PartyManager → PartyManager) :
    a.Keeps (a.onParties f) :=
  .of_tables rfl rfl rfl rfl (fun _ _ => .inl) fun _ _ players queue => ⟨players, queue⟩

theorem saveOnDisconnect_routing (w : World) (s : SessionId) (player : ObjectId) :
    ∃ store, (saveOnDisconnect w s player).routing = w.routing.onStore (fun _ => store) := by
  unfold saveOnDisconnect
  dsimp only
  split
  · exact ⟨_, rfl⟩
  · exact ⟨w.routing.store, rfl⟩

theorem forgetOnDisconnect_routing (w : World) (player : ObjectId) :
    (forgetOnDisconnect w player).routing = w.routing := by
  unfold forgetOnDisconnect
  split <;> rfl

theorem leavePartyOnDisconnect_routing (w : World) (s : SessionId) (player : ObjectId) :
    ∃ parties, (leavePartyOnDisconnect w s player).routing =
        w.routing.onParties (fun _ => parties) ∧ w.routing.parties.MayLeave parties := by
  unfold leavePartyOnDisconnect
  dsimp only
  split
  case isTrue => exact ⟨w.routing.parties, rfl, .inl rfl⟩
  case isFalse grouped =>
    refine ⟨_, ?_, mayLeave_own w.routing.parties player grouped⟩
    split <;> rfl

theorem partWithPlayer_routing (w : World) (s : SessionId) (player : ObjectId) :
    ∃ parties, (partWithPlayer w s player).routing =
        ((saveOnDisconnect w s player).routing).onParties (fun _ => parties) ∧
      w.routing.parties.MayLeave parties := by
  obtain ⟨store, stored⟩ := saveOnDisconnect_routing w s player
  have saved : (saveOnDisconnect w s player).routing.parties = w.routing.parties := by
    rw [stored]
    rfl
  obtain ⟨parties, result, left⟩ :=
    leavePartyOnDisconnect_routing (saveOnDisconnect w s player) s player
  rw [saved] at left
  refine ⟨parties, ?_, left⟩
  rw [partWithPlayer, forgetOnDisconnect_routing]
  exact result

/-- The world after the save and the clean-up, before the `LeaveRoom` job. -/
def disconnecting (w : World) (s : SessionId) : World :=
  let w :=
    { w with
      routing := w.routing.setSession s { w.routing.sessions s with connection := .disconnected } }
  match lockPlayer w.routing w.scene [] s with
  | none => w
  | some player => partWithPlayer w s player

theorem onDisconnected_eq (w : World) (s : SessionId) :
    onDisconnected w s =
      match lockRoom (disconnecting w s).routing (disconnecting w s).scene s with
      | none => disconnecting w s
      | some r =>
          { disconnecting w s with
            routing := (disconnecting w s).routing.pushJob r (.leaveRoom s) } := rfl

theorem disconnecting_routing (w : World) (s : SessionId) :
    ∃ store parties, (disconnecting w s).routing =
        ((w.routing.setSession s
          { w.routing.sessions s with connection := .disconnected }).onStore
            fun _ => store).onParties (fun _ => parties) ∧
      w.routing.parties.MayLeave parties := by
  unfold disconnecting
  dsimp only
  split
  · exact ⟨w.routing.store, w.routing.parties, rfl, .inl rfl⟩
  · rename_i player _
    generalize before : { w with
      routing := w.routing.setSession s
        { w.routing.sessions s with connection := .disconnected } } = v
    obtain ⟨parties, parted, left⟩ := partWithPlayer_routing v s player
    obtain ⟨store, saved⟩ := saveOnDisconnect_routing v s player
    refine ⟨store, parties, ?_, ?_⟩
    · rw [parted, saved, ← before]
    · rw [← before] at left
      exact left

theorem leaveParty_objects (w : World) (s : SessionId) (player : ObjectId) :
    w.scene.SameObjects (leavePartyOnDisconnect w s player).scene := by
  unfold leavePartyOnDisconnect
  dsimp only
  split
  · exact .refl _
  · split
    · exact .sendToMembers _ _ _ _
    · exact .refl _

theorem disconnecting_objects (w : World) (s : SessionId) :
    w.scene.SameObjects (disconnecting w s).scene := by
  have parted (v : World) (player : ObjectId) :
      v.scene.SameObjects (partWithPlayer v s player).scene := by
    have saved : (saveOnDisconnect v s player).scene = v.scene := by
      unfold saveOnDisconnect
      dsimp only
      split <;> rfl
    have forgotten (u : World) : u.scene.SameObjects (forgetOnDisconnect u player).scene := by
      unfold forgetOnDisconnect
      split
      · exact .redisCommand _ _
      · exact .refl _
    have first := leaveParty_objects (saveOnDisconnect v s player) s player
    rw [saved] at first
    exact first.trans (forgotten _)
  unfold disconnecting
  dsimp only
  split
  · exact .refl _
  · rename_i player _
    exact parted { w with
      routing := w.routing.setSession s
        { w.routing.sessions s with connection := .disconnected } } player

theorem disconnecting_rests (w : World) (s : SessionId) :
    w.routing.Rests (disconnecting w s).routing ∧
      w.routing.Keeps (disconnecting w s).routing := by
  obtain ⟨store, parties, result, -⟩ := disconnecting_routing w s
  rw [result]
  constructor
  · exact ((setSession_rests w.routing s .disconnected).trans (onStore_rests _ _)).trans
      (onParties_rests _ _)
  · exact ((setSession_keeps w.routing s .disconnected).trans (onStore_keeps _ _)).trans
      (onParties_keeps _ _)

theorem disconnecting_rooms (w : World) (s : SessionId) :
    (disconnecting w s).routing.rooms = w.routing.rooms := by
  obtain ⟨store, parties, result, -⟩ := disconnecting_routing w s
  rw [result]
  rfl

theorem onDisconnected_listed (w : World) (s : SessionId) (listed : w.routing.parties.Listed) :
    (onDisconnected w s).routing.parties.Listed := by
  obtain ⟨store, parties, result, left⟩ := disconnecting_routing w s
  have parted : (disconnecting w s).routing.parties.Listed := by
    rw [result]
    exact left.listed listed
  rw [onDisconnected_eq]
  cases lockRoom (disconnecting w s).routing (disconnecting w s).scene s <;> exact parted

theorem onDisconnected_sessions (w : World) (s s' : SessionId) :
    (onDisconnected w s).routing.sessions s' =
      if s' = s then { w.routing.sessions s with connection := .disconnected }
      else w.routing.sessions s' := by
  have parted : (disconnecting w s).routing.sessions s' =
      if s' = s then { w.routing.sessions s with connection := .disconnected }
      else w.routing.sessions s' := by
    obtain ⟨store, parties, result, -⟩ := disconnecting_routing w s
    rw [result]
    exact Routing.sessions_setSession w.routing s s' _
  rw [onDisconnected_eq, ← parted]
  cases lockRoom (disconnecting w s).routing (disconnecting w s).scene s <;> rfl

theorem onDisconnected_queue (w : World) (s : SessionId) (r : RoomRef) (job : Job)
    (member : job ∈ ((onDisconnected w s).routing.rooms r).queue) :
    job ∈ (w.routing.rooms r).queue ∨ job = .leaveRoom s := by
  have rooms := disconnecting_rooms w s
  rw [onDisconnected_eq] at member
  cases locked : lockRoom (disconnecting w s).routing (disconnecting w s).scene s with
  | none =>
      simp only [locked, rooms] at member
      exact .inl member
  | some r' =>
      simp only [locked, Routing.queue_pushJob, rooms] at member
      split at member
      · rcases List.mem_append.mp member with before | new
        · exact .inl before
        · exact .inr (List.mem_singleton.mp new)
      · exact .inl member

theorem lockRoom_some (routing : Routing) (scene : Scene) (s : SessionId) (r : RoomRef)
    (locked : lockRoom routing scene s = some r) :
    (routing.sessions s).gameRoom = some r ∧ roomAlive routing scene r = true := by
  unfold lockRoom at locked
  cases bound : (routing.sessions s).gameRoom with
  | none => simp [bound] at locked
  | some other =>
      simp only [bound] at locked
      split at locked
      case isTrue alive =>
        cases locked
        exact ⟨rfl, alive⟩
      case isFalse => cases locked

theorem lockRoom_disconnecting (w : World) (s s' : SessionId) :
    lockRoom (disconnecting w s).routing (disconnecting w s).scene s' =
      lockRoom w.routing w.scene s' := by
  obtain ⟨store, parties, result, -⟩ := disconnecting_routing w s
  have bound := (setSession_rests w.routing s .disconnected).gameRoom s'
  have fields := (disconnecting_objects w s).fields
  have alive (r : RoomRef) : roomAlive (disconnecting w s).routing (disconnecting w s).scene r =
      roomAlive w.routing w.scene r := by
    rw [result]
    unfold roomAlive
    rw [fields]
    rfl
  have same : ((disconnecting w s).routing.sessions s').gameRoom =
      (w.routing.sessions s').gameRoom := by
    rw [result]
    exact bound
  simp only [lockRoom, same, alive]

theorem onDisconnected_rests (w : World) (s : SessionId) :
    w.routing.Rests (onDisconnected w s).routing := by
  rw [onDisconnected_eq]
  have parted := (disconnecting_rests w s).1
  cases lockRoom (disconnecting w s).routing (disconnecting w s).scene s with
  | none => exact parted
  | some r => exact parted.trans (.pushJob _ r _ rfl)

theorem onDisconnected_keeps (w : World) (s : SessionId) (inRange : w.routing.InRange) :
    w.routing.Keeps (onDisconnected w s).routing := by
  rw [onDisconnected_eq]
  have parted := (disconnecting_rests w s).2
  cases locked : lockRoom (disconnecting w s).routing (disconnecting w s).scene s with
  | none => exact parted
  | some r =>
      have bound := (lockRoom_some _ _ _ _ locked).1
      exact parted.trans (.pushJob _ r _ ((parted.inRange inRange).gameRoom s r bound))

theorem job_stays (s : SessionId) (pkt : ClientPacket) (job : Job) (pushed : pkt.job s = some job) :
    job.entering = none := by
  cases pkt <;> cases pushed <;> rfl

theorem job_remains (s : SessionId) (pkt : ClientPacket) (job : Job)
    (pushed : pkt.job s = some job) (s' : SessionId) : job ≠ .leaveRoom s' := by
  cases pkt <;> cases pushed <;> simp

/-- What a packet other than `C_Login` leaves behind: nothing, a job, or a chat message. -/
inductive Requested (w : World) (s : SessionId) (pkt : ClientPacket) (next : World) : Prop where
  | nothing (result : next = w)
  | pushed (job : Job) (r : RoomRef) (is : pkt.job s = some job)
      (room : lockRoom w.routing w.scene s = some r)
      (result : next = { w with routing := w.routing.pushJob r job })
  | chats (relay : SSRelayChat)
      (result : next = w.onScene fun scene => { scene with relayed := scene.relayed ++ [relay] })

theorem handlePacket_requested (w : World) (s : SessionId) (pkt : ClientPacket)
    (request : ∀ username, pkt ≠ .login username) :
    Requested w s pkt (handlePacket data w s pkt) := by
  cases pkt with
  | login username => exact absurd rfl (request username)
  | chat chat =>
      simp only [handlePacket, handleCChat]
      cases lockPlayer w.routing w.scene [] s with
      | none => exact .nothing rfl
      | some id =>
          dsimp only
          split
          · exact .nothing rfl
          · exact .chats _ rfl
  | _ =>
      simp only [handlePacket]
      split
      case h_1 job r is room => exact .pushed job r is room rfl
      case h_2 => exact .nothing rfl

theorem handlePacket_routing (w : World) (s : SessionId) (pkt : ClientPacket)
    (request : ∀ username, pkt ≠ .login username) :
    (handlePacket data w s pkt).routing = w.routing ∨
      ∃ job r, pkt.job s = some job ∧ lockRoom w.routing w.scene s = some r ∧
        (handlePacket data w s pkt).routing = w.routing.pushJob r job := by
  cases handlePacket_requested data w s pkt request with
  | nothing result =>
      rw [result]
      exact .inl rfl
  | pushed job r is room result =>
      rw [result]
      exact .inr ⟨job, r, is, room, rfl⟩
  | chats relay result =>
      rw [result]
      exact .inl rfl

theorem step_act (w next : World) (e : Event) (stepped : w.step data e = some next) :
    w.act data e = some next ∧ next.scene.fault = none := by
  unfold World.step at stepped
  cases acted : w.act data e with
  | none => simp [acted] at stepped
  | some result =>
      simp only [acted] at stepped
      split at stepped
      case isTrue fine =>
        cases stepped
        exact ⟨rfl, fine⟩
      case isFalse => cases stepped

theorem nextJob_some (a : Routing) (r : RoomRef) (job : Job) (rest : List Job)
    (front : a.nextJob = some (r, job, rest)) :
    ∃ pass, a.pass = some pass ∧ pass.current = some ⟨r, none⟩ ∧
      (a.rooms r).batch = job :: rest := by
  unfold Routing.nextJob at front
  split at front
  · rename_i now statics dungeonsFrom visited r' under_way
    cases batch : (a.rooms r').batch with
    | nil => simp [batch] at front
    | cons first others =>
        simp only [batch, Option.some.injEq, Prod.mk.injEq] at front
        obtain ⟨rfl, rfl, rfl⟩ := front
        exact ⟨_, under_way, rfl, batch⟩
  · cases front

theorem Routing.nextJob_queued (a : Routing) (r : RoomRef) (job : Job) (rest : List Job)
    (front : a.nextJob = some (r, job, rest)) : job ∈ (a.rooms r).queue := by
  obtain ⟨pass, -, -, batch⟩ := nextJob_some a r job rest front
  rw [Routing.queue_popJob a r r job rest batch, if_pos rfl]
  exact List.mem_cons_self

/-- The world in which a job is run: it is out of its batch, and its random numbers are
supplied. -/
def World.forJob (w : World) (r : RoomRef) (rest : List Job) (rand : List Nat) : World :=
  { w with routing := w.routing.popJob r rest, scene := { w.scene with rand } }

theorem runNextJob_some (w next : World) (rand : List Nat)
    (ran : w.runNextJob data rand = some next) :
    ∃ r job rest, w.routing.nextJob = some (r, job, rest) ∧
      next = runJob data (w.forJob r rest rand) r job := by
  unfold World.runNextJob at ran
  cases front : w.routing.nextJob with
  | none => simp [front] at ran
  | some entry =>
      obtain ⟨r, job, rest⟩ := entry
      simp only [front, Option.some.injEq] at ran
      exact ⟨r, job, rest, rfl, ran.symm⟩

/-- The events of an `Update` other than its jobs: a room's queue becomes its batch, the
pass goes on in the same room, or the `Update` ends. -/
inductive World.Passed (w next : World) (pass : Pass) : Prop where
  | visit (pass' : Pass) (r : RoomRef) (result : next.routing = w.routing.startVisit pass' r)
      (known : r ∈ pass.statics ∨ ∃ instanceId, (instanceId, r) ∈ w.routing.dungeonInstances)
      (statics : ∀ other ∈ pass'.statics, other ∈ pass.statics) : Passed w next pass
  | goOn (pass' : Pass) (result : next.routing = w.routing.setPass pass')
      (statics : pass'.statics = pass.statics)
      (current : ∀ visit, pass'.current = some visit →
        ∃ before, pass.current = some before ∧ visit.room = before.room) : Passed w next pass
  | finish (result : next.routing = w.routing.removeDungeons) (idle : pass.current = none) :
      Passed w next pass

theorem stepPass_passed (w next : World) (pass : Pass) (e : Event)
    (passed : w.stepPass data pass e = some next) :
    w.Passed next pass ∧ w.idGen ≤ next.idGen := by
  unfold World.stepPass at passed
  split at passed
  case h_1 =>
    split at passed
    case h_1 r statics idle left =>
      cases passed
      refine ⟨.visit _ r rfl (.inl (by simp [left])) ?_, Nat.le_refl _⟩
      intro other member
      rw [left]
      exact List.mem_cons_of_mem r member
    case h_2 => cases passed
  case h_2 =>
    split at passed
    case isTrue ready =>
      cases passed
      refine ⟨.goOn _ rfl rfl fun visit current => ?_, Nat.le_refl _⟩
      exact ⟨visit, current, rfl⟩
    case isFalse => cases passed
  case h_3 instanceId =>
    split at passed
    case h_1 => cases passed
    case h_2 entry found =>
      split at passed
      case isTrue =>
        cases passed
        have listed := List.mem_of_find?_eq_some found
        exact ⟨.visit _ entry.2 rfl (.inr ⟨entry.1, listed⟩) fun _ member => member, Nat.le_refl _⟩
      case isFalse => cases passed
  case h_4 =>
    split at passed
    case h_1 r draining =>
      split at passed
      case isTrue =>
        cases passed
        refine ⟨.goOn _ rfl rfl fun visit current => ⟨_, draining, ?_⟩, Nat.le_refl _⟩
        cases current
        rfl
      case isFalse => cases passed
    case h_2 => cases passed
  case h_5 rand =>
    split at passed
    case h_1 r steps stepping =>
      split at passed
      case isTrue =>
        cases passed
        refine ⟨.goOn _ rfl rfl fun visit current => ⟨_, stepping, ?_⟩,
          gameStep_idGen data w.routing r _ w.idGen⟩
        cases current
        rfl
      case isFalse => cases passed
    case h_2 => cases passed
  case h_6 =>
    split at passed
    case h_1 r steps stepping =>
      dsimp only at passed
      split at passed
      case isTrue => cases passed
      case isFalse =>
        cases passed
        refine ⟨.goOn _ rfl rfl fun visit current => ?_, Nat.le_refl _⟩
        cases current
    case h_2 => cases passed
  case h_7 =>
    split at passed
    case h_1 => cases passed
    case h_2 =>
      split at passed
      case isTrue ready =>
        cases passed
        exact ⟨.finish rfl ready.1, Nat.le_refl _⟩
      case isFalse => cases passed
  case h_8 => cases passed

theorem passed_idles (w next : World) (pass : Pass) (passed : w.Passed next pass) :
    w.routing.Idles next.routing := by
  cases passed with
  | visit pass' r result =>
      rw [result]
      exact .of_rests (.startVisit _ _ _) rfl rfl rfl fun r' => Routing.queue_startVisit _ pass' r r'
  | goOn pass' result =>
      rw [result]
      exact .of_rooms rfl rfl rfl rfl rfl rfl rfl rfl
  | finish result =>
      rw [result]
      exact .of_rooms rfl rfl rfl rfl rfl rfl rfl rfl

/-- What a step can be: a player enters a room, another job runs, a login is handled, a
session disconnects, or all players stay where they are. -/
inductive World.Stepped (w next : World) : Event → Prop where
  | enter (r : RoomRef) (s : SessionId) (id : ObjectId) (rest : List Job) (rand : List Nat)
      (front : w.routing.nextJob = some (r, .enterRoom s id, rest))
      (result : next = (w.forJob r rest rand).enterRoom r s id) : Stepped w next (.job rand)
  | ran (r : RoomRef) (job : Job) (rest : List Job) (rand : List Nat)
      (front : w.routing.nextJob = some (r, job, rest)) (stays : job.entering = none)
      (result : next = runJob data (w.forJob r rest rand) r job) : Stepped w next (.job rand)
  | login (s : SessionId) (username : Bytes)
      (connected : (w.routing.sessions s).connection = .connected)
      (result : next = handleCLogin data w s username) : Stepped w next (.packet s (.login username))
  | left (s : SessionId) (connected : (w.routing.sessions s).connection = .connected)
      (result : next = onDisconnected w s) : Stepped w next (.disconnect s)
  | other (e : Event) (idles : w.routing.Idles next.routing) : Stepped w next e

theorem step_stepped (w next : World) (e : Event) (stepped : w.step data e = some next) :
    w.Stepped data next e := by
  obtain ⟨acted, -⟩ := step_act data w next e stepped
  cases e with
  | connect s =>
      simp only [World.act] at acted
      split at acted
      case isTrue fresh =>
        cases acted
        refine .other _ ⟨setSession_rests w.routing s .connected, rfl, rfl, fun s' => ?_,
          fun _ _ waiting => waiting⟩
        simp only [onConnected, Routing.sessions_setSession]
        split
        case isTrue same => simp [same, fresh]
        case isFalse => exact Iff.rfl
      case isFalse => cases acted
  | packet s pkt =>
      simp only [World.act] at acted
      split at acted
      case isFalse => cases acted
      case isTrue connected =>
        cases acted
        by_cases request : ∃ username, pkt = .login username
        · obtain ⟨username, rfl⟩ := request
          exact .login s username connected rfl
        · rcases handlePacket_routing data w s pkt (fun username same => request ⟨username, same⟩)
            with same | ⟨job, r, pushed, -, result⟩
          · refine .other _ ?_
            rw [same]
            exact .refl _
          · refine .other _ ?_
            rw [result]
            exact .pushJob _ r job (job_stays s pkt job pushed) (job_remains s pkt job pushed)
  | disconnect s =>
      simp only [World.act] at acted
      split at acted
      case isTrue connected =>
        cases acted
        exact .left s connected rfl
      case isFalse => cases acted
  | clock now =>
      simp only [World.act] at acted
      split at acted
      · cases acted
        exact .other _ (.refl _)
      · cases acted
  | update =>
      simp only [World.act] at acted
      split at acted
      · cases acted
      · cases acted
        exact .other _ (.of_rooms rfl rfl rfl rfl rfl rfl rfl rfl)
  | job rand =>
      obtain ⟨r, job, rest, front, result⟩ := runNextJob_some data w next rand acted
      cases job with
      | enterRoom s id => exact .enter r s id rest rand front result
      | _ => exact .ran r _ rest rand front rfl result
  | visitStatic | loopDungeons | visitDungeon _ | endJobs | step _ | endRoom | endUpdate =>
      simp only [World.act] at acted
      split at acted
      · cases acted
      · rename_i pass _
        exact .other _ (passed_idles w next pass (stepPass_passed data w next pass _ acted).1)

theorem passed_inRange (w next : World) (pass : Pass) (under_way : w.routing.pass = some pass)
    (passed : w.Passed next pass) (inRange : w.routing.InRange) : next.routing.InRange := by
  cases passed with
  | visit pass' r result known statics =>
      have registered : w.routing.Registered r := by
        rcases known with static | dungeon
        · exact inRange.statics pass r under_way static
        · exact .inr dungeon
      rw [result]
      constructor
      · intro r' beyond
        rw [Routing.players_startVisit, Routing.queue_startVisit]
        exact inRange.unmade r' beyond
      · exact inRange.registered
      · exact inRange.gameRoom
      · intro now r' now_under_way member
        cases now_under_way
        exact inRange.statics pass r' under_way (statics r' member)
      · intro now visit now_under_way current
        cases now_under_way
        cases current
        exact registered
  | goOn pass' result statics current =>
      rw [result]
      constructor
      · exact inRange.unmade
      · exact inRange.registered
      · exact inRange.gameRoom
      · intro now r now_under_way member
        cases now_under_way
        exact inRange.statics pass r under_way (statics ▸ member)
      · intro now visit now_under_way set
        cases now_under_way
        obtain ⟨before, old, same⟩ := current visit set
        rw [same]
        exact inRange.current pass before under_way old
  | finish result idle =>
      rw [result]
      constructor
      · exact inRange.unmade
      · rintro r (static | ⟨instanceId, dungeon⟩)
        · exact inRange.registered r (.inl static)
        · exact inRange.registered r (.inr ⟨instanceId, List.mem_of_mem_filter dungeon⟩)
      · exact inRange.gameRoom
      · intro now r now_under_way
        cases now_under_way
      · intro now visit now_under_way
        cases now_under_way

theorem nextJob_registered (a : Routing) (inRange : a.InRange) (r : RoomRef) (job : Job)
    (rest : List Job) (front : a.nextJob = some (r, job, rest)) : a.Registered r := by
  obtain ⟨pass, under_way, current, -⟩ := nextJob_some a r job rest front
  exact inRange.current pass _ under_way current

theorem forJob_keeps (w : World) (r : RoomRef) (job : Job) (rest : List Job) (rand : List Nat)
    (front : w.routing.nextJob = some (r, job, rest)) :
    w.routing.Keeps (w.forJob r rest rand).routing := by
  obtain ⟨pass, -, -, batch⟩ := nextJob_some _ r job rest front
  exact .popJob w.routing r job rest batch

theorem enterRoom_keeps (w : World) (r : RoomRef) (s : SessionId) (id : ObjectId)
    (made : r < w.routing.roomCount) : w.routing.Keeps (w.enterRoom r s id).routing := by
  rw [enterRoom_routing]
  exact (Routing.Keeps.bind w.routing r s id made).trans (.addPlayer _ r id made)

theorem handleCLogin_keeps (w : World) (s : SessionId) (username : Bytes)
    (inRange : w.routing.InRange) : w.routing.Keeps (handleCLogin data w s username).routing := by
  rcases handleCLogin_cases data w s username with ⟨store, result, -⟩ | ⟨-, -, result, -⟩
  · rw [result]
    exact onStore_keeps _ _
  · rw [result]
    have recorded := recordLogin_keeps w.routing s (w.routing.store.accountOf username) w.idGen
      (w.loginMade data username).2
    exact recorded.trans (enterTown_keeps _ (recorded.inRange inRange) s w.idGen)

theorem step_inRange (w next : World) (e : Event) (inRange : w.routing.InRange)
    (stepped : w.step data e = some next) : next.routing.InRange := by
  obtain ⟨acted, -⟩ := step_act data w next e stepped
  cases e with
  | connect s =>
      simp only [World.act] at acted
      split at acted
      · cases acted
        exact (setSession_keeps w.routing s .connected).inRange inRange
      · cases acted
  | packet s pkt =>
      simp only [World.act] at acted
      split at acted
      case isFalse => cases acted
      case isTrue connected =>
        cases acted
        by_cases request : ∃ username, pkt = .login username
        · obtain ⟨username, rfl⟩ := request
          exact (handleCLogin_keeps data w s username inRange).inRange inRange
        · rcases handlePacket_routing data w s pkt (fun username same => request ⟨username, same⟩)
            with same | ⟨job, r, -, locked, result⟩
          · rwa [same]
          · rw [result]
            have bound := (lockRoom_some _ _ _ _ locked).1
            exact (Routing.Keeps.pushJob w.routing r job
              (inRange.gameRoom s r bound)).inRange inRange
  | disconnect s =>
      simp only [World.act] at acted
      split at acted
      · cases acted
        exact (onDisconnected_keeps w s inRange).inRange inRange
      · cases acted
  | clock now =>
      simp only [World.act] at acted
      split at acted
      · cases acted
        exact inRange
      · cases acted
  | update =>
      simp only [World.act] at acted
      split at acted
      · cases acted
      · cases acted
        constructor
        · exact inRange.unmade
        · exact inRange.registered
        · exact inRange.gameRoom
        · intro now r under_way member
          cases under_way
          obtain ⟨entry, listed, rfl⟩ := List.mem_map.mp member
          exact .inl ⟨entry.1, listed⟩
        · intro now visit under_way current
          cases under_way
          cases current
  | job rand =>
      obtain ⟨r, job, rest, front, result⟩ := runNextJob_some data w next rand acted
      have popped := forJob_keeps w r job rest rand front
      have known := popped.registered r (nextJob_registered _ inRange r job rest front)
      have ranged := popped.inRange inRange
      rw [result]
      by_cases stays : job.entering = none
      · exact (runJob_calm data _ r job ranged stays).inRange ranged
      · cases job with
        | enterRoom s id => exact (enterRoom_keeps _ r s id (ranged.registered r known)).inRange ranged
        | _ => exact absurd rfl stays
  | visitStatic | loopDungeons | visitDungeon _ | endJobs | step _ | endRoom | endUpdate =>
      simp only [World.act] at acted
      split at acted
      · cases acted
      · rename_i pass under_way
        exact passed_inRange w next pass under_way (stepPass_passed data w next pass _ acted).1
          inRange

theorem handlePacket_idGen (w : World) (s : SessionId) (pkt : ClientPacket) :
    w.idGen ≤ (handlePacket data w s pkt).idGen := by
  by_cases login : ∃ username, pkt = .login username
  · obtain ⟨username, rfl⟩ := login
    rcases handleCLogin_cases data w s username with ⟨-, -, same, -⟩ | ⟨-, -, -, more⟩
    · exact Nat.le_of_eq same.symm
    · exact Nat.le_trans (Nat.le_succ _) (Nat.le_of_eq more.symm)
  · cases handlePacket_requested data w s pkt fun username same => login ⟨username, same⟩ with
    | nothing result => rw [result]
    | pushed job r is room result => rw [result]
    | chats relay result =>
        rw [result]
        exact Nat.le_of_eq (onScene_idGen _ _).symm

theorem onDisconnected_idGen (w : World) (s : SessionId) : (onDisconnected w s).idGen = w.idGen := by
  have parted (v : World) (player : ObjectId) : (partWithPlayer v s player).idGen = v.idGen := by
    have saved : (saveOnDisconnect v s player).idGen = v.idGen := by
      unfold saveOnDisconnect
      dsimp only
      split <;> rfl
    have left (u : World) : (leavePartyOnDisconnect u s player).idGen = u.idGen := by
      unfold leavePartyOnDisconnect
      dsimp only
      split
      · rfl
      · split <;> rfl
    unfold partWithPlayer forgetOnDisconnect
    split
    · exact (onScene_idGen _ _).trans ((left _).trans saved)
    · exact (left _).trans saved
  have disconnected : (disconnecting w s).idGen = w.idGen := by
    unfold disconnecting
    dsimp only
    split
    · rfl
    · exact parted _ _
  rw [onDisconnected_eq]
  split <;> exact disconnected

theorem step_idGen (w next : World) (e : Event) (stepped : w.step data e = some next) :
    w.idGen ≤ next.idGen := by
  obtain ⟨acted, -⟩ := step_act data w next e stepped
  cases e with
  | connect s =>
      simp only [World.act] at acted
      split at acted
      · cases acted
        exact Nat.le_refl _
      · cases acted
  | packet s pkt =>
      simp only [World.act] at acted
      split at acted
      · cases acted
        exact handlePacket_idGen data w s pkt
      · cases acted
  | disconnect s =>
      simp only [World.act] at acted
      split at acted
      · cases acted
        exact Nat.le_of_eq (onDisconnected_idGen w s).symm
      · cases acted
  | clock now =>
      simp only [World.act] at acted
      split at acted
      · cases acted
        exact Nat.le_refl _
      · cases acted
  | update =>
      simp only [World.act] at acted
      split at acted
      · cases acted
      · cases acted
        exact Nat.le_refl _
  | job rand =>
      obtain ⟨r, job, rest, -, rfl⟩ := runNextJob_some data w next rand acted
      exact runJob_idGen data (w.forJob r rest rand) r job
  | visitStatic | loopDungeons | visitDungeon _ | endJobs | step _ | endRoom | endUpdate =>
      simp only [World.act] at acted
      split at acted
      · cases acted
      · exact (stepPass_passed data w next _ _ acted).2

structure Routing.Blank (a : Routing) : Prop where
  players : ∀ r, (a.rooms r).players = []
  queue : ∀ r, (a.rooms r).queue = []
  sessions : a.sessions = fun _ => .fresh
  playerSession : a.playerSession = fun _ => none
  playerRoom : a.playerRoom = fun _ => none
  parties : a.parties = .initial
  logins : a.logins = []
  saves : a.store.saves = []
  pass : a.pass = none
  registered : ∀ r, a.Registered r → r < a.roomCount

theorem openTown_blank (w : World) (channel : Int) (roomId : RoomName) (blank : w.routing.Blank) :
    (w.openTown data channel roomId).routing.Blank := by
  have rooms (r : RoomRef) : (w.openTown data channel roomId).routing.rooms r =
      if r = w.routing.roomCount then Room.create .town channel 0 else w.routing.rooms r :=
    Routing.rooms_addRoom w.routing r _
  constructor
  · intro r
    rw [rooms]
    split
    · rfl
    · exact blank.players r
  · intro r
    rw [rooms]
    split
    · rfl
    · exact blank.queue r
  · exact blank.sessions
  · exact blank.playerSession
  · exact blank.playerRoom
  · exact blank.parties
  · exact blank.logins
  · exact blank.saves
  · exact blank.pass
  · have count : (w.openTown data channel roomId).routing.roomCount = w.routing.roomCount + 1 := rfl
    rintro r (⟨key, static⟩ | ⟨instanceId, dungeon⟩)
    · rw [count]
      rcases List.mem_append.mp static with old | new
      · exact Nat.lt_succ_of_lt (blank.registered r (.inl ⟨key, old⟩))
      · rw [List.mem_singleton, Prod.mk.injEq] at new
        exact Nat.lt_succ_of_le (Nat.le_of_eq new.2)
    · rw [count]
      exact Nat.lt_succ_of_lt (blank.registered r (.inr ⟨instanceId, dungeon⟩))

theorem empty_blank (store : Store) (redisConnected : Bool) (rand : List Nat) :
    (World.empty data store redisConnected rand).routing.Blank := by
  constructor
  case registered =>
    rintro r (⟨key, static⟩ | ⟨instanceId, dungeon⟩)
    · cases static
    · cases dungeon
  all_goals first | rfl | exact fun _ => rfl

theorem init_blank (store : Store) (redisConnected : Bool) (rand : List Nat) :
    (World.init data store redisConnected rand).routing.Blank := by
  have empty := empty_blank data store redisConnected rand
  unfold World.init
  dsimp only
  split
  · exact openTown_blank data _ 2 .town2 (openTown_blank data _ 1 .town1 empty)
  · exact empty

theorem Routing.Blank.inRange {a : Routing} (blank : a.Blank) : a.InRange where
  unmade := fun r _ => ⟨blank.players r, blank.queue r⟩
  registered := blank.registered
  gameRoom := fun s r bound => by
    rw [blank.sessions] at bound
    cases bound
  statics := fun pass r under_way => by
    rw [blank.pass] at under_way
    cases under_way
  current := fun pass visit under_way => by
    rw [blank.pass] at under_way
    cases under_way

theorem Routing.Blank.not_placed {a : Routing} (blank : a.Blank) (id : ObjectId) :
    ¬ a.Placed id := by
  rintro ⟨r, standing | ⟨s, waiting⟩⟩
  · rw [blank.players] at standing
    cases standing
  · rw [blank.queue] at waiting
    cases waiting

end ZeldaServer
