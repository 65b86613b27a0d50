import ZeldaServer.World.Births
import ZeldaServer.World.Logins

/-! What each event does to the objects of the game. -/

namespace ZeldaServer

open Chains (Chain)

variable (data : GameData)

theorem leaveRoom_quiet (w : World) (held : List ObjectId) (r : RoomRef) (s : SessionId) :
    w.scene.Quiet (w.leaveRoom held r s).scene := by
  unfold World.leaveRoom
  cases lockPlayer w.routing w.scene held s with
  | none => exact .refl _
  | some id =>
      simp only [World.removeObject]
      split
      · exact Scene.Quiet.broadcast (w.routing.erasePlayer r id) r _ w.scene
      · exact .refl _

theorem moveOver_quiet (w : World) (held : List ObjectId) (source dest : RoomRef)
    (pkt : CChangeMap) (instanceId : InstanceId) (s : SessionId) (player : ObjectId) :
    w.scene.Quiet (w.moveOver held source dest pkt instanceId s player).scene := by
  have left := leaveRoom_quiet (w.sendTo s (.changeMap true pkt.mapId pkt.channel instanceId))
    held source s
  have sent : w.scene.Quiet
      (w.sendTo s (.changeMap true pkt.mapId pkt.channel instanceId)).scene := .send w.scene s _
  exact sent.trans left

theorem changeMapTo_quiet (w : World) (source dest : RoomRef) (s : SessionId)
    (requester : ObjectId) (pkt : CChangeMap) (instanceId : InstanceId) :
    w.scene.Quiet (w.changeMapTo source dest s requester pkt instanceId).scene := by
  have moveAll (held : List ObjectId) (toMove : List (SessionId × ObjectId)) (v : World) :
      v.scene.Quiet (toMove.foldl (fun w member =>
        w.moveOver held source dest pkt instanceId member.1 member.2) v).scene := by
    induction toMove generalizing v with
    | nil => exact .refl _
    | cons head tail ih => exact (moveOver_quiet v held source dest pkt instanceId _ _).trans (ih _)
  unfold World.changeMapTo
  dsimp only
  split
  · exact moveAll _ _ w
  · exact moveOver_quiet w _ source dest pkt instanceId s requester

theorem moveOver_roomCount (w : World) (held : List ObjectId) (source dest : RoomRef)
    (pkt : CChangeMap) (instanceId : InstanceId) (s : SessionId) (player : ObjectId) :
    (w.moveOver held source dest pkt instanceId s player).routing.roomCount =
      w.routing.roomCount := by
  rw [moveOver_routing, Routing.pushJob, Routing.setRoom]
  dsimp only
  rw [leaveRoom_routing]
  cases lockPlayer _ _ held s with
  | none => rfl
  | some id =>
      dsimp only [Routing.leave, Routing.requestRemoval]
      split <;> split <;> rfl

theorem changeMapTo_roomCount (w : World) (source dest : RoomRef) (s : SessionId)
    (requester : ObjectId) (pkt : CChangeMap) (instanceId : InstanceId) :
    (w.changeMapTo source dest s requester pkt instanceId).routing.roomCount =
      w.routing.roomCount := by
  have moveAll (held : List ObjectId) (toMove : List (SessionId × ObjectId)) (v : World) :
      (toMove.foldl (fun w member => w.moveOver held source dest pkt instanceId member.1 member.2)
        v).routing.roomCount = v.routing.roomCount := by
    induction toMove generalizing v with
    | nil => rfl
    | cons head tail ih =>
        exact (ih _).trans (moveOver_roomCount v held source dest pkt instanceId _ _)
  unfold World.changeMapTo
  dsimp only
  split
  · exact moveAll _ _ w
  · exact moveOver_roomCount w _ source dest pkt instanceId s requester

theorem sendPartyUpdateFromRoom_whispers (w : World) (r : RoomRef) (partyId : PartyId) :
    w.scene.Whispers (sendPartyUpdateFromRoom w r partyId).scene := by
  unfold sendPartyUpdateFromRoom
  cases w.routing.parties.parties partyId with
  | none => exact .silent
  | some party => exact .sendToMembers r party.memberIds _ rfl w

theorem enterRoomParty_whispers (w : World) (r : RoomRef) (player : ObjectId) :
    w.scene.Whispers (enterRoomParty w r player).scene := by
  unfold enterRoomParty
  dsimp only
  split
  · exact .silent
  · cases w.routing.parties.parties (w.routing.parties.partyIdByPlayer player) with
    | none => exact .silent
    | some party =>
        dsimp only
        split
        · exact .failed w.scene .silent .badCast (by decide)
        · exact .sendToMembers r party.memberIds _ rfl w

theorem inviterParty_scene (w : World) (r : RoomRef) (inviterId : ObjectId) :
    (inviterParty w r inviterId).2.scene = w.scene := by
  unfold inviterParty
  dsimp only
  split <;> rfl

theorem partyInvite_whispers (w : World) (r : RoomRef) (s : SessionId) (targetId : ObjectId) :
    w.scene.Whispers (partyInvite w r s targetId).scene := by
  unfold partyInvite
  cases lockPlayer w.routing w.scene [] s with
  | none => exact .silent
  | some inviter =>
      dsimp only
      split
      · exact .silent
      · split
        · exact .silent
        · split
          · exact .silent
          · split
            · exact .silent
            · cases findPlayer w r targetId with
              | none => exact .silent
              | some target => exact .sendToPlayer w.routing target _ rfl w.scene

theorem partyAnswer_whispers (w : World) (r : RoomRef) (s : SessionId) (inviterId : ObjectId)
    (accept : Bool) : w.scene.Whispers (partyAnswer w r s inviterId accept).scene := by
  have same := inviterParty_scene w r inviterId
  unfold partyAnswer
  cases lockPlayer w.routing w.scene [] s with
  | none => exact .silent
  | some acceptor =>
      dsimp only
      generalize inviterParty w r inviterId = made at same
      have kept : w.scene.Whispers made.2.scene := by
        rw [same]
        exact .silent
      split
      · exact .silent
      · split
        · exact .silent
        · split
          · exact kept
          · split
            · exact kept
            · exact kept.trans (sendPartyUpdateFromRoom_whispers
                { made.2 with
                  routing := made.2.routing.onParties fun _ =>
                    (made.2.routing.parties.addMember made.1 acceptor).2.setMemberName made.1
                      acceptor (made.2.scene.players acceptor).info.name } r made.1)

theorem partyLeave_whispers (w : World) (r : RoomRef) (s : SessionId) :
    w.scene.Whispers (partyLeave w r s).scene := by
  unfold partyLeave
  cases lockPlayer w.routing w.scene [] s with
  | none => exact .silent
  | some player =>
      dsimp only
      split
      · exact .silent
      · cases w.routing.parties.parties (w.routing.parties.partyIdByPlayer player) with
        | none => exact .silent
        | some party =>
            have told (parties : PartyManager → PartyManager) :
                w.scene.Whispers
                  (World.sendTo { w with routing := w.routing.onParties parties } s
                    .partyLeave).scene :=
              .send w.scene s .partyLeave rfl
            dsimp only
            split
            · exact (told _).trans (sendPartyUpdateFromRoom_whispers _ r _)
            · exact (told _).trans (.sendToMembers r _ _ rfl _)

theorem leavePartyOnDisconnect_whispers (w : World) (s : SessionId) (player : ObjectId) :
    w.scene.Whispers (leavePartyOnDisconnect w s player).scene := by
  unfold leavePartyOnDisconnect
  dsimp only
  split
  · exact .silent
  · split
    · exact .sendToMembers _ _ _ rfl _
    · exact .silent

theorem disconnecting_quiet (w : World) (s : SessionId) :
    w.scene.Quiet (disconnecting w s).scene := by
  have parted (v : World) (player : ObjectId) :
      v.scene.Quiet (partWithPlayer v s player).scene := by
    have saved : (saveOnDisconnect v s player).scene = v.scene := by
      unfold saveOnDisconnect
      dsimp only
      split <;> rfl
    have forgotten (u : World) : u.scene.Quiet (forgetOnDisconnect u player).scene := by
      unfold forgetOnDisconnect
      split
      · exact .redisCommand _ _
      · exact .refl _
    have first := (leavePartyOnDisconnect_whispers (saveOnDisconnect v s player) s player).quiet
    rw [saved] at first
    exact first.trans (forgotten _)
  unfold disconnecting
  dsimp only
  split
  · exact .refl _
  · rename_i player _
    exact parted { w with
      routing := w.routing.setSession s
        { w.routing.sessions s with connection := .disconnected } } player

/-- The player and the cell `Handle_C_Move` puts it on, where it moves. -/
def moveTarget (routing : Routing) (r : RoomRef) (s : SessionId) (pkt : CMove) (scene : Scene) :
    Option (ObjectId × Vec2Int) :=
  match lockPlayer routing scene [] s with
  | none => none
  | some id =>
      let info := (scene.players id).info
      if info.state ≠ .move ∧ pkt.dir.isValid = true ∧ info.dir = pkt.dir ∧
          canGo routing scene r info.frontCellPos = true then
        some (id, info.frontCellPos)
      else none

def Player.walking (now : Nat) (pos : Vec2Int) (p : Player) : Player :=
  { p with
    info := ({ p.info with state := .move } : ObjectInfo).setCellPos pos, moveEndTick := now + 75 }

def Player.halted (dir : Dir) (p : Player) : Player :=
  { p with info := { p.info with dir, state := .idle } }

theorem moveTarget_some (routing : Routing) (r : RoomRef) (s : SessionId) (pkt : CMove)
    (scene : Scene) (id : ObjectId) (pos : Vec2Int)
    (moves : moveTarget routing r s pkt scene = some (id, pos)) :
    lockPlayer routing scene [] s = some id ∧ (scene.players id).info.state ≠ .move ∧
      canGo routing scene r pos = true := by
  unfold moveTarget at moves
  cases locked : lockPlayer routing scene [] s with
  | none => simp [locked] at moves
  | some other =>
      simp only [locked] at moves
      split at moves
      case isTrue going =>
        cases moves
        exact ⟨rfl, going.1, going.2.2.2⟩
      case isFalse => cases moves

theorem handleCMove_moves (routing : Routing) (r : RoomRef) (s : SessionId) (pkt : CMove)
    (scene : Scene) (id : ObjectId) (pos : Vec2Int)
    (moves : moveTarget routing r s pkt scene = some (id, pos)) :
    (scene.setPlayer id ((scene.players id).walking scene.now pos)).Quiet
      (handleCMove routing r s pkt scene) := by
  unfold moveTarget at moves
  unfold handleCMove
  cases locked : lockPlayer routing scene [] s with
  | none => simp [locked] at moves
  | some other =>
      simp only [locked] at moves
      split at moves
      case isTrue going =>
        cases moves
        obtain ⟨still, valid, ahead, free⟩ := going
        dsimp only
        rw [if_neg still, if_neg (by simp [valid]), if_neg (not_not.mpr ahead),
          if_neg (by simp [free])]
        exact .broadcast routing r _ _
      case isFalse => cases moves

theorem handleCMove_stays (routing : Routing) (r : RoomRef) (s : SessionId) (pkt : CMove)
    (scene : Scene) (stays : moveTarget routing r s pkt scene = none) :
    scene.Quiet (handleCMove routing r s pkt scene) ∨
      ∃ id dir, lockPlayer routing scene [] s = some id ∧ (scene.players id).info.state ≠ .move ∧
        (scene.setPlayer id ((scene.players id).halted dir)).Quiet
          (handleCMove routing r s pkt scene) := by
  unfold moveTarget at stays
  unfold handleCMove
  cases locked : lockPlayer routing scene [] s with
  | none => exact .inl (.refl _)
  | some id =>
      simp only [locked] at stays
      split at stays
      case isTrue => cases stays
      case isFalse refused =>
        dsimp only
        split
        case isTrue => exact .inl (.refl _)
        case isFalse still =>
          split
          case isTrue => exact .inl (.refl _)
          case isFalse valid =>
            split
            case isTrue => exact .inr ⟨id, pkt.dir, rfl, still, .broadcast routing r _ _⟩
            case isFalse ahead =>
              have blocked : ¬ canGo routing scene r (scene.players id).info.frontCellPos = true :=
                fun free => refused ⟨still, by simpa using valid, not_not.mp ahead, free⟩
              simp only [blocked, Bool.not_false, if_true]
              exact .inr ⟨id, (scene.players id).info.dir, rfl, still, .broadcast routing r _ _⟩

theorem handleCMove_cells (routing : Routing) (r : RoomRef) (s : SessionId) (pkt : CMove)
    (scene : Scene) (id : ObjectId) :
    ((handleCMove routing r s pkt scene).players id).info.cellPos =
        (scene.players id).info.cellPos ∨
      ∃ pos, moveTarget routing r s pkt scene = some (id, pos) := by
  cases moves : moveTarget routing r s pkt scene with
  | some target =>
      obtain ⟨other, pos⟩ := target
      by_cases same : id = other
      · subst same
        exact .inr ⟨pos, rfl⟩
      · left
        rw [(handleCMove_moves routing r s pkt scene other pos moves).players]
        simp [Scene.setPlayer, same]
  | none =>
      left
      rcases handleCMove_stays routing r s pkt scene moves with quiet | ⟨other, dir, -, -, quiet⟩
      · rw [quiet.players]
      · rw [quiet.players]
        by_cases same : id = other
        · subst same
          simp [Scene.setPlayer, Player.halted, ObjectInfo.cellPos]
        · simp [Scene.setPlayer, same]

theorem handleCTurn_cases (routing : Routing) (r : RoomRef) (s : SessionId) (pkt : CTurn)
    (scene : Scene) :
    scene.Quiet (handleCTurn routing r s pkt scene) ∨
      ∃ id, lockPlayer routing scene [] s = some id ∧ pkt.dir.isValid = true ∧
        (scene.players id).info.dir ≠ pkt.dir ∧
        (scene.setPlayer id ((scene.players id).halted pkt.dir)).Quiet
          (handleCTurn routing r s pkt scene) := by
  unfold handleCTurn
  cases locked : lockPlayer routing scene [] s with
  | none => exact .inl (.refl _)
  | some id =>
      dsimp only
      split
      case isTrue => exact .inl (.refl _)
      case isFalse valid =>
        split
        case isTrue => exact .inl (.refl _)
        case isFalse other =>
          exact .inr ⟨id, rfl, by simpa using valid, other, .broadcast routing r _ _⟩

/-- How `EnterRoom` leaves the player that enters. -/
def Player.atEntrance (p : Player) : Player :=
  { p with info := { p.info.setCellPos entrance with state := .idle }, moveEndTick := 0 }

theorem enterRoom_quiet (w : World) (r : RoomRef) (s : SessionId) (id : ObjectId) :
    (w.scene.setPlayer id (w.scene.players id).atEntrance).Quiet (w.enterRoom r s id).scene := by
  unfold World.enterRoom
  dsimp only
  apply Scene.Quiet.trans _ (enterRoomParty_whispers _ r id).quiet
  apply Scene.Quiet.trans _ (Scene.Quiet.broadcast _ r _ _)
  have stocked := Scene.Quiet.emissions (w.routing.bind r s id) id
    (w.scene.players id).atEntrance.sendInventoryData
    ((w.scene.setPlayer id (w.scene.players id).atEntrance).send s
      (.myPlayer (w.scene.players id).atEntrance.info))
  have greeted : (w.scene.setPlayer id (w.scene.players id).atEntrance).Quiet
      ((w.scene.setPlayer id (w.scene.players id).atEntrance).send s
        (.myPlayer (w.scene.players id).atEntrance.info)) := .send _ s _
  exact (greeted.trans stocked).trans (.send _ s _)

/-- The jobs that set where a player stands, where it looks or how it moves. -/
def Job.movesPlayer : Job → Bool
  | .move _ _ | .turn _ _ | .enterRoom _ _ => true
  | _ => false

/-- What a job of room `r` does to the objects. -/
inductive World.Did (w : World) (r : RoomRef) (v : World) : Job → Prop where
  | deeds (job : Job) (removed : List Monster) (stays : job.movesPlayer = false)
      (chain : w.scene.Deeds w.routing r removed v.scene) (idGen : v.idGen = w.idGen) :
      Did w r v job
  | moved (s : SessionId) (pkt : CMove) (result : v = w.onScene (handleCMove w.routing r s pkt)) :
      Did w r v (.move s pkt)
  | turned (s : SessionId) (pkt : CTurn) (result : v = w.onScene (handleCTurn w.routing r s pkt)) :
      Did w r v (.turn s pkt)
  | shot (s : SessionId) (pkt : CAttack) (attacker : ObjectId) (arrow : Arrow) (scene : Scene)
      (locked : lockPlayer w.routing w.scene [] s = some attacker)
      (named : arrow.info.objectId = w.idGen)
      (owner : arrow.ownerId = (w.scene.players attacker).info.objectId)
      (told : w.scene.Quiet scene)
      (result : v = { w with scene := addArrow w.routing r arrow scene, idGen := w.idGen + 1 }) :
      Did w r v (.attack s pkt)
  | opened (s : SessionId) (pkt : CChangeMap)
      (made : (w.createDungeonInstance data).2.2.scene.Quiet v.scene)
      (idGen : v.idGen = (w.createDungeonInstance data).2.2.idGen)
      (roomCount : v.routing.roomCount = w.routing.roomCount + 1) : Did w r v (.changeMap s pkt)
  | entered (s : SessionId) (id : ObjectId) (result : v = w.enterRoom r s id) :
      Did w r v (.enterRoom s id)

namespace World.Did

theorem quiet (w : World) (r : RoomRef) (v : World) (job : Job) (stays : job.movesPlayer = false)
    (same : w.scene.Quiet v.scene) (idGen : v.idGen = w.idGen) : w.Did data r v job :=
  .deeds job [] stays (Scene.Deeds.quiet w.routing r same) idGen

theorem handleCAttack (w : World) (r : RoomRef) (s : SessionId) (pkt : CAttack)
    (distinct : (w.scene.fields r).Distinct) :
    w.Did data r (handleCAttack data w r s pkt) (.attack s pkt) := by
  unfold ZeldaServer.handleCAttack
  cases locked : lockPlayer w.routing w.scene [] s with
  | none => exact quiet data w r w _ rfl (.refl _) rfl
  | some attacker =>
      dsimp only
      have told := Scene.Quiet.broadcast w.routing r
        (.attack (w.scene.players attacker).info.objectId pkt.dir pkt.weaponType) w.scene
      generalize ZeldaServer.broadcast w.routing r
        (.attack (w.scene.players attacker).info.objectId pkt.dir pkt.weaponType) = broadcasts
        at told
      have distinct' : ((w.onScene broadcasts).scene.fields r).Distinct := by
        unfold World.onScene
        rwa [told.fields]
      have first := Scene.Deeds.quiet w.routing r told
      split
      · obtain ⟨removed, chain⟩ := handleSwordAttack_deeds data r (w.onScene broadcasts) attacker
        exact .deeds _ removed rfl (Scene.Deeds.followed w.routing r first chain)
          (handleSwordAttack_idGen data _ r attacker)
      · split
        · refine .shot s pkt attacker _ (broadcasts w.scene) locked rfl ?_ told rfl
          exact congrArg (fun players => (players attacker).info.objectId) told.players
        · split
          · simp only [World.onScene] at distinct' ⊢
            have chain := handleStaffAttack_deeds data w.routing r attacker pkt
              (broadcasts w.scene) distinct'
            have both := Scene.Deeds.followed w.routing r first chain
            generalize handleStaffAttack data w.routing r attacker pkt (broadcasts w.scene) = after
              at both ⊢
            exact .deeds _ _ rfl both rfl
          · exact .deeds _ [] rfl first rfl

theorem handleCChangeMap (w : World) (r : RoomRef) (s : SessionId) (pkt : CChangeMap) :
    w.Did data r (handleCChangeMap data w r s pkt) (.changeMap s pkt) := by
  cases handleCChangeMap_cases data w r s pkt with
  | absent _ result =>
      rw [result]
      exact quiet data w r w _ rfl (.refl _) rfl
  | refused _ _ _ result =>
      rw [result]
      exact quiet data w r _ _ rfl (.send w.scene s _) rfl
  | town requester _ _ dest _ result =>
      rw [result]
      exact quiet data w r _ _ rfl (changeMapTo_quiet w r dest s requester pkt 0)
        (changeMapTo_idGen w r dest s requester pkt 0)
  | dungeon requester _ _ _ result =>
      rw [result]
      apply World.Did.opened s pkt
      · exact changeMapTo_quiet (w.createDungeonInstance data).2.2 r _ s requester pkt _
      · exact changeMapTo_idGen (w.createDungeonInstance data).2.2 r _ s requester pkt _
      · exact changeMapTo_roomCount (w.createDungeonInstance data).2.2 r _ s requester pkt _

theorem itemJob (w : World) (r : RoomRef) (s : SessionId) (job : Job)
    (stays : job.movesPlayer = false) (method : Player → Player × List Emission) (gait : ∀ p, (method p).1.gait = p.gait) :
    w.Did data r (itemJob method w s) job := by
  have idGen := itemJob_idGen method w s
  unfold ZeldaServer.itemJob at idGen ⊢
  cases locked : lockPlayer w.routing w.scene [] s with
  | none => exact quiet data w r w _ stays (.refl _) rfl
  | some id =>
      simp only [locked] at idGen
      exact .deeds _ [] stays (Scene.Deeds.actPlayer w.routing r id method w.scene gait) idGen

end World.Did

theorem runJob_did (w : World) (r : RoomRef) (job : Job) (distinct : (w.scene.fields r).Distinct) :
    w.Did data r (runJob data w r job) job := by
  cases job with
  | move s pkt => exact .moved s pkt rfl
  | turn s pkt => exact .turned s pkt rfl
  | attack s pkt => exact .handleCAttack data w r s pkt distinct
  | changeMap s pkt => exact .handleCChangeMap data w r s pkt
  | equipItem s slot => exact .itemJob data w r s _ rfl _ (Player.equipItem_gait data slot)
  | unequipItem s equipType =>
      exact .itemJob data w r s _ rfl _ (Player.unequipItem_gait data equipType)
  | useItem s slot => exact .itemJob data w r s _ rfl _ (Player.useItem_gait data slot)
  | partyInvite s targetId =>
      exact .quiet data w r _ _ rfl (partyInvite_whispers w r s targetId).quiet (partyInvite_idGen w r s targetId)
  | partyAnswer s inviterId accept =>
      exact .quiet data w r _ _ rfl (partyAnswer_whispers w r s inviterId accept).quiet
        (partyAnswer_idGen w r s inviterId accept)
  | partyLeave s =>
      exact .quiet data w r _ _ rfl (partyLeave_whispers w r s).quiet (partyLeave_idGen w r s)
  | enterRoom s player => exact .entered s player rfl
  | leaveRoom s => exact .quiet data w r _ _ rfl (leaveRoom_quiet w [] r s) (leaveRoom_idGen w [] r s)

/-- No object is touched: time may go by, and the next tick of a room be set. -/
structure World.Still (w next : World) : Prop where
  players : next.scene.players = w.scene.players
  fields : ∀ r, ∃ nextTick, next.scene.fields r = { w.scene.fields r with nextTick }
  standing : ∀ r, (next.routing.rooms r).players = (w.routing.rooms r).players
  idGen : next.idGen = w.idGen
  now : w.scene.now ≤ next.scene.now

theorem World.Still.of_quiet {w next : World} (quiet : w.scene.Quiet next.scene)
    (standing : ∀ r, (next.routing.rooms r).players = (w.routing.rooms r).players)
    (idGen : next.idGen = w.idGen) : w.Still next where
  players := quiet.players
  fields := fun r => ⟨(w.scene.fields r).nextTick, by rw [quiet.fields]⟩
  standing := standing
  idGen := idGen
  now := Nat.le_of_eq quiet.now.symm

def World.afterStep (w : World) (r : RoomRef) (rand : List Nat) : Scene × ObjectId :=
  let made := gameStep data w.routing r { w.scene with rand } w.idGen
  let field := made.1.fields r
  (made.1.setField r { field with nextTick := field.nextTick + kTickMs }, made.2)

/-- What an event does to the objects: nothing, or a player is created, a job runs or a
room takes a step. -/
inductive World.Acted (w next : World) : Event → Prop where
  | still (e : Event) (jobless : ∀ rand, e ≠ .job rand) (stepless : ∀ rand, e ≠ .step rand)
      (same : w.Still next) : Acted w next e
  | login (s : SessionId) (username : Bytes) (player : Player)
      (named : player.info.objectId = w.idGen)
      (players : next.scene.players = Function.update w.scene.players w.idGen player)
      (fields : next.scene.fields = w.scene.fields) (now : next.scene.now = w.scene.now)
      (standing : ∀ r, (next.routing.rooms r).players = (w.routing.rooms r).players)
      (idGen : next.idGen = w.idGen + 1) : Acted w next (.packet s (.login username))
  | ran (rand : List Nat) (r : RoomRef) (job : Job) (rest : List Job)
      (front : w.routing.nextJob = some (r, job, rest))
      (result : next = runJob data (w.forJob r rest rand) r job) : Acted w next (.job rand)
  | stepped (rand : List Nat) (pass : Pass) (r : RoomRef) (steps : Nat)
      (under_way : w.routing.pass = some pass) (current : pass.current = some ⟨r, some steps⟩)
      (scene : next.scene = (w.afterStep data r rand).1)
      (idGen : next.idGen = (w.afterStep data r rand).2)
      (rooms : next.routing.rooms = w.routing.rooms)
      (logins : next.routing.logins = w.routing.logins) : Acted w next (.step rand)

theorem applyFromSaveData_named (saved : SaveData) (p : Player) :
    (Player.applyFromSaveData data saved p).info.objectId = p.info.objectId := by
  unfold Player.applyFromSaveData Player.withExtra
  dsimp only
  apply (congrArg Prod.fst (Player.recalcStats_gait data _)).trans
  dsimp only [Player.gait]
  cases data.levelData saved.level <;> rfl

theorem loginPlayer_named (store : Store) (account : AccountId) (id : ObjectId) (username : Bytes) :
    (loginPlayer data store account id username).1.info.objectId = id := by
  unfold loginPlayer
  cases store.rows account with
  | none => rfl
  | some saved =>
      have kept := applyFromSaveData_named data saved (Player.create data id)
      exact kept

theorem handlePacket_still (w : World) (s : SessionId) (pkt : ClientPacket)
    (request : ∀ username, pkt ≠ .login username) : w.Still (handlePacket data w s pkt) := by
  cases handlePacket_requested data w s pkt request with
  | nothing result =>
      rw [result]
      exact .of_quiet (.refl _) (fun _ => rfl) rfl
  | pushed job r is room result =>
      rw [result]
      exact .of_quiet (.refl _) (fun r' => Routing.players_pushJob w.routing r r' job) rfl
  | chats relay result =>
      rw [result]
      exact .of_quiet (.of_same rfl rfl rfl rfl) (fun _ => rfl) rfl

theorem handleCLogin_acted (w : World) (s : SessionId) (username : Bytes) :
    w.Acted data (handleCLogin data w s username) (.packet s (.login username)) := by
  have still (store : Store) :
      w.Still { w with routing := w.routing.onStore fun _ => store } :=
    .of_quiet (.refl _) (fun _ => rfl) rfl
  unfold handleCLogin
  split
  · exact .still _ (by simp) (by simp) (still w.routing.store)
  · dsimp only
    split
    · exact .still _ (by simp) (by simp) (still _)
    · generalize (w.routing.store.findOrCreateAccount username).1 = account
      generalize (w.routing.store.findOrCreateAccount username).2 = found
      have named := loginPlayer_named data found account w.idGen username
      generalize loginPlayer data found account w.idGen username = made at named
      obtain ⟨player, store⟩ := made
      have standing (r : RoomRef) :=
        Routing.loggedIn_players w.routing s account w.idGen store r
      have told (scene : Scene) : scene.Quiet
          (if scene.redisConnected then
            (scene.redisCommand (.setLocation username)).redisCommand
              (.rankLevel username player.level)
          else scene) := by
        split
        · exact (Scene.Quiet.redisCommand scene _).trans (.redisCommand _ _)
        · exact .refl scene
      have quiet := told ((w.scene.setPlayer w.idGen player).send s (.enterGame true account))
      exact .login s username player named quiet.players quiet.fields quiet.now standing rfl

theorem onDisconnected_still (w : World) (s : SessionId) : w.Still (onDisconnected w s) := by
  have idGen := onDisconnected_idGen w s
  have rooms := disconnecting_rooms w s
  rw [onDisconnected_eq] at idGen ⊢
  cases locked : lockRoom (disconnecting w s).routing (disconnecting w s).scene s with
  | none =>
      simp only [locked] at idGen
      exact .of_quiet (disconnecting_quiet w s) (fun r => by rw [rooms]) idGen
  | some r =>
      simp only [locked] at idGen
      refine .of_quiet (disconnecting_quiet w s) (fun r' => ?_) idGen
      dsimp only
      rw [Routing.players_pushJob, rooms]

theorem setNextTick_still (w : World) (r : RoomRef) (nextTick : Nat) (pass : Pass) :
    w.Still { w with
      routing := w.routing.setPass pass
      scene := w.scene.setField r { w.scene.fields r with nextTick } } where
  players := rfl
  fields := by
    intro r'
    by_cases same : r' = r
    · subst same
      exact ⟨nextTick, Function.update_self _ _ _⟩
    · exact ⟨(w.scene.fields r').nextTick, Function.update_of_ne same _ _⟩
  standing := fun _ => rfl
  idGen := rfl
  now := Nat.le_refl _

theorem stepPass_acted (w next : World) (pass : Pass) (e : Event)
    (under_way : w.routing.pass = some pass) (passed : w.stepPass data pass e = some next) :
    w.Acted data next e := by
  unfold World.stepPass at passed
  split at passed
  case h_1 =>
    split at passed
    · cases passed
      refine .still _ (by simp) (by simp) (.of_quiet (.refl _) (fun r' => ?_) rfl)
      exact Routing.players_startVisit _ _ _ r'
    · cases passed
  case h_2 =>
    split at passed
    · cases passed
      exact .still _ (by simp) (by simp) (.of_quiet (.refl _) (fun _ => rfl) rfl)
    · cases passed
  case h_3 instanceId =>
    split at passed
    · cases passed
    · split at passed
      · cases passed
        refine .still _ (by simp) (by simp) (.of_quiet (.refl _) (fun r' => ?_) rfl)
        exact Routing.players_startVisit _ _ _ r'
      · cases passed
  case h_4 =>
    split at passed
    · split at passed
      · cases passed
        exact .still _ (by simp) (by simp) (setNextTick_still w _ _ _)
      · cases passed
    · cases passed
  case h_5 rand =>
    split at passed
    case h_1 r steps stepping =>
      split at passed
      · cases passed
        exact .stepped rand pass r steps under_way stepping rfl rfl rfl rfl
      · cases passed
    case h_2 => cases passed
  case h_6 =>
    split at passed
    · dsimp only at passed
      split at passed
      · cases passed
      · cases passed
        exact .still _ (by simp) (by simp) (setNextTick_still w _ _ _)
    · cases passed
  case h_7 =>
    split at passed
    · cases passed
    · split at passed
      · cases passed
        exact .still _ (by simp) (by simp) (.of_quiet (.refl _) (fun _ => rfl) rfl)
      · cases passed
  case h_8 => cases passed

theorem step_acted (w next : World) (e : Event) (stepped : w.step data e = some next) :
    w.Acted data next e := by
  obtain ⟨acted, -⟩ := step_act data w next e stepped
  cases e with
  | connect s =>
      simp only [World.act] at acted
      split at acted
      · cases acted
        exact .still _ (by simp) (by simp) (.of_quiet (.refl _) (fun _ => rfl) rfl)
      · cases acted
  | packet s pkt =>
      simp only [World.act] at acted
      split at acted
      · cases acted
        by_cases request : ∃ username, pkt = .login username
        · obtain ⟨username, rfl⟩ := request
          exact handleCLogin_acted data w s username
        · refine .still _ (by simp) (by simp) (handlePacket_still data w s pkt ?_)
          exact fun username same => request ⟨username, same⟩
      · cases acted
  | disconnect s =>
      simp only [World.act] at acted
      split at acted
      · cases acted
        exact .still _ (by simp) (by simp) (onDisconnected_still w s)
      · cases acted
  | clock now =>
      simp only [World.act] at acted
      split at acted
      case isTrue later =>
        cases acted
        refine .still _ (by simp) (by simp) ⟨rfl, fun r => ⟨_, rfl⟩, fun _ => rfl, rfl, later⟩
      case isFalse => cases acted
  | update =>
      simp only [World.act] at acted
      split at acted
      · cases acted
      · cases acted
        exact .still _ (by simp) (by simp) (.of_quiet (.refl _) (fun _ => rfl) rfl)
  | job rand =>
      obtain ⟨r, job, rest, front, result⟩ := runNextJob_some data w next rand acted
      exact .ran rand r job rest front result
  | visitStatic | loopDungeons | visitDungeon _ | endJobs | step _ | endRoom | endUpdate =>
      simp only [World.act] at acted
      split at acted
      · cases acted
      · rename_i pass under_way
        exact stepPass_acted data w next pass _ under_way acted

end ZeldaServer
