import ZeldaServer.World.OneRoom
import ZeldaServer.World.Serving

/-! Who stands in the rooms. What erasing a player from its room keeps, and opening a room, every
job but `EnterRoom` keeps. -/

namespace ZeldaServer

variable (data : GameData)

namespace Routing

/-- A property of the players in the rooms and of their pointers, which removals keep. -/
structure KeptByJobs (property : Routing → Prop) : Prop where
  same : ∀ a b, property a → (∀ r, (b.rooms r).players = (a.rooms r).players) →
    b.playerRoom = a.playerRoom → property b
  erase : ∀ a r id, property a → id ∈ (a.rooms r).players → property (a.erasePlayer r id)
  opened : ∀ a, property a → property a.openDungeon

end Routing

section Jobs

variable {property : Routing → Prop} (kept : Routing.KeptByJobs property)

include kept

theorem leave_keeps (a : Routing) (r : RoomRef) (id : ObjectId) (before : property a) :
    property (a.leave r id) := by
  have asks (b : Routing) (now : property b) : property (b.requestRemoval r) := by
    apply kept.same b _ now
    · intro r'
      rw [Routing.requestRemoval_rooms]
    · unfold Routing.requestRemoval
      dsimp only
      split <;> rfl
  unfold Routing.leave
  apply asks
  split
  case isTrue member => exact kept.erase a r id before member
  case isFalse => exact before

theorem leaveRoom_keeps (w : World) (held : List ObjectId) (r : RoomRef) (s : SessionId)
    (before : property w.routing) : property (w.leaveRoom held r s).routing := by
  rw [leaveRoom_routing]
  cases lockPlayer w.routing w.scene held s with
  | none => exact before
  | some id => exact leave_keeps kept w.routing r id before

theorem moveOver_keeps (held : List ObjectId) (source dest : RoomRef) (pkt : CChangeMap)
    (instanceId : InstanceId) (w : World) (s : SessionId) (id : ObjectId)
    (before : property w.routing) :
    property (w.moveOver held source dest pkt instanceId s id).routing := by
  rw [moveOver_routing]
  apply kept.same _ _ (leaveRoom_keeps kept (w.sendTo s _) held source s before)
  · exact fun r => Routing.players_pushJob _ dest r _
  · rfl

theorem changeMapTo_keeps (w : World) (source dest : RoomRef) (s : SessionId)
    (requester : ObjectId) (pkt : CChangeMap) (instanceId : InstanceId)
    (before : property w.routing) :
    property (w.changeMapTo source dest s requester pkt instanceId).routing := by
  have all (held : List ObjectId) (toMove : List (SessionId × ObjectId)) (w : World)
      (before : property w.routing) :
      property (toMove.foldl (fun w member =>
        w.moveOver held source dest pkt instanceId member.1 member.2) w).routing := by
    induction toMove generalizing w with
    | nil => exact before
    | cons head tail ih =>
        exact ih _ (moveOver_keeps kept held source dest pkt instanceId w head.1 head.2 before)
  unfold World.changeMapTo
  dsimp only
  split
  · exact all _ _ w before
  · exact moveOver_keeps kept _ source dest pkt instanceId w s requester before

theorem runJob_keeps (w : World) (r : RoomRef) (job : Job) (stays : job.entering = none)
    (before : property w.routing) : property (runJob data w r job).routing := by
  cases job with
  | move s pkt => exact before
  | turn s pkt => exact before
  | attack s pkt =>
      rw [runJob, handleCAttack_routing]
      cases dies : attackVictim w r s pkt with
      | none => exact before
      | some victim =>
          exact kept.erase w.routing r victim before (attackVictim_standing s pkt victim dies)
  | changeMap s pkt =>
      rw [runJob]
      cases handleCChangeMap_cases data w r s pkt with
      | absent _ result =>
          rw [result]
          exact before
      | refused _ _ _ result =>
          rw [result]
          exact before
      | town requester locked _ dest _ result =>
          rw [result]
          exact changeMapTo_keeps kept w r dest s requester pkt 0 before
      | dungeon requester locked _ _ result =>
          rw [result]
          exact changeMapTo_keeps kept (w.createDungeonInstance data).2.2 r _ s requester pkt _
            (kept.opened w.routing before)
  | equipItem s slot =>
      rw [runJob, itemJob_routing]
      exact before
  | unequipItem s equipType =>
      rw [runJob, itemJob_routing]
      exact before
  | useItem s slot =>
      rw [runJob, itemJob_routing]
      exact before
  | partyInvite s targetId =>
      rw [runJob, partyInvite_routing]
      exact before
  | partyAnswer s inviterId accept =>
      obtain ⟨parties, result, -⟩ := partyAnswer_routing w r s inviterId accept
      rw [runJob, result]
      exact kept.same w.routing _ before (fun _ => rfl) rfl
  | partyLeave s =>
      obtain ⟨parties, result, -⟩ := partyLeave_routing w r s
      rw [runJob, result]
      exact kept.same w.routing _ before (fun _ => rfl) rfl
  | enterRoom s id => cases stays
  | leaveRoom s => exact leaveRoom_keeps kept w [] r s before

theorem step_keeps (w next : World) (e : Event) (before : property w.routing)
    (enters : ∀ r s id rest, w.routing.nextJob = some (r, .enterRoom s id, rest) →
      property (w.routing.entered r s id rest))
    (stepped : w.step data e = some next) : property next.routing := by
  have same (b : Routing) (players : ∀ r, (b.rooms r).players = (w.routing.rooms r).players)
      (playerRoom : b.playerRoom = w.routing.playerRoom) : property b :=
    kept.same w.routing b before players playerRoom
  cases step_stepped data w next e stepped with
  | enter r s id rest rand front result =>
      rw [result, enter_routing]
      exact enters r s id rest front
  | ran r job rest rand front stays result =>
      rw [result]
      apply runJob_keeps data kept _ r job stays
      exact same _ (fun r' => Routing.players_popJob w.routing r r' rest) rfl
  | login s username connected result =>
      rw [result]
      rcases handleCLogin_cases data w s username with ⟨store, looked, -⟩ | ⟨-, -, logged, -⟩
      · rw [looked]
        exact same _ (fun _ => rfl) rfl
      · rw [logged]
        apply same
        · intro r
          rw [Routing.loggedIn_players]
        · rw [Routing.loggedIn_playerRoom]
  | left s connected result =>
      rw [result]
      have rests := onDisconnected_rests w s
      exact same _ rests.samePlayers rests.playerRoom
  | other e idles => exact same _ idles.samePlayers idles.playerRoom

end Jobs

namespace Routing

variable {a : Routing}

theorem openDungeon_players (a : Routing) (r : RoomRef) :
    (a.openDungeon.rooms r).players = if r = a.roomCount then [] else (a.rooms r).players := by
  have rooms : a.openDungeon.rooms r =
      if r = a.roomCount then Room.create .dungeon 0 a.instanceIdGen else a.rooms r :=
    rooms_addRoom a r _
  rw [rooms]
  split <;> rfl

def Pointed (a : Routing) : Prop := ∀ r p, p ∈ (a.rooms r).players → a.playerRoom p = some r

theorem Pointed.erasePlayer (pointed : a.Pointed) (r : RoomRef) (id : ObjectId)
    (member : id ∈ (a.rooms r).players) : (a.erasePlayer r id).Pointed := by
  intro r' p standing
  rw [players_erasePlayer] at standing
  have other : p ≠ id ∧ p ∈ (a.rooms r').players := by
    split at standing
    case isTrue =>
      obtain ⟨stands, apart⟩ := List.mem_filter.mp standing
      exact ⟨of_decide_eq_true apart, stands⟩
    case isFalse elsewhere =>
      refine ⟨fun same => elsewhere ?_, standing⟩
      have here := pointed r id member
      rw [← same, pointed r' p standing] at here
      exact Option.some.inj here
  exact (Function.update_of_ne other.1 _ _).trans (pointed r' p other.2)

theorem pointed_kept : KeptByJobs Pointed where
  same := fun a b pointed players playerRoom r p standing => by
    rw [players] at standing
    rw [playerRoom]
    exact pointed r p standing
  erase := fun a r id pointed member => pointed.erasePlayer r id member
  opened := fun a pointed r p standing => by
    rw [openDungeon_players] at standing
    split at standing
    case isTrue => cases standing
    case isFalse => exact pointed r p standing

theorem Pointed.entered (pointed : a.Pointed) (r : RoomRef) (s : SessionId) (id : ObjectId)
    (rest : List Job) (apart : ∀ r', id ∉ (a.rooms r').players) :
    (a.entered r s id rest).Pointed := by
  intro r' p standing
  rw [entered_playerRoom]
  rcases (entered_players ..).mp standing with before | ⟨rfl, rfl⟩
  · have other : p ≠ id := by
      rintro rfl
      exact apart r' before
    rw [if_neg other]
    exact pointed r' p before
  · exact if_pos rfl

/-- The keys of `_players`. -/
def Unrepeated (a : Routing) : Prop := ∀ r, (a.rooms r).players.Nodup

theorem unrepeated_kept : KeptByJobs Unrepeated where
  same := fun a b once players _ r => by
    rw [players]
    exact once r
  erase := fun a r id once _ r' => by
    rw [players_erasePlayer]
    split
    · exact (once r').filter _
    · exact once r'
  opened := fun a once r => by
    rw [openDungeon_players]
    split
    · exact List.nodup_nil
    · exact once r

theorem Unrepeated.entered (once : a.Unrepeated) (r : RoomRef) (s : SessionId) (id : ObjectId)
    (rest : List Job) : (a.entered r s id rest).Unrepeated := by
  intro r'
  have popped (r' : RoomRef) :
      (((a.popJob r rest).bind r s id).rooms r').players = (a.rooms r').players :=
    players_popJob a r r' rest
  unfold Routing.entered addPlayer
  dsimp only
  rw [rooms_setRoom]
  split
  case isFalse =>
    rw [popped]
    exact once r'
  case isTrue =>
    dsimp only
    split
    case isTrue =>
      rw [popped]
      exact once r
    case isFalse away =>
      rw [popped] at away ⊢
      exact (List.perm_orderedInsert _ id _).nodup_iff.mpr (List.nodup_cons.mpr ⟨away, once r⟩)

end Routing

theorem step_pointed (w next : World) (e : Event) (solo : w.Solo) (pointed : w.routing.Pointed)
    (stepped : w.step data e = some next) : next.routing.Pointed := by
  apply step_keeps data Routing.pointed_kept w next e pointed _ stepped
  intro r s id rest front
  apply pointed.entered
  have one := (Routing.inOneRoom_iff w.routing solo.inRange).mpr solo.places
  intro r'
  apply one.apart id r r'
  exact (Routing.waiting_ne_zero w.routing id r).mpr
    ⟨s, Routing.nextJob_queued w.routing r _ rest front⟩

theorem step_unrepeated (w next : World) (e : Event) (once : w.routing.Unrepeated)
    (stepped : w.step data e = some next) : next.routing.Unrepeated := by
  apply step_keeps data Routing.unrepeated_kept w next e once _ stepped
  exact fun r s id rest _ => once.entered r s id rest

end ZeldaServer
