import Mathlib.Algebra.Order.BigOperators.Group.Finset
import ZeldaServer.World.Logins

/-! A player in at most one room. The places of a player, the rooms it stands in and the
`EnterRoom` jobs that wait for it, are counted over all rooms: every job keeps their number
or lowers it, except for a change of the map asked for in a room the player is not in. -/

namespace ZeldaServer

variable (data : GameData)

namespace Routing

/-- The `EnterRoom` jobs of a player in the queue of a room. -/
def waiting (a : Routing) (p : ObjectId) (r : RoomRef) : Nat :=
  ((a.rooms r).queue.filterMap Job.entering).count p

def holds (a : Routing) (p : ObjectId) (r : RoomRef) : Nat :=
  (if p ∈ (a.rooms r).players then 1 else 0) + a.waiting p r

def places (a : Routing) (p : ObjectId) : Nat := ∑ r ∈ Finset.range a.roomCount, a.holds p r

/-- Every player is in at most one room; at most one `EnterRoom` job for it waits anywhere,
and it waits only while the player is in no room. -/
structure InOneRoom (a : Routing) : Prop where
  room : ∀ p r r', p ∈ (a.rooms r).players → p ∈ (a.rooms r').players → r = r'
  single : ∀ p r, a.waiting p r ≤ 1
  job : ∀ p r r', a.waiting p r ≠ 0 → a.waiting p r' ≠ 0 → r = r'
  apart : ∀ p r r', a.waiting p r ≠ 0 → p ∉ (a.rooms r').players

theorem mem_entering (jobs : List Job) (p : ObjectId) :
    p ∈ jobs.filterMap Job.entering ↔ ∃ s, Job.enterRoom s p ∈ jobs := by
  rw [List.mem_filterMap]
  constructor
  · rintro ⟨job, member, entering⟩
    cases job with
    | enterRoom s id =>
        cases entering
        exact ⟨s, member⟩
    | _ => cases entering
  · rintro ⟨s, member⟩
    exact ⟨_, member, rfl⟩

theorem waiting_ne_zero (a : Routing) (p : ObjectId) (r : RoomRef) :
    a.waiting p r ≠ 0 ↔ ∃ s, Job.enterRoom s p ∈ (a.rooms r).queue := by
  rw [waiting, Ne, List.count_eq_zero, not_not, mem_entering]

theorem holds_ne_zero (a : Routing) (p : ObjectId) (r : RoomRef) :
    a.holds p r ≠ 0 ↔
      p ∈ (a.rooms r).players ∨ ∃ s, Job.enterRoom s p ∈ (a.rooms r).queue := by
  rw [← waiting_ne_zero, holds]
  split
  case isTrue standing =>
    constructor
    · intro _
      exact .inl standing
    · intro _
      omega
  case isFalse away =>
    rw [Nat.zero_add]
    constructor
    · intro some_job
      exact .inr some_job
    · intro found
      exact found.resolve_left away

theorem holds_le_places (a : Routing) (p : ObjectId) (r : RoomRef) (made : r < a.roomCount) :
    a.holds p r ≤ a.places p :=
  Finset.single_le_sum (fun _ _ => Nat.zero_le _) (Finset.mem_range.mpr made)

theorem holds_add_le_places (a : Routing) (p : ObjectId) (r r' : RoomRef) (apart : r ≠ r')
    (made : r < a.roomCount) (made' : r' < a.roomCount) :
    a.holds p r + a.holds p r' ≤ a.places p := by
  have rest := Finset.add_sum_erase (Finset.range a.roomCount) (a.holds p)
    (Finset.mem_range.mpr made)
  have other : a.holds p r' ≤ ∑ x ∈ (Finset.range a.roomCount).erase r, a.holds p x :=
    Finset.single_le_sum (fun _ _ => Nat.zero_le _)
      (Finset.mem_erase.mpr ⟨Ne.symm apart, Finset.mem_range.mpr made'⟩)
  rw [places, ← rest]
  exact Nat.add_le_add_left other _

theorem holds_made (a : Routing) (inRange : a.InRange) (p : ObjectId) (r : RoomRef)
    (some_place : a.holds p r ≠ 0) : r < a.roomCount := by
  rcases (holds_ne_zero a p r).mp some_place with standing | ⟨s, waits⟩
  · exact inRange.players r p standing
  · exact inRange.queue r _ waits

theorem places_ne_zero (a : Routing) (inRange : a.InRange) (p : ObjectId) :
    a.places p ≠ 0 ↔ a.Placed p := by
  constructor
  · intro some_place
    rw [places, Ne, Finset.sum_eq_zero_iff, not_forall] at some_place
    obtain ⟨r, found⟩ := some_place
    rw [Classical.not_imp] at found
    obtain ⟨r, standing | waits⟩ : ∃ r, p ∈ (a.rooms r).players ∨
        ∃ s, Job.enterRoom s p ∈ (a.rooms r).queue := ⟨r, (holds_ne_zero a p r).mp found.2⟩
    · exact ⟨r, .inl standing⟩
    · exact ⟨r, .inr waits⟩
  · rintro ⟨r, found⟩
    have here := (holds_ne_zero a p r).mpr found
    have total := holds_le_places a p r (holds_made a inRange p r here)
    omega

theorem inOneRoom_iff (a : Routing) (inRange : a.InRange) :
    a.InOneRoom ↔ ∀ p, a.places p ≤ 1 := by
  have made := holds_made a inRange
  constructor
  · intro one p
    by_cases place : a.Placed p
    · obtain ⟨r, found⟩ := place
      have here := (holds_ne_zero a p r).mpr found
      have others : ∀ r' ∈ Finset.range a.roomCount, r' ≠ r → a.holds p r' = 0 := by
        intro r' _ apart
        by_contra there
        rcases (holds_ne_zero a p r').mp there with standing' | waits'
        · rcases found with standing | waits
          · exact apart (one.room p r' r standing' standing)
          · exact one.apart p r r' ((waiting_ne_zero a p r).mpr waits) standing'
        · have job' := (waiting_ne_zero a p r').mpr waits'
          rcases found with standing | waits
          · exact one.apart p r' r job' standing
          · exact apart (one.job p r' r job' ((waiting_ne_zero a p r).mpr waits))
      have total : a.places p = a.holds p r :=
        Finset.sum_eq_single_of_mem r (Finset.mem_range.mpr (made p r here)) others
      have single := one.single p r
      rw [total, holds]
      split
      case isTrue standing =>
        have none_waits : a.waiting p r = 0 := by
          by_contra waits
          exact one.apart p r r waits standing
        omega
      case isFalse => omega
    · have none_placed := (not_congr (places_ne_zero a inRange p)).mpr place
      omega
  · intro least
    have same : ∀ p r r', a.holds p r ≠ 0 → a.holds p r' ≠ 0 → r = r' := by
      intro p r r' here there
      by_contra apart
      have both := holds_add_le_places a p r r' apart (made p r here) (made p r' there)
      have one := least p
      omega
    have bounded : ∀ p r, a.holds p r ≤ 1 := by
      intro p r
      by_cases here : a.holds p r = 0
      · omega
      · exact Nat.le_trans (holds_le_places a p r (made p r here)) (least p)
    constructor
    · intro p r r' standing standing'
      exact same p r r' ((holds_ne_zero a p r).mpr (.inl standing))
        ((holds_ne_zero a p r').mpr (.inl standing'))
    · intro p r
      have bound := bounded p r
      rw [holds] at bound
      omega
    · intro p r r' waits waits'
      rw [waiting_ne_zero] at waits waits'
      exact same p r r' ((holds_ne_zero a p r).mpr (.inr waits))
        ((holds_ne_zero a p r').mpr (.inr waits'))
    · intro p r r' waits standing
      have here := (holds_ne_zero a p r).mpr (.inr ((waiting_ne_zero a p r).mp waits))
      obtain rfl := same p r r' here ((holds_ne_zero a p r').mpr (.inl standing))
      have bound := bounded p r
      rw [holds, if_pos standing] at bound
      omega

theorem places_congr {a b : Routing} (p : ObjectId) (count : b.roomCount = a.roomCount)
    (rooms : ∀ r, b.holds p r = a.holds p r) : b.places p = a.places p := by
  rw [places, places, count]
  exact Finset.sum_congr rfl fun r _ => rooms r

theorem places_change (a b : Routing) (p : ObjectId) (r : RoomRef) (made : r < a.roomCount)
    (count : b.roomCount = a.roomCount)
    (others : ∀ r', r' ≠ r → b.holds p r' = a.holds p r') :
    b.places p + a.holds p r = a.places p + b.holds p r := by
  have before := Finset.add_sum_erase (Finset.range a.roomCount) (a.holds p)
    (Finset.mem_range.mpr made)
  have after := Finset.add_sum_erase (Finset.range a.roomCount) (b.holds p)
    (Finset.mem_range.mpr made)
  have rest : ∑ x ∈ (Finset.range a.roomCount).erase r, b.holds p x =
      ∑ x ∈ (Finset.range a.roomCount).erase r, a.holds p x := by
    apply Finset.sum_congr rfl
    intro r' member
    exact others r' (Finset.ne_of_mem_erase member)
  calc
    b.places p + a.holds p r =
        (b.holds p r + ∑ x ∈ (Finset.range a.roomCount).erase r, b.holds p x) + a.holds p r := by
      rw [places, count, after]
    _ = (a.holds p r + ∑ x ∈ (Finset.range a.roomCount).erase r, a.holds p x) + b.holds p r := by
      rw [rest]
      omega
    _ = a.places p + b.holds p r := by rw [places, before]

def brings (job : Job) (p : ObjectId) : Nat := if job.entering = some p then 1 else 0

theorem count_entering (job : Job) (jobs : List Job) (p : ObjectId) :
    ((job :: jobs).filterMap Job.entering).count p =
      brings job p + (jobs.filterMap Job.entering).count p := by
  rw [brings]
  cases entering : job.entering with
  | none =>
      rw [List.filterMap_cons_none entering]
      simp
  | some id =>
      rw [List.filterMap_cons_some entering, List.count_cons, Nat.add_comm]
      simp

theorem places_pushJob (a : Routing) (r : RoomRef) (job : Job) (p : ObjectId)
    (made : r < a.roomCount) : (a.pushJob r job).places p = a.places p + brings job p := by
  have change := places_change a (a.pushJob r job) p r made rfl (by
    intro r' other
    rw [holds, holds, waiting, waiting, players_pushJob, queue_pushJob, if_neg other])
  have here : (a.pushJob r job).holds p r = a.holds p r + brings job p := by
    have last := count_entering job [] p
    rw [holds, holds, waiting, waiting, players_pushJob, queue_pushJob, if_pos rfl,
      List.filterMap_append, List.count_append, last]
    simp [Nat.add_assoc]
  omega

theorem places_popJob (a : Routing) (r : RoomRef) (job : Job) (rest : List Job) (p : ObjectId)
    (made : r < a.roomCount) (front : a.nextJob = some (r, job, rest)) :
    a.places p = (a.popJob r rest).places p + brings job p := by
  obtain ⟨pass, -, -, batch⟩ := nextJob_some a r job rest front
  have change := places_change a (a.popJob r rest) p r made rfl (by
    intro r' other
    rw [holds, holds, waiting, waiting, players_popJob, queue_popJob a r r' job rest batch,
      if_neg other])
  have here : a.holds p r = (a.popJob r rest).holds p r + brings job p := by
    rw [holds, holds, waiting, waiting, players_popJob, queue_popJob a r r job rest batch,
      if_pos rfl, count_entering]
    omega
  omega

theorem places_erasePlayer (a : Routing) (r : RoomRef) (id p : ObjectId)
    (made : r < a.roomCount) :
    (a.erasePlayer r id).places p + (if p = id ∧ id ∈ (a.rooms r).players then 1 else 0) =
      a.places p := by
  have change := places_change a (a.erasePlayer r id) p r made rfl (by
    intro r' other
    rw [holds, holds, waiting, waiting, players_erasePlayer, queue_erasePlayer, if_neg other])
  have here : (a.erasePlayer r id).holds p r +
      (if p = id ∧ id ∈ (a.rooms r).players then 1 else 0) = a.holds p r := by
    rw [holds, holds, waiting, waiting, players_erasePlayer, queue_erasePlayer, if_pos rfl]
    by_cases same : p = id
    · subst same
      simp [Nat.add_comm]
    · simp [same]
  omega

theorem places_addPlayer (a : Routing) (r : RoomRef) (id p : ObjectId) (made : r < a.roomCount) :
    (a.addPlayer r id).places p =
      a.places p + if p = id ∧ id ∉ (a.rooms r).players then 1 else 0 := by
  have change := places_change a (a.addPlayer r id) p r made rfl (by
    intro r' other
    simp only [holds, waiting, mem_players_addPlayer, queue_addPlayer, other, false_and, or_false])
  have here : (a.addPlayer r id).holds p r =
      a.holds p r + if p = id ∧ id ∉ (a.rooms r).players then 1 else 0 := by
    simp only [holds, waiting, mem_players_addPlayer, queue_addPlayer, true_and]
    by_cases same : p = id
    · subst same
      by_cases standing : p ∈ (a.rooms r).players
      · simp [standing]
      · simp [standing, Nat.add_comm]
    · simp [same]
  omega

theorem places_openDungeon (a : Routing) (p : ObjectId) :
    a.openDungeon.places p = a.places p := by
  have rooms (r : RoomRef) : a.openDungeon.rooms r =
      if r = a.roomCount then Room.create .dungeon 0 a.instanceIdGen else a.rooms r :=
    rooms_addRoom a r _
  have count : a.openDungeon.roomCount = a.roomCount + 1 := rfl
  have new : a.openDungeon.holds p a.roomCount = 0 := by
    rw [holds, waiting, rooms, if_pos rfl]
    rfl
  rw [places, places, count, Finset.sum_range_succ, new, Nat.add_zero]
  apply Finset.sum_congr rfl
  intro r member
  have old : r ≠ a.roomCount := Nat.ne_of_lt (Finset.mem_range.mp member)
  rw [holds, holds, waiting, waiting, rooms, if_neg old]

theorem places_rests {a b : Routing} (rests : a.Rests b) (p : ObjectId) :
    b.places p = a.places p := by
  apply places_congr p rests.roomCount
  intro r
  rw [holds, holds, waiting, waiting, rests.samePlayers, rests.samePlaces]

theorem places_requestRemoval (a : Routing) (r : RoomRef) (p : ObjectId) :
    (a.requestRemoval r).places p = a.places p := by
  unfold requestRemoval
  dsimp only
  split <;> rfl

theorem places_leave (a : Routing) (r : RoomRef) (id p : ObjectId) (made : r < a.roomCount) :
    (a.leave r id).places p + (if p = id ∧ id ∈ (a.rooms r).players then 1 else 0) =
      a.places p := by
  unfold leave
  rw [places_requestRemoval]
  split
  case isTrue => exact places_erasePlayer a r id p made
  case isFalse away =>
    have absent : ¬ (p = id ∧ id ∈ (a.rooms r).players) := fun both => away both.2
    rw [if_neg absent, Nat.add_zero]

theorem places_bury (a : Routing) (r : RoomRef) (victim : Option ObjectId) (p : ObjectId)
    (made : r < a.roomCount) : (a.bury r victim).places p ≤ a.places p := by
  cases victim with
  | none => exact Nat.le_refl _
  | some id =>
      have erased := places_erasePlayer a r id p made
      rw [bury]
      omega

theorem leave_roomCount (a : Routing) (r : RoomRef) (id : ObjectId) :
    (a.leave r id).roomCount = a.roomCount := by
  unfold leave requestRemoval
  dsimp only
  split
  · split <;> rfl
  · split <;> rfl

theorem leave_others (a : Routing) (r r' : RoomRef) (id other : ObjectId) (apart : other ≠ id)
    (standing : other ∈ (a.rooms r').players) : other ∈ ((a.leave r id).rooms r').players := by
  rw [players_leave]
  split
  · exact List.mem_filter.mpr ⟨standing, decide_eq_true apart⟩
  · exact standing

end Routing

theorem moveOver_leave (w : World) (held : List ObjectId) (source dest : RoomRef)
    (pkt : CChangeMap) (instanceId : InstanceId) (s : SessionId) (id : ObjectId)
    (named : (w.routing.sessions s).player = some id) (owned : id ∈ held) :
    (w.moveOver held source dest pkt instanceId s id).routing =
      (w.routing.leave source id).pushJob dest (.enterRoom s id) := by
  rw [moveOver_routing, leaveRoom_routing]
  have locked := lockPlayer_held w.routing
    (w.sendTo s (.changeMap true pkt.mapId pkt.channel instanceId)).scene held s id named owned
  rw [sendTo_routing, locked]

theorem moveOver_places (w : World) (held : List ObjectId) (source dest : RoomRef)
    (pkt : CChangeMap) (instanceId : InstanceId) (s : SessionId) (id p : ObjectId)
    (named : (w.routing.sessions s).player = some id) (owned : id ∈ held)
    (made : source < w.routing.roomCount) (made' : dest < w.routing.roomCount) :
    (w.moveOver held source dest pkt instanceId s id).routing.places p +
        (if p = id ∧ id ∈ (w.routing.rooms source).players then 1 else 0) =
      w.routing.places p + if p = id then 1 else 0 := by
  have left := Routing.places_leave w.routing source id p made
  have count := Routing.leave_roomCount w.routing source id
  have brought : Routing.brings (.enterRoom s id) p = if p = id then 1 else 0 := by
    simp only [Routing.brings, Job.entering, Option.some.injEq, eq_comm]
  rw [moveOver_leave w held source dest pkt instanceId s id named owned,
    Routing.places_pushJob _ _ _ _ (count.symm ▸ made'), brought]
  omega

theorem moveAll_places (held : List ObjectId) (source dest : RoomRef) (pkt : CChangeMap)
    (instanceId : InstanceId) (toMove : List (SessionId × ObjectId)) (w : World) (p : ObjectId)
    (distinct : (toMove.map (·.2)).Nodup)
    (standing : ∀ member ∈ toMove, member.2 ∈ (w.routing.rooms source).players ∧
      (w.routing.sessions member.1).player = some member.2 ∧ member.2 ∈ held)
    (made : source < w.routing.roomCount) (made' : dest < w.routing.roomCount) :
    (toMove.foldl (fun w member =>
      w.moveOver held source dest pkt instanceId member.1 member.2) w).routing.places p =
        w.routing.places p := by
  induction toMove generalizing w with
  | nil => rfl
  | cons head tail ih =>
      obtain ⟨here, named, owned⟩ := standing head List.mem_cons_self
      rw [List.map_cons, List.nodup_cons] at distinct
      have moved := moveOver_places w held source dest pkt instanceId head.1 head.2 p named owned
        made made'
      have result := moveOver_leave w held source dest pkt instanceId head.1 head.2 named owned
      have count : (w.moveOver held source dest pkt instanceId head.1 head.2).routing.roomCount =
          w.routing.roomCount := by
        rw [result]
        exact Routing.leave_roomCount w.routing source head.2
      have sessions : (w.moveOver held source dest pkt instanceId head.1 head.2).routing.sessions =
          w.routing.sessions := by
        rw [result]
        exact (leave_calm w.routing source head.2).sessions
      rw [List.foldl_cons, ih _ distinct.2 _ (count.symm ▸ made) (count.symm ▸ made')]
      · simp only [here, and_true] at moved
        omega
      · intro member later
        obtain ⟨there, names, holds⟩ := standing member (List.mem_cons_of_mem head later)
        rw [sessions]
        refine ⟨?_, names, holds⟩
        have apart : member.2 ≠ head.2 := by
          intro same
          exact distinct.1 (same ▸ List.mem_map_of_mem later)
        rw [result, Routing.players_pushJob]
        exact Routing.leave_others w.routing source source head.2 member.2 apart there

theorem partyToMove_sublist (routing : Routing) (r : RoomRef) (party : Party) :
    ((partyToMove routing r party).map (·.2)).Sublist party.memberIds := by
  unfold partyToMove
  generalize party.memberIds = ids
  induction ids with
  | nil => exact .slnil
  | cons head tail ih =>
      rw [List.filterMap_cons]
      split
      · exact ih.cons head
      · rename_i member chosen
        split at chosen
        · cases names : routing.playerSession head with
          | none => simp [names] at chosen
          | some s =>
              simp only [names, Option.map_some, Option.some.injEq] at chosen
              rw [← chosen]
              exact ih.cons_cons head
        · cases chosen

/-- The requester changes the map on its own: to a channel of the town that exists, or into
a dungeon without a party. -/
def MovesAlone (a : Routing) (requester : ObjectId) (pkt : CChangeMap) : Prop :=
  (pkt.mapId = MapId.town ∧ a.staticRoom .town pkt.channel ≠ none) ∨
    (pkt.mapId = MapId.dungeon ∧ a.parties.isInParty requester = false)

theorem refused_not_alone (a : Routing) (requester : ObjectId) (pkt : CChangeMap)
    (refused : ChangeRefused a requester pkt) : ¬ MovesAlone a requester pkt := by
  rintro (⟨town, there⟩ | ⟨dungeon, single⟩)
  · rcases refused with ⟨away, -⟩ | ⟨-, missing⟩ | ⟨dungeon, -⟩
    · exact away town
    · exact there missing
    · rw [town] at dungeon
      exact absurd dungeon (by decide)
  · rcases refused with ⟨-, away⟩ | ⟨town, -⟩ | ⟨-, member, -⟩
    · exact away dungeon
    · rw [dungeon] at town
      exact absurd town (by decide)
    · rw [single] at member
      cases member

def Routing.Named (a : Routing) : Prop :=
  ∀ r p s, p ∈ (a.rooms r).players → a.playerSession p = some s → (a.sessions s).player = some p

theorem isLeader_party (parties : PartyManager) (p : ObjectId) (leads : parties.isLeader p = true) :
    parties.isInParty p = true ∧ ∃ party, parties.parties (parties.partyIdByPlayer p) = some party := by
  unfold PartyManager.isLeader at leads
  cases mapped : parties.playerToParty p with
  | none => simp [mapped] at leads
  | some partyId =>
      cases found : parties.parties partyId with
      | none => simp [mapped, found] at leads
      | some party =>
          refine ⟨by simp [PartyManager.isInParty, mapped], party, ?_⟩
          rw [PartyManager.partyIdByPlayer, mapped]
          exact found

theorem changeMapTo_alone_places (w : World) (source dest : RoomRef) (s : SessionId)
    (requester p : ObjectId) (pkt : CChangeMap) (instanceId : InstanceId)
    (alone : ¬ (pkt.mapId = MapId.dungeon ∧ w.routing.parties.isLeader requester = true))
    (named : (w.routing.sessions s).player = some requester)
    (made : source < w.routing.roomCount) (made' : dest < w.routing.roomCount) :
    (w.changeMapTo source dest s requester pkt instanceId).routing.places p +
        (if p = requester ∧ requester ∈ (w.routing.rooms source).players then 1 else 0) =
      w.routing.places p + if p = requester then 1 else 0 := by
  simp only [World.changeMapTo, if_neg alone]
  exact moveOver_places w [requester] source dest pkt instanceId s requester p named
    (List.mem_singleton.mpr rfl) made made'

theorem changeMapTo_leader_places (w : World) (source dest : RoomRef) (s : SessionId)
    (requester p : ObjectId) (pkt : CChangeMap) (instanceId : InstanceId) (party : Party)
    (dungeon : pkt.mapId = MapId.dungeon) (leads : w.routing.parties.isLeader requester = true)
    (found : w.routing.parties.parties (w.routing.parties.partyIdByPlayer requester) = some party)
    (nodup : party.memberIds.Nodup)
    (names : ∀ id s', id ∈ (w.routing.rooms source).players →
      w.routing.playerSession id = some s' → (w.routing.sessions s').player = some id)
    (made : source < w.routing.roomCount) (made' : dest < w.routing.roomCount) :
    (w.changeMapTo source dest s requester pkt instanceId).routing.places p =
      w.routing.places p := by
  have chosen : (if pkt.mapId = MapId.dungeon ∧ w.routing.parties.isLeader requester = true then
      w.routing.parties.parties (w.routing.parties.partyIdByPlayer requester)
    else none) = some party := (if_pos ⟨dungeon, leads⟩).trans found
  simp only [World.changeMapTo, chosen]
  rw [moveAll_places _ source _ pkt _ _ _ p _ _ made made']
  · exact (partyToMove_sublist _ source party).nodup nodup
  · intro member chosen
    obtain ⟨-, standing, session⟩ := mem_partyToMove _ source party member.1 member.2 chosen
    exact ⟨standing, names member.2 member.1 standing session,
      List.mem_cons_of_mem _ (List.mem_map_of_mem chosen)⟩

theorem handleCChangeMap_places (w : World) (r : RoomRef) (s : SessionId) (pkt : CChangeMap)
    (requester p : ObjectId) (locked : lockPlayer w.routing w.scene [] s = some requester)
    (made : r < w.routing.roomCount) (inRange : w.routing.InRange)
    (listed : w.routing.parties.Listed) (names : w.routing.Named) :
    (MovesAlone w.routing requester pkt ∧
      (handleCChangeMap data w r s pkt).routing.places p +
          (if p = requester ∧ requester ∈ (w.routing.rooms r).players then 1 else 0) =
        w.routing.places p + if p = requester then 1 else 0) ∨
    (¬ MovesAlone w.routing requester pkt ∧
      (handleCChangeMap data w r s pkt).routing.places p = w.routing.places p) := by
  have named := (lockPlayer_some _ _ _ _ _ locked).1
  have same (other : ObjectId) (locked' : lockPlayer w.routing w.scene [] s = some other) :
      other = requester := Option.some.inj (locked'.symm.trans locked)
  cases handleCChangeMap_cases data w r s pkt with
  | absent unlocked _ =>
      rw [locked] at unlocked
      cases unlocked
  | refused other locked' refused result =>
      right
      rw [result]
      exact ⟨refused_not_alone w.routing requester pkt (same other locked' ▸ refused), rfl⟩
  | town other locked' town dest found result =>
      left
      have made' := inRange.registered dest (staticRoom_registered _ _ _ _ found)
      rw [result, same other locked']
      refine ⟨.inl ⟨town, by simp [found]⟩, ?_⟩
      exact changeMapTo_alone_places w r dest s requester p pkt 0 (town_alone pkt town _) named made
        made'
  | dungeon other locked' dungeon free result =>
      have elsewhere : pkt.mapId ≠ MapId.town := by
        rw [dungeon]
        decide
      rw [same other locked'] at free result
      rw [result]
      have opened (p : ObjectId) : (w.createDungeonInstance data).2.2.routing.places p =
          w.routing.places p := Routing.places_openDungeon w.routing p
      have room : ((w.createDungeonInstance data).2.2.routing.rooms r).players =
          (w.routing.rooms r).players := by
        have same : w.routing.openDungeon.rooms r = w.routing.rooms r :=
          (Routing.rooms_addRoom w.routing r _).trans (if_neg (Nat.ne_of_lt made))
        exact congrArg Room.players same
      have more : r < (w.createDungeonInstance data).2.2.routing.roomCount :=
        Nat.lt_succ_of_lt made
      have last : w.routing.roomCount < (w.createDungeonInstance data).2.2.routing.roomCount :=
        Nat.lt_succ_self _
      cases leads : w.routing.parties.isLeader requester with
      | true =>
          right
          obtain ⟨inParty, party, found⟩ := isLeader_party _ _ leads
          constructor
          · rintro (⟨town, -⟩ | ⟨-, single⟩)
            · exact elsewhere town
            · rw [inParty] at single
              cases single
          · have kept := changeMapTo_leader_places (w.createDungeonInstance data).2.2 r
              w.routing.roomCount s requester p pkt w.routing.instanceIdGen party dungeon leads found
              (listed _ party found).1 (fun id s' standing => names r id s' (room ▸ standing))
              more last
            exact kept.trans (opened p)
      | false =>
          left
          have single : w.routing.parties.isInParty requester = false := by
            simpa [leads] using free
          refine ⟨.inr ⟨dungeon, single⟩, ?_⟩
          have alone : ¬ (pkt.mapId = MapId.dungeon ∧
              (w.createDungeonInstance data).2.2.routing.parties.isLeader requester = true) := by
            rintro ⟨-, leader⟩
            rw [createDungeonInstance_routing] at leader
            exact absurd (leader.symm.trans leads) (by decide)
          have moved := changeMapTo_alone_places (w.createDungeonInstance data).2.2 r
            w.routing.roomCount s requester p pkt w.routing.instanceIdGen alone named more last
          rw [opened, room] at moved
          exact moved

theorem runJob_places (w : World) (r : RoomRef) (job : Job) (p : ObjectId)
    (made : r < w.routing.roomCount) (stays : job.entering = none)
    (other : ∀ s pkt, job ≠ .changeMap s pkt) :
    (runJob data w r job).routing.places p ≤ w.routing.places p := by
  cases job with
  | move s pkt => exact Nat.le_refl _
  | turn s pkt => exact Nat.le_refl _
  | attack s pkt =>
      rw [runJob, handleCAttack_routing]
      exact Routing.places_bury w.routing r _ p made
  | changeMap s pkt => exact absurd rfl (other s pkt)
  | equipItem s slot =>
      rw [runJob, itemJob_routing]
  | unequipItem s equipType =>
      rw [runJob, itemJob_routing]
  | useItem s slot =>
      rw [runJob, itemJob_routing]
  | partyInvite s targetId =>
      rw [runJob, partyInvite_routing]
  | partyAnswer s inviterId accept =>
      obtain ⟨parties, result, -⟩ := partyAnswer_routing w r s inviterId accept
      rw [runJob, result]
      exact Nat.le_refl _
  | partyLeave s =>
      obtain ⟨parties, result, -⟩ := partyLeave_routing w r s
      rw [runJob, result]
      exact Nat.le_refl _
  | enterRoom s id => cases stays
  | leaveRoom s =>
      rw [runJob, leaveRoom_routing]
      cases lockPlayer w.routing w.scene [] s with
      | none => exact Nat.le_refl _
      | some id =>
          have left := Routing.places_leave w.routing r id p made
          dsimp only
          omega

def OneLogin (w : World) (e : Event) : Prop := ∀ s, LogsInOnce s w e

/-- A change of the map that moves its requester alone runs in the room the requester is
in. -/
def MovesFromOwnRoom (w : World) (e : Event) : Prop :=
  ∀ r s pkt rest rand requester, e = .job rand →
    w.routing.nextJob = some (r, .changeMap s pkt, rest) →
    lockPlayer (w.forJob r rest rand).routing (w.forJob r rest rand).scene [] s = some requester →
    MovesAlone w.routing requester pkt → requester ∈ (w.routing.rooms r).players

structure World.Solo (w : World) : Prop extends w.Sound where
  once : ∀ s, w.routing.OneLoginOf s
  names : w.routing.Named
  places : ∀ p, w.routing.places p ≤ 1

theorem named_follows {a b : Routing} (follows : a.Follows b) (names : a.Named) : b.Named := by
  intro r p s standing session
  rw [follows.playerSession] at session
  rw [follows.player]
  exact names r p s (follows.players r p standing) session

theorem forJob_named (w : World) (r : RoomRef) (rest : List Job) (rand : List Nat)
    (names : w.routing.Named) : (w.forJob r rest rand).routing.Named := by
  intro r' p s standing session
  rw [World.forJob, Routing.players_popJob] at standing
  exact names r' p s standing session

theorem step_named (w next : World) (e : Event) (solo : w.Solo)
    (stepped : w.step data e = some next) : next.routing.Named := by
  cases step_stepped data w next e stepped with
  | enter r s id rest rand front result =>
      rw [result, enter_routing]
      intro r' p s' standing session
      have queued : w.routing.Bound s id :=
        .inr (.inr ⟨r, Routing.nextJob_queued w.routing r _ rest front⟩)
      rw [Routing.entered_players] at standing
      rw [Routing.entered_playerSession] at session
      rw [Routing.entered_sessions]
      split at session
      case isTrue same =>
        cases session
        rw [if_pos rfl, same]
      case isFalse apart =>
        have before : p ∈ (w.routing.rooms r').players :=
          standing.resolve_right fun new => apart new.2
        split
        case isTrue same =>
          rw [same] at session
          exact congrArg some (oneLogin_bound s w solo.toSound (solo.once s) id p queued
            (.inr (.inl session)))
        case isFalse => exact solo.names r' p s' before session
  | ran r job rest rand front stays result =>
      have ranged := (forJob_keeps w r job rest rand front).inRange solo.inRange
      rw [result]
      exact named_follows (runJob_calm data _ r job ranged stays).toFollows
        (forJob_named w r rest rand solo.names)
  | login s username connected result =>
      subst result
      rcases handleCLogin_cases data w s username with ⟨store, looked, -⟩ | ⟨-, -, logged, -⟩
      · rw [looked]
        exact solo.names
      · rw [logged]
        intro r p s' standing session
        rw [Routing.loggedIn_players] at standing
        rw [Routing.loggedIn_playerSession] at session
        have names := solo.names r p s' standing session
        rw [Routing.loggedIn_sessions]
        split
        case isTrue same => exact same ▸ names
        case isFalse => exact names
  | left s connected result =>
      rw [result]
      exact named_follows (onDisconnected_rests w s).toFollows solo.names
  | other e idles => exact named_follows idles.toFollows solo.names

theorem forJob_places (w : World) (r : RoomRef) (job : Job) (rest : List Job) (rand : List Nat)
    (p : ObjectId) (inRange : w.routing.InRange)
    (front : w.routing.nextJob = some (r, job, rest)) (stays : job.entering = none) :
    (w.forJob r rest rand).routing.places p = w.routing.places p := by
  have made := inRange.registered r (nextJob_registered w.routing inRange r job rest front)
  have popped := Routing.places_popJob w.routing r job rest p made front
  have brought : Routing.brings job p = 0 := by rw [Routing.brings, stays]; rfl
  rw [brought, Nat.add_zero] at popped
  exact popped.symm

theorem changeMap_places (w : World) (r : RoomRef) (s : SessionId) (pkt : CChangeMap)
    (rest : List Job) (rand : List Nat) (requester p : ObjectId) (solo : w.Solo)
    (front : w.routing.nextJob = some (r, .changeMap s pkt, rest))
    (locked : lockPlayer (w.forJob r rest rand).routing (w.forJob r rest rand).scene [] s =
      some requester) :
    (MovesAlone w.routing requester pkt ∧
      (runJob data (w.forJob r rest rand) r (.changeMap s pkt)).routing.places p +
          (if p = requester ∧ requester ∈ (w.routing.rooms r).players then 1 else 0) =
        w.routing.places p + if p = requester then 1 else 0) ∨
    (¬ MovesAlone w.routing requester pkt ∧
      (runJob data (w.forJob r rest rand) r (.changeMap s pkt)).routing.places p =
        w.routing.places p) := by
  have kept := forJob_keeps w r _ rest rand front
  have ranged := kept.inRange solo.inRange
  have known := nextJob_registered w.routing solo.inRange r _ rest front
  have made := ranged.registered r (kept.registered r known)
  have effect := handleCChangeMap_places data (w.forJob r rest rand) r s pkt requester p locked
    made ranged solo.listed (forJob_named w r rest rand solo.names)
  have same := forJob_places w r _ rest rand p solo.inRange front rfl
  have players : ((w.forJob r rest rand).routing.rooms r).players = (w.routing.rooms r).players :=
    Routing.players_popJob w.routing r r rest
  rw [players, same] at effect
  exact effect

theorem step_places (w next : World) (e : Event) (solo : w.Solo) (own : MovesFromOwnRoom w e)
    (stepped : w.step data e = some next) : ∀ p, next.routing.places p ≤ 1 := by
  intro p
  have one := solo.places p
  cases step_stepped data w next e stepped with
  | enter r s id rest rand front result =>
      have made := solo.inRange.registered r
        (nextJob_registered w.routing solo.inRange r _ rest front)
      have popped := Routing.places_popJob w.routing r _ rest p made front
      have brought : Routing.brings (.enterRoom s id) p = if p = id then 1 else 0 := by
        simp only [Routing.brings, Job.entering, Option.some.injEq, eq_comm]
      have bound : ((w.routing.popJob r rest).bind r s id).places p =
          (w.routing.popJob r rest).places p := rfl
      have entered := Routing.places_addPlayer ((w.routing.popJob r rest).bind r s id) r id p made
      rw [bound] at entered
      rw [result, enter_routing, Routing.entered, entered]
      rw [brought] at popped
      by_cases same : p = id
      · rw [if_pos same] at popped
        split <;> omega
      · rw [if_neg fun both => same both.1]
        omega
  | ran r job rest rand front stays result =>
      have same := forJob_places w r job rest rand p solo.inRange front stays
      by_cases change : ∃ s pkt, job = .changeMap s pkt
      · obtain ⟨s, pkt, rfl⟩ := change
        rw [result]
        cases locked : lockPlayer (w.forJob r rest rand).routing (w.forJob r rest rand).scene [] s with
        | none =>
            simp only [runJob, handleCChangeMap, locked]
            omega
        | some requester =>
            rcases changeMap_places data w r s pkt rest rand requester p solo front locked with
              ⟨alone, counted⟩ | ⟨-, counted⟩
            · have standing := own r s pkt rest rand requester rfl front locked alone
              simp only [standing, and_true] at counted
              omega
            · omega
      · have made := solo.inRange.registered r
          (nextJob_registered w.routing solo.inRange r _ rest front)
        have less := runJob_places data (w.forJob r rest rand) r job p made stays
          (fun s pkt same => change ⟨s, pkt, same⟩)
        rw [result]
        omega
  | login s username connected result =>
      subst result
      rcases handleCLogin_cases data w s username with ⟨store, looked, -⟩ | ⟨-, -, logged, -⟩
      · rw [looked]
        exact one
      · rw [logged]
        have recorded : (w.routing.recordLogin s (w.routing.store.accountOf username) w.idGen
            (w.loginMade data username).2).places p = w.routing.places p := rfl
        rcases Routing.loggedIn_cases w.routing s (w.routing.store.accountOf username) w.idGen
          (w.loginMade data username).2 with same | ⟨r, known, pushed⟩
        · rw [same, recorded]
          exact one
        · have made : r < (w.routing.recordLogin s (w.routing.store.accountOf username) w.idGen
              (w.loginMade data username).2).roomCount := solo.inRange.registered r known
          rw [pushed, Routing.places_pushJob _ _ _ _ made, recorded]
          simp only [Routing.brings, Job.entering, Option.some.injEq]
          split
          case isTrue new =>
            have none_yet : w.routing.places p = 0 := by
              by_contra some_place
              rw [← new] at some_place
              exact solo.fresh_not_placed
                ((Routing.places_ne_zero w.routing solo.inRange _).mp some_place)
            omega
          case isFalse => exact one
  | left s connected result =>
      rw [result, Routing.places_rests (onDisconnected_rests w s)]
      exact one
  | other e idles =>
      rw [Routing.places_rests idles.toRests]
      exact one

theorem step_solo (w next : World) (e : Event) (solo : w.Solo) (once : OneLogin w e)
    (own : MovesFromOwnRoom w e) (stepped : w.step data e = some next) : next.Solo where
  toSound := step_sound data w next e solo.toSound stepped
  once := fun s => step_oneLoginOf data s w next e solo.toSound (solo.once s) (once s) stepped
  names := step_named data w next e solo stepped
  places := step_places data w next e solo own stepped

theorem step_own (w next : World) (e : Event) (solo : w.Solo)
    (stepped : w.step data e = some next) (one : next.routing.InOneRoom) :
    MovesFromOwnRoom w e := by
  have sound := step_sound data w next e solo.toSound stepped
  intro r s pkt rest rand requester event front locked alone
  subst event
  by_contra away
  obtain ⟨acted, -⟩ := step_act data w next _ stepped
  obtain ⟨r', job, rest', front', result⟩ := runNextJob_some data w next rand acted
  rw [front] at front'
  cases front'
  have place := placed_of_alive _ _ _ (lockPlayer_some _ _ _ _ _ locked).2
  have placed := Routing.popJob_placed w.routing r _ rest front requester place
  have before := (Routing.places_ne_zero w.routing solo.inRange requester).mpr placed
  have after := (Routing.inOneRoom_iff next.routing sound.inRange).mp one requester
  rcases changeMap_places data w r s pkt rest rand requester requester solo front locked with
    ⟨-, counted⟩ | ⟨follows, -⟩
  · rw [← result, if_neg fun both => away both.2, if_pos rfl] at counted
    omega
  · exact follows alone

theorem init_solo (store : Store) (redisConnected : Bool) (rand : List Nat) :
    (World.init data store redisConnected rand).Solo := by
  have blank := init_blank data store redisConnected rand
  refine ⟨init_sound data store redisConnected rand, ?_, ?_, ?_⟩
  · intro s l member
    rw [blank.logins] at member
    cases member
  · intro r p s standing
    rw [blank.players] at standing
    cases standing
  · intro p
    have nowhere : (World.init data store redisConnected rand).routing.places p = 0 := by
      by_contra some_place
      exact blank.not_placed p
        ((Routing.places_ne_zero _ blank.inRange p).mp some_place)
    omega

/-- In a run in which each session logs in once, the players are in at most one room in
every state exactly when every lone change of the map runs in its requester's room. -/
theorem one_room_iff (store : Store) (redisConnected : Bool) (rand : List Nat)
    (events : List Event)
    (once : Runs.EachStep (World.step data) OneLogin (World.init data store redisConnected rand)
      events) :
    Runs.EveryState (World.step data) (fun w => w.routing.InOneRoom)
        (World.init data store redisConnected rand) events ↔
      Runs.EachStep (World.step data) MovesFromOwnRoom (World.init data store redisConnected rand)
        events := by
  apply Runs.everyState_iff OneLogin MovesFromOwnRoom World.Solo
  · intro w solo
    exact (Routing.inOneRoom_iff w.routing solo.inRange).mpr solo.places
  · intro w e next solo once stepped own
    exact step_solo data w next e solo once own stepped
  · intro w e next solo _ stepped one
    exact step_own data w next e solo stepped one
  · exact init_solo data store redisConnected rand
  · exact once

def firstLogin (w : World) : Event → Bool
  | .packet s (.login _) => w.routing.logins.all fun l => l.session ≠ s
  | _ => true

theorem firstLogin_once (w : World) (e : Event) (checked : firstLogin w e = true) :
    OneLogin w e := by
  rintro s username rfl - l member
  exact of_decide_eq_true (List.all_eq_true.mp checked l member)

def inOwnRoom (w : World) : Event → Bool
  | .job rand =>
      match w.routing.nextJob with
      | some (r, .changeMap s _, rest) =>
          (lockPlayer (w.forJob r rest rand).routing (w.forJob r rest rand).scene [] s).all fun id =>
            id ∈ (w.routing.rooms r).players
      | _ => true
  | _ => true

theorem inOwnRoom_moves (w : World) (e : Event) (checked : inOwnRoom w e = true) :
    MovesFromOwnRoom w e := by
  rintro r s pkt rest rand requester rfl front locked -
  simp only [inOwnRoom, front, locked, Option.all_some, decide_eq_true_eq] at checked
  exact checked

/-- From the first town to a dungeon, and on to the second town. -/
def dungeonTrip : List Event :=
  [Event.connect 1, .packet 1 (.login [97])] ++ updateTown 1 ++ [toDungeon, .update] ++
    visit .visitStatic 1 ++ visit .visitStatic 0 ++ [Event.loopDungeons] ++
    visit (.visitDungeon 1) 1 ++
    [Event.endUpdate, .packet 1 (.changeMap ⟨MapId.town, 2⟩), .update] ++
    visit .visitStatic 0 ++ visit .visitStatic 0 ++ [Event.loopDungeons] ++
    visit (.visitDungeon 1) 1 ++ [Event.endUpdate, .update] ++
    visit .visitStatic 0 ++ visit .visitStatic 1

set_option maxRecDepth 20000 in
theorem dungeon_trip_one_room :
    (reached smallGame newStore false [] dungeonTrip).isSome = true ∧
      Runs.EveryState (World.step smallGame) (fun w => w.routing.InOneRoom)
        (World.init smallGame newStore false []) dungeonTrip := by
  have ends : (reached smallGame newStore false [] dungeonTrip).isSome = true := by decide +kernel
  refine ⟨ends, ?_⟩
  refine (one_room_iff smallGame newStore false [] dungeonTrip ?_).mpr ?_
  · exact Runs.eachStep_of_check firstLogin _ firstLogin_once _ _ (by decide +kernel)
  · exact Runs.eachStep_of_check inOwnRoom _ inOwnRoom_moves _ _ (by decide +kernel)

/-- Two changes of the map back to back, both run before the player has entered. -/
def twoDungeons : List Event :=
  [.connect 1, .packet 1 (.login [97])] ++ updateTown 1 ++
    [toDungeon, toDungeon, .update, .visitStatic, .job [], .job []]

set_option maxRecDepth 20000 in
theorem two_dungeons_two_places :
    Runs.EachStep (World.step smallGame) OneLogin (World.init smallGame newStore false [])
        twoDungeons ∧
      ∃ w, reached smallGame newStore false [] twoDungeons = some w ∧ ¬ w.routing.InOneRoom := by
  refine ⟨Runs.eachStep_of_check firstLogin _ firstLogin_once _ _ (by decide +kernel), ?_⟩
  have run : (reached smallGame newStore false [] twoDungeons).any (fun w =>
      w.routing.waiting 1 2 = 1 ∧ w.routing.waiting 1 3 = 1) = true := by decide +kernel
  obtain ⟨w, reached, checked⟩ := Option.any_eq_true _ _ |>.mp run
  obtain ⟨first, second⟩ := of_decide_eq_true checked
  refine ⟨w, reached, fun one => ?_⟩
  have same := one.job 1 2 3 (by omega) (by omega)
  cases same

end ZeldaServer
