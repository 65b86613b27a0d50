import ZeldaServer.World.Dungeons

/-! Which rooms can be occupied: players enter a dungeon in the first drain of its queue and
never again, so nobody comes into an instance whose removal was asked for, and only rooms
of the tables have players. -/

namespace ZeldaServer

variable (data : GameData)

/-- The `EnterRoom` jobs come before the others. -/
def EntersFirst (jobs : List Job) : Prop :=
  jobs.Pairwise fun first later => later.entering ≠ none → first.entering ≠ none

theorem entersFirst_rest (job : Job) (rest : List Job) (first : EntersFirst (job :: rest))
    (stays : job.entering = none) : ∀ other ∈ rest, other.entering = none := by
  intro other later
  by_contra entering
  exact (List.rel_of_pairwise_cons first later) entering stays

theorem entersFirst_append (jobs news : List Job) (first : EntersFirst jobs)
    (ordered : EntersFirst news)
    (fits : ∀ job ∈ news, job.entering ≠ none → ∀ other ∈ jobs, other.entering ≠ none) :
    EntersFirst (jobs ++ news) := by
  apply List.pairwise_append.mpr
  exact ⟨first, ordered, fun other member job new entering => fits job new entering other member⟩

theorem entersFirst_all (jobs : List Job) (all : ∀ job ∈ jobs, job.entering ≠ none) :
    EntersFirst jobs := by
  apply List.pairwise_of_forall_mem_list
  intro first member _ _ _
  exact all first member

/-- A player stands in the room, or an `EnterRoom` waits in its queue. -/
def Routing.Occupied (a : Routing) (r : RoomRef) : Prop :=
  (∃ id, id ∈ (a.rooms r).players) ∨ ∃ job ∈ (a.rooms r).queue, job.entering ≠ none

/-- Static rooms are towns. A dungeon room has its own entry in the table; nobody is in it,
or enters it, once its removal is asked for; and only rooms of the tables are occupied. -/
structure Routing.Housed (a : Routing) : Prop where
  statics : ∀ key r, (key, r) ∈ a.staticRooms → (a.rooms r).fieldId = .town
  dungeons : ∀ instanceId r, (instanceId, r) ∈ a.dungeonInstances →
    (a.rooms r).fieldId = .dungeon ∧ (a.rooms r).instanceId = instanceId ∧ 0 < instanceId ∧
      instanceId < a.instanceIdGen
  keys : (a.dungeonInstances.map (·.1)).Nodup
  started : 0 < a.instanceIdGen
  enters : ∀ r, (a.rooms r).fieldId = .dungeon → EntersFirst (a.rooms r).queue
  requested : ∀ instanceId ∈ a.pendingRemoveDungeon, instanceId < a.instanceIdGen
  vacated : ∀ instanceId r, (instanceId, r) ∈ a.dungeonInstances →
    instanceId ∈ a.pendingRemoveDungeon → ¬ a.Occupied r
  registered : ∀ r, a.Occupied r → a.Registered r
  batch : ∀ r, (a.rooms r).batch ≠ [] → ∃ pass, a.pass = some pass ∧ pass.current = some ⟨r, none⟩

namespace Routing.Housed

theorem entry {a : Routing} (housed : a.Housed) (r : RoomRef) (known : a.Registered r)
    (dungeon : (a.rooms r).fieldId = .dungeon) :
    ((a.rooms r).instanceId, r) ∈ a.dungeonInstances := by
  rcases known with ⟨key, static⟩ | ⟨instanceId, listed⟩
  · rw [housed.statics key r static] at dungeon
    cases dungeon
  · rwa [(housed.dungeons instanceId r listed).2.1]

theorem unique {a : Routing} (housed : a.Housed) (r r' : RoomRef) (known : a.Registered r)
    (dungeon : (a.rooms r).fieldId = .dungeon)
    (listed : ((a.rooms r).instanceId, r') ∈ a.dungeonInstances) : r' = r := by
  have own := housed.entry r known dungeon
  exact (Prod.mk.inj (List.inj_on_of_nodup_map housed.keys listed own rfl)).2

theorem town_unlisted {a : Routing} (housed : a.Housed) (r : RoomRef)
    (town : (a.rooms r).fieldId = .town) (instanceId : InstanceId) :
    (instanceId, r) ∉ a.dungeonInstances := by
  intro listed
  rw [(housed.dungeons instanceId r listed).1] at town
  cases town

theorem drained {a : Routing} (housed : a.Housed) (pass : Pass) (under_way : a.pass = some pass)
    (idle : pass.current = none) (r : RoomRef) : (a.rooms r).batch = [] := by
  by_contra left
  obtain ⟨pass', under_way', current⟩ := housed.batch r left
  rw [under_way] at under_way'
  cases under_way'
  rw [idle] at current
  cases current

theorem of_rooms {a b : Routing} (housed : a.Housed) (statics : b.staticRooms = a.staticRooms)
    (dungeons : b.dungeonInstances = a.dungeonInstances)
    (instanceIdGen : b.instanceIdGen = a.instanceIdGen)
    (identity : ∀ r, (b.rooms r).fieldId = (a.rooms r).fieldId ∧
      (b.rooms r).instanceId = (a.rooms r).instanceId)
    (enters : ∀ r, (a.rooms r).fieldId = .dungeon → EntersFirst (b.rooms r).queue)
    (requested : ∀ instanceId ∈ b.pendingRemoveDungeon, instanceId < a.instanceIdGen)
    (vacated : ∀ instanceId r, (instanceId, r) ∈ a.dungeonInstances →
      instanceId ∈ b.pendingRemoveDungeon → ¬ b.Occupied r)
    (registered : ∀ r, b.Occupied r → a.Registered r)
    (batch : ∀ r, (b.rooms r).batch ≠ [] →
      ∃ pass, b.pass = some pass ∧ pass.current = some ⟨r, none⟩) : b.Housed := by
  constructor
  · intro key r static
    rw [statics] at static
    rw [(identity r).1]
    exact housed.statics key r static
  · intro instanceId r listed
    rw [dungeons] at listed
    rw [(identity r).1, (identity r).2, instanceIdGen]
    exact housed.dungeons instanceId r listed
  · rw [dungeons]
    exact housed.keys
  · rw [instanceIdGen]
    exact housed.started
  · intro r dungeon
    rw [(identity r).1] at dungeon
    exact enters r dungeon
  · rw [instanceIdGen]
    exact requested
  · rw [dungeons]
    exact vacated
  · intro r present
    rw [Registered, statics, dungeons]
    exact registered r present
  · exact batch

theorem of_same {a b : Routing} (housed : a.Housed) (rooms : b.rooms = a.rooms)
    (tables : a.SameTables b) (pending : b.pendingRemoveDungeon = a.pendingRemoveDungeon) :
    b.Housed := by
  have occupied (r : RoomRef) : b.Occupied r ↔ a.Occupied r := by rw [Occupied, Occupied, rooms]
  apply housed.of_rooms tables.statics tables.dungeons tables.instanceIdGen
  · intro r
    rw [rooms]
    exact ⟨rfl, rfl⟩
  · rw [rooms]
    exact housed.enters
  · rw [pending]
    exact housed.requested
  · intro instanceId r listed requested present
    exact housed.vacated instanceId r listed (pending ▸ requested) ((occupied r).mp present)
  · intro r present
    exact housed.registered r ((occupied r).mp present)
  · rw [rooms, tables.pass]
    exact housed.batch

/-- What a job of room `source` other than an `EnterRoom` does: players leave, and
`EnterRoom` jobs are left in towns, or in a dungeon that nothing else waits in. -/
structure Work (a b : Routing) (source : RoomRef) (news : RoomRef → List Job) : Prop where
  tables : a.SameTables b
  rooms : ∀ r, a.SameRoom b r
  players : ∀ r id, id ∈ (b.rooms r).players → id ∈ (a.rooms r).players
  jobs : ∀ r, (b.rooms r).jobs = (a.rooms r).jobs ++ news r
  entering : ∀ r, ∀ job ∈ news r, job.entering ≠ none
  places : ∀ r, news r ≠ [] → a.Registered r ∧ ((a.rooms r).fieldId = .dungeon →
    (∀ job ∈ (a.rooms r).queue, job.entering ≠ none) ∧
      (a.rooms r).instanceId ∉ b.pendingRemoveDungeon)
  pending : ∀ instanceId ∈ b.pendingRemoveDungeon, instanceId ∈ a.pendingRemoveDungeon ∨
    (instanceId = (a.rooms source).instanceId ∧ (a.rooms source).fieldId = .dungeon ∧
      (b.rooms source).players = [])

theorem Work.queue {a b : Routing} {source : RoomRef} {news : RoomRef → List Job}
    (work : Work a b source news) (r : RoomRef) :
    (b.rooms r).queue = (a.rooms r).queue ++ news r := by
  calc
    (b.rooms r).batch ++ (b.rooms r).jobs = (a.rooms r).batch ++ ((a.rooms r).jobs ++ news r) := by
      rw [(work.rooms r).batch, work.jobs r]
    _ = (a.rooms r).queue ++ news r := by rw [Room.queue, List.append_assoc]

theorem work {a b : Routing} (housed : a.Housed) (source : RoomRef) (news : RoomRef → List Job)
    (known : a.Registered source)
    (calm : (a.rooms source).fieldId = .dungeon → ∀ job ∈ (a.rooms source).queue,
      job.entering = none)
    (work : Work a b source news) : b.Housed := by
  have occupied (r : RoomRef) (present : b.Occupied r) : a.Occupied r ∨ news r ≠ [] := by
    rcases present with ⟨id, standing⟩ | ⟨job, waiting, entering⟩
    · exact .inl (.inl ⟨id, work.players r id standing⟩)
    · rw [work.queue] at waiting
      rcases List.mem_append.mp waiting with before | new
      · exact .inl (.inr ⟨job, before, entering⟩)
      · exact .inr (List.ne_nil_of_mem new)
  apply housed.of_rooms work.tables.statics work.tables.dungeons work.tables.instanceIdGen
  · exact fun r => ⟨(work.rooms r).fieldId, (work.rooms r).instanceId⟩
  · intro r dungeon
    rw [work.queue]
    apply entersFirst_append _ _ (housed.enters r dungeon) (entersFirst_all _ (work.entering r))
    intro job new _ other member
    exact ((work.places r (List.ne_nil_of_mem new)).2 dungeon).1 other member
  · intro instanceId requested
    rcases work.pending instanceId requested with before | ⟨same, dungeon, -⟩
    · exact housed.requested instanceId before
    · rw [same]
      exact (housed.dungeons _ source (housed.entry source known dungeon)).2.2.2
  · intro instanceId r listed requested present
    obtain ⟨dungeon, named, -, -⟩ := housed.dungeons instanceId r listed
    have still : news r = [] := by
      by_contra new
      have free := ((work.places r new).2 dungeon).2
      rw [named] at free
      exact free requested
    rcases work.pending instanceId requested with before | ⟨same, there, empty⟩
    · rcases occupied r present with old | new
      · exact housed.vacated instanceId r listed before old
      · exact new still
    · rw [same] at listed
      have here := housed.unique source r known there listed
      subst here
      rcases present with ⟨id, standing⟩ | ⟨job, waiting, entering⟩
      · rw [empty] at standing
        cases standing
      · rw [work.queue, still, List.append_nil] at waiting
        exact entering (calm there job waiting)
  · intro r present
    rcases occupied r present with old | new
    · exact housed.registered r old
    · exact (work.places r new).1
  · intro r left
    rw [(work.rooms r).batch] at left
    rw [work.tables.pass]
    exact housed.batch r left

theorem pushJob {a : Routing} (housed : a.Housed) (r : RoomRef) (job : Job)
    (town : job.entering ≠ none → a.Registered r ∧ (a.rooms r).fieldId = .town) :
    (a.pushJob r job).Housed := by
  have rooms (r' : RoomRef) := sameRoom_pushJob a r r' job
  have occupied (r' : RoomRef) (present : (a.pushJob r job).Occupied r') :
      a.Occupied r' ∨ (r' = r ∧ job.entering ≠ none) := by
    rcases present with ⟨id, standing⟩ | ⟨other, waiting, entering⟩
    · rw [players_pushJob] at standing
      exact .inl (.inl ⟨id, standing⟩)
    · rw [queue_pushJob] at waiting
      split at waiting
      case isTrue same =>
        rcases List.mem_append.mp waiting with before | new
        · exact .inl (.inr ⟨other, before, entering⟩)
        · rw [List.mem_singleton] at new
          exact .inr ⟨same, new ▸ entering⟩
      case isFalse => exact .inl (.inr ⟨other, waiting, entering⟩)
  apply of_rooms (b := a.pushJob r job) housed rfl rfl rfl
  · exact fun r' => ⟨(rooms r').fieldId, (rooms r').instanceId⟩
  · intro r' dungeon
    rw [queue_pushJob]
    split
    case isTrue same =>
      apply entersFirst_append _ _ (housed.enters r' dungeon) (List.pairwise_singleton _ _)
      intro other new entering
      rw [List.mem_singleton] at new
      rw [same, (town (new ▸ entering)).2] at dungeon
      cases dungeon
    case isFalse => exact housed.enters r' dungeon
  · exact housed.requested
  · intro instanceId r' listed requested present
    rcases occupied r' present with old | ⟨same, entering⟩
    · exact housed.vacated instanceId r' listed requested old
    · rw [same] at listed
      exact housed.town_unlisted r (town entering).2 instanceId listed
  · intro r' present
    rcases occupied r' present with old | ⟨same, entering⟩
    · exact housed.registered r' old
    · rw [same]
      exact (town entering).1
  · intro r' left
    rw [(rooms r').batch] at left
    exact housed.batch r' left

theorem popJob {a : Routing} (housed : a.Housed) (r : RoomRef) (job : Job) (rest : List Job)
    (front : a.nextJob = some (r, job, rest)) : (a.popJob r rest).Housed := by
  obtain ⟨pass, under_way, current, batch⟩ := nextJob_some a r job rest front
  have queue (r' : RoomRef) := queue_of_popJob a r r' job rest batch
  have occupied (r' : RoomRef) (present : (a.popJob r rest).Occupied r') : a.Occupied r' := by
    rcases present with ⟨id, standing⟩ | ⟨other, waiting, entering⟩
    · rw [players_popJob] at standing
      exact .inl ⟨id, standing⟩
    · exact .inr ⟨other, queue r' other waiting, entering⟩
  apply of_rooms (b := a.popJob r rest) housed rfl rfl rfl
  · exact fun r' => popJob_identity a r r' rest
  · intro r' dungeon
    have before := housed.enters r' dungeon
    rw [queue_popJob a r r' job rest batch] at before
    split at before
    · exact (List.pairwise_cons.mp before).2
    · exact before
  · exact housed.requested
  · intro instanceId r' listed requested present
    exact housed.vacated instanceId r' listed requested (occupied r' present)
  · intro r' present
    exact housed.registered r' (occupied r' present)
  · intro r' left
    by_cases here : r' = r
    · rw [here]
      exact ⟨pass, under_way, current⟩
    · rw [Routing.popJob, rooms_setRoom, if_neg here] at left
      exact housed.batch r' left

theorem addPlayer {a : Routing} (housed : a.Housed) (r : RoomRef) (id : ObjectId)
    (known : a.Registered r) (kept : ∀ instanceId, (instanceId, r) ∈ a.dungeonInstances →
      instanceId ∉ a.pendingRemoveDungeon) : (a.addPlayer r id).Housed := by
  have same (r' : RoomRef) : a.SameRoom (a.addPlayer r id) r' := sameRoom_addPlayer a r r' id
  have occupied (r' : RoomRef) (present : (a.addPlayer r id).Occupied r') :
      a.Occupied r' ∨ r' = r := by
    rcases present with ⟨other, standing⟩ | ⟨other, waiting, entering⟩
    · rw [mem_players_addPlayer] at standing
      rcases standing with before | ⟨here, -⟩
      · exact .inl (.inl ⟨other, before⟩)
      · exact .inr here
    · rw [queue_addPlayer] at waiting
      exact .inl (.inr ⟨other, waiting, entering⟩)
  apply of_rooms (b := a.addPlayer r id) housed rfl rfl rfl
  · exact fun r' => ⟨(same r').fieldId, (same r').instanceId⟩
  · intro r' dungeon
    rw [queue_addPlayer]
    exact housed.enters r' dungeon
  · exact housed.requested
  · intro instanceId r' listed requested present
    rcases occupied r' present with old | here
    · exact housed.vacated instanceId r' listed requested old
    · exact kept instanceId (here ▸ listed) requested
  · intro r' present
    rcases occupied r' present with old | here
    · exact housed.registered r' old
    · rw [here]
      exact known
  · intro r' left
    rw [(same r').batch] at left
    exact housed.batch r' left

theorem rooms_openDungeon (a : Routing) (r : RoomRef) :
    a.openDungeon.rooms r =
      if r = a.roomCount then Room.create .dungeon 0 a.instanceIdGen else a.rooms r :=
  rooms_addRoom a r _

theorem openDungeon {a : Routing} (housed : a.Housed) (inRange : a.InRange) :
    a.openDungeon.Housed := by
  have rooms := rooms_openDungeon a
  have old (r : RoomRef) (known : a.Registered r) : a.openDungeon.rooms r = a.rooms r := by
    rw [rooms, if_neg (Nat.ne_of_lt (inRange.registered r known))]
  have occupied (r : RoomRef) (present : a.openDungeon.Occupied r) :
      a.Occupied r ∧ r ≠ a.roomCount := by
    rw [Occupied, rooms] at present
    split at present
    case isTrue =>
      rcases present with ⟨id, standing⟩ | ⟨other, waiting, -⟩
      · cases standing
      · cases waiting
    case isFalse apart => exact ⟨present, apart⟩
  constructor
  · intro key r static
    rw [old r (.inl ⟨key, static⟩)]
    exact housed.statics key r static
  · intro instanceId r listed
    rcases List.mem_append.mp listed with before | new
    · rw [old r (.inr ⟨instanceId, before⟩)]
      obtain ⟨dungeon, named, positive, bound⟩ := housed.dungeons instanceId r before
      exact ⟨dungeon, named, positive, Nat.lt_succ_of_lt bound⟩
    · rw [List.mem_singleton, Prod.mk.injEq] at new
      obtain ⟨rfl, rfl⟩ := new
      rw [rooms, if_pos rfl]
      exact ⟨rfl, rfl, housed.started, Nat.lt_succ_self _⟩
  · have fresh : a.instanceIdGen ∉ a.dungeonInstances.map (·.1) := by
      intro member
      obtain ⟨entry, listed, named⟩ := List.mem_map.mp member
      exact absurd named (Nat.ne_of_lt (housed.dungeons entry.1 entry.2 listed).2.2.2)
    simp only [Routing.openDungeon, List.map_append, List.map_cons, List.map_nil]
    exact List.nodup_append.mpr ⟨housed.keys, List.nodup_singleton _, by
      intro key member other only same
      rw [List.mem_singleton] at only
      exact fresh (only ▸ same ▸ member)⟩
  · exact Nat.succ_pos _
  · intro r dungeon
    rw [rooms] at dungeon ⊢
    split
    case isTrue => exact List.Pairwise.nil
    case isFalse apart =>
      rw [if_neg apart] at dungeon
      exact housed.enters r dungeon
  · intro instanceId requested
    exact Nat.lt_succ_of_lt (housed.requested instanceId requested)
  · intro instanceId r listed requested present
    obtain ⟨before, apart⟩ := occupied r present
    rcases List.mem_append.mp listed with already | new
    · exact housed.vacated instanceId r already requested before
    · rw [List.mem_singleton, Prod.mk.injEq] at new
      exact apart new.2
  · intro r present
    exact (Routing.Keeps.registered_openDungeon a r).mpr
      (.inl (housed.registered r (occupied r present).1))
  · intro r left
    rw [rooms] at left
    split at left
    case isTrue => exact absurd rfl left
    case isFalse => exact housed.batch r left

theorem work_erase (a : Routing) (r : RoomRef) (id : ObjectId) :
    Work a (a.erasePlayer r id) r fun _ => [] where
  tables := ⟨rfl, rfl, rfl, rfl, rfl⟩
  rooms := fun r' => sameRoom_erasePlayer a r r' id
  players := (Routing.Follows.erasePlayer a r id).players
  jobs := fun r' => by rw [jobs_erasePlayer, List.append_nil]
  entering := fun _ _ new => by cases new
  places := fun _ new => absurd rfl new
  pending := fun _ requested => .inl requested

theorem work_leave (a : Routing) (r : RoomRef) (id : ObjectId) :
    Work a (a.leave r id) r fun _ => [] where
  tables := .leave a r id
  rooms := fun r' => sameRoom_leave a r r' id
  players := (leave_calm a r id).players
  jobs := fun r' => by rw [jobs_leave, List.append_nil]
  entering := fun _ _ new => by cases new
  places := fun _ new => absurd rfl new
  pending := by
    intro instanceId requested
    rcases (leave_pending a r id instanceId).mp requested with before | ⟨same, dungeon, empty, -⟩
    · exact .inl before
    · exact .inr ⟨same, dungeon, empty⟩

theorem work_moves {source dest : RoomRef} {moves : List (SessionId × ObjectId)} {a b : Routing}
    (moved : Routing.Moves source dest moves a b) (known : a.Registered dest)
    (alone : (a.rooms dest).fieldId = .dungeon →
      (∀ job ∈ (a.rooms dest).queue, job.entering ≠ none) ∧
        (a.rooms dest).instanceId ∉ b.pendingRemoveDungeon) :
    Work a b source fun r => if r = dest then enterJobs moves else [] where
  tables := .moves moved
  rooms := moves_sameRoom moved
  players := fun r id standing => ((moves_players moved r id).mp standing).1
  jobs := moves_jobs moved
  entering := by
    intro r job new
    split at new
    · obtain ⟨move, -, rfl⟩ := List.mem_map.mp new
      exact Option.some_ne_none _
    · cases new
  places := by
    intro r new
    split at new
    case isTrue same =>
      rw [same]
      exact ⟨known, alone⟩
    case isFalse => exact absurd rfl new
  pending := moves_pending moved

theorem work_opened {a b : Routing} (housed : a.Housed) (inRange : a.InRange) (r : RoomRef)
    (moves : List (SessionId × ObjectId)) (known : a.Registered r)
    (moved : Routing.Moves r a.roomCount moves a.openDungeon b) :
    Work a.openDungeon b r fun r' => if r' = a.roomCount then enterJobs moves else [] := by
  have same : a.openDungeon.rooms r = a.rooms r := by
    rw [rooms_openDungeon, if_neg (Nat.ne_of_lt (inRange.registered r known))]
  apply work_moves moved
  · exact (Routing.Keeps.registered_openDungeon a _).mpr (.inr rfl)
  · rw [rooms_openDungeon, if_pos rfl]
    intro _
    constructor
    · intro job waiting
      cases waiting
    · intro requested
      rcases moves_pending moved _ requested with before | ⟨named, dungeon, -⟩
      · exact absurd (housed.requested _ before) (Nat.lt_irrefl _)
      · rw [same] at named dungeon
        have bound := (housed.dungeons _ r (housed.entry r known dungeon)).2.2.2
        rw [← named] at bound
        exact Nat.lt_irrefl _ bound

theorem calm {a : Routing} (housed : a.Housed) (r : RoomRef) (job : Job) (rest : List Job)
    (front : a.nextJob = some (r, job, rest)) (stays : job.entering = none)
    (dungeon : (a.rooms r).fieldId = .dungeon) :
    ∀ other ∈ ((a.popJob r rest).rooms r).queue, other.entering = none := by
  obtain ⟨pass, -, -, batch⟩ := nextJob_some a r job rest front
  have first := housed.enters r dungeon
  rw [queue_popJob a r r job rest batch, if_pos rfl] at first
  exact entersFirst_rest job _ first stays

theorem worked (w : World) (r : RoomRef) (job : Job) (b : Routing) (housed : w.routing.Housed)
    (inRange : w.routing.InRange) (known : w.routing.Registered r)
    (calm : (w.routing.rooms r).fieldId = .dungeon → ∀ other ∈ (w.routing.rooms r).queue,
      other.entering = none)
    (worked : w.Worked r job b) : b.Housed := by
  cases worked with
  | rooms rooms tables pending => exact housed.of_same rooms tables pending
  | buried victim s pkt attack killed result =>
      rw [result]
      exact housed.work r _ known calm (work_erase w.routing r victim)
  | left s id leaves locked result =>
      rw [result]
      exact housed.work r _ known calm (work_leave w.routing r id)
  | moved dest s requester changes result =>
      obtain ⟨key, static⟩ := changesChannel_static w job dest (s, requester) changes
      apply housed.work r _ known calm (work_moves result (.inl ⟨key, static⟩) _)
      intro dungeon
      rw [housed.statics key dest static] at dungeon
      cases dungeon
  | opened s requester opens result =>
      have same : w.routing.openDungeon.rooms r = w.routing.rooms r := by
        rw [rooms_openDungeon, if_neg (Nat.ne_of_lt (inRange.registered r known))]
      have known' := (Routing.Keeps.openDungeon w.routing).registered r known
      exact (housed.openDungeon inRange).work r _ known' (same ▸ calm)
        (housed.work_opened inRange r _ known result)

end Routing.Housed

theorem ran_housed (w : World) (rand : List Nat) (r : RoomRef) (job : Job) (rest : List Job)
    (inRange : w.routing.InRange) (housed : w.routing.Housed)
    (front : w.routing.nextJob = some (r, job, rest)) :
    (runJob data (w.forJob r rest rand) r job).routing.Housed := by
  obtain ⟨ranged, known⟩ := forJob_room w inRange r job rest rand front
  have popped := housed.popJob r job rest front
  by_cases stays : job.entering = none
  · apply popped.worked (w.forJob r rest rand) r job _ ranged known _
      (runJob_worked data _ r job ranged known stays)
    intro dungeon
    apply housed.calm r job rest front stays
    rw [← dungeon]
    exact (Routing.popJob_identity w.routing r r rest).1.symm
  · cases job with
    | enterRoom s id =>
        rw [runJob, enterRoom_routing]
        have bound : ((w.forJob r rest rand).routing.bind r s id).Housed :=
          popped.of_same rfl ⟨rfl, rfl, rfl, rfl, rfl⟩ rfl
        apply bound.addPlayer r id known
        intro instanceId listed requested
        apply housed.vacated instanceId r listed requested
        exact .inr ⟨_, Routing.nextJob_queued _ r _ rest front, stays⟩
    | _ => exact absurd rfl stays

namespace Routing.Housed

theorem setPass {a : Routing} (housed : a.Housed) (pass : Pass)
    (batch : ∀ r, (a.rooms r).batch ≠ [] → pass.current = some ⟨r, none⟩) :
    (a.setPass pass).Housed := by
  apply of_rooms (b := a.setPass pass) housed rfl rfl rfl
  · exact fun _ => ⟨rfl, rfl⟩
  · exact housed.enters
  · exact housed.requested
  · exact housed.vacated
  · exact housed.registered
  · intro r left
    exact ⟨pass, rfl, batch r left⟩

theorem startVisit {a : Routing} (housed : a.Housed) (pass pass' : Pass) (r : RoomRef)
    (under_way : a.pass = some pass) (idle : pass.current = none) :
    (a.startVisit pass' r).Housed := by
  have occupied (r' : RoomRef) : (a.startVisit pass' r).Occupied r' ↔ a.Occupied r' := by
    rw [Occupied, Occupied, players_startVisit, queue_startVisit]
  apply of_rooms (b := a.startVisit pass' r) housed rfl rfl rfl
  · intro r'
    rw [Routing.startVisit, Routing.setPass, rooms_setRoom]
    split
    case isTrue same => rw [same]; exact ⟨rfl, rfl⟩
    case isFalse => exact ⟨rfl, rfl⟩
  · intro r' dungeon
    rw [queue_startVisit]
    exact housed.enters r' dungeon
  · exact housed.requested
  · intro instanceId r' listed requested present
    exact housed.vacated instanceId r' listed requested ((occupied r').mp present)
  · intro r' present
    exact housed.registered r' ((occupied r').mp present)
  · intro r' left
    by_cases here : r' = r
    · rw [here]
      exact ⟨_, rfl, rfl⟩
    · rw [Routing.startVisit, Routing.setPass, rooms_setRoom, if_neg here] at left
      exact absurd (housed.drained pass under_way idle r') left

theorem removeDungeons {a : Routing} (housed : a.Housed) (pass : Pass)
    (under_way : a.pass = some pass) (idle : pass.current = none) : a.removeDungeons.Housed := by
  constructor
  · exact housed.statics
  · intro instanceId r listed
    exact housed.dungeons instanceId r (List.mem_of_mem_filter listed)
  · exact housed.keys.sublist (List.filter_sublist.map _)
  · exact housed.started
  · exact housed.enters
  · intro instanceId requested
    cases requested
  · intro instanceId r _ requested
    cases requested
  · intro r present
    rcases housed.registered r present with static | ⟨instanceId, listed⟩
    · exact .inl static
    · refine .inr ⟨instanceId, List.mem_filter.mpr ⟨listed, decide_eq_true ?_⟩⟩
      intro requested
      exact housed.vacated instanceId r listed requested present
  · intro r left
    exact absurd (housed.drained pass under_way idle r) left

end Routing.Housed

theorem step_housed (w next : World) (e : Event) (inRange : w.routing.InRange)
    (housed : w.routing.Housed) (stepped : w.step data e = some next) : next.routing.Housed := by
  cases step_turned data w next e stepped with
  | quiet e jobless ongoing rooms tables pending => exact housed.of_same rooms tables pending
  | pushed s pkt r job sends bound result =>
      rw [result]
      apply housed.pushJob r job
      intro entering
      exact absurd (job_stays s pkt job sends) entering
  | login s username r id town rooms tables pending =>
      obtain ⟨found, there, same⟩ := Option.map_eq_some_iff.mp town
      have static := List.mem_of_find?_eq_some there
      have pushed := housed.pushJob r (.enterRoom s id) fun _ =>
        ⟨.inl ⟨found.1, same ▸ static⟩, housed.statics found.1 r (same ▸ static)⟩
      exact pushed.of_same rooms ⟨tables.statics, tables.dungeons, tables.roomCount,
        tables.instanceIdGen, tables.pass⟩ pending
  | left s r bound rooms tables pending =>
      have pushed := housed.pushJob r (.leaveRoom s) fun entering => absurd rfl entering
      exact pushed.of_same rooms ⟨tables.statics, tables.dungeons, tables.roomCount,
        tables.instanceIdGen, tables.pass⟩ pending
  | ran rand r job rest front result =>
      rw [result]
      exact ran_housed data w rand r job rest inRange housed front
  | update idle result =>
      rw [result]
      apply housed.setPass
      intro r left
      obtain ⟨pass, under_way, -⟩ := housed.batch r left
      rw [idle] at under_way
      cases under_way
  | visitStatic pass r statics under_way idle _ result =>
      rw [result]
      exact housed.startVisit pass _ r under_way idle
  | loopDungeons pass under_way idle _ _ result =>
      rw [result]
      apply housed.setPass
      intro r left
      exact absurd (housed.drained pass under_way idle r) left
  | visitDungeon pass r instanceId under_way idle _ _ _ result =>
      rw [result]
      exact housed.startVisit pass _ r under_way idle
  | goOn e jobless ongoing pass visit current under_way visiting drained goes result =>
      rw [result]
      apply housed.setPass
      intro r left
      obtain ⟨pass', under_way', draining⟩ := housed.batch r left
      rw [under_way] at under_way'
      cases under_way'
      rw [visiting] at draining
      cases draining
      exact absurd (drained rfl) left
  | endUpdate pass dungeonsFrom under_way idle _ _ result =>
      rw [result]
      exact housed.removeDungeons pass under_way idle

theorem openTown_housed (w : World) (channel : Int) (roomId : RoomName) (blank : w.routing.Blank)
    (housed : w.routing.Housed) : (w.openTown data channel roomId).routing.Housed := by
  have blank' := openTown_blank data w channel roomId blank
  have rooms (r : RoomRef) : (w.openTown data channel roomId).routing.rooms r =
      if r = w.routing.roomCount then Room.create .town channel 0 else w.routing.rooms r :=
    Routing.rooms_addRoom w.routing r _
  have empty (r : RoomRef) : ¬ (w.openTown data channel roomId).routing.Occupied r := by
    rintro (⟨id, standing⟩ | ⟨job, waiting, -⟩)
    · rw [blank'.players r] at standing
      cases standing
    · rw [blank'.queue r] at waiting
      cases waiting
  have old (r : RoomRef) (known : w.routing.Registered r) :
      (w.openTown data channel roomId).routing.rooms r = w.routing.rooms r := by
    rw [rooms, if_neg (Nat.ne_of_lt (blank.registered r known))]
  constructor
  · intro key r static
    rcases List.mem_append.mp static with before | new
    · rw [old r (.inl ⟨key, before⟩)]
      exact housed.statics key r before
    · rw [List.mem_singleton, Prod.mk.injEq] at new
      rw [rooms, if_pos new.2]
      rfl
  · intro instanceId r listed
    rw [old r (.inr ⟨instanceId, listed⟩)]
    exact housed.dungeons instanceId r listed
  · exact housed.keys
  · exact housed.started
  · intro r _
    rw [blank'.queue r]
    exact List.Pairwise.nil
  · exact housed.requested
  · exact fun _ r _ _ => empty r
  · exact fun r present => absurd present (empty r)
  · intro r left
    have queue := blank'.queue r
    rw [Room.queue, List.append_eq_nil_iff] at queue
    exact absurd queue.1 left

theorem init_housed (store : Store) (redisConnected : Bool) (rand : List Nat) :
    (World.init data store redisConnected rand).routing.Housed := by
  have empty : (World.empty data store redisConnected rand).routing.Housed := by
    constructor
    · intro key r static
      cases static
    · intro instanceId r listed
      cases listed
    · exact List.nodup_nil
    · exact Nat.one_pos
    · exact fun r _ => List.Pairwise.nil
    · intro instanceId requested
      cases requested
    · intro instanceId r listed
      cases listed
    · rintro r (⟨id, standing⟩ | ⟨job, waiting, -⟩)
      · cases standing
      · cases waiting
    · exact fun r left => absurd rfl left
  have blank := empty_blank data store redisConnected rand
  unfold World.init
  dsimp only
  split
  · apply openTown_housed data _ 2 .town2 (openTown_blank data _ 1 .town1 blank)
    exact openTown_housed data _ 1 .town1 blank empty
  · exact empty

theorem init_dungeons (store : Store) (redisConnected : Bool) (rand : List Nat) :
    (World.init data store redisConnected rand).routing.dungeonInstances = [] := by
  unfold World.init
  dsimp only
  split <;> rfl

end ZeldaServer
