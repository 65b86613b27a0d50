import ZeldaServer.World.System

/-! The routing under its updates: what each of them does to a room's players and queue,
which rooms exist, and what stays as it was while nobody enters a room. -/

namespace ZeldaServer

namespace Routing

theorem rooms_setRoom (a : Routing) (r r' : RoomRef) (room : Room) :
    (a.setRoom r room).rooms r' = if r' = r then room else a.rooms r' :=
  Function.update_apply ..

theorem players_pushJob (a : Routing) (r r' : RoomRef) (job : Job) :
    ((a.pushJob r job).rooms r').players = (a.rooms r').players := by
  rw [pushJob, rooms_setRoom]
  split
  case isTrue same => rw [same]
  case isFalse => rfl

theorem queue_pushJob (a : Routing) (r r' : RoomRef) (job : Job) :
    ((a.pushJob r job).rooms r').queue =
      if r' = r then (a.rooms r').queue ++ [job] else (a.rooms r').queue := by
  rw [pushJob, rooms_setRoom]
  split
  case isTrue same => simp [same, Room.queue]
  case isFalse => rfl

theorem players_popJob (a : Routing) (r r' : RoomRef) (rest : List Job) :
    ((a.popJob r rest).rooms r').players = (a.rooms r').players := by
  rw [popJob, rooms_setRoom]
  split
  case isTrue same => rw [same]
  case isFalse => rfl

theorem queue_popJob (a : Routing) (r r' : RoomRef) (job : Job) (rest : List Job)
    (first : (a.rooms r).batch = job :: rest) :
    (a.rooms r').queue =
      if r' = r then job :: ((a.popJob r rest).rooms r').queue
      else ((a.popJob r rest).rooms r').queue := by
  rw [popJob, rooms_setRoom]
  split
  case isTrue same => simp [same, Room.queue, first]
  case isFalse => rfl

theorem queue_of_popJob (a : Routing) (r r' : RoomRef) (job : Job) (rest : List Job)
    (first : (a.rooms r).batch = job :: rest) (other : Job)
    (member : other ∈ ((a.popJob r rest).rooms r').queue) : other ∈ (a.rooms r').queue := by
  rw [queue_popJob a r r' job rest first]
  split
  · exact List.mem_cons_of_mem job member
  · exact member

theorem mem_popJob (a : Routing) (r r' : RoomRef) (job other : Job) (rest : List Job)
    (batch : (a.rooms r).batch = job :: rest) (waits : other ∈ (a.rooms r').queue) :
    (other = job ∧ r' = r) ∨ other ∈ ((a.popJob r rest).rooms r').queue := by
  rw [queue_popJob a r r' job rest batch] at waits
  split at waits
  case isTrue same =>
    rcases List.mem_cons.mp waits with first | later
    · exact .inl ⟨first, same⟩
    · exact .inr later
  case isFalse => exact .inr waits

theorem players_erasePlayer (a : Routing) (r r' : RoomRef) (id : ObjectId) :
    ((a.erasePlayer r id).rooms r').players =
      if r' = r then (a.rooms r').players.filter (· ≠ id) else (a.rooms r').players := by
  rw [erasePlayer, rooms_setRoom]
  split
  case isTrue same => rw [same]
  case isFalse => rfl

theorem queue_erasePlayer (a : Routing) (r r' : RoomRef) (id : ObjectId) :
    ((a.erasePlayer r id).rooms r').queue = (a.rooms r').queue := by
  rw [erasePlayer, rooms_setRoom]
  split
  case isTrue same => rw [same]; rfl
  case isFalse => rfl

theorem mem_players_addPlayer (a : Routing) (r r' : RoomRef) (id other : ObjectId) :
    other ∈ ((a.addPlayer r id).rooms r').players ↔
      other ∈ (a.rooms r').players ∨ (r' = r ∧ other = id) := by
  rw [addPlayer, rooms_setRoom]
  by_cases same : r' = r
  · by_cases present : id ∈ (a.rooms r).players
    · simp only [same, if_true, if_pos present, true_and]
      exact ⟨Or.inl, fun found => found.elim (fun old => old) (fun new => new ▸ present)⟩
    · simp only [same, if_true, if_neg present, List.mem_orderedInsert, true_and]
      exact or_comm
  · simp [same]

theorem queue_addPlayer (a : Routing) (r r' : RoomRef) (id : ObjectId) :
    ((a.addPlayer r id).rooms r').queue = (a.rooms r').queue := by
  rw [addPlayer, rooms_setRoom]
  split
  case isTrue same => rw [same]; rfl
  case isFalse => rfl

theorem rooms_addRoom (a : Routing) (r : RoomRef) (room : Room) :
    (a.addRoom room).rooms r = if r = a.roomCount then room else a.rooms r :=
  rooms_setRoom a a.roomCount r room

theorem players_startVisit (a : Routing) (pass : Pass) (r r' : RoomRef) :
    ((a.startVisit pass r).rooms r').players = (a.rooms r').players := by
  rw [startVisit, setPass, rooms_setRoom]
  split
  case isTrue same => rw [same]
  case isFalse => rfl

theorem queue_startVisit (a : Routing) (pass : Pass) (r r' : RoomRef) :
    ((a.startVisit pass r).rooms r').queue = (a.rooms r').queue := by
  rw [startVisit, setPass, rooms_setRoom]
  split
  case isTrue same => simp [same, Room.queue]
  case isFalse => rfl

theorem sessions_setSession (a : Routing) (s s' : SessionId) (session : GameSession) :
    (a.setSession s session).sessions s' = if s' = s then session else a.sessions s' :=
  Function.update_apply ..

theorem players_addRoom (a : Routing) (r : RoomRef) (id : ObjectId) (fieldId : FieldId)
    (channel : Int) (instanceId : InstanceId)
    (member : id ∈ ((a.addRoom (Room.create fieldId channel instanceId)).rooms r).players) :
    id ∈ (a.rooms r).players := by
  rw [rooms_addRoom] at member
  split at member
  · cases member
  · exact member

theorem queue_addRoom (a : Routing) (r : RoomRef) (job : Job) (fieldId : FieldId)
    (channel : Int) (instanceId : InstanceId)
    (member : job ∈ ((a.addRoom (Room.create fieldId channel instanceId)).rooms r).queue) :
    job ∈ (a.rooms r).queue := by
  rw [rooms_addRoom] at member
  split at member
  · cases member
  · exact member

/-- The player stands in a room, or an `EnterRoom` job waits for it. -/
def Placed (a : Routing) (id : ObjectId) : Prop :=
  ∃ r, id ∈ (a.rooms r).players ∨ ∃ s, Job.enterRoom s id ∈ (a.rooms r).queue

/-- The room is in one of the tables of `GameRoomManager`. -/
def Registered (a : Routing) (r : RoomRef) : Prop :=
  (∃ key, (key, r) ∈ a.staticRooms) ∨ ∃ instanceId, (instanceId, r) ∈ a.dungeonInstances

end Routing

/-! ### Changes in which nobody enters a room

`b` comes from `a` by such changes: players may leave, jobs may be added, and a new
`EnterRoom` job is for a player that had a place, from the session it is bound to. -/

structure Routing.Follows (a b : Routing) : Prop where
  players : ∀ r id, id ∈ (b.rooms r).players → id ∈ (a.rooms r).players
  queue : ∀ r job, job ∈ (a.rooms r).queue → job ∈ (b.rooms r).queue
  entering : ∀ r s id, .enterRoom s id ∈ (b.rooms r).queue →
    .enterRoom s id ∈ (a.rooms r).queue ∨
      (a.Placed id ∧ (a.playerSession id = some s ∨ (a.sessions s).player = some id))
  playerSession : b.playerSession = a.playerSession
  player : ∀ s, (b.sessions s).player = (a.sessions s).player
  gameRoom : ∀ s, (b.sessions s).gameRoom = (a.sessions s).gameRoom
  accountId : ∀ s, (b.sessions s).accountId = (a.sessions s).accountId
  logins : b.logins = a.logins

namespace Routing.Follows

theorem refl (a : Routing) : a.Follows a where
  players := fun _ _ member => member
  queue := fun _ _ member => member
  entering := fun _ _ _ waiting => .inl waiting
  playerSession := rfl
  player := fun _ => rfl
  gameRoom := fun _ => rfl
  accountId := fun _ => rfl
  logins := rfl

theorem placed {a b : Routing} (follows : a.Follows b) (id : ObjectId) (place : b.Placed id) :
    a.Placed id := by
  obtain ⟨r, standing | ⟨s, waiting⟩⟩ := place
  · exact ⟨r, .inl (follows.players r id standing)⟩
  · rcases follows.entering r s id waiting with before | ⟨placed, -⟩
    · exact ⟨r, .inr ⟨s, before⟩⟩
    · exact placed

theorem trans {a b c : Routing} (first : a.Follows b) (second : b.Follows c) : a.Follows c where
  players := fun r id member => first.players r id (second.players r id member)
  queue := fun r job member => second.queue r job (first.queue r job member)
  entering := by
    intro r s id waiting
    rcases second.entering r s id waiting with before | ⟨placed, bound⟩
    · exact first.entering r s id before
    · rw [first.playerSession, first.player] at bound
      exact .inr ⟨first.placed id placed, bound⟩
  playerSession := second.playerSession.trans first.playerSession
  player := fun s => (second.player s).trans (first.player s)
  gameRoom := fun s => (second.gameRoom s).trans (first.gameRoom s)
  accountId := fun s => (second.accountId s).trans (first.accountId s)
  logins := second.logins.trans first.logins

theorem of_rooms {a b : Routing} (rooms : b.rooms = a.rooms)
    (playerSession : b.playerSession = a.playerSession) (sessions : b.sessions = a.sessions)
    (logins : b.logins = a.logins) : a.Follows b where
  players := fun r id member => by rwa [rooms] at member
  queue := fun r job member => by rwa [rooms]
  entering := fun r s id waiting => .inl (by rwa [rooms] at waiting)
  playerSession := playerSession
  player := fun s => by rw [sessions]
  gameRoom := fun s => by rw [sessions]
  accountId := fun s => by rw [sessions]
  logins := logins

theorem pushJob (a : Routing) (r : RoomRef) (job : Job) (calm : job.entering = none) :
    a.Follows (a.pushJob r job) where
  players := fun r' id member => by rwa [players_pushJob] at member
  queue := by
    intro r' job' member
    rw [queue_pushJob]
    split
    · exact List.mem_append_left _ member
    · exact member
  entering := by
    intro r' s id waiting
    rw [queue_pushJob] at waiting
    split at waiting
    · rcases List.mem_append.mp waiting with before | new
      · exact .inl before
      · rw [List.mem_singleton] at new
        subst new
        cases calm
    · exact .inl waiting
  playerSession := rfl
  player := fun _ => rfl
  gameRoom := fun _ => rfl
  accountId := fun _ => rfl
  logins := rfl

theorem pushEnter {a b : Routing} (follows : a.Follows b) (r : RoomRef) (s : SessionId)
    (id : ObjectId) (placed : a.Placed id)
    (bound : a.playerSession id = some s ∨ (a.sessions s).player = some id) :
    a.Follows (b.pushJob r (.enterRoom s id)) where
  players := fun r' id member => follows.players r' id (by rwa [players_pushJob] at member)
  queue := by
    intro r' job' member
    rw [queue_pushJob]
    split
    · exact List.mem_append_left _ (follows.queue r' job' member)
    · exact follows.queue r' job' member
  entering := by
    intro r' s' id' waiting
    rw [queue_pushJob] at waiting
    split at waiting
    · rcases List.mem_append.mp waiting with before | new
      · exact follows.entering r' s' id' before
      · rw [List.mem_singleton] at new
        cases new
        exact .inr ⟨placed, bound⟩
    · exact follows.entering r' s' id' waiting
  playerSession := follows.playerSession
  player := follows.player
  gameRoom := follows.gameRoom
  accountId := follows.accountId
  logins := follows.logins

theorem erasePlayer (a : Routing) (r : RoomRef) (id : ObjectId) :
    a.Follows (a.erasePlayer r id) where
  players := by
    intro r' id' member
    rw [players_erasePlayer] at member
    split at member
    · exact List.mem_of_mem_filter member
    · exact member
  queue := fun r' job member => by rwa [queue_erasePlayer]
  entering := fun r' s id' waiting => .inl (by rwa [queue_erasePlayer] at waiting)
  playerSession := rfl
  player := fun _ => rfl
  gameRoom := fun _ => rfl
  accountId := fun _ => rfl
  logins := rfl

theorem startVisit (a : Routing) (pass : Pass) (r : RoomRef) :
    a.Follows (a.startVisit pass r) where
  players := fun r' id member => by rwa [players_startVisit] at member
  queue := fun r' job member => by rwa [queue_startVisit]
  entering := fun r' s id waiting => .inl (by rwa [queue_startVisit] at waiting)
  playerSession := rfl
  player := fun _ => rfl
  gameRoom := fun _ => rfl
  accountId := fun _ => rfl
  logins := rfl

end Routing.Follows

/-- Nothing refers to a room that was not made, and only a room in the tables is visited. -/
structure Routing.InRange (a : Routing) : Prop where
  unmade : ∀ r, a.roomCount ≤ r → (a.rooms r).players = [] ∧ (a.rooms r).queue = []
  registered : ∀ r, a.Registered r → r < a.roomCount
  gameRoom : ∀ s r, (a.sessions s).gameRoom = some r → r < a.roomCount
  statics : ∀ pass r, a.pass = some pass → r ∈ pass.statics → a.Registered r
  current : ∀ pass visit, a.pass = some pass → pass.current = some visit → a.Registered visit.room

namespace Routing.InRange

theorem players {a : Routing} (inRange : a.InRange) (r : RoomRef) (id : ObjectId)
    (member : id ∈ (a.rooms r).players) : r < a.roomCount := by
  by_contra beyond
  rw [(inRange.unmade r (Nat.le_of_not_lt beyond)).1] at member
  cases member

theorem queue {a : Routing} (inRange : a.InRange) (r : RoomRef) (job : Job)
    (member : job ∈ (a.rooms r).queue) : r < a.roomCount := by
  by_contra beyond
  rw [(inRange.unmade r (Nat.le_of_not_lt beyond)).2] at member
  cases member

end Routing.InRange

/-- What a job keeps of the tables and of the `Update` under way. -/
structure Routing.Keeps (a b : Routing) : Prop where
  inRange : a.InRange → b.InRange
  pass : b.pass = a.pass
  registered : ∀ r, a.Registered r → b.Registered r

namespace Routing.Keeps

theorem refl (a : Routing) : a.Keeps a := ⟨fun inRange => inRange, rfl, fun _ known => known⟩

theorem trans {a b c : Routing} (first : a.Keeps b) (second : b.Keeps c) : a.Keeps c where
  inRange := fun inRange => second.inRange (first.inRange inRange)
  pass := second.pass.trans first.pass
  registered := fun r known => second.registered r (first.registered r known)

theorem of_tables {a b : Routing} (statics : b.staticRooms = a.staticRooms)
    (dungeons : b.dungeonInstances = a.dungeonInstances) (count : b.roomCount = a.roomCount)
    (pass : b.pass = a.pass)
    (gameRoom : ∀ s r, (b.sessions s).gameRoom = some r →
      (a.sessions s).gameRoom = some r ∨ r < a.roomCount)
    (unmade : ∀ r, a.roomCount ≤ r → (a.rooms r).players = [] → (a.rooms r).queue = [] →
      (b.rooms r).players = [] ∧ (b.rooms r).queue = []) : a.Keeps b := by
  have registered : ∀ r, b.Registered r ↔ a.Registered r := by
    intro r
    simp only [Routing.Registered, statics, dungeons]
  refine ⟨fun inRange => ?_, pass, fun r => (registered r).mpr⟩
  constructor
  · intro r beyond
    rw [count] at beyond
    obtain ⟨players, queue⟩ := inRange.unmade r beyond
    exact unmade r beyond players queue
  · intro r known
    rw [count]
    exact inRange.registered r ((registered r).mp known)
  · intro s r bound
    rw [count]
    rcases gameRoom s r bound with before | made
    · exact inRange.gameRoom s r before
    · exact made
  · intro now r under_way member
    exact (registered r).mpr (inRange.statics now r (pass ▸ under_way) member)
  · intro now visit under_way current
    exact (registered _).mpr (inRange.current now visit (pass ▸ under_way) current)

theorem pushJob (a : Routing) (r : RoomRef) (job : Job) (made : r < a.roomCount) :
    a.Keeps (a.pushJob r job) := by
  refine of_tables rfl rfl rfl rfl (fun _ _ => .inl) fun r' beyond players queue => ?_
  have apart : r' ≠ r := Nat.ne_of_gt (Nat.lt_of_lt_of_le made beyond)
  rw [players_pushJob, queue_pushJob, if_neg apart]
  exact ⟨players, queue⟩

theorem erasePlayer (a : Routing) (r : RoomRef) (id : ObjectId) :
    a.Keeps (a.erasePlayer r id) := by
  refine of_tables rfl rfl rfl rfl (fun _ _ => .inl) fun r' beyond players queue => ?_
  rw [players_erasePlayer, queue_erasePlayer, players]
  simp [queue]

theorem addPlayer (a : Routing) (r : RoomRef) (id : ObjectId) (made : r < a.roomCount) :
    a.Keeps (a.addPlayer r id) := by
  refine of_tables rfl rfl rfl rfl (fun _ _ => .inl) fun r' beyond players queue => ?_
  refine ⟨List.eq_nil_iff_forall_not_mem.mpr fun other member => ?_, ?_⟩
  · rw [mem_players_addPlayer, players] at member
    rcases member with none_before | ⟨here, -⟩
    · cases none_before
    · exact Nat.ne_of_gt (Nat.lt_of_lt_of_le made beyond) here
  · rw [queue_addPlayer, queue]

theorem bind (a : Routing) (r : RoomRef) (s : SessionId) (id : ObjectId)
    (made : r < a.roomCount) : a.Keeps (a.bind r s id) := by
  refine of_tables rfl rfl rfl rfl ?_ fun _ _ players queue => ⟨players, queue⟩
  intro s' r' bound
  simp only [Routing.bind, sessions_setSession] at bound
  split at bound
  · cases bound
    exact .inr made
  · exact .inl bound

theorem popJob (a : Routing) (r : RoomRef) (job : Job) (rest : List Job)
    (first : (a.rooms r).batch = job :: rest) : a.Keeps (a.popJob r rest) := by
  refine of_tables rfl rfl rfl rfl (fun _ _ => .inl) fun r' beyond players queue => ?_
  rw [players_popJob]
  have before := queue_popJob a r r' job rest first
  rw [queue] at before
  split at before
  · cases before
  · exact ⟨players, before.symm⟩

theorem registered_openDungeon (a : Routing) (r : RoomRef) :
    a.openDungeon.Registered r ↔ a.Registered r ∨ r = a.roomCount := by
  simp only [Registered, openDungeon, addRoom, setRoom, List.mem_append, List.mem_singleton,
    Prod.mk.injEq]
  constructor
  · rintro (static | ⟨instanceId, old | ⟨-, new⟩⟩)
    · exact .inl (.inl static)
    · exact .inl (.inr ⟨instanceId, old⟩)
    · exact .inr new
  · rintro ((static | ⟨instanceId, old⟩) | new)
    · exact .inl static
    · exact .inr ⟨instanceId, .inl old⟩
    · exact .inr ⟨a.instanceIdGen, .inr ⟨rfl, new⟩⟩

theorem openDungeon (a : Routing) : a.Keeps a.openDungeon := by
  have count : a.openDungeon.roomCount = a.roomCount + 1 := rfl
  refine ⟨fun inRange => ?_, rfl, fun r known => (registered_openDungeon a r).mpr (.inl known)⟩
  constructor
  · intro r beyond
    rw [count] at beyond
    have past : a.roomCount < r := Nat.lt_of_succ_le beyond
    have same : a.openDungeon.rooms r = a.rooms r :=
      (rooms_addRoom a r _).trans (if_neg (Nat.ne_of_gt past))
    rw [same]
    exact inRange.unmade r (Nat.le_of_lt past)
  · intro r known
    rw [count]
    rcases (registered_openDungeon a r).mp known with old | rfl
    · exact Nat.lt_succ_of_lt (inRange.registered r old)
    · exact Nat.lt_succ_self _
  · intro s r bound
    rw [count]
    exact Nat.lt_succ_of_lt (inRange.gameRoom s r bound)
  · intro pass r under_way member
    exact (registered_openDungeon a r).mpr (.inl (inRange.statics pass r under_way member))
  · intro pass visit under_way current
    exact (registered_openDungeon a _).mpr (.inl (inRange.current pass visit under_way current))

end Routing.Keeps

structure Routing.Calm (a b : Routing) : Prop extends a.Follows b, a.Keeps b where
  sessions : b.sessions = a.sessions
  store : b.store = a.store
  jobs : ∀ r job, job ∈ (b.rooms r).queue → job ∈ (a.rooms r).queue ∨ job.entering ≠ none
  listed : a.parties.Listed → b.parties.Listed

namespace Routing.Calm

theorem of_rooms {a b : Routing} (follows : a.Follows b) (keeps : a.Keeps b)
    (sessions : b.sessions = a.sessions) (store : b.store = a.store)
    (queue : ∀ r, (b.rooms r).queue = (a.rooms r).queue)
    (listed : a.parties.Listed → b.parties.Listed) : a.Calm b :=
  ⟨follows, keeps, sessions, store, fun r _ member => .inl (queue r ▸ member), listed⟩

theorem refl (a : Routing) : a.Calm a :=
  of_rooms (.refl a) (.refl a) rfl rfl (fun _ => rfl) fun listed => listed

theorem trans {a b c : Routing} (first : a.Calm b) (second : b.Calm c) : a.Calm c where
  toFollows := first.toFollows.trans second.toFollows
  toKeeps := first.toKeeps.trans second.toKeeps
  sessions := second.sessions.trans first.sessions
  store := second.store.trans first.store
  jobs := by
    intro r job member
    rcases second.jobs r job member with before | new
    · exact first.jobs r job before
    · exact .inr new
  listed := fun listed => second.listed (first.listed listed)

theorem onParties (a : Routing) (f : PartyManager → PartyManager)
    (listed : a.parties.Listed → (f a.parties).Listed) : a.Calm (a.onParties f) :=
  of_rooms (.of_rooms rfl rfl rfl rfl) (.of_tables rfl rfl rfl rfl (fun _ _ => .inl)
    fun _ _ players queue => ⟨players, queue⟩) rfl rfl (fun _ => rfl) listed

theorem erasePlayer (a : Routing) (r : RoomRef) (id : ObjectId) : a.Calm (a.erasePlayer r id) :=
  of_rooms (.erasePlayer a r id) (.erasePlayer a r id) rfl rfl
    (fun r' => queue_erasePlayer a r r' id) fun listed => listed

theorem requestRemoval (a : Routing) (r : RoomRef) : a.Calm (a.requestRemoval r) := by
  unfold Routing.requestRemoval
  dsimp only
  split
  · exact of_rooms (.of_rooms rfl rfl rfl rfl) (.of_tables rfl rfl rfl rfl (fun _ _ => .inl)
      fun _ _ players queue => ⟨players, queue⟩) rfl rfl (fun _ => rfl) fun listed => listed
  · exact refl a

theorem pushEnter {a b : Routing} (calm : a.Calm b) (r : RoomRef) (s : SessionId) (id : ObjectId)
    (placed : a.Placed id) (bound : a.playerSession id = some s ∨ (a.sessions s).player = some id)
    (made : r < b.roomCount) : a.Calm (b.pushJob r (.enterRoom s id)) where
  toFollows := calm.toFollows.pushEnter r s id placed bound
  toKeeps := calm.toKeeps.trans (.pushJob b r _ made)
  sessions := calm.sessions
  store := calm.store
  jobs := by
    intro r' job member
    rw [queue_pushJob] at member
    split at member
    · rcases List.mem_append.mp member with before | new
      · exact calm.jobs r' job before
      · rw [List.mem_singleton] at new
        subst new
        exact .inr (by simp [Job.entering])
    · exact calm.jobs r' job member
  listed := calm.listed

theorem openDungeon (a : Routing) (inRange : a.InRange) : a.Calm a.openDungeon where
  toKeeps := .openDungeon a
  players := fun r id member => players_addRoom a r id _ _ _ member
  queue := by
    intro r job member
    have apart : r ≠ a.roomCount := Nat.ne_of_lt (inRange.queue r job member)
    have same : a.openDungeon.rooms r = a.rooms r := (rooms_addRoom a r _).trans (if_neg apart)
    rwa [same]
  entering := fun r s id waiting => .inl (queue_addRoom a r _ _ _ _ waiting)
  playerSession := rfl
  player := fun _ => rfl
  gameRoom := fun _ => rfl
  accountId := fun _ => rfl
  logins := rfl
  sessions := rfl
  store := rfl
  jobs := fun r job member => .inl (queue_addRoom a r job _ _ _ member)
  listed := fun listed => listed

end Routing.Calm

structure Routing.Rests (a b : Routing) : Prop extends a.Follows b where
  samePlayers : ∀ r, (b.rooms r).players = (a.rooms r).players
  samePlaces : ∀ r, (b.rooms r).queue.filterMap Job.entering =
    (a.rooms r).queue.filterMap Job.entering
  playerRoom : b.playerRoom = a.playerRoom
  roomCount : b.roomCount = a.roomCount

namespace Routing.Rests

theorem trans {a b c : Routing} (first : a.Rests b) (second : b.Rests c) : a.Rests c where
  toFollows := first.toFollows.trans second.toFollows
  samePlayers := fun r => (second.samePlayers r).trans (first.samePlayers r)
  samePlaces := fun r => (second.samePlaces r).trans (first.samePlaces r)
  playerRoom := second.playerRoom.trans first.playerRoom
  roomCount := second.roomCount.trans first.roomCount

theorem of_rooms {a b : Routing} (rooms : b.rooms = a.rooms)
    (playerSession : b.playerSession = a.playerSession) (sessions : b.sessions = a.sessions)
    (logins : b.logins = a.logins) (playerRoom : b.playerRoom = a.playerRoom)
    (roomCount : b.roomCount = a.roomCount) : a.Rests b where
  toFollows := .of_rooms rooms playerSession sessions logins
  samePlayers := fun r => by rw [rooms]
  samePlaces := fun r => by rw [rooms]
  playerRoom := playerRoom
  roomCount := roomCount

theorem pushJob (a : Routing) (r : RoomRef) (job : Job) (stays : job.entering = none) :
    a.Rests (a.pushJob r job) where
  toFollows := .pushJob a r job stays
  samePlayers := fun r' => players_pushJob a r r' job
  samePlaces := fun r' => by
    rw [queue_pushJob]
    split
    · rw [List.filterMap_append, List.filterMap_cons_none stays, List.filterMap_nil, List.append_nil]
    · rfl
  playerRoom := rfl
  roomCount := rfl

theorem startVisit (a : Routing) (pass : Pass) (r : RoomRef) : a.Rests (a.startVisit pass r) where
  toFollows := .startVisit a pass r
  samePlayers := fun r' => players_startVisit a pass r r'
  samePlaces := fun r' => by rw [queue_startVisit]
  playerRoom := rfl
  roomCount := rfl

end Routing.Rests

/-- Events in which also nobody logs in, disconnects, joins or leaves a party. -/
structure Routing.Idles (a b : Routing) : Prop extends a.Rests b where
  store : b.store = a.store
  parties : b.parties = a.parties
  disconnected : ∀ s,
    (b.sessions s).connection = .disconnected ↔ (a.sessions s).connection = .disconnected
  leaving : ∀ r s, .leaveRoom s ∈ (b.rooms r).queue → .leaveRoom s ∈ (a.rooms r).queue

namespace Routing.Idles

theorem of_rests {a b : Routing} (rests : a.Rests b) (store : b.store = a.store)
    (parties : b.parties = a.parties) (sessions : b.sessions = a.sessions)
    (queue : ∀ r, (b.rooms r).queue = (a.rooms r).queue) : a.Idles b :=
  ⟨rests, store, parties, fun s => by rw [sessions], fun r s waiting => queue r ▸ waiting⟩

theorem of_rooms {a b : Routing} (rooms : b.rooms = a.rooms)
    (playerSession : b.playerSession = a.playerSession) (sessions : b.sessions = a.sessions)
    (logins : b.logins = a.logins) (playerRoom : b.playerRoom = a.playerRoom)
    (store : b.store = a.store) (parties : b.parties = a.parties)
    (roomCount : b.roomCount = a.roomCount) : a.Idles b :=
  of_rests (.of_rooms rooms playerSession sessions logins playerRoom roomCount) store parties
    sessions fun r => by rw [rooms]

theorem refl (a : Routing) : a.Idles a := of_rooms rfl rfl rfl rfl rfl rfl rfl rfl

theorem pushJob (a : Routing) (r : RoomRef) (job : Job) (stays : job.entering = none)
    (remains : ∀ s, job ≠ .leaveRoom s) : a.Idles (a.pushJob r job) where
  toRests := .pushJob a r job stays
  store := rfl
  parties := rfl
  disconnected := fun _ => Iff.rfl
  leaving := by
    intro r' s waiting
    rw [queue_pushJob] at waiting
    split at waiting
    · rcases List.mem_append.mp waiting with before | new
      · exact before
      · exact absurd (List.mem_singleton.mp new).symm (remains s)
    · exact waiting

end Routing.Idles

end ZeldaServer
