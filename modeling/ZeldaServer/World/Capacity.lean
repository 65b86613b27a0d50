import ZeldaServer.World.Parties

/-! How many players come into a dungeon. -/

namespace ZeldaServer

variable (data : GameData)

/-- The `EnterRoom` jobs among the jobs. -/
def entrants (jobs : List Job) : Nat := jobs.countP fun job => job.entering.isSome

@[simp] theorem entrants_nil : entrants [] = 0 := rfl

@[simp] theorem entrants_append (jobs news : List Job) :
    entrants (jobs ++ news) = entrants jobs + entrants news :=
  List.countP_append

@[simp] theorem entrants_cons (job : Job) (rest : List Job) :
    entrants (job :: rest) = entrants rest + if job.entering.isSome then 1 else 0 :=
  List.countP_cons

namespace Routing

def load (a : Routing) (r : RoomRef) : Nat :=
  (a.rooms r).players.length + entrants (a.rooms r).queue

theorem load_of_rooms {a b : Routing} (rooms : b.rooms = a.rooms) (r : RoomRef) :
    b.load r = a.load r := by
  rw [load, rooms, load]

theorem load_pushJob (a : Routing) (r r' : RoomRef) (job : Job) :
    (a.pushJob r job).load r' =
      a.load r' + if r' = r ∧ job.entering.isSome then 1 else 0 := by
  rw [load, players_pushJob, queue_pushJob, load]
  by_cases same : r' = r
  · simp [same, Nat.add_assoc]
  · simp [same]

theorem load_popJob (a : Routing) (r r' : RoomRef) (job : Job) (rest : List Job)
    (front : a.nextJob = some (r, job, rest)) :
    a.load r' = (a.popJob r rest).load r' +
      if r' = r ∧ job.entering.isSome then 1 else 0 := by
  obtain ⟨pass, -, -, batch⟩ := nextJob_some a r job rest front
  rw [load, load, players_popJob, queue_popJob a r r' job rest batch]
  by_cases same : r' = r
  · simp [same, Nat.add_assoc]
  · simp [same]

theorem load_startVisit (a : Routing) (pass : Pass) (r r' : RoomRef) :
    (a.startVisit pass r).load r' = a.load r' := by
  rw [load, players_startVisit, queue_startVisit, load]

theorem load_erasePlayer (a : Routing) (r r' : RoomRef) (id : ObjectId) :
    (a.erasePlayer r id).load r' ≤ a.load r' := by
  rw [load, players_erasePlayer, queue_erasePlayer, load]
  apply Nat.add_le_add_right
  split
  case isTrue => exact List.length_filter_le _ _
  case isFalse => exact Nat.le_refl _

theorem load_leave (a : Routing) (r r' : RoomRef) (id : ObjectId) :
    (a.leave r id).load r' ≤ a.load r' := by
  unfold leave
  rw [load_of_rooms (requestRemoval_rooms _ r)]
  split
  · exact load_erasePlayer a r r' id
  · exact Nat.le_refl _

theorem load_addPlayer (a : Routing) (r r' : RoomRef) (id : ObjectId) :
    (a.addPlayer r id).load r' ≤ a.load r' + if r' = r then 1 else 0 := by
  rw [load, queue_addPlayer, load, addPlayer, rooms_setRoom]
  by_cases same : r' = r
  · rw [if_pos same, if_pos same, same]
    dsimp only
    split
    case isTrue => omega
    case isFalse =>
      rw [List.orderedInsert_length]
      omega
  · rw [if_neg same, if_neg same]
    exact Nat.le_refl _

theorem load_openDungeon (a : Routing) (r : RoomRef) :
    a.openDungeon.load r = if r = a.roomCount then 0 else a.load r := by
  rw [load, Housed.rooms_openDungeon]
  split <;> rfl

theorem load_moves {source dest : RoomRef} {moves : List (SessionId × ObjectId)} {a b : Routing}
    (moved : Routing.Moves source dest moves a b) (r : RoomRef) :
    b.load r ≤ a.load r + if r = dest then moves.length else 0 := by
  have entering (s : SessionId) (id : ObjectId) : (Job.enterRoom s id).entering.isSome := rfl
  induction moved with
  | nil a => exact Nat.le_add_right _ _
  | stay a b s id rest _ _ ih =>
      rw [load_pushJob] at ih
      by_cases same : r = dest
      · simp only [same, entering, and_self, if_true, List.length_cons] at ih ⊢
        omega
      · simpa [same] using ih
  | leave a b s id other rest _ _ ih =>
      have left := load_leave a source r other
      rw [load_pushJob] at ih
      by_cases same : r = dest
      · simp only [same, entering, and_self, if_true, List.length_cons] at ih left ⊢
        omega
      · simp only [same, false_and, if_false] at ih ⊢
        omega

/-- No dungeon has more players, or waits for more, than a party has members. -/
def Fits (a : Routing) : Prop :=
  ∀ r, (a.rooms r).fieldId = .dungeon → a.load r ≤ PartyManager.maxPartySize

namespace Fits

theorem of_load {a b : Routing} (fits : a.Fits)
    (identity : ∀ r, (b.rooms r).fieldId = (a.rooms r).fieldId)
    (load : ∀ r, (a.rooms r).fieldId = .dungeon → b.load r ≤ a.load r) : b.Fits := by
  intro r dungeon
  rw [identity] at dungeon
  exact Nat.le_trans (load r dungeon) (fits r dungeon)

theorem of_rooms {a b : Routing} (fits : a.Fits) (rooms : b.rooms = a.rooms) : b.Fits := by
  apply fits.of_load
  · intro r
    rw [rooms]
  · exact fun r _ => Nat.le_of_eq (load_of_rooms rooms r)

theorem pushJob {a : Routing} (fits : a.Fits) (r : RoomRef) (job : Job)
    (town : job.entering ≠ none → (a.rooms r).fieldId = .town) : (a.pushJob r job).Fits := by
  apply fits.of_load
  · exact fun r' => (sameRoom_pushJob a r r' job).fieldId
  · intro r' dungeon
    have outside : ¬ (r' = r ∧ job.entering.isSome) := by
      rintro ⟨rfl, entering⟩
      rw [town (Option.isSome_iff_ne_none.mp entering)] at dungeon
      cases dungeon
    rw [load_pushJob, if_neg outside]
    exact Nat.le_refl _

theorem startVisit {a : Routing} (fits : a.Fits) (pass : Pass) (r : RoomRef) :
    (a.startVisit pass r).Fits := by
  apply fits.of_load
  · intro r'
    rw [Routing.startVisit, setPass, rooms_setRoom]
    split
    case isTrue same => rw [same]
    case isFalse => rfl
  · exact fun r' _ => Nat.le_of_eq (load_startVisit a pass r r')

theorem goAlong_length (a : Routing) (r : RoomRef) (s : SessionId) (requester : ObjectId)
    (wellFormed : a.parties.WellFormed) :
    (goAlong a r s requester).length ≤ PartyManager.maxPartySize := by
  unfold goAlong
  dsimp only
  split
  case h_1 party found =>
    split at found
    case isTrue =>
      calc
        (partyToMove a r party).length ≤ party.memberIds.length := List.length_filterMap_le _ _
        _ ≤ PartyManager.maxPartySize := (wellFormed.party _ party found).size
    case isFalse => cases found
  case h_2 =>
    rw [List.length_singleton]
    decide

theorem opened {a b : Routing} (fits : a.Fits) (source : RoomRef)
    (moves : List (SessionId × ObjectId)) (few : moves.length ≤ PartyManager.maxPartySize)
    (moved : Routing.Moves source a.roomCount moves a.openDungeon b) : b.Fits := by
  intro r dungeon
  rw [(moves_sameRoom moved r).fieldId, Housed.rooms_openDungeon] at dungeon
  have bound := load_moves moved r
  rw [load_openDungeon] at bound
  by_cases new : r = a.roomCount
  · rw [if_pos new, if_pos new, Nat.zero_add] at bound
    exact Nat.le_trans bound few
  · rw [if_neg new] at dungeon
    rw [if_neg new, if_neg new] at bound
    exact Nat.le_trans bound (fits r dungeon)

end Fits

end Routing

theorem worked_fits (w : World) (r : RoomRef) (job : Job) (b : Routing)
    (housed : w.routing.Housed) (wellFormed : w.routing.parties.WellFormed)
    (fits : w.routing.Fits) (worked : w.Worked r job b) : b.Fits := by
  cases worked with
  | rooms rooms _ _ _ _ _ => exact fits.of_rooms rooms
  | buried victim s pkt _ _ result =>
      rw [result]
      apply fits.of_load
      · exact fun r' => (Routing.sameRoom_erasePlayer w.routing r r' victim).fieldId
      · exact fun r' _ => Routing.load_erasePlayer w.routing r r' victim
  | left s id _ _ result =>
      rw [result]
      apply fits.of_load
      · exact fun r' => (Routing.sameRoom_leave w.routing r r' id).fieldId
      · exact fun r' _ => Routing.load_leave w.routing r r' id
  | moved dest s requester changes result =>
      obtain ⟨key, static⟩ := changesChannel_static w job dest (s, requester) changes
      apply fits.of_load
      · exact fun r' => (moves_sameRoom result r').fieldId
      · intro r' dungeon
        have bound := Routing.load_moves result r'
        have apart : r' ≠ dest := by
          intro same
          rw [same, housed.statics key dest static] at dungeon
          cases dungeon
        rwa [if_neg apart] at bound
  | opened s requester _ result =>
      apply fits.opened r _ _ result
      exact Routing.Fits.goAlong_length w.routing r s requester wellFormed

theorem ran_fits (w : World) (rand : List Nat) (r : RoomRef) (job : Job) (rest : List Job)
    (inRange : w.routing.InRange) (housed : w.routing.Housed)
    (wellFormed : w.routing.parties.WellFormed) (fits : w.routing.Fits)
    (front : w.routing.nextJob = some (r, job, rest)) :
    (runJob data (w.forJob r rest rand) r job).routing.Fits := by
  obtain ⟨ranged, known⟩ := forJob_room w inRange r job rest rand front
  have popped (r' : RoomRef) := Routing.load_popJob w.routing r r' job rest front
  have identity (r' : RoomRef) := (Routing.popJob_identity w.routing r r' rest).1
  have before : (w.routing.popJob r rest).Fits := by
    apply fits.of_load identity
    intro r' _
    rw [popped r']
    exact Nat.le_add_right _ _
  by_cases stays : job.entering = none
  · exact worked_fits (w.forJob r rest rand) r job _ (housed.popJob r job rest front) wellFormed
      before (runJob_worked data _ r job ranged known stays)
  · cases job with
    | enterRoom s id =>
        -- the job that was counted becomes the player
        rw [runJob, enterRoom_routing]
        apply fits.of_load
        · intro r'
          rw [(Routing.sameRoom_addPlayer _ r r' id).fieldId]
          exact identity r'
        · intro r' _
          have bound : ((w.forJob r rest rand).routing.bind r s id).load r' =
              (w.routing.popJob r rest).load r' := Routing.load_of_rooms rfl r'
          have added := Routing.load_addPlayer ((w.forJob r rest rand).routing.bind r s id) r r' id
          have entering : (Job.enterRoom s id).entering.isSome := rfl
          rw [popped r']
          simpa [entering, bound] using added
    | _ => exact absurd rfl stays

theorem step_fits (w next : World) (e : Event) (inRange : w.routing.InRange)
    (housed : w.routing.Housed) (wellFormed : w.routing.parties.WellFormed)
    (fits : w.routing.Fits) (stepped : w.step data e = some next) : next.routing.Fits := by
  cases step_turned data w next e stepped with
  | quiet e _ _ rooms _ _ => exact fits.of_rooms rooms
  | pushed s pkt r job sends _ result =>
      rw [result]
      apply fits.pushJob r job
      intro entering
      exact absurd (job_stays s pkt job sends) entering
  | login s username r id town rooms _ _ =>
      obtain ⟨found, there, same⟩ := Option.map_eq_some_iff.mp town
      have static := List.mem_of_find?_eq_some there
      have pushed := fits.pushJob r (.enterRoom s id) fun _ =>
        housed.statics found.1 r (same ▸ static)
      exact pushed.of_rooms rooms
  | left s r _ rooms _ _ =>
      have pushed := fits.pushJob r (.leaveRoom s) fun entering => absurd rfl entering
      exact pushed.of_rooms rooms
  | ran rand r job rest front result =>
      rw [result]
      exact ran_fits data w rand r job rest inRange housed wellFormed fits front
  | update _ result =>
      rw [result]
      exact fits.of_rooms rfl
  | visitStatic pass r statics _ _ _ result =>
      rw [result]
      exact fits.startVisit _ r
  | loopDungeons pass _ _ _ _ result =>
      rw [result]
      exact fits.of_rooms rfl
  | visitDungeon pass r instanceId _ _ _ _ _ result =>
      rw [result]
      exact fits.startVisit _ r
  | goOn e _ _ pass visit current _ _ _ _ result =>
      rw [result]
      exact fits.of_rooms rfl
  | endUpdate pass dungeonsFrom _ _ _ _ result =>
      rw [result]
      exact fits.of_rooms rfl

structure World.Spacious (w : World) : Prop extends w.Governed where
  fits : w.routing.Fits

theorem step_spacious (w next : World) (e : Event) (spacious : w.Spacious)
    (stepped : w.step data e = some next) : next.Spacious where
  toGoverned := step_governed data w next e spacious.toGoverned stepped
  fits := step_fits data w next e spacious.inRange spacious.housed spacious.parties spacious.fits
    stepped

theorem init_spacious (store : Store) (redisConnected : Bool) (rand : List Nat) :
    (World.init data store redisConnected rand).Spacious := by
  have blank := init_blank data store redisConnected rand
  refine ⟨init_governed data store redisConnected rand, fun r _ => ?_⟩
  rw [Routing.load, blank.players r, blank.queue r]
  exact Nat.zero_le _

/-- `MaxPlayers` of `dungeon_forest` in RoomConfig.csv -/
def dungeonForestMaxPlayers : Int := 4

/-- No dungeon has more players than a party, or than its row of RoomConfig.csv allows: none
of the table, and none that was taken out of it. -/
def World.WithinCapacity (w : World) : Prop :=
  ∀ r, (∃ instanceId, (instanceId, r) ∈ w.routing.dungeonInstances) ∨
      (w.routing.rooms r).fieldId = .dungeon →
    (w.routing.rooms r).players.length ≤ PartyManager.maxPartySize ∧
      ((w.routing.rooms r).players.length : Int) ≤ dungeonForestMaxPlayers

theorem World.Spacious.capacity {w : World} (spacious : w.Spacious) : w.WithinCapacity := by
  intro r instance_room
  have dungeon : (w.routing.rooms r).fieldId = .dungeon := by
    rcases instance_room with ⟨instanceId, listed⟩ | dungeon
    · exact (spacious.housed.dungeons instanceId r listed).1
    · exact dungeon
  have few : (w.routing.rooms r).players.length ≤ PartyManager.maxPartySize :=
    Nat.le_trans (Nat.le_add_right _ _) (spacious.fits r dungeon)
  exact ⟨few, Int.ofNat_le.mpr few⟩

/-- `EnterRoom` lets everybody in, however full the room is; all the same no dungeon of any
run has more players than its capacity. -/
theorem dungeon_capacity (store : Store) (redisConnected : Bool) (rand : List Nat)
    (events : List Event) :
    (∀ (w : World) (r : RoomRef) (s : SessionId) (player : ObjectId),
      player ∈ ((w.enterRoom r s player).routing.rooms r).players) ∧
    Runs.EveryState (World.step data) World.WithinCapacity
      (World.init data store redisConnected rand) events := by
  constructor
  · intro w r s player
    rw [enterRoom_routing, Routing.mem_players_addPlayer]
    exact .inr ⟨rfl, rfl⟩
  · have start := init_spacious data store redisConnected rand
    apply Runs.everyState_invariant (fun _ _ => True) World.Spacious World.WithinCapacity
      (fun w spacious => spacious.capacity) _ _ events start (Runs.eachStep_true _ events)
    intro w e next spacious _ stepped
    exact step_spacious data w next e spacious stepped

end ZeldaServer
