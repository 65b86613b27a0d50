import ZeldaServer.World.Housing
import ZeldaServer.World.Logins

/-! The end of a dungeon instance: the last player to leave asks for its removal, and the
`Update` erases it at its end. -/

namespace ZeldaServer

variable (data : GameData)

/-- An `Update` erases only instances with no player and no job left, and those it keeps
have a player, or an `EnterRoom` waiting. -/
def CleanTable (w : World) (e : Event) : Prop :=
  ∀ next, e = .endUpdate → w.step data e = some next →
    (∀ entry ∈ w.routing.dungeonInstances, entry ∉ next.routing.dungeonInstances →
      (w.routing.rooms entry.2).players = [] ∧ (w.routing.rooms entry.2).queue = []) ∧
    ∀ entry ∈ next.routing.dungeonInstances, next.routing.Occupied entry.2

def leavers (w : World) (r : RoomRef) (job : Job) : List SessionId :=
  match job with
  | .leaveRoom s => [s]
  | _ =>
      match changesChannel w job, opensDungeon w job with
      | some (_, s, _), _ => [s]
      | none, some (s, requester) => (goAlong w.routing r s requester).map (·.1)
      | none, none => []

/-- Nothing is pushed to a dungeon whose removal was asked for; a new dungeon is entered by
somebody; a sword never kills the last player of a dungeon; and when the last players leave
it, nothing was pushed since its drain began. -/
structure TendsDungeons (w : World) (e : Event) : Prop where
  pushes : ∀ s, (e = .disconnect s ∨ ∃ pkt, e = .packet s pkt ∧ pkt.job s ≠ none) →
    ∀ instanceId r, (w.routing.sessions s).gameRoom = some r →
      (instanceId, r) ∈ w.routing.dungeonInstances →
      instanceId ∉ w.routing.pendingRemoveDungeon
  opens : ∀ r job rest rand s requester, e = .job rand →
    w.routing.nextJob = some (r, job, rest) →
    opensDungeon (w.forJob r rest rand) job = some (s, requester) →
    goAlong w.routing r s requester ≠ []
  kills : ∀ r s pkt rest rand victim, e = .job rand →
    w.routing.nextJob = some (r, .attack s pkt, rest) → (w.routing.rooms r).fieldId = .dungeon →
    attackVictim (w.forJob r rest rand) r s pkt = some victim →
    ∃ id ∈ (w.routing.rooms r).players, id ≠ victim
  leaves : ∀ r job rest rand, e = .job rand → w.routing.nextJob = some (r, job, rest) →
    (w.routing.rooms r).fieldId = .dungeon → (w.routing.rooms r).players ≠ [] →
    (∀ id ∈ (w.routing.rooms r).players, ∃ s ∈ leavers (w.forJob r rest rand) r job,
      (w.routing.sessions s).player = some id) →
    (w.routing.rooms r).jobs = []

/-- Nothing is queued in an instance whose removal was asked for, and all others are
occupied. -/
structure Routing.Tended (a : Routing) : Prop where
  idle : ∀ instanceId r, (instanceId, r) ∈ a.dungeonInstances →
    instanceId ∈ a.pendingRemoveDungeon → (a.rooms r).jobs = []
  occupied : ∀ instanceId r, (instanceId, r) ∈ a.dungeonInstances →
    instanceId ∈ a.pendingRemoveDungeon ∨ a.Occupied r

namespace Routing.Tended

/-- Players leave the room `source`, those that the leaving sessions name, and the one who
empties a dungeon asks for its removal. -/
structure Leaving (a b : Routing) (source : RoomRef) (sessions : List SessionId)
    (news : RoomRef → List Job) : Prop extends Routing.Housed.Work a b source news where
  stays : ∀ r id, id ∈ (a.rooms r).players →
    (r = source → ∀ s ∈ sessions, (a.sessions s).player ≠ some id) → id ∈ (b.rooms r).players
  emptied : (a.rooms source).fieldId = .dungeon → (a.rooms source).instanceId ≠ 0 →
    (a.rooms source).players ≠ [] → (b.rooms source).players = [] →
    (a.rooms source).instanceId ∈ b.pendingRemoveDungeon
  kept : ∀ instanceId ∈ a.pendingRemoveDungeon, instanceId ∈ b.pendingRemoveDungeon

theorem leaving_leave (a : Routing) (r : RoomRef) (s : SessionId) (id : ObjectId)
    (named : (a.sessions s).player = some id) : Leaving a (a.leave r id) r [s] fun _ => [] where
  toWork := Routing.Housed.work_leave a r id
  stays := by
    intro r' other standing stays
    rw [players_leave]
    split
    case isTrue same =>
      apply List.mem_filter.mpr
      refine ⟨standing, decide_eq_true ?_⟩
      intro same
      subst same
      exact stays same s (List.mem_singleton.mpr rfl) named
    case isFalse => exact standing
  emptied := by
    intro dungeon nonzero _ empty
    exact (leave_pending a r id _).mpr (.inr ⟨rfl, dungeon, empty, nonzero⟩)
  kept := fun instanceId requested => (leave_pending a r id instanceId).mpr (.inl requested)

theorem leaving_moves {source dest : RoomRef} {moves : List (SessionId × ObjectId)}
    {a b : Routing} (moved : Routing.Moves source dest moves a b)
    (work : Routing.Housed.Work a b source fun r => if r = dest then enterJobs moves else []) :
    Leaving a b source (moves.map (·.1)) fun r => if r = dest then enterJobs moves else [] where
  toWork := work
  stays := by
    intro r id standing stays
    apply (moves_players moved r id).mpr
    refine ⟨standing, fun same move member => ?_⟩
    exact stays same move.1 (List.mem_map_of_mem member)
  emptied := moves_emptied moved
  kept := moves_pending_mono moved

theorem leaving {a b : Routing} (housed : a.Housed) (housed' : b.Housed) (source : RoomRef)
    (sessions : List SessionId) (news : RoomRef → List Job) (known : a.Registered source)
    (calm : (a.rooms source).fieldId = .dungeon → ∀ job ∈ (a.rooms source).queue,
      job.entering = none)
    (leaving : Leaving a b source sessions news)
    (idle : ∀ instanceId r, (instanceId, r) ∈ a.dungeonInstances →
      instanceId ∈ a.pendingRemoveDungeon → (a.rooms r).jobs = [])
    (occupied : ∀ instanceId r, (instanceId, r) ∈ a.dungeonInstances →
      instanceId ∈ a.pendingRemoveDungeon ∨ a.Occupied r ∨ news r ≠ [])
    (last : (a.rooms source).fieldId = .dungeon → (a.rooms source).players ≠ [] →
      (∀ id ∈ (a.rooms source).players, ∃ s ∈ sessions, (a.sessions s).player = some id) →
      (a.rooms source).jobs = []) : b.Tended := by
  have arriving (r : RoomRef) (new : news r ≠ []) : b.Occupied r := by
    obtain ⟨job, member⟩ := List.exists_mem_of_ne_nil _ new
    refine .inr ⟨job, ?_, leaving.entering r job member⟩
    rw [leaving.toWork.queue]
    exact List.mem_append_right _ member
  -- an instance without players, and without anybody to enter it, was to be removed already
  have deserted (dungeon : (a.rooms source).fieldId = .dungeon)
      (empty : (a.rooms source).players = []) (still : news source = []) :
      (a.rooms source).instanceId ∈ a.pendingRemoveDungeon := by
    rcases occupied _ source (housed.entry source known dungeon) with requested | present | new
    · exact requested
    · rcases present with ⟨id, standing⟩ | ⟨job, waiting, entering⟩
      · rw [empty] at standing
        cases standing
      · exact absurd (calm dungeon job waiting) entering
    · exact absurd still new
  constructor
  · intro instanceId r listed requested
    have listed' := listed
    rw [leaving.tables.dungeons] at listed
    have still : news r = [] := by
      by_contra new
      exact housed'.vacated instanceId r listed' requested (arriving r new)
    rw [leaving.jobs, still, List.append_nil]
    rcases leaving.pending instanceId requested with before | ⟨same, dungeon, empty⟩
    · exact idle instanceId r listed before
    · rw [same] at listed
      have here := housed.unique source r known dungeon listed
      subst here
      by_cases gone : (a.rooms r).players = []
      · exact idle _ r listed (deserted dungeon gone still)
      · apply last dungeon gone
        intro id standing
        by_contra stays
        push Not at stays
        have remains := leaving.stays r id standing fun _ s member => stays s member
        rw [empty] at remains
        cases remains
  · intro instanceId r listed
    rw [leaving.tables.dungeons] at listed
    rcases occupied instanceId r listed with requested | present | new
    · exact .inl (leaving.kept instanceId requested)
    · rcases present with ⟨id, standing⟩ | ⟨job, waiting, entering⟩
      · by_cases here : r = source
        · subst here
          obtain ⟨dungeon, named, positive, -⟩ := housed.dungeons instanceId r listed
          by_cases empty : (b.rooms r).players = []
          · left
            rw [← named]
            apply leaving.emptied dungeon _ (List.ne_nil_of_mem standing) empty
            rw [named]
            exact Nat.ne_of_gt positive
          · obtain ⟨other, remains⟩ := List.exists_mem_of_ne_nil _ empty
            exact .inr (.inl ⟨other, remains⟩)
        · right
          left
          exact ⟨id, leaving.stays r id standing fun same => absurd same here⟩
      · right
        right
        refine ⟨job, ?_, entering⟩
        rw [leaving.toWork.queue]
        exact List.mem_append_left _ waiting
    · exact .inr (arriving r new)

theorem of_same {a b : Routing} (tended : a.Tended) (rooms : b.rooms = a.rooms)
    (dungeons : b.dungeonInstances = a.dungeonInstances)
    (pending : b.pendingRemoveDungeon = a.pendingRemoveDungeon) : b.Tended where
  idle := by
    rw [dungeons, pending, rooms]
    exact tended.idle
  occupied := by
    intro instanceId r listed
    rw [dungeons] at listed
    rw [pending, Occupied, rooms]
    exact tended.occupied instanceId r listed

theorem pushJob {a : Routing} (tended : a.Tended) (r : RoomRef) (job : Job)
    (kept : ∀ instanceId, (instanceId, r) ∈ a.dungeonInstances →
      instanceId ∉ a.pendingRemoveDungeon) : (a.pushJob r job).Tended where
  idle := by
    intro instanceId r' listed requested
    rw [jobs_pushJob]
    split
    case isTrue same => exact absurd requested (kept instanceId (same ▸ listed))
    case isFalse => exact tended.idle instanceId r' listed requested
  occupied := by
    intro instanceId r' listed
    apply (tended.occupied instanceId r' listed).imp_right
    rintro (⟨id, standing⟩ | ⟨other, waiting, entering⟩)
    · left
      rw [players_pushJob]
      exact ⟨id, standing⟩
    · right
      refine ⟨other, ?_, entering⟩
      rw [queue_pushJob]
      split
      · exact List.mem_append_left _ waiting
      · exact waiting

theorem setPass {a : Routing} (tended : a.Tended) (pass : Pass) : (a.setPass pass).Tended :=
  tended.of_same rfl rfl rfl

theorem startVisit {a : Routing} (tended : a.Tended) (pass : Pass) (r : RoomRef) :
    (a.startVisit pass r).Tended where
  idle := by
    intro instanceId r' listed requested
    rw [Routing.startVisit, Routing.setPass, rooms_setRoom]
    split
    · rfl
    · exact tended.idle instanceId r' listed requested
  occupied := by
    intro instanceId r' listed
    rw [Occupied, players_startVisit, queue_startVisit]
    exact tended.occupied instanceId r' listed

theorem popJob {a : Routing} (tended : a.Tended) (r : RoomRef) (job : Job) (rest : List Job)
    (front : a.nextJob = some (r, job, rest)) (stays : job.entering = none) :
    (a.popJob r rest).Tended where
  idle := by
    intro instanceId r' listed requested
    rw [jobs_popJob]
    exact tended.idle instanceId r' listed requested
  occupied := by
    obtain ⟨pass, -, -, batch⟩ := nextJob_some a r job rest front
    intro instanceId r' listed
    apply (tended.occupied instanceId r' listed).imp_right
    rintro (⟨id, standing⟩ | ⟨other, waiting, entering⟩)
    · left
      rw [players_popJob]
      exact ⟨id, standing⟩
    · right
      rcases mem_popJob a r r' job other rest batch waiting with ⟨same, -⟩ | still
      · exact absurd stays (same ▸ entering)
      · exact ⟨other, still, entering⟩

theorem enter {a : Routing} (tended : a.Tended) (r : RoomRef) (s : SessionId) (id : ObjectId)
    (rest : List Job) (front : a.nextJob = some (r, .enterRoom s id, rest)) :
    (a.entered r s id rest).Tended where
  idle := by
    intro instanceId r' listed requested
    have same : ((a.entered r s id rest).rooms r').jobs = (a.rooms r').jobs := by
      rw [← jobs_popJob a r r' rest, entered, Routing.addPlayer, rooms_setRoom]
      split
      case isTrue here => rw [here]; rfl
      case isFalse => rfl
    rw [same]
    exact tended.idle instanceId r' listed requested
  occupied := by
    obtain ⟨pass, -, -, batch⟩ := nextJob_some a r _ rest front
    intro instanceId r' listed
    apply (tended.occupied instanceId r' listed).imp_right
    rintro (⟨other, standing⟩ | ⟨other, waiting, entering⟩)
    · left
      refine ⟨other, ?_⟩
      rw [entered_players]
      exact .inl standing
    · rcases mem_popJob a r r' _ other rest batch waiting with ⟨-, here⟩ | still
      · left
        refine ⟨id, ?_⟩
        rw [entered_players]
        exact .inr ⟨here, rfl⟩
      · right
        refine ⟨other, ?_, entering⟩
        rw [entered_queue]
        exact still

theorem erasePlayer {a : Routing} (tended : a.Tended) (housed : a.Housed) (r : RoomRef)
    (victim : ObjectId) (survives : (a.rooms r).fieldId = .dungeon →
      ∃ id ∈ (a.rooms r).players, id ≠ victim) : (a.erasePlayer r victim).Tended where
  idle := by
    intro instanceId r' listed requested
    rw [jobs_erasePlayer]
    exact tended.idle instanceId r' listed requested
  occupied := by
    intro instanceId r' listed
    apply (tended.occupied instanceId r' listed).imp_right
    rintro (⟨id, standing⟩ | ⟨other, waiting, entering⟩)
    · left
      rw [players_erasePlayer]
      split
      case isTrue here =>
        subst here
        obtain ⟨survivor, there, apart⟩ := survives (housed.dungeons instanceId r' listed).1
        exact ⟨survivor, List.mem_filter.mpr ⟨there, decide_eq_true apart⟩⟩
      case isFalse => exact ⟨id, standing⟩
    · right
      rw [queue_erasePlayer]
      exact ⟨other, waiting, entering⟩

theorem removeDungeons {a : Routing} (tended : a.Tended) : a.removeDungeons.Tended where
  idle := by
    intro instanceId r _ requested
    cases requested
  occupied := by
    intro instanceId r listed
    obtain ⟨before, kept⟩ := List.mem_filter.mp listed
    rcases tended.occupied instanceId r before with requested | present
    · exact absurd requested (of_decide_eq_true kept)
    · exact .inr present

end Routing.Tended

/-- What an `Update` does to tended instances. -/
structure World.Tended (w : World) : Prop where
  inRange : w.routing.InRange
  housed : w.routing.Housed
  tended : w.routing.Tended

theorem worked_tended (w : World) (r : RoomRef) (job : Job) (b : Routing)
    (tended : w.Tended) (known : w.routing.Registered r)
    (calm : (w.routing.rooms r).fieldId = .dungeon → ∀ other ∈ (w.routing.rooms r).queue,
      other.entering = none)
    (opens : ∀ s requester, opensDungeon w job = some (s, requester) →
      goAlong w.routing r s requester ≠ [])
    (kills : ∀ s pkt victim, job = .attack s pkt → (w.routing.rooms r).fieldId = .dungeon →
      attackVictim w r s pkt = some victim → ∃ id ∈ (w.routing.rooms r).players, id ≠ victim)
    (leaves : (w.routing.rooms r).fieldId = .dungeon → (w.routing.rooms r).players ≠ [] →
      (∀ id ∈ (w.routing.rooms r).players, ∃ s ∈ leavers w r job,
        (w.routing.sessions s).player = some id) → (w.routing.rooms r).jobs = [])
    (worked : w.Worked r job b) : b.Tended := by
  have housed' := Routing.Housed.worked w r job b tended.housed tended.inRange known calm worked
  have old := tended.tended.occupied
  cases worked with
  | rooms rooms tables pending => exact tended.tended.of_same rooms tables.dungeons pending
  | buried victim s pkt attack killed result =>
      rw [result]
      exact tended.tended.erasePlayer tended.housed r victim fun dungeon =>
        kills s pkt victim attack dungeon killed
  | left s id leaving locked result =>
      subst leaving
      rw [result] at housed' ⊢
      have named := (lockPlayer_some _ _ _ _ _ locked).1
      exact Routing.Tended.leaving tended.housed housed' r [s] _ known calm
        (Routing.Tended.leaving_leave w.routing r s id named) tended.tended.idle
        (fun instanceId r' listed => (old instanceId r' listed).imp_right .inl) leaves
  | moved dest s requester changes result =>
      obtain ⟨key, static⟩ := changesChannel_static w job dest (s, requester) changes
      have work := Routing.Housed.work_moves result (.inl ⟨key, static⟩) fun dungeon => by
        rw [tended.housed.statics key dest static] at dungeon
        cases dungeon
      have going : leavers w r job = [s] := by
        cases job with
        | changeMap s' pkt => simp only [leavers, changes]
        | _ => cases changes
      rw [going] at leaves
      exact Routing.Tended.leaving tended.housed housed' r [s] _ known calm
        (Routing.Tended.leaving_moves result work) tended.tended.idle
        (fun instanceId r' listed => (old instanceId r' listed).imp_right .inl) leaves
  | opened s requester opened result =>
      have rooms := Routing.Housed.rooms_openDungeon w.routing
      have made := tended.inRange.registered r known
      have same : w.routing.openDungeon.rooms r = w.routing.rooms r := by
        rw [rooms, if_neg (Nat.ne_of_lt made)]
      have known' := (Routing.Keeps.openDungeon w.routing).registered r known
      have work := tended.housed.work_opened tended.inRange r _ known result
      have going : leavers w r job = (goAlong w.routing r s requester).map (·.1) := by
        cases job with
        | changeMap s' pkt =>
            cases changes : changesChannel w (.changeMap s' pkt) with
            | none => simp only [leavers, changes, opened]
            | some found =>
                rw [changesChannel_unopened w _ found.1 found.2 changes] at opened
                cases opened
        | _ => cases opened
      rw [going] at leaves
      apply Routing.Tended.leaving (tended.housed.openDungeon tended.inRange) housed' r _ _ known'
        (same ▸ calm) (Routing.Tended.leaving_moves result work) _ _ (same ▸ leaves)
      · intro instanceId r' listed requested
        rw [rooms]
        split
        case isTrue => rfl
        case isFalse apart =>
          rcases List.mem_append.mp listed with before | new
          · exact tended.tended.idle instanceId r' before requested
          · rw [List.mem_singleton, Prod.mk.injEq] at new
            exact absurd new.2 apart
      · intro instanceId r' listed
        rcases List.mem_append.mp listed with before | new
        · have apart : r' ≠ w.routing.roomCount :=
            Nat.ne_of_lt (tended.inRange.registered r' (.inr ⟨instanceId, before⟩))
          rw [Routing.Occupied, rooms, if_neg apart]
          exact (old instanceId r' before).imp_right .inl
        · rw [List.mem_singleton, Prod.mk.injEq] at new
          right
          right
          rw [if_pos new.2]
          exact List.map_eq_nil_iff.not.mpr (opens s requester opened)

theorem ran_tended (w : World) (rand : List Nat) (r : RoomRef) (job : Job) (rest : List Job)
    (tended : w.Tended) (front : w.routing.nextJob = some (r, job, rest))
    (tends : TendsDungeons w (.job rand)) :
    (runJob data (w.forJob r rest rand) r job).routing.Tended := by
  obtain ⟨ranged, known⟩ := forJob_room w tended.inRange r job rest rand front
  have players : ((w.forJob r rest rand).routing.rooms r).players = (w.routing.rooms r).players :=
    Routing.players_popJob w.routing r r rest
  have jobs : ((w.forJob r rest rand).routing.rooms r).jobs = (w.routing.rooms r).jobs :=
    Routing.jobs_popJob w.routing r r rest
  have field : ((w.forJob r rest rand).routing.rooms r).fieldId = (w.routing.rooms r).fieldId :=
    (Routing.popJob_identity w.routing r r rest).1
  have along (s : SessionId) (requester : ObjectId) :
      goAlong (w.forJob r rest rand).routing r s requester = goAlong w.routing r s requester := by
    have ids : playerIds (w.forJob r rest rand).routing r = playerIds w.routing r := players
    unfold goAlong partyToMove
    rw [ids]
    rfl
  by_cases stays : job.entering = none
  · have popped : (w.forJob r rest rand).Tended :=
      ⟨ranged, tended.housed.popJob r job rest front,
        tended.tended.popJob r job rest front stays⟩
    apply worked_tended _ r job _ popped known _ _ _ _
      (runJob_worked data _ r job ranged known stays)
    · intro dungeon
      exact tended.housed.calm r job rest front stays (field ▸ dungeon)
    · intro s requester opened
      rw [along]
      exact tends.opens r job rest rand s requester rfl front opened
    · intro s pkt victim attack dungeon killed
      subst attack
      rw [players]
      exact tends.kills r s pkt rest rand victim rfl front (field ▸ dungeon) killed
    · rw [field, players, jobs]
      exact tends.leaves r job rest rand rfl front
  · cases job with
    | enterRoom s id =>
        rw [runJob, enter_routing]
        exact tended.tended.enter r s id rest front
    | _ => exact absurd rfl stays

theorem step_tended (w next : World) (e : Event) (tended : w.Tended) (tends : TendsDungeons w e)
    (stepped : w.step data e = some next) : next.Tended := by
  refine ⟨step_inRange data w next e tended.inRange stepped,
    step_housed data w next e tended.inRange tended.housed stepped, ?_⟩
  have kept := tended.tended
  cases step_turned data w next e stepped with
  | quiet e jobless ongoing rooms tables pending => exact kept.of_same rooms tables.dungeons pending
  | pushed s pkt r job sends bound result =>
      rw [result]
      apply kept.pushJob r job
      intro instanceId listed
      have sent : pkt.job s ≠ none := by
        rw [sends]
        exact Option.some_ne_none job
      exact tends.pushes s (.inr ⟨pkt, rfl, sent⟩) instanceId r bound listed
  | login s username r id town rooms tables pending =>
      obtain ⟨found, there, same⟩ := Option.map_eq_some_iff.mp town
      have static := List.mem_of_find?_eq_some there
      have field := tended.housed.statics found.1 r (same ▸ static)
      have pushed := kept.pushJob r (.enterRoom s id) fun instanceId listed =>
        absurd listed (tended.housed.town_unlisted r field instanceId)
      exact pushed.of_same rooms tables.dungeons pending
  | left s r bound rooms tables pending =>
      have pushed := kept.pushJob r (.leaveRoom s) fun instanceId listed =>
        tends.pushes s (.inl rfl) instanceId r bound listed
      exact pushed.of_same rooms tables.dungeons pending
  | ran rand r job rest front result =>
      rw [result]
      exact ran_tended data w rand r job rest tended front tends
  | update idle result =>
      rw [result]
      exact kept.setPass _
  | visitStatic pass r statics _ _ _ result =>
      rw [result]
      exact kept.startVisit _ r
  | loopDungeons pass _ _ _ _ result =>
      rw [result]
      exact kept.setPass _
  | visitDungeon pass r instanceId _ _ _ _ _ result =>
      rw [result]
      exact kept.startVisit _ r
  | goOn e jobless ongoing pass visit current _ _ _ _ result =>
      rw [result]
      exact kept.setPass _
  | endUpdate pass dungeonsFrom _ _ _ _ result =>
      rw [result]
      exact kept.removeDungeons

theorem tended_clean (w : World) (e : Event) (tended : w.Tended) : CleanTable data w e := by
  intro next last stepped
  subst last
  cases step_turned data w next .endUpdate stepped with
  | quiet e jobless ongoing => exact absurd rfl ongoing
  | goOn e jobless ongoing => exact absurd rfl ongoing
  | endUpdate pass dungeonsFrom under_way idle loop complete result =>
      rw [result]
      constructor
      · intro entry listed erased
        have requested : entry.1 ∈ w.routing.pendingRemoveDungeon := by
          by_contra kept
          exact erased (List.mem_filter.mpr ⟨listed, decide_eq_true kept⟩)
        have vacated := tended.housed.vacated entry.1 entry.2 listed requested
        constructor
        · apply List.eq_nil_iff_forall_not_mem.mpr
          exact fun id standing => vacated (.inl ⟨id, standing⟩)
        · rw [Room.queue, tended.housed.drained pass under_way idle,
            tended.tended.idle entry.1 entry.2 listed requested]
          rfl
      · intro entry remains
        rcases tended.tended.removeDungeons.occupied entry.1 entry.2 remains with requested | present
        · cases requested
        · exact present

/-- In a run whose steps all tend to the dungeons, every `Update` erases only empty
instances, and leaves none without players. -/
theorem dungeon_lifecycle (store : Store) (redisConnected : Bool) (rand : List Nat)
    (events : List Event)
    (each : Runs.EachStep (World.step data) TendsDungeons
      (World.init data store redisConnected rand) events) :
    Runs.EachStep (World.step data) (CleanTable data) (World.init data store redisConnected rand)
      events := by
  apply Runs.eachStep_mono TendsDungeons (CleanTable data) World.Tended _ _ _ events _ each
  · intro w e next tended tends stepped
    exact step_tended data w next e tended tends stepped
  · intro w e next tended _ _
    exact tended_clean data w e tended
  · refine ⟨(init_blank data store redisConnected rand).inRange,
      init_housed data store redisConnected rand, ?_⟩
    have none : (World.init data store redisConnected rand).routing.dungeonInstances = [] :=
      init_dungeons data store redisConnected rand
    constructor
    · intro instanceId r listed
      rw [none] at listed
      cases listed
    · intro instanceId r listed
      rw [none] at listed
      cases listed

def unrequested (w : World) (s : SessionId) : Bool :=
  w.routing.dungeonInstances.all fun entry =>
    (w.routing.sessions s).gameRoom ≠ some entry.2 || entry.1 ∉ w.routing.pendingRemoveDungeon

/-- What `TendsDungeons` asks of a job. -/
def jobTends (w : World) (v : World) (r : RoomRef) (job : Job) : Bool :=
  let room := w.routing.rooms r
  (opensDungeon v job).all (fun member => goAlong w.routing r member.1 member.2 ≠ []) &&
    (room.fieldId = .town ||
      ((match job with
        | .attack s pkt => (attackVictim v r s pkt).all fun victim => room.players.any (· ≠ victim)
        | _ => true) &&
        (room.players = [] || room.jobs = [] || room.players.any fun id =>
          (leavers v r job).all fun s => (w.routing.sessions s).player ≠ some id)))

/-- `TendsDungeons`, computed. -/
def tends (w : World) : Event → Bool
  | .disconnect s => unrequested w s
  | .packet s pkt => (pkt.job s).isNone || unrequested w s
  | .job rand =>
      match w.routing.nextJob with
      | none => true
      | some (r, job, rest) => jobTends w (w.forJob r rest rand) r job
  | _ => true

theorem unrequested_kept (w : World) (s : SessionId) (checked : unrequested w s = true)
    (instanceId : InstanceId) (r : RoomRef) (bound : (w.routing.sessions s).gameRoom = some r)
    (listed : (instanceId, r) ∈ w.routing.dungeonInstances) :
    instanceId ∉ w.routing.pendingRemoveDungeon := by
  have entry := List.all_eq_true.mp checked (instanceId, r) listed
  simpa [bound] using entry

theorem tends_tends (w : World) (e : Event) (checked : tends w e = true) : TendsDungeons w e := by
  constructor
  · rintro s sends instanceId r bound listed
    apply unrequested_kept w s _ instanceId r bound listed
    rcases sends with rfl | ⟨pkt, rfl, sent⟩
    · exact checked
    · simpa only [tends, Bool.or_eq_true, Option.isNone_iff_eq_none, sent, false_or] using checked
  · rintro r job rest rand s requester rfl front opened
    simp only [tends, front, jobTends, opened, Option.all_some, Bool.and_eq_true,
      decide_eq_true_eq] at checked
    exact checked.1
  · rintro r s pkt rest rand victim rfl front dungeon killed
    simp only [tends, front, jobTends, killed, Option.all_some, Bool.and_eq_true, Bool.or_eq_true,
      decide_eq_true_eq, dungeon, reduceCtorEq, false_or, List.any_eq_true] at checked
    exact checked.2.1
  · rintro r job rest rand rfl front dungeon present leaving
    simp only [tends, front, jobTends, Bool.and_eq_true, Bool.or_eq_true, decide_eq_true_eq,
      dungeon, reduceCtorEq, false_or, present, List.any_eq_true, List.all_eq_true] at checked
    rcases checked.2.2 with nothing | ⟨id, standing, stays⟩
    · exact nothing
    · obtain ⟨s, leaves, named⟩ := leaving id standing
      exact absurd named (stays s leaves)

/-- In and out of a dungeon. -/
def dungeonVisit : List Event :=
  intoDungeon ++ [Event.packet 1 (.changeMap ⟨MapId.town, 1⟩), .update] ++
    visit .visitStatic 0 ++ visit .visitStatic 0 ++ [Event.loopDungeons] ++
    visit (.visitDungeon 1) 1 ++ [Event.endUpdate]

set_option maxRecDepth 20000 in
theorem dungeon_visit_clean :
    (reached smallGame newStore false [] dungeonVisit).any (fun w =>
        w.routing.dungeonInstances = [] ∧ w.routing.instanceIdGen = 2) = true ∧
      Runs.EachStep (World.step smallGame) (CleanTable smallGame)
        (World.init smallGame newStore false []) dungeonVisit := by
  have erased : (reached smallGame newStore false [] dungeonVisit).any (fun w =>
      w.routing.dungeonInstances = [] ∧ w.routing.instanceIdGen = 2) = true := by decide +kernel
  refine ⟨erased, ?_⟩
  apply dungeon_lifecycle
  exact Runs.eachStep_of_check tends _ tends_tends _ _ (by decide +kernel)

/-- A leader of two goes into a dungeon twice; the second time nobody of the party is in the
town any more. -/
def leaderGoesTwice : List Event :=
  [Event.connect 1, .connect 2, .packet 1 (.login [97]), .packet 2 (.login [98])] ++ updateTown 2 ++
    [Event.packet 2 (.partyAnswer 1 true), toDungeon, toDungeon, .update] ++ visit .visitStatic 3 ++
    visit .visitStatic 0 ++ [Event.loopDungeons] ++ visit (.visitDungeon 1) 2 ++
    visit (.visitDungeon 2) 0

set_option maxRecDepth 20000 in
/-- The second dungeon stays, empty. -/
theorem second_dungeon_leaks :
    ¬ Runs.EachStep (World.step smallGame) (CleanTable smallGame)
      (World.init smallGame newStore false []) (leaderGoesTwice ++ [.endUpdate]) := by
  have run : (reached smallGame newStore false [] leaderGoesTwice).any (fun w =>
      (w.step smallGame .endUpdate).any fun next =>
        next.routing.dungeonInstances = [(1, 2), (2, 3)] ∧ (next.routing.rooms 3).players = [] ∧
          (next.routing.rooms 3).queue = []) = true := by decide +kernel
  obtain ⟨w, ended, checked⟩ := Option.any_eq_true _ _ |>.mp run
  obtain ⟨next, stepped, left⟩ := Option.any_eq_true _ _ |>.mp checked
  obtain ⟨table, nobody, nothing⟩ := of_decide_eq_true left
  intro each
  have last := Runs.eachStep_append (CleanTable smallGame) _ w leaderGoesTwice [.endUpdate] ended each
  have clean := ((last next stepped).1 next rfl stepped).2 (2, 3) (by simp [table])
  rcases clean with ⟨id, standing⟩ | ⟨job, waiting, -⟩
  · rw [nobody] at standing
    cases standing
  · rw [nothing] at waiting
    cases waiting

end ZeldaServer
