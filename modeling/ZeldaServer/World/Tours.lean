import ZeldaServer.Lib.Rounds
import ZeldaServer.World.Housing

/-! The rounds of `Update`: which rooms a call visits, and that it visits every room of the
tables exactly once, but for the dungeons created meanwhile. -/

namespace ZeldaServer

open Rounds (Tour)

variable (data : GameData)

/-- The room that `Update` works on. -/
def Routing.visiting (a : Routing) : Option RoomRef :=
  a.pass.bind fun pass => pass.current.map (·.room)

def beginsVisit (a b : Routing) : Option RoomRef :=
  if a.visiting = none then b.visiting else none

/-- The job that an event runs. -/
def World.runs (w : World) : Event → Option Job
  | .job _ => w.routing.nextJob.map fun front => front.2.1
  | _ => none

/-- The rounds after a step: `Update` comes to a room, or it ends. -/
def goRound (a b : Routing) (tour : Tour RoomRef) : Tour RoomRef :=
  match beginsVisit a b with
  | some r => tour.visit r
  | none => if a.pass ≠ none ∧ b.pass = none then tour.finish else tour

/-- What the rounds so far say about a call of `Update` under way. -/
structure Routing.Midway (a : Routing) (pass : Pass) (tour : Tour RoomRef) : Prop where
  current : ∀ visit, pass.current = some visit → ∃ before, tour.round = before ++ [visit.room]
  distinct : pass.statics.Nodup
  ahead : ∀ r ∈ pass.statics, r ∉ tour.round
  static : ∀ r ∈ pass.statics, ∃ key, (key, r) ∈ a.staticRooms
  complete : ∀ key r, (key, r) ∈ a.staticRooms → r ∈ pass.statics ∨ r ∈ tour.round
  loop : pass.dungeonsFrom ≠ none → pass.statics = []
  known : ∀ r ∈ tour.round, (∃ key, (key, r) ∈ a.staticRooms) ∨
    ∃ instanceId ∈ pass.visited, (instanceId, r) ∈ a.dungeonInstances
  visited : ∀ instanceId r, instanceId ∈ pass.visited → (instanceId, r) ∈ a.dungeonInstances →
    r ∈ tour.round
  numbered : ∀ instanceId ∈ pass.visited, instanceId < a.instanceIdGen
  young : ∀ dungeonsFrom instanceId r, pass.dungeonsFrom = some dungeonsFrom →
    (instanceId, r) ∈ a.dungeonInstances → dungeonsFrom ≤ instanceId →
    ∀ round ∈ tour.past, r ∉ round

structure Routing.Toured (a : Routing) (tour : Tour RoomRef) : Prop where
  distinct : (a.staticRooms.map (·.2)).Nodup
  made : ∀ r, tour.Visited r → r < a.roomCount
  resting : a.pass = none → tour.round = []
  midway : ∀ pass, a.pass = some pass → a.Midway pass tour

namespace Routing.Toured

variable {a b : Routing} {tour : Tour RoomRef}

theorem of_same (toured : a.Toured tour) (tables : a.SameTables b) : b.Toured tour where
  distinct := by
    rw [tables.statics]
    exact toured.distinct
  made := by
    rw [tables.roomCount]
    exact toured.made
  resting := by
    rw [tables.pass]
    exact toured.resting
  midway := by
    intro pass under_way
    rw [tables.pass] at under_way
    have midway := toured.midway pass under_way
    constructor
    · exact midway.current
    · exact midway.distinct
    · exact midway.ahead
    · rw [tables.statics]
      exact midway.static
    · rw [tables.statics]
      exact midway.complete
    · exact midway.loop
    · rw [tables.statics, tables.dungeons]
      exact midway.known
    · rw [tables.dungeons]
      exact midway.visited
    · rw [tables.instanceIdGen]
      exact midway.numbered
    · rw [tables.dungeons]
      exact midway.young

theorem openDungeon (toured : a.Toured tour) : a.openDungeon.Toured tour where
  distinct := toured.distinct
  made := fun r seen => Nat.lt_succ_of_lt (toured.made r seen)
  resting := toured.resting
  midway := by
    intro pass under_way
    have midway := toured.midway pass under_way
    have unmade (round : List RoomRef) (member : round ∈ tour.rounds) : a.roomCount ∉ round := by
      intro seen
      exact Nat.lt_irrefl _ (toured.made a.roomCount ⟨round, member, seen⟩)
    have listed (entry : InstanceId × RoomRef) (member : entry ∈ a.openDungeon.dungeonInstances) :
        entry ∈ a.dungeonInstances ∨ entry = (a.instanceIdGen, a.roomCount) := by
      rcases List.mem_append.mp member with old | new
      · exact .inl old
      · exact .inr (List.mem_singleton.mp new)
    constructor
    · exact midway.current
    · exact midway.distinct
    · exact midway.ahead
    · exact midway.static
    · exact midway.complete
    · exact midway.loop
    · intro r seen
      rcases midway.known r seen with static | ⟨instanceId, visited, member⟩
      · exact .inl static
      · exact .inr ⟨instanceId, visited, List.mem_append_left _ member⟩
    · intro instanceId r visited member
      rcases listed _ member with old | new
      · exact midway.visited instanceId r visited old
      · cases new
        exact absurd (midway.numbered _ visited) (Nat.lt_irrefl _)
    · exact fun instanceId visited => Nat.lt_succ_of_lt (midway.numbered instanceId visited)
    · intro dungeonsFrom instanceId r start member later round past
      rcases listed _ member with old | new
      · exact midway.young dungeonsFrom instanceId r start old later round past
      · cases new
        exact unmade round (List.mem_cons_of_mem _ past)

theorem update (toured : a.Toured tour) (idle : a.pass = none) (now : Nat) :
    (a.setPass ⟨now, a.staticRooms.map (·.2), none, [], none⟩).Toured tour where
  distinct := toured.distinct
  made := toured.made
  resting := fun none => by cases none
  midway := by
    have empty := toured.resting idle
    intro pass under_way
    cases under_way
    constructor
    · intro visit current
      cases current
    · exact toured.distinct
    · intro r _ seen
      rw [empty] at seen
      cases seen
    · intro r member
      obtain ⟨entry, listed, rfl⟩ := List.mem_map.mp member
      exact ⟨entry.1, listed⟩
    · intro key r static
      exact .inl (List.mem_map_of_mem static)
    · intro started
      exact absurd rfl started
    · intro r seen
      rw [empty] at seen
      cases seen
    · intro instanceId r visited
      cases visited
    · intro instanceId visited
      cases visited
    · intro dungeonsFrom instanceId r start
      cases start

theorem loopDungeons (toured : a.Toured tour) (housed : a.Housed) (pass : Pass)
    (under_way : a.pass = some pass) (left : pass.statics = []) :
    (a.setPass { pass with dungeonsFrom := some a.instanceIdGen }).Toured tour where
  distinct := toured.distinct
  made := toured.made
  resting := fun none => by cases none
  midway := by
    have midway := toured.midway pass under_way
    intro pass' under_way'
    cases under_way'
    constructor
    · exact midway.current
    · exact midway.distinct
    · exact midway.ahead
    · exact midway.static
    · exact midway.complete
    · exact fun _ => left
    · exact midway.known
    · exact midway.visited
    · exact midway.numbered
    · intro dungeonsFrom instanceId r start listed later
      cases start
      have older := (housed.dungeons instanceId r listed).2.2.2
      exact absurd later (Nat.not_le.mpr older)

theorem goOn (toured : a.Toured tour) (pass : Pass) (visit : Visit) (current : Option Visit)
    (under_way : a.pass = some pass) (visiting : pass.current = some visit)
    (goes : current = none ∨ ∃ steps, current = some ⟨visit.room, some steps⟩) :
    (a.setPass { pass with current }).Toured tour where
  distinct := toured.distinct
  made := toured.made
  resting := fun none => by cases none
  midway := by
    have midway := toured.midway pass under_way
    intro pass' under_way'
    cases under_way'
    constructor
    · intro visit' same
      rcases goes with gone | ⟨steps, stays⟩
      · rw [gone] at same
        cases same
      · rw [stays] at same
        cases same
        exact midway.current visit visiting
    · exact midway.distinct
    · exact midway.ahead
    · exact midway.static
    · exact midway.complete
    · exact midway.loop
    · exact midway.known
    · exact midway.visited
    · exact midway.numbered
    · exact midway.young

theorem static_ahead (toured : a.Toured tour) (pass : Pass) (r : RoomRef)
    (statics : List RoomRef) (under_way : a.pass = some pass)
    (left : pass.statics = r :: statics) : r ∉ tour.round := by
  apply (toured.midway pass under_way).ahead r
  rw [left]
  exact List.mem_cons_self

theorem visitStatic (toured : a.Toured tour) (inRange : a.InRange) (pass : Pass) (r : RoomRef)
    (statics : List RoomRef) (under_way : a.pass = some pass)
    (left : pass.statics = r :: statics) :
    (a.startVisit { pass with statics } r).Toured (tour.visit r) where
  distinct := toured.distinct
  made := by
    intro r' seen
    rcases (Tour.visited_visit tour r r').mp seen with before | rfl
    · exact toured.made r' before
    · exact inRange.registered r' (inRange.statics pass r' under_way (by simp [left]))
  resting := fun none => by cases none
  midway := by
    have midway := toured.midway pass under_way
    have distinct := List.nodup_cons.mp (left ▸ midway.distinct)
    have seen (r' : RoomRef) (before : r' ∈ tour.round) : r' ∈ (tour.visit r).round :=
      List.mem_append_left _ before
    intro pass' under_way'
    cases under_way'
    constructor
    · intro visit same
      cases same
      exact ⟨tour.round, rfl⟩
    · exact distinct.2
    · intro r' later now
      rcases List.mem_append.mp now with before | here
      · exact midway.ahead r' (by simp [left, later]) before
      · rw [List.mem_singleton.mp here] at later
        exact distinct.1 later
    · intro r' later
      exact midway.static r' (by simp [left, later])
    · intro key r' static
      rcases midway.complete key r' static with waiting | before
      · rw [left] at waiting
        rcases List.mem_cons.mp waiting with rfl | later
        · exact .inr (List.mem_append_right _ List.mem_cons_self)
        · exact .inl later
      · exact .inr (seen r' before)
    · intro started
      rw [midway.loop started] at left
      cases left
    · intro r' now
      rcases List.mem_append.mp now with before | here
      · exact midway.known r' before
      · rw [List.mem_singleton.mp here]
        exact .inl (midway.static r (by simp [left]))
    · exact fun instanceId r' visited listed => seen r' (midway.visited instanceId r' visited listed)
    · exact midway.numbered
    · exact midway.young

theorem dungeon_ahead (toured : a.Toured tour) (housed : a.Housed) (pass : Pass) (r : RoomRef)
    (instanceId : InstanceId) (under_way : a.pass = some pass)
    (unvisited : instanceId ∉ pass.visited) (listed : (instanceId, r) ∈ a.dungeonInstances) :
    r ∉ tour.round := by
  obtain ⟨dungeon, named, -⟩ := housed.dungeons instanceId r listed
  intro seen
  rcases (toured.midway pass under_way).known r seen with ⟨key, static⟩ | ⟨other, visited, listed'⟩
  · rw [housed.statics key r static] at dungeon
    cases dungeon
  · rw [← named, (housed.dungeons other r listed').2.1] at unvisited
    exact unvisited visited

theorem visitDungeon (toured : a.Toured tour) (inRange : a.InRange) (housed : a.Housed)
    (pass : Pass) (r : RoomRef) (instanceId : InstanceId) (under_way : a.pass = some pass)
    (loop : pass.dungeonsFrom ≠ none) (listed : (instanceId, r) ∈ a.dungeonInstances) :
    (a.startVisit { pass with visited := pass.visited ++ [instanceId] } r).Toured (tour.visit r)
    where
  distinct := toured.distinct
  made := by
    intro r' seen
    rcases (Tour.visited_visit tour r r').mp seen with before | rfl
    · exact toured.made r' before
    · exact inRange.registered r' (.inr ⟨instanceId, listed⟩)
  resting := fun none => by cases none
  midway := by
    have midway := toured.midway pass under_way
    have none : pass.statics = [] := midway.loop loop
    have seen (r' : RoomRef) (before : r' ∈ tour.round) : r' ∈ (tour.visit r).round :=
      List.mem_append_left _ before
    intro pass' under_way'
    cases under_way'
    constructor
    · intro visit same
      cases same
      exact ⟨tour.round, rfl⟩
    · exact midway.distinct
    · intro r' later
      dsimp only at later
      rw [none] at later
      cases later
    · exact midway.static
    · exact fun key r' static => (midway.complete key r' static).imp_right (seen r')
    · exact midway.loop
    · intro r' now
      rcases List.mem_append.mp now with before | here
      · apply (midway.known r' before).imp_right
        rintro ⟨other, visited, listed'⟩
        exact ⟨other, List.mem_append_left _ visited, listed'⟩
      · rw [List.mem_singleton.mp here]
        exact .inr ⟨instanceId, List.mem_append_right _ List.mem_cons_self, listed⟩
    · intro other r' visited listed'
      rcases List.mem_append.mp visited with before | new
      · exact seen r' (midway.visited other r' before listed')
      · rw [List.mem_singleton.mp new] at listed'
        have same := List.inj_on_of_nodup_map housed.keys listed listed' rfl
        rw [← (Prod.mk.inj same).2]
        exact List.mem_append_right _ List.mem_cons_self
    · intro other visited
      rcases List.mem_append.mp visited with before | new
      · exact midway.numbered other before
      · rw [List.mem_singleton.mp new]
        exact (housed.dungeons instanceId r listed).2.2.2
    · exact midway.young

theorem endUpdate (toured : a.Toured tour) : a.removeDungeons.Toured tour.finish where
  distinct := toured.distinct
  made := fun r seen => toured.made r ((Tour.visited_finish tour r).mp seen)
  resting := fun _ => rfl
  midway := by
    intro pass under_way
    cases under_way

theorem complete (toured : a.Toured tour) (pass : Pass) (dungeonsFrom : InstanceId)
    (under_way : a.pass = some pass) (loop : pass.dungeonsFrom = some dungeonsFrom)
    (complete : ∀ entry ∈ a.dungeonInstances, entry.1 ∈ pass.visited ∨ dungeonsFrom ≤ entry.1)
    (r : RoomRef) (known : a.Registered r) (seen : tour.Visited r) : r ∈ tour.round := by
  have midway := toured.midway pass under_way
  rcases known with ⟨key, static⟩ | ⟨instanceId, listed⟩
  · rcases midway.complete key r static with waiting | here
    · rw [midway.loop (by simp [loop])] at waiting
      cases waiting
    · exact here
  · rcases complete _ listed with visited | young
    · exact midway.visited instanceId r visited listed
    · obtain ⟨round, member, inside⟩ := seen
      rcases List.mem_cons.mp member with same | past
      · rwa [← same]
      · exact absurd inside (midway.young dungeonsFrom instanceId r loop listed young round past)

end Routing.Toured

theorem beginsVisit_same (a b : Routing) (same : b.pass = a.pass) : beginsVisit a b = none := by
  unfold beginsVisit Routing.visiting
  rw [same]
  split
  case isTrue idle => exact idle
  case isFalse => rfl

theorem goRound_same (a b : Routing) (tour : Tour RoomRef) (same : b.pass = a.pass) :
    goRound a b tour = tour := by
  have still := beginsVisit_same a b same
  have on : ¬ (a.pass ≠ none ∧ b.pass = none) := fun both => both.1 (same ▸ both.2)
  simp only [goRound, still, if_neg on]

theorem beginsVisit_startVisit (a : Routing) (pass pass' : Pass) (r : RoomRef)
    (under_way : a.pass = some pass) (idle : pass.current = none) :
    beginsVisit a (a.startVisit pass' r) = some r := by
  have resting : a.visiting = none := by simp [Routing.visiting, under_way, idle]
  rw [beginsVisit, if_pos resting]
  rfl

theorem beginsVisit_setPass (a : Routing) (pass pass' : Pass) (under_way : a.pass = some pass)
    (still : pass.current ≠ none ∨ pass'.current = none) :
    beginsVisit a (a.setPass pass') = none := by
  simp only [beginsVisit, Routing.visiting, Routing.setPass, under_way, Option.bind_some,
    Option.map_eq_none_iff]
  rcases still with busy | resting
  · exact if_neg busy
  · simp [resting]

theorem goRound_setPass (a : Routing) (pass pass' : Pass) (tour : Tour RoomRef)
    (under_way : a.pass = some pass) (still : pass.current ≠ none ∨ pass'.current = none) :
    goRound a (a.setPass pass') tour = tour := by
  have none := beginsVisit_setPass a pass pass' under_way still
  have on : ¬ (a.pass ≠ Option.none ∧ (a.setPass pass').pass = Option.none) :=
    fun both => by cases both.2
  simp only [goRound, none, if_neg on]

theorem beginsVisit_removeDungeons (a : Routing) : beginsVisit a a.removeDungeons = none := by
  unfold beginsVisit
  split <;> rfl

theorem goRound_removeDungeons (a : Routing) (pass : Pass) (tour : Tour RoomRef)
    (under_way : a.pass = some pass) : goRound a a.removeDungeons tour = tour.finish := by
  have none := beginsVisit_removeDungeons a
  have ended : a.pass ≠ Option.none ∧ a.removeDungeons.pass = Option.none := by
    simp [under_way, Routing.removeDungeons]
  simp only [goRound, none, if_pos ended]

theorem ran_sameTables (w : World) (rand : List Nat) (r : RoomRef) (job : Job) (rest : List Job)
    (inRange : w.routing.InRange) (front : w.routing.nextJob = some (r, job, rest)) :
    w.routing.SameTables (runJob data (w.forJob r rest rand) r job).routing ∨
      w.routing.openDungeon.SameTables (runJob data (w.forJob r rest rand) r job).routing := by
  obtain ⟨ranged, known⟩ := forJob_room w inRange r job rest rand front
  by_cases stays : job.entering = none
  · have popped : w.routing.SameTables (w.forJob r rest rand).routing := ⟨rfl, rfl, rfl, rfl, rfl⟩
    cases runJob_worked data _ r job ranged known stays with
    | rooms _ tables => exact .inl (popped.trans tables)
    | buried victim s pkt _ _ result =>
        left
        rw [result]
        exact ⟨rfl, rfl, rfl, rfl, rfl⟩
    | left s id _ _ result =>
        left
        rw [result]
        exact popped.trans (.leave _ r id)
    | moved dest s requester _ result => exact .inl (popped.trans (.moves result))
    | opened s requester _ result =>
        right
        have opened : w.routing.openDungeon.SameTables (w.forJob r rest rand).routing.openDungeon :=
          ⟨rfl, rfl, rfl, rfl, rfl⟩
        exact opened.trans (.moves result)
  · cases job with
    | enterRoom s id =>
        left
        rw [runJob, enterRoom_routing]
        exact ⟨rfl, rfl, rfl, rfl, rfl⟩
    | _ => exact absurd rfl stays

theorem ran_rooms (w : World) (rand : List Nat) (r : RoomRef) (job : Job) (rest : List Job)
    (inRange : w.routing.InRange) (front : w.routing.nextJob = some (r, job, rest)) :
    ∃ news : RoomRef → List Job, ∀ r',
      ((runJob data (w.forJob r rest rand) r job).routing.rooms r').jobs =
          (w.routing.rooms r').jobs ++ news r' ∧
        ((runJob data (w.forJob r rest rand) r job).routing.rooms r').batch =
          (if r' = r then rest else (w.routing.rooms r').batch) ∧
        ∀ new ∈ news r', new.entering ≠ none := by
  obtain ⟨ranged, known⟩ := forJob_room w inRange r job rest rand front
  have jobs := fun r' => Routing.jobs_popJob w.routing r r' rest
  have batch := fun r' => Routing.batch_popJob w.routing r r' rest
  have still (b : Routing) (jobs' : ∀ r', (b.rooms r').jobs =
        ((w.forJob r rest rand).routing.rooms r').jobs)
      (same : ∀ r', (w.forJob r rest rand).routing.SameRoom b r') :
      ∃ news : RoomRef → List Job, ∀ r', (b.rooms r').jobs = (w.routing.rooms r').jobs ++ news r' ∧
        (b.rooms r').batch = (if r' = r then rest else (w.routing.rooms r').batch) ∧
        ∀ new ∈ news r', new.entering ≠ none := by
    refine ⟨fun _ => [], fun r' => ⟨?_, (same r').batch.trans (batch r'), fun _ new => by cases new⟩⟩
    rw [List.append_nil, jobs']
    exact jobs r'
  have entering (dest r' : RoomRef) (moves : List (SessionId × ObjectId)) :
      ∀ new ∈ if r' = dest then enterJobs moves else [], new.entering ≠ none := by
    intro new member
    split at member
    · obtain ⟨move, -, rfl⟩ := List.mem_map.mp member
      simp [Job.entering]
    · cases member
  by_cases stays : job.entering = none
  · cases runJob_worked data _ r job ranged known stays with
    | rooms rooms =>
        apply still
        · exact fun r' => congrArg Room.jobs (congrFun rooms r')
        · exact fun r' => Routing.sameRoom_of_eq (congrFun rooms r')
    | buried victim s pkt _ _ result =>
        rw [result]
        apply still
        · exact fun r' => Routing.jobs_erasePlayer _ r r' victim
        · exact fun r' => Routing.sameRoom_erasePlayer _ r r' victim
    | left s id _ _ result =>
        rw [result]
        apply still
        · exact fun r' => Routing.jobs_leave _ r r' id
        · exact fun r' => Routing.sameRoom_leave _ r r' id
    | moved dest s requester _ result =>
        refine ⟨fun r' => if r' = dest then enterJobs [(s, requester)] else [], fun r' =>
          ⟨?_, (moves_sameRoom result r').batch.trans (batch r'), entering dest r' _⟩⟩
        rw [moves_jobs result]
        exact congrArg (· ++ _) (jobs r')
    | opened s requester _ result =>
        have fresh := inRange.unmade w.routing.roomCount (Nat.le_refl _)
        have empty := List.append_eq_nil_iff.mp fresh.2
        have opened (r' : RoomRef) :
            ((w.forJob r rest rand).routing.openDungeon.rooms r').jobs = (w.routing.rooms r').jobs ∧
              ((w.forJob r rest rand).routing.openDungeon.rooms r').batch =
                if r' = r then rest else (w.routing.rooms r').batch := by
          have here : r ≠ w.routing.roomCount :=
            Nat.ne_of_lt (inRange.registered r (nextJob_registered _ inRange r job rest front))
          rw [Routing.Housed.rooms_openDungeon]
          split
          case isTrue made =>
            have new : r' = w.routing.roomCount := made
            rw [new, if_neg here.symm, empty.1, empty.2]
            exact ⟨rfl, rfl⟩
          case isFalse => exact ⟨jobs r', batch r'⟩
        refine ⟨fun r' => if r' = w.routing.roomCount then
          enterJobs (goAlong (w.forJob r rest rand).routing r s requester) else [], fun r' =>
          ⟨?_, (moves_sameRoom result r').batch.trans (opened r').2, entering _ r' _⟩⟩
        rw [moves_jobs result]
        exact congrArg (· ++ _) (opened r').1
  · cases job with
    | enterRoom s id =>
        rw [runJob, enterRoom_routing]
        apply still
        · exact fun r' => Routing.jobs_addPlayer _ r r' id
        · intro r'
          have same := Routing.sameRoom_addPlayer ((w.forJob r rest rand).routing.bind r s id) r r' id
          exact ⟨same.fieldId, same.instanceId, same.batch⟩
    | _ => exact absurd rfl stays

theorem step_toured (w next : World) (e : Event) (tour : Tour RoomRef)
    (inRange : w.routing.InRange) (housed : w.routing.Housed) (toured : w.routing.Toured tour)
    (stepped : w.step data e = some next) :
    next.routing.Toured (goRound w.routing next.routing tour) := by
  have same (tables : w.routing.SameTables next.routing) :
      next.routing.Toured (goRound w.routing next.routing tour) := by
    rw [goRound_same _ _ tour tables.pass]
    exact toured.of_same tables
  cases step_turned data w next e stepped with
  | quiet e jobless ongoing rooms tables pending => exact same tables
  | pushed s pkt r job sends bound result =>
      apply same
      rw [result]
      exact ⟨rfl, rfl, rfl, rfl, rfl⟩
  | login s username r id town rooms tables pending => exact same tables
  | left s r bound rooms tables pending => exact same tables
  | ran rand r job rest front result =>
      rcases ran_sameTables data w rand r job rest inRange front with tables | tables
      · rw [← result] at tables
        exact same tables
      · rw [← result] at tables
        have pass : next.routing.pass = w.routing.pass := tables.pass
        rw [goRound_same _ _ tour pass]
        exact toured.openDungeon.of_same tables
  | update idle result =>
      rw [result, goRound, beginsVisit, Routing.visiting, idle]
      exact toured.update idle w.scene.now
  | visitStatic pass r statics under_way idle left result =>
      rw [result, goRound, beginsVisit_startVisit _ _ _ r under_way idle]
      exact toured.visitStatic inRange pass r statics under_way left
  | loopDungeons pass under_way idle left first result =>
      have resting : ({ pass with dungeonsFrom := some w.routing.instanceIdGen } : Pass).current =
          none := idle
      rw [result, goRound_setPass _ pass _ tour under_way (.inr resting)]
      exact toured.loopDungeons housed pass under_way left
  | visitDungeon pass r instanceId under_way idle loop unvisited listed result =>
      rw [result, goRound, beginsVisit_startVisit _ _ _ r under_way idle]
      exact toured.visitDungeon inRange housed pass r instanceId under_way loop listed
  | goOn e jobless ongoing pass visit current under_way visiting drained goes result =>
      have busy : pass.current ≠ none := by simp [visiting]
      rw [result, goRound_setPass _ pass _ tour under_way (.inl busy)]
      exact toured.goOn pass visit current under_way visiting goes
  | endUpdate pass dungeonsFrom under_way idle loop complete result =>
      rw [result, goRound_removeDungeons _ pass tour under_way]
      exact toured.endUpdate

theorem init_toured (store : Store) (redisConnected : Bool) (rand : List Nat) :
    (World.init data store redisConnected rand).routing.Toured .start := by
  have blank := init_blank data store redisConnected rand
  constructor
  · unfold World.init
    dsimp only
    split
    · have rooms : ((((World.empty data store redisConnected rand).openTown data 1 .town1).openTown
          data 2 .town2).routing.staticRooms.map (·.2)) = [0, 1] := rfl
      rw [rooms]
      decide
    · exact List.nodup_nil
  · rintro r ⟨round, member, seen⟩
    rw [List.mem_singleton.mp member] at seen
    cases seen
  · exact fun _ => rfl
  · intro pass under_way
    rw [blank.pass] at under_way
    cases under_way

end ZeldaServer
