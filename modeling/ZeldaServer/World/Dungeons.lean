import ZeldaServer.World.Turns

/-! The dungeon instances: when the table changes while `Update` goes through it. -/

namespace ZeldaServer

variable (data : GameData)

/-- `Update` is in its loop over `_dungeonInstances`. -/
def Routing.InLoop (a : Routing) : Prop := ∃ pass, a.pass = some pass ∧ pass.dungeonsFrom ≠ none

def TableStable (w : World) (e : Event) : Prop :=
  w.routing.InLoop → e ≠ .endUpdate → ∀ next, w.step data e = some next →
    next.routing.dungeonInstances = w.routing.dungeonInstances

def OpensNone (w : World) (e : Event) : Prop :=
  ∀ r job rest rand, w.routing.InLoop → e = .job rand → w.routing.nextJob = some (r, job, rest) →
    opensDungeon (w.forJob r rest rand) job = none

theorem forJob_room (w : World) (inRange : w.routing.InRange) (r : RoomRef) (job : Job)
    (rest : List Job) (rand : List Nat) (front : w.routing.nextJob = some (r, job, rest)) :
    (w.forJob r rest rand).routing.InRange ∧ (w.forJob r rest rand).routing.Registered r := by
  have popped := forJob_keeps w r job rest rand front
  exact ⟨popped.inRange inRange,
    popped.registered r (nextJob_registered _ inRange r job rest front)⟩

theorem worked_dungeons (w : World) (r : RoomRef) (job : Job) (b : Routing)
    (worked : w.Worked r job b) :
    b.dungeonInstances = w.routing.dungeonInstances ↔ opensDungeon w job = none := by
  cases worked with
  | rooms _ tables _ unopened => exact iff_of_true tables.dungeons unopened
  | buried victim s pkt attack killed result =>
      subst attack
      rw [result]
      exact iff_of_true rfl rfl
  | left s id leaves _ result =>
      subst leaves
      rw [result]
      exact iff_of_true (Routing.SameTables.leave w.routing r id).dungeons rfl
  | moved dest s requester changes result =>
      apply iff_of_true (Routing.SameTables.moves result).dungeons
      exact changesChannel_unopened w job dest (s, requester) changes
  | opened s requester opens result =>
      rw [opens]
      apply iff_of_false _ (Option.some_ne_none _)
      intro same
      have grown := (Routing.SameTables.moves result).dungeons
      rw [same] at grown
      have count := congrArg List.length grown
      simp [Routing.openDungeon] at count

theorem ran_tableStable (w next : World) (rand : List Nat) (r : RoomRef) (job : Job)
    (rest : List Job) (inRange : w.routing.InRange)
    (stepped : w.step data (.job rand) = some next)
    (front : w.routing.nextJob = some (r, job, rest))
    (result : next = runJob data (w.forJob r rest rand) r job) :
    TableStable data w (.job rand) ↔ OpensNone w (.job rand) := by
  obtain ⟨ranged, known⟩ := forJob_room w inRange r job rest rand front
  have table : next.routing.dungeonInstances = w.routing.dungeonInstances ↔
      opensDungeon (w.forJob r rest rand) job = none := by
    rw [result]
    by_cases stays : job.entering = none
    · exact worked_dungeons _ r job _ (runJob_worked data _ r job ranged known stays)
    · cases job with
      | enterRoom s id =>
          rw [runJob, enterRoom_routing]
          exact iff_of_true rfl rfl
      | _ => exact absurd rfl stays
  constructor
  · intro stable r' job' rest' rand' inside event front'
    cases event
    rw [front] at front'
    cases front'
    exact table.mp (stable inside (by simp) next stepped)
  · intro none inside _ next' stepped'
    rw [stepped] at stepped'
    cases stepped'
    exact table.mpr (none r job rest rand inside rfl front)

theorem tableStable_iff (w next : World) (e : Event) (inRange : w.routing.InRange)
    (stepped : w.step data e = some next) : TableStable data w e ↔ OpensNone w e := by
  have turned := step_turned data w next e stepped
  have still (other : Event) (jobless : ∀ rand, other ≠ .job rand) : OpensNone w other :=
    fun r job rest rand _ event => absurd event (jobless rand)
  have kept (other : Event) (stepped : w.step data other = some next)
      (same : next.routing.dungeonInstances = w.routing.dungeonInstances) :
      TableStable data w other := by
    intro _ _ next' stepped'
    rw [stepped] at stepped'
    cases stepped'
    exact same
  cases turned with
  | quiet e jobless ongoing rooms tables =>
      exact iff_of_true (kept e stepped tables.dungeons) (still e jobless)
  | pushed s pkt r job _ _ result =>
      apply iff_of_true (kept _ stepped _) (still _ (by simp))
      rw [result]
      rfl
  | login s username r id _ _ tables =>
      exact iff_of_true (kept _ stepped tables.dungeons) (still _ (by simp))
  | left s r _ _ tables =>
      exact iff_of_true (kept _ stepped tables.dungeons) (still _ (by simp))
  | ran rand r job rest front result => 
      exact ran_tableStable data w next rand r job rest inRange stepped front result
  | update idle result =>
      apply iff_of_true (kept _ stepped _) (still _ (by simp))
      rw [result]
      rfl
  | visitStatic pass r statics _ _ _ result =>
      apply iff_of_true (kept _ stepped _) (still _ (by simp))
      rw [result]
      rfl
  | loopDungeons pass _ _ _ _ result =>
      apply iff_of_true (kept _ stepped _) (still _ (by simp))
      rw [result]
      rfl
  | visitDungeon pass r instanceId _ _ _ _ _ result =>
      apply iff_of_true (kept _ stepped _) (still _ (by simp))
      rw [result]
      rfl
  | goOn e jobless ongoing pass visit current _ _ _ _ result =>
      apply iff_of_true (kept _ stepped _) (still _ jobless)
      rw [result]
      rfl
  | endUpdate => exact iff_of_true (fun _ other => absurd rfl other) (still _ (by simp))

/-- In any run the table is stable inside the loop exactly when no job there opens a new
dungeon. -/
theorem table_stable_iff (store : Store) (redisConnected : Bool) (rand : List Nat)
    (events : List Event) :
    Runs.EachStep (World.step data) (TableStable data) (World.init data store redisConnected rand)
        events ↔
      Runs.EachStep (World.step data) OpensNone (World.init data store redisConnected rand)
        events := by
  apply Runs.eachStep_congr (TableStable data) OpensNone fun w => w.routing.InRange
  · intro w e next inRange _ stepped
    exact step_inRange data w next e inRange stepped
  · intro w e next inRange stepped
    exact tableStable_iff data w next e inRange stepped
  · exact (init_blank data store redisConnected rand).inRange

/-- From inside a dungeon the player goes to another one. -/
def dungeonToDungeon : List Event :=
  intoDungeon ++ [toDungeon, .update] ++ visit .visitStatic 0 ++ visit .visitStatic 0 ++
    [.loopDungeons, .visitDungeon 1]

/-- The next job adds a dungeon while `Update` goes through the table. -/
def growsTable (w : World) : Bool :=
  match w.routing.pass, w.step smallGame (.job []) with
  | some pass, some next =>
      pass.dungeonsFrom.isSome && next.routing.dungeonInstances ≠ w.routing.dungeonInstances
  | _, _ => false

set_option maxRecDepth 20000 in
theorem dungeon_opened_in_loop :
    ¬ Runs.EachStep (World.step smallGame) (TableStable smallGame)
      (World.init smallGame newStore false []) (dungeonToDungeon ++ [.job []]) := by
  have run : (reached smallGame newStore false [] dungeonToDungeon).any growsTable = true := by
    decide +kernel
  obtain ⟨w, ended, checked⟩ := Option.any_eq_true _ _ |>.mp run
  intro each
  have last := Runs.eachStep_append (TableStable smallGame) _ w dungeonToDungeon [.job []] ended each
  unfold growsTable at checked
  split at checked
  case h_1 pass next under_way stepped =>
    obtain ⟨inside, changed⟩ := Bool.and_eq_true _ _ |>.mp checked
    have stable := (last next stepped).1
    have loop : pass.dungeonsFrom ≠ none := Option.isSome_iff_ne_none.mp inside
    exact of_decide_eq_true changed (stable ⟨pass, under_way, loop⟩ (by simp) next stepped)
  case h_2 => cases checked

end ZeldaServer
