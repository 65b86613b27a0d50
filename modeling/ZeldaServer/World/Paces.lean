import ZeldaServer.Client.Pacing
import ZeldaServer.World.Pace
import ZeldaServer.World.Walkers

/-! How fast a player walks whose client is the game's own. The server lets a turn end a move, and
so lets a client walk faster than it means to; this client asks for nothing while its player
moves. -/

namespace ZeldaServer

variable (data : GameData) {id : ObjectId} {s : SessionId}

section Jobs

variable {times times' : ObjectId → List Nat}

/-- Nobody whose moves are recorded turns or enters a room while it moves. -/
def Job.AtRest (times : ObjectId → List Nat) (w : World) : Job → Prop
  | .turn s pkt => ∀ id, lockPlayer w.routing w.scene [] s = some id →
      (w.scene.players id).info.state = .move → pkt.dir.isValid = true →
      (w.scene.players id).info.dir ≠ pkt.dir → times id = []
  | .enterRoom _ id => (w.scene.players id).info.state = .move → times id = []
  | _ => True

def Job.Recorded (w : World) (r : RoomRef) (times times' : ObjectId → List Nat) (job : Job) : Prop :=
  ∀ id, times' id = times id ∨ times' id = w.scene.now :: times id ∧
    ∃ s pkt pos, job = .move s pkt ∧ moveTarget w.routing r s pkt w.scene = some (id, pos)

theorem Paced.job (w : World) (r : RoomRef) (job : Job) (distinct : (w.scene.fields r).Distinct)
    (paced : Paced w.scene.players w.scene.now times) (atRest : job.AtRest times w)
    (recorded : job.Recorded w r times times') :
    Paced (runJob data w r job).scene.players (runJob data w r job).scene.now times' := by
  have unmoved (other : ∀ s pkt, job ≠ .move s pkt) : times' = times := by
    funext id
    rcases recorded id with same | ⟨-, s, pkt, -, moves, -⟩
    · exact same
    · exact absurd moves (other s pkt)
  have did := runJob_did data w r job distinct
  generalize runJob data w r job = v at did
  cases did with
  | deeds job removed stays chain idGen =>
      rw [unmoved (by rintro s pkt rfl; cases stays)]
      exact paced.deeds chain
  | moved s pkt result =>
      subst result
      cases moves : moveTarget w.routing r s pkt w.scene with
      | some target =>
          obtain ⟨id, pos⟩ := target
          apply told_paced (handleCMove_moves w.routing r s pkt w.scene id pos moves)
          apply paced.walk id pos (moveTarget_some w.routing r s pkt w.scene id pos moves).2.1
          · exact (recorded id).symm.imp And.left fun same => same
          · intro other apart
            rcases recorded other with same | ⟨-, s', pkt', pos', same, target⟩
            · exact same
            · cases same
              rw [moves] at target
              cases target
              exact absurd rfl apart
      | none =>
          have nobody : times' = times := by
            funext id
            rcases recorded id with same | ⟨-, s', pkt', pos', same, target⟩
            · exact same
            · cases same
              rw [moves] at target
              cases target
          rw [nobody]
          rcases handleCMove_stays w.routing r s pkt w.scene moves with quiet | ⟨id, dir, -, rests, quiet⟩
          · exact told_paced quiet paced
          · exact told_paced quiet
              (paced.rest id _ (by simp [Player.halted]) (paced.resting id rests))
  | turned s pkt result =>
      subst result
      rw [unmoved (by simp)]
      rcases handleCTurn_cases w.routing r s pkt w.scene with quiet | ⟨id, locked, valid, other, quiet⟩
      · exact told_paced quiet paced
      · refine told_paced quiet (paced.rest id _ (by simp [Player.halted]) ?_)
        intro time member
        by_cases moves : (w.scene.players id).info.state = .move
        · rw [atRest id locked moves valid other] at member
          cases member
        · exact paced.resting id moves time member
  | shot s pkt attacker arrow scene locked named owner quiet result =>
      subst result
      rw [unmoved (by simp)]
      have told := told_paced quiet paced
      exact told_paced (Scene.Quiet.broadcast w.routing r _ (scene.setField r _)) told
  | opened s pkt quiet idGen roomCount =>
      rw [unmoved (by simp)]
      apply told_paced quiet
      obtain ⟨born, births, -⟩ := initFromConfig_births data w.routing.openDungeon
        w.routing.roomCount .dungeonForest (w.scene.setField w.routing.roomCount .empty) w.idGen
      obtain ⟨now, players, -⟩ := births_keep data _ _ births
      unfold World.createDungeonInstance
      dsimp only
      rw [now, players]
      exact paced
  | entered s id result =>
      subst result
      rw [unmoved (by simp)]
      apply told_paced (enterRoom_quiet w r s id)
      refine paced.rest id _ (by simp [Player.atEntrance]) ?_
      intro time member
      by_cases moves : (w.scene.players id).info.state = .move
      · rw [atRest moves] at member
        cases member
      · exact paced.resting id moves time member

theorem Paced.gameStep (w : World) (r : RoomRef) (rand : List Nat)
    (paced : Paced w.scene.players w.scene.now times) :
    Paced (gameStep data w.routing r { w.scene with rand } w.idGen).1.players
      (gameStep data w.routing r { w.scene with rand } w.idGen).1.now times := by
  obtain ⟨removed, after, chain, players, now⟩ := afterStep_players data w r rand
  have stepped : Paced after.players after.now times :=
    Paced.deeds (a := { w.scene with rand }) paced chain
  rw [← players, ← now] at stepped
  exact stepped

theorem Paced.login (w : World) (s : SessionId) (username : Bytes)
    (paced : Paced w.scene.players w.scene.now times) (unborn : times w.idGen = []) :
    Paced (handleCLogin data w s username).scene.players
      (handleCLogin data w s username).scene.now times := by
  cases handleCLogin_acted data w s username with
  | still _ _ _ same =>
      rw [same.players]
      exact paced.later same.now
  | login _ _ player named players fields now =>
      rw [players, now]
      exact paced.born w.idGen player unborn

end Jobs

theorem roomStep_clock {w next : World} {now : Nat}
    (stepped : World.roomStep data Job.remains w (.clock now) = some next) : w.scene.now ≤ now := by
  unfold World.roomStep at stepped
  split at stepped
  · cases stepped
  · dsimp only at stepped
    split at stepped
    case isTrue goes => exact goes
    case isFalse => cases stepped

namespace Online

def moved (id : ObjectId) (o next : Online) : Bool :=
  (next.footing id).cellPos ≠ (o.footing id).cellPos

def recordMoves (id : ObjectId) (o : Online) (_ : OnlineEvent) (next : Online) (times : List Nat) :
    List Nat :=
  if o.moved id next then next.world.scene.now :: times else times

def KeepsPace (times : List Nat) : Prop :=
  times.Pairwise fun newer older => older + kMoveDurationMs ≤ newer

def ServedAtRest (id : ObjectId) (o : Online) (e : OnlineEvent) : Prop :=
  ∀ rand q rest, e = .serve rand → o.asked = q :: rest → q.isStep = true →
    (o.footing id).state = .idle

def timesOf (id : ObjectId) (times : List Nat) (other : ObjectId) : List Nat :=
  if other = id then times else []

theorem timesOf_own (times : List Nat) : timesOf id times id = times := if_pos rfl

theorem timesOf_other (times : List Nat) {other : ObjectId} (apart : other ≠ id) :
    timesOf id times other = [] := if_neg apart

theorem timesOf_cons (time : Nat) (times : List Nat) (other : ObjectId) :
    timesOf id (time :: times) other =
      if other = id then time :: timesOf id times other else timesOf id times other := by
  unfold timesOf
  split <;> rfl

theorem timesOf_nil (players : ObjectId → Player) (now : Nat) :
    Paced players now (timesOf id []) := by
  have empty (other : ObjectId) (time : Nat) : time ∉ timesOf id [] other := by
    unfold timesOf
    split <;> exact List.not_mem_nil
  exact ⟨fun other _ time member => absurd member (empty other time),
    fun other _ time member => absurd member (empty other time)⟩

/-- The client is steady, and the recorded moves of its player are over when its move is. -/
structure Walking (id : ObjectId) (s : SessionId) (now : Online × List Nat) : Prop where
  steady : ∃ l, now.1.Kept id s l ∧ l.Steady id
  paced : Paced now.1.world.scene.players now.1.world.scene.now (timesOf id now.2)
  limit : KeepsPace now.2

theorem steady_steps {l l' : Dialogue} {allowed : Dialogue → Frame → Prop}
    (steps : Relation.ReflTransGen (Dialogue.Step id allowed) l l') (steady : l.Steady id) :
    l'.Steady id := by
  induction steps with
  | refl => exact steady
  | tail _ step ih => exact ih.step step

theorem steady_step {o next : Online} (e : OnlineEvent)
    (steady : ∃ l, o.Kept id s l ∧ l.Steady id) (stepped : o.step data id s e = some next) :
    ∃ l, next.Kept id s l ∧ l.Steady id := by
  obtain ⟨l, kept, steady⟩ := steady
  obtain ⟨l', kept', goes⟩ :=
    kept.step data (fun _ _ => True) e stepped fun _ _ _ _ => trivial
  exact ⟨l', kept', steady_steps goes steady⟩

theorem Kept.footing {o : Online} {l : Dialogue} (kept : o.Kept id s l) :
    l.footing = o.footing id ∧ l.asked = o.asked := by
  cases kept.tied with
  | waits info told nobody => exact ⟨rfl, rfl⟩
  | plays me mine => exact ⟨rfl, rfl⟩

theorem Walking.atRest {now : Online × List Nat} (walking : Walking id s now) (e : OnlineEvent) :
    now.1.ServedAtRest id e := by
  rintro rand q rest - next isStep
  obtain ⟨l, kept, steady⟩ := walking.steady
  obtain ⟨footing, asked⟩ := kept.footing
  rw [← footing]
  exact (steady.asking_head q rest (asked.trans next) isStep).2.2.2.1

theorem drifts_cell {a b : Scene} (drifts : a.Drifts id s b) :
    (b.players id).info.footing.cellPos = (a.players id).info.footing.cellPos := by
  rcases drifts with leaves | arrives
  · rw [leaves.footing]
  · rw [arrives.rests]

theorem serves_cell {before after : Footing} {q : Request} {news : List ServerPacket}
    (serves : Dialogue.Serves id before q after news) :
    after.cellPos = before.cellPos ∨ ∃ dir, q = .move dir := by
  cases serves with
  | unheeded _ _ => exact .inl rfl
  | turned q dir asks valid other info named turns =>
      left
      rw [turns]
  | moved info _ _ _ => exact .inr ⟨_, rfl⟩
  | struck _ _ => exact .inl rfl

theorem recordMoves_still {o next : Online} (e : OnlineEvent) (times : List Nat)
    (same : (next.footing id).cellPos = (o.footing id).cellPos) :
    recordMoves id o e next times = times := by
  unfold recordMoves moved
  simp only [same, ne_eq, not_true_eq_false, decide_false, Bool.false_eq_true, if_false]

theorem KeepsPace.cons {times : List Nat} (keeps : KeepsPace times) (time : Nat)
    (past : ∀ older ∈ times, older + kMoveDurationMs ≤ time) : KeepsPace (time :: times) :=
  List.pairwise_cons.mpr ⟨past, keeps⟩

theorem Walking.still {o next : Online} {times : List Nat} (walking : Walking id s (o, times))
    (e : OnlineEvent) (stepped : o.step data id s e = some next)
    (same : (next.footing id).cellPos = (o.footing id).cellPos)
    (paced : Paced next.world.scene.players next.world.scene.now (timesOf id times)) :
    Walking id s (next, recordMoves id o e next times) := by
  rw [recordMoves_still e times same]
  exact ⟨steady_step data e walking.steady stepped, paced, walking.limit⟩

theorem Walking.serve {o next : Online} {times : List Nat} (walking : Walking id s (o, times))
    (rand : List Nat) (stepped : o.step data id s (.serve rand) = some next) :
    Walking id s (next, recordMoves id o (.serve rand) next times) := by
  have rests := walking.atRest (.serve rand)
  have steady := steady_step data (.serve rand) walking.steady stepped
  obtain ⟨l, kept, -⟩ := walking.steady
  unfold Online.step at stepped
  cases asked : o.asked with
  | nil => simp [asked] at stepped
  | cons q rest =>
      simp only [asked, Option.map_eq_some_iff] at stepped
      obtain ⟨world, went, rfl⟩ := stepped
      obtain ⟨ran, here, few⟩ := Kept.room_some data o went
      have rests := rests rand q rest rfl asked
      cases roomStep_stepped data ran with
      | job rand job remains awaited =>
          have bound : World.Bound id s (o.world.taking rand (q.job s)) :=
            kept.bound.supplied rand (q.job s)
          have paced : Paced (o.world.taking rand (q.job s)).scene.players
              (o.world.taking rand (q.job s)).scene.now (timesOf id times) := walking.paced
          have atRest : (q.job s).AtRest (timesOf id times) (o.world.taking rand (q.job s)) := by
            cases q with
            | turn dir =>
                intro other locked moves valid apart
                apply timesOf_other
                rintro rfl
                exact absurd ((rests rfl).symm.trans moves) (by decide)
            | move dir => trivial
            | attack dir weaponType => trivial
          by_cases moves : moved id o
            { o with world := runJob data (o.world.taking rand (q.job s)) 0 (q.job s), asked := rest }
          · have apart := of_decide_eq_true moves
            obtain ⟨middle, ⟨news, sent, serves⟩, drifts⟩ := bound.request data q here few
            obtain ⟨dir, rfl⟩ : ∃ dir, q = .move dir := by
              rcases serves_cell serves with same | move
              · exact absurd ((drifts_cell drifts).trans same) apart
              · exact move
            obtain ⟨pos, target⟩ : ∃ pos, moveTarget (o.world.taking rand (.move s ⟨dir⟩)).routing 0
                s ⟨dir⟩ (o.world.taking rand (.move s ⟨dir⟩)).scene = some (id, pos) := by
              rcases handleCMove_cells (o.world.taking rand (.move s ⟨dir⟩)).routing 0 s ⟨dir⟩
                (o.world.taking rand (.move s ⟨dir⟩)).scene id with same | target
              · exact absurd same apart
              · exact target
            have still := (moveTarget_some _ _ _ _ _ id pos target).2.1
            have clock := (handleCMove_moves _ _ _ _ _ id pos target).now
            unfold recordMoves
            rw [if_pos moves]
            refine ⟨steady, ?_, walking.limit.cons _ ?_⟩
            · apply paced.job data _ 0 _ bound.distinct atRest
              intro other
              rw [timesOf_cons]
              split
              case isTrue own =>
                subst own
                exact .inr ⟨congrArg (· :: _) clock, s, ⟨dir⟩, pos, rfl, target⟩
              case isFalse => exact .inl rfl
            · intro time member
              have own : time ∈ timesOf id times id := by rwa [timesOf_own]
              exact (paced.resting id still time own).trans (Nat.le_of_eq clock.symm)
          · rw [recordMoves_still _ times (by simpa [moved] using moves)]
            refine ⟨steady, ?_, walking.limit⟩
            exact paced.job data _ 0 _ bound.distinct atRest fun _ => .inl rfl

theorem Walking.other {o next : Online} {times : List Nat} (walking : Walking id s (o, times))
    (e : RoomEvent) (stepped : o.step data id s (.other e) = some next) :
    Walking id s (next, recordMoves id o (.other e) next times) := by
  have whole := stepped
  obtain ⟨l, kept, -⟩ := walking.steady
  unfold Online.step at stepped
  dsimp only at stepped
  split at stepped
  case isFalse => cases stepped
  case isTrue foreign =>
    obtain ⟨world, went, rfl⟩ := Option.map_eq_some_iff.mp stepped
    obtain ⟨ran, here, few⟩ := Kept.room_some data o went
    have drifts := kept.bound.roomStep_drifts data ran foreign here few
    apply walking.still data (.other e) whole (drifts_cell drifts)
    cases roomStep_stepped data ran with
    | login s' username =>
        apply walking.paced.login data o.world s' username
        apply timesOf_other
        exact Nat.ne_of_gt (kept.bound.attended.roster.fresh id
          (kept.bound.attended.roster.players id kept.bound.here))
    | step rand => exact walking.paced.gameStep data o.world 0 rand
    | clock now => exact walking.paced.later (roomStep_clock data ran)
    | job rand job remains awaited =>
        have bound : World.Bound id s (o.world.taking rand job) := kept.bound.supplied rand job
        have paced : Paced (o.world.taking rand job).scene.players
            (o.world.taking rand job).scene.now (timesOf id times) := walking.paced
        apply paced.job data _ 0 _ bound.distinct _ fun _ => .inl rfl
        cases job with
        | turn s' pkt =>
            intro other locked moves valid apart
            apply timesOf_other
            have foreign : (!(true && decide (s' = s))) = true := foreign
            have away : s' ≠ s := by simpa using foreign
            exact bound.foreign away (lockPlayer_some _ _ _ s' other locked).1
        | enterRoom s' other =>
            intro moves
            apply timesOf_other
            have foreign : (!(true && decide (s' = s))) = true := foreign
            have away : s' ≠ s := by simpa using foreign
            obtain ⟨login, member, same⟩ := List.any_eq_true.mp awaited
            obtain ⟨mine, named⟩ := of_decide_eq_true same
            rintro rfl
            obtain ⟨first, listed, session, player⟩ := bound.attended.logged s other bound.session
            have shared := bound.attended.single login member first listed (named.trans player.symm)
            exact away (mine.symm.trans (shared.trans session))
        | _ => trivial

theorem Walking.step {now after : Online × List Nat} (walking : Walking id s now) (e : OnlineEvent)
    (stepped : Runs.observed (Online.step data id s) (recordMoves id) now e = some after) :
    Walking id s after := by
  obtain ⟨stepped, result⟩ := Runs.observed_some (recordMoves id) now after e stepped
  obtain ⟨o, times⟩ := now
  obtain ⟨next, times'⟩ := after
  dsimp only at result
  subst result
  cases e with
  | serve rand => exact walking.serve data rand stepped
  | other e => exact walking.other data e stepped
  | tick frame =>
      have world : next.world = o.world := by
        obtain ⟨me, -, rfl⟩ := Option.map_eq_some_iff.mp stepped
        rfl
      apply walking.still data _ stepped
      · rw [footing, world]
        rfl
      · rw [world]
        exact walking.paced
  | hear =>
      have world : next.world = o.world := by
        unfold Online.step at stepped
        dsimp only at stepped
        split at stepped
        · cases stepped
        · cases stepped
          rfl
      apply walking.still data _ stepped
      · rw [footing, world]
        rfl
      · rw [world]
        exact walking.paced

end Online

section Runs

variable (fieldId : FieldId) (channel : Int) (roomId : RoomName) (store : Store)
  (redisConnected : Bool) (rand : List Nat) (events : List RoomEvent) (before after : World)
  (reached : Runs.run (World.roomStep data Job.remains)
    (World.oneRoom data fieldId channel roomId store redisConnected rand) events = some before)
  {entering : List Nat}
  (entered : World.roomStep data Job.remains before (.job entering (.enterRoom s id)) = some after)
  (once : ∀ login ∈ before.routing.logins, login.session = s → login.player = id)
  (few : after.idGen ≤ Screen.idLimit)

include reached entered once few

/-- Whatever keys are pressed, and whenever the room serves them: every step of the client finds
its player at rest, and any two of its moves are at least 75 ms apart. -/
theorem client_keeps_pace (course : List OnlineEvent) :
    Runs.EveryState (Runs.observed (Online.step data id s) (Online.recordMoves id))
        (fun now => Online.KeepsPace now.2) (Online.enter s before after, []) course ∧
      Runs.EachStep (Runs.observed (Online.step data id s) (Online.recordMoves id))
        (fun now e => now.1.ServedAtRest id e) (Online.enter s before after, []) course := by
  obtain ⟨l, kept, sound⟩ := Online.begins data fieldId channel roomId store redisConnected rand
    events before after reached entering entered once few
  have begins : Online.Walking id s (Online.enter s before after, []) :=
    ⟨⟨l, kept, sound.steady⟩, Online.timesOf_nil _ _, .nil⟩
  constructor
  · apply Runs.everyState_invariant (fun _ _ => True) (Online.Walking id s)
      (fun now => Online.KeepsPace now.2)
    · exact fun now walking => walking.limit
    · exact fun now e next walking _ stepped => walking.step data e stepped
    · exact begins
    · exact Runs.eachStep_true _ course
  · apply Runs.eachStep_mono (fun _ _ => True) _ (Online.Walking id s)
      (fun now e next walking _ stepped => walking.step data e stepped)
      (fun now e next walking _ _ => walking.atRest e) _ course begins (Runs.eachStep_true _ course)

end Runs

/-- The player of a dungeon turns, and takes two steps as soon as it can. -/
def Online.longStroll : List OnlineEvent :=
  List.replicate 4 .hear ++
    [.tick (frameOf [.a] []), .serve [], .hear, .tick (frameOf [.a] []), .serve [], .hear,
      .tick (frameOf [.a] []), .other (.clock 100), .other (.step []), .hear,
      .tick (frameOf [.a] []), .serve []]

set_option maxRecDepth 20000 in
theorem long_stroll_keeps_pace : ∃ before after, loneDungeon = some before ∧
    (Runs.run (Runs.observed (Online.step smallGame 1 1) (Online.recordMoves 1))
      (Online.enter 1 before after, []) Online.longStroll).any (fun now => now.2 = [100, 0]) = true ∧
    Runs.EveryState (Runs.observed (Online.step smallGame 1 1) (Online.recordMoves 1))
        (fun now => Online.KeepsPace now.2) (Online.enter 1 before after, []) Online.longStroll ∧
      Runs.EachStep (Runs.observed (Online.step smallGame 1 1) (Online.recordMoves 1))
        (fun now e => now.1.ServedAtRest 1 e) (Online.enter 1 before after, [])
        Online.longStroll := by
  have ends : (loneDungeon.any fun before =>
      before.routing.logins.all (fun login => login.player = 1) &&
        (World.roomStep smallGame Job.remains before (.job [] (.enterRoom 1 1))).any fun after =>
          decide (after.idGen ≤ Screen.idLimit) &&
            (Runs.run (Runs.observed (Online.step smallGame 1 1) (Online.recordMoves 1))
              (Online.enter 1 before after, []) Online.longStroll).any
              fun now => now.2 = [100, 0]) = true := by
    decide +kernel
  obtain ⟨before, reached, rest⟩ := (Option.any_eq_true _ _).mp ends
  obtain ⟨logins, rest⟩ := Bool.and_eq_true_iff.mp rest
  obtain ⟨after, entered, rest⟩ := (Option.any_eq_true _ _).mp rest
  obtain ⟨few, runs⟩ := Bool.and_eq_true_iff.mp rest
  refine ⟨before, after, reached, runs, ?_⟩
  apply client_keeps_pace smallGame .dungeon 0 .dungeonForest newStore false [] [.login 1 [97]] before
    after reached entered _ (of_decide_eq_true few) Online.longStroll
  exact fun login member _ => of_decide_eq_true (List.all_eq_true.mp logins login member)

end ZeldaServer
