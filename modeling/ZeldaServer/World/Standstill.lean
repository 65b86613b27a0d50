import ZeldaServer.World.Walkers

/-! How a client comes to wait for ever: it shoots while its turn is on the way, and is turned
back by its own shot. -/

namespace ZeldaServer

variable (data : GameData)

namespace Frame

/-- Nothing is pressed, for long. -/
def quiet : Frame where
  arrived := true
  animationEnded := false
  inputLocked := false
  getButton := fun _ => false
  getButtonDown := fun _ => false
  coolingDown := false
  fightingGround := true
  turnGrace := false
  attackTimedOut := true

def holding (key : KeyType) : Frame :=
  { quiet with getButton := fun other => other = key, attackTimedOut := false }

def shooting : Frame :=
  { quiet with
    getButtonDown := fun key => key = .key2 || key = .spaceBar
    attackTimedOut := false }

end Frame

def sideKey (dir : Dir) : KeyType := if dir = Dir.up then .a else .w

def sideDir (dir : Dir) : Dir := if dir = Dir.up then Dir.left else Dir.up

theorem sideDir_valid (dir : Dir) : (sideDir dir).isValid = true := by
  unfold sideDir
  split <;> rfl

theorem sideDir_ne (dir : Dir) : dir ≠ sideDir dir := by
  unfold sideDir
  split
  case isTrue up =>
    rw [up]
    decide
  case isFalse other => exact other

namespace MyPlayerWalk

theorem heldDir_holding (dir : Dir) : heldDir (.holding (sideKey dir)) = some (sideDir dir) := by
  unfold sideKey sideDir
  split <;> rfl

variable {me : MyPlayerWalk} (idle : me.footing.state = .idle)

include idle

theorem tick_idle (frame : Frame) (arrived : frame.arrived = true) :
    me.tick frame =
      ({ (me.tickIdle frame).1 with
          attackPending := (me.tickIdle frame).1.attackPending && !frame.attackTimedOut },
        (me.tickIdle frame).2) := by
  unfold tick act
  rw [arrived, idle]
  rfl

theorem tick_quiet :
    ∃ me', me.tick .quiet = (me', []) ∧ me'.footing = me.footing ∧ me'.blockedHold = false ∧
      me'.movePending = me.movePending ∧ me'.attackPending = false := by
  refine ⟨_, tick_idle idle .quiet rfl, rfl, rfl, rfl, ?_⟩
  exact Bool.and_false _

theorem tick_turn (free : me.movePending = false) (open_way : me.blockedHold = false) :
    ∃ me', me.tick (.holding (sideKey me.footing.dir)) = (me', [.turn (sideDir me.footing.dir)]) ∧
      me'.footing = me.footing ∧ me'.blockedHold = false ∧ me'.movePending = true ∧
      me'.attackPending = me.attackPending := by
  have ticked := tick_idle idle (.holding (sideKey me.footing.dir)) rfl
  have other := sideDir_ne me.footing.dir
  unfold tickIdle tickInput at ticked
  rw [heldDir_holding] at ticked
  simp only [Frame.holding, Frame.quiet, Bool.false_eq_true, if_false, Bool.false_and] at ticked
  unfold tryMove chosenWeapon at ticked
  simp [free, open_way, other] at ticked
  exact ⟨_, ticked, rfl, rfl, rfl, rfl⟩

theorem tick_shoot (calm : me.attackPending = false) :
    ∃ me', me.tick .shooting = (me', [.attack me.footing.dir WeaponType.bow]) ∧
      me'.footing = me.footing ∧ me'.blockedHold = false ∧ me'.movePending = me.movePending := by
  have ticked := tick_idle idle .shooting rfl
  unfold tickIdle tickInput at ticked
  simp [Frame.shooting, Frame.quiet, heldDir, chosenWeapon, calm, tryMove] at ticked
  exact ⟨_, ticked, rfl, rfl, rfl⟩

end MyPlayerWalk

theorem broadcast_fine (routing : Routing) (r : RoomRef) (pkt : ServerPacket) (scene : Scene)
    (linked : ∀ other ∈ playerIds routing r, ∃ s', routing.playerSession other = some s') :
    (broadcast routing r pkt scene).fault = scene.fault := by
  unfold broadcast
  generalize playerIds routing r = ids at linked
  induction ids generalizing scene with
  | nil => rfl
  | cons other ids ih =>
      obtain ⟨⟨s', session⟩, linked⟩ := List.forall_mem_cons.mp linked
      rw [List.foldl_cons, session]
      exact ih _ linked

namespace Online

variable {id : ObjectId} {s : SessionId} {o : Online}

theorem linked {w : World} (bound : w.Bound id s) :
    ∀ other ∈ playerIds w.routing 0, ∃ s', w.routing.playerSession other = some s' := by
  intro other standing
  obtain ⟨s', own, session, -⟩ := bound.attended.entered other standing
  exact ⟨s', session⟩

structure Ready (id : ObjectId) (s : SessionId) (o : Online) : Prop where
  bound : o.world.Bound id s
  begun : o.heard ≤ (heardBy s o.world.scene.sent).length
  fine : o.world.scene.fault = none

theorem Ready.serve (ready : o.Ready id s) (q : Request) (rest : List Request)
    (asked : o.asked = q :: rest) (world : World) (news : List (SessionId × ServerPacket))
    (result : runJob data (o.world.taking [] (q.job s)) 0 (q.job s) = world)
    (routing : world.routing = (o.world.taking [] (q.job s)).routing)
    (few : world.idGen ≤ Screen.idLimit) (fine : world.scene.fault = none)
    (sent : world.scene.sent = o.world.scene.sent ++ news) :
    o.step data id s (.serve []) = some { o with world, asked := rest } ∧
      Ready id s { o with world, asked := rest } ∧
      unheard s { o with world, asked := rest } = o.unheard s ++ heardBy s news := by
  have supplied := ready.bound.supplied [] (q.job s)
  have here : id ∈ playerIds world.routing 0 := by
    rw [routing]
    exact supplied.here
  have awaited : o.world.awaits 0 (q.job s) = true := by
    have any : (o.world.routing.sessions s).player.any
        (· ∈ playerIds o.world.routing 0) = true := by
      rw [ready.bound.owner]
      exact decide_eq_true ready.bound.here
    cases q <;> exact any
  have admitted : ((q.job s).remains && o.world.awaits 0 (q.job s)) = true := by
    rw [awaited]
    cases q <;> rfl
  have stepped : World.roomStep data Job.remains o.world (.job [] (q.job s)) = some world := by
    unfold World.roomStep
    rw [if_neg (not_not.mpr ready.fine)]
    dsimp only
    rw [if_pos admitted]
    exact congrArg some result
  have keeps : RoomEvent.rebinds s (.job [] (q.job s)) = false := by cases q <;> rfl
  refine ⟨?_, ⟨ready.bound.roomStep data stepped keeps here few, ?_, fine⟩,
    unheard_sent o world rest news ready.begun sent⟩
  · unfold Online.step Online.room
    rw [asked]
    dsimp only
    rw [stepped, Option.filter_some, if_pos (by simp [here, few])]
    rfl
  · dsimp only
    rw [sent, heardBy_append, List.length_append]
    exact Nat.le_trans ready.begun (Nat.le_add_right _ _)

theorem Ready.serve_again (ready : o.Ready id s) (dir : Dir) (valid : dir.isValid = true)
    (asked : o.asked = [.turn dir]) (looks : (o.footing id).dir = dir) :
    ∃ next, o.step data id s (.serve []) = some next ∧ next.me = o.me ∧ next.asked = [] ∧
      next.unheard s = o.unheard s ∧ next.footing id = o.footing id := by
  have supplied := ready.bound.supplied [] (.turn s ⟨dir⟩)
  have locked := supplied.locks s id supplied.owner supplied.here
    (o.world.taking [] (.turn s ⟨dir⟩)).scene
  have stays : handleCTurn (o.world.taking [] (.turn s ⟨dir⟩)).routing 0 s ⟨dir⟩
      (o.world.taking [] (.turn s ⟨dir⟩)).scene = (o.world.taking [] (.turn s ⟨dir⟩)).scene := by
    unfold handleCTurn
    rw [locked]
    dsimp only
    rw [valid, if_neg (by decide)]
    exact if_pos looks
  obtain ⟨stepped, -, more⟩ := ready.serve data (.turn dir) [] asked
    (o.world.taking [] (.turn s ⟨dir⟩)) []
    (congrArg (fun scene => { (o.world.taking [] (.turn s ⟨dir⟩)) with scene }) stays) rfl
    ready.bound.few ready.fine (List.append_nil _).symm
  exact ⟨_, stepped, rfl, rfl, more.trans (List.append_nil _), rfl⟩

theorem Ready.serve_turn (ready : o.Ready id s) (dir : Dir) (valid : dir.isValid = true)
    (rest : List Request) (asked : o.asked = .turn dir :: rest) (other : (o.footing id).dir ≠ dir) :
    ∃ next info, o.step data id s (.serve []) = some next ∧ next.Ready id s ∧ next.me = o.me ∧
      next.asked = rest ∧ next.world.idGen = o.world.idGen ∧
      next.unheard s = o.unheard s ++ [.turn info] ∧ info.objectId = id ∧
      info.footing = { o.footing id with dir, state := .idle } ∧ next.footing id = info.footing := by
  have supplied := ready.bound.supplied [] (.turn s ⟨dir⟩)
  have locked := supplied.locks s id supplied.owner supplied.here
    (o.world.taking [] (.turn s ⟨dir⟩)).scene
  generalize turned : ({ (o.world.scene.players id).info with
    dir := dir, state := ObjectState.idle } : ObjectInfo) = info
  have goes : handleCTurn (o.world.taking [] (.turn s ⟨dir⟩)).routing 0 s ⟨dir⟩
      (o.world.taking [] (.turn s ⟨dir⟩)).scene =
        broadcast (o.world.taking [] (.turn s ⟨dir⟩)).routing 0 (.turn info)
          ((o.world.taking [] (.turn s ⟨dir⟩)).scene.setPlayer id
            { o.world.scene.players id with info }) := by
    unfold handleCTurn
    rw [locked]
    dsimp only
    rw [valid, if_neg (by decide)]
    rw [← turned]
    exact if_neg other
  have quiet := Scene.Quiet.broadcast (o.world.taking [] (.turn s ⟨dir⟩)).routing 0 (.turn info)
    ((o.world.taking [] (.turn s ⟨dir⟩)).scene.setPlayer id { o.world.scene.players id with info })
  have fine := broadcast_fine (o.world.taking [] (.turn s ⟨dir⟩)).routing 0 (.turn info)
    ((o.world.taking [] (.turn s ⟨dir⟩)).scene.setPlayer id { o.world.scene.players id with info })
    (linked supplied)
  have sent := broadcast_sent (o.world.taking [] (.turn s ⟨dir⟩)).routing 0 (.turn info)
    ((o.world.taking [] (.turn s ⟨dir⟩)).scene.setPlayer id { o.world.scene.players id with info })
  have players := quiet.players
  generalize broadcast (o.world.taking [] (.turn s ⟨dir⟩)).routing 0 (.turn info)
    ((o.world.taking [] (.turn s ⟨dir⟩)).scene.setPlayer id { o.world.scene.players id with info }) =
      told at goes fine sent players
  obtain ⟨stepped, ready', more⟩ := ready.serve data (.turn dir) rest asked
    { (o.world.taking [] (.turn s ⟨dir⟩)) with scene := told } _
    (congrArg (fun scene => { (o.world.taking [] (.turn s ⟨dir⟩)) with scene }) goes) rfl
    ready.bound.few (fine.trans ready.fine) sent
  have heard := supplied.hears.broadcast (.turn info)
  rw [heard] at more
  refine ⟨_, info, stepped, ready', rfl, rfl, rfl, more, ?_, ?_, ?_⟩
  · rw [← turned]
    exact ready.bound.attended.roster.own id
  · rw [← turned]
    rfl
  · unfold Online.footing
    dsimp only
    rw [players, Scene.setPlayer_players, if_pos rfl]

theorem Ready.serve_shot (ready : o.Ready id s) (dir : Dir)
    (asked : o.asked = [.attack dir WeaponType.bow]) (few : o.world.idGen < Screen.idLimit) :
    ∃ next arrow, o.step data id s (.serve []) = some next ∧ next.Ready id s ∧ next.me = o.me ∧
      next.asked = [] ∧ next.footing id = o.footing id ∧
      next.unheard s = o.unheard s ++ [.attack id dir WeaponType.bow, .addObject ⟨[arrow]⟩] := by
  have supplied := ready.bound.supplied [] (.attack s ⟨dir, WeaponType.bow⟩)
  have locked := supplied.locks s id supplied.owner supplied.here
    (o.world.taking [] (.attack s ⟨dir, WeaponType.bow⟩)).scene
  have first := broadcast_sent (o.world.taking [] (.attack s ⟨dir, WeaponType.bow⟩)).routing 0
    (.attack id dir WeaponType.bow) (o.world.taking [] (.attack s ⟨dir, WeaponType.bow⟩)).scene
  have fine := broadcast_fine (o.world.taking [] (.attack s ⟨dir, WeaponType.bow⟩)).routing 0
    (.attack id dir WeaponType.bow) (o.world.taking [] (.attack s ⟨dir, WeaponType.bow⟩)).scene
    (linked supplied)
  have players := (Scene.Quiet.broadcast
    (o.world.taking [] (.attack s ⟨dir, WeaponType.bow⟩)).routing 0
    (.attack id dir WeaponType.bow)
    (o.world.taking [] (.attack s ⟨dir, WeaponType.bow⟩)).scene).players
  have own : ((o.world.taking [] (.attack s ⟨dir, WeaponType.bow⟩)).scene.players
      id).info.objectId = id := ready.bound.attended.roster.own id
  obtain ⟨arrow, shot⟩ : ∃ arrow, handleCAttack data
      (o.world.taking [] (.attack s ⟨dir, WeaponType.bow⟩)) 0 s ⟨dir, WeaponType.bow⟩ =
        { (o.world.taking [] (.attack s ⟨dir, WeaponType.bow⟩)) with
          scene := addArrow (o.world.taking [] (.attack s ⟨dir, WeaponType.bow⟩)).routing 0 arrow
            (broadcast (o.world.taking [] (.attack s ⟨dir, WeaponType.bow⟩)).routing 0
              (.attack id dir WeaponType.bow)
              (o.world.taking [] (.attack s ⟨dir, WeaponType.bow⟩)).scene)
          idGen := o.world.idGen + 1 } := by
    unfold handleCAttack
    rw [locked]
    dsimp only
    rw [own, if_neg (by decide), if_pos rfl]
    exact ⟨_, rfl⟩
  have lands (scene : Scene) :
      (addArrow (o.world.taking [] (.attack s ⟨dir, WeaponType.bow⟩)).routing 0 arrow scene).sent =
          scene.sent ++ toPlayers (o.world.taking [] (.attack s ⟨dir, WeaponType.bow⟩)).routing
            (playerIds (o.world.taking [] (.attack s ⟨dir, WeaponType.bow⟩)).routing 0)
            (.addObject ⟨[arrow.info]⟩) ∧
        (addArrow (o.world.taking [] (.attack s ⟨dir, WeaponType.bow⟩)).routing 0 arrow
          scene).players = scene.players ∧
        (addArrow (o.world.taking [] (.attack s ⟨dir, WeaponType.bow⟩)).routing 0 arrow
          scene).fault = scene.fault :=
    ⟨broadcast_sent _ 0 _ _, (Scene.Quiet.broadcast _ 0 _ _).players,
      broadcast_fine _ 0 _ _ (linked supplied)⟩
  obtain ⟨sent, same, fine'⟩ := lands (broadcast
    (o.world.taking [] (.attack s ⟨dir, WeaponType.bow⟩)).routing 0 (.attack id dir WeaponType.bow)
    (o.world.taking [] (.attack s ⟨dir, WeaponType.bow⟩)).scene)
  rw [first, List.append_assoc] at sent
  obtain ⟨stepped, ready', more⟩ := ready.serve data (.attack dir WeaponType.bow) [] asked _ _ shot
    rfl few (fine'.trans (fine.trans ready.fine)) sent
  rw [heardBy_append, supplied.hears.broadcast, supplied.hears.broadcast] at more
  refine ⟨_, arrow.info, stepped, ready', rfl, rfl, ?_, more⟩
  exact congrArg (fun players : ObjectId → Player => (players id).info.footing) (same.trans players)

theorem hears_all (told : List ServerPacket) (o : Online) (me : MyPlayerWalk) (mine : o.me = some me)
    (more : o.unheard s = told) (plain : Plain id told) (ready : o.Ready id s) :
    ∃ next, Runs.run (Online.step data id s) o (List.replicate told.length .hear) = some next ∧
      next.world = o.world ∧ next.asked = o.asked ∧ next.unheard s = [] ∧ next.Ready id s ∧
      next.me = some (told.foldl (MyPlayerWalk.hear id) me) := by
  induction told generalizing o me with
  | nil => exact ⟨o, rfl, rfl, rfl, more, ready, mine⟩
  | cons pkt told ih =>
      obtain ⟨first, plain⟩ := List.forall_mem_cons.mp plain
      have later : unheard s { o with me := hearOwn id o.me pkt, heard := o.heard + 1 } = told := by
        have dropped : ((heardBy s o.world.scene.sent).drop o.heard).drop 1 = told :=
          congrArg (List.drop 1) more
        rwa [List.drop_drop] at dropped
      have begun : o.heard + 1 ≤ (heardBy s o.world.scene.sent).length := by
        have long := congrArg List.length more
        unfold unheard at long
        rw [List.length_drop, List.length_cons] at long
        omega
      have heard : hearOwn id o.me pkt = some (me.hear id pkt) := by
        rw [mine]
        exact hearOwn_plain me pkt first
      obtain ⟨next, ran, world, asked, silent, ready, all⟩ :=
        ih { o with me := hearOwn id o.me pkt, heard := o.heard + 1 } (me.hear id pkt) heard later
          plain ⟨ready.bound, begun, ready.fine⟩
      refine ⟨next, ?_, world, asked, silent, ready, all⟩
      rw [List.length_cons, List.replicate_succ]
      unfold Runs.run
      have stepped : o.step data id s .hear =
          some { o with me := hearOwn id o.me pkt, heard := o.heard + 1 } := by
        unfold Online.step
        dsimp only
        rw [more]
      rw [stepped]
      exact ran

theorem ticks (id : ObjectId) (s : SessionId) (o : Online) (me me' : MyPlayerWalk) (frame : Frame) (asked : List Request)
    (mine : o.me = some me) (ticked : me.tick frame = (me', asked)) :
    o.step data id s (.tick frame) = some { o with me := some me', asked := o.asked ++ asked } := by
  unfold Online.step
  rw [mine]
  dsimp only [Option.map_some]
  rw [ticked]

end Online

/-- The player turns, shoots before it sees itself turned, and turns again. -/
def turnAndShoot (dir : Dir) : List OnlineEvent :=
  [.tick .quiet, .tick (.holding (sideKey dir)), .tick .shooting, .serve [], .serve [], .hear, .hear,
    .hear, .tick (.holding (sideKey dir)), .serve []]

namespace Online

variable {id : ObjectId} {s : SessionId} {o : Online}

theorem sticks (ready : o.Ready id s) (me : MyPlayerWalk) (mine : o.me = some me)
    (agrees : me.footing = o.footing id) (free : me.movePending = false) (asked : o.asked = [])
    (silent : o.unheard s = []) (rests : (o.footing id).state = .idle)
    (few : o.world.idGen < Screen.idLimit) :
    ∃ final, Runs.run (Online.step data id s) o (turnAndShoot (o.footing id).dir) = some final ∧
      final.Stuck id s := by
  have idle : me.footing.state = .idle := by
    rw [agrees]
    exact rests
  have valid := sideDir_valid me.footing.dir
  have other := sideDir_ne me.footing.dir
  rw [← agrees] at rests ⊢
  generalize looks : me.footing.dir = dir at valid other ⊢
  -- It turns, and shoots where it still looks.
  obtain ⟨me₁, ticked₁, footing₁, way₁, free₁, calm₁⟩ := MyPlayerWalk.tick_quiet idle
  have step₁ := ticks data id s o me me₁ .quiet [] mine ticked₁
  rw [asked, List.append_nil] at step₁
  obtain ⟨me₂, ticked₂, footing₂, way₂, -, calm₂⟩ :=
    MyPlayerWalk.tick_turn (footing₁.symm ▸ idle) (free₁.trans free) way₁
  rw [footing₁, looks] at ticked₂
  have step₂ := ticks data id s { o with me := some me₁, asked := [] } me₁ me₂ _ _ rfl
    ticked₂
  have same₂ := footing₂.trans footing₁
  obtain ⟨me₃, ticked₃, footing₃, way₃, -⟩ :=
    MyPlayerWalk.tick_shoot (same₂.symm ▸ idle) (calm₂.trans calm₁)
  rw [same₂, looks] at ticked₃
  have step₃ := ticks data id s
    { o with me := some me₂, asked := [.turn (sideDir dir)] } me₂ me₃ _ _ rfl ticked₃
  -- The room turns it, and sends its shot back.
  have ready₃ : Ready id s { o with
      me := some me₃, asked := [.turn (sideDir dir), .attack dir WeaponType.bow] } :=
    ⟨ready.bound, ready.begun, ready.fine⟩
  have apart : (o.footing id).dir ≠ sideDir dir := by
    rw [← agrees, looks]
    exact other
  obtain ⟨o₄, info, step₄, ready₄, mine₄, asked₄, idGen₄, more₄, named, turns, footing₄⟩ :=
    ready₃.serve_turn data (sideDir dir) valid _ rfl apart
  obtain ⟨o₅, arrow, step₅, ready₅, mine₅, asked₅, footing₅, more₅⟩ :=
    ready₄.serve_shot data dir asked₄ (idGen₄ ▸ few)
  have told : o₅.unheard s =
      [.turn info, .attack id dir WeaponType.bow, .addObject ⟨[arrow]⟩] := by
    rw [more₅, more₄]
    exact congrArg (· ++ _) (congrArg (· ++ _) silent)
  have plain : Plain id [.turn info, .attack id dir WeaponType.bow, .addObject ⟨[arrow]⟩] := by
    intro pkt listed concerned
    simp only [List.mem_cons, List.not_mem_nil, or_false] at listed
    rcases listed with rfl | rfl | rfl
    · exact concerned
    · exact concerned
    · cases concerned
  obtain ⟨o₆, ran, world₆, asked₆, silent₆, ready₆, mine₆⟩ :=
    hears_all data _ o₅ me₃ (mine₅.trans mine₄) told plain ready₅
  -- Its shot has turned the client back, and not the server.
  have server : o₆.footing id = { o.footing id with dir := sideDir dir, state := .idle } := by
    have same : o₆.footing id = o₅.footing id := congrArg
      (fun world : World => (world.scene.players id).info.footing) world₆
    exact same.trans (footing₅.trans (footing₄.trans turns))
  have footing₆ : ([.turn info, .attack id dir WeaponType.bow, .addObject ⟨[arrow]⟩].foldl
      (MyPlayerWalk.hear id) me₃).footing.dir = dir ∧
    ([.turn info, .attack id dir WeaponType.bow, .addObject ⟨[arrow]⟩].foldl
      (MyPlayerWalk.hear id) me₃).footing.state = .idle ∧
    ([.turn info, .attack id dir WeaponType.bow, .addObject ⟨[arrow]⟩].foldl
      (MyPlayerWalk.hear id) me₃).movePending = false ∧
    ([.turn info, .attack id dir WeaponType.bow, .addObject ⟨[arrow]⟩].foldl
      (MyPlayerWalk.hear id) me₃).blockedHold = false := by
    have rests : info.state = .idle := congrArg Footing.state turns
    simp [MyPlayerWalk.hear, named, rests, way₃]
  generalize [.turn info, .attack id dir WeaponType.bow, .addObject ⟨[arrow]⟩].foldl
    (MyPlayerWalk.hear id) me₃ = me₆ at mine₆ footing₆
  obtain ⟨looks₆, idle₆, free₆, way₆⟩ := footing₆
  obtain ⟨me₇, ticked₇, -, -, waits₇, -⟩ := MyPlayerWalk.tick_turn idle₆ free₆ way₆
  rw [looks₆] at ticked₇
  have step₇ := ticks data id s o₆ me₆ me₇ _ _ mine₆ ticked₇
  rw [asked₆, asked₅, List.nil_append] at step₇
  have ready₇ : Ready id s { o₆ with me := some me₇, asked := [.turn (sideDir dir)] } :=
    ⟨ready₆.bound, ready₆.begun, ready₆.fine⟩
  obtain ⟨o₈, step₈, mine₈, asked₈, silent₈, footing₈⟩ :=
    ready₇.serve_again data (sideDir dir) valid rfl (congrArg Footing.dir server)
  refine ⟨o₈, ?_, me₇, mine₈, waits₇, ?_, ?_, ?_⟩
  · refine (Runs.run_next step₁ _).trans ((Runs.run_next step₂ _).trans ?_)
    refine (Runs.run_next step₃ _).trans ((Runs.run_next step₄ _).trans ?_)
    refine (Runs.run_next step₅ _).trans ?_
    have hears : Runs.run (Online.step data id s) o₅ (List.replicate 3 .hear ++
        [.tick (.holding (sideKey dir)), .serve []]) = some o₈ := by
      have rest := (Runs.run_next step₇ [.serve []]).trans (Runs.run_next step₈ [])
      rw [Runs.run_append]
      exact (congrArg (Option.bind · _) ran).trans rest
    exact hears
  · rw [asked₈]
    rfl
  · rw [silent₈]
    exact congrArg (List.filter _) silent₆
  · rw [footing₈]
    have stands : (o₆.footing id).state = .idle := congrArg Footing.state server
    intro moving
    exact absurd (stands.symm.trans moving) (by decide)

end Online

/-- In a dungeon, a client that has asked for nothing and heard all, and whose player stands,
comes to wait for ever by turning, shooting before it sees itself turned, and turning again. -/
theorem turning_and_shooting_sticks (channel : Int) (roomId : RoomName) (store : Store)
    (redisConnected : Bool) (rand : List Nat) (events : List RoomEvent) (before after : World)
    (id : ObjectId) (s : SessionId)
    (reached : Runs.run (World.roomStep data Job.remains)
      (World.oneRoom data .dungeon channel roomId store redisConnected rand) events = some before)
    (entering : List Nat)
    (entered : World.roomStep data Job.remains before (.job entering (.enterRoom s id)) = some after)
    (once : ∀ login ∈ before.routing.logins, login.session = s → login.player = id)
    (few : after.idGen ≤ Screen.idLimit) (course : List OnlineEvent)
    (patient : Runs.EachStep (Online.step data id s) (Online.Patient id s)
      (Online.enter s before after) course) (o : Online)
    (comes : Runs.run (Online.step data id s) (Online.enter s before after) course = some o)
    (asked : o.asked = []) (silent : o.unheard s = []) (rests : (o.footing id).state = .idle)
    (fine : o.world.scene.fault = none) (another : o.world.idGen < Screen.idLimit) :
    ∃ final, Runs.run (Online.step data id s) o (turnAndShoot (o.footing id).dir) = some final ∧
      final.Stuck id s := by
  have begins := Online.begins data .dungeon channel roomId store redisConnected rand events before
    after reached entering entered once few
  obtain ⟨l, kept, sound⟩ := Runs.run_invariant (Online.Patient id s)
    (fun o => ∃ l, Online.Kept id s o l ∧ l.Sound id)
    (fun o e next sound patient stepped => Online.sound_step data e sound patient stepped)
    _ o course begins patient comes
  obtain ⟨me, settles, agrees, steps⟩ := kept.follows sound
  unfold Online.settled at settles
  rw [silent, List.foldl_nil] at settles
  have free : me.movePending = false := by
    rw [asked] at steps
    cases pending : me.movePending with
    | false => rfl
    | true =>
        rw [pending] at steps
        cases steps
  exact Online.sticks data ⟨kept.bound, kept.begun, fine⟩ me settles agrees free asked silent rests
    another

def Online.isQuiet (id : ObjectId) (s : SessionId) (o : Online) : Bool :=
  o.asked.isEmpty && (o.unheard s).isEmpty && decide ((o.footing id).state = .idle) &&
    decide (o.world.scene.fault = none) && decide (o.world.idGen < Screen.idLimit)

set_option maxRecDepth 20000 in
theorem newcomer_sticks : ∃ before after o final, loneDungeon = some before ∧
    Runs.run (Online.step smallGame 1 1) (Online.enter 1 before after) (List.replicate 4 .hear) =
      some o ∧
    Runs.run (Online.step smallGame 1 1) o (turnAndShoot (o.footing 1).dir) = some final ∧
      final.Stuck 1 1 := by
  obtain ⟨before, after, o, reached, entered, once, few, comes, checked, patient⟩ :=
    lone_run (List.replicate 4 .hear) (Online.isQuiet 1 1) (by decide +kernel)
  obtain ⟨checked, another⟩ := Bool.and_eq_true_iff.mp checked
  obtain ⟨checked, fine⟩ := Bool.and_eq_true_iff.mp checked
  obtain ⟨checked, rests⟩ := Bool.and_eq_true_iff.mp checked
  obtain ⟨asked, silent⟩ := Bool.and_eq_true_iff.mp checked
  obtain ⟨final, ran, stuck⟩ := turning_and_shooting_sticks smallGame 0 .dungeonForest newStore false
    [] [.login 1 [97]] before after 1 1 reached [] entered once few (List.replicate 4 .hear) patient
    o comes (List.isEmpty_iff.mp asked) (List.isEmpty_iff.mp silent) (of_decide_eq_true rests)
    (of_decide_eq_true fine) (of_decide_eq_true another)
  exact ⟨before, after, o, final, reached, comes, ran, stuck⟩

end ZeldaServer
