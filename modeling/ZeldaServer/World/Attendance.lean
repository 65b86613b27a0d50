import ZeldaServer.World.Rosters
import ZeldaServer.World.Updates
import ZeldaServer.World.Utterances

/-! The people of one room, throughout its runs: nobody stands twice in it, and everybody looks
somewhere. -/

namespace ZeldaServer

variable (data : GameData)

structure World.Populated (w : World) : Prop where
  attended : w.Attended 0
  once : w.routing.Unrepeated
  made : 0 < w.routing.roomCount
  looking : ∀ id, (w.scene.players id).info.dir.isValid = true

theorem update_dir (now : Nat) (p : Player) : (Player.update now p).1.info.dir = p.info.dir := by
  unfold Player.update
  split <;> rfl

theorem hurtPlayer_dir (scene : Scene) (id other : ObjectId) (damage : Int) :
    ((scene.hurtPlayer id damage).players other).info.dir = (scene.players other).info.dir := by
  unfold Scene.hurtPlayer
  rw [Scene.setPlayer_players]
  split
  case isTrue same =>
    rw [same]
    unfold Player.onDamaged ObjectInfo.onDamaged
    split <;> rfl
  case isFalse => rfl

theorem actPlayer_dir (routing : Routing) (id other : ObjectId)
    (method : Player → Player × List Emission) (dir : ∀ p, (method p).1.info.dir = p.info.dir)
    (scene : Scene) :
    ((actPlayer routing id method scene).players other).info.dir =
      (scene.players other).info.dir := by
  unfold actPlayer
  rw [(Scene.Quiet.emissions routing id _ _).players, Scene.setPlayer_players]
  split
  case isTrue same => rw [same, dir]
  case isFalse => rfl

theorem beat_dirs {routing : Routing} {r : RoomRef} {a b : Scene × ObjectId}
    {labels : List (ObjectId × Int)} (beat : Scene.Beat data routing r a labels b) (id : ObjectId) :
    (b.1.players id).info.dir = (a.1.players id).info.dir := by
  have told (scene : Scene) (pkt : ServerPacket) :
      ((broadcast routing r pkt scene).players id).info.dir = (scene.players id).info.dir := by
    rw [(Scene.Quiet.broadcast routing r pkt scene).players]
  cases beat with
  | gained other share => exact actPlayer_dir routing other id _ (Player.gainExp_dir data share) a.1
  | looted other itemId =>
      exact actPlayer_dir routing other id _ (Player.addItem_dir data itemId 1) a.1
  | ticked other member => exact actPlayer_dir routing other id _ (update_dir a.1.now) a.1
  | hurt attacker other damage aimed => exact (told _ _).trans (hurtPlayer_dir a.1 other id damage)
  | failed | drew | kept | arrowKept | queued => rfl
  | _ => exact told _ _

theorem beats_dirs {routing : Routing} {r : RoomRef} {a b : Scene × ObjectId}
    {labels : List (ObjectId × Int)} (beats : Scene.Beats data routing r a labels b)
    (id : ObjectId) : (b.1.players id).info.dir = (a.1.players id).info.dir := by
  induction beats with
  | done a => rfl
  | next a middle b first rest now later ih => exact ih.trans (beat_dirs data now id)

theorem Routing.Unrepeated.addPlayer {a : Routing} (once : a.Unrepeated) (r : RoomRef)
    (id : ObjectId) : (a.addPlayer r id).Unrepeated := by
  intro r'
  unfold Routing.addPlayer
  dsimp only
  rw [rooms_setRoom]
  split
  case isFalse => exact once r'
  case isTrue =>
    dsimp only
    split
    case isTrue => exact once r
    case isFalse away =>
      exact (List.perm_orderedInsert _ id _).nodup_iff.mpr (List.nodup_cons.mpr ⟨away, once r⟩)

namespace World.Populated

variable {w : World}

theorem distinct (peopled : w.Populated) : (w.scene.fields 0).Distinct :=
  (List.nodup_append.mp peopled.attended.roster.apart).1

theorem locks (peopled : w.Populated) (s : SessionId) (id : ObjectId)
    (owner : (w.routing.sessions s).player = some id) (here : id ∈ playerIds w.routing 0)
    (scene : Scene) : lockPlayer w.routing scene [] s = some id := by
  have alive : roomAlive w.routing scene 0 = true := by
    unfold roomAlive
    rw [Bool.or_eq_true]
    right
    exact List.any_eq_true.mpr ⟨id, here, decide_eq_true (peopled.attended.housed id here)⟩
  apply lockPlayer_of_alive _ _ _ s id owner
  unfold playerAlive
  rw [Bool.or_eq_true]
  right
  refine List.any_eq_true.mpr ⟨0, List.mem_range.mpr peopled.made, ?_⟩
  rw [Bool.or_eq_true]
  left
  rw [alive, Bool.true_and]
  exact List.contains_iff_mem.mpr here

theorem itemJob (peopled : w.Populated) (method : Player → Player × List Emission) (s : SessionId)
    (named : ∀ p, (method p).1.info.objectId = p.info.objectId)
    (dir : ∀ p, (method p).1.info.dir = p.info.dir) : (itemJob method w s).Populated := by
  unfold ZeldaServer.itemJob
  cases lockPlayer w.routing w.scene [] s with
  | none => exact peopled
  | some id =>
      obtain ⟨attended, once, made, looking⟩ := peopled
      dsimp only
      refine ⟨?_, once, made, ?_⟩
      · refine attended.of_same ?_ rfl rfl rfl (fun _ => rfl) rfl
        have quiet := Scene.Quiet.emissions w.routing id (method (w.scene.players id)).2
          (w.scene.setPlayer id (method (w.scene.players id)).1)
        have set := attended.roster.setPlayer id (method (w.scene.players id)).1
          ((named _).trans (attended.roster.own id))
        exact set.of_same _ quiet.players quiet.fields
      · intro other
        exact (congrArg Dir.isValid (actPlayer_dir w.routing id other method dir w.scene)).trans
          (looking other)

theorem served {next : World} (peopled : w.Populated) (serves : w.Serves 0 next)
    (once : next.routing.Unrepeated) (count : next.routing.roomCount = w.routing.roomCount)
    (looks : ∀ id, (w.scene.players id).info.dir.isValid = true →
      (next.scene.players id).info.dir.isValid = true) : next.Populated where
  attended := serves.people
  once := once
  made := by
    rw [count]
    exact peopled.made
  looking := fun id => looks id (peopled.looking id)

theorem gameStep (peopled : w.Populated) :
    World.Populated
      ⟨w.routing, (gameStep data w.routing 0 w.scene w.idGen).1,
        (gameStep data w.routing 0 w.scene w.idGen).2⟩ := by
  apply peopled.served (.gameStep data peopled.attended) peopled.once rfl
  intro id valid
  have beats := Scene.Beats.gameStep data w.routing 0 w.scene w.idGen
  exact (congrArg Dir.isValid (beats_dirs data beats id)).trans valid

theorem handleCAttack (peopled : w.Populated) (s : SessionId) (pkt : CAttack)
    (standing : ∀ id, (w.routing.sessions s).player = some id → id ∈ playerIds w.routing 0) :
    (handleCAttack data w 0 s pkt).Populated := by
  have routing := handleCAttack_routing data w 0 s pkt
  have once := runJob_keeps data Routing.unrepeated_kept w 0 (.attack s pkt) rfl peopled.once
  apply peopled.served (.handleCAttack data peopled.attended s pkt standing) once
  · rw [routing]
    cases attackVictim w 0 s pkt <;> rfl
  · intro id valid
    obtain ⟨after, beats, result⟩ := Scene.Beats.handleCAttack data w 0 s pkt peopled.distinct
    have fought := beats_dirs data beats id
    rw [result]
    have buried : (World.bury ⟨w.routing, after.1, after.2⟩ 0 (attackVictim w 0 s pkt)).scene.players =
        after.1.players := by
      cases attackVictim w 0 s pkt with
      | none => rfl
      | some victim => exact (Scene.Quiet.broadcast _ 0 _ after.1).players
    rw [buried]
    exact (congrArg Dir.isValid fought).trans valid

theorem party {next : World} (peopled : w.Populated) (whispers : w.scene.Whispers next.scene)
    (idGen : next.idGen = w.idGen)
    (routing : ∃ parties, next.routing = w.routing.onParties (fun _ => parties)) :
    next.Populated := by
  have serves := World.Serves.party peopled.attended whispers idGen routing
  obtain ⟨parties, same⟩ := routing
  apply peopled.served serves
  · rw [same]
    exact peopled.once
  · rw [same]
    rfl
  · intro id valid
    rwa [whispers.quiet.players]

theorem enterRoom (peopled : w.Populated) (s : SessionId) (id : ObjectId)
    (login : ∃ login ∈ w.routing.logins, login.session = s ∧ login.player = id) :
    (w.enterRoom 0 s id).Populated where
  attended := peopled.attended.enterRoom login
  once := by
    rw [enterRoom_routing]
    exact Routing.Unrepeated.addPlayer (fun r => peopled.once r) 0 id
  made := by
    rw [enterRoom_routing]
    exact peopled.made
  looking := by
    intro other
    rw [(enterRoom_quiet w 0 s id).players, Scene.setPlayer_players]
    split
    · exact peopled.looking id
    · exact peopled.looking other

theorem leaveRoom (peopled : w.Populated) (s : SessionId) : (w.leaveRoom [] 0 s).Populated := by
  apply peopled.served (.leaveRoom peopled.attended [] s)
  · exact leaveRoom_keeps Routing.unrepeated_kept w [] 0 s peopled.once
  · rw [leaveRoom_routing]
    cases lockPlayer w.routing w.scene [] s with
    | none => rfl
    | some id => exact Routing.leave_roomCount w.routing 0 id
  · intro id valid
    rwa [(leaveRoom_quiet w [] 0 s).players]

theorem job (peopled : w.Populated) (job : Job) (remains : job.remains = true)
    (awaited : w.awaits 0 job = true) : (runJob data w 0 job).Populated := by
  have present (s : SessionId) (awaited : (w.routing.sessions s).player.any
      (· ∈ playerIds w.routing 0) = true) (id : ObjectId)
      (owner : (w.routing.sessions s).player = some id) : id ∈ playerIds w.routing 0 := by
    rw [owner] at awaited
    exact of_decide_eq_true awaited
  have mirrored {scene : Scene} (people : w.Attended 0) (mirrored : Scene.Mirrored w.routing 0
      w.routing.LoggedPlayer (w.scene, w.idGen) [] (scene, w.idGen)) :
      w.Serves 0 { w with scene } := .of_mirrored people mirrored (List.forall_mem_nil _)
  cases job with
  | move s pkt =>
      have serves := mirrored peopled.attended (handleCMove_mirrored (present s awaited) pkt _ _)
      exact peopled.served serves peopled.once rfl (handleCMove_ground w.routing 0 s pkt w.scene).looks
  | turn s pkt =>
      have serves := mirrored peopled.attended (handleCTurn_mirrored (present s awaited) pkt _ _)
      exact peopled.served serves peopled.once rfl (handleCTurn_ground w.routing 0 s pkt w.scene).looks
  | attack s pkt => exact peopled.handleCAttack data s pkt (present s awaited)
  | changeMap s pkt => cases remains
  | equipItem s slot =>
      exact peopled.itemJob _ s (fun p => congrArg Prod.fst (Player.equipItem_gait data slot p))
        (Player.equipItem_dir data slot)
  | unequipItem s equipType =>
      exact peopled.itemJob _ s
        (fun p => congrArg Prod.fst (Player.unequipItem_gait data equipType p))
        (Player.unequipItem_dir data equipType)
  | useItem s slot =>
      exact peopled.itemJob _ s (fun p => congrArg Prod.fst (Player.useItem_gait data slot p))
        (Player.useItem_dir data slot)
  | partyInvite s targetId =>
      exact peopled.party (partyInvite_whispers w 0 s targetId) (partyInvite_idGen w 0 s targetId)
        ⟨w.routing.parties, partyInvite_routing w 0 s targetId⟩
  | partyAnswer s inviterId accept =>
      obtain ⟨parties, routing, -⟩ := partyAnswer_routing w 0 s inviterId accept
      exact peopled.party (partyAnswer_whispers w 0 s inviterId accept)
        (partyAnswer_idGen w 0 s inviterId accept) ⟨parties, routing⟩
  | partyLeave s =>
      obtain ⟨parties, routing, -⟩ := partyLeave_routing w 0 s
      exact peopled.party (partyLeave_whispers w 0 s) (partyLeave_idGen w 0 s) ⟨parties, routing⟩
  | enterRoom s id =>
      obtain ⟨login, member, same⟩ := List.any_eq_true.mp awaited
      exact peopled.enterRoom s id ⟨login, member, of_decide_eq_true same⟩
  | leaveRoom s => exact peopled.leaveRoom s

theorem handleCLogin (peopled : w.Populated) (s : SessionId) (username : Bytes) :
    (handleCLogin data w s username).Populated := by
  have looks := handleCLogin_looks data w s username
  have serves := World.Serves.handleCLogin data peopled.attended s username
  rcases handleCLogin_cases data w s username with ⟨store, looked, -⟩ | ⟨-, -, logged, -⟩
  · apply peopled.served serves
    · rw [looked]
      exact peopled.once
    · rw [looked]
      rfl
    · exact looks
  · apply peopled.served serves
    · rw [logged]
      intro r
      rw [Routing.loggedIn_players]
      exact peopled.once r
    · rw [logged]
      unfold Routing.loggedIn Routing.enterTown
      split <;> rfl
    · exact looks

theorem supplied (peopled : w.Populated) (job : Job) (rand : List Nat) :
    World.Populated
      { w with routing := w.routing.takeJob 0 job, scene := { w.scene with rand } } := by
  have players (r : RoomRef) :
      ((w.routing.takeJob 0 job).rooms r).players = (w.routing.rooms r).players := by
    unfold Routing.takeJob
    rw [Routing.rooms_setRoom]
    split
    case isTrue same => rw [same]
    case isFalse => rfl
  refine ⟨?_, ?_, peopled.made, peopled.looking⟩
  · exact peopled.attended.of_same (peopled.attended.roster.of_same _ rfl rfl) (players 0) rfl rfl
      (fun _ => rfl) rfl
  · intro r
    rw [players]
    exact peopled.once r

end World.Populated

def World.taking (w : World) (rand : List Nat) (job : Job) : World :=
  { w with routing := w.routing.takeJob 0 job, scene := { w.scene with rand } }

inductive World.RoomStepped (w : World) : RoomEvent → World → Prop where
  | login (s : SessionId) (username : Bytes) :
      RoomStepped w (.login s username) (handleCLogin data w s username)
  | job (rand : List Nat) (job : Job) (remains : job.remains = true)
      (awaited : (w.taking rand job).awaits 0 job = true) :
      RoomStepped w (.job rand job) (runJob data (w.taking rand job) 0 job)
  | step (rand : List Nat) :
      RoomStepped w (.step rand)
        ⟨w.routing, (gameStep data w.routing 0 { w.scene with rand } w.idGen).1,
          (gameStep data w.routing 0 { w.scene with rand } w.idGen).2⟩
  | clock (now : Nat) : RoomStepped w (.clock now) (w.onScene fun scene => { scene with now })

theorem roomStep_stepped {w next : World} {e : RoomEvent}
    (stepped : World.roomStep data Job.remains w e = some next) : w.RoomStepped data e next := by
  unfold World.roomStep at stepped
  split at stepped
  · cases stepped
  · cases e with
    | login s username =>
        cases stepped
        exact .login s username
    | step rand =>
        cases stepped
        exact .step rand
    | clock now =>
        dsimp only at stepped
        split at stepped
        · cases stepped
          exact .clock now
        · cases stepped
    | job rand job =>
        dsimp only at stepped
        split at stepped
        case isFalse => cases stepped
        case isTrue admitted =>
          rw [Bool.and_eq_true] at admitted
          cases stepped
          apply World.RoomStepped.job rand job admitted.1
          rw [← admitted.2]
          have players : playerIds (w.routing.takeJob 0 job) 0 = playerIds w.routing 0 := by
            unfold playerIds Routing.takeJob
            rw [Routing.rooms_setRoom, if_pos rfl]
          unfold World.awaits World.taking
          dsimp only
          rw [players]
          cases job <;> rfl

theorem World.Populated.roomStep {w next : World} {e : RoomEvent} (peopled : w.Populated)
    (stepped : World.roomStep data Job.remains w e = some next) : next.Populated := by
  cases roomStep_stepped data stepped with
  | login s username => exact peopled.handleCLogin data s username
  | job rand job remains awaited => exact (peopled.supplied job rand).job data job remains awaited
  | step rand =>
      have drawn : World.Populated { w with scene := { w.scene with rand } } :=
        ⟨peopled.attended.of_same (peopled.attended.roster.of_same _ rfl rfl) rfl rfl rfl
          (fun _ => rfl) rfl, peopled.once, peopled.made, peopled.looking⟩
      exact drawn.gameStep data
  | clock now =>
      exact ⟨peopled.attended.of_same (peopled.attended.roster.of_same _ rfl rfl) rfl rfl rfl
        (fun _ => rfl) rfl, peopled.once, peopled.made, peopled.looking⟩

theorem World.Populated.oneRoom (fieldId : FieldId) (channel : Int) (roomId : RoomName) (store : Store)
    (redisConnected : Bool) (rand : List Nat) :
    (World.oneRoom data fieldId channel roomId store redisConnected rand).Populated := by
  have attended :=
    (InStep.oneRoom data fieldId channel roomId store redisConnected rand).people
  have vacant (room : Room) (nobody : room.players = []) :
      ((World.empty data store redisConnected rand).routing.addRoom room).Unrepeated := by
    intro r
    rw [Routing.rooms_addRoom]
    split
    · rw [nobody]
      exact List.nodup_nil
    · exact List.nodup_nil
  have created (routing : Routing) (roomId : RoomName) (scene : Scene)
      (players : scene.players = Player.create data) (id : ObjectId) :
      ((initFromConfig data routing 0 roomId scene 1).1.players id).info.dir.isValid = true := by
    obtain ⟨born, chain, -⟩ := initFromConfig_births data routing 0 roomId scene 1
    rw [(births_keep data routing 0 chain).2.1]
    exact (congrArg (fun players => (players id).info.dir.isValid) players : _)
  cases fieldId with
  | town =>
      refine ⟨attended, vacant (Room.create .town channel 0) rfl, Nat.one_pos, ?_⟩
      exact created _ roomId _ rfl
  | dungeon =>
      refine ⟨attended, vacant (Room.create .dungeon 0 1) rfl, Nat.one_pos, ?_⟩
      exact created _ .dungeonForest _ rfl

end ZeldaServer
