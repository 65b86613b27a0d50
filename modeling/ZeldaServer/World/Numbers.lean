import ZeldaServer.World.Acts

/-! One generator numbers all objects: no two monsters of a room have one id, no monster
and no arrow has the id of a player, and the owner of an arrow is a player. -/

namespace ZeldaServer

open Chains (Chain)

variable (data : GameData)

/-- The objects of the rooms under a generator; `taken` are the ids of the players that
were created by logins. -/
structure Scene.Numbered (scene : Scene) (idGen : ObjectId) (taken : ObjectId → Prop) : Prop where
  own : ∀ id, (scene.players id).info.objectId = id
  distinct : ∀ r, (scene.fields r).Distinct
  monsters : ∀ r, ∀ m ∈ (scene.fields r).monsters,
    m.info.objectId < idGen ∧ ¬ taken m.info.objectId
  arrows : ∀ r, ∀ a ∈ (scene.fields r).projectiles,
    a.info.objectId < idGen ∧ ¬ taken a.info.objectId ∧ taken a.ownerId

def Routing.LoggedPlayer (a : Routing) (id : ObjectId) : Prop := ∃ l ∈ a.logins, l.player = id

def World.Numbered (w : World) : Prop :=
  w.scene.Numbered w.idGen w.routing.LoggedPlayer

theorem setField_cases (scene : Scene) (r r' : RoomRef) (field : Field) :
    (r' = r ∧ (scene.setField r field).fields r' = field) ∨
      (scene.setField r field).fields r' = scene.fields r' := by
  by_cases same : r' = r
  · subst same
    exact .inl ⟨rfl, Function.update_self _ _ _⟩
  · exact .inr (Function.update_of_ne same _ _)

theorem tryReserve_fields (m : Monster) (now : Nat) (field : Field) :
    (tryReserve m now field).monsters = field.monsters ∧
      (tryReserve m now field).projectiles = field.projectiles ∧
      (tryReserve m now field).tilemap = field.tilemap ∧
      (tryReserve m now field).config = field.config := by
  unfold tryReserve
  split
  · exact ⟨rfl, rfl, rfl, rfl⟩
  · split <;> exact ⟨rfl, rfl, rfl, rfl⟩

theorem dropMonster_field (scene : Scene) (r : RoomRef) (m : Monster) :
    ((scene.dropMonster r m).fields r).monsters =
        (scene.fields r).monsters.filter (·.info.objectId ≠ m.info.objectId) ∧
      ((scene.dropMonster r m).fields r).projectiles = (scene.fields r).projectiles ∧
      ((scene.dropMonster r m).fields r).tilemap = (scene.fields r).tilemap ∧
      ((scene.dropMonster r m).fields r).config = (scene.fields r).config := by
  obtain ⟨monsters, projectiles, tilemap, config⟩ :=
    tryReserve_fields m scene.now (scene.fields r)
  unfold Scene.dropMonster Scene.setField
  simp only [Function.update_self]
  exact ⟨by rw [monsters], projectiles, tilemap, config⟩

theorem dropMonster_others (scene : Scene) (r r' : RoomRef) (m : Monster) (other : r' ≠ r) :
    (scene.dropMonster r m).fields r' = scene.fields r' := Function.update_of_ne other _ _

theorem setMonster_others (scene : Scene) (r r' : RoomRef) (m : Monster) (other : r' ≠ r) :
    (scene.setMonster r m).fields r' = scene.fields r' := Function.update_of_ne other _ _

theorem deed_others (routing : Routing) (r r' : RoomRef) (other : r' ≠ r) (a b : Scene)
    (removed : List Monster) (deed : Scene.Deed routing r a removed b) :
    b.fields r' = a.fields r' := by
  cases deed with
  | quiet b same => rw [same.fields]
  | player id p gait => rfl
  | tick id => rfl
  | monster m m' member tag cell => exact setMonster_others a r r' m' other
  | removed m member => exact dropMonster_others a r r' m other
  | arrows projectiles known => exact Function.update_of_ne other _ _

theorem deeds_others (routing : Routing) (r r' : RoomRef) (other : r' ≠ r) {a b : Scene}
    {removed : List Monster} (chain : a.Deeds routing r removed b) :
    b.fields r' = a.fields r' := by
  apply chain.relates (fun a _ b => b.fields r' = a.fields r')
  · exact fun _ => rfl
  · intro a middle b first rest now later
    exact later.trans (deed_others routing r r' other a middle first now)

theorem filter_others_perm (monsters : List Monster) (m : Monster) (member : m ∈ monsters)
    (distinct : (monsters.map (·.info.objectId)).Nodup) :
    monsters.Perm (m :: monsters.filter (·.info.objectId ≠ m.info.objectId)) := by
  induction monsters with
  | nil => cases member
  | cons head tail ih =>
      rw [List.map_cons, List.nodup_cons] at distinct
      rcases List.mem_cons.mp member with rfl | later
      · have others : tail.filter (·.info.objectId ≠ m.info.objectId) = tail := by
          apply List.filter_eq_self.mpr
          intro other listed
          apply decide_eq_true
          intro same
          exact distinct.1 (same ▸ List.mem_map_of_mem listed)
        rw [List.filter_cons_of_neg (by simp), others]
      · have apart : head.info.objectId ≠ m.info.objectId := by
          intro same
          exact distinct.1 (same ▸ List.mem_map_of_mem later)
        rw [List.filter_cons_of_pos (by simpa using apart)]
        exact ((ih later distinct.2).cons head).trans (.swap m head _)

namespace Scene.Numbered

variable {scene : Scene} {idGen : ObjectId} {taken : ObjectId → Prop}

theorem of_fields {scene' : Scene} (numbered : scene.Numbered idGen taken)
    (players : scene'.players = scene.players)
    (monsters : ∀ r, (scene'.fields r).monsters = (scene.fields r).monsters)
    (projectiles : ∀ r, (scene'.fields r).projectiles = (scene.fields r).projectiles) :
    scene'.Numbered idGen taken where
  own := fun id => by rw [players]; exact numbered.own id
  distinct := fun r => by
    unfold Field.Distinct
    rw [monsters]
    exact numbered.distinct r
  monsters := fun r m member => numbered.monsters r m (monsters r ▸ member)
  arrows := fun r a member => numbered.arrows r a (projectiles r ▸ member)

theorem raise {idGen' : ObjectId} {taken' : ObjectId → Prop}
    (numbered : scene.Numbered idGen taken) (later : idGen ≤ idGen')
    (more : ∀ id, taken id → taken' id) (new : ∀ id, taken' id → taken id ∨ idGen ≤ id) :
    scene.Numbered idGen' taken' := by
  have apart (id : ObjectId) (below : id < idGen) (free : ¬ taken id) : ¬ taken' id := by
    intro is_taken
    rcases new id is_taken with before | above
    · exact free before
    · exact Nat.not_le_of_lt below above
  constructor
  case own => exact numbered.own
  case distinct => exact numbered.distinct
  case monsters =>
    intro r m member
    obtain ⟨below, free⟩ := numbered.monsters r m member
    exact ⟨Nat.lt_of_lt_of_le below later, apart _ below free⟩
  case arrows =>
    intro r a member
    obtain ⟨below, free, owner⟩ := numbered.arrows r a member
    exact ⟨Nat.lt_of_lt_of_le below later, apart _ below free, more _ owner⟩

theorem setPlayer (numbered : scene.Numbered idGen taken) (id : ObjectId) (p : Player)
    (named : p.info.objectId = id) : (scene.setPlayer id p).Numbered idGen taken where
  own := by
    intro other
    by_cases same : other = id
    · subst same
      simpa [Scene.setPlayer] using named
    · simpa [Scene.setPlayer, same] using numbered.own other
  distinct := numbered.distinct
  monsters := numbered.monsters
  arrows := numbered.arrows

theorem of_room {scene' : Scene} (numbered : scene.Numbered idGen taken) (r : RoomRef)
    (players : scene'.players = scene.players)
    (others : ∀ r', r' ≠ r → scene'.fields r' = scene.fields r')
    (distinct : (scene'.fields r).Distinct)
    (monsters : ∀ m ∈ (scene'.fields r).monsters,
      m.info.objectId < idGen ∧ ¬ taken m.info.objectId)
    (arrows : ∀ a ∈ (scene'.fields r).projectiles,
      a.info.objectId < idGen ∧ ¬ taken a.info.objectId ∧ taken a.ownerId) :
    scene'.Numbered idGen taken := by
  constructor
  case own =>
    intro id
    rw [players]
    exact numbered.own id
  case distinct =>
    intro r'
    by_cases same : r' = r
    · rwa [same]
    · rw [others r' same]
      exact numbered.distinct r'
  case monsters =>
    intro r' m found
    by_cases same : r' = r
    · exact monsters m (same ▸ found)
    · exact numbered.monsters r' m (others r' same ▸ found)
  case arrows =>
    intro r' a found
    by_cases same : r' = r
    · exact arrows a (same ▸ found)
    · exact numbered.arrows r' a (others r' same ▸ found)

theorem deed (numbered : scene.Numbered idGen taken) (routing : Routing) (r : RoomRef)
    (removed : List Monster) (scene' : Scene)
    (deed : Scene.Deed routing r scene removed scene') : scene'.Numbered idGen taken := by
  cases deed with
  | quiet b same =>
      exact numbered.of_fields same.players (fun r => by rw [same.fields])
        (fun r => by rw [same.fields])
  | player id p gait =>
      exact numbered.setPlayer id p ((congrArg Prod.fst gait).trans (numbered.own id))
  | tick id =>
      apply numbered.setPlayer id
      unfold Player.update
      split <;> exact numbered.own id
  | monster m m' member tag cell =>
      have named : m'.info.objectId = m.info.objectId := congrArg Prod.fst tag
      have listed : m'.info.objectId ∈ (scene.fields r).monsters.map (·.info.objectId) :=
        List.mem_map.mpr ⟨m, member, named.symm⟩
      apply numbered.of_room r
      case players => rfl
      case others => exact fun r' => setMonster_others scene r r' m'
      case distinct =>
        unfold Field.Distinct
        rw [setMonster_ids]
        exact numbered.distinct r
      case monsters =>
        intro x found
        rcases (mem_setMonster_iff r m' x scene listed).mp found with rfl | ⟨old, -⟩
        · rw [named]
          exact numbered.monsters r m member
        · exact numbered.monsters r x old
      case arrows =>
        intro a found
        simp only [Scene.setMonster, Scene.setField, Function.update_self] at found
        exact numbered.arrows r a found
  | removed m member =>
      obtain ⟨monsters, projectiles, -, -⟩ := dropMonster_field scene r m
      apply numbered.of_room r
      case players => rfl
      case others => exact fun r' => dropMonster_others scene r r' m
      case distinct =>
        unfold Field.Distinct
        rw [monsters]
        exact (numbered.distinct r).sublist (List.filter_sublist.map _)
      case monsters =>
        intro x found
        rw [monsters] at found
        exact numbered.monsters r x (List.mem_of_mem_filter found)
      case arrows =>
        intro a found
        rw [projectiles] at found
        exact numbered.arrows r a found
  | arrows projectiles known =>
      have here : (scene.setField r { scene.fields r with projectiles }).fields r =
          { scene.fields r with projectiles } := Function.update_self _ _ _
      apply numbered.of_room r
      case players => rfl
      case others => exact fun r' other => Function.update_of_ne other _ _
      case distinct =>
        rw [here]
        exact numbered.distinct r
      case monsters =>
        intro m found
        rw [here] at found
        exact numbered.monsters r m found
      case arrows =>
        intro a found
        rw [here] at found
        obtain ⟨old, member, named, owner⟩ := known a found
        rw [named, owner]
        exact numbered.arrows r old member

theorem deeds (numbered : scene.Numbered idGen taken) (routing : Routing) (r : RoomRef)
    {removed : List Monster} {scene' : Scene} (chain : scene.Deeds routing r removed scene') :
    scene'.Numbered idGen taken :=
  chain.keeps (fun scene => scene.Numbered idGen taken)
    (fun _ labels after now change => now.deed routing r labels after change) numbered

theorem birth {made made' : Scene × ObjectId} {born : List Monster} (routing : Routing)
    (r : RoomRef) (numbered : made.1.Numbered made.2 taken)
    (unused : ∀ id, taken id → id < made.2)
    (birth : Scene.Birth data routing r made born made') :
    made'.1.Numbered made'.2 taken ∧ ∀ id, taken id → id < made'.2 := by
  cases birth with
  | waits request =>
      refine ⟨numbered.of_fields rfl (fun r' => ?_) (fun r' => ?_), unused⟩
      · rcases setField_cases made.1 r r' { made.1.fields r with
          respawnQueue := (made.1.fields r).respawnQueue ++ [request] } with ⟨rfl, here⟩ | away
        · rw [Scene.waitFor, here]
        · rw [Scene.waitFor, away]
      · rcases setField_cases made.1 r r' { made.1.fields r with
          respawnQueue := (made.1.fields r).respawnQueue ++ [request] } with ⟨rfl, here⟩ | away
        · rw [Scene.waitFor, here]
        · rw [Scene.waitFor, away]
  | born cell aggroRange leashRange templateId b next players fields now free =>
      generalize known : createMonster data made.2 cell aggroRange leashRange templateId = m
      rw [known] at fields
      have named : m.info.objectId = made.2 := by
        rw [← known]
        rfl
      have later : made.2 ≤ made'.2 := next ▸ Nat.le_succ made.2
      have raised : made.1.Numbered made'.2 taken :=
        numbered.raise later (fun _ => id) (fun _ => .inl)
      have here : made'.1.fields r = { made.1.fields r with
          monsters := (made.1.fields r).monsters ++ [m] } := by
        rw [fields]
        exact Function.update_self _ _ _
      refine ⟨?_, fun id is_taken => Nat.lt_of_lt_of_le (unused id is_taken) later⟩
      apply raised.of_room r players
      case others =>
        intro r' other
        rw [fields]
        exact Function.update_of_ne other _ _
      case distinct =>
        unfold Field.Distinct
        rw [here, List.map_append, List.map_singleton]
        apply List.nodup_append.mpr
        refine ⟨numbered.distinct r, List.nodup_singleton _, ?_⟩
        intro id old last new same
        obtain ⟨x, member, rfl⟩ := List.mem_map.mp old
        rw [List.mem_singleton.mp new, named] at same
        exact Nat.ne_of_lt (numbered.monsters r x member).1 same
      case monsters =>
        intro x found
        rw [here] at found
        rcases List.mem_append.mp found with old | new
        · exact raised.monsters r x old
        · rw [List.mem_singleton.mp new, named]
          exact ⟨next ▸ Nat.lt_succ_self _, fun is_taken => Nat.lt_irrefl _ (unused _ is_taken)⟩
      case arrows =>
        intro a found
        rw [here] at found
        exact raised.arrows r a found

theorem births {made made' : Scene × ObjectId} {born : List Monster} (routing : Routing)
    (r : RoomRef) (numbered : made.1.Numbered made.2 taken)
    (unused : ∀ id, taken id → id < made.2)
    (births : Scene.Births data routing r made born made') : made'.1.Numbered made'.2 taken :=
  (births.keeps
    (fun made => made.1.Numbered made.2 taken ∧ ∀ id, taken id → id < made.2)
    (fun _ _ _ now change => birth data routing r now.1 now.2 change) ⟨numbered, unused⟩).1

end Scene.Numbered

theorem configured_numbered (roomId : RoomName) (scene : Scene) (r : RoomRef) (idGen : ObjectId)
    (taken : ObjectId → Prop) (numbered : scene.Numbered idGen taken) :
    (scene.setField r (configured data roomId (scene.fields r))).Numbered idGen taken := by
  have field (r' : RoomRef) :=
    setField_cases scene r r' (configured data roomId (scene.fields r))
  have kept : (configured data roomId (scene.fields r)).monsters = (scene.fields r).monsters ∧
      (configured data roomId (scene.fields r)).projectiles = (scene.fields r).projectiles := by
    unfold configured
    cases data.roomConfig roomId <;> exact ⟨rfl, rfl⟩
  refine numbered.of_fields rfl (fun r' => ?_) (fun r' => ?_)
  · rcases field r' with ⟨rfl, here⟩ | away
    · rw [here, kept.1]
    · rw [away]
  · rcases field r' with ⟨rfl, here⟩ | away
    · rw [here, kept.2]
    · rw [away]

theorem stepped_numbered (w : World) (r : RoomRef) (rand : List Nat) (numbered : w.Numbered)
    (fresh : ∀ id, w.routing.LoggedPlayer id → id < w.idGen) :
    (w.afterStep data r rand).1.Numbered (w.afterStep data r rand).2 w.routing.LoggedPlayer := by
  have supplied : { w.scene with rand }.Numbered w.idGen w.routing.LoggedPlayer :=
    numbered.of_fields rfl (fun _ => rfl) (fun _ => rfl)
  obtain ⟨removed, chain⟩ := Scene.Deeds.stepObjects data w.routing r { w.scene with rand }
  have moved := supplied.deeds w.routing r chain
  obtain ⟨-, players, -, monsters, -, projectiles, -, others⟩ :=
    drained_keeps r (stepObjects data w.routing r { w.scene with rand })
  have drained : ((stepObjects data w.routing r { w.scene with rand }).drained r).Numbered w.idGen
      w.routing.LoggedPlayer := by
    apply moved.of_fields players
    · intro r'
      by_cases same : r' = r
      · rw [same, monsters]
      · rw [others r' same]
    · intro r'
      by_cases same : r' = r
      · rw [same, projectiles]
      · rw [others r' same]
  obtain ⟨born, births, -⟩ := spawnTick_births data w.routing r
    (stepObjects data w.routing r { w.scene with rand }) w.idGen
  have spawned := Scene.Numbered.births data w.routing r drained fresh births
  unfold World.afterStep
  rw [gameStep_eq]
  dsimp only
  generalize spawnTick data w.routing r (stepObjects data w.routing r { w.scene with rand })
    w.idGen = made at spawned
  have field (r' : RoomRef) := setField_cases made.1 r r' { made.1.fields r with
    nextTick := (made.1.fields r).nextTick + kTickMs }
  refine spawned.of_fields rfl (fun r' => ?_) (fun r' => ?_)
  · rcases field r' with ⟨rfl, here⟩ | away
    · rw [here]
    · rw [away]
  · rcases field r' with ⟨rfl, here⟩ | away
    · rw [here]
    · rw [away]

theorem runJob_logins (w : World) (r : RoomRef) (job : Job) (inRange : w.routing.InRange) :
    (runJob data w r job).routing.logins = w.routing.logins := by
  cases job with
  | enterRoom s id =>
      rw [runJob, enterRoom_routing]
      rfl
  | _ => exact (runJob_calm data w r _ inRange rfl).logins

theorem did_numbered (w v : World) (r : RoomRef) (job : Job) (numbered : w.Numbered)
    (known : w.Known) (did : w.Did data r v job) :
    v.scene.Numbered v.idGen w.routing.LoggedPlayer := by
  have logged (s : SessionId) (id : ObjectId)
      (locked : lockPlayer w.routing w.scene [] s = some id) : w.routing.LoggedPlayer id :=
    known.placed id (placed_of_alive _ _ _ (lockPlayer_some _ _ _ _ _ locked).2)
  have fresh (id : ObjectId) (is_taken : w.routing.LoggedPlayer id) : id < w.idGen := by
    obtain ⟨l, member, rfl⟩ := is_taken
    exact known.fresh l member
  have told {a b : Scene} {idGen : ObjectId} (quiet : a.Quiet b)
      (before : a.Numbered idGen w.routing.LoggedPlayer) :
      b.Numbered idGen w.routing.LoggedPlayer :=
    before.of_fields quiet.players (fun r => by rw [quiet.fields]) (fun r => by rw [quiet.fields])
  cases did with
  | deeds job removed stays chain idGen =>
      rw [idGen]
      exact numbered.deeds w.routing r chain
  | moved s pkt result =>
      subst result
      cases moves : moveTarget w.routing r s pkt w.scene with
      | some target =>
          apply told (handleCMove_moves w.routing r s pkt w.scene target.1 target.2 moves)
          exact numbered.setPlayer _ _ (numbered.own _)
      | none =>
          rcases handleCMove_stays w.routing r s pkt w.scene moves with quiet | ⟨id, dir, -, -, quiet⟩
          · exact told quiet numbered
          · exact told quiet (numbered.setPlayer _ _ (numbered.own _))
  | turned s pkt result =>
      subst result
      rcases handleCTurn_cases w.routing r s pkt w.scene with quiet | ⟨id, -, -, -, quiet⟩
      · exact told quiet numbered
      · exact told quiet (numbered.setPlayer _ _ (numbered.own _))
  | shot s pkt attacker arrow scene locked named owner quiet result =>
      subst result
      have before := told quiet numbered
      rw [numbered.own] at owner
      have said := Scene.Quiet.broadcast w.routing r (.addObject ⟨[arrow.info]⟩)
        (scene.setField r
          { scene.fields r with projectiles := (scene.fields r).projectiles ++ [arrow] })
      apply told said
      have raised : scene.Numbered (w.idGen + 1) w.routing.LoggedPlayer :=
        before.raise (Nat.le_succ w.idGen) (fun _ => id) (fun _ => .inl)
      have here : (scene.setField r { scene.fields r with
          projectiles := (scene.fields r).projectiles ++ [arrow] }).fields r =
          { scene.fields r with projectiles := (scene.fields r).projectiles ++ [arrow] } :=
        Function.update_self _ _ _
      apply raised.of_room r
      case players => rfl
      case others => exact fun r' other => Function.update_of_ne other _ _
      case distinct =>
        rw [here]
        exact raised.distinct r
      case monsters =>
        intro m found
        rw [here] at found
        exact raised.monsters r m found
      case arrows =>
        intro a found
        rw [here] at found
        rcases List.mem_append.mp found with old | new
        · exact raised.arrows r a old
        · rw [List.mem_singleton.mp new, named, owner]
          exact ⟨Nat.lt_succ_self _, fun is_taken => Nat.lt_irrefl _ (fresh _ is_taken),
            logged s attacker locked⟩
  | opened s pkt made idGen roomCount =>
      rw [idGen]
      apply told made
      obtain ⟨born, births, -⟩ := initFromConfig_births data w.routing.openDungeon
        w.routing.roomCount .dungeonForest (w.scene.setField w.routing.roomCount .empty) w.idGen
      refine Scene.Numbered.births data w.routing.openDungeon w.routing.roomCount ?_ fresh births
      have emptied : (w.scene.setField w.routing.roomCount .empty).Numbered w.idGen
          w.routing.LoggedPlayer := by
        have here : (w.scene.setField w.routing.roomCount .empty).fields w.routing.roomCount =
            .empty := Function.update_self _ _ _
        apply numbered.of_room w.routing.roomCount
        case players => rfl
        case others => exact fun r' other => Function.update_of_ne other _ _
        case distinct =>
          rw [here]
          exact List.nodup_nil
        case monsters =>
          intro m found
          rw [here] at found
          cases found
        case arrows =>
          intro a found
          rw [here] at found
          cases found
      exact configured_numbered data _ _ _ _ _ emptied
  | entered s id result =>
      subst result
      rw [enterRoom_idGen]
      apply told (enterRoom_quiet w r s id)
      exact numbered.setPlayer _ _ (numbered.own _)

structure World.Orderly (w : World) : Prop extends w.Sound where
  numbered : w.Numbered

theorem step_orderly (w next : World) (e : Event) (orderly : w.Orderly)
    (stepped : w.step data e = some next) : next.Orderly := by
  have sound := step_sound data w next e orderly.toSound stepped
  refine ⟨sound, ?_⟩
  have numbered := orderly.numbered
  have fresh (id : ObjectId) (is_taken : w.routing.LoggedPlayer id) : id < w.idGen := by
    obtain ⟨l, member, rfl⟩ := is_taken
    exact orderly.fresh l member
  have logins := step_logins data w next e orderly.inRange stepped
  have more (id : ObjectId) (logged : w.routing.LoggedPlayer id) :
      next.routing.LoggedPlayer id := by
    obtain ⟨l, member, player⟩ := logged
    refine ⟨l, ?_, player⟩
    rcases logins with ⟨same, -⟩ | ⟨s, username, -, -, added, -⟩
    · rwa [same]
    · rw [added]
      exact List.mem_cons_of_mem _ member
  have new (id : ObjectId) (logged : next.routing.LoggedPlayer id) :
      w.routing.LoggedPlayer id ∨ w.idGen ≤ id := by
    obtain ⟨l, member, player⟩ := logged
    rcases logins with ⟨same, -⟩ | ⟨s, username, -, -, added, -⟩
    · rw [same] at member
      exact .inl ⟨l, member, player⟩
    · rw [added] at member
      rcases List.mem_cons.mp member with rfl | old
      · exact .inr (Nat.le_of_eq player)
      · exact .inl ⟨l, old, player⟩
  have kept (same : next.routing.logins = w.routing.logins)
      (before : next.scene.Numbered next.idGen w.routing.LoggedPlayer) : next.Numbered := by
    unfold World.Numbered Routing.LoggedPlayer
    rw [same]
    exact before
  cases step_acted data w next e stepped with
  | still e jobless stepless same =>
      refine Scene.Numbered.raise ?_ (Nat.le_of_eq same.idGen.symm) more new
      apply numbered.of_fields same.players
      · intro r
        obtain ⟨nextTick, field⟩ := same.fields r
        rw [field]
      · intro r
        obtain ⟨nextTick, field⟩ := same.fields r
        rw [field]
  | login s username player named players fields now standing idGen =>
      refine Scene.Numbered.raise ?_ (idGen ▸ Nat.le_succ w.idGen) more new
      have created := numbered.setPlayer w.idGen player named
      apply created.of_fields players
      · intro r
        rw [fields]
        rfl
      · intro r
        rw [fields]
        rfl
  | ran rand r job rest front result =>
      subst result
      have ranged := (forJob_keeps w r job rest rand front).inRange orderly.inRange
      have known := forJob_known w r job rest rand orderly.toKnown front
      have before : (w.forJob r rest rand).Numbered :=
        numbered.of_fields rfl (fun _ => rfl) (fun _ => rfl)
      apply kept (runJob_logins data _ r job ranged)
      exact did_numbered data (w.forJob r rest rand) _ r job before known
        (runJob_did data _ r job (before.distinct r))
  | stepped rand pass r steps under_way current scene idGen rooms same =>
      apply kept same
      rw [scene, idGen]
      exact stepped_numbered data w r rand numbered fresh

theorem empty_numbered (store : Store) (redisConnected : Bool) (rand : List Nat) :
    (World.empty data store redisConnected rand).Numbered where
  own := fun _ => rfl
  distinct := fun _ => List.nodup_nil
  monsters := fun _ _ member => by cases member
  arrows := fun _ _ member => by cases member

theorem openTown_numbered (w : World) (channel : Int) (roomId : RoomName) (numbered : w.Numbered)
    (unlogged : w.routing.logins = []) : (w.openTown data channel roomId).Numbered := by
  obtain ⟨born, births, -⟩ := initFromConfig_births data
    (w.routing.addRoom (Room.create .town channel 0)) w.routing.roomCount roomId w.scene w.idGen
  have fresh (id : ObjectId) (logged : w.routing.LoggedPlayer id) : id < w.idGen := by
    obtain ⟨l, member, -⟩ := logged
    rw [unlogged] at member
    cases member
  have configured := configured_numbered data roomId w.scene w.routing.roomCount _ _ numbered
  have opened := Scene.Numbered.births data _ _ configured fresh births
  exact opened

theorem init_orderly (store : Store) (redisConnected : Bool) (rand : List Nat) :
    (World.init data store redisConnected rand).Orderly := by
  refine ⟨init_sound data store redisConnected rand, ?_⟩
  have empty := empty_numbered data store redisConnected rand
  unfold World.init
  dsimp only
  split
  · have first := openTown_numbered data (World.empty data store redisConnected rand) 1 .town1
      empty rfl
    exact openTown_numbered data _ 2 .town2 first rfl
  · exact empty

end ZeldaServer
