import ZeldaServer.Lib.Turnover
import ZeldaServer.World.Dungeons
import ZeldaServer.World.Numbers

/-! The monsters of a room and the requests for their respawn: what `SpawnSystem::Init`
creates, and that kills and respawns neither lose nor double any of it. -/

namespace ZeldaServer

open Chains (Chain)
open Turnover (Leave Renewal)

variable (data : GameData)

/-- The counts of a group's entries that have a template; a negative count is none. -/
def MonsterSpawnData.wanted (group : MonsterSpawnData) : Nat :=
  ((group.monsters.filter fun entry => (data.monsterTemplate entry.templateId).isSome).map
    (·.count.toNat)).sum

theorem groupProfiles_length (entries : List MonsterInfo) (left : Nat) :
    (groupProfiles data entries left).length =
      min left ((entries.filter fun entry => (data.monsterTemplate entry.templateId).isSome).map
        (·.count.toNat)).sum := by
  induction entries generalizing left with
  | nil => simp [groupProfiles]
  | cons entry entries ih =>
      rw [groupProfiles, List.length_append, ih]
      unfold MonsterInfo.profiles
      cases found : data.monsterTemplate entry.templateId with
      | none => simp [found]
      | some templateData =>
          simp only [List.length_replicate, List.filter_cons, found, Option.isSome_some, if_true,
            List.map_cons, List.sum_cons]
          omega

theorem group_profiles_length (group : MonsterSpawnData) :
    (group.profiles data).length = min group.offsets.length (group.wanted data) :=
  groupProfiles_length data group.monsters group.offsets.length

section Room

variable (routing : Routing) (r : RoomRef)

theorem birth_monsters {made made' : Scene × ObjectId} {born : List Monster}
    (birth : Scene.Birth data routing r made born made') :
    (made'.1.fields r).monsters = (made.1.fields r).monsters ++ born ∧
      (made'.1.fields r).config = (made.1.fields r).config ∧
      made.2 ≤ made'.2 ∧ ∀ m ∈ born, made.2 ≤ m.info.objectId := by
  cases birth with
  | born cell aggroRange leashRange templateId b next players fields now free =>
      refine ⟨?_, ?_, next ▸ Nat.le_succ _, fun m member => ?_⟩
      · simp [fields, Scene.setField]
      · simp [fields, Scene.setField]
      · rw [List.mem_singleton.mp member]
        exact Nat.le_refl _
  | waits request =>
      refine ⟨?_, ?_, Nat.le_refl _, fun m member => absurd member List.not_mem_nil⟩
      · simp [Scene.waitFor, Scene.setField]
      · simp [Scene.waitFor, Scene.setField]

theorem births_monsters {made made' : Scene × ObjectId} {born : List Monster}
    (births : Scene.Births data routing r made born made') :
    (made'.1.fields r).monsters = (made.1.fields r).monsters ++ born ∧
      (made'.1.fields r).config = (made.1.fields r).config ∧
      made.2 ≤ made'.2 ∧ ∀ m ∈ born, made.2 ≤ m.info.objectId := by
  apply births.relates (fun made born made' =>
    (made'.1.fields r).monsters = (made.1.fields r).monsters ++ born ∧
      (made'.1.fields r).config = (made.1.fields r).config ∧
      made.2 ≤ made'.2 ∧ ∀ m ∈ born, made.2 ≤ m.info.objectId)
  · exact fun made => ⟨(List.append_nil _).symm, rfl, Nat.le_refl _,
      fun m member => absurd member List.not_mem_nil⟩
  · intro made middle made' first rest now later
    obtain ⟨monsters, config, raised, fresh⟩ := birth_monsters data routing r now
    obtain ⟨monsters', config', raised', fresh'⟩ := later
    refine ⟨?_, config'.trans config, Nat.le_trans raised raised', fun m member => ?_⟩
    · rw [monsters', monsters, List.append_assoc]
    · rcases List.mem_append.mp member with early | late
      · exact fresh m early
      · exact Nat.le_trans raised (fresh' m late)

theorem spawnGroups_parts (groups : List MonsterSpawnData) (made : Scene × ObjectId) :
    ∃ parts : List (List Monster),
      ((groups.foldl (spawnGroup data routing r) made).1.fields r).monsters =
        (made.1.fields r).monsters ++ parts.flatten ∧
      List.Forall₂ (fun group part =>
        part.map Monster.profile = MonsterSpawnData.profiles data group) groups parts := by
  induction groups generalizing made with
  | nil => exact ⟨[], (List.append_nil _).symm, .nil⟩
  | cons group groups ih =>
      obtain ⟨part, births, profiles⟩ := Scene.Births.spawnGroup data routing r made group
      obtain ⟨parts, rest, each⟩ := ih (spawnGroup data routing r made group)
      refine ⟨part :: parts, ?_, .cons profiles each⟩
      rw [List.foldl_cons, rest, (births_monsters data routing r births).1, List.flatten_cons,
        List.append_assoc]

end Room

/-- `InitFromConfig` of an empty room that spawns monsters: each group of its spawn
configuration contributes its share. -/
def GroupsContribute : Prop :=
  ∀ (routing : Routing) (r : RoomRef) (roomId : RoomName) (scene : Scene) (idGen : ObjectId)
    (config : RoomConfigData) (spawnConfig : RoomSpawnConfig),
    data.roomConfig roomId = some config → data.spawnConfig roomId = some spawnConfig →
    config.monsterSpawnEnabled = true → (scene.fields r).monsters = [] →
    ∃ parts : List (List Monster),
      ((initFromConfig data routing r roomId scene idGen).1.fields r).monsters = parts.flatten ∧
      List.Forall₂ (fun (group : MonsterSpawnData) part =>
        part.length = min group.offsets.length (group.wanted data)) spawnConfig.spawns parts

theorem groups_contribute : GroupsContribute data := by
  intro routing r roomId scene idGen config spawnConfig configured spawns enabled empty
  obtain ⟨parts, monsters, each⟩ := spawnGroups_parts data routing r spawnConfig.spawns
    (scene.setField r { scene.fields r with tilemap := config.tilemap, config := some config }, idGen)
  refine ⟨parts, ?_, each.imp fun group part profiles => ?_⟩
  · unfold initFromConfig
    rw [configured]
    dsimp only
    rw [spawns]
    dsimp only
    rw [if_pos enabled, monsters]
    simp [Scene.setField, empty]
  · rw [← group_profiles_length, ← profiles, List.length_map]

/-- The request that `TryReserve` leaves for a monster. -/
def requestOf (config : RoomConfigData) (now : Nat) (m : Monster) : RespawnRequest :=
  { due := now + config.respawnTimeMs
    homePos := m.homePos
    templateId := m.templateId
    aggroRange := m.aggroRange
    leashRange := m.leashRange }

/-- Monsters are removed from the room, each for a request; no time goes by. -/
structure Scene.Removes (r : RoomRef) (config : RoomConfigData) (a : Scene) (removed : List Monster)
    (b : Scene) : Prop where
  kept : (b.fields r).config = (a.fields r).config
  now : b.now = a.now
  leave : Leave Monster.tag (requestOf config a.now) (a.fields r).monsters (b.fields r).monsters
    (a.fields r).respawnQueue (b.fields r).respawnQueue removed

theorem deed_removes (routing : Routing) (r : RoomRef) (config : RoomConfigData)
    (enabled : config.monsterSpawnEnabled = true) (a b : Scene) (removed : List Monster)
    (distinct : (a.fields r).Distinct) (configured : (a.fields r).config = some config)
    (deed : Scene.Deed routing r a removed b) : a.Removes r config removed b := by
  cases deed with
  | quiet b same => exact ⟨by rw [same.fields], same.now, by rw [same.fields]; exact .refl _ _⟩
  | player id p gait => exact ⟨rfl, rfl, .refl _ _⟩
  | tick id => exact ⟨rfl, rfl, .refl _ _⟩
  | monster m m' member tag cell =>
      have queue : ((a.setMonster r m').fields r).respawnQueue = (a.fields r).respawnQueue := by
        simp [Scene.setMonster, Scene.setField]
      refine ⟨by simp [Scene.setMonster, Scene.setField], rfl, ?_⟩
      rw [queue]
      apply Leave.of_tags
      simp only [Scene.setMonster, Scene.setField, Function.update_self, List.map_map]
      apply List.map_congr_left
      intro old listed
      simp only [Function.comp_apply]
      split
      case isTrue named =>
        have same := distinct.same old m listed member (named.trans (congrArg Prod.fst tag))
        rw [tag, same]
      case isFalse => rfl
  | removed m member =>
      obtain ⟨monsters, -, -, config'⟩ := dropMonster_field a r m
      refine ⟨config', rfl, ⟨?_, ?_⟩⟩
      · rw [monsters]
        exact (filter_others_perm _ m member distinct).map Monster.tag
      · unfold Scene.dropMonster tryReserve requestOf
        simp [Scene.setField, configured, enabled]
  | arrows projectiles known =>
      refine ⟨by simp [Scene.setField], rfl, ?_⟩
      simp only [Scene.setField, Function.update_self]
      exact .refl _ _

theorem deeds_remove (routing : Routing) (r : RoomRef) (config : RoomConfigData)
    (enabled : config.monsterSpawnEnabled = true) {a b : Scene} {removed : List Monster}
    {idGen : ObjectId} {taken : ObjectId → Prop} (numbered : a.Numbered idGen taken)
    (configured : (a.fields r).config = some config) (chain : a.Deeds routing r removed b) :
    a.Removes r config removed b := by
  revert numbered configured
  apply chain.relates (fun a removed b => a.Numbered idGen taken →
    (a.fields r).config = some config → a.Removes r config removed b)
  · exact fun a _ _ => ⟨rfl, rfl, .refl _ _⟩
  · intro a middle b first rest now later numbered configured
    have front := deed_removes routing r config enabled a middle first (numbered.distinct r)
      configured now
    have back := later (numbered.deed routing r first middle now) (front.kept.trans configured)
    refine ⟨back.kept.trans front.kept, back.now.trans front.now, ?_⟩
    have leave := back.leave
    rw [front.now] at leave
    exact front.leave.trans leave

theorem step_roomCount (w next : World) (e : Event) (inRange : w.routing.InRange)
    (stepped : w.step data e = some next) : w.routing.roomCount ≤ next.routing.roomCount := by
  cases step_turned data w next e stepped with
  | quiet e jobless ongoing rooms tables pending => exact Nat.le_of_eq tables.roomCount.symm
  | pushed s pkt r job sends bound result =>
      rw [result]
      exact Nat.le_refl _
  | login s username r id town rooms tables pending => exact Nat.le_of_eq tables.roomCount.symm
  | left s r bound rooms tables pending => exact Nat.le_of_eq tables.roomCount.symm
  | update idle result =>
      rw [result]
      exact Nat.le_refl _
  | visitStatic pass r statics under_way idle left result =>
      rw [result]
      exact Nat.le_refl _
  | loopDungeons pass under_way idle left first result =>
      rw [result]
      exact Nat.le_refl _
  | visitDungeon pass r instanceId under_way idle loop unvisited listed result =>
      rw [result]
      exact Nat.le_refl _
  | goOn e jobless ongoing pass visit current under_way visiting drained goes result =>
      rw [result]
      exact Nat.le_refl _
  | endUpdate pass dungeonsFrom under_way idle loop complete result =>
      rw [result]
      exact Nat.le_refl _
  | ran rand r job rest front result =>
      subst result
      obtain ⟨ranged, known⟩ := forJob_room w inRange r job rest rand front
      by_cases stays : job.entering = none
      · cases runJob_worked data (w.forJob r rest rand) r job ranged known stays with
        | rooms rooms tables pending unopened unchanged parties =>
            exact Nat.le_of_eq tables.roomCount.symm
        | buried victim s pkt attack killed result =>
            rw [result]
            exact Nat.le_refl _
        | left s id leaves locked result =>
            exact Nat.le_of_eq (result ▸ Routing.SameTables.leave _ r id).roomCount.symm
        | moved dest s requester changes result =>
            exact Nat.le_of_eq (Routing.SameTables.moves result).roomCount.symm
        | opened s requester opens result =>
            rw [(Routing.SameTables.moves result).roomCount]
            exact Nat.le_succ _
      · cases job with
        | enterRoom s id =>
            rw [runJob, enterRoom_routing]
            exact Nat.le_refl _
        | _ => exact absurd rfl stays

def World.dueAt (w : World) (e : Event) (r : RoomRef) (request : RespawnRequest) : Bool :=
  match e, w.routing.pass with
  | .step _, some { current := some ⟨r', some _⟩, .. } => r' = r && request.due ≤ w.scene.now
  | _, _ => false

/-- Monsters of the room are removed, each for a request of this time; then each request that
is due becomes one monster, which is new. -/
def World.Renews (w : World) (e : Event) (next : World) (r : RoomRef) (config : RoomConfigData) :
    Prop :=
  ∃ removed kept born : List Monster,
    Renewal Monster.tag Monster.profile (requestOf config w.scene.now) RespawnRequest.profile
      (w.dueAt e r) (w.scene.fields r).monsters (next.scene.fields r).monsters
      (w.scene.fields r).respawnQueue (next.scene.fields r).respawnQueue removed kept born ∧
    ∀ m ∈ born, w.idGen ≤ m.info.objectId

theorem renews_of_leave (w : World) (e : Event) (next : World) (r : RoomRef)
    (config : RoomConfigData) (removed : List Monster) (idle : ∀ request, w.dueAt e r request = false)
    (leave : Leave Monster.tag (requestOf config w.scene.now) (w.scene.fields r).monsters
      (next.scene.fields r).monsters (w.scene.fields r).respawnQueue
      (next.scene.fields r).respawnQueue removed) : w.Renews e next r config :=
  ⟨removed, _, [], .of_leave leave fun request _ => idle request,
    fun _ member => absurd member List.not_mem_nil⟩

theorem did_leaves (w v : World) (r r' : RoomRef) (job : Job) (numbered : w.Numbered)
    (config : RoomConfigData) (enabled : config.monsterSpawnEnabled = true)
    (held : (w.scene.fields r').config = some config) (made : r' < w.routing.roomCount)
    (did : w.Did data r v job) :
    (v.scene.fields r').config = some config ∧
      ∃ removed, Leave Monster.tag (requestOf config w.scene.now) (w.scene.fields r').monsters
        (v.scene.fields r').monsters (w.scene.fields r').respawnQueue
        (v.scene.fields r').respawnQueue removed := by
  have same (field : v.scene.fields r' = w.scene.fields r') :
      (v.scene.fields r').config = some config ∧
        ∃ removed, Leave Monster.tag (requestOf config w.scene.now) (w.scene.fields r').monsters
          (v.scene.fields r').monsters (w.scene.fields r').respawnQueue
          (v.scene.fields r').respawnQueue removed := by
    rw [field]
    exact ⟨held, [], .refl _ _⟩
  cases did with
  | deeds job removed stays chain idGen =>
      by_cases here : r' = r
      · subst here
        have removes := deeds_remove w.routing r' config enabled numbered held chain
        exact ⟨removes.kept.trans held, removed, removes.leave⟩
      · exact same (deeds_others w.routing r r' here chain)
  | moved s pkt result =>
      subst result
      apply same
      cases moves : moveTarget w.routing r s pkt w.scene with
      | some target =>
          exact congrFun (handleCMove_moves w.routing r s pkt w.scene target.1 target.2 moves).fields r'
      | none =>
          rcases handleCMove_stays w.routing r s pkt w.scene moves with quiet | ⟨id, dir, -, -, quiet⟩
          · exact congrFun quiet.fields r'
          · exact congrFun quiet.fields r'
  | turned s pkt result =>
      subst result
      apply same
      rcases handleCTurn_cases w.routing r s pkt w.scene with quiet | ⟨id, -, -, -, quiet⟩
      · exact congrFun quiet.fields r'
      · exact congrFun quiet.fields r'
  | shot s pkt attacker arrow scene locked named owner quiet result =>
      subst result
      have said := Scene.Quiet.broadcast w.routing r (.addObject ⟨[arrow.info]⟩)
        (scene.setField r
          { scene.fields r with projectiles := (scene.fields r).projectiles ++ [arrow] })
      have field := congrFun said.fields r'
      unfold addArrow
      dsimp only
      rw [field]
      by_cases here : r' = r
      · subst here
        simp only [Scene.setField, Function.update_self, quiet.fields]
        exact ⟨held, [], .refl _ _⟩
      · simp only [Scene.setField, Function.update_of_ne here, quiet.fields]
        exact ⟨held, [], .refl _ _⟩
  | opened s pkt opening idGen roomCount =>
      apply same
      have other : r' ≠ w.routing.roomCount := Nat.ne_of_lt made
      obtain ⟨born, births, -⟩ := initFromConfig_births data w.routing.openDungeon
        w.routing.roomCount .dungeonForest (w.scene.setField w.routing.roomCount .empty) w.idGen
      have kept := (births_keep data _ _ births).2.2 r' other
      calc v.scene.fields r'
          = (w.createDungeonInstance data).2.2.scene.fields r' := congrFun opening.fields r'
        _ = ((w.scene.setField w.routing.roomCount .empty).setField w.routing.roomCount
              (configured data .dungeonForest _)).fields r' := kept
        _ = w.scene.fields r' := by
            simp only [Scene.setField, Function.update_of_ne other]
  | entered s id result =>
      subst result
      exact same (congrFun (enterRoom_quiet w r s id).fields r')

theorem stepped_renews (w next : World) (r : RoomRef) (rand : List Nat) (pass : Pass) (steps : Nat)
    (numbered : w.Numbered) (config : RoomConfigData) (enabled : config.monsterSpawnEnabled = true)
    (held : (w.scene.fields r).config = some config) (under_way : w.routing.pass = some pass)
    (current : pass.current = some ⟨r, some steps⟩)
    (scene : next.scene = (w.afterStep data r rand).1) :
    (next.scene.fields r).config = some config ∧ w.Renews (.step rand) next r config := by
  have supplied : { w.scene with rand }.Numbered w.idGen w.routing.LoggedPlayer :=
    numbered.of_fields rfl (fun _ => rfl) (fun _ => rfl)
  obtain ⟨removed, chain⟩ := Scene.Deeds.stepObjects data w.routing r { w.scene with rand }
  obtain ⟨kept, now, leave⟩ := deeds_remove w.routing r config enabled supplied held chain
  have spawns : shouldSpawn ((stepObjects data w.routing r { w.scene with rand }).fields r) = true := by
    unfold shouldSpawn
    rw [kept, held]
    exact enabled
  obtain ⟨-, -, -, monsters, -, -, config', -⟩ :=
    drained_keeps r (stepObjects data w.routing r { w.scene with rand })
  obtain ⟨born, births, served⟩ := spawnTick_births data w.routing r
    (stepObjects data w.routing r { w.scene with rand }) w.idGen
  obtain ⟨profiles, queue⟩ := served spawns
  obtain ⟨joined, config'', -, fresh⟩ := births_monsters data w.routing r births
  rw [monsters] at joined
  rw [config', kept, held] at config''
  rw [now] at profiles queue
  have due (request : RespawnRequest) :
      w.dueAt (.step rand) r request = decide (request.due ≤ w.scene.now) := by
    obtain ⟨passNow, statics, dungeonsFrom, visited, under⟩ := pass
    cases current
    simp [World.dueAt, under_way]
  have field : (next.scene.fields r).config = some config ∧
      (next.scene.fields r).monsters =
        ((stepObjects data w.routing r { w.scene with rand }).fields r).monsters ++ born ∧
      (next.scene.fields r).respawnQueue =
        ((stepObjects data w.routing r { w.scene with rand }).fields r).respawnQueue.filter
          (w.scene.now < ·.due) := by
    rw [scene]
    unfold World.afterStep
    rw [gameStep_eq]
    simp only [Scene.setField, Function.update_self]
    exact ⟨config'', joined, queue⟩
  have waiting := leave.requests
  refine ⟨field.1, removed, _, born, ⟨?_, congrArg _ field.2.1, ?_, ?_⟩, fresh⟩
  · rw [List.map_append]
    exact leave.items
  · rw [profiles, waiting, funext due]
  · rw [field.2.2, waiting, funext due]
    apply List.filter_congr
    intro request _
    dsimp only
    rw [← decide_not]
    exact decide_eq_decide.mpr Nat.not_le.symm

theorem afterStep_others (w : World) (r r' : RoomRef) (rand : List Nat) (other : r' ≠ r) :
    (w.afterStep data r rand).1.fields r' = w.scene.fields r' := by
  obtain ⟨removed, chain⟩ := Scene.Deeds.stepObjects data w.routing r { w.scene with rand }
  obtain ⟨-, -, -, -, -, -, -, others⟩ :=
    drained_keeps r (stepObjects data w.routing r { w.scene with rand })
  obtain ⟨born, births, -⟩ := spawnTick_births data w.routing r
    (stepObjects data w.routing r { w.scene with rand }) w.idGen
  unfold World.afterStep
  rw [gameStep_eq]
  apply (Function.update_of_ne other _ _).trans
  rw [(births_keep data w.routing r births).2.2 r' other, others r' other,
    deeds_others w.routing r r' other chain]

theorem step_renews (w next : World) (e : Event) (orderly : w.Orderly)
    (stepped : w.step data e = some next) (r : RoomRef) (made : r < w.routing.roomCount)
    (config : RoomConfigData) (enabled : config.monsterSpawnEnabled = true)
    (held : (w.scene.fields r).config = some config) :
    (next.scene.fields r).config = some config ∧ w.Renews e next r config := by
  have numbered := orderly.numbered
  have unserved (e : Event) (stepless : ∀ rand, e ≠ .step rand) (request : RespawnRequest) :
      w.dueAt e r request = false := by
    cases e with
    | step rand => exact absurd rfl (stepless rand)
    | _ => rfl
  have alike (e : Event) (idle : ∀ request, w.dueAt e r request = false)
      (config' : (next.scene.fields r).config = (w.scene.fields r).config)
      (monsters : (next.scene.fields r).monsters = (w.scene.fields r).monsters)
      (queue : (next.scene.fields r).respawnQueue = (w.scene.fields r).respawnQueue) :
      (next.scene.fields r).config = some config ∧ w.Renews e next r config := by
    refine ⟨config'.trans held, renews_of_leave w e next r config [] idle ?_⟩
    rw [monsters, queue]
    exact .refl _ _
  cases step_acted data w next e stepped with
  | still e jobless stepless same =>
      obtain ⟨nextTick, field⟩ := same.fields r
      apply alike e (unserved e stepless) <;> rw [field]
  | login s username player named players fields now standing idGen =>
      apply alike _ (unserved _ (by simp)) <;> rw [fields]
  | ran rand r' job rest front result =>
      subst result
      have before : (w.forJob r' rest rand).Numbered :=
        numbered.of_fields rfl (fun _ => rfl) (fun _ => rfl)
      obtain ⟨kept, removed, leave⟩ := did_leaves data (w.forJob r' rest rand) _ r' r job before
        config enabled held made (runJob_did data _ r' job (before.distinct r'))
      exact ⟨kept, renews_of_leave w _ _ r config removed (unserved _ (by simp)) leave⟩
  | stepped rand pass r' steps under_way current scene idGen rooms logins =>
      by_cases here : r = r'
      · subst here
        exact stepped_renews data w next r rand pass steps numbered config enabled held under_way
          current scene
      · have field := afterStep_others data w r' r rand here
        rw [← scene] at field
        apply alike _ _ <;> try rw [field]
        intro request
        obtain ⟨passNow, statics, dungeonsFrom, visited, under⟩ := pass
        cases current
        have apart : ¬ r' = r := fun same => here same.symm
        simp [World.dueAt, under_way, apart]

def Field.population (field : Field) : List (Int × Int × Int) :=
  field.monsters.map Monster.profile ++ field.respawnQueue.map RespawnRequest.profile

theorem renews_population (w next : World) (e : Event) (r : RoomRef) (config : RoomConfigData)
    (renews : w.Renews e next r config) :
    (next.scene.fields r).population.Perm (w.scene.fields r).population := by
  obtain ⟨removed, kept, born, renewal, -⟩ := renews
  exact renewal.population Prod.snd (fun _ => rfl) (fun _ => rfl)

/-- What a group contributes at the start stays in the room or in its queue: in every run, of
every room that spawns monsters, from its first state on. -/
theorem population_conserved (store : Store) (redisConnected : Bool) (rand : List Nat)
    (events : List Event) (w : World) (reached : reached data store redisConnected rand events = some w)
    (r : RoomRef) (made : r < w.routing.roomCount) (config : RoomConfigData)
    (enabled : config.monsterSpawnEnabled = true) (held : (w.scene.fields r).config = some config) :
    GroupsContribute data ∧
      ∀ later final, Runs.run (World.step data) w later = some final →
        (final.scene.fields r).population.Perm (w.scene.fields r).population ∧
          ∀ e next, final.step data e = some next → final.Renews e next r config := by
  have orderly : w.Orderly := by
    apply Runs.run_preserved World.Orderly _ _ w events (init_orderly data store redisConnected rand)
      reached
    exact fun w e next orderly stepped => step_orderly data w next e orderly stepped
  refine ⟨groups_contribute data, fun later final ends => ?_⟩
  have kept := Runs.run_preserved
    (fun v : World => v.Orderly ∧ r < v.routing.roomCount ∧
      (v.scene.fields r).config = some config ∧
      (v.scene.fields r).population.Perm (w.scene.fields r).population)
    (fun v e next before stepped => by
      obtain ⟨orderly, made, held, same⟩ := before
      obtain ⟨held', renews⟩ := step_renews data v next e orderly stepped r made config enabled held
      exact ⟨step_orderly data v next e orderly stepped,
        Nat.lt_of_lt_of_le made (step_roomCount data v next e orderly.inRange stepped), held',
        (renews_population v next e r config renews).trans same⟩)
    w final later ⟨orderly, made, held, .refl _⟩ ends
  obtain ⟨orderly, made, held, same⟩ := kept
  exact ⟨same, fun e next stepped =>
    (step_renews data final next e orderly stepped r made config enabled held).2⟩

/-- The player slays the monster of the first town with its sword. -/
def slaysMonster : List Event :=
  [Event.connect 1, .packet 1 (.login [97])] ++ updateTown 1 ++
    .packet 1 (.turn ⟨Dir.up⟩) :: List.replicate 3 (.packet 1 (.attack ⟨Dir.up, WeaponType.sword⟩)) ++
    updateTown 4

set_option maxRecDepth 20000 in
theorem slain_monster_population :
    ∃ w, reached huntGame newStore false [] slaysMonster = some w ∧
      (w.scene.fields 0).monsters = [] ∧ (w.scene.fields 0).respawnQueue.length = 1 ∧
      ∀ later final, Runs.run (World.step huntGame) w later = some final →
        (final.scene.fields 0).population.Perm (w.scene.fields 0).population := by
  have run : (reached huntGame newStore false [] slaysMonster).any (fun w =>
      0 < w.routing.roomCount ∧
        (w.scene.fields 0).config = some { smallRoom .town1 with monsterSpawnEnabled := true } ∧
        (w.scene.fields 0).monsters = [] ∧ (w.scene.fields 0).respawnQueue.length = 1) = true := by
    decide +kernel
  obtain ⟨w, reached, checked⟩ := Option.any_eq_true _ _ |>.mp run
  obtain ⟨made, config, slain, queued⟩ := of_decide_eq_true checked
  refine ⟨w, reached, slain, queued, fun later final ends => ?_⟩
  exact ((population_conserved huntGame newStore false [] slaysMonster w reached 0 made _ rfl
    config).2 later final ends).1

end ZeldaServer
