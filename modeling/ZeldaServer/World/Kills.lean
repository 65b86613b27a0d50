import ZeldaServer.World.Combat
import ZeldaServer.World.Population
import ZeldaServer.World.Targets

/-! Every kill of a run is rewarded once, in the call that took the last hp, and the monster
is gone after it. -/

namespace ZeldaServer

variable (data : GameData)

/-- All monsters have hp, an id that was given and is nobody else's, and those that were
killed so far are gone, each of them once. -/
structure Scene.Counted (scene : Scene) (idGen : ObjectId) (history : List Monster) : Prop where
  alive : ∀ r, ∀ m ∈ (scene.fields r).monsters, 1 ≤ m.info.hp
  below : ∀ r, ∀ m ∈ (scene.fields r).monsters, m.info.objectId < idGen
  apart : ∀ r r', ∀ m ∈ (scene.fields r).monsters, ∀ m' ∈ (scene.fields r').monsters,
    m.info.objectId = m'.info.objectId → r = r'
  once : (history.map (·.info.objectId)).Nodup
  past : ∀ m ∈ history, m.info.objectId < idGen ∧
    ∀ r, ∀ m' ∈ (scene.fields r).monsters, m'.info.objectId ≠ m.info.objectId

namespace Scene.Counted

variable {scene scene' : Scene} {idGen idGen' : ObjectId} {history : List Monster}

theorem of_subset (counted : scene.Counted idGen history)
    (subset : ∀ r, ∀ m ∈ (scene'.fields r).monsters, m ∈ (scene.fields r).monsters)
    (later : idGen ≤ idGen') : scene'.Counted idGen' history where
  alive := fun r m member => counted.alive r m (subset r m member)
  below := fun r m member => Nat.lt_of_lt_of_le (counted.below r m (subset r m member)) later
  apart := fun r r' m member m' member' =>
    counted.apart r r' m (subset r m member) m' (subset r' m' member')
  once := counted.once
  past := fun m killed =>
    ⟨Nat.lt_of_lt_of_le (counted.past m killed).1 later,
      fun r m' member => (counted.past m killed).2 r m' (subset r m' member)⟩

theorem fells {r : RoomRef} {dead : List Monster} (counted : scene.Counted idGen history)
    (distinct : (scene.fields r).Distinct) (fells : scene.Fells r dead scene')
    (later : idGen ≤ idGen') : scene'.Counted idGen' (history ++ dead) := by
  have nodup := fells.ids.nodup_iff.mp distinct
  obtain ⟨dead_once, -, dead_gone⟩ := List.nodup_append.mp nodup
  have old (r' : RoomRef) (m : Monster) (member : m ∈ (scene'.fields r').monsters) :
      ∃ m' ∈ (scene.fields r').monsters, m'.info.objectId = m.info.objectId := by
    by_cases here : r' = r
    · subst here
      exact List.mem_map.mp (fells.ids.mem_iff.mpr
        (List.mem_append_right _ (List.mem_map_of_mem member)))
    · rw [fells.others r' here] at member
      exact ⟨m, member, rfl⟩
  have was (m : Monster) (died : m ∈ dead) :
      ∃ m' ∈ (scene.fields r).monsters, m'.info.objectId = m.info.objectId :=
    List.mem_map.mp (fells.ids.mem_iff.mpr (List.mem_append_left _ (List.mem_map_of_mem died)))
  constructor
  case alive =>
    intro r' m member
    by_cases here : r' = r
    · subst here
      exact fells.alive (counted.alive r') m member
    · rw [fells.others r' here] at member
      exact counted.alive r' m member
  case below =>
    intro r' m member
    obtain ⟨m', before, same⟩ := old r' m member
    exact same ▸ Nat.lt_of_lt_of_le (counted.below r' m' before) later
  case apart =>
    intro r₁ r₂ m₁ member₁ m₂ member₂ same
    obtain ⟨old₁, before₁, same₁⟩ := old r₁ m₁ member₁
    obtain ⟨old₂, before₂, same₂⟩ := old r₂ m₂ member₂
    exact counted.apart r₁ r₂ old₁ before₁ old₂ before₂ (same₁.trans (same.trans same₂.symm))
  case once =>
    rw [List.map_append]
    refine List.nodup_append.mpr ⟨counted.once, dead_once, ?_⟩
    intro id listed id' listed' same
    obtain ⟨m, killed, rfl⟩ := List.mem_map.mp listed
    obtain ⟨m', died, rfl⟩ := List.mem_map.mp listed'
    obtain ⟨before, member, named⟩ := was m' died
    exact (counted.past m killed).2 r before member (named.trans same.symm)
  case past =>
    intro m listed
    rcases List.mem_append.mp listed with killed | died
    · refine ⟨Nat.lt_of_lt_of_le (counted.past m killed).1 later, fun r' m' member same => ?_⟩
      obtain ⟨before, found, named⟩ := old r' m' member
      exact (counted.past m killed).2 r' before found (named.trans same)
    · obtain ⟨before, member, named⟩ := was m died
      refine ⟨named ▸ Nat.lt_of_lt_of_le (counted.below r before member) later, ?_⟩
      intro r' m' found same
      by_cases here : r' = r
      · subst here
        exact dead_gone m.info.objectId (List.mem_map_of_mem died) m'.info.objectId
          (List.mem_map_of_mem found) same.symm
      · rw [fells.others r' here] at found
        exact here (counted.apart r' r m' found before member (same.trans named.symm))

theorem birth (templates : ∀ templateId templateData,
      data.monsterTemplate templateId = some templateData → 1 ≤ templateData.maxHp)
    (routing : Routing) (r : RoomRef) {made made' : Scene × ObjectId} {born : List Monster}
    (counted : made.1.Counted made.2 history)
    (birth : Scene.Birth data routing r made born made') : made'.1.Counted made'.2 history := by
  cases birth with
  | waits request =>
      apply counted.of_subset _ (Nat.le_refl _)
      intro r' m member
      unfold Scene.waitFor at member
      rcases setField_cases made.1 r r' { made.1.fields r with
        respawnQueue := (made.1.fields r).respawnQueue ++ [request] } with ⟨rfl, here⟩ | away
      · rwa [here] at member
      · rwa [away] at member
  | born cell aggroRange leashRange templateId b next players fields now free =>
      generalize new : createMonster data made.2 cell aggroRange leashRange templateId = child at fields
      have named : child.info.objectId = made.2 := by rw [← new]; rfl
      have lives : 1 ≤ child.info.hp := by
        rw [← new]
        unfold createMonster
        cases template : data.monsterTemplate templateId with
        | none => exact (by decide : (1 : Int) ≤ 50)
        | some templateData => exact templates templateId templateData template
      have cases_of (r' : RoomRef) (m : Monster) (member : m ∈ (made'.1.fields r').monsters) :
          m ∈ (made.1.fields r').monsters ∨ r' = r ∧ m = child := by
        rw [fields] at member
        rcases setField_cases made.1 r r' { made.1.fields r with
          monsters := (made.1.fields r).monsters ++ [child] } with ⟨rfl, here⟩ | away
        · rw [here] at member
          rcases List.mem_append.mp member with old | young
          · exact .inl old
          · exact .inr ⟨rfl, List.mem_singleton.mp young⟩
        · rw [away] at member
          exact .inl member
      constructor
      case alive =>
        intro r' m member
        rcases cases_of r' m member with old | ⟨-, rfl⟩
        · exact counted.alive r' m old
        · exact lives
      case below =>
        intro r' m member
        rw [next]
        rcases cases_of r' m member with old | ⟨-, rfl⟩
        · exact Nat.lt_succ_of_lt (counted.below r' m old)
        · exact named ▸ Nat.lt_succ_self _
      case apart =>
        intro r₁ r₂ m₁ member₁ m₂ member₂ same
        rcases cases_of r₁ m₁ member₁ with old₁ | ⟨here₁, rfl⟩
        · rcases cases_of r₂ m₂ member₂ with old₂ | ⟨-, rfl⟩
          · exact counted.apart r₁ r₂ m₁ old₁ m₂ old₂ same
          · exact absurd (counted.below r₁ m₁ old₁) (Nat.not_lt_of_le (named ▸ same ▸ Nat.le_refl _))
        · rcases cases_of r₂ m₂ member₂ with old₂ | ⟨here₂, -⟩
          · exact absurd (counted.below r₂ m₂ old₂) (Nat.not_lt_of_le (named ▸ same ▸ Nat.le_refl _))
          · exact here₁.trans here₂.symm
      case once => exact counted.once
      case past =>
        intro m killed
        obtain ⟨given, gone⟩ := counted.past m killed
        refine ⟨next ▸ Nat.lt_succ_of_lt given, fun r' m' member same => ?_⟩
        rcases cases_of r' m' member with old | ⟨-, rfl⟩
        · exact gone r' m' old same
        · exact absurd given (Nat.not_lt_of_le (named ▸ same ▸ Nat.le_refl _))

theorem births (templates : ∀ templateId templateData,
      data.monsterTemplate templateId = some templateData → 1 ≤ templateData.maxHp)
    (routing : Routing) (r : RoomRef) {made made' : Scene × ObjectId} {born : List Monster}
    (counted : made.1.Counted made.2 history)
    (births : Scene.Births data routing r made born made') : made'.1.Counted made'.2 history :=
  births.keeps (fun made => made.1.Counted made.2 history)
    (fun _ _ _ counted birth => counted.birth data templates routing r birth) counted

end Scene.Counted

def World.calls (w : World) : Event → List Call
  | .job rand =>
      match w.routing.nextJob with
      | some (r, .attack s pkt, rest) => attackCalls data r (w.forJob r rest rand) s pkt
      | _ => []
  | .step rand =>
      match w.routing.pass with
      | some { current := some ⟨r, some _⟩, .. } =>
          let scene := stepMonsters w.routing r (stepPlayers w.routing r { w.scene with rand })
          arrowCalls data w.routing r ((scene.fields r).projectiles.map (·.info.objectId)) scene
      | _ => []
  | _ => []

/-- Whether the event runs combat code. -/
def World.fights (w : World) : Event → Bool
  | .job _ =>
      match w.routing.nextJob with
      | some (_, .attack _ _, _) => true
      | _ => false
  | .step _ => true
  | _ => false

namespace World

theorem calls_of_calm (w : World) (e : Event) (calm : w.fights e = false) :
    w.calls data e = [] := by
  cases e with
  | job rand =>
      unfold fights at calm
      unfold calls
      cases front : w.routing.nextJob with
      | none => rfl
      | some entry =>
          obtain ⟨r, job, rest⟩ := entry
          rw [front] at calm
          cases job with
          | attack s pkt => cases calm
          | _ => rfl
  | step rand => cases calm
  | _ => rfl

theorem calm_of_still (w : World) (e : Event) (jobless : ∀ rand, e ≠ .job rand)
    (stepless : ∀ rand, e ≠ .step rand) : w.fights e = false := by
  cases e with
  | job rand => exact absurd rfl (jobless rand)
  | step rand => exact absurd rfl (stepless rand)
  | _ => rfl

theorem calm_of_peaceful (w : World) (r : RoomRef) (job : Job) (rest : List Job) (rand : List Nat)
    (front : w.routing.nextJob = some (r, job, rest)) (peaceful : ∀ s pkt, job ≠ .attack s pkt) :
    w.fights (.job rand) = false := by
  unfold fights
  rw [front]
  cases job with
  | attack s pkt => exact absurd rfl (peaceful s pkt)
  | _ => rfl

end World

/-- Equipping, taking off and using an item, which move what a player has. -/
def Job.handlesItem : Job → Bool
  | .equipItem _ _ => true
  | .unequipItem _ _ => true
  | .useItem _ _ => true
  | _ => false

def World.handlesItem (w : World) : Event → Bool
  | .job _ => w.routing.nextJob.any fun entry => entry.2.1.handlesItem
  | _ => false

/-- A fight rewards nobody but in its calls. No other event changes the level or the exp of a
player that was there before, nor, unless it is an inventory request, the inventory. -/
def World.RewardsInCalls (w : World) (e : Event) (next : World) : Prop :=
  if w.fights e then w.scene.EarnsInCalls (w.calls data e) next.scene
  else ∀ id, id ≠ w.idGen →
    (next.scene.players id).progress = (w.scene.players id).progress ∧
      (w.handlesItem e = false → (next.scene.players id).earnings = (w.scene.players id).earnings)

namespace Scene.SameEarnings

section Monsters

variable (routing : Routing) (r : RoomRef)

theorem monsterAttack (m : Monster) (target : ObjectId) (scene : Scene) :
    scene.SameEarnings (monsterAttack routing r m target scene) := by
  unfold ZeldaServer.monsterAttack
  dsimp only
  refine trans ?_ (broadcast routing r _ _)
  refine trans ?_ (hurtPlayer _ target _)
  exact (of_players rfl : scene.SameEarnings (scene.setMonster r _)).trans (broadcast routing r _ _)

theorem monsterUpdateIdle (m : Monster) (scene : Scene) :
    scene.SameEarnings (monsterUpdateIdle routing r m scene) := by
  cases aims : monsterAim routing r m scene with
  | none =>
      obtain ⟨m', -, home | stays⟩ := monsterUpdateIdle_aimless routing r m scene aims
      · rw [home]
        exact of_players (monsterGoHome_players routing r m' scene)
      · rw [stays]
        exact of_players rfl
  | some target =>
      rw [monsterUpdateIdle_aims routing r m scene target aims]
      split
      · exact monsterAttack routing r _ target scene
      · exact of_players (monsterChase_players routing r _ target scene)

theorem monsterUpdate (scene : Scene) (id : ObjectId) :
    scene.SameEarnings (monsterUpdate routing r scene id) := by
  unfold ZeldaServer.monsterUpdate
  cases (scene.fields r).monster id with
  | none => exact refl scene
  | some m =>
      have rests : scene.SameEarnings (monsterRest r m scene) := by
        unfold monsterRest
        split
        · exact refl scene
        · exact of_players rfl
      dsimp only
      cases m.info.state with
      | idle => exact monsterUpdateIdle routing r m scene
      | move => exact rests
      | skill => exact rests

theorem stepPlayers (scene : Scene) : scene.SameEarnings (stepPlayers routing r scene) := by
  apply foldl
  intro scene id
  have updated : (Player.update scene.now (scene.players id)).1.earnings =
      (scene.players id).earnings := by
    unfold Player.update
    split <;> rfl
  intro other
  rw [actPlayer_sets]
  exact setPlayer_same Player.earnings scene id _ updated other

theorem stepMonsters (scene : Scene) : scene.SameEarnings (stepMonsters routing r scene) :=
  foldl (ZeldaServer.monsterUpdate routing r) (monsterUpdate routing r) _ scene

theorem spawning : Scene.Spawning routing r Scene.SameEarnings where
  refl := refl
  trans := trans
  draw := fun scene => by
    unfold Scene.draw
    split <;> exact of_players rfl
  fail := fun _ _ _ => of_players rfl
  field := fun _ _ => of_players rfl
  told := fun scene _ => broadcast routing r _ scene

end Monsters

end Scene.SameEarnings

theorem afterStep_earns (w : World) (r : RoomRef) (rand : List Nat) (scene : Scene)
    (start : scene = stepMonsters w.routing r (stepPlayers w.routing r { w.scene with rand })) :
    w.scene.EarnsInCalls
      (arrowCalls data w.routing r ((scene.fields r).projectiles.map (·.info.objectId)) scene)
      (w.afterStep data r rand).1 := by
  have played : w.scene.SameEarnings scene := by
    rw [start]
    have supplied : w.scene.SameEarnings { w.scene with rand } := .of_players rfl
    exact (supplied.trans (.stepPlayers w.routing r _)).trans (.stepMonsters w.routing r _)
  have spawned := (Scene.SameEarnings.spawning w.routing r).spawnTick data
    (stepObjects data w.routing r { w.scene with rand }) w.idGen
  have shot := arrowCalls_earn data w.routing r
    ((scene.fields r).projectiles.map (·.info.objectId)) scene
  unfold World.afterStep
  rw [gameStep_eq]
  apply (shot.behind played).ended
  rw [start]
  exact spawned.trans (.of_players rfl)

namespace Player

theorem recalcStats_progress (p : Player) : (recalcStats data p).progress = p.progress := by
  unfold recalcStats
  cases data.levelData p.level <;> rfl

theorem equipItem_progress (slot : Int) (p : Player) :
    (equipItem data slot p).1.progress = p.progress := by
  unfold equipItem
  cases storageSlot slot with
  | none => rfl
  | some i =>
      dsimp only
      split
      · rfl
      · cases data.itemTemplate (p.storage i).itemId with
        | none => rfl
        | some tmpl =>
            dsimp only
            cases EquipSlot.ofItemType tmpl.type with
            | none => rfl
            | some equip =>
                apply (recalcStats_progress data _).trans
                cases equip <;> rfl

theorem unequipItem_progress (equipType : Int) (p : Player) :
    (unequipItem data equipType p).1.progress = p.progress := by
  unfold unequipItem
  cases EquipSlot.ofEquipType equipType with
  | none => rfl
  | some equip =>
      dsimp only
      split
      · rfl
      · cases p.findEmptySlot with
        | none => rfl
        | some i =>
            apply (recalcStats_progress data _).trans
            cases equip <;> rfl

theorem useItem_progress (slot : Int) (p : Player) :
    (useItem data slot p).1.progress = p.progress := by
  unfold useItem
  cases UseSlot.ofInt slot with
  | none => rfl
  | some target =>
      dsimp only
      split
      · rfl
      · cases data.itemTemplate (p.useSlot target).itemId with
        | none => rfl
        | some tmpl =>
            dsimp only
            split
            · rfl
            · cases target <;> rfl

end Player

theorem itemJob_progress (w : World) (s : SessionId) (method : Player → Player × List Emission)
    (kept : ∀ p, (method p).1.progress = p.progress) (id : ObjectId) :
    ((itemJob method w s).scene.players id).progress = (w.scene.players id).progress := by
  unfold itemJob
  cases lockPlayer w.routing w.scene [] s with
  | none => rfl
  | some user =>
      dsimp only [World.onScene]
      rw [actPlayer_sets]
      exact setPlayer_same Player.progress w.scene user _ (kept _) id

theorem handledItem_progress (w : World) (r : RoomRef) (job : Job) (item : job.handlesItem = true)
    (id : ObjectId) :
    ((runJob data w r job).scene.players id).progress = (w.scene.players id).progress := by
  cases job with
  | equipItem s slot => exact itemJob_progress w s _ (Player.equipItem_progress data slot) id
  | unequipItem s equipType =>
      exact itemJob_progress w s _ (Player.unequipItem_progress data equipType) id
  | useItem s slot => exact itemJob_progress w s _ (Player.useItem_progress data slot) id
  | _ => cases item

/-- Jobs other than attacks and inventory requests give nothing and take nothing. -/
theorem runJob_unrewarded (w : World) (r : RoomRef) (job : Job)
    (peaceful : ∀ s pkt, job ≠ .attack s pkt) (itemless : job.handlesItem = false) :
    w.scene.SameEarnings (runJob data w r job).scene := by
  have quiet {b : Scene} (same : w.scene.Quiet b) : w.scene.SameEarnings b :=
    .of_players same.players
  have sets {b : Scene} {mover : ObjectId} {p : Player}
      (same : (w.scene.setPlayer mover p).Quiet b)
      (kept : p.earnings = (w.scene.players mover).earnings) : w.scene.SameEarnings b := by
    intro id
    rw [same.players]
    exact setPlayer_same Player.earnings w.scene mover p kept id
  cases job with
  | attack s pkt => exact absurd rfl (peaceful s pkt)
  | changeMap s pkt =>
      change w.scene.SameEarnings (handleCChangeMap data w r s pkt).scene
      cases handleCChangeMap_cases data w r s pkt with
      | absent _ result => rw [result]; exact .refl _
      | refused _ _ _ result => rw [result]; exact .of_players rfl
      | town requester _ _ dest _ result =>
          rw [result]
          exact quiet (changeMapTo_quiet w r dest s requester pkt 0)
      | dungeon requester _ _ _ result =>
          have opened : w.scene.SameEarnings (w.scene.setField w.routing.roomCount .empty) :=
            .of_players rfl
          have made := (Scene.SameEarnings.spawning w.routing.openDungeon
            w.routing.roomCount).initFromConfig data .dungeonForest
              (w.scene.setField w.routing.roomCount .empty) w.idGen
          rw [result]
          exact (opened.trans made).trans (.of_players
            (changeMapTo_quiet (w.createDungeonInstance data).2.2 r _ s requester pkt _).players)
  | move s pkt =>
      cases moves : moveTarget w.routing r s pkt w.scene with
      | some target => exact sets (handleCMove_moves w.routing r s pkt w.scene _ _ moves) rfl
      | none =>
          rcases handleCMove_stays w.routing r s pkt w.scene moves with same | ⟨_, _, -, -, same⟩
          · exact quiet same
          · exact sets same rfl
  | turn s pkt =>
      rcases handleCTurn_cases w.routing r s pkt w.scene with same | ⟨_, -, -, -, same⟩
      · exact quiet same
      · exact sets same rfl
  | equipItem s slot => cases itemless
  | unequipItem s equipType => cases itemless
  | useItem s slot => cases itemless
  | partyInvite s targetId => exact quiet (partyInvite_whispers w r s targetId).quiet
  | partyAnswer s inviterId accept => exact quiet (partyAnswer_whispers w r s inviterId accept).quiet
  | partyLeave s => exact quiet (partyLeave_whispers w r s).quiet
  | enterRoom s player => exact sets (enterRoom_quiet w r s player) rfl
  | leaveRoom s => exact quiet (leaveRoom_quiet w [] r s)

theorem step_rewards (w next : World) (e : Event) (stepped : w.step data e = some next) :
    w.RewardsInCalls data e next := by
  have calm (peaceful : w.fights e = false)
      (same : ∀ id, id ≠ w.idGen →
        (next.scene.players id).earnings = (w.scene.players id).earnings) :
      w.RewardsInCalls data e next := by
    unfold World.RewardsInCalls
    rw [if_neg (by simp [peaceful])]
    exact fun id old => ⟨congrArg Prod.fst (same id old), fun _ => same id old⟩
  cases step_acted data w next e stepped with
  | still e jobless stepless same =>
      exact calm (w.calm_of_still e jobless stepless) fun id _ => by rw [same.players]
  | login s username player named players fields now standing idGen =>
      apply calm rfl
      intro id old
      rw [players, Function.update_of_ne old]
  | ran rand r job rest front result =>
      subst result
      by_cases attack : ∃ s pkt, job = .attack s pkt
      · obtain ⟨s, pkt, rfl⟩ := attack
        unfold World.RewardsInCalls
        rw [if_pos (by simp [World.fights, front])]
        unfold World.calls
        rw [front]
        have supplied : w.scene.SameEarnings (w.forJob r rest rand).scene := .of_players rfl
        exact (attackCalls_earn data r (w.forJob r rest rand) s pkt).behind supplied
      · have peaceful (s : SessionId) (pkt : CAttack) : job ≠ .attack s pkt :=
          fun same => attack ⟨s, pkt, same⟩
        have fightless := w.calm_of_peaceful r job rest rand front peaceful
        cases item : job.handlesItem with
        | true =>
            have handles : w.handlesItem (.job rand) = true := by
              simp [World.handlesItem, front, item]
            unfold World.RewardsInCalls
            rw [if_neg (by simp [fightless])]
            intro id _
            refine ⟨handledItem_progress data (w.forJob r rest rand) r job item id, fun itemless => ?_⟩
            rw [handles] at itemless
            cases itemless
        | false =>
            exact calm fightless fun id _ =>
              runJob_unrewarded data (w.forJob r rest rand) r job peaceful item id
  | stepped rand pass r steps under_way current scene idGen rooms logins =>
      obtain ⟨passNow, statics, dungeonsFrom, visited, under⟩ := pass
      cases current
      unfold World.RewardsInCalls
      rw [if_pos (by rfl), scene]
      unfold World.calls
      rw [under_way]
      exact afterStep_earns data w r rand _ rfl

theorem Scene.Counted.initFromConfig {history : List Monster}
    (templates : ∀ templateId templateData,
      data.monsterTemplate templateId = some templateData → 1 ≤ templateData.maxHp)
    (routing : Routing) (r : RoomRef) (roomId : RoomName) (scene : Scene) (idGen : ObjectId)
    (counted : scene.Counted idGen history) :
    (initFromConfig data routing r roomId scene idGen).1.Counted
      (ZeldaServer.initFromConfig data routing r roomId scene idGen).2 history := by
  obtain ⟨born, births, -⟩ := initFromConfig_births data routing r roomId scene idGen
  refine Scene.Counted.births data templates routing r ?_ births
  have kept : (configured data roomId (scene.fields r)).monsters = (scene.fields r).monsters := by
    unfold configured
    cases data.roomConfig roomId <;> rfl
  apply counted.of_subset _ (Nat.le_refl idGen)
  intro r' m member
  rcases setField_cases scene r r' (configured data roomId (scene.fields r)) with ⟨rfl, here⟩ | away
  · rwa [here, kept] at member
  · rwa [away] at member

theorem createDungeonInstance_counted (w : World) (history : List Monster)
    (templates : ∀ templateId templateData,
      data.monsterTemplate templateId = some templateData → 1 ≤ templateData.maxHp)
    (counted : w.scene.Counted w.idGen history) :
    (w.createDungeonInstance data).2.2.scene.Counted (w.createDungeonInstance data).2.2.idGen
      history := by
  apply Scene.Counted.initFromConfig data templates
  apply counted.of_subset _ (Nat.le_refl _)
  intro r m member
  rcases setField_cases w.scene w.routing.roomCount r .empty with ⟨rfl, here⟩ | away
  · rw [here] at member
    cases member
  · rwa [away] at member

theorem stepped_counted (w : World) (r : RoomRef) (rand : List Nat) (orderly : w.Orderly)
    (history : List Monster) (counted : w.scene.Counted w.idGen history)
    (templates : ∀ templateId templateData,
      data.monsterTemplate templateId = some templateData → 1 ≤ templateData.maxHp)
    (scene : Scene)
    (start : scene = stepMonsters w.routing r (stepPlayers w.routing r { w.scene with rand })) :
    (∀ call ∈ arrowCalls data w.routing r ((scene.fields r).projectiles.map (·.info.objectId))
        scene, call.Settled data) ∧
      (w.afterStep data r rand).1.Counted (w.afterStep data r rand).2
        (history ++ killed (arrowCalls data w.routing r
          ((scene.fields r).projectiles.map (·.info.objectId)) scene)) := by
  have supplied : { w.scene with rand }.Numbered w.idGen w.routing.LoggedPlayer :=
    orderly.numbered.of_fields rfl (fun _ => rfl) (fun _ => rfl)
  have played : { w.scene with rand }.Fells r [] scene := by
    rw [start]
    exact .stepMonsters w.routing r { w.scene with rand } (counted.alive r)
  have numbered : scene.Numbered w.idGen w.routing.LoggedPlayer := by
    rw [start]
    exact (supplied.deeds w.routing r (.stepPlayers w.routing r _)).deeds w.routing r
      (.stepMonsters w.routing r _)
  obtain ⟨settled, shot⟩ := arrowCalls_settled data w.routing r
    ((scene.fields r).projectiles.map (·.info.objectId)) scene w.idGen w.routing.LoggedPlayer numbered
    (played.alive (counted.alive r))
  refine ⟨settled, ?_⟩
  generalize killed (arrowCalls data w.routing r
    ((scene.fields r).projectiles.map (·.info.objectId)) scene) = dead at shot
  have stepped : w.scene.Fells r dead (stepObjects data w.routing r { w.scene with rand }) := by
    have given : w.scene.Fells r [] { w.scene with rand } := .of_monsters fun _ => rfl
    have both := given.followed (played.followed shot)
    rw [start] at both
    exact both
  have moved := counted.fells (orderly.numbered.distinct r) stepped (Nat.le_refl w.idGen)
  obtain ⟨-, -, -, monsters, -, -, -, others⟩ :=
    drained_keeps r (stepObjects data w.routing r { w.scene with rand })
  have drained : ((stepObjects data w.routing r { w.scene with rand }).drained r).Counted w.idGen
      (history ++ dead) := by
    apply moved.of_subset _ (Nat.le_refl _)
    intro r' m member
    by_cases here : r' = r
    · subst here
      rwa [monsters] at member
    · rwa [others r' here] at member
  obtain ⟨born, births, -⟩ := spawnTick_births data w.routing r
    (stepObjects data w.routing r { w.scene with rand }) w.idGen
  have spawned := Scene.Counted.births data templates w.routing r drained births
  unfold World.afterStep
  rw [gameStep_eq]
  apply spawned.of_subset _ (Nat.le_refl _)
  intro r' m member
  rcases setField_cases (spawnTick data w.routing r
      (stepObjects data w.routing r { w.scene with rand }) w.idGen).1 r r'
      { (spawnTick data w.routing r
          (stepObjects data w.routing r { w.scene with rand }) w.idGen).1.fields r with
        nextTick := ((spawnTick data w.routing r
          (stepObjects data w.routing r { w.scene with rand }) w.idGen).1.fields r).nextTick +
            kTickMs } with ⟨rfl, here⟩ | away
  · rwa [here] at member
  · rwa [away] at member

theorem step_counted (w next : World) (e : Event) (orderly : w.Orderly) (history : List Monster)
    (counted : w.scene.Counted w.idGen history)
    (templates : ∀ templateId templateData,
      data.monsterTemplate templateId = some templateData → 1 ≤ templateData.maxHp)
    (stepped : w.step data e = some next) :
    (∀ call ∈ w.calls data e, call.Settled data) ∧
      next.scene.Counted next.idGen (history ++ killed (w.calls data e)) := by
  have later := step_idGen data w next e stepped
  have quiet (calm : w.fights e = false) (counted' : next.scene.Counted next.idGen history) :
      (∀ call ∈ w.calls data e, call.Settled data) ∧
        next.scene.Counted next.idGen (history ++ killed (w.calls data e)) := by
    rw [w.calls_of_calm data e calm]
    refine ⟨fun _ none => absurd none List.not_mem_nil, ?_⟩
    rwa [killed, List.flatMap_nil, List.append_nil]
  cases step_acted data w next e stepped with
  | still e jobless stepless same =>
      apply quiet (w.calm_of_still e jobless stepless)
      apply counted.of_subset _ later
      intro r m member
      obtain ⟨nextTick, field⟩ := same.fields r
      rwa [field] at member
  | login s username player named players fields now standing idGen =>
      apply quiet rfl
      apply counted.of_subset _ later
      intro r m member
      rwa [fields] at member
  | ran rand r job rest front result =>
      subst result
      by_cases attack : ∃ s pkt, job = .attack s pkt
      · obtain ⟨s, pkt, rfl⟩ := attack
        have calls : w.calls data (.job rand) =
            attackCalls data r (w.forJob r rest rand) s pkt := by
          unfold World.calls
          rw [front]
        rw [calls]
        obtain ⟨settled, fells⟩ := attackCalls_settled data r (w.forJob r rest rand) s pkt
          (counted.alive r) (orderly.numbered.distinct r)
        refine ⟨settled, ?_⟩
        have before : (w.forJob r rest rand).scene.Counted w.idGen history :=
          counted.of_subset (fun _ _ member => member) (Nat.le_refl _)
        exact before.fells (orderly.numbered.distinct r) fells later
      · have peaceful (s : SessionId) (pkt : CAttack) : job ≠ .attack s pkt :=
          fun same => attack ⟨s, pkt, same⟩
        apply quiet (w.calm_of_peaceful r job rest rand front peaceful)
        have before : (w.forJob r rest rand).scene.Counted w.idGen history :=
          counted.of_subset (fun _ _ member => member) (Nat.le_refl _)
        rcases runJob_peaceful data (w.forJob r rest rand) r job peaceful with same | ⟨same, idGen⟩
        · apply before.of_subset _ later
          intro r' m member
          rwa [same] at member
        · apply (createDungeonInstance_counted data (w.forJob r rest rand) history templates
            before).of_subset _ (Nat.le_of_eq idGen.symm)
          intro r' m member
          rwa [same] at member
  | stepped rand pass r steps under_way current scene idGen rooms logins =>
      obtain ⟨passNow, statics, dungeonsFrom, visited, under⟩ := pass
      cases current
      have calls : w.calls data (.step rand) = arrowCalls data w.routing r
          (((stepMonsters w.routing r (stepPlayers w.routing r { w.scene with rand })).fields
            r).projectiles.map (·.info.objectId))
          (stepMonsters w.routing r (stepPlayers w.routing r { w.scene with rand })) := by
        unfold World.calls
        rw [under_way]
      rw [calls, scene, idGen]
      exact stepped_counted data w r rand orderly history counted templates _ rfl

def recordKills (w : World) (e : Event) (_next : World) (history : List Monster) : List Monster :=
  history ++ killed (w.calls data e)

/-- Every monster has hp, and no monster was passed to the rewards twice or is still there
after it was. -/
structure World.Rewarded (w : World) (history : List Monster) : Prop where
  alive : ∀ r, ∀ m ∈ (w.scene.fields r).monsters, 1 ≤ m.info.hp
  once : (history.map (·.info.objectId)).Nodup
  gone : ∀ m ∈ history, ∀ r, ∀ m' ∈ (w.scene.fields r).monsters, m'.info.objectId ≠ m.info.objectId

theorem init_counted (store : Store) (redisConnected : Bool) (rand : List Nat)
    (templates : ∀ templateId templateData,
      data.monsterTemplate templateId = some templateData → 1 ≤ templateData.maxHp) :
    (World.init data store redisConnected rand).scene.Counted
      (World.init data store redisConnected rand).idGen [] := by
  have empty : (World.empty data store redisConnected rand).scene.Counted
      (World.empty data store redisConnected rand).idGen [] := by
    constructor
    case alive => exact fun _ _ member => absurd member List.not_mem_nil
    case below => exact fun _ _ member => absurd member List.not_mem_nil
    case apart => exact fun _ _ _ member => absurd member List.not_mem_nil
    case once => exact .nil
    case past => exact fun _ member => absurd member List.not_mem_nil
  have opened (w : World) (channel : Int) (roomId : RoomName)
      (counted : w.scene.Counted w.idGen []) :
      (w.openTown data channel roomId).scene.Counted (w.openTown data channel roomId).idGen [] :=
    Scene.Counted.initFromConfig data templates _ _ roomId w.scene w.idGen counted
  unfold World.init
  dsimp only
  split
  · exact opened _ 2 .town2 (opened _ 1 .town1 empty)
  · exact empty

/-- In every run each kill is rewarded exactly once, in the call that made it, and for what the
monster is worth. -/
theorem kills_rewarded_once (store : Store) (redisConnected : Bool) (rand : List Nat)
    (events : List Event)
    (templates : ∀ templateId templateData,
      data.monsterTemplate templateId = some templateData → 1 ≤ templateData.maxHp) :
    GrantsAddUp data ∧
      Runs.EveryState (Runs.observed (World.step data) (recordKills data))
        (fun now => now.1.Rewarded now.2) (World.init data store redisConnected rand, []) events ∧
      Runs.EachStep (Runs.observed (World.step data) (recordKills data))
        (fun now e => (∀ call ∈ now.1.calls data e, call.Settled data) ∧
          ∀ next, now.1.step data e = some next → now.1.RewardsInCalls data e next)
        (World.init data store redisConnected rand, []) events := by
  have start : (World.init data store redisConnected rand).Orderly ∧
      (World.init data store redisConnected rand).scene.Counted
        (World.init data store redisConnected rand).idGen [] :=
    ⟨init_orderly data store redisConnected rand, init_counted data store redisConnected rand
      templates⟩
  have kept (now : World × List Monster) (e : Event) (after : World × List Monster)
      (before : now.1.Orderly ∧ now.1.scene.Counted now.1.idGen now.2) (_ : True)
      (stepped : Runs.observed (World.step data) (recordKills data) now e = some after) :
      after.1.Orderly ∧ after.1.scene.Counted after.1.idGen after.2 := by
    obtain ⟨moved, result⟩ := Runs.observed_some (recordKills data) now after e stepped
    rw [result]
    exact ⟨step_orderly data now.1 after.1 e before.1 moved,
      (step_counted data now.1 after.1 e before.1 now.2 before.2 templates moved).2⟩
  refine ⟨?_, ?_, ?_⟩
  · intro routing r killer m scene
    exact ⟨distributeExp_grants data routing r killer m scene,
      fun templateData template worth => grants_sum data routing r killer m templateData template worth⟩
  · apply Runs.everyState_invariant (fun _ _ => True)
      (fun now : World × List Monster => now.1.Orderly ∧ now.1.scene.Counted now.1.idGen now.2)
      _ _ kept _ events start (Runs.eachStep_true _ events)
    rintro now ⟨-, counted⟩
    exact ⟨counted.alive, counted.once, fun m killed => (counted.past m killed).2⟩
  · apply Runs.eachStep_mono (fun _ _ => True) _
      (fun now : World × List Monster => now.1.Orderly ∧ now.1.scene.Counted now.1.idGen now.2)
      kept _ _ events start (Runs.eachStep_true _ events)
    intro now e after before stepped _
    obtain ⟨moved, -⟩ := Runs.observed_some (recordKills data) now after e stepped
    exact ⟨(step_counted data now.1 after.1 e before.1 now.2 before.2 templates moved).1,
      fun next stepped => step_rewards data now.1 next e stepped⟩

set_option maxRecDepth 20000 in
theorem slain_monster_rewarded :
    (Runs.run (Runs.observed (World.step huntGame) (recordKills huntGame))
        (World.init huntGame newStore false [], []) slaysMonster).any (fun now =>
          now.2.map (·.info.objectId) = [1]) = true ∧
      Runs.EveryState (Runs.observed (World.step huntGame) (recordKills huntGame))
        (fun now => now.1.Rewarded now.2) (World.init huntGame newStore false [], [])
        slaysMonster := by
  refine ⟨by decide +kernel, ?_⟩
  refine (kills_rewarded_once huntGame newStore false [] slaysMonster ?_).2.1
  intro templateId templateData template
  cases template
  decide

end ZeldaServer
