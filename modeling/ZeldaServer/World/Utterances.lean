import ZeldaServer.World.Clients

/-! The packets that come of what the objects of a room do by themselves. Nobody attacks in
them: an attack is announced by the job of the attacker. -/

namespace ZeldaServer

variable (data : GameData)

def ServerPacket.isOfGains : ServerPacket → Bool
  | .gainExp _ _ _ _ | .levelUp _ _ _ _ _ _ | .addItem _ _ _ | .equipItem _ _ _ _ _ _ _ _
  | .unequipItem _ _ _ _ | .useItem _ _ _ => true
  | _ => false

def ServerPacket.isRoutine : ServerPacket → Bool
  | .addObject _ | .removeObject _ | .move _ | .damaged _ _ _ _ => true
  | pkt => pkt.isOfGains

theorem ServerPacket.isRoutine_of_gains (pkt : ServerPacket) (gains : pkt.isOfGains = true) :
    pkt.isRoutine = true := by
  cases pkt <;> first | rfl | cases gains

def Emission.Voices (kind : ServerPacket → Bool) : Emission → Prop
  | .session pkt | .room pkt => kind pkt = true
  | .rank _ _ => True

theorem Emission.Voices.mono {kind kind' : ServerPacket → Bool}
    (wider : ∀ pkt, kind pkt = true → kind' pkt = true) {emission : Emission}
    (voices : emission.Voices kind) : emission.Voices kind' := by
  cases emission with
  | session pkt => exact wider pkt voices
  | room pkt => exact wider pkt voices
  | rank name level => trivial

namespace Player

theorem levelUps_gains (passes : Nat) (p : Player) :
    ∀ emission ∈ (levelUps data passes p).2, emission.Voices ServerPacket.isOfGains := by
  induction passes generalizing p with
  | zero => exact List.forall_mem_nil _
  | succ passes ih =>
      unfold levelUps
      split
      · dsimp only
        split
        · exact List.forall_mem_nil _
        · intro emission member
          rcases List.mem_append.mp member with now | later
          · simp only [processLevelUp, List.mem_cons, List.not_mem_nil, or_false] at now
            rcases now with rfl | rfl
            · trivial
            · exact rfl
          · exact ih _ emission later
      · exact List.forall_mem_nil _

theorem gainExp_gains (amount : Int) (p : Player) :
    ∀ emission ∈ (gainExp data amount p).2, emission.Voices ServerPacket.isOfGains := by
  unfold gainExp
  split
  · exact List.forall_mem_nil _
  · split
    · exact List.forall_mem_nil _
    · intro emission member
      rcases List.mem_append.mp member with ups | last
      · exact levelUps_gains data _ _ emission ups
      · rw [List.mem_singleton.mp last]
        rfl

theorem addItem_gains (itemId count : Int) (p : Player) :
    ∀ emission ∈ (addItem data itemId count p).2.2, emission.Voices ServerPacket.isOfGains := by
  unfold addItem
  cases data.itemTemplate itemId with
  | none => exact List.forall_mem_nil _
  | some tmpl =>
      dsimp only
      split
      · exact List.forall_mem_singleton.mpr rfl
      · cases p.findEmptySlot with
        | none => exact List.forall_mem_nil _
        | some i => exact List.forall_mem_singleton.mpr rfl

theorem equipItem_gains (slot : Int) (p : Player) :
    ∀ emission ∈ (equipItem data slot p).2, emission.Voices ServerPacket.isOfGains := by
  unfold equipItem
  cases storageSlot slot with
  | none => exact List.forall_mem_nil _
  | some i =>
      dsimp only
      split
      · exact List.forall_mem_nil _
      · cases data.itemTemplate (p.storage i).itemId with
        | none => exact List.forall_mem_nil _
        | some tmpl =>
            dsimp only
            cases EquipSlot.ofItemType tmpl.type with
            | none => exact List.forall_mem_nil _
            | some equip => exact List.forall_mem_singleton.mpr rfl

theorem unequipItem_gains (equipType : Int) (p : Player) :
    ∀ emission ∈ (unequipItem data equipType p).2, emission.Voices ServerPacket.isOfGains := by
  unfold unequipItem
  cases EquipSlot.ofEquipType equipType with
  | none => exact List.forall_mem_nil _
  | some equip =>
      dsimp only
      split
      · exact List.forall_mem_nil _
      · cases p.findEmptySlot with
        | none => exact List.forall_mem_nil _
        | some i => exact List.forall_mem_singleton.mpr rfl

theorem useItem_gains (slot : Int) (p : Player) :
    ∀ emission ∈ (useItem data slot p).2, emission.Voices ServerPacket.isOfGains := by
  rcases useItem_told data slot p with nothing | ⟨target, left, hp, said, -⟩
  · rw [nothing]
    exact List.forall_mem_nil _
  · rw [said]
    exact List.forall_mem_singleton.mpr rfl

theorem update_routine (now : Nat) (p : Player) :
    ∀ emission ∈ (update now p).2, emission.Voices ServerPacket.isRoutine := by
  intro emission member
  rw [(update_told now p).2.2 emission member]
  exact rfl

end Player

section Room

variable (routing : Routing) (r : RoomRef)

structure Scene.Speaking (R : Scene → Scene → Prop) : Prop extends Scene.Spawning routing r R where
  player : ∀ scene id p, R scene (scene.setPlayer id p)
  rank : ∀ scene name level, R scene (scene.redisCommand (.rankLevel name level))
  spoken : ∀ scene r' pkt, pkt.isRoutine = true → R scene (broadcast routing r' pkt scene)
  sent : ∀ scene id pkt, pkt.isRoutine = true → R scene (sendToPlayer routing id pkt scene)

namespace Scene.Speaking

variable {routing r} {R : Scene → Scene → Prop}

theorem foldl (kept : Scene.Speaking routing r R) {Item : Type} (f : Scene → Item → Scene)
    (step : ∀ scene item, R scene (f scene item)) (items : List Item) (scene : Scene) :
    R scene (items.foldl f scene) := by
  induction items generalizing scene with
  | nil => exact kept.refl scene
  | cons item items ih => exact kept.trans (step scene item) (ih _)

theorem emissions (kept : Scene.Speaking routing r R) (id : ObjectId) (emissions : List Emission)
    (routine : ∀ emission ∈ emissions, emission.Voices ServerPacket.isRoutine) (scene : Scene) :
    R scene (emissions.foldl (emit routing id) scene) := by
  induction emissions generalizing scene with
  | nil => exact kept.refl scene
  | cons emission emissions ih =>
      obtain ⟨now, later⟩ := List.forall_mem_cons.mp routine
      apply kept.trans _ (ih later _)
      unfold emit
      cases emission with
      | session pkt => exact kept.sent scene id pkt now
      | rank name level => exact kept.rank scene name level
      | room pkt =>
          dsimp only
          cases routing.playerRoom id with
          | none => exact kept.refl scene
          | some r' => exact kept.spoken scene r' pkt now

theorem actPlayer (kept : Scene.Speaking routing r R) (id : ObjectId)
    (method : Player → Player × List Emission)
    (routine : ∀ p, ∀ emission ∈ (method p).2, emission.Voices ServerPacket.isRoutine) (scene : Scene) :
    R scene (actPlayer routing id method scene) :=
  kept.trans (kept.player scene id _) (kept.emissions id _ (routine _) _)

theorem announced (kept : Scene.Speaking routing r R) (scene : Scene) (field : Field)
    (pkt : ServerPacket) (routine : pkt.isRoutine = true) :
    R scene (broadcast routing r pkt (scene.setField r field)) :=
  kept.trans (kept.field scene field) (kept.spoken _ r pkt routine)

theorem distributeExp (kept : Scene.Speaking routing r R) (killer : ObjectId) (m : Monster)
    (scene : Scene) : R scene (distributeExp data routing r killer m scene) := by
  have gains (share : Int) (scene : Scene) (id : ObjectId) :
      R scene (ZeldaServer.actPlayer routing id (Player.gainExp data share) scene) :=
    kept.actPlayer id _ (fun p emission member =>
      .mono ServerPacket.isRoutine_of_gains (Player.gainExp_gains data share p emission member)) scene
  unfold ZeldaServer.distributeExp
  dsimp only
  cases data.monsterTemplate m.templateId with
  | none => exact kept.refl scene
  | some templateData =>
      dsimp only
      split
      · exact kept.refl scene
      · split
        · exact gains _ scene killer
        · cases routing.parties.parties (routing.parties.partyIdByPlayer killer) with
          | none => exact gains _ scene killer
          | some party => exact kept.foldl _ (gains _) _ scene

theorem processMonsterDrop (kept : Scene.Speaking routing r R) (killer : ObjectId) (m : Monster)
    (scene : Scene) : R scene (processMonsterDrop data routing killer m scene) := by
  unfold ZeldaServer.processMonsterDrop
  cases data.monsterDrops m.templateId with
  | none => exact kept.refl scene
  | some drops =>
      apply kept.foldl
      intro scene drop
      dsimp only
      split
      · apply kept.trans (kept.draw scene)
        exact kept.actPlayer killer _ (fun p emission member =>
          .mono ServerPacket.isRoutine_of_gains
            (Player.addItem_gains data drop.itemId 1 p emission member)) _
      · exact kept.draw scene

theorem killMonster (kept : Scene.Speaking routing r R) (killer : ObjectId) (m : Monster)
    (scene : Scene) : R scene (killMonster data routing r killer m scene) := by
  apply kept.trans (kept.distributeExp data killer m scene)
  exact kept.trans (kept.processMonsterDrop data killer m _) (kept.announced _ _ _ rfl)

theorem monsterGoHome (kept : Scene.Speaking routing r R) (m : Monster) (scene : Scene) :
    R scene (monsterGoHome routing r m scene) := by
  have set : R scene (scene.setMonster r m) := kept.field scene _
  unfold ZeldaServer.monsterGoHome
  dsimp only
  split
  · split
    · exact kept.trans set (kept.announced _ _ _ rfl)
    · exact set
  · exact set

theorem monsterAttack (kept : Scene.Speaking routing r R) (m : Monster) (target : ObjectId)
    (scene : Scene) : R scene (monsterAttack routing r m target scene) := by
  unfold ZeldaServer.monsterAttack
  dsimp only
  refine kept.trans ?_ (kept.spoken _ r _ rfl)
  refine kept.trans ?_ (kept.player _ target _)
  exact kept.announced scene _ _ rfl

theorem monsterChase (kept : Scene.Speaking routing r R) (m : Monster) (target : ObjectId)
    (scene : Scene) : R scene (monsterChase routing r m target scene) := by
  have set : R scene (scene.setMonster r m) := kept.field scene _
  unfold ZeldaServer.monsterChase
  dsimp only
  split
  · split
    · exact kept.trans set (kept.field _ _)
    · split
      · exact kept.trans set (kept.announced _ _ _ rfl)
      · exact set
  · exact set

theorem monsterUpdateIdle (kept : Scene.Speaking routing r R) (m : Monster) (scene : Scene) :
    R scene (monsterUpdateIdle routing r m scene) := by
  unfold ZeldaServer.monsterUpdateIdle
  dsimp only
  generalize (if m.homePos = ⟨-1, -1⟩ then { m with homePos := m.info.cellPos } else m) = m
  split
  · exact kept.monsterGoHome _ scene
  · cases chooseTarget routing r m scene with
    | none =>
        dsimp only
        split
        · exact kept.monsterGoHome m scene
        · exact kept.field scene _
    | some target =>
        dsimp only
        split
        · split
          · exact kept.monsterGoHome _ scene
          · exact kept.field scene _
        · split
          · exact kept.monsterAttack _ target scene
          · exact kept.monsterChase _ target scene

theorem monsterUpdate (kept : Scene.Speaking routing r R) (scene : Scene) (id : ObjectId) :
    R scene (monsterUpdate routing r scene id) := by
  unfold ZeldaServer.monsterUpdate
  cases (scene.fields r).monster id with
  | none => exact kept.refl scene
  | some m =>
      have rested : R scene (monsterRest r m scene) := by
        unfold monsterRest
        split
        · exact kept.refl scene
        · exact kept.field scene _
      dsimp only
      cases m.info.state with
      | idle => exact kept.monsterUpdateIdle m scene
      | move => exact rested
      | skill => exact rested

theorem arrowHit (kept : Scene.Speaking routing r R) (a : Arrow) (target : Monster)
    (scene : Scene) : R scene (arrowHit data routing r a target scene) := by
  unfold ZeldaServer.arrowHit
  dsimp only
  refine kept.trans ?_ (kept.announced _ _ _ rfl)
  cases findObject routing scene r a.ownerId with
  | none => exact kept.refl scene
  | some owner =>
      have hit : R scene (hitMonster routing r (owner.info scene).objectId
          (max 1 ((owner.info scene).attack - target.info.defence)) target scene).2 :=
        kept.announced scene _ _ rfl
      dsimp only
      split
      · cases owner with
        | player killer => exact kept.trans hit (kept.killMonster data killer _ _)
        | monster m => exact kept.trans hit (kept.announced _ _ _ rfl)
        | projectile other => exact kept.trans hit (kept.announced _ _ _ rfl)
      · exact hit

theorem arrowUpdateIdle (kept : Scene.Speaking routing r R) (a : Arrow) (scene : Scene) :
    R scene (arrowUpdateIdle data routing r a scene) := by
  unfold ZeldaServer.arrowUpdateIdle
  split
  · exact kept.refl scene
  · cases deltaXY a.info.dir with
    | none => exact kept.fail scene .outOfBounds (by decide)
    | some delta =>
        dsimp only
        split
        · exact kept.announced scene _ _ rfl
        · cases monsterAt scene r (a.info.cellPos + delta) with
          | some target => exact kept.arrowHit data a target scene
          | none =>
              dsimp only
              refine kept.trans ?_ (kept.spoken _ r _ rfl)
              refine kept.trans ?_ (kept.spoken _ r _ rfl)
              exact kept.announced scene _ _ rfl

theorem arrowUpdateMove (kept : Scene.Speaking routing r R) (a : Arrow) (scene : Scene) :
    R scene (arrowUpdateMove routing r a scene) := by
  unfold ZeldaServer.arrowUpdateMove
  split
  · exact kept.refl scene
  · exact kept.trans (kept.announced scene _ _ rfl) (kept.spoken _ r _ rfl)

theorem arrowUpdate (kept : Scene.Speaking routing r R) (scene : Scene) (id : ObjectId) :
    R scene (arrowUpdate data routing r scene id) := by
  unfold ZeldaServer.arrowUpdate
  cases (scene.fields r).projectile id with
  | none => exact kept.refl scene
  | some fired =>
      have started : R scene (scene.setProjectile r (arrowStart scene.now fired)) :=
        kept.field scene _
      dsimp only
      split
      · exact kept.trans started (kept.announced _ _ _ rfl)
      · split
        · exact kept.trans started (kept.announced _ _ _ rfl)
        · cases (arrowStart scene.now fired).info.state with
          | idle => exact kept.trans started (kept.arrowUpdateIdle data _ _)
          | move => exact kept.trans started (kept.arrowUpdateMove _ _)
          | skill => exact kept.trans started (kept.announced _ _ _ rfl)

theorem gameStep (kept : Scene.Speaking routing r R) (scene : Scene) (idGen : ObjectId) :
    R scene (gameStep data routing r scene idGen).1 := by
  rw [gameStep_eq]
  refine kept.trans ?_ (kept.toSpawning.spawnTick data _ idGen)
  unfold stepObjects
  refine kept.trans ?_ (kept.foldl _ (kept.arrowUpdate data) _ _)
  refine kept.trans ?_ (kept.foldl _ kept.monsterUpdate _ _)
  apply kept.foldl
  exact fun scene id => kept.actPlayer id _ (Player.update_routine scene.now) scene

theorem handleStaffAttack (kept : Scene.Speaking routing r R) (attacker : ObjectId)
    (pkt : CAttack) (scene : Scene) :
    R scene (handleStaffAttack data routing r attacker pkt scene) := by
  have hits (cells : List Vec2Int) (now : List Monster × Scene) :
      R now.2 (cells.foldl (staffCell routing r (scene.players attacker).info) now).2 := by
    induction cells generalizing now with
    | nil => exact kept.refl now.2
    | cons cell cells ih =>
        refine kept.trans ?_ (ih _)
        unfold staffCell
        cases monsterAt now.2 r cell with
        | none => exact kept.refl now.2
        | some target => exact kept.announced now.2 _ _ rfl
  unfold ZeldaServer.handleStaffAttack
  dsimp only
  have struck := hits (staffCells ((scene.players attacker).info.cellPos + staffForward pkt.dir))
    ([], scene)
  apply kept.trans struck
  exact kept.foldl _ (fun scene m => kept.killMonster data attacker m scene) _ _

end Scene.Speaking

end Room

def ServerPacket.isStrike : ServerPacket → Bool
  | .attack _ _ _ => true
  | _ => false

/-- From `a` to `b` no attack is announced. -/
def Scene.Unstruck (a b : Scene) : Prop :=
  ∃ news : List (SessionId × ServerPacket), b.sent = a.sent ++ news ∧
    ∀ sent ∈ news, sent.2.isStrike = false

namespace Scene.Unstruck

theorem of_sent {a b : Scene} (sent : b.sent = a.sent) : a.Unstruck b :=
  ⟨[], by rw [sent, List.append_nil], List.forall_mem_nil _⟩

theorem trans {a b c : Scene} (first : a.Unstruck b) (second : b.Unstruck c) : a.Unstruck c := by
  obtain ⟨news, sent, calm⟩ := first
  obtain ⟨news', sent', calm'⟩ := second
  refine ⟨news ++ news', by rw [sent', sent, List.append_assoc], ?_⟩
  exact List.forall_mem_append.mpr ⟨calm, calm'⟩

theorem broadcast (routing : Routing) (r : RoomRef) (pkt : ServerPacket)
    (calm : pkt.isStrike = false) (scene : Scene) :
    scene.Unstruck (broadcast routing r pkt scene) := by
  refine ⟨_, broadcast_sent routing r pkt scene, ?_⟩
  intro sent listed
  obtain ⟨id, -, made⟩ := List.mem_filterMap.mp listed
  obtain ⟨s, -, rfl⟩ := Option.map_eq_some_iff.mp made
  exact calm

theorem sendToPlayer (routing : Routing) (id : ObjectId) (pkt : ServerPacket)
    (calm : pkt.isStrike = false) (scene : Scene) :
    scene.Unstruck (sendToPlayer routing id pkt scene) := by
  unfold ZeldaServer.sendToPlayer
  cases routing.playerSession id with
  | none => exact of_sent rfl
  | some s => exact ⟨[(s, pkt)], rfl, List.forall_mem_singleton.mpr calm⟩

theorem isStrike_routine (pkt : ServerPacket) (routine : pkt.isRoutine = true) :
    pkt.isStrike = false := by
  cases pkt <;> first | rfl | cases routine

theorem speaking (routing : Routing) (r : RoomRef) : Scene.Speaking routing r Scene.Unstruck where
  refl := fun _ => of_sent rfl
  trans := trans
  draw := by
    intro scene
    unfold Scene.draw
    cases scene.rand <;> exact of_sent rfl
  fail := fun _ _ _ => of_sent rfl
  field := fun _ _ => of_sent rfl
  told := fun scene pkt => broadcast routing r (.addObject pkt) rfl scene
  player := fun _ _ _ => of_sent rfl
  rank := by
    intro scene name level
    unfold Scene.redisCommand
    split <;> exact of_sent rfl
  spoken := fun scene r' pkt routine => broadcast routing r' pkt (isStrike_routine pkt routine) scene
  sent := fun scene id pkt routine => sendToPlayer routing id pkt (isStrike_routine pkt routine) scene

theorem handleSwordAttack (w : World) (r : RoomRef) (attacker : ObjectId) :
    w.scene.Unstruck (handleSwordAttack data w r attacker).scene := by
  have kept := speaking w.routing r
  unfold ZeldaServer.handleSwordAttack
  dsimp only
  cases gameObjectAt w.routing w.scene r (w.scene.players attacker).info.frontCellPos with
  | none => exact of_sent rfl
  | some object =>
      cases object with
      | projectile a => exact of_sent rfl
      | monster target =>
          have hit : w.scene.Unstruck (hitMonster w.routing r
              (w.scene.players attacker).info.objectId
              (max 1 ((w.scene.players attacker).info.attack - target.info.defence)) target
              w.scene).2 := kept.announced w.scene _ _ rfl
          dsimp only
          split
          · exact hit.trans (kept.killMonster data attacker _ _)
          · exact hit
      | player target =>
          have hurt (p : Player) (pkt : ServerPacket) (routine : pkt.isRoutine = true) :
              w.scene.Unstruck (ZeldaServer.broadcast w.routing r pkt (w.scene.setPlayer target p)) :=
            trans (kept.player w.scene target p) (kept.spoken _ r pkt routine)
          dsimp only
          split
          · apply trans _ (broadcast _ r _ rfl _)
            exact hurt _ _ rfl
          · exact hurt _ _ rfl

end Scene.Unstruck

end ZeldaServer
