import ZeldaServer.World.Iterations

/-! The loops of a room in every state of a run: no iterator is lost, and a `Step` updates every
object of the room once. -/

namespace ZeldaServer

open Iterators (Op Code Memory Loops Runs op each eachAhead drain)

variable (data : GameData)

section Room

variable (routing : Routing) (r : RoomRef)

theorem updatePasses_keys (entry : ObjectId → Entry) (code : Scene → ObjectId → RoomCode)
    (update : Scene → ObjectId → Scene) (ids : List ObjectId) (scene : Scene) :
    (updatePasses entry code update ids scene).map Prod.fst = ids.map entry := by
  induction ids generalizing scene with
  | nil => rfl
  | cons id ids ih => exact congrArg (entry id :: ·) (ih _)

theorem updates_quiet (c : Container) (within : ¬ c.Outside) (entry : ObjectId → Entry)
    (code : Scene → ObjectId → RoomCode) (update : Scene → ObjectId → Scene)
    (quiet : ∀ scene id, Quiet routing (code scene id)) (ids : List ObjectId) (scene : Scene)
    (loops : Loops Container) (inside : Inside loops) (a : Memory Container Entry)
    (players : ∀ r, a.contents (.players r) = (playerIds routing r).map .player)
    (keys : a.contents c = ids.map entry) :
    Runs loops a (each c (updatePasses entry code update ids scene)) fun b =>
      (∀ d, ¬ d.Outside → b.contents d = a.contents d) ∧
        b.updated = a.updated ++ ids.map entry := by
  apply (Runs.each c _ (keys.trans (updatePasses_keys entry code update ids scene).symm)
    (fun rest b => ∃ done left scene', rest = updatePasses entry code update left scene' ∧
      ids = done ++ left ∧ (∀ d, ¬ d.Outside → b.contents d = a.contents d) ∧
      b.updated = a.updated ++ done.map entry)
    ⟨[], ids, scene, rfl, rfl, fun _ _ => rfl, by simp⟩ _).weaken
  · rintro b ⟨done, left, scene', none_left, rfl, same, updated⟩
    cases left with
    | nil => exact ⟨same, by rwa [List.append_nil]⟩
    | cons id left => cases none_left
  · rintro k pass rest front b ⟨done, left, scene', some_left, rfl, same, updated⟩ -
    cases left with
    | nil => cases some_left
    | cons id left =>
        cases some_left
        apply Runs.mul (m := fun d => d = { b with updated := b.updated ++ [entry id] })
          (.update _ rfl)
        rintro d rfl
        apply (quiet scene' id _ _ (inside.cons c _ within) _).weaken
        · intro d unchanged
          refine ⟨⟨done ++ [id], left, _, rfl, by simp, ?_, ?_⟩, unchanged.contents c within⟩
          · exact fun e away => (unchanged.contents e away).trans (same e away)
          · rw [unchanged.updated, updated, List.map_append, List.append_assoc]
            rfl
        · intro r
          exact (same (.players r) not_false).trans (players r)

theorem arrowUpdate_ids (scene : Scene) (id : ObjectId) :
    ((arrowUpdate data routing r scene id).fields r).projectiles.map (·.info.objectId) =
        (scene.fields r).projectiles.map (·.info.objectId) ∨
      ((arrowUpdate data routing r scene id).fields r).projectiles.map (·.info.objectId) =
        ((scene.fields r).projectiles.map (·.info.objectId)).filter (· ≠ id) := by
  cases found : (scene.fields r).projectile id with
  | none =>
      left
      unfold arrowUpdate
      rw [found]
  | some fired =>
      have named : fired.info.objectId = id := by simpa using List.find?_some found
      have turn := arrowUpdateBy_turn data routing r scene.now scene id fired found (Nat.le_refl _)
      rw [arrowUpdateBy_now] at turn
      generalize arrowUpdate data routing r scene id = after at turn
      have set (a : Arrow) : ((scene.setProjectile r a).fields r).projectiles.map
          (·.info.objectId) = (scene.fields r).projectiles.map (·.info.objectId) :=
        (Scene.SameKeys.setProjectile scene r a).projectiles r
      have dropped (hit : Scene)
          (same : (hit.fields r).projectiles.map (·.info.objectId) =
            (scene.fields r).projectiles.map (·.info.objectId)) :
          ((hit.dropArrow r fired.info.objectId).fields r).projectiles.map (·.info.objectId) =
            ((scene.fields r).projectiles.map (·.info.objectId)).filter (· ≠ id) := by
        rw [← same, named, List.filter_map]
        simp [Scene.dropArrow, Scene.setField]
        rfl
      cases turn with
      | waits fresh due stands result =>
          left
          rw [result.projectiles, set]
      | rests fresh state due stands result =>
          left
          rw [result.projectiles, set]
      | flies fresh delta state due ahead free alone result =>
          left
          rw [result.projectiles, set]
      | lost fresh nowhere fault result =>
          left
          rw [result.projectiles, set]
      | removed result =>
          right
          rw [result.projectiles]
          exact dropped _ (set _)
      | hits target hit met struck result =>
          right
          rw [result.projectiles]
          apply dropped
          rw [((struck_keeps struck).1 r).1]
          exact set _

theorem projectile_entry : Function.Injective Entry.projectile := fun _ _ same => Entry.projectile.inj same

theorem arrows_run (ids : List ObjectId) (scene : Scene) (once : ids.Nodup)
    (a : Memory Container Entry) (held : scene.Held routing a)
    (keys : a.contents (.projectiles r) = ids.map .projectile) :
    Runs [] a
      (eachAhead (.projectiles r)
        (updatePasses .projectile (arrowUpdateCode data routing r) (arrowUpdate data routing r) ids scene))
      fun b => (ids.foldl (arrowUpdate data routing r) scene).Held routing b ∧
        b.updated = a.updated ++ ids.map .projectile := by
  have all := (updatePasses_keys .projectile (arrowUpdateCode data routing r) (arrowUpdate data routing r) ids
    scene).symm
  apply (Runs.eachAhead (.projectiles r) _ (keys.trans all)
    (fun rest b => ∃ done left scene',
      rest = updatePasses .projectile (arrowUpdateCode data routing r) (arrowUpdate data routing r) left scene' ∧
      ids = done ++ left ∧ scene'.Held routing b ∧
      left.foldl (arrowUpdate data routing r) scene' =
        ids.foldl (arrowUpdate data routing r) scene ∧
      b.updated = a.updated ++ done.map .projectile)
    ⟨[], ids, scene, rfl, rfl, held, rfl, by simp⟩ _).weaken
  · rintro b ⟨done, left, scene', none_left, rfl, held', result, updated⟩
    cases left with
    | nil =>
        rw [List.append_nil] at result ⊢
        exact ⟨result ▸ held', updated⟩
    | cons id left => cases none_left
  · rintro k pass rest front b ⟨done, left, scene', some_left, rfl, held', result, updated⟩ contents
    cases left with
    | nil => cases some_left
    | cons id left =>
        cases some_left
        rw [updatePasses_keys] at contents ⊢
        apply Runs.mul (m := fun d => d = { b with updated := b.updated ++ [.projectile id] })
          (.update _ rfl)
        rintro d rfl
        have listed := held' (.projectiles r) _ rfl
        rw [contents] at listed
        obtain ⟨before, after, ids', early, late⟩ := List.map_eq_append_iff.mp listed.symm
        obtain ⟨found, left', rfl, same, rest'⟩ := List.map_eq_cons_iff.mp late
        cases same
        obtain rfl : left' = left := List.map_injective_iff.mpr projectile_entry rest'
        have single : id ∉ left' := (List.nodup_cons.mp (List.nodup_append.mp once).2.1).1
        have clear : Follows.Clear ((.projectiles r, (updatePasses .projectile (arrowUpdateCode data routing r)
            (arrowUpdate data routing r) left' (arrowUpdate data routing r scene' id)).length) ::
            []) r id scene' := by
          have many := congrArg List.length (updatePasses_keys .projectile (arrowUpdateCode data routing r)
            (arrowUpdate data routing r) left' (arrowUpdate data routing r scene' id))
          rw [List.length_map, List.length_map] at many
          rw [many]
          refine ⟨Inside.cons (List.forall_mem_nil _) _ _ not_false, ?_, ?_⟩
          · simp
          · simp only [List.mem_singleton, forall_eq, true_implies]
            exact ⟨before, left', ids', single, rfl⟩
        apply (Follows.arrowUpdate data scene' clear
          { b with updated := b.updated ++ [.projectile id] } held').weaken
        rintro d ⟨held'', updated', -⟩
        refine ⟨⟨done ++ [id], left', _, rfl, by simp, held'', result, ?_⟩, ?_⟩
        · rw [updated', updated, List.map_append, List.append_assoc]
          rfl
        · rw [held'' (.projectiles r) _ rfl]
          rcases arrowUpdate_ids data routing r scene' id with kept | gone
          · exact ⟨(before ++ [id]).map .projectile, by rw [kept, ids']; simp⟩
          · refine ⟨(before.filter (· ≠ id)).map .projectile, ?_⟩
            have others : left'.filter (· ≠ id) = left' := by
              apply List.filter_eq_self.mpr
              intro other member
              exact decide_eq_true fun same => single (same ▸ member)
            rw [gone, ids', List.filter_append, List.filter_cons_of_neg (by simp), others,
              List.map_append]

structure Draining (made : Scene) (rest : List Entry) (a b : Memory Container Entry) : Prop where
  held : ∀ c keys, c ≠ .respawnQueue r → made.keysOf routing c = some keys → b.contents c = keys
  queue : b.contents (.respawnQueue r) = (made.fields r).respawnQueue.map .request ++ rest
  updated : b.updated = a.updated

theorem respawnPasses_keys (requests : List RespawnRequest) (made : Scene × ObjectId) :
    (respawnPasses data routing r requests made).map Prod.fst = requests.map .request := by
  induction requests generalizing made with
  | nil => rfl
  | cons request requests ih => exact congrArg (Entry.request request :: ·) (ih _)

theorem spawnAt_keys (pos : Vec2Int) (aggroRange leashRange templateId : Int)
    (made : Scene × ObjectId) :
    ((spawnAt data routing r pos aggroRange leashRange templateId made).1.fields r).respawnQueue =
        (made.1.fields r).respawnQueue ∧
      (spawnAt data routing r pos aggroRange leashRange templateId made).1.keysOf routing
          (.monsters r) =
        some (((made.1.fields r).monsters.map (·.info.objectId)).map .monster ++
          [.monster made.2]) ∧
      ∀ d, d ≠ .monsters r →
        (spawnAt data routing r pos aggroRange leashRange templateId made).1.keysOf routing d =
          made.1.keysOf routing d := by
  have supplied : ∃ cell scene, scene.fields = made.1.fields ∧
      (spawnAt data routing r pos aggroRange leashRange templateId made).1 =
        addMonster routing r (createMonster data made.2 cell aggroRange leashRange templateId)
          scene := by
    unfold spawnAt
    dsimp only
    split
    · exact ⟨pos, made.1, rfl, rfl⟩
    · exact ⟨_, _, (randomEmptyCellPos_spec routing r _ made.1).1.fields, rfl⟩
  obtain ⟨cell, scene, fields, result⟩ := supplied
  rw [result]
  unfold addMonster
  dsimp only
  have told := (Scene.Quiet.broadcast routing r
    (.addObject ⟨[(createMonster data made.2 cell aggroRange leashRange templateId).info]⟩)
    (scene.setField r { scene.fields r with
      monsters := (scene.fields r).monsters ++
        [createMonster data made.2 cell aggroRange leashRange templateId] })).fields
  have keys (a b : Scene) (same : a.fields = b.fields) (c : Container) :
      a.keysOf routing c = b.keysOf routing c := by
    cases c <;> simp only [Scene.keysOf, same]
  refine ⟨?_, ?_, fun d apart => ?_⟩
  · rw [told, ← fields]
    simp [Scene.setField]
  · rw [keys _ _ told, ← fields]
    simp [Scene.keysOf, Scene.setField, createMonster]
  · rw [keys _ _ told, keys made.1 scene fields.symm]
    apply keysOf_setField routing r scene _ (.monsters r) _ _ _ d apart
    · exact .inl rfl
    · exact .inr rfl
    · exact .inr rfl

theorem respawn_waits (made : Scene × ObjectId) (request : RespawnRequest)
    (early : made.1.now < request.due) :
    ((respawn data routing r made request).1.fields r).respawnQueue =
        (made.1.fields r).respawnQueue ++ [request] ∧
      ∀ d, d ≠ .respawnQueue r →
        (respawn data routing r made request).1.keysOf routing d = made.1.keysOf routing d := by
  unfold respawn
  dsimp only
  rw [if_pos early]
  constructor
  · simp [Scene.setField]
  · intro d apart
    apply keysOf_setField routing r made.1 _ (.respawnQueue r) _ _ _ d apart
    · exact .inr rfl
    · exact .inr rfl
    · exact .inl rfl

theorem respawns_run (requests : List RespawnRequest) (made : Scene × ObjectId)
    (a : Memory Container Entry) (none_yet : (made.1.fields r).respawnQueue = [])
    (draining : Draining routing r made.1 (requests.map .request) a a) :
    Runs [] a (drain (.respawnQueue r) (respawnPasses data routing r requests made)) fun b =>
      Draining routing r (requests.foldl (respawn data routing r) made).1 [] a b := by
  have contents := draining.queue
  rw [none_yet, List.map_nil, List.nil_append] at contents
  apply (Runs.drain (.respawnQueue r) _
    (contents.trans (respawnPasses_keys data routing r requests made).symm)
    (List.forall_mem_nil _)
    (fun rest b => ∃ left now, rest = respawnPasses data routing r left now ∧
      left.foldl (respawn data routing r) now = requests.foldl (respawn data routing r) made ∧
      Draining routing r now.1 (left.map .request) a b)
    ⟨requests, made, rfl, rfl, draining⟩ ?_ ?_).weaken
  · rintro b ⟨left, now, none_left, result, ends⟩
    cases left with
    | nil => exact result ▸ ends
    | cons request left => cases none_left
  · rintro k rest front b ⟨left, now, some_left, result, ready⟩ -
    cases left with
    | nil => cases some_left
    | cons request left =>
        by_cases early : now.1.now < request.due
        · simp only [respawnPasses, if_pos early, List.cons.injEq, Prod.mk.injEq] at some_left
          obtain ⟨queue, others⟩ := respawn_waits data routing r now request early
          refine ⟨left, _, some_left.2, result, fun c keys apart named => ?_, ?_, ready.updated⟩
          · exact ready.held c keys apart ((others c apart).symm.trans named)
          · rw [ready.queue, queue, List.map_append, List.append_assoc]
            rfl
        · simp [respawnPasses, if_neg early] at some_left
  · rintro k code rest front b ⟨left, now, some_left, result, ready⟩ split
    cases left with
    | nil => cases some_left
    | cons request left =>
        by_cases early : now.1.now < request.due
        · simp [respawnPasses, if_pos early] at some_left
        · simp only [respawnPasses, if_neg early, List.cons.injEq, Prod.mk.injEq,
            Option.some.injEq] at some_left
          obtain ⟨⟨rfl, rfl⟩, rfl⟩ := some_left
          rw [respawnPasses_keys] at split ⊢
          obtain ⟨queue, monsters, others⟩ := spawnAt_keys data routing r request.homePos
            request.aggroRange request.leashRange request.templateId now
          have born : respawn data routing r now request =
              spawnAt data routing r request.homePos request.aggroRange request.leashRange
                request.templateId now := if_neg early
          rw [← born] at queue monsters others
          rw [List.foldl_cons] at result
          generalize respawn data routing r now request = next at *
          have early' : front = (now.1.fields r).respawnQueue.map .request := by
            have same := ready.queue
            rw [split] at same
            exact List.append_cancel_right same
          have listed := ready.held (.monsters r) _ (by simp) rfl
          apply Runs.mul (m := fun d => d = b.set (.monsters r)
            (b.contents (.monsters r) ++ [.monster now.2]))
          · exact .insert _ _ (by simp) rfl
          · rintro d rfl
            have inside : Inside [(.respawnQueue r,
                (respawnPasses data routing r left next).length + 1)] :=
              Inside.cons (List.forall_mem_nil _) (.respawnQueue r) _ not_false
            apply (Quiet.broadcast r _ _ inside _).weaken
            · intro d same
              refine ⟨?_, left, next, rfl, result, fun c keys apart named => ?_, ?_, ?_⟩
              · rw [same.contents (.respawnQueue r) not_false, Memory.set_other _ _ (by simp)]
              · rw [Memory.set_other _ _ apart,
                  same.contents c (keysOf_inside routing _ c keys named)]
                by_cases here : c = .monsters r
                · subst here
                  rw [Memory.set_contents, listed]
                  exact Option.some.inj (monsters.symm.trans named)
                · rw [Memory.set_other _ _ here]
                  exact ready.held c keys apart ((others c here).symm.trans named)
              · rw [Memory.set_contents, early', queue]
              · rw [Memory.set_updated, same.updated]
                exact ready.updated
            · intro r'
              rw [Memory.set_other _ _ (by simp)]
              exact ready.held (.players r') _ (by simp) rfl

theorem spawnTick_run (scene : Scene) (idGen : ObjectId) (a : Memory Container Entry)
    (held : scene.Held routing a) :
    Runs [] a (spawnTickCode data routing r scene idGen) fun b =>
      (spawnTick data routing r scene idGen).1.Held routing b ∧ b.updated = a.updated := by
  unfold spawnTickCode spawnTick
  dsimp only
  split
  case isFalse => exact .one ⟨held, rfl⟩
  case isTrue =>
    have start : Draining routing r
        (scene.setField r { scene.fields r with respawnQueue := [] })
        ((scene.fields r).respawnQueue.map .request) a a := by
      refine ⟨fun c keys apart named => ?_, ?_, rfl⟩
      · apply held c keys
        rw [← named]
        symm
        apply keysOf_setField routing r scene _ (.respawnQueue r) _ _ _ c apart
        · exact .inr rfl
        · exact .inr rfl
        · exact .inl rfl
      · rw [held (.respawnQueue r) _ rfl]
        simp [Scene.setField]
    apply (respawns_run data routing r _ (_, idGen) a (by simp) start).weaken
    intro b ends
    refine ⟨fun c keys named => ?_, ends.updated⟩
    by_cases here : c = .respawnQueue r
    · subst here
      rw [ends.queue, List.append_nil]
      exact Option.some.inj named
    · exact ends.held c keys here named

theorem staffCells_run (info : ObjectInfo) (cells : List Vec2Int) (now : List Monster × Scene)
    (a : Memory Container Entry) (held : now.2.Held routing a)
    (dead : a.contents .deadTargets = (now.1.map (·.info.objectId)).map .monster) :
    Runs [] a (callsCode (staffCellCode routing r info) (staffCell routing r info) cells now)
      fun b => (cells.foldl (staffCell routing r info) now).2.Held routing b ∧
        b.contents .deadTargets =
          ((cells.foldl (staffCell routing r info) now).1.map (·.info.objectId)).map .monster := by
  induction cells generalizing now a with
  | nil => exact .one ⟨held, dead⟩
  | cons cell cells ih =>
      apply Runs.mul (m := fun b => (staffCell routing r info now cell).2.Held routing b ∧
        b.contents .deadTargets =
          ((staffCell routing r info now cell).1.map (·.info.objectId)).map .monster)
      · unfold staffCellCode staffCell
        cases monsterAt now.2 r cell with
        | none => exact .one ⟨held, dead⟩
        | some target =>
            dsimp only
            generalize max 1 ((info.attack - target.info.defence).tdiv 2) = damage
            have hurt : now.2.SameKeys
                (hitMonster routing r info.objectId damage target now.2).2 :=
              (Scene.SameKeys.setMonster now.2 r _).broadcast routing r _
            generalize hitMonster routing r info.objectId damage target now.2 = hit at hurt
            apply Runs.mul (Quiet.broadcast r [] a (List.forall_mem_nil _) held.players)
            intro b same
            have held' := (held.same same).keys hurt
            have dead' := (same.contents .deadTargets not_false).trans dead
            split
            · apply Runs.insert _ _ (List.forall_mem_nil _)
              refine ⟨fun c keys named => ?_, ?_⟩
              · rw [Memory.set_other]
                · exact held' c keys named
                · rintro rfl
                  cases named
              · rw [Memory.set_contents, dead', List.map_append, List.map_append]
                rfl
            · exact .one ⟨held', dead'⟩
      · rintro b ⟨held', dead'⟩
        exact ih _ b held' dead'

theorem killPasses_keys (killer : ObjectId) (dead : List Monster) (scene : Scene) :
    (killPasses data routing r killer dead scene).map Prod.fst =
      (dead.map (·.info.objectId)).map .monster := by
  induction dead generalizing scene with
  | nil => rfl
  | cons m dead ih => exact congrArg (Entry.monster m.info.objectId :: ·) (ih _)

theorem staff_run (attacker : ObjectId) (pkt : CAttack) (scene : Scene)
    (a : Memory Container Entry) (held : scene.Held routing a)
    (none_yet : a.contents .deadTargets = []) :
    Runs [] a (staffCode data routing r attacker pkt scene)
      fun b => (handleStaffAttack data routing r attacker pkt scene).Held routing b := by
  unfold staffCode handleStaffAttack
  dsimp only
  apply (staffCells_run routing r _ _ ([], scene) a held none_yet).mul
  generalize (staffCells _).foldl (staffCell routing r _) ([], scene) = hit
  rintro b ⟨held', dead⟩
  have keys := dead.trans (killPasses_keys data routing r attacker hit.1 hit.2).symm
  apply (Runs.each .deadTargets _ keys
    (fun rest c => ∃ left now, rest = killPasses data routing r attacker left now ∧
      left.foldl (fun scene m => killMonster data routing r attacker m scene) now =
        hit.1.foldl (fun scene m => killMonster data routing r attacker m scene) hit.2 ∧
      now.Held routing c) ⟨hit.1, hit.2, rfl, rfl, held'⟩ _).weaken
  · rintro c ⟨left, now, none_left, result, ends⟩
    cases left with
    | nil => exact result ▸ ends
    | cons m left => cases none_left
  · rintro k code rest front c ⟨left, now, some_left, result, ready⟩ -
    cases left with
    | nil => cases some_left
    | cons m left =>
        cases some_left
        have inside : Inside [(.deadTargets,
            (killPasses data routing r attacker left
              (killMonster data routing r attacker m now)).length + 1)] :=
          Inside.cons (List.forall_mem_nil _) .deadTargets _ not_false
        apply (Follows.killMonster data inside attacker m now (by simp) c ready).weaken
        rintro d ⟨ready', -, same⟩
        exact ⟨⟨left, _, rfl, result, ready'⟩, same⟩

theorem updates_keys (update : Scene → ObjectId → Scene)
    (same : ∀ (scene : Scene) id, scene.SameKeys (update scene id)) (ids : List ObjectId) (scene : Scene) :
    scene.SameKeys (ids.foldl update scene) := by
  induction ids generalizing scene with
  | nil => exact .of_fields rfl
  | cons id ids ih => exact (same scene id).trans (ih (update scene id))

theorem stepPlayers_keys (scene : Scene) : scene.SameKeys (stepPlayers routing r scene) :=
  updates_keys _ (fun scene id => .of_fields (actPlayer_fields routing id _ scene)) _ scene

theorem stepMonsters_keys (scene : Scene) : scene.SameKeys (stepMonsters routing r scene) :=
  updates_keys _ (Scene.SameKeys.monsterUpdate routing r) _ scene

def Scene.objects (scene : Scene) : List Entry :=
  (playerIds routing r).map .player ++
    (((scene.fields r).monsters.map (·.info.objectId)).map .monster ++
      ((scene.fields r).projectiles.map (·.info.objectId)).map .projectile)

theorem objects_nodup (scene : Scene) (players : (playerIds routing r).Nodup)
    (monsters : ((scene.fields r).monsters.map (·.info.objectId)).Nodup)
    (projectiles : ((scene.fields r).projectiles.map (·.info.objectId)).Nodup) :
    (scene.objects routing r).Nodup := by
  apply List.Nodup.append (players.map fun _ _ => Entry.player.inj)
  · apply List.Nodup.append (monsters.map fun _ _ => Entry.monster.inj)
    · exact projectiles.map projectile_entry
    · simp [List.disjoint_left]
  · simp [List.disjoint_left]

theorem step_run (scene : Scene) (idGen : ObjectId) (a : Memory Container Entry)
    (held : scene.Held routing a)
    (once : ((scene.fields r).projectiles.map (·.info.objectId)).Nodup) :
    Runs [] a (stepCode data routing r scene idGen) fun b =>
      (gameStep data routing r scene idGen).1.Held routing b ∧
        b.updated = a.updated ++ scene.objects routing r := by
  have none_running : Inside [] := List.forall_mem_nil _
  have ticked := stepPlayers_keys routing r scene
  have ready := stepMonsters_keys routing r (stepPlayers routing r scene)
  rw [gameStep_eq]
  unfold stepCode
  dsimp only
  apply (updates_quiet routing (.players r) not_false .player _ _
    (fun scene id => Quiet.act id _ scene) _ scene [] none_running a held.players
    (held.players r)).mul
  rintro b ⟨same, updated⟩
  have held' : (stepPlayers routing r scene).Held routing b := fun c keys named =>
    (same c (keysOf_inside routing _ c keys named)).trans (held.keys ticked c keys named)
  apply (updates_quiet routing (.monsters r) not_false .monster _ _
    (fun scene id => Quiet.monsterUpdate r scene id) _ (stepPlayers routing r scene) []
    none_running b held'.players (held' (.monsters r) _ rfl)).mul
  rintro c ⟨same', updated'⟩
  have held'' : (stepMonsters routing r (stepPlayers routing r scene)).Held routing c :=
    fun d keys named => (same' d (keysOf_inside routing _ d keys named)).trans
      (held'.keys ready d keys named)
  have arrows : ((stepMonsters routing r (stepPlayers routing r scene)).fields r).projectiles.map
      (·.info.objectId) = (scene.fields r).projectiles.map (·.info.objectId) :=
    (ticked.trans ready).projectiles r
  apply (arrows_run data routing r _ _ (arrows.symm ▸ once) c held''
    (held'' (.projectiles r) _ rfl)).mul
  rintro d ⟨flown, updated''⟩
  apply (spawnTick_run data routing r _ idGen d flown).weaken
  rintro e ⟨ends, updates⟩
  refine ⟨ends, ?_⟩
  rw [updates, updated'', updated', updated, arrows, ticked.monsters r, List.append_assoc,
    List.append_assoc]
  rfl

end Room

/-- No two arrows of a room have one id, and the generator is beyond all of them. -/
def Scene.ArrowsNumbered (a : Scene × ObjectId) : Prop :=
  ∀ r, ((a.1.fields r).projectiles.map (·.info.objectId)).Nodup ∧
    ∀ id ∈ (a.1.fields r).projectiles.map (·.info.objectId), id < a.2

namespace Scene.ArrowsNumbered

variable {a : Scene × ObjectId} {b : Scene} {g : ObjectId}

theorem fewer (numbered : Scene.ArrowsNumbered a) (later : a.2 ≤ g)
    (ids : ∀ r, ((b.fields r).projectiles.map (·.info.objectId)).Sublist
      ((a.1.fields r).projectiles.map (·.info.objectId))) : Scene.ArrowsNumbered (b, g) := by
  intro r
  obtain ⟨once, below⟩ := numbered r
  refine ⟨once.sublist (ids r), fun id listed => ?_⟩
  exact Nat.lt_of_lt_of_le (below id ((ids r).subset listed)) later

theorem same (numbered : Scene.ArrowsNumbered a) (later : a.2 ≤ g)
    (projectiles : ∀ r, (b.fields r).projectiles.map (·.info.objectId) =
      (a.1.fields r).projectiles.map (·.info.objectId)) : Scene.ArrowsNumbered (b, g) :=
  numbered.fewer later fun r => by rw [projectiles]

theorem setField (numbered : Scene.ArrowsNumbered a) (r : RoomRef) (field : Field) (g : ObjectId)
    (later : a.2 ≤ g) (once : (field.projectiles.map (·.info.objectId)).Nodup)
    (below : ∀ id ∈ field.projectiles.map (·.info.objectId), id < g) :
    Scene.ArrowsNumbered (a.1.setField r field, g) := by
  intro r'
  rcases setField_cases a.1 r r' field with ⟨rfl, here⟩ | away
  · dsimp only
    rw [here]
    exact ⟨once, below⟩
  · dsimp only
    rw [away]
    exact ⟨(numbered r').1, fun id listed => Nat.lt_of_lt_of_le ((numbered r').2 id listed) later⟩

theorem arrowUpdate (numbered : Scene.ArrowsNumbered a) (routing : Routing) (r : RoomRef)
    (id : ObjectId) : Scene.ArrowsNumbered (arrowUpdate data routing r a.1 id, a.2) := by
  apply numbered.fewer (Nat.le_refl _)
  intro r'
  by_cases here : r' = r
  · subst here
    rcases arrowUpdate_ids data routing r' a.1 id with kept | gone
    · rw [kept]
    · rw [gone]
      exact List.filter_sublist
  · obtain ⟨removed, chain⟩ := Scene.Deeds.arrowUpdate data routing r a.1 id
    rw [deeds_others routing r r' here chain]

end Scene.ArrowsNumbered

theorem act_numbered (a : Scene × ObjectId) (turns : List Turn) (b : Scene × ObjectId)
    (act : Scene.Act data a turns b) (numbered : Scene.ArrowsNumbered a) :
    Scene.ArrowsNumbered b := by
  cases act with
  | aside b same later =>
      apply numbered.same later
      intro r
      rw [same.projectiles]
  | monster routing r m found known distinct =>
      exact numbered.same (Nat.le_refl _) (Scene.SameKeys.monsterUpdate routing r a.1 _).projectiles
  | arrow routing r fired found known distinct fine => exact numbered.arrowUpdate data routing r _
  | hit r m damage found =>
      exact numbered.same (Nat.le_refl _) (Scene.SameKeys.setMonster a.1 r _).projectiles
  | removed r m =>
      apply numbered.same (Nat.le_refl _)
      intro r'
      by_cases here : r' = r
      · subst here
        rw [(dropMonster_field a.1 r' m).2.1]
      · rw [dropMonster_others a.1 r r' m here]
  | born routing r cell aggroRange leashRange templateId =>
      apply numbered.setField r _ _ (Nat.le_succ _)
      · exact (numbered r).1
      · exact fun id listed => Nat.lt_succ_of_lt ((numbered r).2 id listed)
  | fired routing r arrow named fresh idle =>
      apply numbered.setField r _ _ (Nat.le_succ _)
      · simp only [List.map_append, List.map_cons, List.map_nil, named]
        rw [List.nodup_append]
        refine ⟨(numbered r).1, List.nodup_singleton _, ?_⟩
        rintro id listed other new rfl
        rw [List.mem_singleton] at new
        exact Nat.ne_of_lt ((numbered r).2 id listed) new
      · intro id listed
        simp only [List.map_append, List.map_cons, List.map_nil, named, List.mem_append,
          List.mem_singleton] at listed
        rcases listed with old | rfl
        · exact Nat.lt_succ_of_lt ((numbered r).2 id old)
        · exact Nat.lt_succ_self _
  | opened r field g later empty newborn new =>
      apply numbered.setField r field g later
      · rw [empty]
        exact List.nodup_nil
      · rw [empty]
        exact List.forall_mem_nil _

/-- The loops over the containers of room `r` get to their ends, whatever the calls from them do,
and a `Step` updates every object of the room once. -/
structure Scene.SafeLoops (routing : Routing) (r : RoomRef) (scene : Scene) (idGen : ObjectId)
    (a : Memory Container Entry) : Prop where
  step : Runs [] a (stepCode data routing r scene idGen) fun b =>
    (gameStep data routing r scene idGen).1.Held routing b ∧
      b.updated = a.updated ++ scene.objects routing r
  once : (scene.objects routing r).Nodup
  respawn : Runs [] a (spawnTickCode data routing r scene idGen) fun b =>
    (spawnTick data routing r scene idGen).1.Held routing b
  staff : a.contents .deadTargets = [] → ∀ attacker pkt,
    Runs [] a (staffCode data routing r attacker pkt scene) fun b =>
      (handleStaffAttack data routing r attacker pkt scene).Held routing b

theorem safeLoops (w : World) (r : RoomRef) (orderly : w.Orderly) (once : w.routing.Unrepeated)
    (numbered : Scene.ArrowsNumbered (w.scene, w.idGen)) (scene : Scene)
    (same : w.scene.SameKeys scene) (a : Memory Container Entry)
    (held : scene.Held w.routing a) : scene.SafeLoops data w.routing r w.idGen a := by
  have arrows : ((scene.fields r).projectiles.map (·.info.objectId)).Nodup := by
    rw [same.projectiles]
    exact (numbered r).1
  have monsters : ((scene.fields r).monsters.map (·.info.objectId)).Nodup := by
    rw [same.monsters]
    exact orderly.numbered.distinct r
  constructor
  case step => exact step_run data w.routing r scene w.idGen a held arrows
  case once => exact objects_nodup w.routing r scene (once r) monsters arrows
  case respawn =>
    exact (spawnTick_run data w.routing r scene w.idGen a held).weaken fun b ends => ends.1
  case staff =>
    exact fun none_yet attacker pkt => staff_run data w.routing r attacker pkt scene a held none_yet

/-- In every state of every run, with any random numbers and whatever the calls of `Send` do: no
container is changed under a loop, but for an arrow that goes and the requests that
`ProcessRespawn` takes, and a `Step` updates every object once. A `Broadcast` may be called from
any loop of a room. -/
theorem loops_undisturbed (store : Store) (redisConnected : Bool) (rand : List Nat)
    (events : List Event) :
    (∀ routing r, Quiet routing (broadcastCode routing r)) ∧
    Runs.EveryState (World.step data)
      (fun w => ∀ r scene, w.scene.SameKeys scene → ∀ a, scene.Held w.routing a →
        scene.SafeLoops data w.routing r w.idGen a)
      (World.init data store redisConnected rand) events := by
  refine ⟨fun routing r => .broadcast r, ?_⟩
  have acts {a b : Scene × ObjectId} {turns : List Turn} (chain : Scene.Acts data a turns b) :
      Scene.ArrowsNumbered a → Scene.ArrowsNumbered b :=
    chain.relates (fun a _ b => Scene.ArrowsNumbered a → Scene.ArrowsNumbered b)
      (fun _ => id) fun a middle b first _ now later start =>
        later (act_numbered data a first middle now start)
  apply Runs.everyState_invariant (fun _ _ => True) (fun w : World =>
    w.Orderly ∧ w.routing.Unrepeated ∧ Scene.ArrowsNumbered (w.scene, w.idGen))
  · rintro w ⟨orderly, once, numbered⟩ r scene same a held
    exact safeLoops data w r orderly once numbered scene same a held
  · rintro w e next ⟨orderly, once, numbered⟩ - stepped
    exact ⟨step_orderly data w next e orderly stepped,
      step_unrepeated data w next e once stepped,
      acts (step_acts data w next e orderly stepped) numbered⟩
  · refine ⟨init_orderly data store redisConnected rand, fun r => ?_, ?_⟩
    · rw [(init_blank data store redisConnected rand).players]
      exact List.nodup_nil
    · apply acts (init_acts data store redisConnected rand)
      exact fun r => ⟨List.nodup_nil, List.forall_mem_nil _⟩
  · exact Runs.eachStep_true _ _

end ZeldaServer
