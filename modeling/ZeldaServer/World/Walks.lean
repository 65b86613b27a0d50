import ZeldaServer.Client.Walking
import ZeldaServer.World.Attendance

/-! What a room does to the walking of one of its players, and what it tells the player's
session of it. -/

namespace ZeldaServer

open Chains (Chain)

variable (data : GameData)

def ServerPacket.concerns (id : ObjectId) : ServerPacket → Bool
  | .myPlayer _ => true
  | .removeObject ids => ids.any (Screen.narrow · = id)
  | pkt => pkt.steers id

structure Scene.Leaves (id : ObjectId) (s : SessionId) (a b : Scene) : Prop where
  footing : (b.players id).info.footing = (a.players id).info.footing
  told : ∃ news, b.sent = a.sent ++ news ∧ ∀ pkt ∈ heardBy s news, pkt.concerns id = false

structure Scene.Arrives (id : ObjectId) (s : SessionId) (a b : Scene) : Prop where
  moving : (a.players id).info.state = .move
  rests : (b.players id).info.footing = { (a.players id).info.footing with state := .idle }
  told : ∃ news front info back, b.sent = a.sent ++ news ∧
    heardBy s news = front ++ .move info :: back ∧ info.objectId = id ∧
      info.footing = (b.players id).info.footing ∧ ∀ pkt ∈ front ++ back, pkt.concerns id = false

def Scene.Drifts (id : ObjectId) (s : SessionId) (a b : Scene) : Prop :=
  a.Leaves id s b ∨ a.Arrives id s b

theorem ServerPacket.concerns_gains (id : ObjectId) (pkt : ServerPacket)
    (gains : pkt.isOfGains = true) : (!pkt.concerns id) = true := by
  cases pkt <;> first | rfl | cases gains

namespace Player

theorem footing_of_gait {p p' : Player} (gait : p'.gait = p.gait)
    (dir : p'.info.dir = p.info.dir) : p'.info.footing = p.info.footing := by
  obtain ⟨-, rest⟩ := Prod.mk.inj gait
  obtain ⟨cell, rest⟩ := Prod.mk.inj rest
  obtain ⟨state, -⟩ := Prod.mk.inj rest
  unfold ObjectInfo.footing
  rw [cell, state, dir]

theorem gainExp_footing (amount : Int) (p : Player) :
    (gainExp data amount p).1.info.footing = p.info.footing :=
  footing_of_gait (gainExp_gait data amount p) (gainExp_dir data amount p)

theorem addItem_footing (itemId count : Int) (p : Player) :
    (addItem data itemId count p).2.1.info.footing = p.info.footing :=
  footing_of_gait (addItem_gait data itemId count p) (addItem_dir data itemId count p)

theorem onDamaged_footing (p : Player) (damage : Int) :
    (p.onDamaged damage).info.footing = p.info.footing := by
  apply footing_of_gait (onDamaged_gait p damage)
  unfold onDamaged ObjectInfo.onDamaged
  split <;> rfl

end Player

section Scenes

variable {id : ObjectId} {s : SessionId}

namespace Scene.Leaves

theorem of_same {a b : Scene} (footing : (b.players id).info.footing = (a.players id).info.footing)
    (sent : b.sent = a.sent) : a.Leaves id s b :=
  ⟨footing, [], by rw [sent, List.append_nil], List.forall_mem_nil _⟩

theorem refl (scene : Scene) : scene.Leaves id s scene := of_same rfl rfl

theorem trans {a b c : Scene} (first : a.Leaves id s b) (second : b.Leaves id s c) :
    a.Leaves id s c := by
  obtain ⟨footing, news, sent, calm⟩ := first
  obtain ⟨footing', news', sent', calm'⟩ := second
  refine ⟨footing'.trans footing, news ++ news', by rw [sent', sent, List.append_assoc], ?_⟩
  rw [heardBy_append]
  exact List.forall_mem_append.mpr ⟨calm, calm'⟩

theorem foldl {Item : Type} (f : Scene → Item → Scene)
    (step : ∀ scene item, Scene.Leaves id s scene (f scene item)) (items : List Item)
    (scene : Scene) : scene.Leaves id s (items.foldl f scene) := by
  induction items generalizing scene with
  | nil => exact refl scene
  | cons item items ih => exact (step scene item).trans (ih _)

theorem setPlayer (other : ObjectId) (p : Player) (scene : Scene)
    (footing : other = id → p.info.footing = (scene.players id).info.footing) :
    scene.Leaves id s (scene.setPlayer other p) := by
  have sent : (scene.setPlayer other p).sent = scene.sent := rfl
  refine of_same ?_ sent
  rw [setPlayer_players]
  split
  case isTrue same => exact footing same.symm
  case isFalse => rfl

theorem send (s' : SessionId) (pkt : ServerPacket) (scene : Scene)
    (calm : s' = s → pkt.concerns id = false) : scene.Leaves id s (scene.send s' pkt) := by
  refine ⟨rfl, [(s', pkt)], rfl, ?_⟩
  intro heard listed
  obtain ⟨entry, member, rfl⟩ := List.mem_map.mp listed
  obtain ⟨sent, own⟩ := List.mem_filter.mp member
  cases List.mem_singleton.mp sent
  exact calm (of_decide_eq_true own)

theorem fail (fault : Fault) (scene : Scene) : scene.Leaves id s (scene.fail fault) :=
  of_same rfl rfl

theorem broadcast (routing : Routing) (r : RoomRef) (pkt : ServerPacket)
    (calm : pkt.concerns id = false) (scene : Scene) :
    scene.Leaves id s (broadcast routing r pkt scene) := by
  apply foldl
  intro scene other
  cases routing.playerSession other with
  | none => exact fail .nullPointer scene
  | some s' => exact send s' pkt scene fun _ => calm

theorem sendToPlayer (routing : Routing) (other : ObjectId) (pkt : ServerPacket)
    (calm : pkt.concerns id = false) (scene : Scene) :
    scene.Leaves id s (sendToPlayer routing other pkt scene) := by
  unfold ZeldaServer.sendToPlayer
  cases routing.playerSession other with
  | none => exact refl scene
  | some s' => exact send s' pkt scene fun _ => calm

theorem redisCommand (command : RedisCommand) (scene : Scene) :
    scene.Leaves id s (scene.redisCommand command) := by
  unfold Scene.redisCommand
  split
  · exact of_same rfl rfl
  · exact fail .redisDown scene

theorem emissions (routing : Routing) (other : ObjectId) (emissions : List Emission)
    (calm : ∀ emission ∈ emissions, emission.Voices fun pkt => !pkt.concerns id) (scene : Scene) :
    scene.Leaves id s (emissions.foldl (emit routing other) scene) := by
  induction emissions generalizing scene with
  | nil => exact refl scene
  | cons emission emissions ih =>
      obtain ⟨now, later⟩ := List.forall_mem_cons.mp calm
      apply trans _ (ih later _)
      unfold emit
      cases emission with
      | session pkt => exact sendToPlayer routing other pkt (Bool.not_eq_true' _ ▸ now) scene
      | rank name level => exact redisCommand _ scene
      | room pkt =>
          dsimp only
          cases routing.playerRoom other with
          | none => exact refl scene
          | some r' => exact broadcast routing r' pkt (Bool.not_eq_true' _ ▸ now) scene

theorem actPlayer (routing : Routing) (other : ObjectId)
    (method : Player → Player × List Emission) (scene : Scene)
    (footing : ∀ p, (method p).1.info.footing = p.info.footing)
    (calm : ∀ emission ∈ (method (scene.players other)).2,
      emission.Voices fun pkt => !pkt.concerns id) :
    scene.Leaves id s (actPlayer routing other method scene) := by
  apply trans (setPlayer other _ scene _) (emissions routing other _ calm _)
  rintro rfl
  exact footing _

end Scene.Leaves

namespace Scene.Drifts

theorem refl (scene : Scene) : scene.Drifts id s scene := .inl (.refl scene)

theorem trans {a b c : Scene} (first : a.Drifts id s b) (second : b.Drifts id s c) :
    a.Drifts id s c := by
  rcases first with leaves | ⟨moving, rests, news, front, info, back, sent, heard, named, tells, calm⟩
  · rcases second with later | ⟨moving, rests, news, front, info, back, sent, heard, named, tells, calm⟩
    · exact .inl (leaves.trans later)
    · obtain ⟨footing, news', sent', calm'⟩ := leaves
      refine .inr ⟨?_, by rw [rests, footing], news' ++ news, heardBy s news' ++ front, info, back,
        by rw [sent, sent', List.append_assoc], ?_, named, tells, ?_⟩
      · exact (congrArg Footing.state footing).symm.trans moving
      · rw [heardBy_append, heard, List.append_assoc]
      · rw [List.append_assoc]
        exact List.forall_mem_append.mpr ⟨calm', calm⟩
  · rcases second with ⟨footing, news', sent', calm'⟩ | ⟨again, -, -⟩
    · refine .inr ⟨moving, footing.trans rests, news ++ news', front, info, back ++ heardBy s news',
        by rw [sent', sent, List.append_assoc], ?_, named, tells.trans footing.symm, ?_⟩
      · rw [heardBy_append, heard, List.append_assoc, List.cons_append]
      · rw [← List.append_assoc]
        exact List.forall_mem_append.mpr ⟨calm, calm'⟩
    · have still : (b.players id).info.state = .idle := congrArg Footing.state rests
      exact absurd (again.symm.trans still) (by decide)

end Scene.Drifts

structure Routing.Hears (routing : Routing) (r : RoomRef) (id : ObjectId) (s : SessionId) : Prop where
  here : id ∈ playerIds routing r
  session : routing.playerSession id = some s
  room : routing.playerRoom id = some r
  alone : ∀ other ∈ playerIds routing r, routing.playerSession other = some s → other = id
  once : (playerIds routing r).Nodup

theorem Routing.Hears.broadcast {routing : Routing} {r : RoomRef}
    (hears : routing.Hears r id s) (pkt : ServerPacket) :
    heardBy s (toPlayers routing (playerIds routing r) pkt) = [pkt] := by
  have only (ids : List ObjectId) (alone : ∀ other ∈ ids, routing.playerSession other = some s → other = id)
      (once : ids.Nodup) : heardBy s (toPlayers routing ids pkt) = if id ∈ ids then [pkt] else [] := by
    induction ids with
    | nil => rfl
    | cons other ids ih =>
        obtain ⟨away, once⟩ := List.nodup_cons.mp once
        have rest := ih (fun later listed => alone later (List.mem_cons_of_mem _ listed)) once
        have split : toPlayers routing (other :: ids) pkt =
            toPlayers routing [other] pkt ++ toPlayers routing ids pkt :=
          List.filterMap_append (l := [other])
        rw [split, heardBy_append, rest]
        by_cases mine : other = id
        · subst mine
          rw [if_neg away, if_pos List.mem_cons_self]
          simp [toPlayers, heardBy, hears.session]
        · have foreign : routing.playerSession other ≠ some s :=
            fun session => mine (alone other List.mem_cons_self session)
          have silent : heardBy s (toPlayers routing [other] pkt) = [] := by
            unfold toPlayers heardBy
            cases linked : routing.playerSession other with
            | none => simp [linked]
            | some s' =>
                have apart : s' ≠ s := by
                  rintro rfl
                  exact foreign linked
                simp [linked, apart]
          rw [silent, List.nil_append]
          simp only [List.mem_cons, Ne.symm mine, false_or]
  rw [only _ hears.alone hears.once, if_pos hears.here]

theorem concerns_move (info : ObjectInfo) (other : info.objectId ≠ id) :
    (ServerPacket.move info).concerns id = false := decide_eq_false other

theorem concerns_remove (other : ObjectId) (small : other < Screen.idLimit) (apart : other ≠ id) :
    (ServerPacket.removeObject [other]).concerns id = false := by
  unfold ServerPacket.concerns
  simp [Screen.narrow_small other small, apart]

theorem Scene.Drifts.ticked {routing : Routing} {r : RoomRef} (hears : routing.Hears r id s)
    (scene : Scene) (named : (scene.players id).info.objectId = id) :
    scene.Drifts id s (actPlayer routing id (Player.update scene.now) scene) := by
  unfold actPlayer Player.update
  split
  case isTrue due =>
    right
    dsimp only [List.foldl_cons, List.foldl_nil]
    unfold emit
    dsimp only
    rw [hears.room]
    dsimp only
    generalize mover : ({ (scene.players id) with
        moveEndTick := 0
        info := { (scene.players id).info with state := .idle } } : Player) = p
    have info : p.info = { (scene.players id).info with state := .idle } := by rw [← mover]
    have same : (broadcast routing r (.move { (scene.players id).info with state := .idle })
        (scene.setPlayer id p)).players id = p := by
      rw [(Scene.Quiet.broadcast routing r _ _).players, setPlayer_players, if_pos rfl]
    refine ⟨due.1, by rw [same, info]; rfl, ?_⟩
    refine ⟨_, [], _, [], broadcast_sent routing r _ _, hears.broadcast _, named, ?_,
      List.forall_mem_nil _⟩
    rw [same, info]
  case isFalse =>
    left
    apply Scene.Leaves.setPlayer
    exact fun _ => rfl

variable {taken : ObjectId → Prop}

theorem beat_drifts {routing : Routing} {r : RoomRef} (hears : routing.Hears r id s)
    {a b : Scene × ObjectId} {labels : List (ObjectId × Int)} (beat : Scene.Beat data routing r a labels b)
    (roster : Scene.Roster routing r taken a) (few : a.2 ≤ Screen.idLimit)
    (calm : a.1.Unstruck b.1) : a.1.Drifts id s b.1 := by
  have own := roster.players id hears.here
  have monster (m : Monster) (member : m ∈ (a.1.fields r).monsters) :
      m.info.objectId < Screen.idLimit ∧ m.info.objectId ≠ id := by
    obtain ⟨below, free⟩ := roster.below m.info.objectId
      (List.mem_append_left _ (List.mem_map.mpr ⟨m, member, rfl⟩))
    refine ⟨Nat.lt_of_lt_of_le below few, ?_⟩
    rintro rfl
    exact free own
  have projectile (arrow : Arrow) (member : arrow ∈ (a.1.fields r).projectiles) :
      arrow.info.objectId < Screen.idLimit ∧ arrow.info.objectId ≠ id := by
    obtain ⟨below, free⟩ := roster.below arrow.info.objectId
      (List.mem_append_right _ (List.mem_map.mpr ⟨arrow, member, rfl⟩))
    refine ⟨Nat.lt_of_lt_of_le below few, ?_⟩
    rintro rfl
    exact free own
  have told (scene : Scene) (field : Field) (pkt : ServerPacket) (quiet : pkt.concerns id = false) :
      scene.Leaves id s (broadcast routing r pkt (scene.setField r field)) := by
    have set : scene.Leaves id s (scene.setField r field) := .of_same rfl rfl
    exact set.trans (.broadcast routing r pkt quiet _)
  cases beat with
  | failed fault other => exact .inl (.fail fault a.1)
  | drew rand => exact .inl (.of_same rfl rfl)
  | struck attacker pkt =>
      obtain ⟨news, sent, calm⟩ := calm
      dsimp only at sent
      rw [broadcast_sent] at sent
      have heard := hears.broadcast (.attack attacker pkt.dir pkt.weaponType)
      rw [List.append_cancel_left sent] at heard
      have listed : ServerPacket.attack attacker pkt.dir pkt.weaponType ∈ heardBy s news := by
        rw [heard]
        exact List.mem_singleton_self _
      obtain ⟨entry, member, same⟩ := List.mem_map.mp listed
      have still := calm entry (List.mem_filter.mp member).1
      rw [same] at still
      cases still
  | gained other share =>
      left
      apply Scene.Leaves.actPlayer
      · exact Player.gainExp_footing data share
      · intro emission member
        exact (Player.gainExp_gains data share _ emission member).mono
          (ServerPacket.concerns_gains id)
  | looted other itemId =>
      left
      apply Scene.Leaves.actPlayer routing other (fun p => (Player.addItem data itemId 1 p).2)
      · exact Player.addItem_footing data itemId 1
      · intro emission member
        exact (Player.addItem_gains data itemId 1 _ emission member).mono
          (ServerPacket.concerns_gains id)
  | ticked other member =>
      by_cases mine : other = id
      · subst mine
        exact .ticked hears a.1 (roster.own _)
      · left
        refine (Scene.Leaves.setPlayer other _ a.1 fun same => absurd same mine).trans
          (.emissions routing other _ ?_ _)
        intro emission member
        rw [(Player.update_told a.1.now (a.1.players other)).2.2 emission member]
        have named : (Player.update a.1.now (a.1.players other)).1.info.objectId = other := by
          unfold Player.update
          split <;> exact roster.own other
        have quiet : ServerPacket.concerns id _ = false := concerns_move
          (Player.update a.1.now (a.1.players other)).1.info (by rw [named]; exact mine)
        exact (congrArg (fun concerned => !concerned) quiet : _)
  | hurt attacker other damage aimed =>
      left
      refine (Scene.Leaves.setPlayer other _ a.1 ?_).trans (.broadcast routing r _ rfl _)
      rintro rfl
      exact Player.onDamaged_footing _ damage
  | kept m m' member follows looks => exact .inl (.of_same rfl rfl)
  | moved m m' member follows health =>
      left
      apply told
      apply concerns_move
      rw [follows.named]
      exact (monster m member).2
  | hit attacker damage m member => exact .inl (told _ _ _ rfl)
  | removed m member =>
      obtain ⟨small, apart⟩ := monster m member
      exact .inl (told _ _ _ (concerns_remove _ small apart))
  | arrowKept arrow arrow' member info => exact .inl (.of_same rfl rfl)
  | arrowMoved arrow arrow' info member named looks health =>
      left
      apply told
      apply concerns_move
      rw [named.2]
      exact (projectile arrow member).2
  | echoed arrow member =>
      exact .inl (.broadcast routing r _ (concerns_move _ (projectile arrow member).2) _)
  | arrowRemoved arrow member =>
      obtain ⟨small, apart⟩ := projectile arrow member
      exact .inl (told _ _ _ (concerns_remove _ small apart))
  | queued respawnQueue => exact .inl (.of_same rfl rfl)
  | born m named fresh => exact .inl (told _ _ _ rfl)
  | fired arrow named => exact .inl (told _ _ _ rfl)

theorem Scene.Unstruck.split {a b c : Scene} {front back : List (SessionId × ServerPacket)}
    (first : b.sent = a.sent ++ front) (second : c.sent = b.sent ++ back) (calm : a.Unstruck c) :
    a.Unstruck b ∧ b.Unstruck c := by
  obtain ⟨news, sent, calm⟩ := calm
  rw [second, first, List.append_assoc] at sent
  rw [← List.append_cancel_left sent] at calm
  obtain ⟨calm, calm'⟩ := List.forall_mem_append.mp calm
  exact ⟨⟨front, first, calm⟩, back, second, calm'⟩

theorem beats_drifts {routing : Routing} {r : RoomRef} (hears : routing.Hears r id s)
    (housed : ∀ other ∈ playerIds routing r, routing.playerRoom other = some r)
    {a b : Scene × ObjectId} {labels : List (ObjectId × Int)}
    (beats : Scene.Beats data routing r a labels b)
    (crew : ∀ grant ∈ labels, grant.1 ∈ playerIds routing r)
    (roster : Scene.Roster routing r taken a) (few : b.2 ≤ Screen.idLimit)
    (calm : a.1.Unstruck b.1) : a.1.Drifts id s b.1 := by
  induction beats with
  | done a => exact .refl a.1
  | next a middle b first rest now later ih =>
      obtain ⟨crew, crew'⟩ := List.forall_mem_append.mp crew
      obtain ⟨roster', up, -, ⟨news, sent, -⟩, -⟩ := beat_mirrored data housed now crew roster
      obtain ⟨-, up', -, ⟨news', sent', -⟩, -⟩ := beats_mirrored data housed later crew' roster'
      obtain ⟨calm, calm'⟩ := calm.split sent sent'
      have few' := Nat.le_trans up' few
      have drifts := beat_drifts data hears now roster (Nat.le_trans up few') calm
      exact drifts.trans (ih crew' roster' few calm')

end Scenes

/-- The player of the session is in the room, and the session logged in once. -/
structure World.Bound (id : ObjectId) (s : SessionId) (w : World) : Prop extends w.Populated where
  here : id ∈ playerIds w.routing 0
  session : w.routing.playerSession id = some s
  owner : (w.routing.sessions s).player = some id
  only : ∀ login ∈ w.routing.logins, login.session = s → login.player = id
  few : w.idGen ≤ Screen.idLimit

namespace World.Bound

variable {id : ObjectId} {s : SessionId} {w : World}

theorem hears (bound : w.Bound id s) : w.routing.Hears 0 id s where
  here := bound.here
  session := bound.session
  room := bound.attended.housed id bound.here
  alone := by
    intro other standing session
    obtain ⟨login, member, mine, named⟩ := bound.attended.logged s other session
    exact named.symm.trans (bound.only login member mine)
  once := bound.once 0

theorem foreign (bound : w.Bound id s) {s' : SessionId} (apart : s' ≠ s) {other : ObjectId}
    (owner : (w.routing.sessions s').player = some other) : other ≠ id := by
  rintro rfl
  have session := bound.attended.bound s' other owner
  rw [bound.session] at session
  exact apart (Option.some.inj session).symm

theorem beats (bound : w.Bound id s) {scene : Scene} (routing : w.routing.Hears 0 id s)
    (roster : Scene.Roster w.routing 0 w.routing.LoggedPlayer (scene, w.idGen))
    {after : Scene × ObjectId} {labels : List (ObjectId × Int)}
    (beats : Scene.Beats data w.routing 0 (scene, w.idGen) labels after)
    (crew : ∀ grant ∈ labels, grant.1 ∈ playerIds w.routing 0) (few : after.2 ≤ Screen.idLimit)
    (calm : scene.Unstruck after.1) : scene.Drifts id s after.1 :=
  beats_drifts data routing bound.attended.housed beats crew roster few calm

theorem gameStep (bound : w.Bound id s)
    (few : (gameStep data w.routing 0 w.scene w.idGen).2 ≤ Screen.idLimit) :
    w.scene.Drifts id s (gameStep data w.routing 0 w.scene w.idGen).1 := by
  apply bound.beats data bound.hears bound.attended.roster
    (Scene.Beats.gameStep data w.routing 0 w.scene w.idGen) _ few
  · exact (Scene.Unstruck.speaking w.routing 0).gameStep data w.scene w.idGen
  · exact rewards_crew data w.routing _ (arrowCalls_crew data w.routing _ _)

def announce (w : World) (attacker : ObjectId) (pkt : CAttack) : Scene :=
  broadcast w.routing 0
    (.attack (w.scene.players attacker).info.objectId pkt.dir pkt.weaponType) w.scene

theorem bury (bound : w.Bound id s) (scene : Scene) (idGen : ObjectId) (victim : Option ObjectId)
    (standing : ∀ other, victim = some other → other ∈ playerIds w.routing 0)
    (stays : id ∈ playerIds (World.bury ⟨w.routing, scene, idGen⟩ 0 victim).routing 0) :
    scene.Leaves id s (World.bury ⟨w.routing, scene, idGen⟩ 0 victim).scene := by
  cases victim with
  | none => exact .refl scene
  | some other =>
      have apart : other ≠ id := by
        rintro rfl
        unfold playerIds World.bury World.removePlayer World.onScene at stays
        rw [Routing.players_erasePlayer, if_pos rfl] at stays
        simp at stays
      have small : other < Screen.idLimit :=
        Nat.lt_of_lt_of_le (bound.attended.roster.fresh other
          (bound.attended.roster.players other (standing other rfl))) bound.few
      exact .broadcast _ 0 _ (concerns_remove other small apart) scene

theorem swordVictim_standing (v : World) (attacker other : ObjectId)
    (dies : swordVictim v 0 attacker = some other) : other ∈ playerIds v.routing 0 := by
  unfold swordVictim at dies
  dsimp only at dies
  cases front : gameObjectAt v.routing v.scene 0 (v.scene.players attacker).info.frontCellPos with
  | none =>
      rw [front] at dies
      cases dies
  | some object =>
      rw [front] at dies
      cases object with
      | player target =>
          have standing := gameObjectAt_player v.routing v.scene 0 _ target front
          dsimp only at dies
          split at dies
          · rwa [← Option.some.inj dies]
          · cases dies
      | monster m => cases dies
      | projectile arrow => cases dies

theorem attack (bound : w.Bound id s) (s' : SessionId) (pkt : CAttack)
    (standing : ∀ other, (w.routing.sessions s').player = some other → other ∈ playerIds w.routing 0)
    (attacker : ObjectId) (locked : lockPlayer w.routing w.scene [] s' = some attacker)
    (stays : id ∈ playerIds (handleCAttack data w 0 s' pkt).routing 0)
    (few : (handleCAttack data w 0 s' pkt).idGen ≤ Screen.idLimit) :
    (announce w attacker pkt).Drifts id s (handleCAttack data w 0 s' pkt).scene := by
  have same := Scene.Quiet.broadcast w.routing 0
    (.attack (w.scene.players attacker).info.objectId pkt.dir pkt.weaponType) w.scene
  have roster : Scene.Roster w.routing 0 w.routing.LoggedPlayer (announce w attacker pkt, w.idGen) :=
    bound.attended.roster.of_same (announce w attacker pkt) same.players same.fields
  have distinct : ((announce w attacker pkt).fields 0).Distinct := (List.nodup_append.mp roster.apart).1
  have attacking := standing attacker (lockPlayer_some w.routing w.scene [] s' attacker locked).1
  have crew (dead : List Monster) :
      ∀ grant ∈ rewardsOf data w.routing 0 attacker dead, grant.1 ∈ playerIds w.routing 0 := by
    intro grant granted
    obtain ⟨m, -, rewarded⟩ := List.mem_flatMap.mp granted
    rcases grants_crew data w.routing 0 attacker m grant rewarded with self | near
    · rwa [self]
    · exact near
  have result : handleCAttack data w 0 s' pkt =
      if pkt.weaponType = WeaponType.sword then
        handleSwordAttack data { w with scene := announce w attacker pkt } 0 attacker
      else if pkt.weaponType = WeaponType.bow then
        handleBowAttack { w with scene := announce w attacker pkt } 0 attacker pkt
      else if pkt.weaponType = WeaponType.staff then
        World.onScene { w with scene := announce w attacker pkt }
          (handleStaffAttack data w.routing 0 attacker pkt)
      else { w with scene := announce w attacker pkt } := by
    rw [handleCAttack, locked]
    rfl
  clear same
  generalize announce w attacker pkt = heard at roster distinct result ⊢
  rw [result] at stays few ⊢
  clear result
  split at stays
  case isTrue sword =>
    rw [if_pos sword] at few ⊢
    have calm := Scene.Unstruck.handleSwordAttack data { w with scene := heard } 0
      attacker
    obtain ⟨after, beats, buried⟩ :=
      Scene.Beats.handleSwordAttack data { w with scene := heard } 0 attacker
    rw [buried] at stays few calm ⊢
    have victim (other : ObjectId) (dies : swordVictim { w with scene := heard } 0
        attacker = some other) : other ∈ playerIds w.routing 0 :=
      swordVictim_standing { w with scene := heard } attacker other dies
    have leaves := bound.bury after w.idGen _ victim stays
    obtain ⟨-, news, sent, -⟩ := leaves
    obtain ⟨-, -, -, ⟨news', sent', -⟩, -⟩ :=
      beats_mirrored data bound.attended.housed beats (crew _) roster
    obtain ⟨calm, -⟩ := calm.split sent' sent
    have drifts := bound.beats data bound.hears roster beats (crew _) bound.few calm
    exact drifts.trans (.inl (bound.bury after w.idGen _ victim stays))
  case isFalse sword =>
    rw [if_neg sword] at few ⊢
    split at stays
    case isTrue bow =>
      rw [if_pos bow] at few ⊢
      obtain ⟨after, beats, made⟩ :=
        Scene.Beats.handleBowAttack data { w with scene := heard } 0 attacker pkt
      have calm : (heard).Unstruck
          (handleBowAttack { w with scene := heard } 0 attacker pkt).scene :=
        (Scene.Unstruck.speaking w.routing 0).announced _ _ _ rfl
      rw [made] at few calm ⊢
      exact bound.beats data bound.hears roster beats (List.forall_mem_nil _) few calm
    case isFalse bow =>
      rw [if_neg bow] at few ⊢
      split at stays
      case isTrue staff =>
        rw [if_pos staff] at few ⊢
        have beats := Scene.Beats.handleStaffAttack data { w with scene := heard } 0 attacker pkt
          distinct
        have calm := (Scene.Unstruck.speaking w.routing 0).handleStaffAttack data attacker pkt heard
        unfold World.onScene
        generalize handleStaffAttack data w.routing 0 attacker pkt heard = after at beats calm ⊢
        exact bound.beats data bound.hears roster beats (crew _) bound.few calm
      case isFalse staff =>
        rw [if_neg staff]
        exact .refl _

end World.Bound

section Parties

variable {id : ObjectId} {s : SessionId}

namespace Scene.Leaves

theorem sendToMembers (r : RoomRef) (memberIds : List ObjectId) (pkt : ServerPacket)
    (calm : pkt.concerns id = false) (w : World) :
    w.scene.Leaves id s (sendToMembers r memberIds pkt w).scene := by
  apply foldl
  intro scene memberId
  split
  · exact sendToPlayer w.routing memberId pkt calm scene
  · exact refl scene

theorem partyUpdate (r : RoomRef) (partyId : PartyId) (w : World) :
    w.scene.Leaves id s (sendPartyUpdateFromRoom w r partyId).scene := by
  unfold sendPartyUpdateFromRoom
  cases w.routing.parties.parties partyId with
  | none => exact refl w.scene
  | some party => exact sendToMembers r party.memberIds _ rfl w

theorem enterRoomParty (r : RoomRef) (player : ObjectId) (w : World) :
    w.scene.Leaves id s (enterRoomParty w r player).scene := by
  unfold ZeldaServer.enterRoomParty
  dsimp only
  split
  · exact refl w.scene
  · cases w.routing.parties.parties (w.routing.parties.partyIdByPlayer player) with
    | none => exact refl w.scene
    | some party =>
        dsimp only
        split
        · exact fail .badCast w.scene
        · exact sendToMembers r party.memberIds _ rfl w

theorem partyInvite (r : RoomRef) (s' : SessionId) (targetId : ObjectId) (w : World) :
    w.scene.Leaves id s (partyInvite w r s' targetId).scene := by
  unfold ZeldaServer.partyInvite
  cases lockPlayer w.routing w.scene [] s' with
  | none => exact refl w.scene
  | some inviter =>
      dsimp only
      split
      · exact refl w.scene
      · split
        · exact refl w.scene
        · split
          · exact refl w.scene
          · split
            · exact refl w.scene
            · cases findPlayer w r targetId with
              | none => exact refl w.scene
              | some target => exact sendToPlayer w.routing target _ rfl w.scene

theorem partyAnswer (r : RoomRef) (s' : SessionId) (inviterId : ObjectId) (accept : Bool)
    (w : World) : w.scene.Leaves id s (partyAnswer w r s' inviterId accept).scene := by
  have same := inviterParty_scene w r inviterId
  unfold ZeldaServer.partyAnswer
  cases lockPlayer w.routing w.scene [] s' with
  | none => exact refl w.scene
  | some acceptor =>
      dsimp only
      generalize inviterParty w r inviterId = made at same
      have kept : w.scene.Leaves id s made.2.scene := by
        rw [same]
        exact refl w.scene
      split
      · exact refl w.scene
      · split
        · exact refl w.scene
        · split
          · exact kept
          · split
            · exact kept
            · exact kept.trans (partyUpdate r made.1
                { made.2 with
                  routing := made.2.routing.onParties fun _ =>
                    (made.2.routing.parties.addMember made.1 acceptor).2.setMemberName made.1
                      acceptor (made.2.scene.players acceptor).info.name })

theorem partyLeave (r : RoomRef) (s' : SessionId) (w : World) :
    w.scene.Leaves id s (partyLeave w r s').scene := by
  unfold ZeldaServer.partyLeave
  cases lockPlayer w.routing w.scene [] s' with
  | none => exact refl w.scene
  | some player =>
      dsimp only
      split
      · exact refl w.scene
      · cases w.routing.parties.parties (w.routing.parties.partyIdByPlayer player) with
        | none => exact refl w.scene
        | some party =>
            have told (parties : PartyManager → PartyManager) :
                w.scene.Leaves id s
                  (World.sendTo { w with routing := w.routing.onParties parties } s'
                    .partyLeave).scene :=
              send s' .partyLeave w.scene fun _ => rfl
            dsimp only
            split
            · exact (told _).trans (partyUpdate r _ _)
            · exact (told _).trans (sendToMembers r _ _ rfl _)

theorem walked {routing : Routing} {r : RoomRef} (other : ObjectId) (apart : other ≠ id) (p : Player)
    (pkt : ServerPacket) (tells : pkt = .move p.info ∨ pkt = .turn p.info)
    (scene : Scene) (named : p.info.objectId = other) :
    scene.Leaves id s (ZeldaServer.broadcast routing r pkt (scene.setPlayer other p)) := by
  refine (setPlayer other p scene fun same => absurd same apart).trans (broadcast routing r pkt ?_ _)
  rcases tells with rfl | rfl <;> exact decide_eq_false (by rw [named]; exact apart)

theorem handleCMove {routing : Routing} {r : RoomRef} (s' : SessionId) (pkt : CMove) (scene : Scene)
    (apart : ∀ other, lockPlayer routing scene [] s' = some other → other ≠ id)
    (own : ∀ other, (scene.players other).info.objectId = other) :
    scene.Leaves id s (handleCMove routing r s' pkt scene) := by
  unfold ZeldaServer.handleCMove
  cases locked : lockPlayer routing scene [] s' with
  | none => exact refl scene
  | some other =>
      have walks (p : Player) (pkt : ServerPacket) (tells : pkt = .move p.info ∨ pkt = .turn p.info)
          (named : p.info.objectId = (scene.players other).info.objectId) :
          scene.Leaves id s (ZeldaServer.broadcast routing r pkt (scene.setPlayer other p)) :=
        walked other (apart other locked) p pkt tells scene (named.trans (own other))
      dsimp only
      split
      · exact refl scene
      · split
        · exact refl scene
        · split
          · exact walks _ _ (.inr rfl) rfl
          · split
            · exact walks _ _ (.inl rfl) rfl
            · exact walks _ _ (.inl rfl) rfl

theorem handleCTurn {routing : Routing} {r : RoomRef} (s' : SessionId) (pkt : CTurn) (scene : Scene)
    (apart : ∀ other, lockPlayer routing scene [] s' = some other → other ≠ id)
    (own : ∀ other, (scene.players other).info.objectId = other) :
    scene.Leaves id s (handleCTurn routing r s' pkt scene) := by
  unfold ZeldaServer.handleCTurn
  cases locked : lockPlayer routing scene [] s' with
  | none => exact refl scene
  | some other =>
      have walks (p : Player) (pkt : ServerPacket) (tells : pkt = .move p.info ∨ pkt = .turn p.info)
          (named : p.info.objectId = (scene.players other).info.objectId) :
          scene.Leaves id s (ZeldaServer.broadcast routing r pkt (scene.setPlayer other p)) :=
        walked other (apart other locked) p pkt tells scene (named.trans (own other))
      dsimp only
      split
      · exact refl scene
      · split
        · exact refl scene
        · exact walks _ _ (.inr rfl) rfl

theorem itemJob (method : Player → Player × List Emission) (s' : SessionId) (w : World)
    (footing : ∀ p, (method p).1.info.footing = p.info.footing)
    (gains : ∀ p, ∀ emission ∈ (method p).2, emission.Voices ServerPacket.isOfGains) :
    w.scene.Leaves id s (itemJob method w s').scene := by
  unfold ZeldaServer.itemJob
  cases lockPlayer w.routing w.scene [] s' with
  | none => exact refl w.scene
  | some other =>
      apply actPlayer w.routing other method w.scene footing
      exact fun emission member => (gains _ emission member).mono (ServerPacket.concerns_gains id)

end Scene.Leaves

end Parties

namespace World.Bound

variable {id : ObjectId} {s : SessionId} {w : World}

theorem enterRoom_rest (w : World) (s' : SessionId) (other : ObjectId) :
    Scene.Leaves id s ((w.scene.setPlayer other (w.scene.players other).atEntrance).send s'
        (.myPlayer (w.scene.players other).atEntrance.info)) (w.enterRoom 0 s' other).scene := by
  unfold World.enterRoom
  dsimp only
  refine Scene.Leaves.trans ?_ (.enterRoomParty 0 other _)
  refine Scene.Leaves.trans ?_ (.broadcast _ 0 _ rfl _)
  refine Scene.Leaves.trans ?_ (.send s' _ _ fun _ => rfl)
  refine .emissions (w.routing.bind 0 s' other) other _ ?_ _
  exact List.forall_mem_singleton.mpr rfl

theorem enterRoom (w : World) (s' : SessionId) (apart : s' ≠ s) (other : ObjectId)
    (away : other ≠ id) : w.scene.Leaves id s (w.enterRoom 0 s' other).scene := by
  apply Scene.Leaves.trans _ (enterRoom_rest w s' other)
  exact (Scene.Leaves.setPlayer other _ w.scene fun same => absurd same away).trans
    (.send s' _ _ fun same => absurd same apart)

theorem leaveRoom (bound : w.Bound id s) (s' : SessionId) (apart : s' ≠ s) :
    w.scene.Leaves id s (w.leaveRoom [] 0 s').scene := by
  unfold World.leaveRoom
  cases locked : lockPlayer w.routing w.scene [] s' with
  | none => exact .refl w.scene
  | some other =>
      have owner := (lockPlayer_some w.routing w.scene [] s' other locked).1
      have away := bound.foreign apart owner
      unfold World.removeObject
      dsimp only
      split
      case isTrue here =>
        have small : other < Screen.idLimit :=
          Nat.lt_of_lt_of_le (bound.attended.roster.fresh other
            (bound.attended.roster.players other here)) bound.few
        exact .broadcast _ 0 _ (concerns_remove other small away) w.scene
      case isFalse => exact .refl w.scene

theorem job (bound : w.Bound id s) (job : Job) (foreign : job.walks = true → job.session ≠ s)
    (remains : job.remains = true) (awaited : w.awaits 0 job = true)
    (stays : id ∈ playerIds (runJob data w 0 job).routing 0)
    (few : (runJob data w 0 job).idGen ≤ Screen.idLimit) :
    w.scene.Drifts id s (runJob data w 0 job).scene := by
  have own := bound.attended.roster.own
  have others (s' : SessionId) (apart : s' ≠ s) (other : ObjectId)
      (locked : lockPlayer w.routing w.scene [] s' = some other) : other ≠ id :=
    bound.foreign apart (lockPlayer_some w.routing w.scene [] s' other locked).1
  cases job with
  | move s' pkt => exact .inl (.handleCMove s' pkt w.scene (others s' (foreign rfl)) own)
  | turn s' pkt => exact .inl (.handleCTurn s' pkt w.scene (others s' (foreign rfl)) own)
  | changeMap s' pkt => cases remains
  | equipItem s' slot =>
      left
      exact .itemJob _ s' w (fun p => Player.footing_of_gait (Player.equipItem_gait data slot p)
        (Player.equipItem_dir data slot p)) (Player.equipItem_gains data slot)
  | unequipItem s' equipType =>
      left
      exact .itemJob _ s' w
        (fun p => Player.footing_of_gait (Player.unequipItem_gait data equipType p)
          (Player.unequipItem_dir data equipType p)) (Player.unequipItem_gains data equipType)
  | useItem s' slot =>
      left
      exact .itemJob _ s' w (fun p => Player.footing_of_gait (Player.useItem_gait data slot p)
        (Player.useItem_dir data slot p)) (Player.useItem_gains data slot)
  | partyInvite s' targetId => exact .inl (.partyInvite 0 s' targetId w)
  | partyAnswer s' inviterId accept => exact .inl (.partyAnswer 0 s' inviterId accept w)
  | partyLeave s' => exact .inl (.partyLeave 0 s' w)
  | leaveRoom s' => exact .inl (bound.leaveRoom s' (foreign rfl))
  | enterRoom s' other =>
      left
      obtain ⟨login, member, same⟩ := List.any_eq_true.mp awaited
      obtain ⟨mine, named⟩ := of_decide_eq_true same
      apply enterRoom w s' (foreign rfl) other
      rintro rfl
      obtain ⟨first, listed, session, player⟩ := bound.attended.logged s other bound.session
      have shared := bound.attended.single login member first listed (named.trans player.symm)
      exact foreign rfl (mine.symm.trans (shared.trans session))
  | attack s' pkt =>
      have apart : s' ≠ s := foreign rfl
      have standing (other : ObjectId) (owner : (w.routing.sessions s').player = some other) :
          other ∈ playerIds w.routing 0 := by
        have any : (w.routing.sessions s').player.any (· ∈ playerIds w.routing 0) = true := awaited
        rw [owner] at any
        exact of_decide_eq_true any
      cases locked : lockPlayer w.routing w.scene [] s' with
      | none =>
          have same : runJob data w 0 (.attack s' pkt) = w := by
            rw [runJob, handleCAttack, locked]
          rw [same]
          exact .refl w.scene
      | some attacker =>
          have away := others s' apart attacker locked
          have announced : w.scene.Leaves id s (announce w attacker pkt) := by
            apply Scene.Leaves.broadcast w.routing 0
            exact decide_eq_false (by rw [own attacker]; exact away)
          exact Scene.Drifts.trans (.inl announced)
            (bound.attack data s' pkt standing attacker locked stays few)

theorem remaining_follows (w : World) (job : Job) (remains : job.remains = true)
    (stays : job.entering = none) : w.routing.Follows (runJob data w 0 job).routing := by
  cases job with
  | changeMap s' pkt => cases remains
  | enterRoom s' other => cases stays
  | move s' pkt => exact .refl _
  | turn s' pkt => exact .refl _
  | attack s' pkt => exact (handleCAttack_calm data w 0 s' pkt).toFollows
  | leaveRoom s' => exact (leaveRoom_calm w [] 0 s').toFollows
  | partyInvite s' targetId =>
      rw [runJob, partyInvite_routing]
      exact .refl _
  | partyAnswer s' inviterId accept =>
      obtain ⟨parties, result, listed⟩ := partyAnswer_routing w 0 s' inviterId accept
      rw [runJob, result]
      exact (Routing.Calm.onParties _ _ listed).toFollows
  | partyLeave s' =>
      obtain ⟨parties, result, left⟩ := partyLeave_routing w 0 s'
      rw [runJob, result]
      exact (Routing.Calm.onParties _ _ left.listed).toFollows
  | equipItem s' slot | unequipItem s' slot | useItem s' slot =>
      rw [runJob, itemJob_routing]
      exact .refl _

end World.Bound

def RoomEvent.rebinds (s : SessionId) : RoomEvent → Bool
  | .login s' _ | .job _ (.enterRoom s' _) => s' = s
  | _ => false

namespace World.Bound

variable {id : ObjectId} {s : SessionId} {w : World}

theorem supplied (bound : w.Bound id s) (rand : List Nat) (job : Job) :
    (w.taking rand job).Bound id s where
  toPopulated := bound.toPopulated.supplied job rand
  here := by
    have players : playerIds (w.routing.takeJob 0 job) 0 = playerIds w.routing 0 := by
      unfold playerIds Routing.takeJob
      rw [Routing.rooms_setRoom, if_pos rfl]
    exact players.symm ▸ bound.here
  session := bound.session
  owner := bound.owner
  only := bound.only
  few := bound.few

theorem follow {next : World} (bound : w.Bound id s) (peopled : next.Populated)
    (follows : w.routing.Follows next.routing) (here : id ∈ playerIds next.routing 0)
    (few : next.idGen ≤ Screen.idLimit) : next.Bound id s where
  toPopulated := peopled
  here := here
  session := by
    rw [follows.playerSession]
    exact bound.session
  owner := by
    rw [follows.player]
    exact bound.owner
  only := by
    rw [follows.logins]
    exact bound.only
  few := few

theorem roomStep {next : World} {e : RoomEvent} (bound : w.Bound id s)
    (stepped : World.roomStep data Job.remains w e = some next) (keeps : e.rebinds s = false)
    (here : id ∈ playerIds next.routing 0) (few : next.idGen ≤ Screen.idLimit) :
    next.Bound id s := by
  have peopled := bound.toPopulated.roomStep data stepped
  cases roomStep_stepped data stepped with
  | step rand => exact bound.follow peopled (.refl _) here few
  | clock now => exact bound.follow peopled (.refl _) here few
  | login s' username =>
      have apart : s' ≠ s := of_decide_eq_false keeps
      rcases handleCLogin_cases data w s' username with ⟨store, looked, -⟩ | ⟨-, -, logged, -⟩
      · exact
          { toPopulated := peopled
            here
            session := by
              rw [looked]
              exact bound.session
            owner := by
              rw [looked]
              exact bound.owner
            only := by
              rw [looked]
              exact bound.only
            few }
      · exact
          { toPopulated := peopled
            here
            session := by
              rw [logged, Routing.loggedIn_playerSession]
              exact bound.session
            owner := by
              rw [logged, loggedIn_owner]
              exact bound.owner
            only := by
              rw [logged, Routing.loggedIn_logins]
              intro login member mine
              rcases List.mem_cons.mp member with rfl | old
              · exact absurd mine apart
              · exact bound.only login old mine
            few }
  | job rand job remains awaited =>
      have before := bound.supplied rand job
      by_cases stays : job.entering = none
      · exact before.follow peopled (remaining_follows data _ job remains stays) here few
      · cases job with
        | enterRoom s' other =>
            have apart : s' ≠ s := of_decide_eq_false keeps
            obtain ⟨login, member, same⟩ := List.any_eq_true.mp awaited
            obtain ⟨mine, named⟩ := of_decide_eq_true same
            have away : id ≠ other := by
              rintro rfl
              obtain ⟨first, listed, session, player⟩ := before.attended.logged s id before.session
              have shared := before.attended.single login member first listed (named.trans player.symm)
              exact apart (mine.symm.trans (shared.trans session))
            exact
              { toPopulated := peopled
                here
                session := by
                  rw [runJob, entered_session, if_neg away]
                  exact before.session
                owner := by
                  rw [runJob, entered_owner, if_neg (Ne.symm apart)]
                  exact before.owner
                only := by
                  rw [runJob, entered_logins]
                  exact before.only
                few }
        | _ => exact absurd rfl stays

end World.Bound

def RoomEvent.isForeign (s : SessionId) : RoomEvent → Bool
  | .login s' _ => s' ≠ s
  | .job _ runs => !(runs.walks && decide (runs.session = s))
  | _ => true

theorem RoomEvent.isForeign_keeps {s : SessionId} {e : RoomEvent} (foreign : e.isForeign s = true) :
    e.rebinds s = false := by
  cases e with
  | login s' username =>
      have apart : s' ≠ s := of_decide_eq_true foreign
      exact decide_eq_false apart
  | job rand job =>
      cases job with
      | enterRoom s' other =>
          have apart : (!(true && decide (s' = s))) = true := foreign
          rwa [Bool.true_and, Bool.not_eq_true'] at apart
      | _ => rfl
  | step rand => rfl
  | clock now => rfl

namespace World.Bound

variable {id : ObjectId} {s : SessionId} {w : World}

theorem login (bound : w.Bound id s) (s' : SessionId) (username : Bytes) :
    w.scene.Leaves id s (handleCLogin data w s' username).scene := by
  have away : w.idGen ≠ id := by
    have below := bound.attended.roster.fresh id (bound.attended.roster.players id bound.here)
    exact Nat.ne_of_gt below
  unfold handleCLogin
  split
  · exact .refl w.scene
  · dsimp only
    split
    · exact .refl w.scene
    · generalize (loginPlayer data _ _ w.idGen username).1 = player
      have greeted : w.scene.Leaves id s ((w.scene.setPlayer w.idGen player).send s'
          (.enterGame true (w.routing.store.findOrCreateAccount username).1)) :=
        (Scene.Leaves.setPlayer w.idGen player w.scene fun same => absurd same away).trans
          (.send s' _ _ fun _ => rfl)
      split
      · exact (greeted.trans (.redisCommand _ _)).trans (.redisCommand _ _)
      · exact greeted

theorem roomStep_drifts {next : World} {e : RoomEvent} (bound : w.Bound id s)
    (stepped : World.roomStep data Job.remains w e = some next) (foreign : e.isForeign s = true)
    (here : id ∈ playerIds next.routing 0) (few : next.idGen ≤ Screen.idLimit) :
    w.scene.Drifts id s next.scene := by
  cases roomStep_stepped data stepped with
  | login s' username => exact .inl (bound.login data s' username)
  | clock now => exact .inl (.of_same rfl rfl)
  | step rand =>
      have drawn : World.Bound id s { w with scene := { w.scene with rand } } :=
        { bound.supplied rand (.leaveRoom s) with
          toPopulated :=
            ⟨bound.attended.of_same (bound.attended.roster.of_same _ rfl rfl) rfl rfl rfl
              (fun _ => rfl) rfl, bound.once, bound.made, bound.looking⟩
          here := bound.here }
      have supplied : w.scene.Leaves id s { w.scene with rand } := .of_same rfl rfl
      exact Scene.Drifts.trans (.inl supplied) (drawn.gameStep data few)
  | job rand job remains awaited =>
      have supplied : w.scene.Leaves id s (w.taking rand job).scene := .of_same rfl rfl
      apply Scene.Drifts.trans (.inl supplied)
      apply (bound.supplied rand job).job data job _ remains awaited here few
      intro walks mine
      simp [RoomEvent.isForeign, walks, mine] at foreign

end World.Bound

/-- The room serves a request of the player, and its session hears the answer. -/
def Scene.Answers (id : ObjectId) (s : SessionId) (q : Request) (a b : Scene) : Prop :=
  ∃ news, b.sent = a.sent ++ news ∧
    Dialogue.Serves id (a.players id).info.footing q (b.players id).info.footing (heardBy s news)

namespace Scene.Answers

variable {id : ObjectId} {s : SessionId} {q : Request}

theorem unheeded (scene : Scene) (vain : Dialogue.Vain (scene.players id).info.footing q) :
    scene.Answers id s q scene := ⟨[], (List.append_nil _).symm, .unheeded q vain⟩

theorem told {routing : Routing} {r : RoomRef} (hears : routing.Hears r id s) (p : Player)
    (pkt : ServerPacket) (scene : Scene)
    (serves : Dialogue.Serves id (scene.players id).info.footing q p.info.footing [pkt]) :
    scene.Answers id s q (broadcast routing r pkt (scene.setPlayer id p)) := by
  refine ⟨_, broadcast_sent routing r pkt (scene.setPlayer id p), ?_⟩
  rw [hears.broadcast, (Scene.Quiet.broadcast routing r pkt _).players, Scene.setPlayer_players,
    if_pos rfl]
  exact serves

theorem handleCMove {routing : Routing} {r : RoomRef} (hears : routing.Hears r id s) (pkt : CMove)
    (scene : Scene) (locked : lockPlayer routing scene [] s = some id)
    (own : (scene.players id).info.objectId = id) :
    scene.Answers id s (.move pkt.dir) (handleCMove routing r s pkt scene) := by
  unfold ZeldaServer.handleCMove
  rw [locked]
  dsimp only
  split
  case isTrue moving => exact unheeded scene (.inl moving)
  case isFalse =>
    split
    case isTrue invalid => exact unheeded scene (.inr (by simpa using invalid))
    case isFalse valid =>
      have valid : pkt.dir.isValid = true := by simpa using valid
      split
      case isTrue other =>
        apply told hears
        exact .turned _ pkt.dir (.inr rfl) valid other _ own rfl
      case isFalse ahead =>
        have ahead : (scene.players id).info.footing.dir = pkt.dir := not_not.mp ahead
        rw [← ahead]
        split
        · apply told hears
          exact .moved _ own rfl (by simp)
        · apply told hears
          exact .moved _ own rfl (by simp [ObjectInfo.setCellPos])

theorem handleCTurn {routing : Routing} {r : RoomRef} (hears : routing.Hears r id s) (pkt : CTurn)
    (scene : Scene) (locked : lockPlayer routing scene [] s = some id)
    (own : (scene.players id).info.objectId = id) :
    scene.Answers id s (.turn pkt.dir) (handleCTurn routing r s pkt scene) := by
  unfold ZeldaServer.handleCTurn
  rw [locked]
  dsimp only
  split
  case isTrue invalid => exact unheeded scene (.inl (by simpa using invalid))
  case isFalse valid =>
    split
    case isTrue same => exact unheeded scene (.inr same)
    case isFalse other =>
      apply told hears
      exact .turned _ pkt.dir (.inl rfl) (by simpa using valid) other _ own rfl

end Scene.Answers

theorem World.Bound.request {id : ObjectId} {s : SessionId} {w : World} (bound : w.Bound id s)
    (q : Request) (stays : id ∈ playerIds (runJob data w 0 (q.job s)).routing 0)
    (few : (runJob data w 0 (q.job s)).idGen ≤ Screen.idLimit) :
    ∃ middle, w.scene.Answers id s q middle ∧
      middle.Drifts id s (runJob data w 0 (q.job s)).scene := by
  have locked := bound.locks s id bound.owner bound.here w.scene
  have own := bound.attended.roster.own id
  cases q with
  | move dir => exact ⟨_, .handleCMove bound.hears ⟨dir⟩ w.scene locked own, .refl _⟩
  | turn dir => exact ⟨_, .handleCTurn bound.hears ⟨dir⟩ w.scene locked own, .refl _⟩
  | attack dir weaponType =>
      have standing (other : ObjectId) (owner : (w.routing.sessions s).player = some other) :
          other ∈ playerIds w.routing 0 := by
        rw [bound.owner] at owner
        rw [← Option.some.inj owner]
        exact bound.here
      refine ⟨announce w id ⟨dir, weaponType⟩, ⟨_, broadcast_sent w.routing 0 _ w.scene, ?_⟩,
        bound.attack data s ⟨dir, weaponType⟩ standing id locked stays few⟩
      have same := (Scene.Quiet.broadcast w.routing 0
        (.attack (w.scene.players id).info.objectId dir weaponType) w.scene).players
      unfold announce
      dsimp only
      rw [same, bound.hears.broadcast, own]
      exact .struck dir weaponType

end ZeldaServer
