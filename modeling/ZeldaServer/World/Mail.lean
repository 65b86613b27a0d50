import ZeldaServer.World.Directions
import ZeldaServer.World.Invitations
import ZeldaServer.World.Utterances

/-! What the server sends, step by step: only the job of an invitation invites, and a player that
a packet shows looks in one of the four directions. -/

namespace ZeldaServer

open Chains (Chain)

variable (data : GameData)

namespace ServerPacket

def isInvite : ServerPacket → Bool
  | .partyInvite _ _ => true
  | _ => false

/-- The object whose direction a client takes from the packet, with that direction. -/
def facing : ServerPacket → Option (ObjectId × Dir)
  | .myPlayer info | .move info | .turn info => some (info.objectId, info.dir)
  | .attack attackerId dir _ => some (attackerId, dir)
  | _ => none

/-- `taken` are the ids of the players among the ids below `g`. -/
structure Upright (taken : ObjectId → Prop) (g : ObjectId) (pkt : ServerPacket) : Prop where
  faces : ∀ id dir, pkt.facing = some (id, dir) → dir.isValid = true ∨ id < g ∧ ¬ taken id
  owned : ∀ info, pkt = .myPlayer info → taken info.objectId

def isAside (pkt : ServerPacket) : Bool := !pkt.isInvite && pkt.facing.isNone

structure Ordinary (taken : ObjectId → Prop) (g : ObjectId) (pkt : ServerPacket) : Prop
    extends pkt.Upright taken g where
  uninviting : pkt.isInvite = false

variable {taken taken' : ObjectId → Prop} {g g' : ObjectId} {pkt : ServerPacket}

theorem Upright.of_unseen (unseen : pkt.facing = none) : pkt.Upright taken g where
  faces := fun id dir shown => by
    rw [unseen] at shown
    cases shown
  owned := fun info same => by
    rw [same] at unseen
    cases unseen

theorem Ordinary.of_aside (aside : pkt.isAside = true) : pkt.Ordinary taken g := by
  obtain ⟨uninviting, unseen⟩ := Bool.and_eq_true_iff.mp aside
  exact ⟨.of_unseen (Option.isNone_iff_eq_none.mp unseen), by simpa using uninviting⟩

theorem Upright.raise (upright : pkt.Upright taken g) (later : g ≤ g')
    (more : ∀ id, taken id → taken' id) (new : ∀ id, taken' id → taken id ∨ g ≤ id) :
    pkt.Upright taken' g' where
  faces := by
    intro id dir shown
    rcases upright.faces id dir shown with valid | ⟨below, free⟩
    · exact .inl valid
    · refine .inr ⟨Nat.lt_of_lt_of_le below later, fun is_taken => ?_⟩
      rcases new id is_taken with before | above
      · exact free before
      · exact Nat.not_le_of_lt below above
  owned := fun info same => more _ (upright.owned info same)

theorem Ordinary.later (ordinary : pkt.Ordinary taken g) (later : g ≤ g') :
    pkt.Ordinary taken g' :=
  ⟨ordinary.toUpright.raise later (fun _ => id) (fun _ => .inl), ordinary.uninviting⟩

theorem Ordinary.of_valid (valid : ∀ id dir, pkt.facing = some (id, dir) → dir.isValid = true)
    (other : ∀ info, pkt ≠ .myPlayer info) (uninviting : pkt.isInvite = false) :
    pkt.Ordinary taken g where
  faces := fun id dir shown => .inl (valid id dir shown)
  owned := fun info same => absurd same (other info)
  uninviting := uninviting

theorem Ordinary.of_move (info : ObjectInfo)
    (faces : info.dir.isValid = true ∨ info.objectId < g ∧ ¬ taken info.objectId) :
    (ServerPacket.move info).Ordinary taken g where
  faces := fun id dir shown => by
    cases shown
    exact faces
  owned := fun _ other => by cases other
  uninviting := rfl

theorem isAside_gains (gains : pkt.isOfGains = true) : pkt.isAside = true := by
  cases pkt <;> first | rfl | cases gains

end ServerPacket

/-- From `a` to `b` only packets of a kind are sent. -/
def Scene.Sends (kind : ServerPacket → Prop) (a b : Scene) : Prop :=
  ∃ news : List (SessionId × ServerPacket), b.sent = a.sent ++ news ∧ ∀ sent ∈ news, kind sent.2

namespace Scene.Sends

variable {kind kind' : ServerPacket → Prop} {a b c : Scene}

theorem of_sent (sent : b.sent = a.sent) : a.Sends kind b :=
  ⟨[], by rw [sent, List.append_nil], List.forall_mem_nil _⟩

theorem refl (scene : Scene) : scene.Sends kind scene := of_sent rfl

theorem trans (first : a.Sends kind b) (second : b.Sends kind c) : a.Sends kind c := by
  obtain ⟨news, sent, all⟩ := first
  obtain ⟨news', sent', all'⟩ := second
  refine ⟨news ++ news', by rw [sent', sent, List.append_assoc], ?_⟩
  exact List.forall_mem_append.mpr ⟨all, all'⟩

theorem mono (sends : a.Sends kind b) (wider : ∀ pkt, kind pkt → kind' pkt) : a.Sends kind' b := by
  obtain ⟨news, sent, all⟩ := sends
  exact ⟨news, sent, fun sent listed => wider _ (all sent listed)⟩

theorem both (first : a.Sends kind b) (second : a.Sends kind' b) :
    a.Sends (fun pkt => kind pkt ∧ kind' pkt) b := by
  obtain ⟨news, sent, all⟩ := first
  obtain ⟨news', sent', all'⟩ := second
  have same : news = news' := List.append_cancel_left (sent.symm.trans sent')
  exact ⟨news, sent, fun sent listed => ⟨all sent listed, all' sent (same ▸ listed)⟩⟩

theorem send (scene : Scene) (s : SessionId) (pkt : ServerPacket) (fits : kind pkt) :
    scene.Sends kind (scene.send s pkt) := ⟨[(s, pkt)], rfl, List.forall_mem_singleton.mpr fits⟩

theorem sendToPlayer (routing : Routing) (id : ObjectId) (pkt : ServerPacket) (fits : kind pkt)
    (scene : Scene) : scene.Sends kind (sendToPlayer routing id pkt scene) := by
  unfold ZeldaServer.sendToPlayer
  cases routing.playerSession id with
  | none => exact refl scene
  | some s => exact send scene s pkt fits

theorem broadcast (routing : Routing) (r : RoomRef) (pkt : ServerPacket) (fits : kind pkt)
    (scene : Scene) : scene.Sends kind (broadcast routing r pkt scene) := by
  refine ⟨_, broadcast_sent routing r pkt scene, ?_⟩
  intro sent listed
  obtain ⟨id, -, made⟩ := List.mem_filterMap.mp listed
  obtain ⟨s, -, rfl⟩ := Option.map_eq_some_iff.mp made
  exact fits

theorem redisCommand (scene : Scene) (command : RedisCommand) :
    scene.Sends kind (scene.redisCommand command) := by
  unfold Scene.redisCommand
  split <;> exact of_sent rfl

theorem emissions (routing : Routing) (id : ObjectId) (emissions : List Emission)
    (fit : ∀ emission ∈ emissions, ∀ pkt, emission = .session pkt ∨ emission = .room pkt → kind pkt)
    (scene : Scene) : scene.Sends kind (emissions.foldl (emit routing id) scene) := by
  induction emissions generalizing scene with
  | nil => exact refl scene
  | cons emission emissions ih =>
      obtain ⟨now, later⟩ := List.forall_mem_cons.mp fit
      apply trans _ (ih later _)
      unfold emit
      cases emission with
      | session pkt => exact sendToPlayer routing id pkt (now pkt (.inl rfl)) scene
      | rank name level => exact redisCommand scene _
      | room pkt =>
          dsimp only
          cases routing.playerRoom id with
          | none => exact refl scene
          | some r => exact broadcast routing r pkt (now pkt (.inr rfl)) scene

theorem actPlayer (routing : Routing) (id : ObjectId) (method : Player → Player × List Emission)
    (scene : Scene)
    (fit : ∀ emission ∈ (method (scene.players id)).2, ∀ pkt,
      emission = .session pkt ∨ emission = .room pkt → kind pkt) :
    scene.Sends kind (actPlayer routing id method scene) :=
  trans (of_sent rfl) (emissions routing id _ fit _)

end Scene.Sends

theorem voices_aside {taken : ObjectId → Prop} {g : ObjectId} (emissions : List Emission)
    (gains : ∀ emission ∈ emissions, emission.Voices ServerPacket.isOfGains) :
    ∀ emission ∈ emissions, ∀ pkt, emission = .session pkt ∨ emission = .room pkt →
      pkt.Ordinary taken g := by
  rintro emission listed pkt (rfl | rfl)
  · exact .of_aside (ServerPacket.isAside_gains (gains _ listed))
  · exact .of_aside (ServerPacket.isAside_gains (gains _ listed))

/-- The players look in one of the four directions, and the other objects of the room have ids
of their own. -/
structure Scene.Watched (r : RoomRef) (taken : ObjectId → Prop) (a : Scene × ObjectId) : Prop where
  faces : ∀ id, (a.1.players id).info.dir.isValid = true
  others : ∀ id ∈ (a.1.fields r).ids, id < a.2 ∧ ¬ taken id
  fresh : ∀ id, taken id → id < a.2

section Room

variable {data} {routing : Routing} {r : RoomRef} {taken : ObjectId → Prop} {a : Scene × ObjectId}

namespace Scene.Watched

theorem fewer (watched : Watched r taken a) (b : Scene) (ground : a.1.SameGround b) :
    Watched r taken (b, a.2) where
  faces := fun id => ground.looks id (watched.faces id)
  others := fun id listed => by
    apply watched.others id
    unfold Field.ids at listed ⊢
    rwa [ground.monsters, ground.projectiles] at listed
  fresh := watched.fresh

theorem changed (watched : Watched r taken a) (b : Scene) {g : ObjectId}
    (players : b.players = a.1.players)
    (ids : ∀ id ∈ (b.fields r).ids, id ∈ (a.1.fields r).ids ∨ id = a.2 ∧ a.2 < g) (up : a.2 ≤ g) :
    Watched r taken (b, g) where
  faces := by rw [players]; exact watched.faces
  others := by
    intro id listed
    rcases ids id listed with old | ⟨rfl, new⟩
    · exact ⟨Nat.lt_of_lt_of_le (watched.others id old).1 up, (watched.others id old).2⟩
    · exact ⟨new, fun is_taken => Nat.lt_irrefl _ (watched.fresh _ is_taken)⟩
  fresh := fun id is_taken => Nat.lt_of_lt_of_le (watched.fresh id is_taken) up

theorem told (watched : Watched r taken a) (b : Scene) (quiet : a.1.Quiet b) :
    Watched r taken (b, a.2) := watched.fewer b (.quiet quiet)

end Scene.Watched

def Scene.Heeded (r : RoomRef) (taken : ObjectId → Prop) (a b : Scene × ObjectId) : Prop :=
  Scene.Watched r taken a → Scene.Watched r taken b ∧ a.2 ≤ b.2 ∧
    a.1.Sends (fun pkt => pkt.isStrike = true ∨ pkt.Ordinary taken b.2) b.1

namespace Scene.Heeded

theorem trans {b c : Scene × ObjectId} (first : Heeded r taken a b) (second : Heeded r taken b c) :
    Heeded r taken a c := by
  intro watched
  obtain ⟨watched', up, sends⟩ := first watched
  obtain ⟨watched'', up', sends'⟩ := second watched'
  refine ⟨watched'', Nat.le_trans up up', (sends.mono ?_).trans sends'⟩
  exact fun pkt fits => fits.imp_right fun ordinary => ordinary.later up'

theorem told (b : Scene) {g : ObjectId} (pkt : ServerPacket) (sent : b.sent = a.1.sent)
    (change : Watched r taken a → Watched r taken (b, g) ∧ a.2 ≤ g)
    (fits : Watched r taken a → pkt.Ordinary taken g) :
    Heeded r taken a (broadcast routing r pkt b, g) := by
  intro watched
  obtain ⟨watched', up⟩ := change watched
  refine ⟨watched'.told _ (.broadcast routing r pkt b), up, .trans (.of_sent sent) ?_⟩
  exact .broadcast routing r pkt (.inr (fits watched)) b

theorem acted (id : ObjectId) (method : Player → Player × List Emission)
    (dir : ∀ p, (method p).1.info.dir = p.info.dir)
    (fit : Watched r taken a → ∀ emission ∈ (method (a.1.players id)).2, ∀ pkt,
      emission = .session pkt ∨ emission = .room pkt → pkt.Ordinary taken a.2) :
    Heeded r taken a (actPlayer routing id method a.1, a.2) := by
  intro watched
  refine ⟨watched.fewer _ (.actPlayer routing id method dir a.1), Nat.le_refl _, ?_⟩
  apply Scene.Sends.actPlayer
  exact fun emission listed pkt is => .inr (fit watched emission listed pkt is)

end Scene.Heeded

theorem setMonster_field_ids (r : RoomRef) (m : Monster) (scene : Scene) :
    ((scene.setMonster r m).fields r).ids = (scene.fields r).ids := by
  unfold Field.ids
  rw [setMonster_ids]
  unfold Scene.setMonster Scene.setField
  dsimp only
  rw [Function.update_self]

theorem setProjectile_field_ids (r : RoomRef) (arrow : Arrow) (scene : Scene) :
    ((scene.setProjectile r arrow).fields r).ids = (scene.fields r).ids := by
  unfold Field.ids
  rw [Scene.setProjectile_ids]
  unfold Scene.setProjectile Scene.setField
  dsimp only
  rw [Function.update_self]

theorem beat_heeded {b : Scene × ObjectId} {labels : List (ObjectId × Int)}
    (beat : Scene.Beat data routing r a labels b) : Scene.Heeded r taken a b := by
  have lists {m : Monster} (member : m ∈ (a.1.fields r).monsters) :
      m.info.objectId ∈ (a.1.fields r).ids := List.mem_append_left _ (List.mem_map_of_mem member)
  have shoots {arrow : Arrow} (member : arrow ∈ (a.1.fields r).projectiles) :
      arrow.info.objectId ∈ (a.1.fields r).ids := List.mem_append_right _ (List.mem_map_of_mem member)
  have monster (m : Monster) (watched : Scene.Watched r taken a) :
      Scene.Watched r taken (a.1.setMonster r m, a.2) :=
    watched.changed _ rfl (fun id listed => .inl (setMonster_field_ids r m a.1 ▸ listed)) (Nat.le_refl _)
  have projectile (arrow : Arrow) (watched : Scene.Watched r taken a) :
      Scene.Watched r taken (a.1.setProjectile r arrow, a.2) :=
    watched.changed _ rfl (fun id listed => .inl (setProjectile_field_ids r arrow a.1 ▸ listed))
      (Nat.le_refl _)
  have silent (b : Scene) (sent : b.sent = a.1.sent)
      (change : Scene.Watched r taken a → Scene.Watched r taken (b, a.2)) :
      Scene.Heeded r taken a (b, a.2) :=
    fun watched => ⟨change watched, Nat.le_refl _, .of_sent sent⟩
  have kept {b : Scene} (change : Scene.Watched r taken a → Scene.Watched r taken (b, a.2)) :
      Scene.Watched r taken a → Scene.Watched r taken (b, a.2) ∧ a.2 ≤ a.2 :=
    fun watched => ⟨change watched, Nat.le_refl _⟩
  cases beat with
  | failed fault other => exact silent _ rfl fun watched => watched.told _ (.fail a.1 fault)
  | drew rand => exact silent _ rfl fun watched => watched.told _ (.of_same rfl rfl rfl rfl)
  | struck attacker pkt =>
      intro watched
      refine ⟨watched.told _ (.broadcast routing r _ a.1), Nat.le_refl _, ?_⟩
      exact .broadcast routing r _ (.inl rfl) a.1
  | gained id share worth =>
      exact .acted id _ (Player.gainExp_dir data share) fun _ =>
        voices_aside _ (Player.gainExp_gains data share _)
  | looted id itemId =>
      exact .acted id _ (Player.addItem_dir data itemId 1) fun _ =>
        voices_aside _ (Player.addItem_gains data itemId 1 _)
  | ticked id member =>
      apply Scene.Heeded.acted id _ (Player.update_dir a.1.now)
      intro watched emission listed pkt is
      rw [(Player.update_told a.1.now _).2.2 emission listed] at is
      rcases is with other | same
      · cases other
      · cases same
        apply ServerPacket.Ordinary.of_move
        rw [Player.update_dir]
        exact .inl (watched.faces id)
  | hurt attacker id damage aimed =>
      exact .told _ _ rfl (kept fun watched => watched.fewer _ (.hurtPlayer id damage a.1))
        fun _ => .of_aside rfl
  | kept m m' member follows looks => exact silent (a.1.setMonster r m') rfl (monster m')
  | moved m m' member follows health =>
      apply Scene.Heeded.told (a.1.setMonster r m') _ rfl (kept (monster m'))
      intro watched
      apply ServerPacket.Ordinary.of_move
      rw [follows.named]
      exact .inr (watched.others _ (lists member))
  | hit attacker damage m member =>
      exact .told _ _ rfl (kept (monster (m.damaged damage))) fun _ => .of_aside rfl
  | removed m member =>
      apply Scene.Heeded.told (a.1.dropMonster r m) _ rfl _ fun _ => .of_aside rfl
      apply kept
      intro watched
      obtain ⟨monsters, projectiles, -, -⟩ := dropMonster_field a.1 r m
      apply watched.changed (a.1.dropMonster r m) rfl _ (Nat.le_refl _)
      intro id listed
      unfold Field.ids at listed ⊢
      rw [monsters, projectiles] at listed
      exact .inl ((List.filter_sublist.map _).append_right _ |>.subset listed)
  | arrowKept arrow arrow' member info => exact silent (a.1.setProjectile r arrow') rfl (projectile arrow')
  | arrowMoved arrow arrow' info member named looks health =>
      apply Scene.Heeded.told (a.1.setProjectile r arrow') _ rfl (kept (projectile arrow'))
      intro watched
      apply ServerPacket.Ordinary.of_move
      rw [named.2]
      exact .inr (watched.others _ (shoots member))
  | echoed arrow member =>
      apply Scene.Heeded.told _ _ rfl (kept id)
      intro watched
      exact .of_move _ (.inr (watched.others _ (shoots member)))
  | arrowRemoved arrow member =>
      apply Scene.Heeded.told (a.1.dropArrow r arrow.info.objectId) _ rfl _ fun _ => .of_aside rfl
      apply kept
      intro watched
      apply watched.changed (a.1.dropArrow r arrow.info.objectId) rfl _ (Nat.le_refl _)
      intro id listed
      rw [Scene.dropArrow_field] at listed
      exact .inl ((List.filter_sublist.map _).append_left _ |>.subset listed)
  | queued respawnQueue =>
      exact silent (a.1.setField r { a.1.fields r with respawnQueue }) rfl fun watched =>
        watched.fewer _ (.setField a.1 r _ rfl rfl rfl)
  | born m named fresh =>
      apply Scene.Heeded.told (a.1.newMonster r m) _ rfl _ fun _ => .of_aside rfl
      intro watched
      refine ⟨watched.changed _ rfl ?_ (Nat.le_succ _), Nat.le_succ _⟩
      intro id listed
      rw [Scene.newMonster_field] at listed
      simp only [Field.ids, List.map_append, List.map_cons, List.map_nil, List.mem_append,
        List.mem_singleton, named] at listed ⊢
      rcases listed with (old | new) | old
      · exact .inl (.inl old)
      · exact .inr ⟨new, Nat.lt_succ_self _⟩
      · exact .inl (.inr old)
  | fired arrow named =>
      apply Scene.Heeded.told (a.1.newArrow r arrow) _ rfl _ fun _ => .of_aside rfl
      intro watched
      refine ⟨watched.changed _ rfl ?_ (Nat.le_succ _), Nat.le_succ _⟩
      intro id listed
      rw [Scene.newArrow_field] at listed
      simp only [Field.ids, List.map_append, List.map_cons, List.map_nil, List.mem_append,
        List.mem_singleton, named] at listed ⊢
      rcases listed with old | old | new
      · exact .inl (.inl old)
      · exact .inl (.inr old)
      · exact .inr ⟨new, Nat.lt_succ_self _⟩

theorem beats_heeded {b : Scene × ObjectId} {labels : List (ObjectId × Int)}
    (beats : Scene.Beats data routing r a labels b) : Scene.Heeded r taken a b := by
  apply beats.relates fun a _ b => Scene.Heeded r taken a b
  · exact fun a watched => ⟨watched, Nat.le_refl _, .refl a.1⟩
  · exact fun _ _ _ _ _ beat rest => (beat_heeded beat).trans rest

theorem Scene.Sends.ordinary {g : ObjectId} {a b : Scene}
    (sends : a.Sends (fun pkt => pkt.isStrike = true ∨ pkt.Ordinary taken g) b)
    (unstruck : a.Unstruck b) : a.Sends (·.Ordinary taken g) b := by
  have calm : a.Sends (fun pkt => pkt.isStrike = false) b := unstruck
  apply (sends.both calm).mono
  rintro pkt ⟨strikes | ordinary, calm⟩
  · rw [strikes] at calm
    cases calm
  · exact ordinary

variable (data routing) in
theorem gameStep_sends (scene : Scene) (g : ObjectId) (watched : Scene.Watched r taken (scene, g)) :
    scene.Sends (·.Ordinary taken (gameStep data routing r scene g).2)
      (gameStep data routing r scene g).1 := by
  obtain ⟨-, -, sends⟩ := beats_heeded (Scene.Beats.gameStep data routing r scene g) watched
  exact sends.ordinary ((Scene.Unstruck.speaking routing r).gameStep data scene g)

end Room

namespace Scene.Sends

abbrev Asides : Scene → Scene → Prop := Scene.Sends fun pkt => pkt.isAside = true

theorem spawning (routing : Routing) (r : RoomRef) : Scene.Spawning routing r Asides where
  refl := refl
  trans := trans
  draw := by
    intro scene
    unfold Scene.draw
    cases scene.rand <;> exact of_sent rfl
  fail := fun _ _ _ => of_sent rfl
  field := fun _ _ => of_sent rfl
  told := fun scene pkt => broadcast routing r (.addObject pkt) (by rfl) scene

end Scene.Sends

open Scene.Sends (Asides)

theorem sendToMembers_asides (r : RoomRef) (memberIds : List ObjectId) (pkt : ServerPacket)
    (aside : pkt.isAside = true) (w : World) :
    Asides w.scene (sendToMembers r memberIds pkt w).scene := by
  unfold sendToMembers World.onScene
  dsimp only
  generalize w.scene = scene
  induction memberIds generalizing scene with
  | nil => exact .refl scene
  | cons id ids ih =>
      rw [List.foldl_cons]
      apply Scene.Sends.trans _ (ih _)
      split
      · exact .sendToPlayer w.routing id pkt aside scene
      · exact .refl scene

theorem sendPartyUpdate_asides (w : World) (r : RoomRef) (partyId : PartyId) :
    Asides w.scene (sendPartyUpdateFromRoom w r partyId).scene := by
  unfold sendPartyUpdateFromRoom
  cases w.routing.parties.parties partyId with
  | none => exact .refl _
  | some party => exact sendToMembers_asides r _ _ rfl w

theorem partyAnswer_asides (w : World) (r : RoomRef) (s : SessionId) (inviterId : ObjectId)
    (accept : Bool) : Asides w.scene (partyAnswer w r s inviterId accept).scene := by
  have same := inviterParty_scene w r inviterId
  unfold partyAnswer
  cases lockPlayer w.routing w.scene [] s with
  | none => exact .refl _
  | some acceptor =>
      dsimp only
      generalize inviterParty w r inviterId = found at same
      split
      · exact .refl _
      · split
        · exact .refl _
        · split
          · exact .of_sent (congrArg Scene.sent same)
          · split
            · exact .of_sent (congrArg Scene.sent same)
            · apply Scene.Sends.trans (.of_sent (congrArg Scene.sent same))
              exact sendPartyUpdate_asides { found.2 with routing := _ } r found.1

theorem partyLeave_asides (w : World) (r : RoomRef) (s : SessionId) :
    Asides w.scene (partyLeave w r s).scene := by
  unfold partyLeave
  cases lockPlayer w.routing w.scene [] s with
  | none => exact .refl _
  | some player =>
      dsimp only
      split
      · exact .refl _
      · cases w.routing.parties.parties (w.routing.parties.partyIdByPlayer player) with
        | none => exact .refl _
        | some party =>
            dsimp only
            have said : Asides w.scene (w.scene.send s .partyLeave) := .send _ s _ rfl
            split
            · exact said.trans (sendPartyUpdate_asides (World.sendTo { w with routing := _ } s _) r _)
            · exact said.trans (sendToMembers_asides r _ _ rfl (World.sendTo { w with routing := _ } s _))

theorem leaveRoom_asides (w : World) (held : List ObjectId) (r : RoomRef) (s : SessionId) :
    Asides w.scene (w.leaveRoom held r s).scene := by
  unfold World.leaveRoom
  cases lockPlayer w.routing w.scene held s with
  | none => exact .refl _
  | some id =>
      have gone : Asides w.scene
          (broadcast (w.routing.erasePlayer r id) r (.removeObject [id]) w.scene) :=
        .broadcast _ r _ (by rfl) w.scene
      simp only [World.removeObject]
      split
      · exact gone
      · exact .refl _

theorem moveOver_asides (w : World) (held : List ObjectId) (source dest : RoomRef)
    (pkt : CChangeMap) (instanceId : InstanceId) (s : SessionId) (player : ObjectId) :
    Asides w.scene (w.moveOver held source dest pkt instanceId s player).scene :=
  .trans (.send w.scene s _ rfl) (leaveRoom_asides (w.sendTo s _) held source s)

theorem changeMapTo_asides (w : World) (source dest : RoomRef) (s : SessionId)
    (requester : ObjectId) (pkt : CChangeMap) (instanceId : InstanceId) :
    Asides w.scene (w.changeMapTo source dest s requester pkt instanceId).scene := by
  have all (held : List ObjectId) (toMove : List (SessionId × ObjectId)) (w : World) :
      Asides w.scene (toMove.foldl (fun w member =>
        w.moveOver held source dest pkt instanceId member.1 member.2) w).scene := by
    induction toMove generalizing w with
    | nil => exact .refl _
    | cons head tail ih =>
        exact (moveOver_asides w held source dest pkt instanceId head.1 head.2).trans (ih _)
  unfold World.changeMapTo
  dsimp only
  split
  · exact all _ _ w
  · exact moveOver_asides w _ source dest pkt instanceId s requester

theorem handleCChangeMap_asides (w : World) (r : RoomRef) (s : SessionId) (pkt : CChangeMap) :
    Asides w.scene (handleCChangeMap data w r s pkt).scene := by
  have refused : Asides w.scene (w.sendTo s (changeMapRefused pkt)).scene := .send _ s _ rfl
  unfold handleCChangeMap
  cases lockPlayer w.routing w.scene [] s with
  | none => exact .refl _
  | some requester =>
      dsimp only
      split
      · cases w.routing.staticRoom .town pkt.channel with
        | none => exact refused
        | some dest => exact changeMapTo_asides w r dest s requester pkt 0
      · split
        · split
          · exact refused
          · have opened : Asides w.scene (w.createDungeonInstance data).2.2.scene :=
              .trans (.of_sent rfl) ((Scene.Sends.spawning _ _).initFromConfig data _ _ _)
            exact opened.trans (changeMapTo_asides _ r _ s requester pkt _)
        · exact refused

theorem itemJob_sends {kind : ServerPacket → Prop} (method : Player → Player × List Emission)
    (fit : ∀ p, ∀ emission ∈ (method p).2, ∀ pkt,
      emission = .session pkt ∨ emission = .room pkt → kind pkt) (w : World) (s : SessionId) :
    w.scene.Sends kind (itemJob method w s).scene := by
  unfold itemJob
  cases lockPlayer w.routing w.scene [] s with
  | none => exact .refl _
  | some id => exact .actPlayer w.routing id method w.scene (fit _)

section Jobs

variable {taken : ObjectId → Prop} {g : ObjectId}

theorem handleCMove_sends (routing : Routing) (r : RoomRef) (s : SessionId) (pkt : CMove)
    (scene : Scene) (faces : ∀ id, (scene.players id).info.dir.isValid = true) :
    scene.Sends (·.Ordinary taken g) (handleCMove routing r s pkt scene) := by
  have shown (id : ObjectId) (p : Player) (pkt : ServerPacket) (fits : pkt.Ordinary taken g) :
      scene.Sends (·.Ordinary taken g) (broadcast routing r pkt (scene.setPlayer id p)) :=
    .trans (.of_sent rfl) (.broadcast routing r pkt fits _)
  unfold handleCMove
  cases lockPlayer routing scene [] s with
  | none => exact .refl scene
  | some id =>
      dsimp only
      split
      · exact .refl scene
      · split
        · exact .refl scene
        case isFalse valid =>
          split
          · apply shown id _ _ (.of_valid _ (by simp) rfl)
            rintro id' dir shown
            cases shown
            simpa using valid
          · split
            · exact shown id _ _ (.of_move _ (.inl (faces id)))
            · exact shown id _ _ (.of_move _ (.inl (faces id)))

theorem handleCTurn_sends (routing : Routing) (r : RoomRef) (s : SessionId) (pkt : CTurn)
    (scene : Scene) : scene.Sends (·.Ordinary taken g) (handleCTurn routing r s pkt scene) := by
  unfold handleCTurn
  cases lockPlayer routing scene [] s with
  | none => exact .refl scene
  | some id =>
      dsimp only
      split
      · exact .refl scene
      case isFalse valid =>
        split
        · exact .refl scene
        · apply Scene.Sends.trans (.of_sent rfl)
          apply Scene.Sends.broadcast
          apply ServerPacket.Ordinary.of_valid _ (by simp) rfl
          rintro id' dir shown
          cases shown
          simpa using valid

theorem bury_sends (w : World) (r : RoomRef) (victim : Option ObjectId) :
    w.scene.Sends (·.Ordinary taken g) (w.bury r victim).scene ∧
      (w.bury r victim).idGen = w.idGen := by
  cases victim with
  | none => exact ⟨.refl _, rfl⟩
  | some id =>
      have gone : w.scene.Sends (·.Ordinary taken g)
          (broadcast (w.routing.erasePlayer r id) r (.removeObject [id]) w.scene) :=
        .broadcast _ r _ (.of_aside rfl) w.scene
      exact ⟨gone, rfl⟩

theorem handleCAttack_sends (w : World) (r : RoomRef) (s : SessionId) (pkt : CAttack)
    (watched : Scene.Watched r taken (w.scene, w.idGen)) (distinct : (w.scene.fields r).Distinct)
    (aimed : pkt.dir.isValid = true) :
    w.scene.Sends (·.Ordinary taken (handleCAttack data w r s pkt).idGen)
      (handleCAttack data w r s pkt).scene := by
  unfold handleCAttack
  cases lockPlayer w.routing w.scene [] s with
  | none => exact .refl _
  | some attacker =>
      dsimp only
      have announced (g : ObjectId) : w.scene.Sends (·.Ordinary taken g)
          (broadcast w.routing r
            (.attack (w.scene.players attacker).info.objectId pkt.dir pkt.weaponType) w.scene) := by
        apply Scene.Sends.broadcast
        apply ServerPacket.Ordinary.of_valid _ (by simp) rfl
        rintro id dir shown
        cases shown
        exact aimed
      have quiet := Scene.Quiet.broadcast w.routing r
        (.attack (w.scene.players attacker).info.objectId pkt.dir pkt.weaponType) w.scene
      have watched' := watched.told _ quiet
      generalize known : w.onScene (broadcast w.routing r _) = v
      have scene : v.scene = broadcast w.routing r
          (.attack (w.scene.players attacker).info.objectId pkt.dir pkt.weaponType) w.scene := by
        rw [← known]
        rfl
      have idGen : w.idGen = v.idGen := by rw [← known]; rfl
      rw [← scene] at quiet watched'
      rw [idGen] at watched'
      refine (scene ▸ announced _).trans ?_
      split
      · obtain ⟨after, beats, result⟩ := Scene.Beats.handleSwordAttack data v r attacker
        obtain ⟨-, -, sends⟩ := beats_heeded beats watched'
        have unstruck := Scene.Unstruck.handleSwordAttack data v r attacker
        rw [result] at unstruck ⊢
        have buried : after.Sends (·.Ordinary taken v.idGen)
              (World.bury { v with scene := after } r (swordVictim v r attacker)).scene ∧
            (World.bury { v with scene := after } r (swordVictim v r attacker)).idGen = v.idGen :=
          bury_sends _ r _
        obtain ⟨gone, same⟩ := buried
        rw [same]
        exact (sends.trans (gone.mono fun _ => .inr)).ordinary unstruck
      · split
        · exact .trans (.of_sent rfl) (.broadcast v.routing r _ (.of_aside rfl) _)
        · split
          · have apart : (v.scene.fields r).Distinct := by rwa [quiet.fields]
            have beats := Scene.Beats.handleStaffAttack data v r attacker pkt apart
            have unstruck :=
              (Scene.Unstruck.speaking v.routing r).handleStaffAttack data attacker pkt v.scene
            unfold World.onScene
            dsimp only
            generalize handleStaffAttack data v.routing r attacker pkt v.scene = b at beats unstruck
            obtain ⟨-, -, sends⟩ := beats_heeded beats watched'
            exact sends.ordinary unstruck
          · exact .refl _

theorem enterRoomParty_asides (w : World) (r : RoomRef) (player : ObjectId) :
    Asides w.scene (enterRoomParty w r player).scene := by
  unfold enterRoomParty
  dsimp only
  split
  · exact .refl _
  · cases w.routing.parties.parties (w.routing.parties.partyIdByPlayer player) with
    | none => exact .refl _
    | some party =>
        dsimp only
        split
        · exact .of_sent rfl
        · exact sendToMembers_asides r _ _ rfl w

theorem enterRoom_sends (w : World) (r : RoomRef) (s : SessionId) (id : ObjectId)
    (faces : (w.scene.players id).info.dir.isValid = true)
    (own : (w.scene.players id).info.objectId = id) (is_taken : taken id) :
    w.scene.Sends (·.Ordinary taken g) (w.enterRoom r s id).scene := by
  have greeted : w.scene.Sends (·.Ordinary taken g)
      ((w.scene.setPlayer id (w.scene.players id).atEntrance).send s
        (.myPlayer (w.scene.players id).atEntrance.info)) := by
    apply Scene.Sends.trans (.of_sent rfl) (.send _ s _ _)
    refine ⟨⟨?_, ?_⟩, rfl⟩
    · intro id' dir shown
      cases shown
      exact .inl faces
    · intro info same
      cases same
      exact own.symm ▸ is_taken
  have stocked : Asides ((w.scene.setPlayer id (w.scene.players id).atEntrance).send s
        (.myPlayer (w.scene.players id).atEntrance.info))
      ((w.scene.players id).atEntrance.sendInventoryData.foldl (emit (w.routing.bind r s id) id)
        ((w.scene.setPlayer id (w.scene.players id).atEntrance).send s
          (.myPlayer (w.scene.players id).atEntrance.info))) := by
    apply Scene.Sends.emissions
    intro emission listed pkt is
    rw [List.mem_singleton.mp listed] at is
    rcases is with same | other
    · cases same
      rfl
    · cases other
  unfold World.enterRoom
  dsimp only
  apply greeted.trans
  apply Scene.Sends.mono _ fun _ => ServerPacket.Ordinary.of_aside
  refine Scene.Sends.trans ?_ (enterRoomParty_asides _ r id)
  refine Scene.Sends.trans ?_ (.broadcast _ r _ (by rfl) _)
  exact stocked.trans (.send _ s _ (by rfl))

theorem runJob_sends (w : World) (r : RoomRef) (job : Job)
    (watched : Scene.Watched r taken (w.scene, w.idGen)) (distinct : (w.scene.fields r).Distinct)
    (aimed : ∀ s pkt, job = .attack s pkt → pkt.dir.isValid = true)
    (entering : ∀ s id, job = .enterRoom s id →
      (w.scene.players id).info.objectId = id ∧ taken id)
    (other : ∀ s targetId, job ≠ .partyInvite s targetId) :
    w.scene.Sends (·.Ordinary taken (runJob data w r job).idGen) (runJob data w r job).scene := by
  have asides {b : Scene} (sends : Asides w.scene b) (g : ObjectId) :
      w.scene.Sends (·.Ordinary taken g) b := sends.mono fun _ => .of_aside
  cases job with
  | move s pkt => exact handleCMove_sends w.routing r s pkt w.scene watched.faces
  | turn s pkt => exact handleCTurn_sends w.routing r s pkt w.scene
  | attack s pkt => exact handleCAttack_sends data w r s pkt watched distinct (aimed s pkt rfl)
  | changeMap s pkt => exact asides (handleCChangeMap_asides data w r s pkt) _
  | equipItem s slot =>
      exact itemJob_sends _ (fun p => voices_aside _ (Player.equipItem_gains data slot p)) w s
  | unequipItem s equipType =>
      exact itemJob_sends _ (fun p => voices_aside _ (Player.unequipItem_gains data equipType p)) w s
  | useItem s slot =>
      exact itemJob_sends _ (fun p => voices_aside _ (Player.useItem_gains data slot p)) w s
  | partyInvite s targetId => exact absurd rfl (other s targetId)
  | partyAnswer s inviterId accept => exact asides (partyAnswer_asides w r s inviterId accept) _
  | partyLeave s => exact asides (partyLeave_asides w r s) _
  | enterRoom s id =>
      obtain ⟨own, is_taken⟩ := entering s id rfl
      exact enterRoom_sends w r s id (watched.faces id) own is_taken
  | leaveRoom s => exact asides (leaveRoom_asides w [] r s) _

theorem partyInvite_sends (w : World) (r : RoomRef) (s : SessionId) (targetId : ObjectId) :
    w.scene.Sends (·.Upright taken g) (partyInvite w r s targetId).scene := by
  unfold partyInvite
  cases lockPlayer w.routing w.scene [] s with
  | none => exact .refl _
  | some inviter =>
      dsimp only
      split
      · exact .refl _
      · split
        · exact .refl _
        · split
          · exact .refl _
          · split
            · exact .refl _
            · cases findPlayer w r targetId with
              | none => exact .refl _
              | some target => exact .sendToPlayer w.routing target _ (.of_unseen rfl) w.scene

end Jobs

theorem handlePacket_asides (w : World) (s : SessionId) (pkt : ClientPacket) :
    Asides w.scene (handlePacket data w s pkt).scene := by
  unfold handlePacket
  split
  · unfold handleCLogin
    dsimp only
    split
    · exact .refl _
    · split
      · exact .refl _
      · have greeted (p : Player) (account : AccountId) : Asides w.scene
            ((w.scene.setPlayer w.idGen p).send s (.enterGame true account)) := by
          have set : Asides w.scene (w.scene.setPlayer w.idGen p) := .of_sent rfl
          exact set.trans (.send _ s _ (by rfl))
        split
        · exact ((greeted _ _).trans (.redisCommand _ _)).trans (.redisCommand _ _)
        · exact greeted _ _
  · unfold handleCChat
    split
    · exact .refl _
    · split
      · exact .refl _
      · exact .of_sent rfl
  · split <;> exact .refl _

theorem onDisconnected_asides (w : World) (s : SessionId) :
    Asides w.scene (onDisconnected w s).scene := by
  have parted (w : World) (player : ObjectId) :
      Asides w.scene (partWithPlayer w s player).scene := by
    have saved : (saveOnDisconnect w s player).scene = w.scene := by
      unfold saveOnDisconnect
      dsimp only
      split <;> rfl
    have left (v : World) : Asides v.scene (leavePartyOnDisconnect v s player).scene := by
      unfold leavePartyOnDisconnect
      dsimp only
      split
      · exact .refl _
      · split
        · exact sendToMembers_asides _ _ _ rfl _
        · exact .refl _
    have forgotten (v : World) : Asides v.scene (forgetOnDisconnect v player).scene := by
      unfold forgetOnDisconnect
      split
      · exact .redisCommand v.scene _
      · exact .refl _
    unfold partWithPlayer
    exact (saved ▸ left (saveOnDisconnect w s player)).trans (forgotten _)
  have gone : Asides w.scene (disconnecting w s).scene := by
    unfold disconnecting
    dsimp only
    split
    · exact .refl _
    · exact parted { w with routing := _ } _
  rw [onDisconnected_eq]
  cases lockRoom (disconnecting w s).routing (disconnecting w s).scene s <;> exact gone

theorem stepPass_sends {taken : ObjectId → Prop} (w next : World) (pass : Pass) (e : Event)
    (passed : w.stepPass data pass e = some next)
    (watched : ∀ r, Scene.Watched r taken (w.scene, w.idGen)) :
    w.scene.Sends (·.Ordinary taken next.idGen) next.scene := by
  unfold World.stepPass at passed
  split at passed
  case h_5 rand =>
    split at passed
    case h_1 r steps current =>
      split at passed
      · cases passed
        have supplied : Scene.Watched r taken ({ w.scene with rand }, w.idGen) :=
          (watched r).told _ (.of_same rfl rfl rfl rfl)
        have stepped := gameStep_sends data w.routing _ _ supplied
        exact .trans (.of_sent rfl) (stepped.trans (.of_sent rfl))
      · cases passed
    case h_2 => cases passed
  case h_6 =>
    split at passed
    · dsimp only at passed
      split at passed
      · cases passed
      · cases passed
        exact .of_sent rfl
    · cases passed
  all_goals
    repeat' split at passed
    all_goals first
      | cases passed
        exact .of_sent rfl
      | cases passed

/-- No `C_Attack` runs in a direction that is none. -/
def AttacksStraight (w : World) (e : Event) : Prop :=
  ∀ rand r s pkt rest, e = .job rand → w.routing.nextJob = some (r, .attack s pkt, rest) →
    pkt.dir.isValid = true

theorem AttacksStraight.aims {w : World} {e : Event} (straight : AttacksStraight w e) :
    AimsStraight w e :=
  fun rand r s pkt rest event front _ _ => straight rand r s pkt rest event front

structure World.Mails (w next : World) (e : Event) : Prop where
  upright : w.scene.Sends (·.Upright w.routing.LoggedPlayer next.idGen) next.scene
  invited : ∀ s inviterId, next.scene.sent.countP (invites s inviterId) =
    w.scene.sent.countP (invites s inviterId) + (w.inviting e next).countP (invites s inviterId)

theorem invites_isInvite (s : SessionId) (inviterId : ObjectId) (sent : SessionId × ServerPacket)
    (uninviting : sent.2.isInvite = false) : invites s inviterId sent = false := by
  obtain ⟨session, pkt⟩ := sent
  cases pkt <;> first | rfl | cases uninviting

theorem World.Mails.of_ordinary {w next : World} {e : Event}
    (ordinary : w.scene.Sends (·.Ordinary w.routing.LoggedPlayer next.idGen) next.scene)
    (quiet : w.inviting e next = []) : w.Mails next e where
  upright := ordinary.mono fun _ fits => fits.toUpright
  invited := by
    intro s inviterId
    obtain ⟨news, sent, fit⟩ := ordinary
    rw [sent, List.countP_append, quiet]
    congr 1
    apply List.countP_eq_zero.mpr
    intro mail listed
    rw [invites_isInvite s inviterId mail (fit mail listed).uninviting]
    exact Bool.false_ne_true

theorem World.Orderly.watched {w : World} (orderly : w.Orderly) (directed : w.scene.Directed)
    (r : RoomRef) : Scene.Watched r w.routing.LoggedPlayer (w.scene, w.idGen) where
  faces := directed.players
  others := by
    intro id listed
    rcases List.mem_append.mp listed with monster | arrow
    · obtain ⟨m, member, rfl⟩ := List.mem_map.mp monster
      exact orderly.numbered.monsters r m member
    · obtain ⟨a, member, rfl⟩ := List.mem_map.mp arrow
      obtain ⟨below, free, -⟩ := orderly.numbered.arrows r a member
      exact ⟨below, free⟩
  fresh := by
    rintro id ⟨l, member, rfl⟩
    exact orderly.fresh l member

theorem step_mails (w next : World) (e : Event) (orderly : w.Orderly) (directed : w.scene.Directed)
    (straight : AttacksStraight w e) (stepped : w.step data e = some next) : w.Mails next e := by
  obtain ⟨acted, -⟩ := step_act data w next e stepped
  have asides (sends : Asides w.scene next.scene) (quiet : w.inviting e next = []) :
      w.Mails next e := .of_ordinary (sends.mono fun _ => .of_aside) quiet
  cases e with
  | connect s =>
      simp only [World.act] at acted
      split at acted
      · cases acted
        exact asides (.refl _) rfl
      · cases acted
  | packet s pkt =>
      simp only [World.act] at acted
      split at acted
      · cases acted
        exact asides (handlePacket_asides data w s pkt) rfl
      · cases acted
  | disconnect s =>
      simp only [World.act] at acted
      split at acted
      · cases acted
        exact asides (onDisconnected_asides w s) rfl
      · cases acted
  | clock now =>
      simp only [World.act] at acted
      split at acted
      · cases acted
        exact asides (.of_sent rfl) rfl
      · cases acted
  | update =>
      simp only [World.act] at acted
      split at acted
      · cases acted
      · cases acted
        exact asides (.refl _) rfl
  | job rand =>
      obtain ⟨r, job, rest, front, result⟩ := runNextJob_some data w next rand acted
      have runs : w.runs (.job rand) = some job := by simp [World.runs, front]
      have watched : Scene.Watched r w.routing.LoggedPlayer
          ((w.forJob r rest rand).scene, (w.forJob r rest rand).idGen) :=
        (orderly.watched directed r).told _ (.of_same rfl rfl rfl rfl)
      by_cases invite : ∃ s targetId, job = .partyInvite s targetId
      · obtain ⟨s, targetId, rfl⟩ := invite
        have upright : w.scene.Sends (·.Upright w.routing.LoggedPlayer next.idGen) next.scene := by
          rw [result]
          exact .trans (.of_sent rfl) (partyInvite_sends (w.forJob r rest rand) r s targetId)
        refine ⟨upright, fun s' inviterId => ?_⟩
        obtain ⟨news, sent, -⟩ := upright
        rw [World.inviting, runs]
        dsimp only
        rw [sent, List.countP_append, List.drop_left]
      · apply World.Mails.of_ordinary
        · rw [result]
          apply Scene.Sends.trans (.of_sent rfl)
          apply runJob_sends data (w.forJob r rest rand) r job watched
            (orderly.numbered.distinct r)
          · rintro s pkt rfl
            exact straight rand r s pkt rest rfl front
          · rintro s id rfl
            refine ⟨orderly.numbered.own id, orderly.toKnown.placed id ⟨r, .inr ⟨s, ?_⟩⟩⟩
            exact Routing.nextJob_queued w.routing r _ rest front
          · rintro s targetId rfl
            exact invite ⟨s, targetId, rfl⟩
        · rw [World.inviting, runs]
          cases job with
          | partyInvite s targetId => exact absurd ⟨s, targetId, rfl⟩ invite
          | _ => rfl
  | visitStatic | loopDungeons | visitDungeon _ | endJobs | step _ | endRoom | endUpdate =>
      simp only [World.act] at acted
      split at acted
      · cases acted
      · exact .of_ordinary (stepPass_sends data w next _ _ acted (orderly.watched directed)) rfl

theorem init_asides (store : Store) (redisConnected : Bool) (rand : List Nat) :
    ∀ sent ∈ (World.init data store redisConnected rand).scene.sent, sent.2.isAside = true := by
  have opened (w : World) (channel : Int) (roomId : RoomName) :
      Asides w.scene (w.openTown data channel roomId).scene :=
    (Scene.Sends.spawning _ w.routing.roomCount).initFromConfig data roomId w.scene w.idGen
  have whole : Asides (World.empty data store redisConnected rand).scene
      (World.init data store redisConnected rand).scene := by
    unfold World.init
    dsimp only
    split
    · exact (opened _ 1 .town1).trans (opened _ 2 .town2)
    · exact .refl _
  obtain ⟨news, sent, aside⟩ := whole
  rw [sent]
  exact List.forall_mem_append.mpr ⟨List.forall_mem_nil _, aside⟩

theorem step_logged (w next : World) (e : Event) (inRange : w.routing.InRange)
    (stepped : w.step data e = some next) :
    (∀ id, w.routing.LoggedPlayer id → next.routing.LoggedPlayer id) ∧
      ∀ id, next.routing.LoggedPlayer id → w.routing.LoggedPlayer id ∨ w.idGen ≤ id := by
  rcases step_logins data w next e inRange stepped with
    ⟨same, -⟩ | ⟨s, username, -, -, added, -⟩
  · unfold Routing.LoggedPlayer
    rw [same]
    exact ⟨fun _ => id, fun _ => .inl⟩
  · unfold Routing.LoggedPlayer
    rw [added]
    constructor
    · rintro id ⟨l, member, player⟩
      exact ⟨l, List.mem_cons_of_mem _ member, player⟩
    · rintro id ⟨l, member, player⟩
      rcases List.mem_cons.mp member with rfl | old
      · exact .inr (Nat.le_of_eq player)
      · exact .inl ⟨l, old, player⟩

def Job.NewBy (e : Event) (job : Job) : Prop :=
  job.entering ≠ none ∨ (∃ s, job = .leaveRoom s) ∨
    ∃ s pkt, e = .packet s pkt ∧ pkt.job s = some job

theorem step_queued (w next : World) (e : Event) (inRange : w.routing.InRange)
    (stepped : w.step data e = some next) (r : RoomRef) :
    ∀ job ∈ (next.routing.rooms r).queue, job ∈ (w.routing.rooms r).queue ∨ job.NewBy e := by
  have still (queue : (next.routing.rooms r).queue = (w.routing.rooms r).queue) :
      ∀ job ∈ (next.routing.rooms r).queue, job ∈ (w.routing.rooms r).queue ∨ job.NewBy e := by
    rw [queue]
    exact fun _ => .inl
  have pushed (r' : RoomRef) (new : Job) (rooms : next.routing.rooms = (w.routing.pushJob r' new).rooms)
      (by_step : new.NewBy e) :
      ∀ job ∈ (next.routing.rooms r).queue, job ∈ (w.routing.rooms r).queue ∨ job.NewBy e := by
    rw [rooms, Routing.queue_pushJob]
    split
    · exact List.forall_mem_append.mpr
        ⟨fun _ => .inl, List.forall_mem_singleton.mpr (.inr by_step)⟩
    · exact fun _ => .inl
  cases step_turned data w next e stepped with
  | quiet e jobless ongoing rooms tables pending => exact still (by rw [rooms])
  | pushed s pkt r' job sends bound result =>
      exact pushed r' job (by rw [result]) (.inr (.inr ⟨s, pkt, rfl, sends⟩))
  | login s username r' id town rooms tables pending =>
      exact pushed r' _ rooms (.inl (by simp [Job.entering]))
  | left s r' bound rooms tables pending => exact pushed r' _ rooms (.inr (.inl ⟨s, rfl⟩))
  | ran rand r' job rest front result =>
      obtain ⟨pass, -, -, batch⟩ := nextJob_some w.routing r' job rest front
      obtain ⟨news, rooms⟩ := ran_rooms data w rand r' job rest inRange front
      obtain ⟨jobs, batch', entering⟩ := rooms r
      rw [result]
      intro other member
      unfold Room.queue at member ⊢
      rw [jobs, batch'] at member
      rcases List.mem_append.mp member with first | later
      · left
        apply List.mem_append_left
        split at first
        case isTrue here =>
          rw [here, batch]
          exact List.mem_cons_of_mem _ first
        case isFalse => exact first
      · rcases List.mem_append.mp later with old | new
        · exact .inl (List.mem_append_right _ old)
        · exact .inr (.inl (entering other new))
  | update idle result => exact still (by rw [result]; rfl)
  | visitStatic pass r' statics under_way idle left result =>
      exact still (by rw [result]; exact Routing.queue_startVisit w.routing _ r' r)
  | loopDungeons pass under_way idle left first result => exact still (by rw [result]; rfl)
  | visitDungeon pass r' instanceId under_way idle loop unvisited listed result =>
      exact still (by rw [result]; exact Routing.queue_startVisit w.routing _ r' r)
  | goOn e jobless ongoing pass visit current under_way visiting drained goes result =>
      exact still (by rw [result]; rfl)
  | endUpdate pass dungeonsFrom under_way idle loop complete result =>
      exact still (by rw [result]; rfl)

theorem step_upright (w next : World) (e : Event) (orderly : w.Orderly) (directed : w.scene.Directed)
    (straight : AttacksStraight w e) (stepped : w.step data e = some next) :
    w.scene.Sends (·.Upright next.routing.LoggedPlayer next.idGen) next.scene := by
  rcases step_logins data w next e orderly.inRange stepped with
    ⟨same, -⟩ | ⟨s, username, rfl, -, -, -⟩
  · have taken : next.routing.LoggedPlayer = w.routing.LoggedPlayer := by
      unfold Routing.LoggedPlayer
      rw [same]
    rw [taken]
    exact (step_mails data w next e orderly directed straight stepped).upright
  · obtain ⟨acted, -⟩ := step_act data w next _ stepped
    simp only [World.act] at acted
    split at acted
    · cases acted
      apply (handlePacket_asides data w s (.login username)).mono
      exact fun pkt aside => (ServerPacket.Ordinary.of_aside aside).toUpright
    · cases acted

end ZeldaServer
