import ZeldaServer.World.Serving

/-! One room, its clients, and what each of them holds of it: where everything is, and the
hp of the creatures. -/

namespace ZeldaServer

variable (data : GameData)

def World.oneRoom (fieldId : FieldId) (channel : Int) (roomId : RoomName) (store : Store)
    (redisConnected : Bool) (rand : List Nat) : World :=
  let w := World.empty data store redisConnected rand
  match fieldId with
  | .town => w.openTown data channel roomId
  | .dungeon => (w.createDungeonInstance data).2.2

inductive RoomEvent where
  /-- `Handle_C_Login` creates a player. -/
  | login (session : SessionId) (username : Bytes)
  | job (rand : List Nat) (job : Job)
  | step (rand : List Nat)
  | clock (now : Nat)
  deriving DecidableEq

def Job.session : Job → SessionId
  | .move s _ | .turn s _ | .attack s _ | .changeMap s _ | .equipItem s _ | .unequipItem s _
  | .useItem s _ | .partyInvite s _ | .partyAnswer s _ _ | .partyLeave s | .enterRoom s _
  | .leaveRoom s => s

/-- `EnterRoom` is for a player and the session it logged in with, the other jobs are for a
session whose player is in the room. -/
def World.awaits (w : World) (r : RoomRef) (job : Job) : Bool :=
  match job with
  | .enterRoom s player =>
      w.routing.logins.any fun login => login.session = s ∧ login.player = player
  | _ => (w.routing.sessions job.session).player.any (· ∈ playerIds w.routing r)

def Routing.takeJob (routing : Routing) (r : RoomRef) (job : Job) : Routing :=
  routing.setRoom r { routing.rooms r with jobs := (routing.rooms r).jobs.erase job }

def Job.walks : Job → Bool
  | .enterRoom _ _ | .leaveRoom _ | .move _ _ | .turn _ _ | .attack _ _ => true
  | _ => false

def Job.remains : Job → Bool
  | .changeMap _ _ => false
  | _ => true

/-- One event of room 0, with the jobs of some kinds; nothing follows what ends the process. -/
def World.roomStep (admits : Job → Bool) (w : World) (e : RoomEvent) : Option World :=
  if w.scene.fault ≠ none then none
  else
    match e with
    | .login s username => some (handleCLogin data w s username)
    | .job rand job =>
        if admits job && w.awaits 0 job then
          some (runJob data
            { w with routing := w.routing.takeJob 0 job, scene := { w.scene with rand } } 0 job)
        else none
    | .step rand =>
        let made := gameStep data w.routing 0 { w.scene with rand } w.idGen
        some { w with scene := made.1, idGen := made.2 }
    | .clock now =>
        if w.scene.now ≤ now then some (w.onScene fun scene => { scene with now }) else none

/-- How much was sent before each player's last `EnterRoom`. -/
abbrev Marks := ObjectId → Nat

def markEntry (w : World) (e : RoomEvent) (_ : World) (marks : Marks) : Marks :=
  match e with
  | .job _ (.enterRoom _ player) => Function.update marks player w.scene.sent.length
  | _ => marks

/-- The packets sent to the player's session since its last `EnterRoom`. -/
def stream (now : World × Marks) (id : ObjectId) : List ServerPacket :=
  match now.1.routing.playerSession id with
  | none => []
  | some s => heardBy s (now.1.scene.sent.drop (now.2 id))

abbrev Room.play (admits : Job → Bool) : World × Marks → RoomEvent → Option (World × Marks) :=
  Runs.observed (World.roomStep data admits) markEntry

structure Place where
  posX : Int
  posY : Int
  dir : Dir
  deriving DecidableEq

def ObjectInfo.place (info : ObjectInfo) : Place := ⟨info.posX, info.posY, info.dir⟩

abbrev Places := ObjectId → Option Place

namespace Places

def insert (places : Places) (info : ObjectInfo) : Places :=
  Function.update places info.objectId (some info.place)

def erase (places : Places) (id : ObjectId) : Places := Function.update places id none

def overwrite (places : Places) (info : ObjectInfo) : Places :=
  match places info.objectId with
  | none => places
  | some _ => places.insert info

def hear (places : Places) : ServerPacket → Places
  | .myPlayer info => places.insert info
  | .addObject pkt => pkt.objects.foldl insert places
  | .removeObject ids => ids.foldl erase places
  | .move info | .turn info => places.overwrite info
  | _ => places

end Places

/-- For every player of the room, the packets tell where the objects of the room are, and of
no others. -/
def Replicated (now : World × Marks) : Prop :=
  ∀ p ∈ playerIds now.1.routing 0, ∀ id place,
    (stream now p).foldl Places.hear (fun _ => none) id = some place ↔
      ∃ info ∈ (enterRoomObjects now.1 0).objects, info.objectId = id ∧ info.place = place

/-- What a client holds of the hp and maxHp of the objects, and which one is its player. -/
structure Client where
  own : Option ObjectId
  health : ObjectId → Option (Int × Int)

namespace Client

def empty : Client := ⟨none, fun _ => none⟩

def set (client : Client) (id : ObjectId) (health : Option (Int × Int)) : Client :=
  { client with health := Function.update client.health id health }

/-- `GetObject(id)`, and a setter where there is an object. -/
def change (client : Client) (id : ObjectId) (f : Int × Int → Int × Int) : Client :=
  client.set id ((client.health id).map f)

/-- `DevScene::Handle_S_AddObject` -/
def add (client : Client) (info : ObjectInfo) : Client :=
  if client.own = some info.objectId then client
  else client.set info.objectId (some (info.hp, info.maxHp))

/-- `DevScene::Handle_S_RemoveObject` -/
def remove (client : Client) (id : ObjectId) : Client := client.set (Screen.narrow id) none

/-- The handlers of `ClientPacketHandler` that set hp or objects. -/
def hear (client : Client) : ServerPacket → Client
  | .myPlayer info =>
      { client.set info.objectId (some (info.hp, info.maxHp)) with own := some info.objectId }
  | .addObject pkt => pkt.objects.foldl add client
  | .removeObject ids => ids.foldl remove client
  | .damaged _ targetId newHp _ => client.change targetId fun health => (newHp, health.2)
  | .levelUp id _ maxHp _ _ _ => client.change id fun _ => (maxHp, maxHp)
  | .useItem _ _ newHp =>
      match client.own with
      | some id => client.change id fun health => (newHp, health.2)
      | none => client
  | _ => client

end Client

def World.creatures (w : World) (r : RoomRef) : List ObjectInfo :=
  (playerIds w.routing r).map (fun id => (w.scene.players id).info) ++
    (w.scene.fields r).monsters.map (·.info)

/-- Every client of the room holds the hp and the maxHp of every creature of the room. -/
def TrueHealth (now : World × Marks) : Prop :=
  ∀ p ∈ playerIds now.1.routing 0, ∀ info ∈ now.1.creatures 0,
    ((stream now p).foldl Client.hear .empty).health info.objectId = some (info.hp, info.maxHp)

def World.screen (w : World) (mark : Nat) (inGame : Bool) (s : SessionId) : Screen :=
  (heardBy s (w.scene.sent.drop mark)).foldl (Screen.hear inGame) .empty

/-- The screens of the players of the room are right, and know their own player. -/
structure InStep (now : World × Marks) : Prop where
  people : now.1.Attended 0
  shown : ∀ p ∈ playerIds now.1.routing 0, ∀ s, now.1.routing.playerSession p = some s →
    now.2 p ≤ now.1.scene.sent.length ∧ ∀ inGame, Screen.Fits inGame now.1.idGen →
      (now.1.screen (now.2 p) inGame s).Right now.1.routing 0 now.1.scene ∧
        (now.1.screen (now.2 p) inGame s).own = (now.1.routing.sessions s).player

namespace InStep

variable {now : World × Marks}

theorem owned (inStep : InStep now) (s : SessionId) (id : ObjectId)
    (owner : (now.1.routing.sessions s).player = some id) : id < now.1.idGen := by
  obtain ⟨login, member, -, same⟩ :=
    inStep.people.logged s id (inStep.people.bound s id owner)
  exact inStep.people.roster.fresh id ⟨login, member, same⟩

theorem follow (inStep : InStep now) (next : World) (people : next.Attended 0)
    (up : now.1.idGen ≤ next.idGen)
    (stays : ∀ p ∈ playerIds next.routing 0, p ∈ playerIds now.1.routing 0)
    (sessions : next.routing.playerSession = now.1.routing.playerSession)
    (owners : ∀ s, (next.routing.sessions s).player = (now.1.routing.sessions s).player)
    (told : ∀ p ∈ playerIds next.routing 0, ∀ s, next.routing.playerSession p = some s →
      ∃ pkts, Scene.Hears s now.1.scene next.scene pkts ∧ ∀ inGame screen,
        Screen.Fits inGame next.idGen → screen.Owned now.1.idGen →
          screen.own = (now.1.routing.sessions s).player →
            screen.Right now.1.routing 0 now.1.scene →
              (pkts.foldl (Screen.hear inGame) screen).Right next.routing 0 next.scene ∧
                (pkts.foldl (Screen.hear inGame) screen).own = screen.own) :
    InStep (next, now.2) where
  people := people
  shown := by
    intro p standing s session
    obtain ⟨pkts, hears, heard⟩ := told p standing s session
    dsimp only at session
    rw [sessions] at session
    obtain ⟨begun, right⟩ := inStep.shown p (stays p standing) s session
    have goesOn := fun inGame => hears.stream (now.2 p) begun inGame .empty
    refine ⟨(goesOn true).1, fun inGame fits => ?_⟩
    unfold World.screen
    rw [(goesOn inGame).2]
    obtain ⟨right, own⟩ := right inGame fun game => Nat.le_trans up (fits game)
    have known : Screen.Owned (now.1.screen (now.2 p) inGame s) now.1.idGen := by
      intro id named
      exact inStep.owned s id (own.symm.trans named)
    obtain ⟨right', own'⟩ := heard inGame _ fits known own right
    exact ⟨right', own'.trans (own.trans (owners s).symm)⟩

theorem serve (inStep : InStep now) (next : World) (serves : now.1.Serves 0 next) :
    InStep (next, now.2) := by
  obtain ⟨pkts, spread, heard⟩ := serves.told
  apply inStep.follow next serves.people serves.up serves.stays serves.sessions serves.owners
  intro p standing s session
  refine ⟨pkts, .of_spreads spread ⟨p, standing, session⟩, ?_⟩
  exact fun inGame screen fits owned _ right => heard inGame screen fits owned right

end InStep

def Player.Heals (slot : Int) (p : Player) : Prop :=
  ∃ target, UseSlot.ofInt slot = some target ∧ (p.useSlot target).itemId ≠ 0 ∧
    ∃ tmpl, data.itemTemplate (p.useSlot target).itemId = some tmpl ∧ tmpl.type = .consumable ∧
      min (p.info.hp + tmpl.value) p.info.maxHp ≠ p.info.hp

theorem useItem_healthy (slot : Int) (p : Player) (healthy : ¬ p.Heals data slot) :
    (Player.useItem data slot p).1.info.looks = p.info.looks := by
  unfold Player.useItem
  split
  · rfl
  next target chosen =>
    split
    · rfl
    next held =>
      split
      · rfl
      next tmpl template =>
        split
        · rfl
        next consumable =>
          have same : min (p.info.hp + tmpl.value) p.info.maxHp = p.info.hp := by
            by_contra other
            exact healthy ⟨target, chosen, held, tmpl, template, not_not.mp consumable, other⟩
          dsimp only
          rw [same]
          cases target <;> rfl

/-- A potion that changes the hp is drunk only while the room has no other session than that
of the drinker. -/
def PotionShown (w : World) : RoomEvent → Prop
  | .job _ (.useItem s slot) =>
      ∀ id, (w.routing.sessions s).player = some id → (w.scene.players id).Heals data slot →
        ∀ other ∈ playerIds w.routing 0, w.routing.playerSession other = some s
  | _ => True

namespace InStep

variable {now : World × Marks}

theorem drank (inStep : InStep now) (s : SessionId) (id : ObjectId) (p : Player)
    (target left hp : Int) (owner : (now.1.routing.sessions s).player = some id)
    (here : id ∈ playerIds now.1.routing 0)
    (info : p.info = { (now.1.scene.players id).info with hp })
    (others : p.info.looks = (now.1.scene.players id).info.looks ∨
      ∀ other ∈ playerIds now.1.routing 0, now.1.routing.playerSession other = some s) :
    InStep (now.1.onScene fun scene => (scene.setPlayer id p).send s (.useItem target left hp),
      now.2) := by
  have roster := inStep.people.roster
  have named : p.info.objectId = id := by
    rw [info]
    exact roster.own id
  have healed := roster.setPlayer id p named
  have people : World.Attended 0 (now.1.onScene fun scene =>
      (scene.setPlayer id p).send s (.useItem target left hp)) :=
    inStep.people.of_same (healed.of_same _ rfl rfl) rfl rfl rfl (fun _ => rfl) rfl
  apply inStep.follow _ people (Nat.le_refl _) (fun _ there => there) rfl fun _ => rfl
  intro other there s' session
  by_cases mine : s = s'
  · subst mine
    refine ⟨[.useItem target left hp], (Scene.Hears.of_sent rfl).before (.own _ _), ?_⟩
    intro inGame screen _ _ own right
    rw [owner] at own
    have heard : screen.hear inGame (.useItem target left hp) =
        screen.alter id fun looks => { looks with hp } := by
      unfold Screen.hear
      dsimp only
      rw [own]
    have alters := roster.setPlayer_alters id p here
    have known : now.1.scene.Shows now.1.routing 0 id (now.1.scene.players id).info.looks :=
      .inl ⟨here, rfl⟩
    have altered := right.alter id _ p.info.looks (fun looks => { looks with hp }) known
      (by rw [info]; rfl) alters
    rw [List.foldl_cons, List.foldl_nil, heard]
    exact ⟨altered.same (Scene.shows_of_same rfl rfl), rfl⟩
  · refine ⟨[], (Scene.Hears.of_sent rfl).before (.other _ s _ mine), ?_⟩
    intro inGame screen _ _ _ right
    have looks : p.info.looks = (now.1.scene.players id).info.looks := by
      apply others.resolve_right
      exact fun alone => mine (Option.some.inj ((alone other there).symm.trans session))
    have unseen := right.same (roster.setPlayer_unseen id p looks)
    exact ⟨unseen.same (Scene.shows_of_same rfl rfl), rfl⟩

theorem used (inStep : InStep now) (s : SessionId) (slot : Int)
    (standing : ∀ id, (now.1.routing.sessions s).player = some id → id ∈ playerIds now.1.routing 0)
    (shown : ∀ id, (now.1.routing.sessions s).player = some id →
      (now.1.scene.players id).Heals data slot →
        ∀ other ∈ playerIds now.1.routing 0, now.1.routing.playerSession other = some s) :
    InStep (itemJob (Player.useItem data slot) now.1 s, now.2) := by
  unfold itemJob
  cases locked : lockPlayer now.1.routing now.1.scene [] s with
  | none => exact inStep
  | some id =>
      have owner := (lockPlayer_some now.1.routing now.1.scene [] s id locked).1
      have session := inStep.people.bound s id owner
      have told := Player.useItem_told data slot (now.1.scene.players id)
      have healthy := useItem_healthy data slot (now.1.scene.players id)
      dsimp only
      unfold actPlayer World.onScene
      dsimp only
      generalize Player.useItem data slot (now.1.scene.players id) = made at told healthy
      rcases told with none | ⟨target, left, hp, emitted, info⟩
      · rw [none]
        dsimp only [List.foldl_nil]
        unfold Scene.setPlayer
        rw [Function.update_eq_self]
        exact inStep
      · rw [emitted]
        dsimp only [List.foldl_cons, List.foldl_nil, emit, sendToPlayer]
        rw [session]
        apply inStep.drank s id made.1 target left hp owner (standing id owner) info
        by_cases heals : (now.1.scene.players id).Heals data slot
        · exact .inr (shown id owner heals)
        · exact .inl (healthy heals)

end InStep

namespace InStep

variable {now : World × Marks}

theorem entered (inStep : InStep now) (s : SessionId) (id : ObjectId)
    (login : ∃ login ∈ now.1.routing.logins, login.session = s ∧ login.player = id) :
    InStep (now.1.enterRoom 0 s id,
      Function.update now.2 id now.1.scene.sent.length) where
  people := inStep.people.enterRoom login
  shown := by
    intro p standing s' session
    have idGen : (now.1.enterRoom 0 s id).idGen = now.1.idGen := enterRoom_idGen now.1 0 s id
    have before (apart : p ≠ id) :
        p ∈ playerIds now.1.routing 0 ∧ now.1.routing.playerSession p = some s' := by
      refine ⟨((entered_player p).mp standing).resolve_right apart, ?_⟩
      have same := session
      dsimp only at same
      rwa [entered_session, if_neg apart] at same
    dsimp only at session ⊢
    rw [idGen, entered_owner]
    by_cases mine : s' = s
    · subst mine
      rw [if_pos rfl]
      obtain ⟨pkts, hears, heard⟩ := entered_own inStep.people login
      by_cases same : p = id
      · rw [same, Function.update_self]
        have begins := fun inGame =>
          hears.stream now.1.scene.sent.length (Nat.le_refl _) inGame .empty
        refine ⟨(begins true).1, fun inGame fits => ?_⟩
        unfold World.screen
        rw [(begins inGame).2, List.drop_length]
        apply heard inGame
        intro other looks known
        cases known
      · obtain ⟨there, session'⟩ := before same
        obtain ⟨begun, right⟩ := inStep.shown p there s' session'
        rw [Function.update_of_ne same]
        have goesOn := fun inGame => hears.stream (now.2 p) begun inGame .empty
        refine ⟨(goesOn true).1, fun inGame fits => ?_⟩
        unfold World.screen
        rw [(goesOn inGame).2]
        apply heard inGame
        exact fun other looks => ((right inGame fits).1 other looks).mp
    · rw [if_neg mine]
      have same : p ≠ id := by
        rintro rfl
        rw [entered_session, if_pos rfl] at session
        exact mine (Option.some.inj session).symm
      obtain ⟨there, session'⟩ := before same
      obtain ⟨begun, right⟩ := inStep.shown p there s' session'
      obtain ⟨pkts, hears, heard⟩ :=
        entered_others inStep.people login s' mine ⟨p, standing, session⟩
      rw [Function.update_of_ne same]
      have goesOn := fun inGame => hears.stream (now.2 p) begun inGame .empty
      refine ⟨(goesOn true).1, fun inGame fits => ?_⟩
      unfold World.screen
      rw [(goesOn inGame).2]
      obtain ⟨right, own⟩ := right inGame fits
      have other : (now.1.screen (now.2 p) inGame s').own ≠ some id := by
        rw [own]
        intro named
        exact mine (entered_alone inStep.people login s' (inStep.people.bound s' id named))
      obtain ⟨right', own'⟩ := heard inGame _ other right
      exact ⟨right', own'.trans own⟩

theorem supplied (inStep : InStep now) (routing : Routing) (rand : List Nat)
    (players : playerIds routing 0 = playerIds now.1.routing 0)
    (rooms : routing.playerRoom = now.1.routing.playerRoom)
    (sessions : routing.playerSession = now.1.routing.playerSession)
    (owners : routing.sessions = now.1.routing.sessions)
    (logins : routing.logins = now.1.routing.logins) :
    InStep ({ now.1 with routing, scene := { now.1.scene with rand } }, now.2) := by
  have drawn : now.1.Serves 0 { now.1 with scene := { now.1.scene with rand } } :=
    .of_mirrored inStep.people (.unchanged _ { now.1.scene with rand } rfl rfl rfl)
      (List.forall_mem_nil _)
  apply inStep.serve
  apply drawn.trans
  have same (s : SessionId) : (routing.sessions s).player = (now.1.routing.sessions s).player := by
    rw [owners]
  exact .of_whispers drawn.people .silent rfl players rooms sessions same logins

theorem job (inStep : InStep now) (job : Job) (remains : job.remains = true)
    (awaited : now.1.awaits 0 job = true)
    (shown : PotionShown data now.1 (.job now.1.scene.rand job)) :
    InStep (runJob data now.1 0 job,
      markEntry now.1 (.job now.1.scene.rand job) (runJob data now.1 0 job) now.2) := by
  have people := inStep.people
  have present (s : SessionId) (awaited : (now.1.routing.sessions s).player.any
      (· ∈ playerIds now.1.routing 0) = true) (id : ObjectId)
      (owner : (now.1.routing.sessions s).player = some id) : id ∈ playerIds now.1.routing 0 := by
    rw [owner] at awaited
    exact of_decide_eq_true awaited
  cases job with
  | move s pkt =>
      apply inStep.serve
      exact .of_mirrored people (handleCMove_mirrored (present s awaited) pkt _ _)
        (List.forall_mem_nil _)
  | turn s pkt =>
      apply inStep.serve
      exact .of_mirrored people (handleCTurn_mirrored (present s awaited) pkt _ _)
        (List.forall_mem_nil _)
  | attack s pkt => exact inStep.serve _ (.handleCAttack data people s pkt (present s awaited))
  | changeMap s pkt => cases remains
  | equipItem s slot =>
      apply inStep.serve
      apply World.Serves.itemJob people
      intro p
      obtain ⟨looks, untold⟩ := Player.equipItem_told data slot p
      exact ⟨congrArg Prod.fst (Player.equipItem_gait data slot p), looks, untold⟩
  | unequipItem s equipType =>
      apply inStep.serve
      apply World.Serves.itemJob people
      intro p
      obtain ⟨looks, untold⟩ := Player.unequipItem_told data equipType p
      exact ⟨congrArg Prod.fst (Player.unequipItem_gait data equipType p), looks, untold⟩
  | useItem s slot => exact inStep.used data s slot (present s awaited) shown
  | partyInvite s targetId =>
      apply inStep.serve
      apply World.Serves.party people (partyInvite_whispers _ _ _ _) (partyInvite_idGen ..)
      exact ⟨now.1.routing.parties, partyInvite_routing ..⟩
  | partyAnswer s inviterId accept =>
      apply inStep.serve
      apply World.Serves.party people (partyAnswer_whispers _ _ _ _ _) (partyAnswer_idGen ..)
      obtain ⟨parties, routing, -⟩ := partyAnswer_routing now.1 0 s inviterId accept
      exact ⟨parties, routing⟩
  | partyLeave s =>
      apply inStep.serve
      apply World.Serves.party people (partyLeave_whispers _ _ _) (partyLeave_idGen ..)
      obtain ⟨parties, routing, -⟩ := partyLeave_routing now.1 0 s
      exact ⟨parties, routing⟩
  | enterRoom s id =>
      apply inStep.entered s id
      obtain ⟨login, member, same⟩ := List.any_eq_true.mp awaited
      exact ⟨login, member, of_decide_eq_true same⟩
  | leaveRoom s => exact inStep.serve _ (.leaveRoom people [] s)

end InStep

theorem initFromConfig_roster (routing routing' : Routing) (r : RoomRef) (roomId : RoomName)
    (scene : Scene) (idGen : ObjectId) (taken : ObjectId → Prop)
    (nobody : playerIds routing r = []) (nobody' : playerIds routing' r = [])
    (roster : Scene.Roster routing r taken (scene, idGen)) :
    Scene.Roster routing' r taken (initFromConfig data routing r roomId scene idGen) := by
  have moved {a : Scene × ObjectId} (roster : Scene.Roster routing r taken a) :
      Scene.Roster routing' r taken a :=
    { roster with
      players := by
        intro id standing
        rw [nobody'] at standing
        cases standing }
  apply moved
  unfold initFromConfig
  cases data.roomConfig roomId with
  | none => exact roster
  | some config =>
      have field : (scene.setField r
          { scene.fields r with tilemap := config.tilemap, config := some config }).fields r =
            { scene.fields r with tilemap := config.tilemap, config := some config } :=
        Function.update_self ..
      have shaped : Scene.Roster routing r taken (scene.setField r
          { scene.fields r with tilemap := config.tilemap, config := some config }, idGen) := by
        apply roster.fewer (scene.setField r
          { scene.fields r with tilemap := config.tilemap, config := some config }) rfl
        · rw [field]
          exact List.Sublist.refl _
        · rw [field]
          exact roster.targets
      dsimp only
      cases data.spawnConfig roomId with
      | none => exact shaped
      | some spawnConfig =>
          dsimp only
          split
          · have housed : ∀ id ∈ playerIds routing r, routing.playerRoom id = some r := by
              rw [nobody]
              exact List.forall_mem_nil _
            have beats := Scene.Beats.foldl (spawnGroup data routing r) spawnConfig.spawns
              (scene.setField r
                { scene.fields r with tilemap := config.tilemap, config := some config }, idGen)
              fun made group _ => Scene.Beats.spawnGroup data routing r made group
            exact (beats_mirrored data housed beats (List.forall_mem_nil _) shaped).1
          · exact shaped

theorem InStep.vacant (w : World) (nobody : playerIds w.routing 0 = [])
    (logins : w.routing.logins = []) (sessions : ∀ s, (w.routing.sessions s).player = none)
    (linked : ∀ id, w.routing.playerSession id = none)
    (roster : Scene.Roster w.routing 0 (fun _ => False) (w.scene, w.idGen)) :
    InStep (w, fun _ => 0) where
  people :=
    { roster := by
        have nobodyLogged : w.routing.LoggedPlayer = fun _ => False := by
          funext id
          apply eq_false
          rintro ⟨login, member, -⟩
          rw [logins] at member
          cases member
        rw [nobodyLogged]
        exact roster
      housed := by
        rw [nobody]
        exact List.forall_mem_nil _
      entered := by
        rw [nobody]
        exact List.forall_mem_nil _
      bound := by
        intro s id owner
        rw [sessions] at owner
        cases owner
      logged := by
        intro s id session
        rw [linked] at session
        cases session
      single := by
        rw [logins]
        exact List.forall_mem_nil _ }
  shown := by
    dsimp only
    rw [nobody]
    exact List.forall_mem_nil _

theorem InStep.oneRoom (fieldId : FieldId) (channel : Int) (roomId : RoomName) (store : Store)
    (redisConnected : Bool) (rand : List Nat) :
    InStep (World.oneRoom data fieldId channel roomId store redisConnected rand, fun _ => 0) := by
  have bare (routing : Routing) (vacant : playerIds routing 0 = []) (scene : Scene)
      (field : scene.fields 0 = .empty) (players : scene.players = Player.create data) :
      Scene.Roster routing 0 (fun _ => False) (scene, 1) :=
    { own := by
        intro id
        dsimp only
        rw [players]
        rfl
      apart := by
        dsimp only
        rw [field]
        exact List.nodup_nil
      below := by
        dsimp only
        rw [field]
        exact List.forall_mem_nil _
      fresh := fun _ impossible => impossible.elim
      players := by
        rw [vacant]
        exact List.forall_mem_nil _
      targets := by
        dsimp only
        rw [field]
        exact List.forall_mem_nil _ }
  have nobody (room : Room) (vacant : room.players = []) :
      playerIds ((World.empty data store redisConnected rand).routing.addRoom room) 0 = [] := by
    have made :
        ((World.empty data store redisConnected rand).routing.addRoom room).rooms 0 = room := rfl
    unfold playerIds
    rw [made, vacant]
  cases fieldId with
  | town =>
      have empty := nobody (Room.create .town channel 0) rfl
      apply InStep.vacant _ empty rfl (fun _ => rfl) fun _ => rfl
      exact initFromConfig_roster data _ _ 0 roomId _ 1 _ empty empty (bare _ empty _ rfl rfl)
  | dungeon =>
      have empty :
          playerIds (World.empty data store redisConnected rand).routing.openDungeon 0 = [] :=
        nobody (Room.create .dungeon 0 1) rfl
      apply InStep.vacant _ empty rfl (fun _ => rfl) fun _ => rfl
      exact initFromConfig_roster data _ _ 0 .dungeonForest _ 1 _ empty empty
        (bare _ empty _ rfl rfl)

theorem InStep.roomStep (admits : Job → Bool)
    (remain : ∀ job, admits job = true → job.remains = true) (now after : World × Marks) (e : RoomEvent) (inStep : InStep now)
    (shown : PotionShown data now.1 e) (stepped : Room.play data admits now e = some after) :
    InStep after := by
  obtain ⟨moved, marked⟩ := Runs.observed_some markEntry now after e stepped
  obtain ⟨next, marks⟩ := after
  dsimp only at moved marked
  subst marked
  unfold World.roomStep at moved
  split at moved
  · cases moved
  · cases e with
    | login s username =>
        rw [← Option.some.inj moved]
        exact inStep.serve _ (.handleCLogin data inStep.people s username)
    | clock now' =>
        dsimp only at moved
        split at moved
        · rw [← Option.some.inj moved]
          apply inStep.serve
          exact .of_mirrored inStep.people
            (.unchanged _ { now.1.scene with now := now' } rfl rfl rfl) (List.forall_mem_nil _)
        · cases moved
    | step rand =>
        rw [← Option.some.inj moved]
        have ready := inStep.supplied now.1.routing rand rfl rfl rfl rfl rfl
        exact ready.serve _ (.gameStep data ready.people)
    | job rand job =>
        dsimp only at moved
        split at moved
        case isFalse => cases moved
        case isTrue admitted =>
          rw [Bool.and_eq_true] at admitted
          rw [← Option.some.inj moved]
          have players : playerIds (now.1.routing.takeJob 0 job) 0 = playerIds now.1.routing 0 := by
            unfold playerIds Routing.takeJob
            rw [Routing.rooms_setRoom, if_pos rfl]
          have ready := inStep.supplied (now.1.routing.takeJob 0 job) rand players rfl rfl rfl rfl
          have awaited : World.awaits
              { now.1 with
                routing := now.1.routing.takeJob 0 job
                scene := { now.1.scene with rand } } 0 job = true := by
            rw [← admitted.2]
            cases job <;> rfl
          have shown' : PotionShown data
              { now.1 with
                routing := now.1.routing.takeJob 0 job
                scene := { now.1.scene with rand } } (.job rand job) := by
            cases job with
            | useItem s slot =>
                intro id owner heals other there
                rw [players] at there
                exact shown id owner heals other there
            | _ => trivial
          have done := ready.job data job (remain job admitted.1) awaited shown'
          cases job <;> exact done

def Looks.place (looks : Looks) : Place := ⟨looks.posX, looks.posY, looks.dir⟩

namespace Screen

def places (screen : Screen) : Places := fun id => (screen.looks id).map Looks.place

theorem put_places (screen : Screen) (id : ObjectId) (looks : Option Looks) :
    (screen.put id looks).places = Function.update screen.places id (looks.map Looks.place) := by
  funext other
  unfold places
  rw [put_looks, Function.update_apply]
  split <;> rfl

theorem alter_places (screen : Screen) (id : ObjectId) (f : Looks → Looks)
    (still : ∀ looks, (f looks).place = looks.place) :
    (screen.alter id f).places = screen.places := by
  unfold alter
  rw [put_places, Option.map_map]
  have same : (screen.looks id).map (Looks.place ∘ f) = screen.places id := by
    unfold places
    cases screen.looks id with
    | none => rfl
    | some looks => exact congrArg some (still looks)
  rw [same, Function.update_eq_self]

theorem move_places (screen : Screen) (info : ObjectInfo) :
    (screen.alter info.objectId (Looks.at info)).places = screen.places.overwrite info := by
  unfold alter Places.overwrite
  rw [put_places]
  cases known : screen.looks info.objectId with
  | none =>
      have absent : screen.places info.objectId = none := by
        unfold places
        rw [known]
        rfl
      rw [absent]
      dsimp only [Option.map_none]
      rw [← absent, Function.update_eq_self]
  | some looks =>
      have present : screen.places info.objectId = some looks.place := by
        unfold places
        rw [known]
        rfl
      rw [present]
      rfl

theorem hear_places (screen : Screen) (pkt : ServerPacket) :
    (screen.hear false pkt).places = screen.places.hear pkt := by
  have added (info : ObjectInfo) (screen : Screen) :
      screen.places.insert info = (screen.add false info).places := by
    unfold add
    rw [if_neg (by simp), put_places]
    rfl
  have removed (id : ObjectId) (screen : Screen) :
      screen.places.erase id = (screen.remove false id).places := by
    unfold remove
    rw [put_places]
    rfl
  cases pkt with
  | myPlayer info => exact put_places screen info.objectId (some info.looks)
  | addObject pkt => exact (List.foldl_hom places fun screen info => (added info screen)).symm
  | removeObject ids => exact (List.foldl_hom places fun screen id => (removed id screen)).symm
  | move info => exact move_places screen info
  | turn info => exact move_places screen info
  | damaged attackerId targetId newHp damage =>
      exact alter_places screen targetId _ fun _ => rfl
  | levelUp id level maxHp attack defence maxExp => exact alter_places screen id _ fun _ => rfl
  | useItem equipType remainCount newHp =>
      unfold hear
      dsimp only
      cases screen.own with
      | none => rfl
      | some id => exact alter_places screen id _ fun _ => rfl
  | _ => rfl

def client (screen : Screen) : Client :=
  ⟨screen.own, fun id => (screen.looks id).map fun looks => (looks.hp, looks.maxHp)⟩

theorem put_client (screen : Screen) (id : ObjectId) (looks : Option Looks) :
    (screen.put id looks).client =
      screen.client.set id (looks.map fun looks => (looks.hp, looks.maxHp)) := by
  have health (other : ObjectId) : (screen.put id looks).client.health other =
      (screen.client.set id (looks.map fun looks => (looks.hp, looks.maxHp))).health other := by
    unfold client Client.set
    dsimp only
    rw [put_looks, Function.update_apply]
    split <;> rfl
  exact congrArg (Client.mk screen.own) (funext health)

theorem alter_client (screen : Screen) (id : ObjectId) (f : Looks → Looks)
    (g : Int × Int → Int × Int)
    (same : ∀ looks, ((f looks).hp, (f looks).maxHp) = g (looks.hp, looks.maxHp)) :
    (screen.alter id f).client = screen.client.change id g := by
  unfold alter Client.change
  rw [put_client]
  congr 1
  unfold client
  dsimp only
  cases screen.looks id with
  | none => rfl
  | some looks => exact congrArg some (same looks)

theorem move_client (screen : Screen) (info : ObjectInfo) :
    (screen.alter info.objectId (Looks.at info)).client = screen.client := by
  rw [alter_client screen info.objectId (Looks.at info) (fun health => health) fun _ => rfl]
  unfold Client.change Client.set
  rw [Option.map_id', Function.update_eq_self]

theorem hear_client (screen : Screen) (pkt : ServerPacket) :
    (screen.hear true pkt).client = screen.client.hear pkt := by
  have added (info : ObjectInfo) (screen : Screen) :
      screen.client.add info = (screen.add true info).client := by
    by_cases own : screen.own = some info.objectId
    · have passed : screen.add true info = screen := if_pos ⟨rfl, own⟩
      rw [passed]
      exact if_pos own
    · have put : screen.add true info = screen.put info.objectId (some info.looks) :=
        if_neg fun both => own both.2
      rw [put, put_client]
      exact if_neg own
  have removed (id : ObjectId) (screen : Screen) :
      screen.client.remove id = (screen.remove true id).client := by
    unfold remove
    rw [put_client]
    rfl
  cases pkt with
  | myPlayer info =>
      have put := congrArg Client.health (put_client screen info.objectId (some info.looks))
      exact congrArg (Client.mk (some info.objectId)) put
  | addObject pkt => exact (List.foldl_hom client fun screen info => (added info screen)).symm
  | removeObject ids => exact (List.foldl_hom client fun screen id => (removed id screen)).symm
  | move info => exact move_client screen info
  | turn info => exact move_client screen info
  | damaged attackerId targetId newHp damage =>
      exact alter_client screen targetId _ _ fun _ => rfl
  | levelUp id level maxHp attack defence maxExp => exact alter_client screen id _ _ fun _ => rfl
  | useItem equipType remainCount newHp =>
      unfold hear Client.hear
      dsimp only
      have own : screen.client.own = screen.own := rfl
      rw [own]
      cases screen.own with
      | none => rfl
      | some id => exact alter_client screen id _ _ fun _ => rfl
  | _ => rfl

end Screen

theorem stream_session (now : World × Marks) (p : ObjectId) (s : SessionId)
    (session : now.1.routing.playerSession p = some s) :
    stream now p = heardBy s (now.1.scene.sent.drop (now.2 p)) := by
  unfold stream
  rw [session]

namespace InStep

variable {now : World × Marks}

theorem replicated (inStep : InStep now) : Replicated now := by
  intro p standing id place
  obtain ⟨s, own, session, -⟩ := inStep.people.entered p standing
  have right := ((inStep.shown p standing s session).2 false fun game => by cases game).1
  have folded : (stream now p).foldl Places.hear (fun _ => none) =
      (now.1.screen (now.2 p) false s).places := by
    have begins : (fun _ => none : Places) = Screen.empty.places := rfl
    rw [stream_session now p s session, begins]
    exact List.foldl_hom Screen.places fun screen pkt => (Screen.hear_places screen pkt).symm
  rw [folded]
  have roster := inStep.people.roster
  constructor
  · intro held
    obtain ⟨looks, known, same⟩ := Option.map_eq_some_iff.mp held
    unfold enterRoomObjects
    dsimp only
    rcases (right id looks).mp known with
      ⟨there, rfl⟩ | ⟨m, member, named, rfl⟩ | ⟨arrow, flies, named, rfl⟩
    · refine ⟨_, List.mem_append_left _ (List.mem_append_left _ ?_), roster.own id, same⟩
      exact List.mem_map_of_mem there
    · refine ⟨m.info, List.mem_append_left _ (List.mem_append_right _ ?_), named, same⟩
      exact List.mem_map_of_mem member
    · exact ⟨arrow.info, List.mem_append_right _ (List.mem_map_of_mem flies), named, same⟩
  · rintro ⟨info, listed, named, same⟩
    apply Option.map_eq_some_iff.mpr
    refine ⟨info.looks, (right id info.looks).mpr ?_, same⟩
    rcases List.mem_append.mp listed with creature | projectile
    · rcases List.mem_append.mp creature with player | monster
      · obtain ⟨other, there, rfl⟩ := List.mem_map.mp player
        have here : other = id := (roster.own other).symm.trans named
        exact .inl ⟨here ▸ there, by rw [here]⟩
      · obtain ⟨m, member, rfl⟩ := List.mem_map.mp monster
        exact .inr (.inl ⟨m, member, named, rfl⟩)
    · obtain ⟨arrow, flies, rfl⟩ := List.mem_map.mp projectile
      exact .inr (.inr ⟨arrow, flies, named, rfl⟩)

theorem trueHealth (inStep : InStep now) (few : now.1.idGen ≤ Screen.idLimit) :
    TrueHealth now := by
  intro p standing info creature
  obtain ⟨s, own, session, -⟩ := inStep.people.entered p standing
  have right := ((inStep.shown p standing s session).2 true fun _ => few).1
  have folded : (stream now p).foldl Client.hear .empty =
      (now.1.screen (now.2 p) true s).client := by
    have begins : Client.empty = Screen.empty.client := rfl
    rw [stream_session now p s session, begins]
    exact List.foldl_hom Screen.client fun screen pkt => (Screen.hear_client screen pkt).symm
  rw [folded]
  have known : (now.1.screen (now.2 p) true s).looks info.objectId = some info.looks := by
    apply (right info.objectId info.looks).mpr
    rcases List.mem_append.mp creature with player | monster
    · obtain ⟨other, there, rfl⟩ := List.mem_map.mp player
      rw [inStep.people.roster.own other]
      exact .inl ⟨there, rfl⟩
    · obtain ⟨m, member, rfl⟩ := List.mem_map.mp monster
      exact .inr (.inl ⟨m, member, rfl, rfl⟩)
  exact congrArg (Option.map fun looks : Looks => (looks.hp, looks.maxHp)) known

end InStep

section Runs

variable (fieldId : FieldId) (channel : Int) (roomId : RoomName) (store : Store)
  (redisConnected : Bool) (rand : List Nat)

theorem roomStep_admits (admits : Job → Bool) (w next : World) (rand : List Nat) (job : Job)
    (stepped : World.roomStep data admits w (.job rand job) = some next) : admits job = true := by
  unfold World.roomStep at stepped
  split at stepped
  · cases stepped
  · dsimp only at stepped
    split at stepped
    case isTrue admitted => exact (Bool.and_eq_true_iff.mp admitted).1
    case isFalse => cases stepped

/-- In a room where players enter, leave, walk and fight, the packets sent to a player's
session tell where everything is, after every job and every step. -/
theorem room_replicated (events : List RoomEvent) :
    Runs.EveryState (Room.play data Job.walks) Replicated
      (World.oneRoom data fieldId channel roomId store redisConnected rand, fun _ => 0) events := by
  have remain (job : Job) (walks : job.walks = true) : job.remains = true := by
    cases job <;> first | rfl | cases walks
  apply Runs.everyState_invariant (fun _ _ => True) InStep Replicated
  · exact fun now inStep => inStep.replicated
  · intro now e after inStep _ stepped
    refine inStep.roomStep data Job.walks remain now after e ?_ stepped
    cases e with
    | job rand job =>
        have walks := roomStep_admits data Job.walks now.1 after.1 rand job
          (Runs.observed_some markEntry now after _ stepped).1
        cases job with
        | useItem s slot => cases walks
        | _ => trivial
    | _ => trivial
  · exact .oneRoom data fieldId channel roomId store redisConnected rand
  · exact Runs.eachStep_true _ events

/-- Where every potion that heals is drunk by a player with no other session in the room,
all clients hold the true hp of all creatures, while the ids fit into an `int32`. -/
theorem clients_see_true_hp (events : List RoomEvent) (final : World × Marks)
    (shown : Runs.EachStep (Room.play data Job.remains) (fun now => PotionShown data now.1)
      (World.oneRoom data fieldId channel roomId store redisConnected rand, fun _ => 0) events)
    (reached : Runs.run (Room.play data Job.remains)
      (World.oneRoom data fieldId channel roomId store redisConnected rand, fun _ => 0) events =
        some final)
    (few : final.1.idGen ≤ Screen.idLimit) : TrueHealth final := by
  have inStep := Runs.run_invariant (fun now => PotionShown data now.1) InStep
    (fun now e after inStep shown stepped =>
      inStep.roomStep data Job.remains (fun _ remains => remains) now after e shown stepped)
    _ final events (.oneRoom data fieldId channel roomId store redisConnected rand) shown reached
  exact inStep.trueHealth few

end Runs

/-- Player 1 was saved with 50 of its 100 hp and a potion that heals 30. -/
def clinicGame : GameData :=
  { smallGame with
    itemTemplate := fun itemId => if itemId = 3 then some ⟨.consumable, 30, 10⟩ else none }

def clinicStore : Store :=
  { newStore with
    accounts := [([97], 1)]
    accountIdGen := 2
    rows := fun account =>
      if account = 1 then some ⟨[97], 1, 0, 50, fun _ => .empty, .empty, .empty, ⟨3, 1⟩⟩
      else none }

def clinic : World × Marks :=
  (World.oneRoom clinicGame .town 1 .town1 clinicStore true [], fun _ => 0)

/-- Player 2 strikes player 1, who has taken a step. -/
def duel : List RoomEvent :=
  [.login 1 [97], .login 2 [98], .job [] (.enterRoom 1 1), .job [] (.enterRoom 2 2),
    .job [] (.move 1 ⟨Dir.up⟩), .job [] (.attack 2 ⟨Dir.up, WeaponType.sword⟩)]

/-- Player 1 drinks when player 2 has left. -/
def drinksAlone : List RoomEvent := duel ++ [.job [] (.leaveRoom 2), .job [] (.useItem 1 (-1))]

/-- `PotionShown`, whatever the potion does. -/
def potionAlone (now : World × Marks) : RoomEvent → Bool
  | .job _ (.useItem s _) =>
      (playerIds now.1.routing 0).all (now.1.routing.playerSession · = some s)
  | _ => true

theorem potionAlone_shown (now : World × Marks) (e : RoomEvent)
    (checked : potionAlone now e = true) : PotionShown data now.1 e := by
  cases e with
  | job rand job =>
      cases job with
      | useItem s slot =>
          intro id _ _ other there
          exact of_decide_eq_true (List.all_eq_true.mp checked other there)
      | _ => trivial
  | _ => trivial

set_option maxRecDepth 20000 in
theorem drinks_alone_seen :
    ∃ final, Runs.run (Room.play clinicGame Job.remains) clinic drinksAlone = some final ∧
      TrueHealth final ∧ (final.1.scene.players 1).info.hp = 65 := by
  have ends : (Runs.run (Room.play clinicGame Job.remains) clinic drinksAlone).any
      (fun final => final.1.idGen = 3 ∧ (final.1.scene.players 1).info.hp = 65) = true := by
    decide +kernel
  obtain ⟨final, reached, last⟩ := (Option.any_eq_true _ _).mp ends
  obtain ⟨idGen, hp⟩ := of_decide_eq_true last
  refine ⟨final, reached, ?_, hp⟩
  apply clients_see_true_hp clinicGame .town 1 .town1 clinicStore true [] drinksAlone final _
    reached
  · rw [idGen]
    decide
  · apply Runs.eachStep_of_check potionAlone
    · exact potionAlone_shown clinicGame
    · decide +kernel

set_option maxRecDepth 20000 in
/-- Player 2 stays, and goes on to see the hp that its blow left. -/
theorem potion_unseen :
    ∃ final, Runs.run (Room.play clinicGame Job.remains) clinic
        (duel ++ [.job [] (.useItem 1 (-1))]) = some final ∧ ¬ TrueHealth final := by
  have ends : (Runs.run (Room.play clinicGame Job.remains) clinic
      (duel ++ [.job [] (.useItem 1 (-1))])).any (fun final =>
        (final.1.scene.players 1).info.hp = 65 ∧ (final.1.scene.players 1).info.objectId = 1 ∧
          playerIds final.1.routing 0 = [1, 2] ∧
          ((stream final 2).foldl Client.hear .empty).health 1 = some (35, 100)) = true := by
    decide +kernel
  obtain ⟨final, reached, last⟩ := (Option.any_eq_true _ _).mp ends
  obtain ⟨hp, named, players, held⟩ := of_decide_eq_true last
  refine ⟨final, reached, fun claimed => ?_⟩
  have there : (2 : ObjectId) ∈ playerIds final.1.routing 0 := by
    rw [players]
    decide
  have creature : (final.1.scene.players 1).info ∈ final.1.creatures 0 := by
    unfold World.creatures
    rw [players]
    exact List.mem_append_left _ List.mem_cons_self
  have told := claimed 2 there _ creature
  rw [named, held] at told
  have same : (35 : Int) = 65 := (congrArg Prod.fst (Option.some.inj told)).trans hp
  exact absurd same (by decide)

end ZeldaServer
