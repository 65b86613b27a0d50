import ZeldaServer.World.Beats
import ZeldaServer.World.Kills

/-! A server that started without Redis. The login, the disconnect and the ranking ask for
the connection first; a level-up does not. -/

namespace ZeldaServer

open Chains (Chain)

variable (data : GameData)

structure RankingEntry where
  playerName : Bytes
  level : Int
  deriving DecidableEq

/-- `GRedisClient.Get()` and a command that only reads. -/
def Scene.redisQuery (scene : Scene) : Scene :=
  if scene.redisConnected then scene else scene.fail .redisDown

/-- `Handle_C_GetRanking`: the entries of the `S_Ranking` it sends, for a reply of Redis. -/
def handleCGetRanking (reply : List RankingEntry) (scene : Scene) : List RankingEntry × Scene :=
  if scene.redisConnected then (reply, scene.redisQuery) else ([], scene)

structure Server where
  world : World
  rankings : List (SessionId × List RankingEntry)

inductive ServerEvent where
  | game (event : Event)
  | getRanking (session : SessionId) (reply : List RankingEntry)
  deriving DecidableEq

def Server.step (server : Server) (e : ServerEvent) : Option Server :=
  if server.world.scene.fault ≠ none then none
  else
    match e with
    | .game event => (server.world.act data event).map fun world => { server with world }
    | .getRanking s reply =>
        if (server.world.routing.sessions s).connection = .connected then
          let made := handleCGetRanking reply server.world.scene
          some
            { world := { server.world with scene := made.2 }
              rankings := server.rankings ++ [(s, made.1)] }
        else none

/-- `RedisClient::Connect` has failed. -/
def Server.start (store : Store) (rand : List Nat) : Server :=
  ⟨World.init data store false rand, []⟩

def Server.Spared (server : Server) : Prop := server.world.scene.fault ≠ some .redisDown

def credit (id : ObjectId) (granted : List (ObjectId × Int)) : Nat :=
  ((granted.filter (·.1 = id)).map (·.2.toNat)).sum

/-- With so much exp more, the player stays below what its level requires. -/
def Player.Short (p : Player) (exp : Nat) : Prop :=
  maxLevel ≤ p.level ∨ maxExp data p.level ≤ 0 ∨ p.exp + exp < maxExp data p.level

instance (p : Player) (exp : Nat) : Decidable (p.Short data exp) :=
  inferInstanceAs (Decidable (_ ∨ _ ∨ _))

def NoLevelUp (server : Server) : ServerEvent → Prop
  | .game event =>
      let granted := rewards data (server.world.calls data event)
      ∀ grant ∈ granted,
        (server.world.scene.players grant.1).Short data (credit grant.1 granted)
  | .getRanking _ _ => True

theorem credit_append (id : ObjectId) (front back : List (ObjectId × Int)) :
    credit id (front ++ back) = credit id front + credit id back := by
  unfold credit
  rw [List.filter_append, List.map_append, List.sum_append]

theorem credit_single (id other : ObjectId) (share : Int) :
    credit id [(other, share)] = if other = id then share.toNat else 0 := by
  unfold credit
  by_cases same : other = id
  · rw [if_pos same, List.filter_cons_of_pos (by simpa using same)]
    rfl
  · rw [if_neg same, List.filter_cons_of_neg (by simpa using same)]
    rfl

namespace Player

theorem Short.part {p : Player} {first rest : Nat} (short : p.Short data (first + rest)) :
    p.Short data first := by
  unfold Short at short ⊢
  omega

theorem gainExp_short (p : Player) (share : Int) (short : p.Short data share.toNat) :
    (gainExp data share p).1.level = p.level ∧
      (gainExp data share p).1.exp ≤ p.exp + share.toNat ∧
      ∀ emission ∈ (gainExp data share p).2, ∃ pkt, emission = .session pkt := by
  unfold gainExp
  split
  · exact ⟨rfl, by dsimp only; omega, List.forall_mem_nil _⟩
  · split
    · exact ⟨rfl, by dsimp only; omega, List.forall_mem_nil _⟩
    · have stays (passes : Nat) : levelUps data passes { p with exp := p.exp + share } =
          ({ p with exp := p.exp + share }, []) := by
        cases passes with
        | zero => rfl
        | succ passes =>
            unfold levelUps
            dsimp only
            split
            · rw [if_pos]
              unfold Short maxLevel at short
              omega
            · rfl
      rw [stays]
      refine ⟨rfl, by dsimp only; omega, ?_⟩
      dsimp only
      rw [List.nil_append]
      exact List.forall_mem_singleton.mpr ⟨_, rfl⟩

end Player

/-- The connection is what it was; where there is none, no command is given. -/
structure Scene.Offline (a b : Scene) : Prop where
  connected : b.redisConnected = a.redisConnected
  spared : a.redisConnected = false → b.fault = some .redisDown → a.fault = some .redisDown

namespace Scene.Offline

theorem of_same {a b : Scene} (connected : b.redisConnected = a.redisConnected)
    (fault : b.fault = a.fault) : a.Offline b := ⟨connected, fun _ down => fault ▸ down⟩

theorem refl (scene : Scene) : scene.Offline scene := of_same rfl rfl

theorem trans {a b c : Scene} (first : a.Offline b) (second : b.Offline c) : a.Offline c where
  connected := second.connected.trans first.connected
  spared := fun offline down =>
    first.spared offline (second.spared (first.connected.trans offline) down)

theorem fail (scene : Scene) (fault : Fault) (other : fault ≠ .redisDown) :
    scene.Offline (scene.fail fault) where
  connected := rfl
  spared := by
    intro _ down
    unfold Scene.fail at down
    cases before : scene.fault with
    | none =>
        rw [before] at down
        exact absurd (Option.some.inj down) other
    | some fault' =>
        rw [before] at down
        exact down

theorem foldl {Item : Type} (f : Scene → Item → Scene) (items : List Item) (scene : Scene)
    (step : ∀ (scene : Scene), ∀ item ∈ items, scene.Offline (f scene item)) :
    scene.Offline (items.foldl f scene) := by
  induction items generalizing scene with
  | nil => exact refl scene
  | cons head tail ih =>
      apply (step scene head List.mem_cons_self).trans
      apply ih
      intro scene item later
      exact step scene item (List.mem_cons_of_mem head later)

theorem broadcast (routing : Routing) (r : RoomRef) (pkt : ServerPacket) (scene : Scene) :
    scene.Offline (broadcast routing r pkt scene) := by
  apply foldl
  intro scene id _
  cases routing.playerSession id with
  | none => exact fail scene .nullPointer (by decide)
  | some s => exact of_same rfl rfl

theorem sendToPlayer (routing : Routing) (id : ObjectId) (pkt : ServerPacket) (scene : Scene) :
    scene.Offline (sendToPlayer routing id pkt scene) := by
  unfold ZeldaServer.sendToPlayer
  cases routing.playerSession id with
  | none => exact refl scene
  | some s => exact of_same rfl rfl

theorem emissions (routing : Routing) (id : ObjectId) (emissions : List Emission) (scene : Scene)
    (unranked : ∀ emission ∈ emissions, ∀ name level, emission ≠ .rank name level) :
    scene.Offline (emissions.foldl (emit routing id) scene) := by
  apply foldl
  intro scene emission member
  cases emission with
  | session pkt => exact sendToPlayer routing id pkt scene
  | room pkt =>
      unfold emit
      cases routing.playerRoom id with
      | none => exact refl scene
      | some r => exact broadcast routing r pkt scene
  | rank name level => exact absurd rfl (unranked _ member name level)

theorem actPlayer (routing : Routing) (id : ObjectId) (method : Player → Player × List Emission)
    (scene : Scene)
    (unranked : ∀ emission ∈ (method (scene.players id)).2, ∀ name level,
      emission ≠ .rank name level) :
    scene.Offline (actPlayer routing id method scene) :=
  (of_same rfl rfl : scene.Offline (scene.setPlayer id (method (scene.players id)).1)).trans
    (emissions routing id _ _ unranked)

end Scene.Offline

theorem Scene.Whispers.offline {a b : Scene} (whispers : a.Whispers b) : a.Offline b := by
  induction whispers with
  | silent => exact .refl a
  | told b _ s pkt _ ih => exact ih.trans (.of_same rfl rfl)
  | failed b _ fault other ih => exact ih.trans (.fail b fault other)

/-- What the calls of `GainExp` among the beats mean without Redis: as long as they leave
those they reward short of the next level, levels stay and no command is given. -/
def Scene.Earns (a : Scene × ObjectId) (granted : List (ObjectId × Int)) (b : Scene × ObjectId) :
    Prop :=
  (∀ grant ∈ granted, (a.1.players grant.1).Short data (credit grant.1 granted)) →
    a.1.Offline b.1 ∧ ∀ id, (b.1.players id).level = (a.1.players id).level ∧
      (b.1.players id).exp ≤ (a.1.players id).exp + credit id granted

namespace Scene.Earns

variable {data}

theorem of_offline {a b : Scene × ObjectId} (offline : a.1.Offline b.1)
    (progress : ∀ id, (b.1.players id).progress = (a.1.players id).progress) :
    Scene.Earns data a [] b := by
  intro _
  refine ⟨offline, fun id => ⟨congrArg Prod.fst (progress id), ?_⟩⟩
  have exp : (b.1.players id).exp = (a.1.players id).exp := congrArg Prod.snd (progress id)
  exact le_of_eq (exp.trans (Int.add_zero _).symm)

theorem refl (a : Scene × ObjectId) : Scene.Earns data a [] a := of_offline (.refl a.1) fun _ => rfl

theorem trans {a b c : Scene × ObjectId} {front back : List (ObjectId × Int)}
    (first : Scene.Earns data a front b) (second : Scene.Earns data b back c) :
    Scene.Earns data a (front ++ back) c := by
  intro short
  have split (id : ObjectId) (among : ∃ grant ∈ front ++ back, grant.1 = id) :
      (a.1.players id).Short data (credit id front + credit id back) := by
    obtain ⟨grant, member, rfl⟩ := among
    rw [← credit_append]
    exact short grant member
  obtain ⟨offline, middle⟩ := first fun grant member =>
    (split grant.1 ⟨grant, List.mem_append_left _ member, rfl⟩).part
  obtain ⟨offline', final⟩ := second fun grant member => by
    have before := split grant.1 ⟨grant, List.mem_append_right _ member, rfl⟩
    obtain ⟨level, exp⟩ := middle grant.1
    unfold Player.Short at before ⊢
    rw [level]
    omega
  refine ⟨offline.trans offline', fun id => ?_⟩
  obtain ⟨level, exp⟩ := middle id
  obtain ⟨level', exp'⟩ := final id
  rw [credit_append]
  exact ⟨level'.trans level, by omega⟩

end Scene.Earns

section Room

variable (routing : Routing) (r : RoomRef)

theorem told_earns (a : Scene × ObjectId) (b : Scene) (g : ObjectId) (pkt : ServerPacket)
    (offline : a.1.Offline b)
    (progress : ∀ id, (b.players id).progress = (a.1.players id).progress) :
    Scene.Earns data a [] (broadcast routing r pkt b, g) := by
  apply Scene.Earns.of_offline
  · exact offline.trans (.broadcast routing r pkt b)
  · intro id
    rw [(Scene.SameObjects.broadcast routing r pkt b).players]
    exact progress id

theorem onDamaged_progress (p : Player) (damage : Int) :
    (p.onDamaged damage).progress = p.progress := rfl

theorem acted_earns (a : Scene × ObjectId) (id : ObjectId)
    (method : Player → Player × List Emission)
    (progress : (method (a.1.players id)).1.progress = (a.1.players id).progress)
    (unranked : ∀ emission ∈ (method (a.1.players id)).2, ∀ name level,
      emission ≠ .rank name level) :
    Scene.Earns data a [] (actPlayer routing id method a.1, a.2) := by
  apply Scene.Earns.of_offline
  · exact .actPlayer routing id method a.1 unranked
  · intro other
    dsimp only
    rw [actPlayer_sets]
    exact setPlayer_same Player.progress a.1 id _ progress other

theorem beat_earns (a b : Scene × ObjectId) (granted : List (ObjectId × Int))
    (beat : Scene.Beat data routing r a granted b) : Scene.Earns data a granted b := by
  cases beat with
  | failed fault other => exact .of_offline (.fail a.1 fault other) fun _ => rfl
  | drew rand => exact .of_offline (.of_same rfl rfl) fun _ => rfl
  | struck attacker pkt => exact told_earns data routing r a a.1 a.2 _ (.refl a.1) fun _ => rfl
  | gained id share worth =>
      intro short
      have short := short (id, share) List.mem_cons_self
      rw [credit_single, if_pos rfl] at short
      obtain ⟨level, exp, private_told⟩ := Player.gainExp_short data _ share short
      constructor
      · apply Scene.Offline.actPlayer
        intro emission member name level
        obtain ⟨pkt, rfl⟩ := private_told emission member
        simp
      · intro other
        dsimp only
        rw [actPlayer_sets, credit_single]
        by_cases here : other = id
        · subst here
          rw [if_pos rfl]
          simp only [Scene.setPlayer, Function.update_self]
          exact ⟨level, exp⟩
        · rw [if_neg (Ne.symm here)]
          simp [Scene.setPlayer, here]
  | looted id itemId =>
      obtain ⟨-, progress, told⟩ := Player.addItem_told data itemId 1 (a.1.players id)
      apply acted_earns data routing a id _ progress
      intro emission member name level
      obtain ⟨pkt, -, rfl⟩ := told emission member
      simp
  | ticked id member =>
      obtain ⟨-, progress, told⟩ := Player.update_told a.1.now (a.1.players id)
      apply acted_earns data routing a id _ progress
      intro emission member name level
      rw [told emission member]
      simp
  | hurt attacker id damage aimed =>
      apply told_earns data routing r a (a.1.hurtPlayer id damage) a.2 _ (.of_same rfl rfl)
      exact setPlayer_same Player.progress a.1 id _ (onDamaged_progress _ damage)
  | kept m m' member follows looks => exact .of_offline (.of_same rfl rfl) fun _ => rfl
  | moved m m' member follows health =>
      exact told_earns data routing r a _ a.2 _ (.of_same rfl rfl) fun _ => rfl
  | hit attacker damage m member =>
      exact told_earns data routing r a _ a.2 _ (.of_same rfl rfl) fun _ => rfl
  | removed m member =>
      exact told_earns data routing r a _ a.2 _ (.of_same rfl rfl) fun _ => rfl
  | arrowKept arrow arrow' member info => exact .of_offline (.of_same rfl rfl) fun _ => rfl
  | arrowMoved arrow arrow' info member named looks health =>
      exact told_earns data routing r a _ a.2 _ (.of_same rfl rfl) fun _ => rfl
  | echoed arrow member => exact told_earns data routing r a a.1 a.2 _ (.refl a.1) fun _ => rfl
  | arrowRemoved arrow member =>
      exact told_earns data routing r a _ a.2 _ (.of_same rfl rfl) fun _ => rfl
  | queued respawnQueue => exact .of_offline (.of_same rfl rfl) fun _ => rfl
  | born m named fresh =>
      exact told_earns data routing r a _ _ _ (.of_same rfl rfl) fun _ => rfl
  | fired arrow named => exact told_earns data routing r a _ _ _ (.of_same rfl rfl) fun _ => rfl

theorem beats_earn {a b : Scene × ObjectId} {granted : List (ObjectId × Int)}
    (beats : Scene.Beats data routing r a granted b) : Scene.Earns data a granted b := by
  apply beats.relates (Scene.Earns data) Scene.Earns.refl
  intro a middle b first rest now later
  exact (beat_earns data routing r a middle first now).trans later

end Room

theorem enterRoom_offline (w : World) (r : RoomRef) (s : SessionId) (id : ObjectId) :
    w.scene.Offline (w.enterRoom r s id).scene := by
  unfold World.enterRoom
  dsimp only
  apply Scene.Offline.trans _ (enterRoomParty_whispers _ r id).offline
  apply Scene.Offline.trans _ (Scene.Offline.broadcast _ r _ _)
  have greeted : w.scene.Offline
      ((w.scene.setPlayer id (w.scene.players id).atEntrance).send s
        (.myPlayer (w.scene.players id).atEntrance.info)) := .of_same rfl rfl
  have stocked := Scene.Offline.emissions (w.routing.bind r s id) id
    (w.scene.players id).atEntrance.sendInventoryData
    ((w.scene.setPlayer id (w.scene.players id).atEntrance).send s
      (.myPlayer (w.scene.players id).atEntrance.info)) (by
        intro emission member name level
        rw [List.mem_singleton.mp member]
        simp)
  exact (greeted.trans stocked).trans (.of_same rfl rfl)

theorem leaveRoom_offline (w : World) (held : List ObjectId) (r : RoomRef) (s : SessionId) :
    w.scene.Offline (w.leaveRoom held r s).scene := by
  unfold World.leaveRoom
  cases lockPlayer w.routing w.scene held s with
  | none => exact .refl _
  | some id =>
      simp only [World.removeObject]
      split
      · exact Scene.Offline.broadcast (w.routing.erasePlayer r id) r _ w.scene
      · exact .refl _

theorem moveOver_offline (w : World) (held : List ObjectId) (source dest : RoomRef)
    (pkt : CChangeMap) (instanceId : InstanceId) (s : SessionId) (player : ObjectId) :
    w.scene.Offline (w.moveOver held source dest pkt instanceId s player).scene := by
  have left := leaveRoom_offline (w.sendTo s (.changeMap true pkt.mapId pkt.channel instanceId))
    held source s
  have sent : w.scene.Offline
      (w.sendTo s (.changeMap true pkt.mapId pkt.channel instanceId)).scene := .of_same rfl rfl
  exact sent.trans left

theorem changeMapTo_offline (w : World) (source dest : RoomRef) (s : SessionId)
    (requester : ObjectId) (pkt : CChangeMap) (instanceId : InstanceId) :
    w.scene.Offline (w.changeMapTo source dest s requester pkt instanceId).scene := by
  have moveAll (held : List ObjectId) (toMove : List (SessionId × ObjectId)) (v : World) :
      v.scene.Offline (toMove.foldl (fun w member =>
        w.moveOver held source dest pkt instanceId member.1 member.2) v).scene := by
    induction toMove generalizing v with
    | nil => exact .refl _
    | cons head tail ih =>
        exact (moveOver_offline v held source dest pkt instanceId _ _).trans (ih _)
  unfold World.changeMapTo
  dsimp only
  split
  · exact moveAll _ _ w
  · exact moveOver_offline w _ source dest pkt instanceId s requester

theorem initFromConfig_offline (routing : Routing) (r : RoomRef) (roomId : RoomName)
    (scene : Scene) (idGen : ObjectId) :
    scene.Offline (initFromConfig data routing r roomId scene idGen).1 := by
  have spawning : Scene.Spawning routing r Scene.Offline :=
    { refl := .refl
      trans := .trans
      draw := fun scene => by
        unfold Scene.draw
        split
        · exact .fail scene .unfinished (by decide)
        · exact .of_same rfl rfl
      fail := .fail
      field := fun _ _ => .of_same rfl rfl
      told := fun scene pkt => .broadcast routing r (.addObject pkt) scene }
  exact spawning.initFromConfig data roomId scene idGen

theorem handleCChangeMap_offline (w : World) (r : RoomRef) (s : SessionId) (pkt : CChangeMap) :
    w.scene.Offline (handleCChangeMap data w r s pkt).scene := by
  cases handleCChangeMap_cases data w r s pkt with
  | absent _ result =>
      rw [result]
      exact .refl _
  | refused _ _ _ result =>
      rw [result]
      exact .of_same rfl rfl
  | town requester _ _ dest _ result =>
      rw [result]
      exact changeMapTo_offline w r dest s requester pkt 0
  | dungeon requester _ _ _ result =>
      have cleared : w.scene.Offline (w.scene.setField w.routing.roomCount .empty) :=
        .of_same rfl rfl
      have made := initFromConfig_offline data w.routing.openDungeon w.routing.roomCount
        .dungeonForest (w.scene.setField w.routing.roomCount .empty) w.idGen
      rw [result]
      apply (cleared.trans made).trans
      exact changeMapTo_offline (w.createDungeonInstance data).2.2 r _ s requester pkt _

theorem handleCMove_offline (routing : Routing) (r : RoomRef) (s : SessionId) (pkt : CMove)
    (scene : Scene) : scene.Offline (handleCMove routing r s pkt scene) := by
  have told (b : Scene) (info : ObjectInfo) (offline : scene.Offline b) :
      scene.Offline (broadcast routing r (.move info) b) :=
    offline.trans (.broadcast routing r _ b)
  unfold handleCMove
  cases lockPlayer routing scene [] s with
  | none => exact .refl scene
  | some id =>
      dsimp only
      split
      · exact .refl scene
      · split
        · exact .refl scene
        · split
          · exact (Scene.Offline.of_same rfl rfl : scene.Offline (scene.setPlayer id _)).trans
              (.broadcast routing r _ _)
          · split
            · exact told (scene.setPlayer id _) _ (.of_same rfl rfl)
            · exact told (scene.setPlayer id _) _ (.of_same rfl rfl)

theorem handleCTurn_offline (routing : Routing) (r : RoomRef) (s : SessionId) (pkt : CTurn)
    (scene : Scene) : scene.Offline (handleCTurn routing r s pkt scene) := by
  unfold handleCTurn
  cases lockPlayer routing scene [] s with
  | none => exact .refl scene
  | some id =>
      dsimp only
      split
      · exact .refl scene
      · split
        · exact .refl scene
        · exact (Scene.Offline.of_same rfl rfl : scene.Offline (scene.setPlayer id _)).trans
            (.broadcast routing r _ _)

theorem itemJob_offline (method : Player → Player × List Emission) (w : World) (s : SessionId)
    (told : ∀ p, ∀ emission ∈ (method p).2, ∃ pkt, emission = .session pkt) :
    w.scene.Offline (itemJob method w s).scene := by
  unfold itemJob
  cases lockPlayer w.routing w.scene [] s with
  | none => exact .refl _
  | some id =>
      apply Scene.Offline.actPlayer
      intro emission member name level
      obtain ⟨pkt, rfl⟩ := told _ emission member
      simp

theorem handleCAttack_offline (w : World) (r : RoomRef) (s : SessionId) (pkt : CAttack)
    (distinct : (w.scene.fields r).Distinct)
    (short : ∀ grant ∈ rewards data (attackCalls data r w s pkt),
      (w.scene.players grant.1).Short data
        (credit grant.1 (rewards data (attackCalls data r w s pkt)))) :
    w.scene.Offline (handleCAttack data w r s pkt).scene := by
  obtain ⟨after, beats, result⟩ := Scene.Beats.handleCAttack data w r s pkt distinct
  have earned := (beats_earn data w.routing r beats short).1
  rw [result]
  cases attackVictim w r s pkt with
  | none => exact earned
  | some victim => exact earned.trans (.broadcast (w.routing.erasePlayer r victim) r _ after.1)

theorem runJob_offline (w : World) (r : RoomRef) (job : Job)
    (distinct : (w.scene.fields r).Distinct)
    (short : ∀ s pkt, job = .attack s pkt → ∀ grant ∈ rewards data (attackCalls data r w s pkt),
      (w.scene.players grant.1).Short data
        (credit grant.1 (rewards data (attackCalls data r w s pkt)))) :
    w.scene.Offline (runJob data w r job).scene := by
  cases job with
  | move s pkt => exact handleCMove_offline w.routing r s pkt w.scene
  | turn s pkt => exact handleCTurn_offline w.routing r s pkt w.scene
  | attack s pkt => exact handleCAttack_offline data w r s pkt distinct (short s pkt rfl)
  | changeMap s pkt => exact handleCChangeMap_offline data w r s pkt
  | equipItem s slot =>
      apply itemJob_offline
      intro p emission member
      obtain ⟨pkt, -, told⟩ := (Player.equipItem_told data slot p).2 emission member
      exact ⟨pkt, told⟩
  | unequipItem s equipType =>
      apply itemJob_offline
      intro p emission member
      obtain ⟨pkt, -, told⟩ := (Player.unequipItem_told data equipType p).2 emission member
      exact ⟨pkt, told⟩
  | useItem s slot =>
      apply itemJob_offline
      intro p emission member
      rcases Player.useItem_told data slot p with same | ⟨target, left, hp, told, -⟩
      · rw [same] at member
        cases member
      · rw [told] at member
        exact ⟨_, List.mem_singleton.mp member⟩
  | partyInvite s targetId => exact (partyInvite_whispers w r s targetId).offline
  | partyAnswer s inviterId accept => exact (partyAnswer_whispers w r s inviterId accept).offline
  | partyLeave s => exact (partyLeave_whispers w r s).offline
  | enterRoom s player => exact enterRoom_offline w r s player
  | leaveRoom s => exact leaveRoom_offline w [] r s

theorem handleCLogin_offline (w : World) (s : SessionId) (username : Bytes)
    (offline : w.scene.redisConnected = false) :
    w.scene.Offline (handleCLogin data w s username).scene := by
  unfold handleCLogin
  split
  · exact .refl _
  · dsimp only
    split
    · exact .refl _
    · rw [if_neg (by simpa [Scene.send, Scene.setPlayer] using offline)]
      exact .of_same rfl rfl

theorem handlePacket_offline (w : World) (s : SessionId) (pkt : ClientPacket)
    (offline : w.scene.redisConnected = false) :
    w.scene.Offline (handlePacket data w s pkt).scene := by
  by_cases login : ∃ username, pkt = .login username
  · obtain ⟨username, rfl⟩ := login
    exact handleCLogin_offline data w s username offline
  · cases handlePacket_requested data w s pkt fun username same => login ⟨username, same⟩ with
    | nothing result =>
        rw [result]
        exact .refl _
    | pushed job r is room result =>
        rw [result]
        exact .refl _
    | chats relay result =>
        rw [result]
        exact .of_same rfl rfl

theorem partWithPlayer_offline (w : World) (s : SessionId) (player : ObjectId)
    (offline : w.scene.redisConnected = false) :
    w.scene.Offline (partWithPlayer w s player).scene := by
  have saved : (saveOnDisconnect w s player).scene = w.scene := by
    unfold saveOnDisconnect
    dsimp only
    split <;> rfl
  have first := (leavePartyOnDisconnect_whispers (saveOnDisconnect w s player) s player).offline
  rw [saved] at first
  unfold partWithPlayer forgetOnDisconnect
  rw [if_neg (by rw [first.connected, offline]; decide)]
  exact first

theorem onDisconnected_offline (w : World) (s : SessionId)
    (offline : w.scene.redisConnected = false) :
    w.scene.Offline (onDisconnected w s).scene := by
  have parted : w.scene.Offline (disconnecting w s).scene := by
    unfold disconnecting
    dsimp only
    split
    · exact .refl _
    · rename_i player _
      exact partWithPlayer_offline { w with
        routing := w.routing.setSession s
          { w.routing.sessions s with connection := .disconnected } } s player offline
  rw [onDisconnected_eq]
  split <;> exact parted

theorem stepPass_offline (w next : World) (pass : Pass) (e : Event)
    (under_way : w.routing.pass = some pass) (passed : w.stepPass data pass e = some next)
    (short : ∀ grant ∈ rewards data (w.calls data e),
      (w.scene.players grant.1).Short data (credit grant.1 (rewards data (w.calls data e)))) :
    w.scene.Offline next.scene := by
  unfold World.stepPass at passed
  split at passed
  case h_1 =>
    split at passed
    · cases passed
      exact .refl _
    · cases passed
  case h_2 =>
    split at passed
    · cases passed
      exact .refl _
    · cases passed
  case h_3 instanceId =>
    split at passed
    · cases passed
    · split at passed
      · cases passed
        exact .refl _
      · cases passed
  case h_4 =>
    split at passed
    · split at passed
      · cases passed
        exact .of_same rfl rfl
      · cases passed
    · cases passed
  case h_5 rand =>
    split at passed
    case h_1 r steps stepping =>
      split at passed
      · cases passed
        obtain ⟨now, statics, dungeonsFrom, visited, current⟩ := pass
        cases stepping
        simp only [World.calls, under_way] at short
        have beats := Scene.Beats.gameStep data w.routing r { w.scene with rand } w.idGen
        have earned := (beats_earn data w.routing r beats short).1
        have supplied : w.scene.Offline { w.scene with rand } := .of_same rfl rfl
        exact (supplied.trans earned).trans (.of_same rfl rfl)
      · cases passed
    case h_2 => cases passed
  case h_6 =>
    split at passed
    · dsimp only at passed
      split at passed
      · cases passed
      · cases passed
        exact .of_same rfl rfl
    · cases passed
  case h_7 =>
    split at passed
    · cases passed
    · split at passed
      · cases passed
        exact .refl _
      · cases passed
  case h_8 => cases passed

theorem act_offline (w next : World) (e : Event) (orderly : w.Orderly)
    (offline : w.scene.redisConnected = false) (acted : w.act data e = some next)
    (short : ∀ grant ∈ rewards data (w.calls data e),
      (w.scene.players grant.1).Short data (credit grant.1 (rewards data (w.calls data e)))) :
    w.scene.Offline next.scene := by
  cases e with
  | connect s =>
      simp only [World.act] at acted
      split at acted
      · cases acted
        exact .refl _
      · cases acted
  | packet s pkt =>
      simp only [World.act] at acted
      split at acted
      · cases acted
        exact handlePacket_offline data w s pkt offline
      · cases acted
  | disconnect s =>
      simp only [World.act] at acted
      split at acted
      · cases acted
        exact onDisconnected_offline w s offline
      · cases acted
  | clock now =>
      simp only [World.act] at acted
      split at acted
      · cases acted
        exact .of_same rfl rfl
      · cases acted
  | update =>
      simp only [World.act] at acted
      split at acted
      · cases acted
      · cases acted
        exact .refl _
  | job rand =>
      obtain ⟨r, job, rest, front, result⟩ := runNextJob_some data w next rand acted
      have supplied : w.scene.Offline (w.forJob r rest rand).scene := .of_same rfl rfl
      rw [result]
      apply supplied.trans
      apply runJob_offline data (w.forJob r rest rand) r job (orderly.numbered.distinct r)
      intro s pkt attack
      subst attack
      simp only [World.calls, front] at short
      exact short
  | visitStatic | loopDungeons | visitDungeon _ | endJobs | step _ | endRoom | endUpdate =>
      simp only [World.act] at acted
      split at acted
      · cases acted
      · rename_i pass under_way
        exact stepPass_offline data w next pass _ under_way acted short

/-- A server without Redis that has not ended, or has ended for another reason. -/
structure Server.Running (server : Server) : Prop where
  offline : server.world.scene.redisConnected = false
  spared : server.Spared
  orderly : server.world.scene.fault = none → server.world.Orderly

theorem step_running (server next : Server) (e : ServerEvent) (running : server.Running)
    (calm : NoLevelUp data server e) (stepped : server.step data e = some next) :
    next.Running := by
  unfold Server.step at stepped
  split at stepped
  case isTrue => cases stepped
  case isFalse alive =>
    have fine := not_not.mp alive
    cases e with
    | game event =>
        obtain ⟨world, acted, rfl⟩ := Option.map_eq_some_iff.mp stepped
        have orderly := running.orderly fine
        have step := act_offline data server.world world event orderly running.offline acted calm
        refine ⟨step.connected.trans running.offline, fun down => ?_, fun fine' => ?_⟩
        · exact running.spared (step.spared running.offline down)
        · apply step_orderly data server.world world event orderly
          rw [World.step, acted]
          exact if_pos fine'
    | getRanking s reply =>
        dsimp only at stepped
        split at stepped
        · cases stepped
          unfold handleCGetRanking
          rw [if_neg (by rw [running.offline]; decide)]
          exact ⟨running.offline, running.spared, running.orderly⟩
        · cases stepped

theorem init_offline (store : Store) (rand : List Nat) :
    (World.empty data store false rand).scene.Offline (World.init data store false rand).scene := by
  have opened (w : World) (channel : Int) (roomId : RoomName) :
      w.scene.Offline (w.openTown data channel roomId).scene :=
    initFromConfig_offline data _ _ roomId w.scene w.idGen
  unfold World.init
  dsimp only
  split
  · exact (opened _ 1 .town1).trans (opened _ 2 .town2)
  · exact .refl _

/-- Where Redis is not there, a run in which no kill levels anybody up gives no command. -/
theorem runs_without_redis (store : Store) (rand : List Nat) (events : List ServerEvent)
    (calm : Runs.EachStep (Server.step data) (NoLevelUp data) (Server.start data store rand)
      events) :
    Runs.EveryState (Server.step data) Server.Spared (Server.start data store rand) events := by
  have begun := init_offline data store rand
  have start : (Server.start data store rand).Running := by
    refine ⟨begun.connected, fun down => ?_, fun _ => init_orderly data store false rand⟩
    have before := begun.spared rfl down
    cases before
  exact Runs.everyState_invariant (NoLevelUp data) Server.Running Server.Spared
    (fun server running => running.spared)
    (fun server e next running calm stepped => step_running data server next e running calm stepped)
    _ events start calm

instance (server : Server) (e : ServerEvent) : Decidable (NoLevelUp data server e) :=
  match e with
  | .game event =>
      inferInstanceAs (Decidable (∀ grant ∈ rewards data (server.world.calls data event), _))
  | .getRanking _ _ => isTrue trivial

/-- The monster next to the entrance is worth 10 exp; level 2 takes so much. -/
def schoolGame (requiredExp : Int) : GameData :=
  { huntGame with
    monsterTemplate := fun _ => some ⟨[], 50, 7, 0, 10⟩
    levelData := fun level =>
      if level = 1 then some ⟨0, 100, 20, 5⟩
      else if level = 2 then some ⟨requiredExp, 110, 22, 6⟩
      else none }

/-- Player 1 slays the monster, and asks for the ranking. -/
def hunt : List ServerEvent := slaysMonster.map .game ++ [.getRanking 1 []]

set_option maxRecDepth 20000 in
theorem hunt_without_level_up :
    Runs.EveryState (Server.step (schoolGame 20)) Server.Spared
        (Server.start (schoolGame 20) newStore []) hunt ∧
      (Runs.run (Server.step (schoolGame 20)) (Server.start (schoolGame 20) newStore [])
        hunt).any (fun server => (server.world.scene.players 2).exp = 10 ∧
          server.rankings = [(1, [])]) = true := by
  refine ⟨?_, by decide +kernel⟩
  apply runs_without_redis (schoolGame 20) newStore [] hunt
  apply Runs.eachStep_of_check (fun server e => decide (NoLevelUp (schoolGame 20) server e))
  · exact fun server e checked => of_decide_eq_true checked
  · decide +kernel

/-- Up to the job of the third blow. -/
def thirdBlow : List ServerEvent := (slaysMonster.take 22).map .game

set_option maxRecDepth 20000 in
/-- The kill brings the player to level 2, and `ProcessLevelUp` does not get to its packet. -/
theorem level_up_without_redis :
    ¬ Runs.EveryState (Server.step (schoolGame 10)) Server.Spared
      (Server.start (schoolGame 10) newStore []) thirdBlow := by
  intro spared
  have ends : (Runs.run (Server.step (schoolGame 10)) (Server.start (schoolGame 10) newStore [])
      thirdBlow).any (fun server => server.world.scene.fault = some .redisDown) = true := by
    decide +kernel
  obtain ⟨final, reached, down⟩ := (Option.any_eq_true _ _).mp ends
  exact Runs.everyState_final _ _ final _ spared reached (of_decide_eq_true down)

end ZeldaServer
