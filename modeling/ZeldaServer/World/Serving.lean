import ZeldaServer.World.Replicas

/-! The jobs of a room, and what the clients of its players make of what they send. -/

namespace ZeldaServer

variable (data : GameData)

/-- The players of room `r` and their sessions: a session belongs to the player it entered
last, and a player to the session it logged in with. -/
structure World.Attended (r : RoomRef) (w : World) : Prop where
  roster : Scene.Roster w.routing r w.routing.LoggedPlayer (w.scene, w.idGen)
  housed : ∀ id ∈ playerIds w.routing r, w.routing.playerRoom id = some r
  entered : ∀ id ∈ playerIds w.routing r, ∃ s own,
    w.routing.playerSession id = some s ∧ (w.routing.sessions s).player = some own
  bound : ∀ s id, (w.routing.sessions s).player = some id → w.routing.playerSession id = some s
  logged : ∀ s id, w.routing.playerSession id = some s →
    ∃ login ∈ w.routing.logins, login.session = s ∧ login.player = id
  single : ∀ login ∈ w.routing.logins, ∀ other ∈ w.routing.logins,
    login.player = other.player → login.session = other.session

/-- What is done up to `next` lets nobody in, and the sessions that are left hear what turns
a right screen into a right screen. -/
structure World.Serves (r : RoomRef) (w next : World) : Prop where
  people : next.Attended r
  up : w.idGen ≤ next.idGen
  stays : ∀ id ∈ playerIds next.routing r, id ∈ playerIds w.routing r
  sessions : next.routing.playerSession = w.routing.playerSession
  owners : ∀ s, (next.routing.sessions s).player = (w.routing.sessions s).player
  told : ∃ pkts, Scene.Spreads next.routing r w.scene next.scene pkts ∧ ∀ inGame screen,
    Screen.Fits inGame next.idGen → screen.Owned w.idGen → screen.Right w.routing r w.scene →
      (pkts.foldl (Screen.hear inGame) screen).Right next.routing r next.scene ∧
        (pkts.foldl (Screen.hear inGame) screen).own = screen.own

variable {r : RoomRef} {w next : World}

namespace World.Attended

theorem of_same (people : w.Attended r)
    (roster : Scene.Roster w.routing r w.routing.LoggedPlayer (next.scene, next.idGen))
    (players : playerIds next.routing r = playerIds w.routing r)
    (rooms : next.routing.playerRoom = w.routing.playerRoom)
    (sessions : next.routing.playerSession = w.routing.playerSession)
    (owners : ∀ s, (next.routing.sessions s).player = (w.routing.sessions s).player)
    (logins : next.routing.logins = w.routing.logins) : next.Attended r where
  roster :=
    { own := roster.own
      apart := roster.apart
      below := fun id listed => by
        unfold Routing.LoggedPlayer
        rw [logins]
        exact roster.below id listed
      fresh := fun id is_taken => by
        unfold Routing.LoggedPlayer at is_taken
        rw [logins] at is_taken
        exact roster.fresh id is_taken
      players := fun id standing => by
        unfold Routing.LoggedPlayer
        rw [players] at standing
        rw [logins]
        exact roster.players id standing
      targets := fun m member id aims => by
        unfold Routing.LoggedPlayer
        rw [logins]
        exact roster.targets m member id aims }
  housed := by
    rw [players, rooms]
    exact people.housed
  entered := by
    intro id standing
    rw [players] at standing
    obtain ⟨s, own, session, owner⟩ := people.entered id standing
    exact ⟨s, own, by rw [sessions, session], by rw [owners, owner]⟩
  bound := by
    intro s id owner
    rw [owners] at owner
    rw [sessions]
    exact people.bound s id owner
  logged := by
    rw [sessions, logins]
    exact people.logged
  single := by
    rw [logins]
    exact people.single

end World.Attended

namespace World.Serves

theorem refl (people : w.Attended r) : w.Serves r w where
  people := people
  up := Nat.le_refl _
  stays := fun _ standing => standing
  sessions := rfl
  owners := fun _ => rfl
  told := ⟨[], .refl w.scene, fun _ _ _ _ right => ⟨right, rfl⟩⟩

theorem trans {last : World} (first : w.Serves r next) (second : next.Serves r last) :
    w.Serves r last where
  people := second.people
  up := Nat.le_trans first.up second.up
  stays := fun id standing => first.stays id (second.stays id standing)
  sessions := second.sessions.trans first.sessions
  owners := fun s => (second.owners s).trans (first.owners s)
  told := by
    obtain ⟨pkts, spread, heard⟩ := first.told
    obtain ⟨pkts', spread', heard'⟩ := second.told
    have listen (s : SessionId) (listens : last.routing.Listens r s) :
        next.routing.Listens r s := by
      obtain ⟨id, standing, session⟩ := listens
      exact ⟨id, second.stays id standing, by rw [← second.sessions]; exact session⟩
    refine ⟨pkts ++ pkts', (spread.fewer listen).trans spread', ?_⟩
    intro inGame screen fits owned right
    obtain ⟨right', own⟩ :=
      heard inGame screen (fun game => Nat.le_trans second.up (fits game)) owned right
    have owned' : (pkts.foldl (Screen.hear inGame) screen).Owned next.idGen := by
      intro id named
      rw [own] at named
      exact Nat.lt_of_lt_of_le (owned id named) first.up
    obtain ⟨right'', own'⟩ := heard' inGame _ fits owned' right'
    rw [List.foldl_append]
    exact ⟨right'', own'.trans own⟩

theorem of_mirrored (people : w.Attended r) {after : Scene × ObjectId}
    {granted : List (ObjectId × Int)}
    (mirrored : Scene.Mirrored w.routing r w.routing.LoggedPlayer (w.scene, w.idGen) granted after)
    (crew : ∀ grant ∈ granted, grant.1 ∈ playerIds w.routing r) :
    w.Serves r ⟨w.routing, after.1, after.2⟩ := by
  obtain ⟨roster, up, told⟩ := mirrored crew people.roster
  exact
    { people := people.of_same roster rfl rfl rfl (fun _ => rfl) rfl
      up
      stays := fun _ standing => standing
      sessions := rfl
      owners := fun _ => rfl
      told }

theorem of_whispers (people : w.Attended r) (whispers : w.scene.Whispers next.scene)
    (idGen : next.idGen = w.idGen)
    (players : playerIds next.routing r = playerIds w.routing r)
    (rooms : next.routing.playerRoom = w.routing.playerRoom)
    (sessions : next.routing.playerSession = w.routing.playerSession)
    (owners : ∀ s, (next.routing.sessions s).player = (w.routing.sessions s).player)
    (logins : next.routing.logins = w.routing.logins) : w.Serves r next where
  people := by
    apply people.of_same _ players rooms sessions owners logins
    rw [idGen]
    exact people.roster.of_same next.scene whispers.quiet.players whispers.quiet.fields
  up := Nat.le_of_eq idGen.symm
  stays := fun id standing => by rwa [players] at standing
  sessions := sessions
  owners := owners
  told := by
    refine ⟨[], .whispers whispers, fun inGame screen _ _ right => ⟨?_, rfl⟩⟩
    intro id looks
    rw [List.foldl_nil, right id looks]
    unfold Scene.Shows
    rw [players, whispers.quiet.players, whispers.quiet.fields]

theorem erased_players (routing : Routing) (id other : ObjectId) :
    other ∈ playerIds (routing.erasePlayer r id) r ↔ other ∈ playerIds routing r ∧ other ≠ id := by
  unfold playerIds
  rw [Routing.players_erasePlayer, if_pos rfl, List.mem_filter, decide_eq_true_eq]

theorem erased_shows {taken : ObjectId → Prop} {routing : Routing} {a : Scene × ObjectId}
    (roster : Scene.Roster routing r taken a) (id : ObjectId) (is_taken : taken id)
    (other : ObjectId) (looks : Looks) :
    a.1.Shows (routing.erasePlayer r id) r other looks ↔
      if other = id then none = some looks else a.1.Shows routing r other looks := by
  unfold Scene.Shows
  rw [erased_players]
  split
  case isTrue same =>
    subst same
    constructor
    · rintro (⟨⟨-, apart⟩, -⟩ | ⟨m, member, named, -⟩ | ⟨arrow, member, named, -⟩)
      · exact absurd rfl apart
      · exact absurd named (roster.not_monster other is_taken m member)
      · exact absurd named (roster.not_arrow other is_taken arrow member)
    · exact fun impossible => by cases impossible
  case isFalse apart =>
    apply or_congr_left
    apply and_congr_left
    exact fun _ => and_iff_left apart

theorem removePlayer (people : w.Attended r) (id : ObjectId)
    (standing : id ∈ playerIds w.routing r) : w.Serves r (w.removePlayer r id) := by
  have is_taken := people.roster.players id standing
  have same :=
    Scene.SameObjects.broadcast (w.routing.erasePlayer r id) r (.removeObject [id]) w.scene
  have fewer (other : ObjectId) (there : other ∈ playerIds (w.routing.erasePlayer r id) r) :
      other ∈ playerIds w.routing r ∧ other ≠ id := (erased_players w.routing id other).mp there
  have roster : Scene.Roster (w.routing.erasePlayer r id) r w.routing.LoggedPlayer
      (w.scene, w.idGen) :=
    { own := people.roster.own
      apart := people.roster.apart
      below := people.roster.below
      fresh := people.roster.fresh
      players := fun other there => people.roster.players other (fewer other there).1
      targets := people.roster.targets }
  exact
    { people :=
        { roster := roster.of_same _ same.players same.fields
          housed := by
            intro other there
            have room := people.housed other (fewer other there).1
            exact (Function.update_of_ne (fewer other there).2 _ _).trans room
          entered := fun other there => people.entered other (fewer other there).1
          bound := people.bound
          logged := people.logged
          single := people.single }
      up := Nat.le_refl _
      stays := fun other there => (fewer other there).1
      sessions := rfl
      owners := fun _ => rfl
      told := by
        refine ⟨[.removeObject [id]], .broadcast _ (Screen.steady_remove id) w.scene, ?_⟩
        intro inGame screen fits _ right
        rw [List.foldl_cons, List.foldl_nil,
          hear_remove inGame screen id (fits.lt (people.roster.fresh id is_taken))]
        have put := right.put id none (erased_shows people.roster id is_taken)
        exact ⟨put.same (Scene.shows_of_same same.players same.fields), rfl⟩ }

theorem leaveRoom (people : w.Attended r) (held : List ObjectId) (s : SessionId) :
    w.Serves r (w.leaveRoom held r s) := by
  unfold World.leaveRoom
  cases lockPlayer w.routing w.scene held s with
  | none => exact refl people
  | some id =>
      have removed : w.Serves r (w.removeObject r id) := by
        unfold World.removeObject
        split
        case isTrue standing => exact removePlayer people id standing
        case isFalse => exact refl people
      apply removed.trans
      unfold Routing.requestRemoval
      dsimp only
      split
      · exact of_whispers removed.people .silent rfl rfl rfl rfl (fun _ => rfl) rfl
      · exact refl removed.people

end World.Serves

section Walking

variable {routing : Routing} {taken : ObjectId → Prop}

theorem Scene.Mirrored.walked (a : Scene × ObjectId) (id : ObjectId) (p : Player)
    (pkt : ServerPacket) (tells : pkt = .move p.info ∨ pkt = .turn p.info)
    (standing : id ∈ playerIds routing r)
    (named : p.info.objectId = (a.1.players id).info.objectId)
    (health : p.info.hp = (a.1.players id).info.hp ∧ p.info.maxHp = (a.1.players id).info.maxHp) :
    Scene.Mirrored routing r taken a [] (broadcast routing r pkt (a.1.setPlayer id p), a.2) := by
  have heard (inGame : Bool) (screen : Screen) :
      screen.hear inGame pkt = screen.hear inGame (.move p.info) := by
    rcases tells with rfl | rfl <;> rfl
  have steady : Screen.Steady pkt := by
    intro inGame screen
    rw [heard, heard, Screen.steady_move]
  apply Scene.Mirrored.told a (a.1.setPlayer id p) a.2 pkt steady rfl (Nat.le_refl _)
  · exact fun roster => roster.setPlayer id p (named.trans (roster.own id))
  · intro roster inGame screen _ _ right
    rw [heard]
    have own := named.trans (roster.own id)
    apply moves_right right inGame p.info (a.1.players id).info.looks p.info.looks
    · rw [own]
      exact .inl ⟨standing, rfl⟩
    · simp only [Screen.Looks.at, ObjectInfo.looks, health.1, health.2]
    · rw [own]
      exact roster.setPlayer_alters id p standing

variable (standing : ∀ id, (routing.sessions s).player = some id → id ∈ playerIds routing r)

include standing

theorem handleCMove_mirrored (pkt : CMove) (scene : Scene) (g : ObjectId) :
    Scene.Mirrored routing r taken (scene, g) [] (handleCMove routing r s pkt scene, g) := by
  unfold handleCMove
  cases locked : lockPlayer routing scene [] s with
  | none => exact .refl (scene, g)
  | some id =>
      have here := standing id (lockPlayer_some routing scene [] s id locked).1
      have walks (p : Player) (pkt : ServerPacket) (tells : pkt = .move p.info ∨ pkt = .turn p.info)
          (named : p.info.objectId = (scene.players id).info.objectId)
          (hp : p.info.hp = (scene.players id).info.hp)
          (maxHp : p.info.maxHp = (scene.players id).info.maxHp) :
          Scene.Mirrored routing r taken (scene, g) []
            (broadcast routing r pkt (scene.setPlayer id p), g) :=
        .walked (scene, g) id p pkt tells here named ⟨hp, maxHp⟩
      dsimp only
      split
      · exact .refl (scene, g)
      · split
        · exact .refl (scene, g)
        · split
          · exact walks _ _ (.inr rfl) rfl rfl rfl
          · split
            · exact walks _ _ (.inl rfl) rfl rfl rfl
            · exact walks _ _ (.inl rfl) rfl rfl rfl

theorem handleCTurn_mirrored (pkt : CTurn) (scene : Scene) (g : ObjectId) :
    Scene.Mirrored routing r taken (scene, g) [] (handleCTurn routing r s pkt scene, g) := by
  unfold handleCTurn
  cases locked : lockPlayer routing scene [] s with
  | none => exact .refl (scene, g)
  | some id =>
      have here := standing id (lockPlayer_some routing scene [] s id locked).1
      dsimp only
      split
      · exact .refl (scene, g)
      · split
        · exact .refl (scene, g)
        · exact .walked (scene, g) id _ _ (.inr rfl) here rfl ⟨rfl, rfl⟩

end Walking

theorem rewards_crew (routing : Routing) (calls : List Call)
    (crew : ∀ call ∈ calls, call.routing = routing ∧ call.room = r ∧
      (call.dead ≠ [] → call.killer ∈ playerIds routing r)) :
    ∀ grant ∈ rewards data calls, grant.1 ∈ playerIds routing r := by
  intro grant member
  obtain ⟨call, made, rewarded⟩ := List.mem_flatMap.mp member
  obtain ⟨m, dead, granted⟩ := List.mem_flatMap.mp rewarded
  obtain ⟨same, room, killer⟩ := crew call made
  rw [same, room] at granted
  rcases grants_crew data routing r call.killer m grant granted with self | near
  · rw [self]
    exact killer (List.ne_nil_of_mem dead)
  · exact near

theorem attackCalls_crew (s : SessionId) (pkt : CAttack)
    (standing : ∀ id, (w.routing.sessions s).player = some id → id ∈ playerIds w.routing r) :
    ∀ call ∈ attackCalls data r w s pkt, call.routing = w.routing ∧ call.room = r ∧
      (call.dead ≠ [] → call.killer ∈ playerIds w.routing r) := by
  intro call made
  unfold attackCalls at made
  cases locked : lockPlayer w.routing w.scene [] s with
  | none =>
      rw [locked] at made
      cases made
  | some attacker =>
      have here := standing attacker (lockPlayer_some w.routing w.scene [] s attacker locked).1
      rw [locked] at made
      dsimp only at made
      split at made
      · rw [List.mem_singleton.mp made]
        exact ⟨rfl, rfl, fun _ => here⟩
      · split at made
        · rw [List.mem_singleton.mp made]
          exact ⟨rfl, rfl, fun _ => here⟩
        · cases made

theorem arrowCalls_crew (routing : Routing) (ids : List ObjectId) (scene : Scene) :
    ∀ call ∈ arrowCalls data routing r ids scene, call.routing = routing ∧ call.room = r ∧
      (call.dead ≠ [] → call.killer ∈ playerIds routing r) := by
  induction ids generalizing scene with
  | nil => exact List.forall_mem_nil _
  | cons id ids ih =>
      intro call made
      rcases List.mem_cons.mp made with rfl | later
      · refine ⟨rfl, rfl, fun dead => ?_⟩
        dsimp only at dead ⊢
        unfold arrowDead at dead
        cases meets : arrowMeets r scene id with
        | none =>
            rw [meets] at dead
            exact absurd rfl dead
        | some met =>
            obtain ⟨arrow, target⟩ := met
            rw [meets] at dead
            dsimp only at dead
            rw [← (arrowMeets_some data routing r scene id arrow target meets).1]
            by_contra away
            rw [if_neg away] at dead
            exact dead rfl
      · exact ih _ call later

theorem attackVictim_standing (s : SessionId) (pkt : CAttack) (victim : ObjectId)
    (dies : attackVictim w r s pkt = some victim) : victim ∈ playerIds w.routing r := by
  unfold attackVictim at dies
  cases locked : lockPlayer w.routing w.scene [] s with
  | none =>
      rw [locked] at dies
      cases dies
  | some attacker =>
      rw [locked] at dies
      dsimp only at dies
      split at dies
      case isFalse => cases dies
      case isTrue =>
        unfold swordVictim at dies
        dsimp only at dies
        cases front : gameObjectAt w.routing w.scene r
            (w.scene.players attacker).info.frontCellPos with
        | none =>
            rw [front] at dies
            cases dies
        | some object =>
            rw [front] at dies
            cases object with
            | player target =>
                have here := gameObjectAt_player w.routing w.scene r _ target front
                dsimp only at dies
                split at dies
                · rwa [← Option.some.inj dies]
                · cases dies
            | monster m => cases dies
            | projectile arrow => cases dies

namespace World.Serves

theorem handleCAttack (people : w.Attended r) (s : SessionId) (pkt : CAttack)
    (standing : ∀ id, (w.routing.sessions s).player = some id → id ∈ playerIds w.routing r) :
    w.Serves r (handleCAttack data w r s pkt) := by
  have distinct : (w.scene.fields r).Distinct := (List.nodup_append.mp people.roster.apart).1
  obtain ⟨after, beats, result⟩ := Scene.Beats.handleCAttack data w r s pkt distinct
  have crew := rewards_crew data w.routing _ (attackCalls_crew data s pkt standing)
  have fought := of_mirrored people (beats_mirrored data people.housed beats) crew
  rw [result]
  cases dies : attackVictim w r s pkt with
  | none => exact fought
  | some victim =>
      have here := attackVictim_standing s pkt victim dies
      exact fought.trans (removePlayer fought.people victim here)

theorem gameStep (people : w.Attended r) :
    w.Serves r
      ⟨w.routing, (gameStep data w.routing r w.scene w.idGen).1,
        (gameStep data w.routing r w.scene w.idGen).2⟩ := by
  have beats := Scene.Beats.gameStep data w.routing r w.scene w.idGen
  apply of_mirrored people (beats_mirrored data people.housed beats)
  exact rewards_crew data w.routing _ (arrowCalls_crew data w.routing _ _)

theorem itemJob (people : w.Attended r) (method : Player → Player × List Emission) (s : SessionId)
    (told : ∀ p, (method p).1.info.objectId = p.info.objectId ∧
      (method p).1.info.looks = p.info.looks ∧ Player.Untold (method p).2) :
    w.Serves r (itemJob method w s) := by
  unfold ZeldaServer.itemJob
  cases lockPlayer w.routing w.scene [] s with
  | none => exact refl people
  | some id =>
      obtain ⟨named, looks, untold⟩ := told (w.scene.players id)
      have acted : Scene.Mirrored w.routing r w.routing.LoggedPlayer (w.scene, w.idGen) []
          (actPlayer w.routing id method w.scene, w.idGen) :=
        acted_mirrored (w.scene, w.idGen) id method named looks [] (untold_spread id _ untold)
          fun _ _ _ => rfl
      exact of_mirrored people acted (List.forall_mem_nil _)

theorem party (people : w.Attended r) (whispers : w.scene.Whispers next.scene)
    (idGen : next.idGen = w.idGen)
    (routing : ∃ parties, next.routing = w.routing.onParties (fun _ => parties)) :
    w.Serves r next := by
  obtain ⟨parties, routing⟩ := routing
  apply of_whispers people whispers idGen
  all_goals rw [routing]
  · rfl
  · rfl
  · rfl
  · exact fun _ => rfl
  · rfl

end World.Serves

section Entering

variable (w : World) (s : SessionId) (id : ObjectId)

theorem enterRoom_scenes :
    ∃ stocked, Scene.Whispers ((w.scene.setPlayer id (w.scene.players id).atEntrance).send s
        (.myPlayer (w.scene.players id).atEntrance.info)) stocked ∧
      Scene.Whispers (broadcast (w.enterRoom r s id).routing r
        (.addObject ⟨[(w.scene.players id).atEntrance.info]⟩)
          (stocked.send s (.addObject (enterRoomObjects { w with scene := stocked } r))))
        (w.enterRoom r s id).scene := by
  rw [enterRoom_routing]
  have stocked (scene : Scene) : scene.Whispers
      ((w.scene.players id).atEntrance.sendInventoryData.foldl (emit (w.routing.bind r s id) id)
        scene) :=
    .sendToPlayer (w.routing.bind r s id) id _ rfl scene
  exact ⟨_, stocked _, enterRoomParty_whispers
    { w with
      routing := (w.routing.bind r s id).addPlayer r id
      scene := broadcast ((w.routing.bind r s id).addPlayer r id) r _ (Scene.send _ s _) } r id⟩

variable {w s id}

theorem entered_player (other : ObjectId) :
    other ∈ playerIds (w.enterRoom r s id).routing r ↔
      other ∈ playerIds w.routing r ∨ other = id := by
  unfold playerIds
  rw [enterRoom_routing, Routing.mem_players_addPlayer]
  simp only [true_and]
  rfl

theorem entered_session (other : ObjectId) :
    (w.enterRoom r s id).routing.playerSession other =
      if other = id then some s else w.routing.playerSession other := by
  rw [enterRoom_routing]
  exact Function.update_apply ..

theorem entered_owner (s' : SessionId) :
    ((w.enterRoom r s id).routing.sessions s').player =
      if s' = s then some id else (w.routing.sessions s').player := by
  rw [enterRoom_routing]
  have bound : (((w.routing.bind r s id).addPlayer r id).sessions s') =
      if s' = s then { w.routing.sessions s with gameRoom := some r, player := some id }
      else w.routing.sessions s' := Routing.sessions_setSession w.routing s s' _
  rw [bound]
  split <;> rfl

theorem entered_logins : (w.enterRoom r s id).routing.logins = w.routing.logins := by
  rw [enterRoom_routing]
  rfl

variable (people : w.Attended r) (login : ∃ login ∈ w.routing.logins,
  login.session = s ∧ login.player = id)

include people login

theorem entered_alone (s' : SessionId) (session : w.routing.playerSession id = some s') :
    s' = s := by
  obtain ⟨first, member, mine, named⟩ := login
  obtain ⟨other, member', mine', named'⟩ := people.logged s' id session
  rw [← mine, ← mine']
  exact people.single other member' first member (named'.trans named.symm)

theorem World.Attended.enterRoom : (w.enterRoom r s id).Attended r where
  roster := by
    have quiet := enterRoom_quiet w r s id
    have idGen : (w.enterRoom r s id).idGen = w.idGen := enterRoom_idGen w r s id
    have named : (w.scene.players id).atEntrance.info.objectId = id := people.roster.own id
    have set := people.roster.setPlayer id (w.scene.players id).atEntrance named
    have moved := set.of_same (w.enterRoom r s id).scene quiet.players quiet.fields
    rw [idGen]
    unfold Routing.LoggedPlayer
    rw [entered_logins]
    obtain ⟨first, member, -, same⟩ := login
    exact
      { own := moved.own
        apart := moved.apart
        below := moved.below
        fresh := moved.fresh
        players := by
          intro other there
          rcases (entered_player other).mp there with before | new
          · exact moved.players other before
          · exact ⟨first, member, same.trans new.symm⟩
        targets := moved.targets }
  housed := by
    intro other there
    have room : (w.enterRoom r s id).routing.playerRoom other =
        if other = id then some r else w.routing.playerRoom other := by
      rw [enterRoom_routing]
      exact Function.update_apply ..
    rw [room]
    split
    case isTrue => rfl
    case isFalse apart =>
      exact people.housed other (((entered_player other).mp there).resolve_right apart)
  entered := by
    intro other there
    rw [entered_session]
    split
    case isTrue =>
      refine ⟨s, id, rfl, ?_⟩
      rw [entered_owner, if_pos rfl]
    case isFalse apart =>
      obtain ⟨s', own, session, owner⟩ :=
        people.entered other (((entered_player other).mp there).resolve_right apart)
      by_cases mine : s' = s
      · refine ⟨s', id, session, ?_⟩
        rw [entered_owner, if_pos mine]
      · refine ⟨s', own, session, ?_⟩
        rw [entered_owner, if_neg mine, owner]
  bound := by
    intro s' other owner
    rw [entered_owner] at owner
    rw [entered_session]
    split at owner
    case isTrue mine =>
      rw [if_pos (Option.some.inj owner).symm, mine]
    case isFalse apart =>
      have session := people.bound s' other owner
      rw [if_neg]
      · exact session
      · intro same
        exact apart (entered_alone people login s' (same ▸ session))
  logged := by
    intro s' other session
    rw [entered_session] at session
    rw [entered_logins]
    split at session
    case isTrue same =>
      obtain ⟨first, member, mine, named⟩ := login
      exact ⟨first, member, mine.trans (Option.some.inj session), named.trans same.symm⟩
    case isFalse => exact people.logged s' other session
  single := by
    rw [entered_logins]
    exact people.single

theorem entered_shows (other : ObjectId) (looks : Looks) :
    (w.enterRoom r s id).scene.Shows (w.enterRoom r s id).routing r other looks ↔
      if other = id then some (w.scene.players id).atEntrance.info.looks = some looks
      else w.scene.Shows w.routing r other looks := by
  have quiet := enterRoom_quiet w r s id
  have here : id ∈ playerIds (w.enterRoom r s id).routing r := (entered_player id).mpr (.inr rfl)
  have at_entrance : (w.enterRoom r s id).scene.players id = (w.scene.players id).atEntrance := by
    rw [quiet.players, Scene.setPlayer_players, if_pos rfl]
  split
  case isTrue same =>
    have roster := (people.enterRoom login).roster
    rw [same, roster.shows_player id (roster.players id here), at_entrance, Option.some.injEq]
    exact and_iff_right here
  case isFalse apart =>
    have same : (w.enterRoom r s id).scene.Shows (w.enterRoom r s id).routing r other looks ↔
        (w.scene.setPlayer id (w.scene.players id).atEntrance).Shows (w.enterRoom r s id).routing r
          other looks := Scene.shows_of_same quiet.players quiet.fields other looks
    rw [same, Scene.setPlayer_shows w.scene id _ other looks fun _ => apart]
    unfold Scene.Shows
    rw [entered_player]
    apply or_congr_left
    apply and_congr_left
    exact fun _ => or_iff_left apart

omit people login in
theorem entered_listed (r : RoomRef) (w : World) (s : SessionId) (id : ObjectId) (stocked : Scene)
    (info : ObjectInfo)
    (players : stocked.players = (w.enterRoom r s id).scene.players)
    (fields : stocked.fields = (w.enterRoom r s id).scene.fields) :
    info ∈ (enterRoomObjects { w with scene := stocked } r).objects ↔
      (∃ other ∈ playerIds w.routing r,
        ((w.enterRoom r s id).scene.players other).info = info) ∨
      (∃ m ∈ ((w.enterRoom r s id).scene.fields r).monsters, m.info = info) ∨
      ∃ arrow ∈ ((w.enterRoom r s id).scene.fields r).projectiles, arrow.info = info := by
  unfold enterRoomObjects
  dsimp only
  rw [players, fields, List.mem_append, List.mem_append, List.mem_map, List.mem_map, List.mem_map,
    or_assoc]

theorem entered_own :
    ∃ pkts, Scene.Hears s w.scene (w.enterRoom r s id).scene pkts ∧ ∀ inGame (screen : Screen),
      (∀ other looks, screen.looks other = some looks → w.scene.Shows w.routing r other looks) →
        (pkts.foldl (Screen.hear inGame) screen).Right (w.enterRoom r s id).routing r
          (w.enterRoom r s id).scene ∧
        (pkts.foldl (Screen.hear inGame) screen).own = some id := by
  obtain ⟨stocked, front, back⟩ := enterRoom_scenes (r := r) w s id
  have here : id ∈ playerIds (w.enterRoom r s id).routing r := (entered_player id).mpr (.inr rfl)
  have listens : (w.enterRoom r s id).routing.Listens r s :=
    ⟨id, here, by rw [entered_session, if_pos rfl]⟩
  have quiet := enterRoom_quiet w r s id
  have roster := (people.enterRoom login).roster
  have named : (w.scene.players id).atEntrance.info.objectId = id := people.roster.own id
  have shows := entered_shows people login
  have listed (info : ObjectInfo) := entered_listed r w s id stocked info
    (front.quiet.players.trans quiet.players.symm) (front.quiet.fields.trans quiet.fields.symm)
  generalize enterRoomObjects { w with scene := stocked } r = objects at back listed
  have greeted : Scene.Hears s w.scene
      ((w.scene.setPlayer id (w.scene.players id).atEntrance).send s
        (.myPlayer (w.scene.players id).atEntrance.info))
      [.myPlayer (w.scene.players id).atEntrance.info] :=
    (Scene.Hears.of_sent rfl).before (.own _ _)
  have stocks := Scene.Hears.of_spreads (.whispers front) listens
  have announced := Scene.Hears.of_spreads (.broadcast _ (Screen.steady_add
    (w.scene.players id).atEntrance.info) (stocked.send s (.addObject objects))) listens
  have party := Scene.Hears.of_spreads (.whispers back) listens
  refine ⟨_, greeted.trans (stocks.before ((Scene.Hears.own stocked _).trans
    (announced.trans party))), ?_⟩
  intro inGame screen honest
  generalize (w.scene.players id).atEntrance.info = info at named shows
  have first : screen.hear inGame (.myPlayer info) =
      { screen.put id (some info.looks) with own := some id } := by
    unfold Screen.hear
    dsimp only
    rw [named]
  have added := Screen.adds inGame
    (fun other looks => (w.enterRoom r s id).scene.Shows (w.enterRoom r s id).routing r other looks)
    objects.objects { screen.put id (some info.looks) with own := some id } ?_ ?_
  · have known := (added.1 id info.looks).mpr ((shows id info.looks).mpr (by rw [if_pos rfl]))
    have last : Screen.add inGame (objects.objects.foldl (Screen.add inGame)
        { screen.put id (some info.looks) with own := some id }) info =
          objects.objects.foldl (Screen.add inGame)
            { screen.put id (some info.looks) with own := some id } := by
      unfold Screen.add
      split
      · rfl
      · rw [named]
        exact Screen.put_same _ id _ known
    have all : [ServerPacket.myPlayer info, .addObject objects, .addObject ⟨[info]⟩].foldl
        (Screen.hear inGame) screen = objects.objects.foldl (Screen.add inGame)
          { screen.put id (some info.looks) with own := some id } := by
      rw [← last, ← first]
      rfl
    exact all ▸ added
  · intro info' member looks
    rcases (listed info').mp member with
      ⟨other, before, rfl⟩ | ⟨m, known, rfl⟩ | ⟨arrow, flies, rfl⟩
    · have there : other ∈ playerIds (w.enterRoom r s id).routing r :=
        (entered_player other).mpr (.inl before)
      rw [roster.own other, roster.shows_player other (roster.players other there)]
      exact and_iff_right there
    · exact roster.shows_monster m known looks
    · exact roster.shows_arrow arrow flies looks
  · intro other
    by_cases mine : other = id
    · left
      intro looks
      rw [shows other looks, if_pos mine]
      dsimp only
      rw [Screen.put_looks, if_pos mine]
    · by_cases there : ∃ looks,
        (w.enterRoom r s id).scene.Shows (w.enterRoom r s id).routing r other looks
      · right
        have apart : ¬ (inGame = true ∧ some id = some other) :=
          fun same => mine (Option.some.inj same.2).symm
        obtain ⟨looks, ⟨standing, -⟩ | ⟨m, known, same, -⟩ | ⟨arrow, flies, same, -⟩⟩ := there
        · refine ⟨_, (listed _).mpr (.inl ⟨other, ?_, rfl⟩), roster.own other, apart⟩
          exact ((entered_player other).mp standing).resolve_right mine
        · exact ⟨m.info, (listed _).mpr (.inr (.inl ⟨m, known, rfl⟩)), same, apart⟩
        · exact ⟨arrow.info, (listed _).mpr (.inr (.inr ⟨arrow, flies, rfl⟩)), same, apart⟩
      · left
        intro looks
        dsimp only
        rw [Screen.put_looks, if_neg mine]
        constructor
        · intro claimed
          rw [shows other looks, if_neg mine]
          exact honest other looks claimed
        · exact fun shown => absurd ⟨looks, shown⟩ there

theorem entered_others (s' : SessionId) (apart : s' ≠ s)
    (listens : (w.enterRoom r s id).routing.Listens r s') :
    ∃ pkts, Scene.Hears s' w.scene (w.enterRoom r s id).scene pkts ∧ ∀ inGame (screen : Screen),
      screen.own ≠ some id → screen.Right w.routing r w.scene →
        (pkts.foldl (Screen.hear inGame) screen).Right (w.enterRoom r s id).routing r
          (w.enterRoom r s id).scene ∧
        (pkts.foldl (Screen.hear inGame) screen).own = screen.own := by
  obtain ⟨stocked, front, back⟩ := enterRoom_scenes (r := r) w s id
  have named : (w.scene.players id).atEntrance.info.objectId = id := people.roster.own id
  have shows := entered_shows people login
  have greeted : Scene.Hears s' w.scene
      ((w.scene.setPlayer id (w.scene.players id).atEntrance).send s
        (.myPlayer (w.scene.players id).atEntrance.info)) [] :=
    (Scene.Hears.of_sent rfl).before (.other _ s _ (Ne.symm apart))
  have stocks := Scene.Hears.of_spreads (.whispers front) listens
  have announced := Scene.Hears.of_spreads (.broadcast _ (Screen.steady_add
    (w.scene.players id).atEntrance.info) (stocked.send s (.addObject
      (enterRoomObjects { w with scene := stocked } r)))) listens
  have party := Scene.Hears.of_spreads (.whispers back) listens
  refine ⟨_, greeted.before (stocks.before ((Scene.Hears.other stocked s _ (Ne.symm apart)).before
    (announced.trans party))), ?_⟩
  intro inGame screen other right
  generalize (w.scene.players id).atEntrance.info = info at named shows
  have shown : [ServerPacket.addObject ⟨[info]⟩].foldl (Screen.hear inGame) screen =
      screen.put id (some info.looks) := by
    rw [← named]
    exact if_neg fun same => other (same.2.trans (congrArg some named))
  have put := right.put id _ shows
  exact shown ▸ ⟨put, rfl⟩

end Entering

theorem loggedIn_owner (routing : Routing) (s : SessionId) (account : AccountId) (id : ObjectId)
    (store : Store) (s' : SessionId) :
    ((routing.loggedIn s account id store).sessions s').player = (routing.sessions s').player := by
  rw [Routing.loggedIn_sessions]
  split
  case isTrue same => rw [same]
  case isFalse => rfl

theorem redisCommand_sent (scene : Scene) (command : RedisCommand) :
    (scene.redisCommand command).sent = scene.sent := by
  unfold Scene.redisCommand
  split <;> rfl

theorem World.Attended.loggedIn (people : w.Attended r) (s : SessionId) (account : AccountId)
    (store : Store) (player : Player) (scene : Scene)
    (named : player.info.objectId = w.idGen)
    (players : scene.players = (w.scene.setPlayer w.idGen player).players)
    (fields : scene.fields = w.scene.fields) :
    World.Attended r ⟨w.routing.loggedIn s account w.idGen store, scene, w.idGen + 1⟩ where
  roster := by
    have set := (people.roster.setPlayer w.idGen player named).of_same scene players fields
    have standing : playerIds (w.routing.loggedIn s account w.idGen store) r =
        playerIds w.routing r := Routing.loggedIn_players ..
    unfold Routing.LoggedPlayer
    rw [Routing.loggedIn_logins]
    exact
      { own := set.own
        apart := set.apart
        below := by
          intro id listed
          refine ⟨Nat.lt_succ_of_lt (set.below id listed).1, ?_⟩
          rintro ⟨login, member, same⟩
          rcases List.mem_cons.mp member with rfl | old
          · exact Nat.lt_irrefl _ (same ▸ (set.below id listed).1)
          · exact (set.below id listed).2 ⟨login, old, same⟩
        fresh := by
          rintro id ⟨login, member, same⟩
          rcases List.mem_cons.mp member with rfl | old
          · exact Nat.lt_succ_of_le (Nat.le_of_eq same.symm)
          · exact Nat.lt_succ_of_lt (set.fresh id ⟨login, old, same⟩)
        players := by
          intro id there
          rw [standing] at there
          obtain ⟨login, old, same⟩ := set.players id there
          exact ⟨login, List.mem_cons_of_mem _ old, same⟩
        targets := by
          intro m member id aims
          obtain ⟨login, old, same⟩ := set.targets m member id aims
          exact ⟨login, List.mem_cons_of_mem _ old, same⟩ }
  housed := by
    intro id there
    unfold playerIds at there
    rw [Routing.loggedIn_players] at there
    rw [Routing.loggedIn_playerRoom]
    exact people.housed id there
  entered := by
    intro id there
    unfold playerIds at there
    rw [Routing.loggedIn_players] at there
    obtain ⟨s', own, session, owner⟩ := people.entered id there
    refine ⟨s', own, by rw [Routing.loggedIn_playerSession, session], ?_⟩
    rw [loggedIn_owner, owner]
  bound := by
    intro s' id owner
    rw [loggedIn_owner] at owner
    rw [Routing.loggedIn_playerSession]
    exact people.bound s' id owner
  logged := by
    intro s' id session
    rw [Routing.loggedIn_playerSession] at session
    obtain ⟨login, member, same⟩ := people.logged s' id session
    rw [Routing.loggedIn_logins]
    exact ⟨login, List.mem_cons_of_mem _ member, same⟩
  single := by
    have apart (login : Login) (member : login ∈ w.routing.logins) : login.player ≠ w.idGen := by
      intro same
      exact Nat.lt_irrefl _ (people.roster.fresh w.idGen ⟨login, member, same⟩)
    rw [Routing.loggedIn_logins]
    intro login member other member' same
    rcases List.mem_cons.mp member with rfl | old
    · rcases List.mem_cons.mp member' with rfl | old'
      · rfl
      · exact absurd same.symm (apart other old')
    · rcases List.mem_cons.mp member' with rfl | old'
      · exact absurd same (apart login old)
      · exact people.single login old other old' same

theorem World.Serves.handleCLogin (people : w.Attended r) (s : SessionId) (username : Bytes) :
    w.Serves r (handleCLogin data w s username) := by
  have looked (store : Store) :
      w.Serves r { w with routing := w.routing.onStore fun _ => store } :=
    .of_whispers people .silent rfl rfl rfl rfl (fun _ => rfl) rfl
  unfold ZeldaServer.handleCLogin
  split
  · exact .refl people
  · dsimp only
    split
    · exact looked _
    · generalize (w.routing.store.findOrCreateAccount username).1 = account
      generalize (w.routing.store.findOrCreateAccount username).2 = found
      have named := loginPlayer_named data found account w.idGen username
      generalize loginPlayer data found account w.idGen username = made at named
      obtain ⟨player, store⟩ := made
      generalize greeted :
        (w.scene.setPlayer w.idGen player).send s (.enterGame true account) = scene
      have same (final : Scene) (quiet : scene.Quiet final) (sent : final.sent = scene.sent) :
          w.Serves r ⟨w.routing.loggedIn s account w.idGen store, final, w.idGen + 1⟩ := by
        have players : final.players = (w.scene.setPlayer w.idGen player).players := by
          rw [quiet.players, ← greeted]
          rfl
        have fields : final.fields = w.scene.fields := by
          rw [quiet.fields, ← greeted]
          rfl
        have standing : playerIds (w.routing.loggedIn s account w.idGen store) r =
            playerIds w.routing r := Routing.loggedIn_players ..
        exact
          { people := people.loggedIn s account store player final named players fields
            up := Nat.le_succ _
            stays := fun id there => standing ▸ there
            sessions := Routing.loggedIn_playerSession ..
            owners := loggedIn_owner w.routing s account w.idGen store
            told := by
              have news : Scene.Spreads (w.routing.loggedIn s account w.idGen store) r w.scene
                  final [] := by
                have spoken : Scene.Spreads (w.routing.loggedIn s account w.idGen store) r
                    (w.scene.setPlayer w.idGen player) scene [] := by
                  rw [← greeted]
                  exact .send _ s _ rfl
                have before : Scene.Spreads (w.routing.loggedIn s account w.idGen store) r w.scene
                    (w.scene.setPlayer w.idGen player) [] := .of_sent rfl
                exact before.before (spoken.before (.of_sent sent))
              refine ⟨[], news, fun _ screen _ _ right => ⟨?_, rfl⟩⟩
              intro id looks
              rw [List.foldl_nil, right id looks]
              have apart (there : id ∈ playerIds w.routing r) : id ≠ w.idGen := by
                intro same
                have below := people.roster.fresh id (people.roster.players id there)
                exact Nat.lt_irrefl _ (same ▸ below)
              rw [← Scene.setPlayer_shows w.scene w.idGen player id looks apart]
              unfold Scene.Shows
              rw [standing, players, fields]
              rfl }
      split
      · apply same
        · exact (Scene.Quiet.redisCommand scene _).trans (.redisCommand _ _)
        · rw [redisCommand_sent, redisCommand_sent]
      · exact same scene (.refl scene) rfl

end ZeldaServer
