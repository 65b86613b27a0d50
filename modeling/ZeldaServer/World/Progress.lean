import ZeldaServer.World.Saves

/-! The player of a session that logs in once: as long as no sword attack kills it, it is
in the room it points to or in an `EnterRoom` job, so that the disconnect finds it alive
and saves it. -/

namespace ZeldaServer

variable (data : GameData)

namespace Routing

/-- The player is in the room its pointer names, or an `EnterRoom` job owns it. -/
def Seated (a : Routing) (s : SessionId) (p : ObjectId) : Prop :=
  (∃ r, a.playerRoom p = some r ∧ p ∈ (a.rooms r).players) ∨
    ∃ r, Job.enterRoom s p ∈ (a.rooms r).queue

section Seats

variable (s : SessionId) (p : ObjectId)

theorem seated_of_parts {a b : Routing} (seated : a.Seated s p)
    (room : b.playerRoom p = a.playerRoom p)
    (players : ∀ r, p ∈ (a.rooms r).players → p ∈ (b.rooms r).players)
    (queue : ∀ r, Job.enterRoom s p ∈ (a.rooms r).queue → Job.enterRoom s p ∈ (b.rooms r).queue) :
    b.Seated s p := by
  rcases seated with ⟨r, names, standing⟩ | ⟨r, waiting⟩
  · exact .inl ⟨r, room.trans names, players r standing⟩
  · exact .inr ⟨r, queue r waiting⟩

theorem seated_rests {a b : Routing} (rests : a.Rests b) (seated : a.Seated s p) :
    b.Seated s p := by
  apply seated_of_parts s p seated (congrFun rests.playerRoom p)
  · intro r standing
    rw [rests.samePlayers]
    exact standing
  · intro r waiting
    exact rests.queue r _ waiting

theorem seated_popJob (a : Routing) (r : RoomRef) (job : Job) (rest : List Job)
    (front : a.nextJob = some (r, job, rest)) (other : job ≠ .enterRoom s p)
    (seated : a.Seated s p) : (a.popJob r rest).Seated s p := by
  obtain ⟨pass, -, -, batch⟩ := nextJob_some a r job rest front
  apply seated_of_parts s p seated
  · rfl
  · intro r' standing
    rw [players_popJob]
    exact standing
  · intro r' waiting
    rw [queue_popJob a r r' job rest batch] at waiting
    split at waiting
    · rcases List.mem_cons.mp waiting with same | behind
      · exact absurd same.symm other
      · exact behind
    · exact waiting

theorem seated_erasePlayer (a : Routing) (r : RoomRef) (id : ObjectId) (other : id ≠ p)
    (seated : a.Seated s p) : (a.erasePlayer r id).Seated s p := by
  apply seated_of_parts s p seated
  · exact Function.update_of_ne other.symm _ _
  · intro r' standing
    rw [players_erasePlayer]
    split
    · rw [List.mem_filter]
      exact ⟨standing, decide_eq_true other.symm⟩
    · exact standing
  · intro r' waiting
    rw [queue_erasePlayer]
    exact waiting

theorem seated_bury (a : Routing) (r : RoomRef) (victim : Option ObjectId)
    (other : victim ≠ some p) (seated : a.Seated s p) : (a.bury r victim).Seated s p := by
  cases victim with
  | none => exact seated
  | some id =>
      apply seated_erasePlayer s p a r id _ seated
      intro same
      exact other (congrArg some same)

theorem seated_requestRemoval (a : Routing) (r : RoomRef) (seated : a.Seated s p) :
    (a.requestRemoval r).Seated s p := by
  unfold requestRemoval
  dsimp only
  split
  · exact seated
  · exact seated

theorem seated_leave (a : Routing) (r : RoomRef) (id : ObjectId) (other : id ≠ p)
    (seated : a.Seated s p) : (a.leave r id).Seated s p := by
  unfold leave
  apply seated_requestRemoval
  split
  · exact seated_erasePlayer s p a r id other seated
  · exact seated

theorem seated_pushJob (a : Routing) (r : RoomRef) (job : Job) (seated : a.Seated s p) :
    (a.pushJob r job).Seated s p := by
  apply seated_of_parts s p seated
  · rfl
  · intro r' standing
    rw [players_pushJob]
    exact standing
  · intro r' waiting
    rw [queue_pushJob]
    split
    · exact List.mem_append_left _ waiting
    · exact waiting

theorem seated_pushEnter (a : Routing) (r : RoomRef) :
    (a.pushJob r (.enterRoom s p)).Seated s p := by
  right
  exists r
  rw [queue_pushJob, if_pos rfl]
  exact List.mem_append_right _ (List.mem_singleton.mpr rfl)

theorem seated_openDungeon (a : Routing) (inRange : a.InRange) (seated : a.Seated s p) :
    a.openDungeon.Seated s p := by
  have kept (r : RoomRef) (made : r < a.roomCount) : a.openDungeon.rooms r = a.rooms r :=
    (rooms_addRoom a r _).trans (if_neg (Nat.ne_of_lt made))
  apply seated_of_parts s p seated
  · rfl
  · intro r standing
    rw [kept r (inRange.players r p standing)]
    exact standing
  · intro r waiting
    rw [kept r (inRange.queue r _ waiting)]
    exact waiting

theorem seated_entered (a : Routing) (r : RoomRef) (s' : SessionId) (id : ObjectId)
    (rest : List Job) (front : a.nextJob = some (r, .enterRoom s' id, rest))
    (seated : id ≠ p → a.Seated s p) : (a.entered r s' id rest).Seated s p := by
  by_cases same : id = p
  · left
    exists r
    constructor
    · rw [entered_playerRoom, if_pos same.symm]
    · rw [entered_players]
      exact .inr ⟨rfl, same.symm⟩
  · have popped := seated_popJob s p a r _ rest front
      (fun equal => same (Job.enterRoom.inj equal).2) (seated same)
    apply seated_of_parts s p popped
    · rw [entered_playerRoom, if_neg (Ne.symm same)]
      rfl
    · intro r' standing
      rw [players_popJob] at standing
      rw [entered_players]
      exact .inl standing
    · intro r' waiting
      rw [entered_queue]
      exact waiting

theorem seated_alive (a : Routing) (scene : Scene) (inRange : a.InRange)
    (seated : a.Seated s p) : playerAlive a scene [] p = true := by
  simp only [playerAlive, List.contains_eq_mem, List.not_mem_nil, decide_false, Bool.false_or,
    List.any_eq_true, Bool.or_eq_true, Bool.and_eq_true, decide_eq_true_eq, List.mem_range]
  rcases seated with ⟨r, names, standing⟩ | ⟨r, waiting⟩
  · refine ⟨r, inRange.players r p standing, .inl ⟨?_, standing⟩⟩
    simp only [roomAlive, Bool.or_eq_true, List.any_eq_true, decide_eq_true_eq]
    exact .inr ⟨p, standing, names⟩
  · exact ⟨r, inRange.queue r _ waiting, .inr ⟨_, waiting, rfl⟩⟩

end Seats

end Routing

section Jobs

variable (s : SessionId) (p : ObjectId)

/-- The session and the player are bound to each other and to nobody else. -/
structure Routing.Paired (a : Routing) : Prop where
  session : ∀ s', (a.sessions s').player = some p → s' = s
  player : ∀ id, (a.sessions s).player = some id → id = p
  playerSession : ∀ id, a.playerSession id = some s → id = p

theorem paired_calm {a b : Routing} (calm : a.Calm b) (paired : a.Paired s p) : b.Paired s p where
  session := fun s' named => paired.session s' (by rwa [calm.player] at named)
  player := fun id named => paired.player id (by rwa [calm.player] at named)
  playerSession := fun id names => paired.playerSession id (by rwa [calm.playerSession] at names)

theorem leaveRoom_seated (w : World) (held : List ObjectId) (r : RoomRef) (s' : SessionId)
    (other : s' ≠ s) (paired : w.routing.Paired s p) (seated : w.routing.Seated s p) :
    (w.leaveRoom held r s').routing.Seated s p := by
  rw [leaveRoom_routing]
  cases locked : lockPlayer w.routing w.scene held s' with
  | none => exact seated
  | some id =>
      apply Routing.seated_leave s p w.routing r id _ seated
      intro same
      have named := (lockPlayer_some _ _ _ _ _ locked).1
      rw [same] at named
      exact other (paired.session s' named)

theorem moveOver_seated (w : World) (held : List ObjectId) (source dest : RoomRef)
    (pkt : CChangeMap) (instanceId : InstanceId) (s' : SessionId) (id : ObjectId)
    (own : s' = s → id = p) (paired : w.routing.Paired s p) (seated : w.routing.Seated s p) :
    (w.moveOver held source dest pkt instanceId s' id).routing.Seated s p := by
  rw [moveOver_routing]
  by_cases same : s' = s
  · rw [same, own same]
    exact Routing.seated_pushEnter s p _ dest
  · apply Routing.seated_pushJob
    exact leaveRoom_seated s p (w.sendTo s' (.changeMap true pkt.mapId pkt.channel instanceId))
      held source s' same paired seated

theorem moveOver_paired (w : World) (held : List ObjectId) (source dest : RoomRef)
    (pkt : CChangeMap) (instanceId : InstanceId) (s' : SessionId) (id : ObjectId)
    (paired : w.routing.Paired s p) :
    (w.moveOver held source dest pkt instanceId s' id).routing.Paired s p := by
  rw [moveOver_routing]
  have left := paired_calm s p (leaveRoom_calm (w.sendTo s'
    (.changeMap true pkt.mapId pkt.channel instanceId)) held source s') paired
  exact ⟨left.session, left.player, left.playerSession⟩

theorem moveAll_seated (held : List ObjectId) (source dest : RoomRef) (pkt : CChangeMap)
    (instanceId : InstanceId) (toMove : List (SessionId × ObjectId))
    (own : ∀ member ∈ toMove, member.1 = s → member.2 = p) (w : World)
    (paired : w.routing.Paired s p) (seated : w.routing.Seated s p) :
    (toMove.foldl (fun w member =>
      w.moveOver held source dest pkt instanceId member.1 member.2) w).routing.Seated s p := by
  induction toMove generalizing w with
  | nil => exact seated
  | cons head tail ih =>
      apply ih
      · intro member later
        exact own member (List.mem_cons_of_mem head later)
      · exact moveOver_paired s p w held source dest pkt instanceId head.1 head.2 paired
      · exact moveOver_seated s p w held source dest pkt instanceId head.1 head.2
          (own head List.mem_cons_self) paired seated

theorem changeMapTo_seated (w : World) (source dest : RoomRef) (s' : SessionId)
    (requester : ObjectId) (pkt : CChangeMap) (instanceId : InstanceId)
    (named : (w.routing.sessions s').player = some requester) (paired : w.routing.Paired s p)
    (seated : w.routing.Seated s p) :
    (w.changeMapTo source dest s' requester pkt instanceId).routing.Seated s p := by
  unfold World.changeMapTo
  dsimp only
  split
  · rename_i party _
    apply moveAll_seated s p _ source dest pkt instanceId _ _ w paired seated
    intro member chosen same
    obtain ⟨-, -, names⟩ := mem_partyToMove w.routing source party member.1 member.2 chosen
    rw [same] at names
    exact paired.playerSession member.2 names
  · apply moveOver_seated s p w _ source dest pkt instanceId s' requester _ paired seated
    intro same
    rw [same] at named
    exact paired.player requester named

theorem handleCChangeMap_seated (w : World) (r : RoomRef) (s' : SessionId) (pkt : CChangeMap)
    (inRange : w.routing.InRange) (paired : w.routing.Paired s p)
    (seated : w.routing.Seated s p) :
    (handleCChangeMap data w r s' pkt).routing.Seated s p := by
  cases handleCChangeMap_cases data w r s' pkt with
  | absent _ result =>
      rw [result]
      exact seated
  | refused _ _ _ result =>
      rw [result]
      exact seated
  | town requester locked _ dest _ result =>
      rw [result]
      exact changeMapTo_seated s p w r dest s' requester pkt 0
        (lockPlayer_some _ _ _ _ _ locked).1 paired seated
  | dungeon requester locked _ _ result =>
      have opened := Routing.seated_openDungeon s p w.routing inRange seated
      have paired' : w.routing.openDungeon.Paired s p :=
        ⟨paired.session, paired.player, paired.playerSession⟩
      rw [result]
      exact changeMapTo_seated s p (w.createDungeonInstance data).2.2 r _ s' requester pkt _
        (lockPlayer_some _ _ _ _ _ locked).1 paired' opened

/-- A job other than `EnterRoom` keeps the player's seat, unless it is a sword attack that
kills the player, or the `LeaveRoom` of its own session. -/
theorem runJob_seated (w : World) (r : RoomRef) (job : Job) (inRange : w.routing.InRange)
    (stays : job.entering = none) (remains : job ≠ .leaveRoom s)
    (spared : ∀ s' pkt, job = .attack s' pkt → attackVictim w r s' pkt ≠ some p)
    (paired : w.routing.Paired s p) (seated : w.routing.Seated s p) :
    (runJob data w r job).routing.Seated s p := by
  cases job with
  | move s' pkt => exact seated
  | turn s' pkt => exact seated
  | attack s' pkt =>
      rw [runJob, handleCAttack_routing]
      exact Routing.seated_bury s p w.routing r _ (spared s' pkt rfl) seated
  | changeMap s' pkt => exact handleCChangeMap_seated data s p w r s' pkt inRange paired seated
  | equipItem s' slot =>
      rw [runJob, itemJob_routing]
      exact seated
  | unequipItem s' equipType =>
      rw [runJob, itemJob_routing]
      exact seated
  | useItem s' slot =>
      rw [runJob, itemJob_routing]
      exact seated
  | partyInvite s' targetId =>
      rw [runJob, partyInvite_routing]
      exact seated
  | partyAnswer s' inviterId accept =>
      obtain ⟨parties, result, -⟩ := partyAnswer_routing w r s' inviterId accept
      rw [runJob, result]
      exact seated
  | partyLeave s' =>
      obtain ⟨parties, result, -⟩ := partyLeave_routing w r s'
      rw [runJob, result]
      exact seated
  | enterRoom s' id => cases stays
  | leaveRoom s' =>
      apply leaveRoom_seated s p w [] r s' _ paired seated
      intro same
      exact remains (congrArg Job.leaveRoom same)

end Jobs

section Session

variable (s : SessionId)

def Spared (w : World) (e : Event) : Prop :=
  ∀ r s' pkt rest rand victim, e = .job rand →
    w.routing.nextJob = some (r, .attack s' pkt, rest) →
    attackVictim (w.forJob r rest rand) r s' pkt = some victim →
    (w.routing.sessions s).player ≠ some victim

/-- The session has one login, and until it disconnects its player keeps a seat. -/
structure World.Playing (w : World) : Prop extends w.Sound where
  once : w.routing.OneLoginOf s
  seated : (w.routing.sessions s).connection ≠ .disconnected →
    ∀ p, (w.routing.sessions s).player = some p → w.routing.Seated s p
  staying : (w.routing.sessions s).connection ≠ .disconnected →
    ∀ r, Job.leaveRoom s ∉ (w.routing.rooms r).queue

theorem playing_paired (w : World) (playing : w.Playing s) (p : ObjectId)
    (named : (w.routing.sessions s).player = some p) : w.routing.Paired s p := by
  have single (id : ObjectId) (bound : w.routing.Bound s id) : id = p :=
    oneLogin_bound s w playing.toSound playing.once id p bound (.inl named)
  constructor
  · intro s' named'
    exact playing.session_unique s' s p (.inl named') (.inl named)
  · intro id named'
    exact single id (.inl named')
  · intro id names
    exact single id (.inr (.inl names))

theorem step_seated (w next : World) (e : Event) (playing : w.Playing s) (spared : Spared s w e)
    (stepped : w.step data e = some next)
    (stays : (next.routing.sessions s).connection ≠ .disconnected) :
    (∀ p, (next.routing.sessions s).player = some p → next.routing.Seated s p) ∧
      ∀ r, Job.leaveRoom s ∉ (next.routing.rooms r).queue := by
  cases step_stepped data w next e stepped with
  | enter r s' id rest rand front result =>
      rw [result, enter_routing] at stays ⊢
      have connection : (w.routing.sessions s).connection ≠ .disconnected := by
        rw [Routing.entered_sessions] at stays
        split at stays
        case isTrue same => rwa [same]
        case isFalse => exact stays
      obtain ⟨pass, -, -, batch⟩ := nextJob_some _ r _ rest front
      constructor
      · intro p named
        apply Routing.seated_entered s p w.routing r s' id rest front
        intro other
        apply playing.seated connection p
        rw [Routing.entered_sessions] at named
        split at named
        · exact absurd (Option.some.inj named) other
        · exact named
      · intro r' waiting
        rw [Routing.entered_queue] at waiting
        exact playing.staying connection r'
          (Routing.queue_of_popJob w.routing r r' _ rest batch _ waiting)
  | ran r job rest rand front remains result =>
      have ranged := (forJob_keeps w r job rest rand front).inRange playing.inRange
      have calm := runJob_calm data (w.forJob r rest rand) r job ranged remains
      rw [result] at stays ⊢
      rw [calm.sessions] at stays
      obtain ⟨pass, -, -, batch⟩ := nextJob_some _ r job rest front
      constructor
      · intro p named
        rw [calm.sessions] at named
        have paired := playing_paired s w playing p named
        apply runJob_seated data s p (w.forJob r rest rand) r job ranged remains
        · intro same
          have queued := Routing.nextJob_queued w.routing r job rest front
          rw [same] at queued
          exact playing.staying stays r queued
        · intro s' pkt attack killed
          rw [attack] at front
          exact spared r s' pkt rest rand p rfl front killed named
        · exact ⟨paired.session, paired.player, paired.playerSession⟩
        · apply Routing.seated_popJob s p w.routing r job rest front _ (playing.seated stays p named)
          intro same
          rw [same] at remains
          cases remains
      · intro r' waiting
        rcases calm.jobs r' _ waiting with before | new
        · exact playing.staying stays r'
            (Routing.queue_of_popJob w.routing r r' job rest batch _ before)
        · exact new rfl
  | login s' username connected result =>
      subst result
      rcases handleCLogin_cases data w s' username with ⟨store, looked, -⟩ | ⟨-, -, logged, -⟩
      · rw [looked] at stays ⊢
        exact ⟨playing.seated stays, playing.staying stays⟩
      · rw [logged] at stays ⊢
        have session : (w.routing.sessions s).connection ≠ .disconnected ∧
            ((w.routing.loggedIn s' (w.routing.store.accountOf username) w.idGen
              (w.loginMade data username).2).sessions s).player =
              (w.routing.sessions s).player := by
          rw [Routing.loggedIn_sessions] at stays ⊢
          split at stays
          case isTrue same => exact ⟨same ▸ stays, by rw [if_pos same, same]⟩
          case isFalse other => exact ⟨stays, by rw [if_neg other]⟩
        constructor
        · intro p named
          rw [session.2] at named
          apply Routing.seated_of_parts s p (playing.seated session.1 p named)
          · rw [Routing.loggedIn_playerRoom]
          · intro r standing
            rw [Routing.loggedIn_players]
            exact standing
          · intro r waiting
            exact Routing.loggedIn_queue _ _ _ _ _ r _ waiting
        · intro r waiting
          rcases Routing.loggedIn_jobs _ _ _ _ _ r _ waiting with before | new
          · exact playing.staying session.1 r before
          · cases new
  | left s' connected result =>
      subst result
      have rests := onDisconnected_rests w s'
      have other : s ≠ s' := by
        intro same
        rw [onDisconnected_sessions, if_pos same] at stays
        exact stays rfl
      rw [onDisconnected_sessions, if_neg other] at stays
      constructor
      · intro p named
        rw [onDisconnected_sessions, if_neg other] at named
        exact Routing.seated_rests s p rests (playing.seated stays p named)
      · intro r waiting
        rcases onDisconnected_queue w s' r _ waiting with before | new
        · exact playing.staying stays r before
        · exact other (Job.leaveRoom.inj new)
  | other e idles =>
      rw [Ne, idles.disconnected] at stays
      constructor
      · intro p named
        rw [idles.player] at named
        exact Routing.seated_rests s p idles.toRests (playing.seated stays p named)
      · intro r waiting
        exact playing.staying stays r (idles.leaving r s waiting)

theorem step_playing (w next : World) (e : Event) (playing : w.Playing s)
    (once : LogsInOnce s w e) (spared : Spared s w e) (stepped : w.step data e = some next) :
    next.Playing s where
  toSound := step_sound data w next e playing.toSound stepped
  once := step_oneLoginOf data s w next e playing.toSound playing.once once stepped
  seated := fun stays => (step_seated data s w next e playing spared stepped stays).1
  staying := fun stays => (step_seated data s w next e playing spared stepped stays).2

theorem init_playing (store : Store) (redisConnected : Bool) (rand : List Nat) :
    (World.init data store redisConnected rand).Playing s := by
  have blank := init_blank data store redisConnected rand
  constructor
  · exact init_sound data store redisConnected rand
  · intro l member
    rw [blank.logins] at member
    cases member
  · intro _ p named
    rw [blank.sessions] at named
    cases named
  · intro _ r waiting
    rw [blank.queue] at waiting
    cases waiting

end Session

def Store.lastSave (store : Store) (account : AccountId) : Option SaveCall :=
  store.saves.find? (·.account = account)

def SavedAsItIs (w : World) (account : AccountId) (p : ObjectId) : Prop :=
  ∃ call, w.routing.store.lastSave account = some call ∧
    call.data = (w.scene.players p).toSaveData

def NoOtherSave (account : AccountId) (w : World) (e : Event) : Prop :=
  ∀ s id, e = .disconnect s → lockPlayer w.routing w.scene [] s = some id →
    (w.routing.sessions s).accountId ≠ account

structure World.SavedBy (call : SaveCall) (w : World) : Prop extends w.Sound where
  rows : w.routing.store.rows call.account ≠ none
  last : w.routing.store.lastSave call.account = some call

theorem lastSave_cons (store : Store) (saves : List SaveCall) (call other : SaveCall)
    (added : store.saves = other :: saves) (apart : other.account ≠ call.account)
    (last : saves.find? (·.account = call.account) = some call) :
    store.lastSave call.account = some call := by
  rw [Store.lastSave, added, List.find?_cons_of_neg]
  · exact last
  · simpa using apart

theorem step_savedBy (call : SaveCall) (w next : World) (e : Event) (saved : w.SavedBy call)
    (alone : NoOtherSave call.account w e) (stepped : w.step data e = some next) :
    next.SavedBy call := by
  have sound := step_sound data w next e saved.toSound stepped
  cases step_stored data w next e saved.inRange stepped with
  | kept e rows saves =>
      refine ⟨sound, ?_, ?_⟩
      · rw [rows]
        exact saved.rows
      · rw [Store.lastSave, saves]
        exact saved.last
  | created s username data' named missing logins rows saves =>
      have apart : w.routing.store.accountOf username ≠ call.account := by
        intro same
        rw [same] at missing
        exact saved.rows missing
      refine ⟨sound, ?_, ?_⟩
      · rw [rows, Function.update_of_ne apart.symm]
        exact saved.rows
      · exact lastSave_cons _ _ call _ saves apart saved.last
  | left s made writes store =>
      obtain ⟨locked, account, -⟩ := disconnectSave_some w s made writes
      have apart : made.account ≠ call.account := by
        rw [account]
        exact alone s made.player rfl locked
      have rows : next.routing.store.rows call.account = w.routing.store.rows call.account := by
        rw [store]
        exact Function.update_of_ne apart.symm _ _
      refine ⟨sound, ?_, ?_⟩
      · rw [rows]
        exact saved.rows
      · apply lastSave_cons _ w.routing.store.saves call made _ apart saved.last
        rw [store]
        rfl

theorem disconnect_saves (s : SessionId) (w next : World) (l : Login) (playing : w.Playing s)
    (login : l ∈ w.routing.logins) (mine : l.session = s)
    (entered : (w.routing.sessions s).player = some l.player)
    (stepped : w.step data (.disconnect s) = some next) :
    lockPlayer w.routing w.scene [] s = some l.player ∧
      next.SavedBy ⟨l.account, l.player, (w.scene.players l.player).toSaveData⟩ := by
  have sound := step_sound data w next _ playing.toSound stepped
  obtain ⟨acted, -⟩ := step_act data w next _ stepped
  simp only [World.act] at acted
  split at acted
  case isFalse => cases acted
  case isTrue connected =>
    cases acted
    have stays : (w.routing.sessions s).connection ≠ .disconnected := by
      rw [connected]
      decide
    have alive := Routing.seated_alive s l.player w.routing w.scene playing.inRange
      (playing.seated stays l.player entered)
    have locked := lockPlayer_of_alive w.routing w.scene [] s l.player entered alive
    have account : (w.routing.sessions s).accountId = l.account := by
      have latest : (w.routing.latestLogin s).isSome := by
        simp only [Routing.latestLogin, List.find?_isSome, decide_eq_true_eq]
        exact ⟨l, login, mine⟩
      obtain ⟨l', found⟩ := Option.isSome_iff_exists.mp latest
      have mine' : l'.session = s := by simpa using List.find?_some found
      rw [playing.accountId, found,
        playing.once l' (List.mem_of_find?_eq_some found) l login mine' mine]
      rfl
    have positive : 0 < l.account := Nat.pos_of_ne_zero (playing.account l login)
    have made : disconnectSave w s =
        some ⟨l.account, l.player, (w.scene.players l.player).toSaveData⟩ := by
      simp only [disconnectSave, locked, account, if_pos positive]
    refine ⟨locked, sound, ?_, ?_⟩
    · rw [onDisconnected_store, made]
      simp [Store.savePlayerData]
    · rw [onDisconnected_store, made]
      simp [Store.lastSave, Store.savePlayerData]

/-- Players 1 and 2 in the first town, the second one below the first and facing it. -/
def facingPlayers : List Event :=
  [Event.connect 1, .connect 2, .packet 1 (.login [97]), .packet 2 (.login [98])] ++ updateTown 2 ++
    [Event.packet 1 (.move ⟨Dir.up⟩)] ++ updateTown 1

def swordAttack : Event := .packet 2 (.attack ⟨Dir.up, WeaponType.sword⟩)

def playsOn (w : World) : Event → Bool
  | .packet 1 (.login _) => w.routing.logins.all fun l => l.session ≠ 1
  | .job rand =>
      match w.routing.nextJob with
      | some (r, .attack s pkt, rest) =>
          (attackVictim (w.forJob r rest rand) r s pkt).all fun victim =>
            (w.routing.sessions 1).player ≠ some victim
      | _ => true
  | _ => true

theorem playsOn_once (w : World) (e : Event) (checked : playsOn w e = true) :
    LogsInOnce 1 w e := by
  rintro username rfl - l member
  exact of_decide_eq_true (List.all_eq_true.mp checked l member)

theorem playsOn_spared (w : World) (e : Event) (checked : playsOn w e = true) : Spared 1 w e := by
  rintro r s' pkt rest rand victim rfl front killed
  simp only [playsOn, front, killed, Option.all_some, decide_eq_true_eq] at checked
  exact checked

def noDisconnect (_ : World) : Event → Bool
  | .disconnect _ => false
  | _ => true

theorem noDisconnect_alone (account : AccountId) (w : World) (e : Event)
    (checked : noDisconnect w e = true) : NoOtherSave account w e := by
  rintro s id rfl
  cases checked

end ZeldaServer
