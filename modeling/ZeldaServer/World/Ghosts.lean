import ZeldaServer.World.Logins

/-! Players that outlive their session. Once a session has disconnected, each of its players
that still stands in a room is waited for by the session's `LeaveRoom` there, as long as the
disconnect and the `EnterRoom` jobs behind it find that room. -/

namespace ZeldaServer

variable (data : GameData)

namespace Routing

variable (s : SessionId)

/-- Once the session is gone and every queue is drained, none of its players is in a room. -/
def GhostFree (a : Routing) : Prop :=
  (a.sessions s).connection = .disconnected → (∀ r, (a.rooms r).queue = []) →
    ∀ r p, p ∈ (a.rooms r).players → a.playerSession p ≠ some s

/-- A player of the session that stands in a room is the one the session names, and will
be asked to leave. -/
def Tidy (a : Routing) : Prop :=
  ∀ r p, p ∈ (a.rooms r).players → a.playerSession p = some s →
    (a.sessions s).player = some p ∧ .leaveRoom s ∈ (a.rooms r).queue

theorem Tidy.ghostFree {a : Routing} (tidy : a.Tidy s) : a.GhostFree s := by
  intro _ drained r p standing session
  have waits := (tidy r p standing session).2
  rw [drained r] at waits
  cases waits

theorem Tidy.of_follows {a b : Routing} (tidy : a.Tidy s) (follows : a.Follows b) : b.Tidy s := by
  intro r p standing session
  rw [follows.playerSession] at session
  obtain ⟨named, waits⟩ := tidy r p (follows.players r p standing) session
  rw [follows.player]
  exact ⟨named, follows.queue r _ waits⟩

end Routing

section Session

variable (s : SessionId)

/-- The disconnect finds all the players the session has in rooms, and an `EnterRoom` of it
that runs later still has the `LeaveRoom` behind it in the same queue. -/
structure FindsItsPlayers (w : World) (e : Event) : Prop where
  disconnect : e = .disconnect s → ∀ r p, p ∈ (w.routing.rooms r).players →
    w.routing.playerSession p = some s →
      (w.routing.sessions s).player = some p ∧ lockRoom w.routing w.scene s = some r
  enter : ∀ rand r p rest, e = .job rand →
    w.routing.nextJob = some (r, .enterRoom s p, rest) →
    (w.routing.sessions s).connection = .disconnected →
      .leaveRoom s ∈ (w.routing.rooms r).queue ∧
      ∀ r' p', p' ∈ (w.routing.rooms r').players → w.routing.playerSession p' = some s → p' = p

/-- Once the session is gone, it has nobody in a room who is not asked to leave. -/
def World.Swept (w : World) : Prop :=
  w.Sound ∧ ((w.routing.sessions s).connection = .disconnected → w.routing.Tidy s)

theorem entered_tidy (w : World) (r : RoomRef) (p : ObjectId) (rest : List Job) (sound : w.Sound)
    (tidy : w.routing.Tidy s) (front : w.routing.nextJob = some (r, .enterRoom s p, rest))
    (waits : .leaveRoom s ∈ (w.routing.rooms r).queue)
    (single : ∀ r' p', p' ∈ (w.routing.rooms r').players →
      w.routing.playerSession p' = some s → p' = p) :
    (w.routing.entered r s p rest).Tidy s := by
  obtain ⟨pass, -, -, batch⟩ := nextJob_some _ r _ rest front
  have self : w.routing.Bound s p := .inr (.inr ⟨r, Routing.nextJob_queued _ r _ rest front⟩)
  have keeps (r' : RoomRef) (before : .leaveRoom s ∈ (w.routing.rooms r').queue) :
      .leaveRoom s ∈ ((w.routing.entered r s p rest).rooms r').queue := by
    rw [Routing.entered_queue]
    rcases Routing.mem_popJob _ r r' _ _ rest batch before with ⟨same, -⟩ | still
    · cases same
    · exact still
  intro r' p' standing session
  rw [Routing.entered_players] at standing
  rw [Routing.entered_playerSession] at session
  rw [Routing.entered_sessions, if_pos rfl]
  have names : p' = p := by
    split at session
    case isTrue same => exact same
    case isFalse apart =>
      exact single r' p' (standing.resolve_right fun new => apart new.2) session
  refine ⟨congrArg some names.symm, keeps r' ?_⟩
  rcases standing with before | ⟨here, -⟩
  · -- it stood there before under the same session, which was asked to leave
    obtain ⟨s', old⟩ := sound.standing r' p' before
    have same := sound.session_unique s' s p (.inr (.inl (names ▸ old))) self
    exact (tidy r' p' before (same ▸ old)).2
  · exact here ▸ waits

theorem entered_tidy_others (w : World) (r : RoomRef) (s' : SessionId) (p : ObjectId)
    (rest : List Job) (tidy : w.routing.Tidy s) (apart : s' ≠ s)
    (front : w.routing.nextJob = some (r, .enterRoom s' p, rest)) :
    (w.routing.entered r s' p rest).Tidy s := by
  obtain ⟨pass, -, -, batch⟩ := nextJob_some _ r _ rest front
  intro r' p' standing session
  rw [Routing.entered_players] at standing
  rw [Routing.entered_playerSession] at session
  rw [Routing.entered_sessions, if_neg (Ne.symm apart), Routing.entered_queue]
  split at session
  case isTrue =>
    cases session
    exact absurd rfl apart
  case isFalse other =>
    have before := standing.resolve_right fun new => other new.2
    obtain ⟨named, waits⟩ := tidy r' p' before session
    refine ⟨named, ?_⟩
    rcases Routing.mem_popJob _ r r' _ _ rest batch waits with ⟨same, -⟩ | still
    · cases same
    · exact still

theorem ran_tidy (w : World) (r : RoomRef) (job : Job) (rest : List Job) (rand : List Nat)
    (sound : w.Sound) (tidy : w.routing.Tidy s)
    (front : w.routing.nextJob = some (r, job, rest)) (stays : job.entering = none) :
    (runJob data (w.forJob r rest rand) r job).routing.Tidy s := by
  obtain ⟨pass, -, -, batch⟩ := nextJob_some _ r _ rest front
  have kept := forJob_keeps w r job rest rand front
  have ranged := kept.inRange sound.inRange
  have calm := runJob_calm data (w.forJob r rest rand) r job ranged stays
  have known := kept.registered r (nextJob_registered _ sound.inRange r job rest front)
  intro r' p standing session
  have before : p ∈ ((w.forJob r rest rand).routing.rooms r').players :=
    calm.players r' p standing
  rw [calm.playerSession] at session
  have stood := before
  rw [World.forJob, Routing.players_popJob] at stood
  obtain ⟨named, waits⟩ := tidy r' p stood session
  rw [calm.player]
  refine ⟨named, ?_⟩
  rcases Routing.mem_popJob _ r r' _ _ rest batch waits with ⟨same, here⟩ | still
  · -- the `LeaveRoom` itself has run: the player is not there any more
    rw [here] at before standing
    have alive := standing_alive _ (w.forJob r rest rand).scene ranged [] r p known before
    have locked : lockPlayer (w.forJob r rest rand).routing (w.forJob r rest rand).scene [] s =
        some p := lockPlayer_of_alive _ _ _ s p named alive
    rw [← same, runJob, leaveRoom_routing, locked] at standing
    simp only [players_leave, if_true, List.mem_filter, decide_eq_true_eq, ne_eq, not_true,
      and_false] at standing
  · exact calm.queue r' _ still

theorem step_swept (w next : World) (e : Event) (swept : w.Swept s)
    (finds : FindsItsPlayers s w e) (stepped : w.step data e = some next) : next.Swept s := by
  obtain ⟨sound, tidy⟩ := swept
  refine ⟨step_sound data w next e sound stepped, ?_⟩
  intro gone
  cases step_stepped data w next e stepped with
  | enter r s' p rest rand front result =>
      rw [result, enter_routing] at gone ⊢
      by_cases same : s' = s
      · subst same
        rw [Routing.entered_sessions, if_pos rfl] at gone
        obtain ⟨waits, single⟩ := finds.enter rand r p rest rfl front gone
        exact entered_tidy s' w r p rest sound (tidy gone) front waits single
      · rw [Routing.entered_sessions, if_neg (Ne.symm same)] at gone
        exact entered_tidy_others s w r s' p rest (tidy gone) same front
  | ran r job rest rand front stays result =>
      have ranged := (forJob_keeps w r job rest rand front).inRange sound.inRange
      have calm := runJob_calm data (w.forJob r rest rand) r job ranged stays
      rw [result, calm.sessions] at gone
      rw [result]
      exact ran_tidy data s w r job rest rand sound (tidy gone) front stays
  | login s' username connected result =>
      subst result
      rcases handleCLogin_cases data w s' username with ⟨store, looked, -⟩ | ⟨-, -, logged, -⟩
      · rw [looked] at gone ⊢
        exact tidy gone
      · rw [logged, Routing.loggedIn_sessions] at gone
        rw [logged]
        split at gone
        case isTrue same =>
          rw [connected] at gone
          cases gone
        case isFalse apart =>
          intro r p standing session
          rw [Routing.loggedIn_players] at standing
          rw [Routing.loggedIn_playerSession] at session
          rw [Routing.loggedIn_sessions, if_neg apart]
          obtain ⟨named, waits⟩ := tidy gone r p standing session
          exact ⟨named, Routing.loggedIn_queue _ _ _ _ _ r _ waits⟩
  | left s' connected result =>
      subst result
      have rests := onDisconnected_rests w s'
      by_cases same : s' = s
      · subst same
        intro r p standing session
        rw [rests.samePlayers] at standing
        rw [rests.playerSession] at session
        obtain ⟨named, locked⟩ := finds.disconnect rfl r p standing session
        rw [rests.player]
        refine ⟨named, ?_⟩
        rw [onDisconnected_eq, lockRoom_disconnecting, locked]
        simp only [Routing.queue_pushJob, if_true, List.mem_append, List.mem_singleton, or_true]
      · rw [onDisconnected_sessions, if_neg (Ne.symm same)] at gone
        exact (tidy gone).of_follows s rests.toFollows
  | other e idles =>
      rw [idles.disconnected] at gone
      exact (tidy gone).of_follows s idles.toFollows

theorem init_swept (store : Store) (redisConnected : Bool) (rand : List Nat) :
    (World.init data store redisConnected rand).Swept s := by
  have blank := init_blank data store redisConnected rand
  refine ⟨init_sound data store redisConnected rand, ?_⟩
  intro _ r p standing
  rw [blank.players] at standing
  cases standing

/-- In a run in which the session's disconnect, and its `EnterRoom` jobs behind it, find its
players, it leaves none of them behind. -/
theorem ghost_free_run (store : Store) (redisConnected : Bool) (rand : List Nat)
    (events : List Event) (w : World)
    (ended : reached data store redisConnected rand events = some w)
    (finds : Runs.EachStep (World.step data) (FindsItsPlayers s)
      (World.init data store redisConnected rand) events) : w.routing.GhostFree s := by
  have start := init_swept data s store redisConnected rand
  have swept := Runs.run_invariant (FindsItsPlayers s) (World.Swept s)
    (fun w e next => step_swept data s w next e) _ w events start finds ended
  intro gone
  exact (swept.2 gone).ghostFree s gone

end Session

/-- A disconnect finds the players in all rooms; an `EnterRoom` runs while the session is
connected. -/
def findsPlayers (w : World) : Event → Bool
  | .disconnect s =>
      (List.range w.routing.roomCount).all fun r =>
        (w.routing.rooms r).players.all fun p =>
          w.routing.playerSession p = some s →
            (w.routing.sessions s).player = some p ∧ lockRoom w.routing w.scene s = some r
  | .job _ =>
      match w.routing.nextJob with
      | some (_, .enterRoom s _, _) => (w.routing.sessions s).connection ≠ .disconnected
      | _ => true
  | _ => true

theorem findsPlayers_finds (s : SessionId) (w : World) (e : Event) (sound : w.Sound)
    (checked : findsPlayers w e = true) : FindsItsPlayers s w e := by
  constructor
  · rintro rfl r p standing
    have made := List.mem_range.mpr (sound.inRange.players r p standing)
    simp only [findsPlayers, List.all_eq_true, decide_eq_true_eq] at checked
    exact checked r made p standing
  · rintro rand r p rest rfl front gone
    simp only [findsPlayers, front, decide_eq_true_eq] at checked
    exact absurd gone checked

/-- A session that logs in, enters the town and disconnects. -/
def townVisit : List Event :=
  [Event.connect 1, .packet 1 (.login [97])] ++ updateTown 1 ++ [Event.disconnect 1] ++ updateTown 1

set_option maxRecDepth 20000 in
theorem town_visit_ghost_free :
    ∃ w, reached smallGame newStore false [] townVisit = some w ∧ w.routing.GhostFree 1 := by
  have ends : (reached smallGame newStore false [] townVisit).isSome = true := by decide +kernel
  obtain ⟨w, ended⟩ := Option.isSome_iff_exists.mp ends
  refine ⟨w, ended, ghost_free_run smallGame 1 newStore false [] townVisit w ended ?_⟩
  apply Runs.eachStep_mono (fun w e => findsPlayers w e = true) _ World.Sound
  · intro w e next sound _
    exact step_sound smallGame w next e sound
  · intro w e next sound _ checked
    exact findsPlayers_finds 1 w e sound checked
  · exact init_sound smallGame newStore false []
  · exact Runs.eachStep_of_check findsPlayers _ (fun _ _ checked => checked) _ _ (by decide +kernel)

/-- The session disconnects before the town's first `Update`, which lets the player in. -/
def lateEntry : List Event :=
  [.connect 1, .packet 1 (.login [97]), .disconnect 1] ++ updateTown 1

set_option maxRecDepth 20000 in
theorem late_entry_leaves_ghost :
    ∃ w, reached smallGame newStore false [] lateEntry = some w ∧ ¬ w.routing.GhostFree 1 := by
  have run : (reached smallGame newStore false [] lateEntry).any (fun w =>
      (w.routing.sessions 1).connection = .disconnected ∧ 1 ∈ (w.routing.rooms 0).players ∧
        w.routing.playerSession 1 = some 1 ∧
        ∀ r ∈ List.range w.routing.roomCount, (w.routing.rooms r).queue = []) = true := by
    decide +kernel
  obtain ⟨w, ended, checked⟩ := Option.any_eq_true _ _ |>.mp run
  obtain ⟨gone, standing, session, drained⟩ := of_decide_eq_true checked
  refine ⟨w, ended, fun free => ?_⟩
  have sound : w.Sound := by
    apply Runs.run_preserved World.Sound _ _ w lateEntry _ ended
    · intro w e next
      exact step_sound smallGame w next e
    · exact init_sound smallGame newStore false []
  refine free gone (fun r => ?_) 0 1 standing session
  by_cases made : r < w.routing.roomCount
  · exact drained r (List.mem_range.mpr made)
  · exact (sound.inRange.unmade r (Nat.le_of_not_lt made)).2

end ZeldaServer
