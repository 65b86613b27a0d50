import ZeldaServer.Game.PartyCalls
import ZeldaServer.World.Housing
import ZeldaServer.World.Logins

/-! The parties while the server runs: who joins by answering an invitation, and whether the
members are still there. -/

namespace ZeldaServer

variable (data : GameData)

namespace PartyManager

inductive Founded (m : PartyManager) (inviterId : ObjectId) : PartyManager → Prop where
  | unnamed : Founded m inviterId (m.createParty inviterId).2
  | named (name : Bytes) : Founded m inviterId
      ((m.createParty inviterId).2.setMemberName m.partyIdGen inviterId name)

/-- An accepting answer of a player in no party: it joins the inviter's party, or a new one
of the inviter, or the inviter is left alone in the new one. -/
inductive Answered (m : PartyManager) (inviterId acceptor : ObjectId) : PartyManager → Prop where
  | joined (partyId : PartyId) (name : Bytes) (own : m.playerToParty inviterId = some partyId)
      (added : (m.addMember partyId acceptor).1 = true) :
      Answered m inviterId acceptor
        ((m.addMember partyId acceptor).2.setMemberName partyId acceptor name)
  | founded (m' : PartyManager) (name : Bytes) (free : m.playerToParty inviterId = none)
      (created : Founded m inviterId m') (added : (m'.addMember m.partyIdGen acceptor).1 = true) :
      Answered m inviterId acceptor
        ((m'.addMember m.partyIdGen acceptor).2.setMemberName m.partyIdGen acceptor name)
  | alone (m' : PartyManager) (free : m.playerToParty inviterId = none)
      (created : Founded m inviterId m')
      (refused : (m'.addMember m.partyIdGen acceptor).1 = false) : Answered m inviterId acceptor m'

theorem partyIdByPlayer_zero (m : PartyManager) (wellFormed : m.WellFormed) (x : ObjectId) :
    m.partyIdByPlayer x = 0 ↔ m.playerToParty x = none := by
  unfold partyIdByPlayer
  cases entry : m.playerToParty x with
  | none => simp
  | some partyId =>
      obtain ⟨party, present, -⟩ := (wellFormed.mapped x partyId).mp entry
      have nonzero := (wellFormed.used partyId party present).1
      simpa using nonzero

theorem createParty_free (m : PartyManager) (inviterId : ObjectId)
    (free : m.playerToParty inviterId = none) : (m.createParty inviterId).1 = m.partyIdGen := by
  rw [createParty, free]

theorem Founded.party {m m' : PartyManager} {inviterId : ObjectId}
    (founded : m.Founded inviterId m') (free : m.playerToParty inviterId = none) :
    (∃ party, m'.parties m.partyIdGen = some party ∧ party.memberIds = [inviterId] ∧
      party.leaderId = inviterId) ∧
      (∀ other, other ≠ m.partyIdGen → m'.parties other = m.parties other) ∧
      m'.playerToParty = Function.update m.playerToParty inviterId (some m.partyIdGen) := by
  cases founded with
  | unnamed =>
      rw [createParty, free]
      refine ⟨⟨_, Function.update_self .., rfl, rfl⟩, fun other apart => ?_, rfl⟩
      exact Function.update_of_ne apart ..
  | named name =>
      rw [createParty, free]
      simp only [setMemberName, Function.update_self]
      refine ⟨⟨_, rfl, rfl, rfl⟩, fun other apart => ?_, trivial⟩
      rw [Function.update_of_ne apart, Function.update_of_ne apart]

theorem Founded.wellFormed {m m' : PartyManager} {inviterId : ObjectId}
    (founded : m.Founded inviterId m') (wellFormed : m.WellFormed) : m'.WellFormed := by
  have created := createParty_wellFormed m inviterId wellFormed
  cases founded with
  | unnamed => exact created
  | named name => exact setMemberName_wellFormed _ _ inviterId name created

theorem Answered.wellFormed {m m' : PartyManager} {inviterId acceptor : ObjectId}
    (answered : m.Answered inviterId acceptor m') (wellFormed : m.WellFormed) :
    m'.WellFormed := by
  cases answered with
  | joined partyId name _ _ =>
      exact setMemberName_wellFormed _ _ _ name (addMember_wellFormed m partyId acceptor wellFormed)
  | founded m'' name _ created _ =>
      apply setMemberName_wellFormed
      exact addMember_wellFormed m'' _ acceptor (created.wellFormed wellFormed)
  | alone m'' _ created _ => exact created.wellFormed wellFormed

theorem Founded.admits {m m' : PartyManager} {inviterId acceptor : ObjectId}
    (founded : m.Founded inviterId m') (free : m.playerToParty inviterId = none)
    (alone : m.playerToParty acceptor = none) (other : inviterId ≠ acceptor) :
    ∃ party, party.memberIds = [inviterId, acceptor] ∧ party.leaderId = inviterId ∧
      m'.addMember m.partyIdGen acceptor = (true,
        { m' with
          parties := Function.update m'.parties m.partyIdGen (some party)
          playerToParty := Function.update m'.playerToParty acceptor (some m.partyIdGen) }) := by
  obtain ⟨⟨party, found, members, leads⟩, -, mapped⟩ := founded.party free
  refine ⟨{ party with memberIds := party.memberIds ++ [acceptor] }, ?_, leads, ?_⟩
  · rw [members]
    rfl
  · have unmapped : m'.playerToParty acceptor = none := by
      rw [mapped, Function.update_of_ne (Ne.symm other)]
      exact alone
    have room : ¬ maxPartySize ≤ party.memberIds.length := by
      rw [members]
      simp [maxPartySize]
    simp only [addMember, found, if_neg room, unmapped]

theorem Answered.every {m m' : PartyManager} {inviterId acceptor : ObjectId}
    (answered : m.Answered inviterId acceptor m') (property : List ObjectId → Prop)
    (every : m.Every property) (alone : m.playerToParty acceptor = none)
    (other : m.playerToParty inviterId = none → inviterId ≠ acceptor)
    (joins : ∀ members, property members → property (members ++ [acceptor]))
    (pair : m.playerToParty inviterId = none → property [inviterId, acceptor]) :
    m'.Every property := by
  cases answered with
  | joined partyId name own added =>
      apply setMemberName_every
      apply addMember_every m property partyId acceptor every
      intro party found
      exact joins _ (every partyId party found)
  | founded m'' name free created added =>
      obtain ⟨party, members, -, result⟩ := created.admits free alone (other free)
      apply setMemberName_every
      rw [result]
      intro partyId found present
      dsimp only at present
      by_cases new : partyId = m.partyIdGen
      · rw [new, Function.update_self] at present
        cases present
        rw [members]
        exact pair free
      · rw [Function.update_of_ne new, (created.party free).2.1 partyId new] at present
        exact every partyId found present
  | alone _ free created refused =>
      obtain ⟨party, -, -, result⟩ := created.admits free alone (other free)
      rw [result] at refused
      cases refused

end PartyManager

theorem inviterParty_known (w : World) (r : RoomRef) (inviterId : ObjectId) (partyId : PartyId)
    (wellFormed : w.routing.parties.WellFormed)
    (own : w.routing.parties.playerToParty inviterId = some partyId) :
    inviterParty w r inviterId = (partyId, w) ∧ partyId ≠ 0 := by
  have known : w.routing.parties.partyIdByPlayer inviterId = partyId := by
    rw [PartyManager.partyIdByPlayer, own]
    rfl
  have nonzero : partyId ≠ 0 := by
    rw [← known]
    intro zero
    rw [PartyManager.partyIdByPlayer_zero _ wellFormed, own] at zero
    cases zero
  unfold inviterParty
  dsimp only
  rw [known, if_pos nonzero]
  exact ⟨rfl, nonzero⟩

theorem inviterParty_founded (w : World) (r : RoomRef) (inviterId : ObjectId)
    (free : w.routing.parties.playerToParty inviterId = none) :
    ∃ m', (inviterParty w r inviterId) =
        (w.routing.parties.partyIdGen, { w with routing := w.routing.onParties fun _ => m' }) ∧
      w.routing.parties.Founded inviterId m' := by
  have unknown : ¬ w.routing.parties.partyIdByPlayer inviterId ≠ 0 := by
    rw [PartyManager.partyIdByPlayer, free]
    exact fun nonzero => nonzero rfl
  have gen := PartyManager.createParty_free w.routing.parties inviterId free
  unfold inviterParty
  dsimp only
  rw [if_neg unknown, gen]
  cases findObject w.routing w.scene r inviterId with
  | none => exact ⟨_, rfl, .unnamed⟩
  | some inviter => exact ⟨_, rfl, .named _⟩

theorem partyAnswer_cases (w : World) (r : RoomRef) (s : SessionId) (inviterId : ObjectId)
    (accept : Bool) (wellFormed : w.routing.parties.WellFormed) :
    (partyAnswer w r s inviterId accept).routing.parties = w.routing.parties ∨
      ∃ acceptor, lockPlayer w.routing w.scene [] s = some acceptor ∧ accept = true ∧
        w.routing.parties.playerToParty acceptor = none ∧
        w.routing.parties.Answered inviterId acceptor
          (partyAnswer w r s inviterId accept).routing.parties := by
  unfold partyAnswer
  cases lockPlayer w.routing w.scene [] s with
  | none => exact .inl rfl
  | some acceptor =>
      dsimp only
      split
      case isTrue => exact .inl rfl
      case isFalse accepts =>
        split
        case isTrue => exact .inl rfl
        case isFalse joins =>
          have alone : w.routing.parties.playerToParty acceptor = none := by
            simpa [PartyManager.isInParty] using joins
          have agreed : accept = true := by simpa using accepts
          cases own : w.routing.parties.playerToParty inviterId with
          | some partyId =>
              obtain ⟨known, nonzero⟩ := inviterParty_known w r inviterId partyId wellFormed own
              rw [known]
              dsimp only
              rw [if_neg nonzero]
              cases added : (w.routing.parties.addMember partyId acceptor).1 with
              | false => exact .inl rfl
              | true =>
                  right
                  refine ⟨acceptor, rfl, agreed, alone, ?_⟩
                  rw [Bool.not_true, if_neg Bool.false_ne_true, sendPartyUpdateFromRoom_routing]
                  exact .joined partyId _ own added
          | none =>
              obtain ⟨m', created, founded⟩ := inviterParty_founded w r inviterId own
              rw [created]
              dsimp only
              rw [if_neg wellFormed.idGen]
              right
              refine ⟨acceptor, rfl, agreed, alone, ?_⟩
              cases added : (m'.addMember w.routing.parties.partyIdGen acceptor).1 with
              | false =>
                  have refused : ((({ w with routing := w.routing.onParties fun _ => m' } :
                    World).routing.parties).addMember w.routing.parties.partyIdGen acceptor).1 =
                      false := added
                  rw [refused, Bool.not_false, if_pos rfl]
                  exact .alone m' own founded added
              | true =>
                  have joined : ((({ w with routing := w.routing.onParties fun _ => m' } :
                    World).routing.parties).addMember w.routing.parties.partyIdGen acceptor).1 =
                      true := added
                  rw [joined, Bool.not_true, if_neg Bool.false_ne_true,
                    sendPartyUpdateFromRoom_routing]
                  exact .founded m' _ own founded added

theorem partyLeave_parties (w : World) (r : RoomRef) (s : SessionId) :
    w.routing.parties.MayLeave (partyLeave w r s).routing.parties := by
  obtain ⟨parties, result, left⟩ := partyLeave_routing w r s
  rw [result]
  exact left

theorem onDisconnected_parties (w : World) (s : SessionId) :
    w.routing.parties.MayLeave (onDisconnected w s).routing.parties := by
  obtain ⟨store, parties, result, left⟩ := disconnecting_routing w s
  have parted : w.routing.parties.MayLeave (disconnecting w s).routing.parties := by
    rw [result]
    exact left
  rw [onDisconnected_eq]
  cases lockRoom (disconnecting w s).routing (disconnecting w s).scene s <;> exact parted

theorem step_parties (w next : World) (e : Event) (inRange : w.routing.InRange)
    (wellFormed : w.routing.parties.WellFormed) (stepped : w.step data e = some next) :
    w.routing.parties.MayLeave next.routing.parties ∨
      ∃ rand r s inviterId rest acceptor, e = .job rand ∧
        w.routing.nextJob = some (r, .partyAnswer s inviterId true, rest) ∧
        lockPlayer (w.forJob r rest rand).routing (w.forJob r rest rand).scene [] s =
          some acceptor ∧
        w.routing.parties.playerToParty acceptor = none ∧
        w.routing.parties.Answered inviterId acceptor next.routing.parties := by
  cases step_stepped data w next e stepped with
  | enter r s id rest rand front result =>
      left
      rw [result, enter_routing]
      exact .inl rfl
  | ran r job rest rand front stays result =>
      obtain ⟨ranged, known⟩ := forJob_room w inRange r job rest rand front
      rw [result]
      by_cases other : job.changesParties = false
      · have kept := worked_parties (w.forJob r rest rand) r job _
          (runJob_worked data _ r job ranged known stays) other
        exact .inl (.inl kept)
      · cases job with
        | partyLeave s =>
            rw [runJob]
            exact .inl (partyLeave_parties (w.forJob r rest rand) r s)
        | partyAnswer s inviterId accept =>
            rw [runJob]
            rcases partyAnswer_cases (w.forJob r rest rand) r s inviterId accept wellFormed with
              same | ⟨acceptor, locked, accepts, alone, answered⟩
            · exact .inl (.inl same)
            · subst accepts
              exact .inr ⟨rand, r, s, inviterId, rest, acceptor, rfl, front, locked, alone, answered⟩
        | _ => exact absurd rfl other
  | login s username connected result =>
      left
      left
      rw [result]
      rcases handleCLogin_cases data w s username with ⟨store, kept, -⟩ | ⟨-, -, kept, -⟩
      · rw [kept]
        rfl
      · rw [kept]
        exact Routing.loggedIn_parties ..
  | left s connected result =>
      rw [result]
      exact .inl (onDisconnected_parties w s)
  | other e idles => exact .inl (.inl idles.parties)

theorem step_wellFormedParties (w next : World) (e : Event) (inRange : w.routing.InRange)
    (wellFormed : w.routing.parties.WellFormed) (stepped : w.step data e = some next) :
    next.routing.parties.WellFormed := by
  rcases step_parties data w next e inRange wellFormed stepped with
    (same | ⟨player, partyId, own, result⟩) | ⟨rand, r, s, inviterId, rest, acceptor, -, -, -, -, answered⟩
  · rw [same]
    exact wellFormed
  · rw [result]
    apply PartyManager.removeMember_wellFormed _ _ _ wellFormed
    exact fun _ _ => .inl own
  · exact answered.wellFormed wellFormed

structure World.Governed (w : World) : Prop extends w.Sound where
  housed : w.routing.Housed
  parties : w.routing.parties.WellFormed

theorem step_governed (w next : World) (e : Event) (governed : w.Governed)
    (stepped : w.step data e = some next) : next.Governed where
  toSound := step_sound data w next e governed.toSound stepped
  housed := step_housed data w next e governed.inRange governed.housed stepped
  parties := step_wellFormedParties data w next e governed.inRange governed.parties stepped

theorem init_governed (store : Store) (redisConnected : Bool) (rand : List Nat) :
    (World.init data store redisConnected rand).Governed := by
  refine ⟨init_sound data store redisConnected rand, init_housed data store redisConnected rand, ?_⟩
  rw [(init_blank data store redisConnected rand).parties]
  exact .initial

theorem reached_governed (store : Store) (redisConnected : Bool) (rand : List Nat)
    (events : List Event) (w : World)
    (run : reached data store redisConnected rand events = some w) : w.Governed := by
  apply Runs.run_preserved World.Governed _ _ w events (init_governed data store redisConnected rand)
    run
  intro w e next governed stepped
  exact step_governed data w next e governed stepped

/-- The player has a place besides the one in room `r`. -/
def Routing.PlacedApart (a : Routing) (r : RoomRef) (id : ObjectId) : Prop :=
  (∃ r', r' ≠ r ∧ id ∈ (a.rooms r').players) ∨ ∃ r' s, .enterRoom s id ∈ (a.rooms r').queue

/-- A job takes the player's place in room `r` away only by killing it, by `LeaveRoom`, or by
moving it along without an `EnterRoom` of its own. -/
structure Keeps (w : World) (r : RoomRef) (job : Job) (id : ObjectId) : Prop where
  killed : ∀ s pkt, job = .attack s pkt → attackVictim w r s pkt = some id →
    w.routing.PlacedApart r id
  leaving : ∀ s, job = .leaveRoom s → lockPlayer w.routing w.scene [] s = some id →
    w.routing.PlacedApart r id
  moving : ∀ s requester, opensDungeon w job = some (s, requester) →
    ∀ member ∈ goAlong w.routing r s requester, (w.routing.sessions member.1).player = some id →
      (∃ s', (s', id) ∈ goAlong w.routing r s requester) ∨ w.routing.PlacedApart r id

theorem changesChannel_named (w : World) (job : Job) (dest : RoomRef) (s : SessionId)
    (requester : ObjectId) (changes : changesChannel w job = some (dest, s, requester)) :
    (w.routing.sessions s).player = some requester := by
  cases job with
  | changeMap s' pkt =>
      simp only [changesChannel] at changes
      cases locked : lockPlayer w.routing w.scene [] s' with
      | none => simp [locked] at changes
      | some other =>
          simp only [locked] at changes
          split at changes
          case isTrue =>
            obtain ⟨found, -, same⟩ := Option.map_eq_some_iff.mp changes
            cases same
            exact (lockPlayer_some _ _ _ _ _ locked).1
          case isFalse => cases changes
  | _ => cases changes

theorem moves_placed {source dest : RoomRef} {moves : List (SessionId × ObjectId)}
    {a b : Routing} (moved : Routing.Moves source dest moves a b) (id : ObjectId)
    (placed : a.Placed id)
    (keeps : ∀ member ∈ moves, (a.sessions member.1).player = some id →
      (∃ s, (s, id) ∈ moves) ∨ a.PlacedApart source id) : b.Placed id := by
  have waits (r : RoomRef) (job : Job) (waiting : job ∈ (a.rooms r).queue) :
      job ∈ (b.rooms r).queue := by
    rw [Room.queue, (moves_sameRoom moved r).batch, moves_jobs moved, ← List.append_assoc]
    exact List.mem_append_left _ waiting
  have arrives (s : SessionId) (member : (s, id) ∈ moves) : b.Placed id := by
    refine ⟨dest, .inr ⟨s, ?_⟩⟩
    rw [Room.queue, moves_jobs moved, if_pos rfl, ← List.append_assoc]
    apply List.mem_append_right
    exact List.mem_map.mpr ⟨(s, id), member, rfl⟩
  by_cases leaving : ∃ member ∈ moves, (a.sessions member.1).player = some id
  · obtain ⟨member, goes, named⟩ := leaving
    rcases keeps member goes named with ⟨s, moves_too⟩ | ⟨r, apart, standing⟩ | ⟨r, s, waiting⟩
    · exact arrives s moves_too
    · exact ⟨r, .inl ((moves_players moved r id).mpr ⟨standing, fun same => absurd same apart⟩)⟩
    · exact ⟨r, .inr ⟨s, waits r _ waiting⟩⟩
  · obtain ⟨r, standing | ⟨s, waiting⟩⟩ := placed
    · refine ⟨r, .inl ((moves_players moved r id).mpr ⟨standing, fun _ member goes named => ?_⟩)⟩
      exact leaving ⟨member, goes, named⟩
    · exact ⟨r, .inr ⟨s, waits r _ waiting⟩⟩

theorem erased_placed {a b : Routing} (r : RoomRef) (victim id : ObjectId) (placed : a.Placed id)
    (queue : ∀ r', (b.rooms r').queue = (a.rooms r').queue)
    (players : ∀ r', (b.rooms r').players =
      if r' = r then (a.rooms r').players.filter (· ≠ victim) else (a.rooms r').players)
    (keeps : victim = id → a.PlacedApart r id) : b.Placed id := by
  by_cases same : victim = id
  · rcases keeps same with ⟨r', apart, standing⟩ | ⟨r', s, waiting⟩
    · refine ⟨r', .inl ?_⟩
      rw [players, if_neg apart]
      exact standing
    · refine ⟨r', .inr ⟨s, ?_⟩⟩
      rw [queue]
      exact waiting
  · obtain ⟨r', standing | ⟨s, waiting⟩⟩ := placed
    · refine ⟨r', .inl ?_⟩
      rw [players]
      split
      · exact List.mem_filter.mpr ⟨standing, decide_eq_true (Ne.symm same)⟩
      · exact standing
    · refine ⟨r', .inr ⟨s, ?_⟩⟩
      rw [queue]
      exact waiting

theorem worked_placed (w : World) (r : RoomRef) (job : Job) (b : Routing) (id : ObjectId)
    (inRange : w.routing.InRange) (worked : w.Worked r job b) (placed : w.routing.Placed id)
    (keeps : Keeps w r job id) : b.Placed id := by
  cases worked with
  | rooms rooms => rwa [Routing.Placed, rooms]
  | buried victim s pkt attack killed result =>
      rw [result]
      apply erased_placed r victim id placed
      · exact fun r' => Routing.queue_erasePlayer w.routing r r' victim
      · exact fun r' => Routing.players_erasePlayer w.routing r r' victim
      · intro same
        subst same
        exact keeps.killed s pkt attack killed
  | left s player leaves locked result =>
      rw [result]
      apply erased_placed r player id placed
      · intro r'
        rw [Room.queue, Room.queue, (Routing.sameRoom_leave w.routing r r' player).batch,
          Routing.jobs_leave]
      · exact fun r' => players_leave w.routing r r' player
      · intro same
        subst same
        exact keeps.leaving s leaves locked
  | moved dest s requester changes result =>
      apply moves_placed result id placed
      intro member goes named
      left
      rw [List.mem_singleton] at goes
      subst goes
      rw [changesChannel_named w job dest s requester changes] at named
      cases named
      exact ⟨s, List.mem_singleton.mpr rfl⟩
  | opened s requester opens result =>
      have rooms (r' : RoomRef) (made : r' < w.routing.roomCount) :
          w.routing.openDungeon.rooms r' = w.routing.rooms r' := by
        rw [Routing.Housed.rooms_openDungeon, if_neg (Nat.ne_of_lt made)]
      apply moves_placed result id
      · obtain ⟨r', standing | ⟨s', waiting⟩⟩ := placed
        · refine ⟨r', .inl ?_⟩
          rwa [rooms r' (inRange.players r' id standing)]
        · refine ⟨r', .inr ⟨s', ?_⟩⟩
          rwa [rooms r' (inRange.queue r' _ waiting)]
      · intro member goes named
        apply (keeps.moving s requester opens member goes named).imp_right
        rintro (⟨r', apart, standing⟩ | ⟨r', s', waiting⟩)
        · refine .inl ⟨r', apart, ?_⟩
          rwa [rooms r' (inRange.players r' id standing)]
        · refine .inr ⟨r', s', ?_⟩
          rwa [rooms r' (inRange.queue r' _ waiting)]

theorem step_placed (w next : World) (e : Event) (id : ObjectId) (inRange : w.routing.InRange)
    (placed : w.routing.Placed id)
    (keeps : ∀ r job rest rand, e = .job rand → w.routing.nextJob = some (r, job, rest) →
      Keeps (w.forJob r rest rand) r job id)
    (stepped : w.step data e = some next) : next.routing.Placed id := by
  have rests (b : Routing) (rests : w.routing.Rests b) : b.Placed id := by
    obtain ⟨r, standing | ⟨s, waiting⟩⟩ := placed
    · exact ⟨r, .inl (rests.samePlayers r ▸ standing)⟩
    · exact ⟨r, .inr ⟨s, rests.queue r _ waiting⟩⟩
  cases step_stepped data w next e stepped with
  | enter r s other rest rand front result =>
      obtain ⟨pass, -, -, batch⟩ := nextJob_some _ r _ rest front
      rw [result, enter_routing]
      obtain ⟨r', standing | ⟨s', waiting⟩⟩ := placed
      · exact ⟨r', .inl ((Routing.entered_players r' id).mpr (.inl standing))⟩
      · rcases Routing.mem_popJob _ r r' _ _ rest batch waiting with ⟨same, -⟩ | still
        · cases same
          exact ⟨r, .inl ((Routing.entered_players r id).mpr (.inr ⟨rfl, rfl⟩))⟩
        · refine ⟨r', .inr ⟨s', ?_⟩⟩
          rwa [Routing.entered_queue]
  | ran r job rest rand front stays result =>
      obtain ⟨ranged, known⟩ := forJob_room w inRange r job rest rand front
      obtain ⟨pass, -, -, batch⟩ := nextJob_some _ r _ rest front
      have popped : (w.forJob r rest rand).routing.Placed id := by
        obtain ⟨r', standing | ⟨s', waiting⟩⟩ := placed
        · refine ⟨r', .inl ?_⟩
          rw [← Routing.players_popJob w.routing r r' rest] at standing
          exact standing
        · rcases Routing.mem_popJob _ r r' _ _ rest batch waiting with ⟨same, -⟩ | still
          · rw [← same] at stays
            cases stays
          · exact ⟨r', .inr ⟨s', still⟩⟩
      rw [result]
      exact worked_placed _ r job _ id ranged (runJob_worked data _ r job ranged known stays) popped
        (keeps r job rest rand rfl front)
  | login s username connected result =>
      rw [result]
      rcases handleCLogin_cases data w s username with ⟨store, kept, -⟩ | ⟨-, -, kept, -⟩
      · rw [kept]
        exact placed
      · rw [kept]
        obtain ⟨r, standing | ⟨s', waiting⟩⟩ := placed
        · refine ⟨r, .inl ?_⟩
          rwa [Routing.loggedIn_players]
        · exact ⟨r, .inr ⟨s', Routing.loggedIn_queue _ _ _ _ _ r _ waiting⟩⟩
  | left s connected result =>
      rw [result]
      exact rests _ (onDisconnected_rests w s)
  | other e idles => exact rests _ idles.toRests

/-- A live player: in a room that is alive, or waited for by an `EnterRoom`. -/
def World.LivePlayer (w : World) (id : ObjectId) : Prop :=
  ∃ r, (id ∈ (w.routing.rooms r).players ∧ roomAlive w.routing w.scene r = true) ∨
    ∃ s, .enterRoom s id ∈ (w.routing.rooms r).queue

def GoodParties (w : World) : Prop :=
  ∀ partyId party, w.routing.parties.parties partyId = some party →
    2 ≤ party.memberIds.length ∧ party.memberIds.length ≤ PartyManager.maxPartySize ∧
      ∀ id ∈ party.memberIds, w.LivePlayer id

/-- An answer that does not make its player a member leaves the parties as they were. -/
def AnswerAtomic (w : World) (e : Event) : Prop :=
  ∀ next r s inviterId accept rest rand, e = .job rand →
    w.routing.nextJob = some (r, .partyAnswer s inviterId accept, rest) →
    w.step data e = some next →
    next.routing.parties = w.routing.parties ∨
      ∃ acceptor, lockPlayer (w.forJob r rest rand).routing (w.forJob r rest rand).scene [] s =
          some acceptor ∧
        w.routing.parties.isInParty acceptor = false ∧
        next.routing.parties.isInParty acceptor = true

/-- Who accepts without being in a party names an inviter with a party, or another live
player; and no job takes a member's only place away. -/
structure PartyConduct (w : World) (e : Event) : Prop where
  answers : ∀ r s inviterId rest rand acceptor, e = .job rand →
    w.routing.nextJob = some (r, .partyAnswer s inviterId true, rest) →
    lockPlayer (w.forJob r rest rand).routing (w.forJob r rest rand).scene [] s = some acceptor →
    w.routing.parties.isInParty acceptor = false →
    w.routing.parties.isInParty inviterId = true ∨ (inviterId ≠ acceptor ∧ w.LivePlayer inviterId)
  places : ∀ r job rest rand, e = .job rand → w.routing.nextJob = some (r, job, rest) →
    ∀ id, w.routing.parties.isInParty id = true → Keeps (w.forJob r rest rand) r job id

structure World.Peopled (w : World) : Prop where
  inRange : w.routing.InRange
  housed : w.routing.Housed
  wellFormed : w.routing.parties.WellFormed
  members : w.routing.parties.Every fun members =>
    2 ≤ members.length ∧ ∀ id ∈ members, w.routing.Placed id

theorem live_placed (w : World) (id : ObjectId) (live : w.LivePlayer id) : w.routing.Placed id := by
  obtain ⟨r, ⟨standing, -⟩ | waiting⟩ := live
  · exact ⟨r, .inl standing⟩
  · exact ⟨r, .inr waiting⟩

theorem peopled_good (w : World) (peopled : w.Peopled) : GoodParties w := by
  intro partyId party present
  obtain ⟨enough, placed⟩ := peopled.members partyId party present
  refine ⟨enough, (peopled.wellFormed.party partyId party present).size, fun id member => ?_⟩
  obtain ⟨r, standing | waiting⟩ := placed id member
  · have known := peopled.housed.registered r (.inl ⟨id, standing⟩)
    exact ⟨r, .inl ⟨standing, registered_alive w.routing w.scene r known⟩⟩
  · exact ⟨r, .inr waiting⟩

theorem step_peopled (w next : World) (e : Event) (peopled : w.Peopled)
    (conduct : PartyConduct w e) (stepped : w.step data e = some next) : next.Peopled := by
  have inRange := peopled.inRange
  have wellFormed := peopled.wellFormed
  refine ⟨step_inRange data w next e inRange stepped,
    step_housed data w next e inRange peopled.housed stepped,
    step_wellFormedParties data w next e inRange wellFormed stepped, ?_⟩
  have before : w.routing.parties.Every fun members =>
      2 ≤ members.length ∧ ∀ id ∈ members, next.routing.Placed id := by
    intro partyId party present
    obtain ⟨enough, placed⟩ := peopled.members partyId party present
    refine ⟨enough, fun id member => ?_⟩
    apply step_placed data w next e id inRange (placed id member) _ stepped
    intro r job rest rand event front
    apply conduct.places r job rest rand event front id
    rw [PartyManager.isInParty, wellFormed.entry id partyId party present member]
    rfl
  rcases step_parties data w next e inRange wellFormed stepped with
    (same | ⟨player, partyId, own, result⟩) |
    ⟨rand, r, s, inviterId, rest, acceptor, event, front, locked, alone, answered⟩
  · rw [same]
    exact before
  · rw [result]
    apply PartyManager.removeMember_every _ _ _ _ before
    rintro members ⟨-, placed⟩ enough
    exact ⟨enough, fun id member => placed id (List.mem_of_mem_filter member)⟩
  · have free : w.routing.parties.isInParty acceptor = false := by
      rw [PartyManager.isInParty, alone]
      rfl
    have named (unknown : w.routing.parties.playerToParty inviterId = none) :
        inviterId ≠ acceptor ∧ w.LivePlayer inviterId := by
      rcases conduct.answers r s inviterId rest rand acceptor event front locked free with
        inParty | found
      · rw [PartyManager.isInParty, unknown] at inParty
        cases inParty
      · exact found
    -- an answer moves nobody
    have stays (id : ObjectId) (placed : w.routing.Placed id) : next.routing.Placed id := by
      apply step_placed data w next e id inRange placed _ stepped
      intro r' job rest' rand' event' front'
      rw [front] at front'
      cases front'
      constructor
      · intro s pkt attack
        cases attack
      · intro s leaving
        cases leaving
      · intro s requester opens
        cases opens
    obtain ⟨pass, -, -, batch⟩ := nextJob_some _ r _ rest front
    have joins : next.routing.Placed acceptor := by
      apply stays
      exact Routing.popJob_placed w.routing r _ rest front acceptor
        (placed_of_alive _ _ _ (lockPlayer_some _ _ _ _ _ locked).2)
    apply answered.every _ before alone fun unknown => (named unknown).1
    · rintro members ⟨enough, placed⟩
      refine ⟨by simp; omega, fun id member => ?_⟩
      rcases List.mem_append.mp member with old | new
      · exact placed id old
      · rw [List.mem_singleton] at new
        rw [new]
        exact joins
    · intro unknown
      refine ⟨Nat.le_refl 2, fun id member => ?_⟩
      rcases List.mem_cons.mp member with rfl | new
      · exact stays _ (live_placed w _ (named unknown).2)
      · rw [List.mem_singleton] at new
        rw [new]
        exact joins

theorem addMember_added (m : PartyManager) (partyId : PartyId) (playerId : ObjectId)
    (added : (m.addMember partyId playerId).1 = true) :
    ∃ party, m.parties partyId = some party ∧ (m.addMember partyId playerId).2 =
      { m with
        parties := Function.update m.parties partyId
          (some { party with memberIds := party.memberIds ++ [playerId] })
        playerToParty := Function.update m.playerToParty playerId (some partyId) } := by
  cases found : m.parties partyId with
  | none => simp [PartyManager.addMember, found] at added
  | some party =>
      refine ⟨party, rfl, ?_⟩
      simp only [PartyManager.addMember, found] at added ⊢
      split
      case isTrue full => simp [full] at added
      case isFalse room =>
        cases free : m.playerToParty playerId with
        | some other => simp [room, free] at added
        | none => rfl

theorem addMember_mapped (m : PartyManager) (partyId : PartyId) (playerId : ObjectId)
    (added : (m.addMember partyId playerId).1 = true) :
    (m.addMember partyId playerId).2.playerToParty playerId = some partyId := by
  obtain ⟨party, -, result⟩ := addMember_added m partyId playerId added
  rw [result]
  exact Function.update_self ..

theorem setMemberName_mapped (m : PartyManager) (partyId : PartyId) (playerId : ObjectId)
    (name : Bytes) : (m.setMemberName partyId playerId name).playerToParty = m.playerToParty := by
  unfold PartyManager.setMemberName
  cases m.parties partyId <;> rfl

theorem answered_member {m m' : PartyManager} {inviterId acceptor : ObjectId}
    (answered : m.Answered inviterId acceptor m') (alone : m.playerToParty acceptor = none)
    (other : m.playerToParty inviterId = none → inviterId ≠ acceptor) :
    m'.isInParty acceptor = true := by
  cases answered with
  | joined partyId name own added =>
      rw [PartyManager.isInParty, setMemberName_mapped, addMember_mapped m partyId acceptor added]
      rfl
  | founded m'' name free created added =>
      rw [PartyManager.isInParty, setMemberName_mapped, addMember_mapped m'' _ acceptor added]
      rfl
  | alone _ free created refused =>
      obtain ⟨party, -, -, result⟩ := created.admits free alone (other free)
      rw [result] at refused
      cases refused

theorem peopled_atomic (w : World) (e : Event) (peopled : w.Peopled) (conduct : PartyConduct w e) :
    AnswerAtomic data w e := by
  intro next r s inviterId accept rest rand event front stepped
  subst event
  obtain ⟨acted, -⟩ := step_act data w next _ stepped
  obtain ⟨r', job, rest', front', result⟩ := runNextJob_some data w next rand acted
  rw [front] at front'
  cases front'
  rw [result]
  rcases partyAnswer_cases (w.forJob r rest rand) r s inviterId accept peopled.wellFormed with
    same | ⟨acceptor, locked, accepts, alone, answered⟩
  · exact .inl same
  · subst accepts
    have free : w.routing.parties.isInParty acceptor = false := by
      have unmapped : w.routing.parties.playerToParty acceptor = none := alone
      rw [PartyManager.isInParty, unmapped]
      rfl
    refine .inr ⟨acceptor, locked, free, answered_member answered alone fun unknown => ?_⟩
    have unmapped : w.routing.parties.playerToParty inviterId = none := unknown
    rcases conduct.answers r s inviterId rest rand acceptor rfl front locked free with
      inParty | found
    · rw [PartyManager.isInParty, unmapped] at inParty
      cases inParty
    · exact found.1

theorem init_peopled (store : Store) (redisConnected : Bool) (rand : List Nat) :
    (World.init data store redisConnected rand).Peopled := by
  have blank := init_blank data store redisConnected rand
  refine ⟨blank.inRange, init_housed data store redisConnected rand, ?_, ?_⟩
  · rw [blank.parties]
    exact .initial
  · rw [blank.parties]
    intro partyId party present
    cases present

/-- In a run whose steps all meet the condition, the parties are good in every state, and no
refused answer changes them. -/
theorem parties_good (store : Store) (redisConnected : Bool) (rand : List Nat)
    (events : List Event)
    (each : Runs.EachStep (World.step data) PartyConduct
      (World.init data store redisConnected rand) events) :
    Runs.EveryState (World.step data) GoodParties (World.init data store redisConnected rand)
        events ∧
      Runs.EachStep (World.step data) (AnswerAtomic data)
        (World.init data store redisConnected rand) events := by
  have start := init_peopled data store redisConnected rand
  constructor
  · apply Runs.everyState_invariant PartyConduct World.Peopled GoodParties peopled_good _ _ events
      start each
    intro w e next peopled conduct stepped
    exact step_peopled data w next e peopled conduct stepped
  · apply Runs.eachStep_mono (fun w e => PartyConduct w e) (AnswerAtomic data) World.Peopled _ _ _
      events start each
    · intro w e next peopled conduct stepped
      exact step_peopled data w next e peopled conduct stepped
    · intro w e next peopled _ conduct
      exact peopled_atomic data w e peopled conduct

/-- What `PartyConduct` asks of a job, a little more than needed. -/
def jobConducts (w v : World) (r : RoomRef) (job : Job) : Bool :=
  (opensDungeon v job).all (fun found =>
      (goAlong v.routing r found.1 found.2).all fun member =>
        (v.routing.sessions member.1).player = some member.2) &&
    match job with
    | .partyAnswer s inviterId true =>
        (lockPlayer v.routing v.scene [] s).all fun acceptor =>
          w.routing.parties.isInParty inviterId ||
            (inviterId ≠ acceptor && playerAlive w.routing w.scene [] inviterId)
    | .attack s pkt => (attackVictim v r s pkt).all fun victim => !w.routing.parties.isInParty victim
    | .leaveRoom s =>
        (lockPlayer v.routing v.scene [] s).all fun player => !w.routing.parties.isInParty player
    | _ => true

def conducts (w : World) : Event → Bool
  | .job rand =>
      match w.routing.nextJob with
      | none => true
      | some (r, job, rest) => jobConducts w (w.forJob r rest rand) r job
  | _ => true

theorem alive_live (w : World) (id : ObjectId)
    (alive : playerAlive w.routing w.scene [] id = true) : w.LivePlayer id := by
  simp only [playerAlive, List.contains_eq_mem, List.not_mem_nil, decide_false, Bool.false_or,
    List.any_eq_true, Bool.or_eq_true, Bool.and_eq_true, decide_eq_true_eq] at alive
  obtain ⟨r, -, ⟨room, standing⟩ | ⟨job, waiting, entering⟩⟩ := alive
  · exact ⟨r, .inl ⟨standing, room⟩⟩
  · cases job with
    | enterRoom s player =>
        cases entering
        exact ⟨r, .inr ⟨s, waiting⟩⟩
    | _ => cases entering

theorem conducts_conduct (w : World) (e : Event) (checked : conducts w e = true) :
    PartyConduct w e := by
  constructor
  · rintro r s inviterId rest rand acceptor rfl front locked -
    simp only [conducts, front, jobConducts, locked, Option.all_some, Bool.and_eq_true,
      Bool.or_eq_true, decide_eq_true_eq] at checked
    exact checked.2.imp_right fun found => ⟨found.1, alive_live w inviterId found.2⟩
  · rintro r job rest rand rfl front id inParty
    simp only [conducts, front, jobConducts, Bool.and_eq_true] at checked
    obtain ⟨along, others⟩ := checked
    constructor
    · rintro s pkt rfl killed
      simp only [killed, Option.all_some, inParty, Bool.not_true] at others
      cases others
    · rintro s rfl locked
      simp only [locked, Option.all_some, inParty, Bool.not_true] at others
      cases others
    · intro s requester opens member goes named
      left
      simp only [opens, Option.all_some] at along
      have own := of_decide_eq_true (List.all_eq_true.mp along member goes)
      rw [named] at own
      cases own
      exact ⟨member.1, goes⟩

/-- Player 2 is invited, and goes into a dungeon with its leader. -/
def partyTrip : List Event :=
  [Event.connect 1, .connect 2, .packet 1 (.login [97]), .packet 2 (.login [98])] ++ updateTown 2 ++
    [Event.packet 1 (.partyInvite 2), .packet 2 (.partyAnswer 1 true)] ++ updateTown 2 ++
    [toDungeon, .update] ++ visit .visitStatic 1 ++ visit .visitStatic 0 ++ [Event.loopDungeons] ++
    visit (.visitDungeon 1) 2 ++ [Event.endUpdate]

set_option maxRecDepth 20000 in
theorem party_trip_good :
    (reached smallGame newStore false [] partyTrip).any (fun w =>
        (w.routing.parties.parties 1).map (·.memberIds) = some [1, 2] ∧
          (w.routing.rooms 2).players = [1, 2]) = true ∧
      Runs.EveryState (World.step smallGame) GoodParties
        (World.init smallGame newStore false []) partyTrip ∧
      Runs.EachStep (World.step smallGame) (AnswerAtomic smallGame)
        (World.init smallGame newStore false []) partyTrip := by
  have gone : (reached smallGame newStore false [] partyTrip).any (fun w =>
      (w.routing.parties.parties 1).map (·.memberIds) = some [1, 2] ∧
        (w.routing.rooms 2).players = [1, 2]) = true := by decide +kernel
  refine ⟨gone, ?_⟩
  apply parties_good
  exact Runs.eachStep_of_check conducts _ conducts_conduct _ _ (by decide +kernel)

/-- Player 1 answers an invitation of its own. -/
def answersItself : List Event :=
  [.connect 1, .packet 1 (.login [97])] ++ updateTown 1 ++ [.packet 1 (.partyAnswer 1 true)] ++
    updateTown 1

set_option maxRecDepth 20000 in
/-- It is left in a party of its own. -/
theorem self_answer_alone :
    ∃ w, reached smallGame newStore false [] answersItself = some w ∧ ¬ GoodParties w := by
  have run : (reached smallGame newStore false [] answersItself).any (fun w =>
      (w.routing.parties.parties 1).map (·.memberIds) = some [1]) = true := by decide +kernel
  obtain ⟨w, reached, checked⟩ := Option.any_eq_true _ _ |>.mp run
  obtain ⟨party, present, members⟩ := Option.map_eq_some_iff.mp (of_decide_eq_true checked)
  refine ⟨w, reached, fun good => ?_⟩
  have enough := (good 1 party present).1
  rw [members] at enough
  exact absurd enough (by decide)

end ZeldaServer
