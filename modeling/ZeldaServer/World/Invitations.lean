import Mathlib.Algebra.BigOperators.Group.Finset.Piecewise
import Mathlib.Algebra.Order.BigOperators.Group.Finset
import ZeldaServer.World.Parties
import ZeldaServer.World.Tours

/-! Joining a party by invitation. The server keeps no list of the invitations it has sent;
they are counted here, with the answers that arrived and the answers that were handled. -/

namespace ZeldaServer

variable (data : GameData)

/-- For each session and each inviter: the invitations sent by `Handle_C_PartyInvite`, the
`C_PartyAnswer` packets that arrived, and their jobs that were run. -/
structure Answers where
  invited : SessionId → ObjectId → Nat
  arrived : SessionId → ObjectId → Nat
  answered : SessionId → ObjectId → Nat

namespace Answers

def start : Answers := ⟨fun _ _ => 0, fun _ _ => 0, fun _ _ => 0⟩

end Answers

/-- The `S_PartyInvite` of an inviter, sent to a session. -/
def invites (s : SessionId) (inviterId : ObjectId) (sent : SessionId × ServerPacket) : Bool :=
  match sent.2 with
  | .partyInvite inviter _ => sent.1 = s && inviter = inviterId
  | _ => false

def Job.answers (s : SessionId) (inviterId : ObjectId) : Job → Bool
  | .partyAnswer session inviter _ => session = s && inviter = inviterId
  | _ => false

def Event.arrives (s : SessionId) (inviterId : ObjectId) : Event → Bool
  | .packet session (.partyAnswer inviter _) => session = s && inviter = inviterId
  | _ => false

def World.inviting (w : World) (e : Event) (next : World) : List (SessionId × ServerPacket) :=
  match w.runs e with
  | some (.partyInvite _ _) => next.scene.sent.drop w.scene.sent.length
  | _ => []

def Answers.record (w : World) (e : Event) (next : World) (counts : Answers) : Answers where
  invited := fun s inviterId =>
    counts.invited s inviterId + (w.inviting e next).countP (invites s inviterId)
  arrived := fun s inviterId =>
    counts.arrived s inviterId + if e.arrives s inviterId then 1 else 0
  answered := fun s inviterId =>
    counts.answered s inviterId + if (w.runs e).any (Job.answers s inviterId) then 1 else 0

/-- An answer that changes the parties is to an invitation that was not answered yet, and
brings the acceptor into a party that the inviter leads. -/
def JoinsInvited (now : World × Answers) (e : Event) : Prop :=
  ∀ next r s inviterId accept rest rand, e = .job rand →
    now.1.routing.nextJob = some (r, .partyAnswer s inviterId accept, rest) →
    now.1.step data e = some next →
    next.routing.parties = now.1.routing.parties ∨
      ∃ acceptor partyId party,
        lockPlayer (now.1.forJob r rest rand).routing (now.1.forJob r rest rand).scene [] s =
          some acceptor ∧
        now.2.answered s inviterId < now.2.invited s inviterId ∧
        next.routing.parties.parties partyId = some party ∧ party.leaderId = inviterId ∧
        inviterId ∈ party.memberIds ∧ acceptor ∈ party.memberIds

/-- No client answers more invitations of an inviter than it was sent; and who accepts
without being in a party names another player, who is in no party or leads its party. -/
structure AnswersInvited (now : World × Answers) (e : Event) : Prop where
  honest : ∀ s inviterId, e.arrives s inviterId = true →
    now.2.arrived s inviterId < now.2.invited s inviterId
  leads : ∀ r s inviterId rest rand acceptor, e = .job rand →
    now.1.routing.nextJob = some (r, .partyAnswer s inviterId true, rest) →
    lockPlayer (now.1.forJob r rest rand).routing (now.1.forJob r rest rand).scene [] s =
      some acceptor →
    now.1.routing.parties.isInParty acceptor = false →
    inviterId ≠ acceptor ∧ (now.1.routing.parties.isInParty inviterId = true →
      now.1.routing.parties.isLeader inviterId = true)

section Queues

variable (s : SessionId) (inviterId : ObjectId)

def Routing.unread (a : Routing) (r : RoomRef) : Nat :=
  (a.rooms r).queue.countP (Job.answers s inviterId)

theorem unread_of_queue {a b : Routing} (r : RoomRef)
    (queue : (b.rooms r).queue = (a.rooms r).queue) :
    b.unread s inviterId r = a.unread s inviterId r := by
  rw [Routing.unread, queue, Routing.unread]

theorem unread_pushJob (a : Routing) (r r' : RoomRef) (job : Job) :
    (a.pushJob r job).unread s inviterId r' =
      a.unread s inviterId r' + if r' = r then (if job.answers s inviterId then 1 else 0) else 0 := by
  rw [Routing.unread, Routing.queue_pushJob, Routing.unread]
  split
  case isTrue => rw [List.countP_append, List.countP_singleton]
  case isFalse => rfl

theorem entering_unread (jobs : List Job) (entering : ∀ job ∈ jobs, job.entering ≠ none) :
    jobs.countP (Job.answers s inviterId) = 0 := by
  apply List.countP_eq_zero.mpr
  intro job member answers
  cases job with
  | partyAnswer session inviter accept => exact entering _ member rfl
  | _ => cases answers

theorem unread_ran (w : World) (rand : List Nat) (r r' : RoomRef) (job : Job) (rest : List Job)
    (inRange : w.routing.InRange) (front : w.routing.nextJob = some (r, job, rest)) :
    (runJob data (w.forJob r rest rand) r job).routing.unread s inviterId r' +
        (if r' = r then (if job.answers s inviterId then 1 else 0) else 0) =
      w.routing.unread s inviterId r' := by
  obtain ⟨pass, -, -, batch⟩ := nextJob_some w.routing r job rest front
  obtain ⟨news, rooms⟩ := ran_rooms data w rand r job rest inRange front
  obtain ⟨jobs, batch', entering⟩ := rooms r'
  have none := entering_unread s inviterId (news r') entering
  simp only [Routing.unread, Room.queue, jobs, batch', List.countP_append, none]
  split
  case isTrue here =>
    rw [here, batch, List.countP_cons]
    omega
  case isFalse => omega

/-- What a step does to the answers that wait, in the one room where it does something. -/
def Delivers (w next : World) (e : Event) : Prop :=
  ∃ (r : RoomRef) (pushed : Nat), pushed ≤ (if e.arrives s inviterId then 1 else 0) ∧
    ∀ r', next.routing.unread s inviterId r' +
        (if r' = r then (if (w.runs e).any (Job.answers s inviterId) then 1 else 0) else 0) =
      w.routing.unread s inviterId r' + if r' = r then pushed else 0

theorem delivers_still (w next : World) (e : Event) (jobless : ∀ rand, e ≠ .job rand)
    (queue : ∀ r, (next.routing.rooms r).queue = (w.routing.rooms r).queue) :
    Delivers s inviterId w next e := by
  have none : w.runs e = none := by
    cases e with
    | job rand => exact absurd rfl (jobless rand)
    | _ => rfl
  refine ⟨0, 0, Nat.zero_le _, fun r' => ?_⟩
  rw [none, unread_of_queue s inviterId r' (queue r')]
  simp

theorem delivers_pushJob (w next : World) (e : Event) (r : RoomRef) (job : Job)
    (jobless : ∀ rand, e ≠ .job rand) (rooms : next.routing.rooms = (w.routing.pushJob r job).rooms)
    (arrives : job.answers s inviterId = true → e.arrives s inviterId = true) :
    Delivers s inviterId w next e := by
  have none : w.runs e = none := by
    cases e with
    | job rand => exact absurd rfl (jobless rand)
    | _ => rfl
  refine ⟨r, if job.answers s inviterId then 1 else 0, ?_, fun r' => ?_⟩
  · by_cases answers : job.answers s inviterId = true
    · rw [if_pos answers, if_pos (arrives answers)]
    · rw [if_neg answers]
      exact Nat.zero_le _
  · have pushed : next.routing.unread s inviterId r' =
        (w.routing.pushJob r job).unread s inviterId r' := by
      rw [Routing.unread, rooms, Routing.unread]
    rw [none, pushed, unread_pushJob]
    simp

theorem step_delivers (w next : World) (e : Event) (inRange : w.routing.InRange)
    (stepped : w.step data e = some next) : Delivers s inviterId w next e := by
  cases step_turned data w next e stepped with
  | quiet e jobless ongoing rooms tables pending =>
      apply delivers_still s inviterId w next e jobless
      intro r
      rw [rooms]
  | pushed s' pkt r job sends bound result =>
      apply delivers_pushJob s inviterId w next _ r job (by simp)
      · rw [result]
      · intro answers
        cases pkt with
        | partyAnswer inviter accept =>
            cases sends
            exact answers
        | login _ | chat _ => cases sends
        | _ =>
            cases sends
            cases answers
  | login s' username r id town rooms tables pending =>
      exact delivers_pushJob s inviterId w next _ r _ (by simp) rooms fun answers => by cases answers
  | left s' r bound rooms tables pending =>
      exact delivers_pushJob s inviterId w next _ r _ (by simp) rooms fun answers => by cases answers
  | ran rand r job rest front result =>
      refine ⟨r, 0, Nat.zero_le _, fun r' => ?_⟩
      have runs : w.runs (.job rand) = some job := by simp [World.runs, front]
      rw [runs, result, Option.any_some, unread_ran data s inviterId w rand r r' job rest inRange front]
      simp
  | update idle result =>
      apply delivers_still s inviterId w next _ (by simp)
      intro r
      rw [result]
      rfl
  | visitStatic pass r statics under_way idle left result =>
      apply delivers_still s inviterId w next _ (by simp)
      intro r'
      rw [result]
      exact Routing.queue_startVisit w.routing _ r r'
  | loopDungeons pass under_way idle left first result =>
      apply delivers_still s inviterId w next _ (by simp)
      intro r
      rw [result]
      rfl
  | visitDungeon pass r instanceId under_way idle loop unvisited listed result =>
      apply delivers_still s inviterId w next _ (by simp)
      intro r'
      rw [result]
      exact Routing.queue_startVisit w.routing _ r r'
  | goOn e jobless ongoing pass visit current under_way visiting drained goes result =>
      apply delivers_still s inviterId w next e jobless
      intro r
      rw [result]
      rfl
  | endUpdate pass dungeonsFrom under_way idle loop complete result =>
      apply delivers_still s inviterId w next _ (by simp)
      intro r
      rw [result]
      rfl

end Queues

/-- Answers that were handled, or wait in some rooms, arrived; and those that arrived were
to invitations. -/
structure World.Answering (w : World) (counts : Answers) : Prop where
  inRange : w.routing.InRange
  wellFormed : w.routing.parties.WellFormed
  unread : ∀ s inviterId (rooms : Finset RoomRef),
    counts.answered s inviterId + ∑ r ∈ rooms, w.routing.unread s inviterId r ≤
      counts.arrived s inviterId
  honest : ∀ s inviterId, counts.arrived s inviterId ≤ counts.invited s inviterId

theorem step_unread (w next : World) (e : Event) (counts : Answers) (s : SessionId)
    (inviterId : ObjectId) (rooms : Finset RoomRef) (answering : w.Answering counts)
    (stepped : w.step data e = some next) :
    (counts.record w e next).answered s inviterId +
        ∑ r ∈ rooms, next.routing.unread s inviterId r ≤
      (counts.record w e next).arrived s inviterId := by
  obtain ⟨r, pushed, few, delivers⟩ := step_delivers data s inviterId w next e answering.inRange stepped
  have before := answering.unread s inviterId (insert r rooms)
  have more : ∑ r' ∈ rooms, next.routing.unread s inviterId r' ≤
      ∑ r' ∈ insert r rooms, next.routing.unread s inviterId r' :=
    Finset.sum_le_sum_of_subset (Finset.subset_insert r rooms)
  have total : ∑ r' ∈ insert r rooms, next.routing.unread s inviterId r' +
        (if (w.runs e).any (Job.answers s inviterId) then 1 else 0) =
      ∑ r' ∈ insert r rooms, w.routing.unread s inviterId r' + pushed := by
    have sums := Finset.sum_congr (rfl : insert r rooms = insert r rooms) fun r' _ => delivers r'
    simpa only [Finset.sum_add_distrib, Finset.sum_ite_eq', Finset.mem_insert_self, if_true] using sums
  dsimp only [Answers.record]
  omega

theorem step_answering (w next : World) (e : Event) (counts : Answers)
    (answering : w.Answering counts) (conduct : AnswersInvited (w, counts) e)
    (stepped : w.step data e = some next) : next.Answering (counts.record w e next) where
  inRange := step_inRange data w next e answering.inRange stepped
  wellFormed := step_wellFormedParties data w next e answering.inRange answering.wellFormed stepped
  unread := fun s inviterId rooms =>
    step_unread data w next e counts s inviterId rooms answering stepped
  honest := by
    intro s inviterId
    have before := answering.honest s inviterId
    dsimp only [Answers.record]
    split
    case isTrue arrives =>
      have open_invitation := conduct.honest s inviterId arrives
      dsimp only at open_invitation
      omega
    case isFalse => omega

namespace PartyManager

theorem addMember_some (m : PartyManager) (partyId : PartyId) (playerId : ObjectId)
    (added : (m.addMember partyId playerId).1 = true) :
    ∃ party, m.parties partyId = some party ∧ (m.addMember partyId playerId).2.parties partyId =
      some { party with memberIds := party.memberIds ++ [playerId] } := by
  obtain ⟨party, found, result⟩ := addMember_added m partyId playerId added
  refine ⟨party, found, ?_⟩
  rw [result]
  exact Function.update_self ..

theorem setMemberName_some (m : PartyManager) (partyId : PartyId) (playerId : ObjectId)
    (name : Bytes) (party : Party) (found : m.parties partyId = some party) :
    ∃ party', (m.setMemberName partyId playerId name).parties partyId = some party' ∧
      party'.leaderId = party.leaderId ∧ party'.memberIds = party.memberIds := by
  simp only [setMemberName, found, Function.update_self]
  exact ⟨_, rfl, rfl, rfl⟩

theorem Answered.joins {m m' : PartyManager} {inviterId acceptor : ObjectId}
    (answered : m.Answered inviterId acceptor m') (wellFormed : m.WellFormed)
    (alone : m.playerToParty acceptor = none) (other : inviterId ≠ acceptor)
    (leads : m.isInParty inviterId = true → m.isLeader inviterId = true) :
    ∃ partyId party, m'.parties partyId = some party ∧ party.leaderId = inviterId ∧
      inviterId ∈ party.memberIds ∧ acceptor ∈ party.memberIds := by
  cases answered with
  | joined partyId name own added =>
      obtain ⟨party, found, grown⟩ := addMember_some m partyId acceptor added
      obtain ⟨party', found', leader, members⟩ :=
        setMemberName_some _ partyId acceptor name _ grown
      have inParty : m.isInParty inviterId = true := by rw [isInParty, own]; rfl
      have leading := leads inParty
      simp only [isLeader, own, found, decide_eq_true_eq] at leading
      obtain ⟨party'', found'', listed⟩ := (wellFormed.mapped inviterId partyId).mp own
      rw [found] at found''
      cases found''
      refine ⟨partyId, party', found', leader.trans leading, ?_, ?_⟩
      · rw [members]
        exact List.mem_append_left _ listed
      · rw [members]
        exact List.mem_append_right _ List.mem_cons_self
  | founded m'' name free created added =>
      obtain ⟨party, members, leads, result⟩ := created.admits free alone other
      have found : (m''.addMember m.partyIdGen acceptor).2.parties m.partyIdGen = some party := by
        rw [result]
        exact Function.update_self ..
      obtain ⟨party', found', leader, members'⟩ :=
        setMemberName_some _ m.partyIdGen acceptor name party found
      refine ⟨m.partyIdGen, party', found', leader.trans leads, ?_, ?_⟩
      · rw [members', members]
        exact List.mem_cons_self
      · rw [members', members]
        exact List.mem_cons_of_mem _ List.mem_cons_self
  | alone _ free created refused =>
      obtain ⟨party, -, -, result⟩ := created.admits free alone other
      rw [result] at refused
      cases refused

end PartyManager

theorem answering_joins (w : World) (e : Event) (counts : Answers) (answering : w.Answering counts)
    (conduct : AnswersInvited (w, counts) e) : JoinsInvited data (w, counts) e := by
  intro next r s inviterId accept rest rand event front stepped
  subst event
  obtain ⟨acted, -⟩ := step_act data w next _ stepped
  obtain ⟨r', job, rest', front', result⟩ := runNextJob_some data w next rand acted
  have same := front.symm.trans front'
  cases same
  rw [result]
  rcases partyAnswer_cases (w.forJob r rest rand) r s inviterId accept answering.wellFormed with
    still | ⟨acceptor, locked, accepts, alone, answered⟩
  · exact .inl still
  · subst accepts
    have free : w.routing.parties.isInParty acceptor = false := by
      have unmapped : w.routing.parties.playerToParty acceptor = none := alone
      rw [PartyManager.isInParty, unmapped]
      rfl
    obtain ⟨other, leads⟩ := conduct.leads r s inviterId rest rand acceptor rfl front locked free
    obtain ⟨partyId, party, found, leader, listed, joined⟩ :=
      answered.joins answering.wellFormed alone other leads
    -- the answer itself is one that arrived, and is not among those handled
    have waits : 0 < w.routing.unread s inviterId r := by
      apply List.countP_pos_iff.mpr
      exact ⟨_, Routing.nextJob_queued w.routing r _ rest front, by simp [Job.answers]⟩
    have unread := answering.unread s inviterId {r}
    have arrived := answering.honest s inviterId
    rw [Finset.sum_singleton] at unread
    refine .inr ⟨acceptor, partyId, party, locked, ?_, found, leader, listed, joined⟩
    dsimp only
    omega

theorem init_answering (store : Store) (redisConnected : Bool) (rand : List Nat) :
    (World.init data store redisConnected rand).Answering .start := by
  have blank := init_blank data store redisConnected rand
  constructor
  · exact blank.inRange
  · rw [blank.parties]
    exact .initial
  · intro s inviterId rooms
    have empty (r : RoomRef) : (World.init data store redisConnected rand).routing.unread s
        inviterId r = 0 := by
      rw [Routing.unread, blank.queue]
      rfl
    simp [empty, Answers.start]
  · intro s inviterId
    exact Nat.le_refl _

/-- In every run in which clients answer only invitations they were sent, each once, and in
which who accepts names a player that is in no party or leads one, players join parties by
invitation of their leaders only. -/
theorem parties_joined_invited (store : Store) (redisConnected : Bool) (rand : List Nat)
    (events : List Event)
    (each : Runs.EachStep (Runs.observed (World.step data) Answers.record) AnswersInvited
      (World.init data store redisConnected rand, .start) events) :
    Runs.EachStep (Runs.observed (World.step data) Answers.record) (JoinsInvited data)
      (World.init data store redisConnected rand, .start) events := by
  apply Runs.eachStep_mono AnswersInvited (JoinsInvited data)
    (fun now : World × Answers => now.1.Answering now.2) _ _ _ events
    (init_answering data store redisConnected rand) each
  · intro now e after answering conduct stepped
    obtain ⟨moved, result⟩ := Runs.observed_some Answers.record now after e stepped
    rw [result]
    exact step_answering data now.1 after.1 e now.2 answering conduct moved
  · intro now e after answering _ conduct
    exact answering_joins data now.1 e now.2 answering conduct

/-- What `AnswersInvited` asks, where it can be computed. -/
def answersInvited (now : World × Answers) : Event → Bool
  | .packet s (.partyAnswer inviterId _) => now.2.arrived s inviterId < now.2.invited s inviterId
  | .job rand =>
      match now.1.routing.nextJob with
      | some (r, .partyAnswer s inviterId true, rest) =>
          let w := now.1.forJob r rest rand
          (lockPlayer w.routing w.scene [] s).all fun acceptor =>
            inviterId ≠ acceptor && (!now.1.routing.parties.isInParty inviterId ||
              now.1.routing.parties.isLeader inviterId)
      | _ => true
  | _ => true

theorem answersInvited_sound (now : World × Answers) (e : Event)
    (checked : answersInvited now e = true) : AnswersInvited now e := by
  constructor
  · intro s inviterId arrives
    unfold Event.arrives at arrives
    split at arrives
    case h_1 session inviter accept =>
      obtain ⟨own, named⟩ := Bool.and_eq_true _ _ |>.mp arrives
      rw [← of_decide_eq_true own, ← of_decide_eq_true named]
      exact of_decide_eq_true checked
    case h_2 => cases arrives
  · rintro r s inviterId rest rand acceptor rfl front locked -
    simp only [answersInvited, front, locked, Option.all_some, Bool.and_eq_true, Bool.or_eq_true,
      decide_eq_true_eq, Bool.not_eq_true'] at checked
    refine ⟨checked.1, fun inParty => ?_⟩
    rcases checked.2 with outside | leads
    · rw [inParty] at outside
      cases outside
    · exact leads

/-- Player 1 invites player 2, who accepts once the invitation has come. -/
def invitedTrip : List Event :=
  [Event.connect 1, .connect 2, .packet 1 (.login [97]), .packet 2 (.login [98])] ++ updateTown 2 ++
    [Event.packet 1 (.partyInvite 2)] ++ updateTown 1 ++ [Event.packet 2 (.partyAnswer 1 true)] ++
    updateTown 1

set_option maxRecDepth 20000 in
theorem invited_player_joins :
    (reached smallGame newStore false [] invitedTrip).any (fun w =>
        (w.routing.parties.parties 1).map (·.memberIds) = some [1, 2]) = true ∧
      Runs.EachStep (Runs.observed (World.step smallGame) Answers.record) (JoinsInvited smallGame)
        (World.init smallGame newStore false [], .start) invitedTrip := by
  have joined : (reached smallGame newStore false [] invitedTrip).any (fun w =>
      (w.routing.parties.parties 1).map (·.memberIds) = some [1, 2]) = true := by decide +kernel
  refine ⟨joined, ?_⟩
  apply parties_joined_invited
  exact Runs.eachStep_of_check answersInvited _ answersInvited_sound _ _ (by decide +kernel)

/-- Player 2 accepts an invitation that nobody sent. -/
def uninvitedAnswer : List Event :=
  [Event.connect 1, .connect 2, .packet 1 (.login [97]), .packet 2 (.login [98])] ++ updateTown 2 ++
    [Event.packet 2 (.partyAnswer 1 true), .update, .visitStatic]

def joinsUninvited (now : World × Answers) : Bool :=
  match now.1.routing.nextJob, now.1.step smallGame (.job []) with
  | some (_, .partyAnswer s inviterId _, _), some next =>
      now.2.invited s inviterId = 0 && (now.1.routing.parties.parties 1).isNone &&
        (next.routing.parties.parties 1).isSome
  | _, _ => false

set_option maxRecDepth 20000 in
theorem uninvited_player_joins :
    ¬ Runs.EachStep (Runs.observed (World.step smallGame) Answers.record) (JoinsInvited smallGame)
      (World.init smallGame newStore false [], .start) (uninvitedAnswer ++ [.job []]) := by
  have run : (Runs.run (Runs.observed (World.step smallGame) Answers.record)
      (World.init smallGame newStore false [], .start) uninvitedAnswer).any joinsUninvited = true := by
    decide +kernel
  obtain ⟨now, ended, checked⟩ := Option.any_eq_true _ _ |>.mp run
  intro each
  have last := Runs.eachStep_append (JoinsInvited smallGame) _ now uninvitedAnswer [.job []] ended each
  unfold joinsUninvited at checked
  split at checked
  case h_1 r s inviterId accept rest next front stepped =>
    obtain ⟨fresh, founded⟩ := Bool.and_eq_true _ _ |>.mp checked
    obtain ⟨uninvited, unfounded⟩ := Bool.and_eq_true _ _ |>.mp fresh
    have moved : Runs.observed (World.step smallGame) Answers.record now (.job []) =
        some (next, now.2.record now.1 (.job []) next) := by
      simp only [Runs.observed, stepped, Option.map_some]
    rcases (last _ moved).1 next r s inviterId accept rest [] rfl front stepped with same | joined
    · rw [same, Option.isNone_iff_eq_none.mp unfounded] at founded
      cases founded
    · obtain ⟨acceptor, partyId, party, -, invited, -⟩ := joined
      rw [of_decide_eq_true uninvited] at invited
      exact absurd invited (Nat.not_lt_zero _)
  case h_2 => cases checked

end ZeldaServer
