import ZeldaServer.World.PartyNews

/-! The party as the clients see it: the ids in `_partyMembers`, against the lists of the
server. Every packet sent to a session arrives, in order. -/

namespace ZeldaServer

variable (data : GameData)

/-- The ids in the `_partyMembers` of the client's `MyPlayer`, `none` while it has none. -/
abbrev PartyView := Option (List ObjectId)

namespace PartyView

/-- What the handlers of `ClientPacketHandler` make of a packet. -/
def receive (view : PartyView) : ServerPacket → PartyView
  | .myPlayer _ => some []
  | .changeMap success _ _ _ => if success then none else view
  | .partyUpdate members => view.map fun _ => members.map (·.playerId)
  | .partyLeave => view.map fun _ => []
  | _ => view

/-- The client of session `s` handles what is sent to it. -/
def hears (view : PartyView) (s : SessionId) (sent : List (SessionId × ServerPacket)) : PartyView :=
  (sent.filter (·.1 = s)).foldl (fun view sent => view.receive sent.2) view

variable (view : PartyView) (s : SessionId)

@[simp] theorem hears_nil : view.hears s [] = view := rfl

theorem hears_append (front back : List (SessionId × ServerPacket)) :
    view.hears s (front ++ back) = (view.hears s front).hears s back := by
  rw [hears, List.filter_append, List.foldl_append]
  rfl

theorem hears_cons (s' : SessionId) (pkt : ServerPacket) (rest : List (SessionId × ServerPacket)) :
    view.hears s ((s', pkt) :: rest) =
      (if s' = s then view.receive pkt else view).hears s rest := by
  rw [hears, List.filter_cons]
  by_cases same : s' = s
  · simp only [same, decide_true, if_true, List.foldl_cons]
    rfl
  · simp only [same, decide_false, if_false]
    rfl

theorem receive_twice (pkt : ServerPacket) :
    (view.receive pkt).receive pkt = view.receive pkt := by
  cases pkt with
  | changeMap success _ _ _ => cases success <;> rfl
  | partyUpdate _ | partyLeave => cases view <;> rfl
  | _ => rfl

theorem hears_toEach (sessions : List SessionId) (pkt : ServerPacket) :
    view.hears s (toEach sessions pkt) = if s ∈ sessions then view.receive pkt else view := by
  induction sessions generalizing view with
  | nil => rfl
  | cons head tail ih =>
      rw [toEach, List.map_cons, hears_cons]
      by_cases same : head = s
      · rw [if_pos same, if_pos (List.mem_cons.mpr (.inl same.symm))]
        refine (ih (view.receive pkt)).trans ?_
        split
        · exact receive_twice view pkt
        · rfl
      · rw [if_neg same]
        refine (ih view).trans ?_
        simp only [List.mem_cons, Ne.symm same, false_or]

theorem hears_news (sent : List (SessionId × ServerPacket)) :
    view.hears s (sent.filter (·.2.isNews)) = view.hears s sent := by
  induction sent generalizing view with
  | nil => rfl
  | cons head tail ih =>
      obtain ⟨s', pkt⟩ := head
      rw [List.filter_cons, hears_cons]
      split
      case isTrue => rw [hears_cons, ih]
      case isFalse other =>
        have idle : view.receive pkt = view := by
          cases pkt with
          | myPlayer _ | changeMap _ _ _ _ | partyUpdate _ | partyLeave => exact absurd rfl other
          | _ => rfl
        rw [idle, ite_self, ih]

end PartyView

/-- What the client of the session holds, once it has handled everything sent to it. -/
def Scene.view (scene : Scene) (s : SessionId) : PartyView := PartyView.hears none s scene.sent

theorem view_told (a b : Scene) (s : SessionId) (news : List (SessionId × ServerPacket))
    (told : b.news = a.news ++ news) : b.view s = (a.view s).hears s news := by
  calc
    b.view s = PartyView.hears none s b.news := (PartyView.hears_news none s b.sent).symm
    _ = (PartyView.hears none s a.news).hears s news := by rw [told, PartyView.hears_append]
    _ = (a.view s).hears s news := by
      rw [Scene.news, PartyView.hears_news]
      rfl

structure Routing.InGame (a : Routing) (s : SessionId) (id : ObjectId) : Prop where
  online : (a.sessions s).connection = .connected
  plays : (a.sessions s).player = some id
  standing : ∃ r, id ∈ (a.rooms r).players

/-- The clients of all online players in rooms hold the members of their parties. -/
def ClientsAgree (w : World) : Prop :=
  ∀ s id, w.routing.InGame s id → w.scene.view s = some (w.routing.parties.membersOf id)

section Reaches

variable (w : World)

/-- Who has the new member in its party hears of it. A player that answers itself hears
nothing of the party it founds. -/
def AnswerReaches (r : RoomRef) (s : SessionId) (inviterId : ObjectId) (accept : Bool) : Prop :=
  ∀ acceptor, Joins w s inviterId accept acceptor → ∀ s' id, w.routing.InGame s' id →
    if inviterId = acceptor then id ≠ acceptor
    else id ∈ w.routing.parties.groupOf inviterId ++ [acceptor] ↔
      s' ∈ w.routing.addressees r (w.routing.parties.groupOf inviterId ++ [acceptor])

/-- Who stays in the party hears who is left. Where a party ends its last member hears of it,
and nobody that is in another one. -/
def LeaveReaches (r : RoomRef) (s : SessionId) : Prop :=
  ∀ player, lockPlayer w.routing w.scene [] s = some player →
    player ∈ w.routing.parties.membersOf player → ∀ s' id, w.routing.InGame s' id →
      if (w.routing.parties.matesOf player).length ≤ 1 then
        (id ∈ w.routing.parties.matesOf player →
          s' ∈ w.routing.addressees r (w.routing.parties.matesOf player)) ∧
        (s' ∈ w.routing.addressees r (w.routing.parties.matesOf player) →
          id ∈ w.routing.parties.membersOf player ∨ w.routing.parties.membersOf id = [])
      else id ∈ w.routing.parties.matesOf player ↔
        s' ∈ w.routing.addressees r (w.routing.parties.matesOf player)

/-- Where the party of the session's player is kept and the session has a room, who stays in
the party hears who is left; else there is no other member to hear of it. -/
def PartingReaches (s : SessionId) : Prop :=
  ∀ player, lockPlayer w.routing w.scene [] s = some player →
    player ∈ w.routing.parties.membersOf player →
      ∀ s' id, s' ≠ s → w.routing.InGame s' id →
        if (w.routing.parties.matesOf player).length ≤ 1 then
          id ∉ w.routing.parties.matesOf player
        else
          match lockRoom w.routing w.scene s with
          | none => id ∉ w.routing.parties.matesOf player
          | some r => id ∈ w.routing.parties.matesOf player ↔
              s' ∈ w.routing.addressees r (w.routing.parties.matesOf player)

/-- No session outside of its party hears the members of a player that enters. -/
def EntryReaches (r : RoomRef) (s : SessionId) (player : ObjectId) : Prop :=
  ∀ s' id, s' ≠ s → w.routing.InGame s' id →
    s' ∈ w.routing.addressees r (w.routing.parties.membersOf player) →
      id ∈ w.routing.parties.membersOf player

/-- A session sent over to another map plays no player that stays behind in a room. -/
def MoveReaches (r : RoomRef) (job : Job) : Prop :=
  ∀ mover ∈ movers w r job, ∀ id, w.routing.InGame mover.1 id →
    ∀ r', id ∈ (w.routing.rooms r').players → r' = r

def JobReaches (r : RoomRef) : Job → Prop
  | .partyAnswer s inviterId accept => AnswerReaches w r s inviterId accept
  | .partyLeave s => LeaveReaches w r s
  | .enterRoom s player => EntryReaches w r s player
  | .changeMap s pkt => MoveReaches w r (.changeMap s pkt)
  | _ => True

/-- The news of a step reaches those that it changes something for, and no others. -/
def NewsReaches : Event → Prop
  | .disconnect s => PartingReaches w s
  | .job rand => ∀ r job rest, w.routing.nextJob = some (r, job, rest) →
      JobReaches (w.forJob r rest rand) r job
  | _ => True

end Reaches

namespace PartyManager

variable (m : PartyManager)

theorem mem_matesOf (id other : ObjectId) :
    other ∈ m.matesOf id ↔ other ∈ m.membersOf id ∧ other ≠ id := by
  simp [matesOf]

variable (wellFormed : m.WellFormed)

include wellFormed

theorem membersOf_member (id other : ObjectId) (member : other ∈ m.membersOf id) :
    m.membersOf other = m.membersOf id := by
  unfold membersOf at member
  split at member
  case h_1 => cases member
  case h_2 party present =>
    rw [membersOf_listed m wellFormed other _ party present member, membersOf, present]

theorem membersOf_self (id other : ObjectId) (member : other ∈ m.membersOf id) :
    id ∈ m.membersOf id := by
  unfold membersOf at member ⊢
  split at member
  case h_1 => cases member
  case h_2 party present =>
    have used := (wellFormed.used _ party present).1
    obtain ⟨party', present', itself⟩ :=
      (wellFormed.mapped id _).mp (playerToParty_of_nonzero m id used)
    rw [present] at present'
    cases present'
    exact itself

theorem not_mem_membersOf (id other : ObjectId) (free : m.playerToParty other = none) :
    other ∉ m.membersOf id := by
  intro member
  unfold membersOf at member
  split at member
  case h_1 => cases member
  case h_2 party present => exact wellFormed.stranger other free _ party present member

theorem membersOf_ne_matesOf (id player : ObjectId) (member : player ∈ m.membersOf player)
    (enough : ¬ (m.matesOf player).length ≤ 1) : m.membersOf id ≠ m.matesOf player := by
  intro equal
  have some_mate : m.matesOf player ≠ [] := by
    intro none
    rw [none] at enough
    exact enough (Nat.zero_le 1)
  obtain ⟨mate, first⟩ := List.exists_mem_of_ne_nil _ some_mate
  have shared := ((mem_matesOf m player mate).mp first).1
  have back := membersOf_member m wellFormed id mate (equal ▸ first)
  rw [membersOf_member m wellFormed player mate shared] at back
  rw [← back] at equal
  rw [equal, mem_matesOf] at member
  exact member.2 rfl

end PartyManager

theorem inGame_congr {a b : Routing} (rooms : b.rooms = a.rooms) (sessions : b.sessions = a.sessions)
    (s : SessionId) (id : ObjectId) : b.InGame s id ↔ a.InGame s id := by
  constructor
  · rintro ⟨online, plays, standing⟩
    rw [rooms] at standing
    rw [sessions] at online plays
    exact ⟨online, plays, standing⟩
  · rintro ⟨online, plays, standing⟩
    rw [← rooms] at standing
    rw [← sessions] at online plays
    exact ⟨online, plays, standing⟩

theorem inGame_disconnected (w : World) (s s' : SessionId) (id : ObjectId) :
    (onDisconnected w s).routing.InGame s' id ↔ s' ≠ s ∧ w.routing.InGame s' id := by
  have players := (onDisconnected_rests w s).samePlayers
  have session := onDisconnected_sessions w s s'
  constructor
  · rintro ⟨online, plays, r, standing⟩
    rw [players] at standing
    rw [session] at online plays
    split at online
    case isTrue => cases online
    case isFalse other =>
      rw [if_neg other] at plays
      exact ⟨other, online, plays, r, standing⟩
  · rintro ⟨other, online, plays, r, standing⟩
    rw [if_neg other] at session
    rw [← players] at standing
    rw [← session] at online plays
    exact ⟨online, plays, r, standing⟩

theorem mem_addressees (a : Routing) (r : RoomRef) (memberIds : List ObjectId) (s : SessionId) :
    s ∈ a.addressees r memberIds ↔
      ∃ id ∈ memberIds, id ∈ (a.rooms r).players ∧ a.playerSession id = some s := by
  rw [Routing.addressees, List.mem_filterMap]
  apply exists_congr
  intro id
  apply and_congr_right
  intro _
  by_cases standing : id ∈ playerIds a r
  · rw [if_pos standing]
    exact ⟨fun names => ⟨standing, names⟩, fun both => both.2⟩
  · rw [if_neg standing]
    exact ⟨fun names => (by cases names), fun both => absurd both.1 standing⟩

section Entry

variable (w : World) (r : RoomRef) (s : SessionId) (player : ObjectId)

theorem inGame_entered (own : ∀ s', w.routing.Bound s' player → s' = s) (s' : SessionId)
    (id : ObjectId) (other : s' ≠ s) :
    (w.enterRoom r s player).routing.InGame s' id ↔ w.routing.InGame s' id := by
  have sessions : (w.enterRoom r s player).routing.sessions s' = w.routing.sessions s' := by
    rw [enterRoom_routing]
    exact (Routing.sessions_setSession w.routing s s' _).trans (if_neg other)
  have players (r' : RoomRef) : id ∈ ((w.enterRoom r s player).routing.rooms r').players ↔
      id ∈ (w.routing.rooms r').players ∨ (r' = r ∧ id = player) := by
    rw [enterRoom_routing, Routing.mem_players_addPlayer]
    rfl
  constructor
  · rintro ⟨online, plays, r', standing⟩
    rw [sessions] at online plays
    refine ⟨online, plays, r', ((players r').mp standing).resolve_right ?_⟩
    rintro ⟨-, rfl⟩
    exact other (own s' (.inl plays))
  · rintro ⟨online, plays, r', standing⟩
    rw [← sessions] at online plays
    exact ⟨online, plays, r', (players r').mpr (.inl standing)⟩

theorem addressees_entered (own : ∀ s', w.routing.Bound s' player → s' = s) (s' : SessionId)
    (memberIds : List ObjectId) (other : s' ≠ s) :
    s' ∈ (w.enterRoom r s player).routing.addressees r memberIds ↔
      s' ∈ w.routing.addressees r memberIds := by
  have names (id : ObjectId) : (w.enterRoom r s player).routing.playerSession id =
      if id = player then some s else w.routing.playerSession id := by
    rw [enterRoom_routing]
    exact Function.update_apply ..
  have players (id : ObjectId) : id ∈ ((w.enterRoom r s player).routing.rooms r).players ↔
      id ∈ (w.routing.rooms r).players ∨ (r = r ∧ id = player) := by
    rw [enterRoom_routing, Routing.mem_players_addPlayer]
    rfl
  rw [mem_addressees, mem_addressees]
  apply exists_congr
  intro id
  apply and_congr_right
  intro _
  rw [names, players]
  by_cases itself : id = player
  · rw [if_pos itself]
    constructor
    · rintro ⟨-, here⟩
      exact absurd (Option.some.inj here).symm other
    · rintro ⟨-, here⟩
      exact absurd (own s' (.inr (.inl (itself ▸ here)))) other
  · simp [itself]

theorem entered_hears (memberIds : List ObjectId) (member : player ∈ memberIds) :
    s ∈ (w.enterRoom r s player).routing.addressees r memberIds := by
  rw [mem_addressees, enterRoom_routing]
  refine ⟨player, member, ?_, Function.update_self ..⟩
  exact (Routing.mem_players_addPlayer _ r r player player).mpr (.inr ⟨rfl, rfl⟩)

theorem entry_news (wellFormed : w.routing.parties.WellFormed)
    (fine : (w.enterRoom r s player).scene.fault = none) :
    ∃ (info : ObjectInfo) (members : List PartyMemberInfo),
      members.map (·.playerId) = w.routing.parties.membersOf player ∧
      (w.enterRoom r s player).scene.news = w.scene.news ++ ((s, .myPlayer info) ::
        toEach ((w.enterRoom r s player).routing.addressees r
          (w.routing.parties.membersOf player)) (.partyUpdate members)) := by
  obtain ⟨info, news, told, entry⟩ := enterRoom_told w r s player wellFormed fine
  have parties : (w.enterRoom r s player).routing.parties = w.routing.parties := by
    rw [enterRoom_routing]
    rfl
  rw [EntryTold, parties] at entry
  rcases entry with ⟨alone, silent⟩ | ⟨members, lists, sent⟩
  · refine ⟨info, [], alone.symm, ?_⟩
    rw [told.news, silent, alone]
    rfl
  · refine ⟨info, members, lists, ?_⟩
    rw [told.news, sent]
    rfl

end Entry

theorem moves_inGame (w : World) (known : w.Known) (r dest : RoomRef)
    (moves : List (SessionId × ObjectId)) (a b : Routing) (sessions : a.sessions = w.routing.sessions)
    (players : ∀ r', (a.rooms r').players = (w.routing.rooms r').players)
    (kept : b.sessions = a.sessions) (moved : Routing.Moves r dest moves a b) (s : SessionId)
    (id : ObjectId) : b.InGame s id ↔ w.routing.InGame s id ∧
      (s ∈ moves.map Prod.fst → ∃ r', r' ≠ r ∧ id ∈ (w.routing.rooms r').players) := by
  have named (plays : (w.routing.sessions s).player = some id) :
      (∀ move ∈ moves, (a.sessions move.1).player ≠ some id) ↔ s ∉ moves.map Prod.fst := by
    rw [sessions, List.mem_map]
    constructor
    · rintro others ⟨move, member, rfl⟩
      exact others move member plays
    · intro stays move member plays'
      exact stays ⟨move, member, known.session_unique _ _ id (.inl plays') (.inl plays)⟩
  constructor
  · rintro ⟨online, plays, r', standing⟩
    rw [kept, sessions] at online plays
    obtain ⟨before, others⟩ := (moves_players moved r' id).mp standing
    rw [players] at before
    refine ⟨⟨online, plays, r', before⟩, fun leaves => ⟨r', fun here => ?_, before⟩⟩
    exact (named plays).mp (others here) leaves
  · rintro ⟨⟨online, plays, r', before⟩, behind⟩
    have online' := online
    have plays' := plays
    rw [← sessions, ← kept] at online' plays'
    refine ⟨online', plays', ?_⟩
    by_cases leaves : s ∈ moves.map Prod.fst
    · obtain ⟨r', away, standing⟩ := behind leaves
      refine ⟨r', (moves_players moved r' id).mpr ⟨?_, fun here => absurd here away⟩⟩
      rw [players]
      exact standing
    · refine ⟨r', (moves_players moved r' id).mpr ⟨?_, fun _ => (named plays).mpr leaves⟩⟩
      rw [players]
      exact before

theorem inGame_moved (w : World) (r : RoomRef) (known : w.Known) (s : SessionId)
    (pkt : CChangeMap) (inRange : w.routing.InRange) (registered : w.routing.Registered r)
    (s' : SessionId) (id : ObjectId) :
    (handleCChangeMap data w r s pkt).routing.InGame s' id ↔ w.routing.InGame s' id ∧
      (s' ∈ (movers w r (.changeMap s pkt)).map Prod.fst →
        ∃ r', r' ≠ r ∧ id ∈ (w.routing.rooms r').players) := by
  have calm := runJob_calm data w r (.changeMap s pkt) inRange rfl
  have worked := runJob_worked data w r (.changeMap s pkt) inRange registered rfl
  rw [runJob] at calm worked
  cases worked with
  | rooms rooms _ _ unopened unchanged _ =>
      rw [inGame_congr rooms calm.sessions, movers, unchanged, unopened]
      simp
  | buried _ _ _ attack _ _ => cases attack
  | left _ _ leaves _ _ => cases leaves
  | moved dest s'' requester changes result =>
      rw [movers, changes]
      exact moves_inGame w known r dest _ _ _ rfl (fun _ => rfl) calm.sessions result s' id
  | opened s'' requester opens result =>
      have stays : changesChannel w (.changeMap s pkt) = none := by
        cases changes : changesChannel w (.changeMap s pkt) with
        | none => rfl
        | some goes =>
            rw [changesChannel_unopened w _ goes.1 goes.2 changes] at opens
            cases opens
      rw [movers, stays]
      dsimp only
      rw [opens]
      apply moves_inGame w known r _ _ w.routing.openDungeon _ rfl _ calm.sessions result s' id
      intro r'
      have rooms := Routing.rooms_addRoom w.routing r'
        (Room.create .dungeon 0 w.routing.instanceIdGen)
      rw [show w.routing.openDungeon.rooms r' = _ from rooms]
      split
      case isTrue new =>
        rw [new, (inRange.unmade _ (Nat.le_refl _)).1]
        rfl
      case isFalse => rfl

theorem agree_quiet (w next : World) (agree : ClientsAgree w)
    (silent : next.scene.news = w.scene.news)
    (parties : next.routing.parties = w.routing.parties)
    (inGame : ∀ s id, next.routing.InGame s id → w.routing.InGame s id) : ClientsAgree next := by
  intro s id playing
  have view := view_told w.scene next.scene s [] (by rw [silent, List.append_nil])
  rw [view, parties]
  exact agree s id (inGame s id playing)

theorem updated_iff (next : World) (ids : List ObjectId) (hears : SessionId → Prop)
    [DecidablePred hears] (before : SessionId → List ObjectId)
    (view : ∀ s id, next.routing.InGame s id →
      next.scene.view s = some (if hears s then ids else before s))
    (inside : ∀ s id, next.routing.InGame s id → id ∈ ids →
      next.routing.parties.membersOf id = ids ∧ before s ≠ ids)
    (outside : ∀ s id, next.routing.InGame s id → id ∉ ids →
      next.routing.parties.membersOf id = before s ∧ before s ≠ ids) :
    ClientsAgree next ↔ ∀ s id, next.routing.InGame s id → (id ∈ ids ↔ hears s) := by
  apply forall_congr'
  intro s
  apply forall_congr'
  intro id
  apply imp_congr_right
  intro playing
  rw [view s id playing, Option.some.injEq]
  by_cases member : id ∈ ids
  · obtain ⟨listed, other⟩ := inside s id playing member
    by_cases heard : hears s
    · simp [member, heard, listed]
    · simp [member, heard, listed, other]
  · obtain ⟨listed, other⟩ := outside s id playing member
    by_cases heard : hears s
    · simp [member, heard, listed, Ne.symm other]
    · simp [member, heard, listed]

theorem hears_update (old ids : List ObjectId) (s : SessionId) (sessions : List SessionId)
    (members : List PartyMemberInfo) (lists : members.map (·.playerId) = ids) :
    PartyView.hears (some old) s (toEach sessions (.partyUpdate members)) =
      some (if s ∈ sessions then ids else old) := by
  rw [PartyView.hears_toEach]
  split
  · rw [← lists]
    rfl
  · rfl

theorem hears_leave (old : List ObjectId) (s : SessionId) (sessions : List SessionId) :
    PartyView.hears (some old) s (toEach sessions .partyLeave) =
      some (if s ∈ sessions then [] else old) := by
  rw [PartyView.hears_toEach]
  split <;> rfl

theorem leaver_plays (w : World) (known : w.Known) (s : SessionId) (player : ObjectId)
    (locked : lockPlayer w.routing w.scene [] s = some player) (s' : SessionId) (id : ObjectId)
    (plays : (w.routing.sessions s').player = some id) : s' = s ↔ id = player := by
  have named := (lockPlayer_some _ _ _ _ _ locked).1
  constructor
  · rintro rfl
    rw [named] at plays
    exact (Option.some.inj plays).symm
  · rintro rfl
    exact known.session_unique s' s id (.inl plays) (.inl named)

theorem move_agrees_iff (w : World) (r : RoomRef) (known : w.Known) (agree : ClientsAgree w)
    (s : SessionId) (pkt : CChangeMap) (inRange : w.routing.InRange)
    (registered : w.routing.Registered r) :
    ClientsAgree (handleCChangeMap data w r s pkt) ↔ MoveReaches w r (.changeMap s pkt) := by
  have parties := runJob_worked data w r (.changeMap s pkt) inRange registered rfl
  replace parties := worked_parties w r _ _ parties rfl
  rw [runJob] at parties
  have same := inGame_moved data w r known s pkt inRange registered
  have view : ∀ s' id, w.routing.InGame s' id → (handleCChangeMap data w r s pkt).scene.view s' =
      if s' ∈ (movers w r (.changeMap s pkt)).map Prod.fst then none
      else some (w.routing.parties.membersOf id) := by
    intro s' id playing
    rcases handleCChangeMap_tells data w r s pkt (inRange.registered r registered) with
      ⟨instanceId, told⟩ | ⟨nobody, told⟩
    · rw [view_told w.scene _ s' _ told.news, PartyView.hears_toEach, agree s' id playing]
      rfl
    · rw [view_told w.scene _ s' _ told.news, PartyView.hears_cons, nobody,
        List.map_nil, if_neg List.not_mem_nil, agree s' id playing]
      exact ite_self _
  constructor
  · intro agreed mover moving id playing r' standing
    by_contra away
    have leaves := List.mem_map_of_mem (f := Prod.fst) moving
    have still := (same mover.1 id).mpr ⟨playing, fun _ => ⟨r', away, standing⟩⟩
    have held := agreed mover.1 id still
    rw [view mover.1 id playing, if_pos leaves] at held
    cases held
  · intro reaches s' id playing
    obtain ⟨before, behind⟩ := (same s' id).mp playing
    rw [view s' id before, parties, if_neg]
    intro leaves
    obtain ⟨mover, moving, rfl⟩ := List.mem_map.mp leaves
    obtain ⟨r', away, standing⟩ := behind leaves
    exact away (reaches mover moving id before r' standing)

theorem agree_held (w : World) (agree : ClientsAgree w) (s : SessionId) (id : ObjectId)
    (playing : w.routing.InGame s id) :
    (w.scene.view s).getD [] = w.routing.parties.membersOf id := by
  rw [agree s id playing]
  rfl

/-- A party goes on without its member `player`, who holds nothing any more: an update with
those that stay is right exactly for them. -/
theorem remain_agree_iff (w next : World) (wellFormed : w.routing.parties.WellFormed)
    (player : ObjectId) (member : player ∈ w.routing.parties.membersOf player)
    (enough : ¬ (w.routing.parties.matesOf player).length ≤ 1)
    (groups : w.routing.parties.Regroups next.routing.parties
      (w.routing.parties.membersOf player) (w.routing.parties.matesOf player))
    (hears : SessionId → Prop) [DecidablePred hears] (before : SessionId → List ObjectId)
    (view : ∀ s id, next.routing.InGame s id →
      next.scene.view s = some (if hears s then w.routing.parties.matesOf player else before s))
    (held : ∀ s id, next.routing.InGame s id →
      before s = if id = player then [] else w.routing.parties.membersOf id) :
    ClientsAgree next ↔ ∀ s id, next.routing.InGame s id →
      (id ∈ w.routing.parties.matesOf player ↔ hears s) := by
  have apart (id : ObjectId) :=
    PartyManager.membersOf_ne_matesOf _ wellFormed id player member enough
  apply updated_iff next _ hears before view
  · intro s id playing inside
    obtain ⟨-, other⟩ := (PartyManager.mem_matesOf _ player id).mp inside
    rw [held s id playing, if_neg other]
    exact ⟨groups.inside id inside, apart id⟩
  · intro s id playing outside
    rw [held s id playing]
    by_cases itself : id = player
    · rw [if_pos itself, itself]
      constructor
      · exact groups.gone player member (itself ▸ outside)
      · intro none
        rw [← none] at enough
        exact enough (Nat.zero_le 1)
    · have stranger : id ∉ w.routing.parties.membersOf player := fun mate =>
        outside ((PartyManager.mem_matesOf _ player id).mpr ⟨mate, itself⟩)
      rw [if_neg itself]
      exact ⟨groups.others id stranger outside, apart id⟩

theorem disband_agree_iff (m m' : PartyManager) (wellFormed : m.WellFormed)
    (player id : ObjectId) (member : player ∈ m.membersOf player)
    (groups : m.Regroups m' (m.membersOf player) []) (heard left : Prop) [Decidable heard]
    [Decidable left] (leaver : left ↔ id = player) :
    (if heard then [] else if left then [] else m.membersOf id) = m'.membersOf id ↔
      (id ∈ m.matesOf player → heard) ∧
        (heard → id ∈ m.membersOf player ∨ m.membersOf id = []) := by
  have now : m'.membersOf id = if id ∈ m.membersOf player then [] else m.membersOf id := by
    split
    case isTrue mate => exact groups.gone id mate List.not_mem_nil
    case isFalse stranger => exact groups.others id stranger List.not_mem_nil
  have own (mate : id ∈ m.membersOf player) : m.membersOf id ≠ [] := by
    rw [PartyManager.membersOf_member _ wellFormed player id mate]
    exact List.ne_nil_of_mem member
  rw [now, PartyManager.mem_matesOf]
  by_cases told : heard
  · by_cases mate : id ∈ m.membersOf player
    · simp [told, mate]
    · have flipped : [] = m.membersOf id ↔ m.membersOf id = [] := eq_comm
      simp [told, mate, flipped]
  · by_cases gone : left
    · have itself := leaver.mp gone
      subst itself
      rw [if_neg told, if_pos gone, if_pos member]
      simp [told]
    · have other : id ≠ player := fun equal => gone (leaver.mpr equal)
      by_cases mate : id ∈ m.membersOf player
      · simp [told, gone, mate, own mate, other]
      · simp [told, gone, mate]

/-- A member is taken out of its party and nobody is told: what the others held is right
only where they were no mates of it. -/
theorem unheard_agree_iff (m m' : PartyManager) (wellFormed : m.WellFormed)
    (player id : ObjectId) (other : id ≠ player) (member : player ∈ m.membersOf player)
    (after : List ObjectId) (remain : ∀ mate ∈ after, mate ∈ m.matesOf player)
    (groups : m.Regroups m' (m.membersOf player) after) :
    m.membersOf id = m'.membersOf id ↔ id ∉ m.matesOf player := by
  constructor
  · intro equal inside
    obtain ⟨mate, -⟩ := (PartyManager.mem_matesOf _ player id).mp inside
    rw [PartyManager.membersOf_member _ wellFormed player id mate] at equal
    by_cases stays : id ∈ after
    · rw [groups.inside id stays] at equal
      exact ((PartyManager.mem_matesOf _ player player).mp (remain player (equal ▸ member))).2 rfl
    · rw [groups.gone id mate stays] at equal
      rw [equal] at member
      cases member
  · intro outside
    have stranger : id ∉ m.membersOf player := fun mate =>
      outside ((PartyManager.mem_matesOf _ player id).mpr ⟨mate, other⟩)
    exact (groups.others id stranger fun stays => outside (remain id stays)).symm

section Jobs

variable (w : World) (r : RoomRef) (known : w.Known)
  (wellFormed : w.routing.parties.WellFormed) (agree : ClientsAgree w)

include wellFormed agree

theorem answer_agrees_iff (s : SessionId) (inviterId : ObjectId) (accept : Bool) :
    ClientsAgree (partyAnswer w r s inviterId accept) ↔ AnswerReaches w r s inviterId accept := by
  have same (s' : SessionId) (id : ObjectId) :
      (partyAnswer w r s inviterId accept).routing.InGame s' id ↔ w.routing.InGame s' id := by
    obtain ⟨parties, result, -⟩ := partyAnswer_routing w r s inviterId accept
    rw [result]
    exact inGame_congr (b := w.routing.onParties _) (a := w.routing) rfl rfl s' id
  have itself (player acceptor : ObjectId) (joins : Joins w s inviterId accept player)
      (joins' : Joins w s inviterId accept acceptor) : acceptor = player :=
    Option.some.inj (joins'.locked.symm.trans joins.locked)
  cases partyAnswer_told w r s inviterId accept wellFormed with
  | unchanged refused parties told =>
      constructor
      · exact fun _ acceptor joins => absurd joins (refused acceptor)
      · intro _
        apply agree_quiet w _ agree _ parties fun s' id => (same s' id).mp
        rw [told.news, List.append_nil]
  | alone joins groups told =>
      have view (s' : SessionId) := view_told w.scene _ s' [] told.news
      have free := PartyManager.membersOf_free _ wellFormed inviterId joins.free
      constructor
      · intro agreed acceptor joins' s' id playing
        rw [itself _ acceptor joins joins', if_pos rfl]
        rintro rfl
        have held := agreed s' id ((same s' id).mpr playing)
        rw [view, PartyView.hears_nil, agree s' id playing, free,
          groups.inside id List.mem_cons_self] at held
        cases held
      · intro reaches s' id playing
        have before := (same s' id).mp playing
        have other := reaches inviterId joins s' id before
        rw [if_pos rfl] at other
        rw [view, PartyView.hears_nil, agree s' id before,
          groups.others id List.not_mem_nil (by simpa using other)]
  | joined acceptor joins other before stay groups members lists told =>
      have news : w.routing.parties.playerToParty acceptor = none := joins.free
      have apart (id : ObjectId) : w.routing.parties.membersOf id ≠
          w.routing.parties.groupOf inviterId ++ [acceptor] := by
        intro equal
        have absent := PartyManager.not_mem_membersOf _ wellFormed id acceptor news
        rw [equal] at absent
        exact absent (List.mem_append_right _ List.mem_cons_self)
      have held (s' : SessionId) (id : ObjectId)
          (playing : (partyAnswer w r s inviterId accept).routing.InGame s' id) :=
        agree_held w agree s' id ((same s' id).mp playing)
      rw [updated_iff (partyAnswer w r s inviterId accept)
        (w.routing.parties.groupOf inviterId ++ [acceptor])
        (fun s' => s' ∈ w.routing.addressees r (w.routing.parties.groupOf inviterId ++ [acceptor]))
        fun s' => (w.scene.view s').getD []]
      · constructor
        · intro reaches acceptor' joins' s' id playing
          rw [itself acceptor acceptor' joins joins', if_neg other]
          exact reaches s' id ((same s' id).mpr playing)
        · intro reaches s' id playing
          have reached := reaches acceptor joins s' id ((same s' id).mp playing)
          rwa [if_neg other] at reached
      · intro s' id playing
        rw [held s' id playing, view_told w.scene _ s' _ told.news,
          agree s' id ((same s' id).mp playing), hears_update _ _ s' _ members lists]
      · intro s' id playing member
        rw [held s' id playing]
        exact ⟨groups.inside id member, apart id⟩
      · intro s' id playing outside
        rw [held s' id playing]
        exact ⟨groups.others id (fun member => outside (stay id member)) outside, apart id⟩

include known

theorem leave_agrees_iff (s : SessionId) :
    ClientsAgree (partyLeave w r s) ↔ LeaveReaches w r s := by
  have same (s' : SessionId) (id : ObjectId) :
      (partyLeave w r s).routing.InGame s' id ↔ w.routing.InGame s' id := by
    obtain ⟨parties, result, -⟩ := partyLeave_routing w r s
    rw [result]
    exact inGame_congr (b := w.routing.onParties _) (a := w.routing) rfl rfl s' id
  cases partyLeave_told w r s wellFormed with
  | unchanged nowhere parties told =>
      constructor
      · intro _ player locked member
        rw [nowhere player locked] at member
        cases member
      · intro _
        apply agree_quiet w _ agree _ parties fun s' id => (same s' id).mp
        rw [told.news, List.append_nil]
  | stays player locked member enough groups members lists told =>
      have itself (other : ObjectId)
          (locked' : lockPlayer w.routing w.scene [] s = some other) : other = player :=
        Option.some.inj (locked'.symm.trans locked)
      have view (s' : SessionId) (id : ObjectId) (playing : w.routing.InGame s' id) :
          (partyLeave w r s).scene.view s' =
            some (if s' ∈ w.routing.addressees r (w.routing.parties.matesOf player)
              then w.routing.parties.matesOf player
              else if s = s' then [] else (w.scene.view s').getD []) := by
        have first : (if s = s' then (w.scene.view s').receive .partyLeave else w.scene.view s') =
            some (if s = s' then [] else w.routing.parties.membersOf id) := by
          rw [agree s' id playing]
          split <;> rfl
        rw [agree_held w agree s' id playing, view_told w.scene _ s' _ told.news,
          PartyView.hears_cons, first, hears_update _ _ s' _ members lists]
      have held (s' : SessionId) (id : ObjectId) (playing : w.routing.InGame s' id) :
          (if s = s' then [] else (w.scene.view s').getD []) =
            if id = player then [] else w.routing.parties.membersOf id := by
        have leaver := leaver_plays w known s player locked s' id playing.plays
        rw [agree_held w agree s' id playing]
        simp only [← leaver, eq_comm]
      rw [remain_agree_iff w (partyLeave w r s) wellFormed player member enough groups
        (fun s' => s' ∈ w.routing.addressees r (w.routing.parties.matesOf player))
        (fun s' => if s = s' then [] else (w.scene.view s').getD [])
        (fun s' id playing => view s' id ((same s' id).mp playing))
        fun s' id playing => held s' id ((same s' id).mp playing)]
      constructor
      · intro reaches other locked' _ s' id playing
        rw [itself other locked', if_neg enough]
        exact reaches s' id ((same s' id).mpr playing)
      · intro reaches s' id playing
        have reached := reaches player locked member s' id ((same s' id).mp playing)
        rwa [if_neg enough] at reached
  | disbands player locked member few groups told =>
      have itself (other : ObjectId)
          (locked' : lockPlayer w.routing w.scene [] s = some other) : other = player :=
        Option.some.inj (locked'.symm.trans locked)
      have view (s' : SessionId) (id : ObjectId) (playing : w.routing.InGame s' id) :
          (partyLeave w r s).scene.view s' =
            some (if s' ∈ w.routing.addressees r (w.routing.parties.matesOf player) then []
              else if s = s' then [] else w.routing.parties.membersOf id) := by
        have first : (if s = s' then (w.scene.view s').receive .partyLeave else w.scene.view s') =
            some (if s = s' then [] else w.routing.parties.membersOf id) := by
          rw [agree s' id playing]
          split <;> rfl
        rw [view_told w.scene _ s' _ told.news, PartyView.hears_cons, first, hears_leave]
      have agrees (s' : SessionId) (id : ObjectId) (playing : w.routing.InGame s' id) :
          (partyLeave w r s).scene.view s' =
              some ((partyLeave w r s).routing.parties.membersOf id) ↔
            (id ∈ w.routing.parties.matesOf player →
              s' ∈ w.routing.addressees r (w.routing.parties.matesOf player)) ∧
            (s' ∈ w.routing.addressees r (w.routing.parties.matesOf player) →
              id ∈ w.routing.parties.membersOf player ∨ w.routing.parties.membersOf id = []) := by
        have leaver := leaver_plays w known s player locked s' id playing.plays
        rw [view s' id playing, Option.some.injEq]
        exact disband_agree_iff _ _ wellFormed player id member groups _ _ (eq_comm.trans leaver)
      constructor
      · intro agreed other locked' _ s' id playing
        rw [itself other locked', if_pos few]
        exact (agrees s' id playing).mp (agreed s' id ((same s' id).mpr playing))
      · intro reaches s' id playing
        have reached := reaches player locked member s' id ((same s' id).mp playing)
        rw [if_pos few] at reached
        exact (agrees s' id ((same s' id).mp playing)).mpr reached

theorem parting_agrees_iff (s : SessionId) :
    ClientsAgree (onDisconnected w s) ↔ PartingReaches w s := by
  have same (s' : SessionId) (id : ObjectId) :
      (onDisconnected w s).routing.InGame s' id ↔ s' ≠ s ∧ w.routing.InGame s' id :=
    inGame_disconnected w s s' id
  obtain ⟨news, told, parted, -⟩ := onDisconnected_told w s wellFormed
  have leaver (player : ObjectId) (locked : lockPlayer w.routing w.scene [] s = some player)
      (s' : SessionId) (id : ObjectId) (other : s' ≠ s) (playing : w.routing.InGame s' id) :
      id ≠ player := fun equal =>
    other ((leaver_plays w known s player locked s' id playing.plays).mpr equal)
  cases parted with
  | unchanged nowhere parties silent =>
      constructor
      · intro _ player locked member
        rw [nowhere player locked] at member
        cases member
      · intro _
        apply agree_quiet w _ agree _ parties fun s' id playing => ((same s' id).mp playing).2
        rw [told, silent, List.append_nil]
  | stays player locked member enough groups r bound members lists sent =>
      have itself (other : ObjectId)
          (locked' : lockPlayer w.routing w.scene [] s = some other) : other = player :=
        Option.some.inj (locked'.symm.trans locked)
      rw [sent] at told
      have view (s' : SessionId) (id : ObjectId)
          (playing : (onDisconnected w s).routing.InGame s' id) :
          (onDisconnected w s).scene.view s' =
            some (if s' ∈ w.routing.addressees r (w.routing.parties.matesOf player)
              then w.routing.parties.matesOf player else (w.scene.view s').getD []) := by
        obtain ⟨-, before⟩ := (same s' id).mp playing
        rw [agree_held w agree s' id before, view_told w.scene _ s' _ told, agree s' id before,
          hears_update _ _ s' _ members lists]
      have held (s' : SessionId) (id : ObjectId)
          (playing : (onDisconnected w s).routing.InGame s' id) :
          (w.scene.view s').getD [] =
            if id = player then [] else w.routing.parties.membersOf id := by
        obtain ⟨elsewhere, before⟩ := (same s' id).mp playing
        rw [if_neg (leaver player locked s' id elsewhere before)]
        exact agree_held w agree s' id before
      rw [remain_agree_iff w (onDisconnected w s) wellFormed player member enough groups
        (fun s' => s' ∈ w.routing.addressees r (w.routing.parties.matesOf player))
        (fun s' => (w.scene.view s').getD []) view held]
      constructor
      · intro reaches other locked' _ s' id elsewhere playing
        rw [itself other locked', if_neg enough, bound]
        exact reaches s' id ((same s' id).mpr ⟨elsewhere, playing⟩)
      · intro reaches s' id playing
        obtain ⟨elsewhere, before⟩ := (same s' id).mp playing
        have reached := reaches player locked member s' id elsewhere before
        rwa [if_neg enough, bound] at reached
  | unheard player locked member after remain groups unable silent =>
      rw [silent] at told
      have reaches_iff (other : ObjectId)
          (locked' : lockPlayer w.routing w.scene [] s = some other) (id : ObjectId)
          (s' : SessionId) : (if (w.routing.parties.matesOf other).length ≤ 1 then
            id ∉ w.routing.parties.matesOf other
          else
            match lockRoom w.routing w.scene s with
            | none => id ∉ w.routing.parties.matesOf other
            | some r => id ∈ w.routing.parties.matesOf other ↔
                s' ∈ w.routing.addressees r (w.routing.parties.matesOf other)) ↔
          id ∉ w.routing.parties.matesOf player := by
        have itself : other = player := Option.some.inj (locked'.symm.trans locked)
        rw [itself]
        rcases unable with few | nowhere
        · rw [if_pos few]
        · rw [nowhere]
          split <;> exact Iff.rfl
      have agrees (s' : SessionId) (id : ObjectId) (elsewhere : s' ≠ s)
          (playing : w.routing.InGame s' id) : (onDisconnected w s).scene.view s' =
            some ((onDisconnected w s).routing.parties.membersOf id) ↔
          id ∉ w.routing.parties.matesOf player := by
        have other := leaver player locked s' id elsewhere playing
        rw [view_told w.scene _ s' [] told, PartyView.hears_nil, agree s' id playing,
          Option.some.injEq]
        exact unheard_agree_iff _ _ wellFormed player id other member after remain groups
      constructor
      · intro agreed other locked' _ s' id elsewhere playing
        apply (reaches_iff other locked' id s').mpr
        exact (agrees s' id elsewhere playing).mp
          (agreed s' id ((same s' id).mpr ⟨elsewhere, playing⟩))
      · intro reaches s' id playing
        obtain ⟨elsewhere, before⟩ := (same s' id).mp playing
        apply (agrees s' id elsewhere before).mpr
        exact (reaches_iff player locked id s').mp (reaches player locked member s' id elsewhere before)

omit known

theorem entry_agrees_iff (s : SessionId) (player : ObjectId)
    (own : ∀ s', w.routing.Bound s' player → s' = s)
    (fine : (w.enterRoom r s player).scene.fault = none) :
    ClientsAgree (w.enterRoom r s player) ↔ EntryReaches w r s player := by
  obtain ⟨info, members, lists, told⟩ := entry_news w r s player wellFormed fine
  have parties : (w.enterRoom r s player).routing.parties = w.routing.parties := by
    rw [enterRoom_routing]
    rfl
  have same (s' : SessionId) (id : ObjectId) (other : s' ≠ s) :=
    inGame_entered w r s player own s' id other
  have held (s' : SessionId) (id : ObjectId) (other : s' ≠ s) (playing : w.routing.InGame s' id) :
      (w.enterRoom r s player).scene.view s' = some
        (if s' ∈ w.routing.addressees r (w.routing.parties.membersOf player) then
          w.routing.parties.membersOf player else w.routing.parties.membersOf id) := by
    have heard : s' ∈ (w.enterRoom r s player).routing.addressees r
        (w.routing.parties.membersOf player) ↔
          s' ∈ w.routing.addressees r (w.routing.parties.membersOf player) :=
      addressees_entered w r s player own s' _ other
    rw [view_told w.scene _ s' _ told, PartyView.hears_cons, if_neg (Ne.symm other),
      agree s' id playing, hears_update _ _ s' _ members lists]
    simp only [heard]
  constructor
  · intro agreed s' id other playing heard
    have now := agreed s' id ((same s' id other).mpr playing)
    rw [held s' id other playing, if_pos heard, parties, Option.some.injEq] at now
    obtain ⟨member, among, -⟩ := (mem_addressees _ r _ s').mp heard
    rw [now] at among ⊢
    exact PartyManager.membersOf_self _ wellFormed id member among
  · intro reaches s' id playing
    rw [parties]
    by_cases here : s' = s
    · subst here
      have plays := playing.plays
      rw [enterRoom_routing] at plays
      have itself : id = player := by
        have named := (Routing.sessions_setSession w.routing s' s'
          { w.routing.sessions s' with gameRoom := some r, player := some player }).trans
            (if_pos rfl)
        exact (Option.some.inj ((congrArg GameSession.player named).symm.trans plays)).symm
      rw [itself, view_told w.scene _ s' _ told, PartyView.hears_cons, if_pos rfl]
      refine (hears_update [] _ s' _ members lists).trans ?_
      split
      case isTrue => rfl
      case isFalse unheard =>
        cases listed : w.routing.parties.membersOf player with
        | nil => rfl
        | cons first rest =>
            have among : first ∈ w.routing.parties.membersOf player := by
              rw [listed]
              exact List.mem_cons_self
            have grouped := PartyManager.membersOf_self _ wellFormed player first among
            exact absurd (entered_hears w r s' player _ grouped) unheard
    · have before := (same s' id here).mp playing
      rw [held s' id here before]
      split
      case isTrue heard =>
        have among := reaches s' id here before heard
        rw [PartyManager.membersOf_member _ wellFormed player id among]
      case isFalse => rfl

end Jobs

theorem job_agrees_iff (w : World) (r : RoomRef) (job : Job) (known : w.Known)
    (wellFormed : w.routing.parties.WellFormed) (agree : ClientsAgree w)
    (inRange : w.routing.InRange) (registered : w.routing.Registered r)
    (own : ∀ s player, job = .enterRoom s player → ∀ s', w.routing.Bound s' player → s' = s)
    (fine : (runJob data w r job).scene.fault = none) :
    ClientsAgree (runJob data w r job) ↔ JobReaches w r job := by
  have quiet (stays : job.entering = none) (calm : job.changesParties = false)
      (told : w.scene.Tells [] (runJob data w r job).scene) (free : JobReaches w r job = True) :
      ClientsAgree (runJob data w r job) ↔ JobReaches w r job := by
    have follows := runJob_calm data w r job inRange stays
    rw [free]
    refine iff_of_true ?_ trivial
    apply agree_quiet w _ agree
    · rw [told.news, List.append_nil]
    · exact worked_parties w r job _ (runJob_worked data w r job inRange registered stays) calm
    · rintro s id ⟨online, plays, r', standing⟩
      rw [follows.sessions] at online plays
      exact ⟨online, plays, r', follows.players r' id standing⟩
  cases job with
  | move s pkt => exact quiet rfl rfl (handleCMove_tells w.routing r s pkt w.scene) rfl
  | turn s pkt => exact quiet rfl rfl (handleCTurn_tells w.routing r s pkt w.scene) rfl
  | attack s pkt => exact quiet rfl rfl (handleCAttack_tells data w r s pkt) rfl
  | changeMap s pkt => exact move_agrees_iff data w r known agree s pkt inRange registered
  | equipItem s slot =>
      exact quiet rfl rfl (itemJob_tells _ (Player.equipItem_others data slot) w s) rfl
  | unequipItem s equipType =>
      exact quiet rfl rfl (itemJob_tells _ (Player.unequipItem_others data equipType) w s) rfl
  | useItem s slot =>
      exact quiet rfl rfl (itemJob_tells _ (Player.useItem_others data slot) w s) rfl
  | partyInvite s targetId => exact quiet rfl rfl (partyInvite_tells w r s targetId) rfl
  | partyAnswer s inviterId accept => exact answer_agrees_iff w r wellFormed agree s inviterId accept
  | partyLeave s => exact leave_agrees_iff w r known wellFormed agree s
  | enterRoom s player => exact entry_agrees_iff w r wellFormed agree s player (own s player rfl) fine
  | leaveRoom s => exact quiet rfl rfl (leaveRoom_tells w [] r s) rfl

theorem still_keeps (w next : World) (e : Event) (jobless : ∀ rand, e ≠ .job rand)
    (stays : ∀ s, e ≠ .disconnect s) (stepped : w.step data e = some next) :
    next.scene.news = w.scene.news ∧ next.routing.parties = w.routing.parties ∧
      (∀ s, (next.routing.sessions s).player = (w.routing.sessions s).player) ∧
      ∀ r, (next.routing.rooms r).players = (w.routing.rooms r).players := by
  have news : next.scene.news = w.scene.news := by
    by_cases request : ∃ s username, e = .packet s (.login username)
    · obtain ⟨s, username, rfl⟩ := request
      obtain ⟨acted, -⟩ := step_act data w next _ stepped
      simp only [World.act] at acted
      split at acted
      · cases acted
        exact (handleCLogin_told data w s username).1
      · cases acted
    · have told := step_silent data w next e jobless
        (fun s username login => request ⟨s, username, login⟩) stays stepped
      rw [told.news, List.append_nil]
  refine ⟨news, ?_⟩
  cases step_stepped data w next e stepped with
  | enter r s id rest rand _ _ => exact absurd rfl (jobless rand)
  | ran r job rest rand _ _ _ => exact absurd rfl (jobless rand)
  | login s username connected result =>
      rw [result]
      rcases handleCLogin_cases data w s username with ⟨store, looked, -⟩ | ⟨-, -, logged, -⟩
      · rw [looked]
        exact ⟨rfl, fun _ => rfl, fun _ => rfl⟩
      · rw [logged]
        refine ⟨Routing.loggedIn_parties .., fun s' => ?_, Routing.loggedIn_players _ _ _ _ _⟩
        rw [Routing.loggedIn_sessions]
        split
        case isTrue same => rw [same]
        case isFalse => rfl
  | left s connected result => exact absurd rfl (stays s)
  | other e idles => exact ⟨idles.parties, idles.player, idles.samePlayers⟩

structure Mirrored (w : World) : Prop extends w.Sound where
  wellFormed : w.routing.parties.WellFormed
  arrived : ∀ l ∈ w.routing.logins, (w.routing.sessions l.session).connection ≠ .fresh
  agree : ClientsAgree w

section Step

variable (w next : World) (e : Event) (mirrored : Mirrored w)
  (stepped : w.step data e = some next)

include mirrored stepped

theorem step_agrees_iff : ClientsAgree next ↔ NewsReaches w e := by
  obtain ⟨acted, fine⟩ := step_act data w next e stepped
  have still (jobless : ∀ rand, e ≠ .job rand) (stays : ∀ s, e ≠ .disconnect s) :
      ClientsAgree next := by
    obtain ⟨news, parties, players, standing⟩ := still_keeps data w next e jobless stays stepped
    apply agree_quiet w next mirrored.agree news parties
    rintro s id ⟨online, plays, r, there⟩
    rw [players] at plays
    rw [standing] at there
    refine ⟨?_, plays, r, there⟩
    rw [step_connection data w next e mirrored.inRange stepped s, Connection.after] at online
    split at online
    case isTrue arrives =>
      -- a session that only now connects plays no player
      have fresh := (step_connected data w next e s stepped).1 arrives
      obtain ⟨l, member, session, -⟩ := mirrored.bound s id (.inl plays)
      exact absurd fresh (session ▸ mirrored.arrived l member)
    case isFalse =>
      split at online
      case isTrue => cases online
      case isFalse => exact online
  cases e with
  | job rand =>
      obtain ⟨r, job, rest, front, result⟩ := runNextJob_some data w next rand acted
      obtain ⟨ranged, registered⟩ := forJob_room w mirrored.inRange r job rest rand front
      have known := forJob_known w r job rest rand mirrored.toKnown front
      have agree : ClientsAgree (w.forJob r rest rand) := by
        apply agree_quiet w (w.forJob r rest rand) mirrored.agree rfl rfl
        rintro s id ⟨online, plays, r', standing⟩
        exact ⟨online, plays, r', by rwa [World.forJob, Routing.players_popJob] at standing⟩
      have own (s : SessionId) (player : ObjectId) (enters : job = .enterRoom s player)
          (s' : SessionId) (bound : (w.forJob r rest rand).routing.Bound s' player) : s' = s := by
        have queued := Routing.nextJob_queued _ r job rest front
        rw [enters] at queued
        obtain ⟨l, member, session, itself⟩ := known.bound s' player bound
        obtain ⟨l', member', session', itself'⟩ :=
          mirrored.bound s player (.inr (.inr ⟨r, queued⟩))
        rw [← session, ← session',
          mirrored.login_unique l l' member member' (itself.trans itself'.symm)]
      rw [result] at fine ⊢
      have agrees := job_agrees_iff data (w.forJob r rest rand) r job known mirrored.wellFormed
        agree ranged registered own fine
      rw [agrees]
      constructor
      · intro reaches r' job' rest' front'
        rw [front] at front'
        cases front'
        exact reaches
      · exact fun reaches => reaches r job rest front
  | disconnect s =>
      simp only [World.act] at acted
      split at acted
      · cases acted
        exact parting_agrees_iff w mirrored.toKnown mirrored.wellFormed mirrored.agree s
      · cases acted
  | _ => exact iff_of_true (still (by simp) (by simp)) trivial

theorem mirrored_after (reaches : NewsReaches w e) : Mirrored next := by
  have agree := (step_agrees_iff data w next e mirrored stepped).mpr reaches
  refine ⟨step_sound data w next e mirrored.toSound stepped,
    step_wellFormedParties data w next e mirrored.inRange mirrored.wellFormed stepped, ?_, agree⟩
  intro l member
  have before : (w.routing.sessions l.session).connection ≠ .fresh := by
    rcases step_logins data w next e mirrored.inRange stepped with
      ⟨same, -⟩ | ⟨s, username, login, -, added, -⟩
    · rw [same] at member
      exact mirrored.arrived l member
    · rw [added] at member
      rcases List.mem_cons.mp member with rfl | old
      · rw [(step_connected data w next e s stepped).2.2 _ login]
        decide
      · exact mirrored.arrived l old
  rw [step_connection data w next e mirrored.inRange stepped, Connection.after]
  split
  · decide
  · split
    · decide
    · exact before

end Step

theorem init_mirrored (store : Store) (redisConnected : Bool) (rand : List Nat) :
    Mirrored (World.init data store redisConnected rand) := by
  have blank := init_blank data store redisConnected rand
  refine ⟨init_sound data store redisConnected rand, ?_, ?_, ?_⟩
  · rw [blank.parties]
    exact PartyManager.WellFormed.initial
  · intro l member
    rw [blank.logins] at member
    cases member
  · rintro s id ⟨online, -, -⟩
    rw [blank.sessions] at online
    cases online

/-- The clients of all players in rooms hold the members of their parties in every state of a
run if and only if the news of every step reaches whom it has to reach. -/
theorem clients_agree_iff (store : Store) (redisConnected : Bool) (rand : List Nat)
    (events : List Event) :
    Runs.EveryState (World.step data) ClientsAgree (World.init data store redisConnected rand)
        events ↔
      Runs.EachStep (World.step data) NewsReaches (World.init data store redisConnected rand)
        events := by
  apply Runs.everyState_iff (fun _ _ => True) NewsReaches Mirrored ClientsAgree
  · exact fun w mirrored => mirrored.agree
  · intro w e next mirrored _ stepped reaches
    exact mirrored_after data w next e mirrored stepped reaches
  · intro w e next mirrored _ stepped agree
    exact (step_agrees_iff data w next e mirrored stepped).mp agree
  · exact init_mirrored data store redisConnected rand
  · exact Runs.eachStep_true _ events

/-- The party ends with its second player. -/
def partnerDisconnects : List Event := pairInTown ++ [.disconnect 2]

set_option maxRecDepth 20000 in
theorem partner_disconnects_unheard :
    ¬ Runs.EveryState (World.step smallGame) ClientsAgree
      (World.init smallGame newStore false []) partnerDisconnects := by
  have run : (Runs.run (World.step smallGame) (World.init smallGame newStore false [])
      partnerDisconnects).any (fun w =>
        (w.routing.sessions 1).connection = .connected ∧ (w.routing.sessions 1).player = some 1 ∧
          1 ∈ (w.routing.rooms 0).players ∧ w.routing.parties.membersOf 1 = [] ∧
          w.scene.view 1 = some [1, 2]) = true := by decide +kernel
  obtain ⟨w, ended, checked⟩ := Option.any_eq_true _ _ |>.mp run
  obtain ⟨online, plays, standing, alone, held⟩ := of_decide_eq_true checked
  intro every
  have agree := Runs.everyState_final ClientsAgree _ w partnerDisconnects every ended
  have now := agree 1 1 ⟨online, plays, 0, standing⟩
  rw [held, alone] at now
  cases now

end ZeldaServer
