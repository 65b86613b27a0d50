import ZeldaServer.Core.Session
import ZeldaServer.Game.PartyCalls

/-! `PartyManager` in multi mode: the logic thread runs `C_PartyLeave` and `C_PartyAnswer`
jobs while threads of the network run `OnDisconnected`. A call is one step, and between two
calls of one of them anything may happen. -/

namespace ZeldaServer

/-- Where the logic thread is: the next call of its job, with what it has read. -/
inductive LogicPoint where
  | idle
  | leave (player : ObjectId)
  | leaveGetParty (player : ObjectId) (partyId : PartyId)
  | leaveRemove (player : ObjectId) (partyId : PartyId)
  | answer (acceptor inviter : ObjectId)
  | answerFind (acceptor inviter : ObjectId)
  | answerCreate (acceptor inviter : ObjectId)
  | answerAdd (acceptor : ObjectId) (partyId : PartyId)
  deriving DecidableEq

/-- Where a thread is in the clean-up of `OnDisconnected`. -/
inductive DisconnectPoint where
  | idle
  | find (player : ObjectId)
  | remove (player : ObjectId) (partyId : PartyId)
  deriving DecidableEq

structure PartyRace where
  manager : PartyManager
  logic : LogicPoint
  disconnects : ThreadId → DisconnectPoint

inductive RaceEvent where
  | startLeave (player : ObjectId)
  | startAnswer (acceptor inviter : ObjectId)
  /-- the next call of the logic thread -/
  | logic
  | startDisconnect (thread : ThreadId) (player : ObjectId)
  /-- the next call of the thread -/
  | disconnect (thread : ThreadId)
  deriving DecidableEq

namespace PartyRace

def start : PartyRace := ⟨.initial, .idle, fun _ => .idle⟩

/-- The jobs of `Handle_C_PartyLeave` and `Handle_C_PartyAnswer`, call by call. -/
def logicStep (s : PartyRace) : LogicPoint → Option PartyRace
  | .idle => none
  | .leave player =>
      let partyId := s.manager.partyIdByPlayer player
      some { s with logic := if partyId = 0 then .idle else .leaveGetParty player partyId }
  | .leaveGetParty player partyId =>
      match s.manager.parties partyId with
      | none => some { s with logic := .idle }
      | some _ => some { s with logic := .leaveRemove player partyId }
  | .leaveRemove player partyId =>
      some { s with manager := s.manager.removeMember partyId player, logic := .idle }
  | .answer acceptor inviter =>
      some { s with
        logic := if s.manager.isInParty acceptor then .idle else .answerFind acceptor inviter }
  | .answerFind acceptor inviter =>
      let partyId := s.manager.partyIdByPlayer inviter
      some { s with
        logic := if partyId = 0 then .answerCreate acceptor inviter else .answerAdd acceptor partyId }
  | .answerCreate acceptor inviter =>
      let (partyId, manager) := s.manager.createParty inviter
      some { s with
        manager
        logic := if partyId = 0 then .idle else .answerAdd acceptor partyId }
  | .answerAdd acceptor partyId =>
      some { s with manager := (s.manager.addMember partyId acceptor).2, logic := .idle }

/-- The clean-up of `OnDisconnected`, call by call. -/
def disconnectStep (s : PartyRace) (thread : ThreadId) : DisconnectPoint → Option PartyRace
  | .idle => none
  | .find player =>
      let partyId := s.manager.partyIdByPlayer player
      let point := if partyId = 0 then .idle else .remove player partyId
      some { s with disconnects := Function.update s.disconnects thread point }
  | .remove player partyId =>
      some { s with
        manager := s.manager.removeMember partyId player
        disconnects := Function.update s.disconnects thread .idle }

def step (s : PartyRace) : RaceEvent → Option PartyRace
  | .startLeave player =>
      if s.logic = .idle then some { s with logic := .leave player } else none
  | .startAnswer acceptor inviter =>
      if s.logic = .idle then some { s with logic := .answer acceptor inviter } else none
  | .logic => s.logicStep s.logic
  | .startDisconnect thread player =>
      if s.disconnects thread = .idle then
        some { s with disconnects := Function.update s.disconnects thread (.find player) }
      else none
  | .disconnect thread => s.disconnectStep thread (s.disconnects thread)

def nextCall (s : PartyRace) : RaceEvent → Option PartyCall
  | .logic =>
      match s.logic with
      | .leaveRemove player partyId => some (.removeMember partyId player)
      | .answerCreate _ inviter => some (.createParty inviter)
      | .answerAdd acceptor partyId => some (.addMember partyId acceptor)
      | _ => none
  | .disconnect thread =>
      match s.disconnects thread with
      | .remove player partyId => some (.removeMember partyId player)
      | _ => none
  | _ => none

theorem step_manager (s next : PartyRace) (e : RaceEvent) (stepped : s.step e = some next) :
    next.manager = match s.nextCall e with
      | none => s.manager
      | some c => s.manager.call c := by
  cases e with
  | startLeave player =>
      simp only [step] at stepped
      split at stepped <;> cases stepped
      rfl
  | startAnswer acceptor inviter =>
      simp only [step] at stepped
      split at stepped <;> cases stepped
      rfl
  | logic =>
      simp only [step] at stepped
      simp only [nextCall]
      cases point : s.logic with
      | idle =>
          rw [point] at stepped
          cases stepped
      | leaveGetParty player partyId =>
          rw [point] at stepped
          simp only [logicStep] at stepped
          split at stepped <;> cases stepped <;> rfl
      | _ =>
          rw [point] at stepped
          cases stepped
          rfl
  | startDisconnect thread player =>
      simp only [step] at stepped
      split at stepped <;> cases stepped
      rfl
  | disconnect thread =>
      simp only [step] at stepped
      simp only [nextCall]
      cases point : s.disconnects thread with
      | idle =>
          rw [point] at stepped
          cases stepped
      | _ =>
          rw [point] at stepped
          cases stepped
          rfl

end PartyRace

namespace PartyManager

/-- A call takes no entry away from a player that stays listed, disbands no party that its
player is not in, and leaves no entry that names no party. -/
structure CallIsClean (m : PartyManager) (c : PartyCall) : Prop where
  entries : ∀ x, m.playerToParty x ≠ none → (m.call c).playerToParty x = none →
    ∀ partyId party, (m.call c).parties partyId = some party → x ∉ party.memberIds
  disbands : ∀ partyId party, m.parties partyId = some party →
    (m.call c).parties partyId = none →
      ∃ other x, c = .removeMember other x ∧ x ∈ party.memberIds
  named : ∀ x partyId, (m.call c).playerToParty x = some partyId →
    (m.call c).parties partyId ≠ none

theorem clean_of_wellFormed (m : PartyManager) (c : PartyCall) (after : (m.call c).WellFormed)
    (disbands : ∀ partyId party, m.parties partyId = some party →
      (m.call c).parties partyId = none →
        ∃ other x, c = .removeMember other x ∧ x ∈ party.memberIds) : m.CallIsClean c where
  entries := fun x _ gone partyId party present => after.stranger x gone partyId party present
  disbands := disbands
  named := by
    intro x partyId entry gone
    obtain ⟨party, present, -⟩ := (after.mapped x partyId).mp entry
    rw [gone] at present
    cases present

theorem createParty_present (m : PartyManager) (leaderId : ObjectId) (partyId : PartyId)
    (party : Party) (present : m.parties partyId = some party) :
    (m.createParty leaderId).2.parties partyId ≠ none := by
  unfold createParty
  cases m.playerToParty leaderId with
  | some other => simp [present]
  | none =>
      dsimp only
      rw [Function.update_apply]
      split <;> simp [present]

theorem addMember_present (m : PartyManager) (other : PartyId) (playerId : ObjectId)
    (partyId : PartyId) (party : Party) (present : m.parties partyId = some party) :
    (m.addMember other playerId).2.parties partyId ≠ none := by
  unfold addMember
  cases m.parties other with
  | none => simp [present]
  | some party' =>
      dsimp only
      split
      · simp [present]
      · cases m.playerToParty playerId with
        | some id => simp [present]
        | none =>
            dsimp only
            rw [Function.update_apply]
            split <;> simp [present]

theorem removeMember_clean_iff (m : PartyManager) (partyId : PartyId) (playerId : ObjectId)
    (wellFormed : m.WellFormed) :
    m.CallIsClean (.removeMember partyId playerId) ↔ m.RemovesRightly partyId playerId := by
  constructor
  · intro clean party found
    by_contra wrong
    obtain ⟨foreign, splits⟩ := not_or.mp wrong
    have absent : playerId ∉ party.memberIds := fun member =>
      foreign (wellFormed.entry playerId partyId party found member)
    have all := filter_absent party.memberIds playerId absent
    cases named : m.playerToParty playerId with
    | none =>
        -- the party falls apart though the player was not in it
        have few : (party.memberIds.filter (· ≠ playerId)).length ≤ 1 := by
          rw [all]
          by_contra enough
          exact splits ⟨named, by omega⟩
        have gone : (m.removeMember partyId playerId).parties partyId = none := by
          rw [removeMember_disbands m partyId playerId party found few]
          exact Function.update_self ..
        obtain ⟨other, x, same, member⟩ := clean.disbands partyId party found gone
        cases same
        exact absent member
    | some other =>
        -- the entry of the party it is in now is lost
        rw [named] at foreign
        have apart : other ≠ partyId := fun same => foreign (congrArg some same)
        obtain ⟨party', present, member⟩ := (wellFormed.mapped playerId other).mp named
        have kept : (m.removeMember partyId playerId).parties other = some party' ∧
            (m.removeMember partyId playerId).playerToParty playerId = none := by
          by_cases few : (party.memberIds.filter (· ≠ playerId)).length ≤ 1
          · rw [removeMember_disbands m partyId playerId party found few]
            refine ⟨(Function.update_of_ne apart _ _).trans present, ?_⟩
            dsimp only
            split
            · rfl
            · exact Function.update_self ..
          · obtain ⟨left, -, -, -, result⟩ := removeMember_stays m partyId playerId party found few
            rw [result]
            exact ⟨(Function.update_of_ne apart _ _).trans present, Function.update_self ..⟩
        exact clean.entries playerId (by simp [named]) kept.2 other party' kept.1 member
  · intro rightly
    apply clean_of_wellFormed m (.removeMember partyId playerId)
      (removeMember_wellFormed m partyId playerId wellFormed rightly)
    intro other party present gone
    refine ⟨partyId, playerId, rfl, ?_⟩
    simp only [call] at gone
    cases found : m.parties partyId with
    | none =>
        rw [removeMember, found, present] at gone
        cases gone
    | some party' =>
        have same : other = partyId := by
          by_contra apart
          by_cases few : (party'.memberIds.filter (· ≠ playerId)).length ≤ 1
          · rw [removeMember_disbands m partyId playerId party' found few] at gone
            dsimp only at gone
            rw [Function.update_of_ne apart, present] at gone
            cases gone
          · obtain ⟨left, -, -, -, result⟩ := removeMember_stays m partyId playerId party' found few
            rw [result] at gone
            dsimp only at gone
            rw [Function.update_of_ne apart, present] at gone
            cases gone
        subst same
        rw [found] at present
        cases present
        rcases rightly party found with own | ⟨free, enough⟩
        · obtain ⟨party', present, member⟩ := (wellFormed.mapped playerId other).mp own
          rw [found] at present
          cases present
          exact member
        · have absent := wellFormed.stranger playerId free other party found
          have all := filter_absent party.memberIds playerId absent
          have many : ¬ (party.memberIds.filter (· ≠ playerId)).length ≤ 1 := by
            rw [all]
            omega
          obtain ⟨left, -, -, -, result⟩ := removeMember_stays m other playerId party found many
          rw [result] at gone
          dsimp only at gone
          rw [Function.update_self] at gone
          cases gone

end PartyManager

namespace PartyRace

def Clean (s : PartyRace) (e : RaceEvent) : Prop :=
  ∀ c, s.nextCall e = some c → s.manager.CallIsClean c

/-- A `RemoveMember` that runs is for the party the player is in now; or for one that is
gone, or that does not fall apart while the player is in none. -/
def FreshRemovals (s : PartyRace) (e : RaceEvent) : Prop :=
  ∀ partyId player, s.nextCall e = some (.removeMember partyId player) →
    s.manager.RemovesRightly partyId player

theorem clean_iff (s : PartyRace) (e : RaceEvent) (wellFormed : s.manager.WellFormed) :
    s.Clean e ↔ s.FreshRemovals e := by
  constructor
  · intro clean partyId player called
    exact (s.manager.removeMember_clean_iff partyId player wellFormed).mp (clean _ called)
  · intro fresh c called
    cases c with
    | createParty leaderId =>
        apply PartyManager.clean_of_wellFormed
        · exact PartyManager.createParty_wellFormed s.manager leaderId wellFormed
        · intro partyId party present gone
          exact absurd gone (s.manager.createParty_present leaderId partyId party present)
    | addMember other player =>
        apply PartyManager.clean_of_wellFormed
        · exact PartyManager.addMember_wellFormed s.manager other player wellFormed
        · intro partyId party present gone
          exact absurd gone (s.manager.addMember_present other player partyId party present)
    | removeMember partyId player =>
        exact (s.manager.removeMember_clean_iff partyId player wellFormed).mpr
          (fresh partyId player called)

theorem step_wellFormed (s next : PartyRace) (e : RaceEvent) (wellFormed : s.manager.WellFormed)
    (fresh : s.FreshRemovals e) (stepped : s.step e = some next) : next.manager.WellFormed := by
  rw [step_manager s next e stepped]
  cases called : s.nextCall e with
  | none => exact wellFormed
  | some c =>
      cases c with
      | createParty leaderId =>
          exact PartyManager.createParty_wellFormed s.manager leaderId wellFormed
      | addMember partyId player =>
          exact PartyManager.addMember_wellFormed s.manager partyId player wellFormed
      | removeMember partyId player =>
          exact PartyManager.removeMember_wellFormed s.manager partyId player wellFormed
            (fresh partyId player called)

/-- In every interleaving, all calls are clean exactly when no removal is stale. -/
theorem clean_calls_iff (events : List RaceEvent) :
    Runs.EachStep step Clean start events ↔ Runs.EachStep step FreshRemovals start events := by
  apply Runs.eachStep_congr Clean FreshRemovals fun s => s.manager.WellFormed
  · intro s e next wellFormed fresh stepped
    exact step_wellFormed s next e wellFormed fresh stepped
  · intro s e _ wellFormed _
    exact clean_iff s e wellFormed
  · exact .initial

/-- Player 3 has joined player 1's party, and player 5 player 4's. -/
def twoParties : List RaceEvent :=
  [.startAnswer 2 1, .logic, .logic, .logic, .logic, .startAnswer 3 1, .logic, .logic, .logic,
    .startAnswer 5 4, .logic, .logic, .logic, .logic]

/-- While a thread is between the two calls of player 3's disconnect, its jobs leave the
first party and join the second one. -/
def rejoin : List RaceEvent :=
  [.startDisconnect 7 3, .disconnect 7, .startLeave 3, .logic, .logic, .logic, .startAnswer 3 4,
    .logic, .logic, .logic]

theorem rejoin_loses_entry :
    ¬ Runs.EachStep step Clean start (twoParties ++ rejoin ++ [.disconnect 7]) := by
  have run : (Runs.run step start (twoParties ++ rejoin)).any (fun s =>
      s.nextCall (.disconnect 7) = some (.removeMember 1 3) ∧ (s.step (.disconnect 7)).isSome ∧
        s.manager.playerToParty 3 = some 2 ∧
        (s.manager.removeMember 1 3).playerToParty 3 = none ∧
        ((s.manager.removeMember 1 3).parties 2).map (·.memberIds) = some [4, 5, 3]) = true := by
    decide
  obtain ⟨s, ended, checked⟩ := Option.any_eq_true _ _ |>.mp run
  obtain ⟨called, stepped, entry, lost, listed⟩ := of_decide_eq_true checked
  obtain ⟨next, stepped⟩ := Option.isSome_iff_exists.mp stepped
  intro each
  have last := Runs.eachStep_append Clean _ s (twoParties ++ rejoin) [.disconnect 7] ended each
  have clean := (last next stepped).1 _ called
  obtain ⟨party, present, members⟩ := Option.map_eq_some_iff.mp listed
  refine clean.entries 3 ?_ lost 2 party present ?_
  · rw [entry]
    simp
  · rw [members]
    decide

end PartyRace

end ZeldaServer
