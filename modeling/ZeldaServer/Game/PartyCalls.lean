import ZeldaServer.Game.PartyManager
import ZeldaServer.Lib.Runs

/-! The calls of `PartyManager`: what they keep, whatever their order. -/

namespace ZeldaServer

structure Party.WellFormed (party : Party) (partyId : PartyId) : Prop where
  key : party.partyId = partyId
  nodup : party.memberIds.Nodup
  nonempty : 1 ≤ party.memberIds.length
  size : party.memberIds.length ≤ PartyManager.maxPartySize
  leader : party.leaderId ∈ party.memberIds

namespace PartyManager

structure WellFormed (m : PartyManager) : Prop where
  mapped : ∀ x partyId, m.playerToParty x = some partyId ↔
    ∃ party, m.parties partyId = some party ∧ x ∈ party.memberIds
  party : ∀ partyId party, m.parties partyId = some party → party.WellFormed partyId
  used : ∀ partyId party, m.parties partyId = some party →
    partyId ≠ 0 ∧ partyId < m.partyIdGen
  idGen : m.partyIdGen ≠ 0

theorem filter_absent (members : List ObjectId) (playerId : ObjectId)
    (absent : playerId ∉ members) : members.filter (· ≠ playerId) = members := by
  apply List.filter_eq_self.mpr
  intro x member
  apply decide_eq_true
  exact fun same => absent (same ▸ member)

namespace WellFormed

theorem initial : PartyManager.initial.WellFormed where
  mapped := by
    intro x partyId
    constructor
    · intro entry
      cases entry
    · rintro ⟨party, present, -⟩
      cases present
  party := by
    intro partyId party present
    cases present
  used := by
    intro partyId party present
    cases present
  idGen := Nat.one_ne_zero

variable {m : PartyManager}

theorem entry (wellFormed : m.WellFormed) (x : ObjectId) (partyId : PartyId) (party : Party)
    (present : m.parties partyId = some party) (member : x ∈ party.memberIds) :
    m.playerToParty x = some partyId :=
  (wellFormed.mapped x partyId).mpr ⟨party, present, member⟩

theorem stranger (wellFormed : m.WellFormed) (x : ObjectId) (free : m.playerToParty x = none)
    (partyId : PartyId) (party : Party) (present : m.parties partyId = some party) :
    x ∉ party.memberIds := by
  intro member
  rw [wellFormed.entry x partyId party present member] at free
  cases free

theorem unused (wellFormed : m.WellFormed) (partyId : PartyId) (later : m.partyIdGen ≤ partyId) :
    m.parties partyId = none := by
  cases present : m.parties partyId with
  | none => rfl
  | some party =>
      have before := (wellFormed.used partyId party present).2
      exact absurd before (Nat.not_lt_of_le later)

end WellFormed

theorem createParty_wellFormed (m : PartyManager) (leaderId : ObjectId)
    (wellFormed : m.WellFormed) : (m.createParty leaderId).2.WellFormed := by
  unfold createParty
  cases free : m.playerToParty leaderId with
  | some other => exact wellFormed
  | none =>
      have unused := wellFormed.unused m.partyIdGen (Nat.le_refl _)
      dsimp only
      constructor
      · intro x partyId
        dsimp only
        by_cases joins : x = leaderId
        · rw [joins, Function.update_self]
          constructor
          · intro entry
            cases entry
            exact ⟨_, Function.update_self .., List.mem_singleton_self _⟩
          · rintro ⟨party, present, member⟩
            by_cases created : partyId = m.partyIdGen
            · rw [created]
            · rw [Function.update_of_ne created] at present
              exact absurd member (wellFormed.stranger leaderId free partyId party present)
        · rw [Function.update_of_ne joins, wellFormed.mapped]
          by_cases created : partyId = m.partyIdGen
          · rw [created, Function.update_self, unused]
            constructor
            · rintro ⟨party, present, -⟩
              cases present
            · rintro ⟨party, present, member⟩
              cases present
              exact absurd (List.mem_singleton.mp member) joins
          · rw [Function.update_of_ne created]
      · intro partyId party present
        dsimp only at present
        by_cases created : partyId = m.partyIdGen
        · rw [created, Function.update_self] at present
          cases present
          exact ⟨created.symm, List.nodup_singleton _, Nat.le_refl _, by simp [maxPartySize],
            List.mem_singleton_self _⟩
        · rw [Function.update_of_ne created] at present
          exact wellFormed.party partyId party present
      · intro partyId party present
        dsimp only at present ⊢
        by_cases created : partyId = m.partyIdGen
        · rw [created]
          exact ⟨wellFormed.idGen, Nat.lt_succ_self _⟩
        · rw [Function.update_of_ne created] at present
          obtain ⟨positive, before⟩ := wellFormed.used partyId party present
          exact ⟨positive, Nat.lt_succ_of_lt before⟩
      · exact Nat.succ_ne_zero _

theorem addMember_wellFormed (m : PartyManager) (partyId : PartyId) (playerId : ObjectId)
    (wellFormed : m.WellFormed) : (m.addMember partyId playerId).2.WellFormed := by
  unfold addMember
  cases found : m.parties partyId with
  | none => exact wellFormed
  | some party =>
      dsimp only
      split
      case isTrue => exact wellFormed
      case isFalse room =>
        cases free : m.playerToParty playerId with
        | some other => exact wellFormed
        | none =>
            have old := wellFormed.party partyId party found
            dsimp only
            constructor
            · intro x other
              dsimp only
              by_cases joins : x = playerId
              · rw [joins, Function.update_self]
                constructor
                · intro entry
                  cases entry
                  exact ⟨_, Function.update_self .., by simp⟩
                · rintro ⟨party', present, member⟩
                  by_cases same : other = partyId
                  · rw [same]
                  · rw [Function.update_of_ne same] at present
                    exact absurd member (wellFormed.stranger playerId free other party' present)
              · rw [Function.update_of_ne joins, wellFormed.mapped]
                by_cases same : other = partyId
                · rw [same, Function.update_self, found]
                  simp [joins]
                · rw [Function.update_of_ne same]
            · intro other party' present
              dsimp only at present
              by_cases same : other = partyId
              · rw [same, Function.update_self] at present
                cases present
                have absent := wellFormed.stranger playerId free partyId party found
                refine ⟨old.key.trans same.symm, ?_, ?_, ?_, List.mem_append_left _ old.leader⟩
                · rw [← List.concat_eq_append]
                  exact List.Nodup.concat absent old.nodup
                · simp
                · rw [List.length_append, List.length_singleton]
                  omega
              · rw [Function.update_of_ne same] at present
                exact wellFormed.party other party' present
            · intro other party' present
              dsimp only at present ⊢
              by_cases same : other = partyId
              · rw [same]
                exact wellFormed.used partyId party found
              · rw [Function.update_of_ne same] at present
                exact wellFormed.used other party' present
            · exact wellFormed.idGen

theorem setMemberName_wellFormed (m : PartyManager) (partyId : PartyId) (playerId : ObjectId)
    (name : Bytes) (wellFormed : m.WellFormed) :
    (m.setMemberName partyId playerId name).WellFormed := by
  unfold setMemberName
  cases found : m.parties partyId with
  | none => exact wellFormed
  | some party =>
      have old := wellFormed.party partyId party found
      dsimp only
      constructor
      · intro x other
        rw [wellFormed.mapped]
        dsimp only
        by_cases same : other = partyId
        · rw [same, Function.update_self, found]
          simp
        · rw [Function.update_of_ne same]
      · intro other party' present
        dsimp only at present
        by_cases same : other = partyId
        · rw [same, Function.update_self] at present
          cases present
          rw [same]
          exact ⟨old.key, old.nodup, old.nonempty, old.size, old.leader⟩
        · rw [Function.update_of_ne same] at present
          exact wellFormed.party other party' present
      · intro other party' present
        dsimp only at present ⊢
        by_cases same : other = partyId
        · rw [same]
          exact wellFormed.used partyId party found
        · rw [Function.update_of_ne same] at present
          exact wellFormed.used other party' present
      · exact wellFormed.idGen

/-- Where the party of the call exists, it is the player's own; or the player is in no
party, and the party does not fall apart. -/
def RemovesRightly (m : PartyManager) (partyId : PartyId) (playerId : ObjectId) : Prop :=
  ∀ party, m.parties partyId = some party → m.playerToParty playerId = some partyId ∨
    (m.playerToParty playerId = none ∧ 2 ≤ party.memberIds.length)

theorem removeMember_disbands (m : PartyManager) (partyId : PartyId) (playerId : ObjectId)
    (party : Party) (found : m.parties partyId = some party)
    (few : (party.memberIds.filter (· ≠ playerId)).length ≤ 1) :
    m.removeMember partyId playerId =
      { m with
        parties := Function.update m.parties partyId none
        playerToParty := fun x =>
          if x ∈ party.memberIds.filter (· ≠ playerId) then none
          else Function.update m.playerToParty playerId none x } := by
  simp only [removeMember, found, if_pos few, disbandParty, Function.update_self,
    Function.update_idem]

theorem removeMember_stays (m : PartyManager) (partyId : PartyId) (playerId : ObjectId)
    (party : Party) (found : m.parties partyId = some party)
    (enough : ¬ (party.memberIds.filter (· ≠ playerId)).length ≤ 1) :
    ∃ left : Party, left.partyId = party.partyId ∧
      left.memberIds = party.memberIds.filter (· ≠ playerId) ∧
      (party.leaderId ∈ party.memberIds → left.leaderId ∈ left.memberIds) ∧
      m.removeMember partyId playerId =
        { m with
          parties := Function.update m.parties partyId (some left)
          playerToParty := Function.update m.playerToParty playerId none } := by
  have result : m.removeMember partyId playerId =
      { m with
        parties := Function.update m.parties partyId (some
          { partyId := party.partyId
            leaderId :=
              if party.leaderId = playerId then
                (party.memberIds.filter (· ≠ playerId)).headD playerId
              else party.leaderId
            memberIds := party.memberIds.filter (· ≠ playerId)
            memberNames := Function.update party.memberNames playerId none })
        playerToParty := Function.update m.playerToParty playerId none } := by
    simp only [removeMember, found, if_neg enough]
  refine ⟨_, ?_, ?_, ?_, result⟩
  · rfl
  · rfl
  · intro led
    dsimp only
    split
    case isTrue =>
      cases members : party.memberIds.filter (· ≠ playerId) with
      | nil =>
          rw [members] at enough
          exact absurd (Nat.zero_le 1) enough
      | cons first others => exact List.mem_cons_self
    case isFalse other => exact List.mem_filter.mpr ⟨led, decide_eq_true other⟩

theorem disbanded_mapped (m : PartyManager) (partyId : PartyId) (playerId : ObjectId)
    (party : Party) (wellFormed : m.WellFormed) (found : m.parties partyId = some party)
    (own : m.playerToParty playerId = some partyId) (x : ObjectId) (other : PartyId) :
    (if x ∈ party.memberIds.filter (· ≠ playerId) then none
        else Function.update m.playerToParty playerId none x) = some other ↔
      ∃ party', Function.update m.parties partyId none other = some party' ∧
        x ∈ party'.memberIds := by
  by_cases same : other = partyId
  · rw [same, Function.update_self]
    constructor
    · intro entry
      split at entry
      case isTrue => cases entry
      case isFalse outside =>
        by_cases leaves : x = playerId
        · rw [leaves, Function.update_self] at entry
          cases entry
        · rw [Function.update_of_ne leaves, wellFormed.mapped] at entry
          obtain ⟨party', present, member⟩ := entry
          rw [found] at present
          cases present
          exact absurd (List.mem_filter.mpr ⟨member, decide_eq_true leaves⟩) outside
    · rintro ⟨party', present, -⟩
      cases present
  · rw [Function.update_of_ne same]
    by_cases leaves : x = playerId
    · have outside : x ∉ party.memberIds.filter (· ≠ playerId) := by
        intro member
        exact of_decide_eq_true (List.mem_filter.mp member).2 leaves
      rw [if_neg outside, leaves, Function.update_self]
      constructor
      · intro entry
        cases entry
      · rintro ⟨party', present, member⟩
        have named := wellFormed.entry playerId other party' present member
        rw [own] at named
        exact absurd (Option.some.inj named).symm same
    · rw [Function.update_of_ne leaves, ← wellFormed.mapped]
      split
      case isTrue member =>
        have named := wellFormed.entry x partyId party found (List.mem_of_mem_filter member)
        constructor
        · intro entry
          cases entry
        · intro entry
          rw [named] at entry
          exact absurd (Option.some.inj entry).symm same
      case isFalse => exact Iff.rfl

theorem removeMember_wellFormed (m : PartyManager) (partyId : PartyId) (playerId : ObjectId)
    (wellFormed : m.WellFormed) (rightly : m.RemovesRightly partyId playerId) :
    (m.removeMember partyId playerId).WellFormed := by
  cases found : m.parties partyId with
  | none =>
      rw [removeMember, found]
      exact wellFormed
  | some party =>
      have old := wellFormed.party partyId party found
      by_cases few : (party.memberIds.filter (· ≠ playerId)).length ≤ 1
      · have own : m.playerToParty playerId = some partyId := by
          rcases rightly party found with own | ⟨free, enough⟩
          · exact own
          · have absent := wellFormed.stranger playerId free partyId party found
            have all := filter_absent party.memberIds playerId absent
            rw [all] at few
            omega
        rw [removeMember_disbands m partyId playerId party found few]
        constructor
        · intro x other
          exact disbanded_mapped m partyId playerId party wellFormed found own x other
        · intro other party' present
          dsimp only at present
          by_cases same : other = partyId
          · rw [same, Function.update_self] at present
            cases present
          · rw [Function.update_of_ne same] at present
            exact wellFormed.party other party' present
        · intro other party' present
          dsimp only at present
          by_cases same : other = partyId
          · rw [same, Function.update_self] at present
            cases present
          · rw [Function.update_of_ne same] at present
            exact wellFormed.used other party' present
        · exact wellFormed.idGen
      · obtain ⟨left, key, members, led, result⟩ :=
          removeMember_stays m partyId playerId party found few
        rw [result]
        constructor
        · intro x other
          dsimp only
          by_cases same : other = partyId
          · rw [same, Function.update_self]
            simp only [Option.some.injEq, exists_eq_left', members, List.mem_filter]
            by_cases leaves : x = playerId
            · rw [leaves, Function.update_self]
              simp
            · rw [Function.update_of_ne leaves, wellFormed.mapped, found]
              simp [leaves]
          · rw [Function.update_of_ne same]
            by_cases leaves : x = playerId
            · rw [leaves, Function.update_self]
              constructor
              · intro entry
                cases entry
              · rintro ⟨party', present, member⟩
                have named := wellFormed.entry playerId other party' present member
                rcases rightly party found with own | ⟨free, -⟩
                · rw [own] at named
                  exact absurd (Option.some.inj named).symm same
                · rw [free] at named
                  cases named
            · rw [Function.update_of_ne leaves, wellFormed.mapped]
        · intro other party' present
          dsimp only at present
          by_cases same : other = partyId
          · rw [same, Function.update_self] at present
            cases present
            refine ⟨?_, ?_, ?_, ?_, led old.leader⟩
            · rw [key, old.key, same]
            · rw [members]
              exact old.nodup.filter _
            · rw [members]
              omega
            · rw [members]
              exact Nat.le_trans (List.length_filter_le _ _) old.size
          · rw [Function.update_of_ne same] at present
            exact wellFormed.party other party' present
        · intro other party' present
          dsimp only at present
          by_cases same : other = partyId
          · rw [same]
            exact wellFormed.used partyId party found
          · rw [Function.update_of_ne same] at present
            exact wellFormed.used other party' present
        · exact wellFormed.idGen

def Every (m : PartyManager) (property : List ObjectId → Prop) : Prop :=
  ∀ partyId party, m.parties partyId = some party → property party.memberIds

theorem every_update (m : PartyManager) (property : List ObjectId → Prop) (partyId : PartyId)
    (party : Option Party) (playerToParty : ObjectId → Option PartyId) (partyIdGen : PartyId)
    (every : m.Every property) (new : ∀ p, party = some p → property p.memberIds) :
    Every ⟨Function.update m.parties partyId party, playerToParty, partyIdGen⟩ property := by
  intro other found present
  dsimp only at present
  by_cases same : other = partyId
  · rw [same, Function.update_self] at present
    exact new found present
  · rw [Function.update_of_ne same] at present
    exact every other found present

theorem setMemberName_every (m : PartyManager) (property : List ObjectId → Prop)
    (partyId : PartyId) (playerId : ObjectId) (name : Bytes) (every : m.Every property) :
    (m.setMemberName partyId playerId name).Every property := by
  unfold setMemberName
  cases found : m.parties partyId with
  | none => exact every
  | some party =>
      apply every_update m property partyId _ _ _ every
      intro p same
      cases same
      exact every partyId party found

theorem removeMember_every (m : PartyManager) (property : List ObjectId → Prop)
    (partyId : PartyId) (playerId : ObjectId) (every : m.Every property)
    (shrinks : ∀ members, property members → 2 ≤ (members.filter (· ≠ playerId)).length →
      property (members.filter (· ≠ playerId))) :
    (m.removeMember partyId playerId).Every property := by
  cases found : m.parties partyId with
  | none =>
      rw [removeMember, found]
      exact every
  | some party =>
      by_cases few : (party.memberIds.filter (· ≠ playerId)).length ≤ 1
      · rw [removeMember_disbands m partyId playerId party found few]
        apply every_update m property partyId none _ _ every
        intro p none
        cases none
      · obtain ⟨left, -, members, -, result⟩ := removeMember_stays m partyId playerId party found few
        rw [result]
        apply every_update m property partyId _ _ _ every
        intro p same
        cases same
        rw [members]
        apply shrinks _ (every partyId party found)
        omega

theorem addMember_every (m : PartyManager) (property : List ObjectId → Prop)
    (partyId : PartyId) (playerId : ObjectId) (every : m.Every property)
    (grows : ∀ party, m.parties partyId = some party →
      property (party.memberIds ++ [playerId])) :
    (m.addMember partyId playerId).2.Every property := by
  unfold addMember
  cases found : m.parties partyId with
  | none => exact every
  | some party =>
      dsimp only
      split
      · exact every
      · cases m.playerToParty playerId with
        | some other => exact every
        | none =>
            apply every_update m property partyId _ _ _ every
            intro p same
            cases same
            exact grows party found

end PartyManager

inductive PartyCall where
  | createParty (leaderId : ObjectId)
  | addMember (partyId : PartyId) (playerId : ObjectId)
  | removeMember (partyId : PartyId) (playerId : ObjectId)
  deriving DecidableEq

namespace PartyManager

def call (m : PartyManager) : PartyCall → PartyManager
  | .createParty leaderId => (m.createParty leaderId).2
  | .addMember partyId playerId => (m.addMember partyId playerId).2
  | .removeMember partyId playerId => m.removeMember partyId playerId

/-- `RemoveMember` is called with the party the player is in. -/
def currentCall (m : PartyManager) (c : PartyCall) : Option PartyManager :=
  match c with
  | .removeMember partyId playerId =>
      if m.partyIdByPlayer playerId = partyId ∧ partyId ≠ 0 then some (m.call c) else none
  | _ => some (m.call c)

theorem partyIdByPlayer_eq (m : PartyManager) (playerId : ObjectId) (partyId : PartyId)
    (current : m.partyIdByPlayer playerId = partyId) (some_party : partyId ≠ 0) :
    m.playerToParty playerId = some partyId := by
  unfold partyIdByPlayer at current
  cases named : m.playerToParty playerId with
  | none =>
      rw [named] at current
      exact absurd current.symm some_party
  | some other =>
      rw [named] at current
      exact congrArg some current

theorem call_idGen (m : PartyManager) (c : PartyCall) : m.partyIdGen ≤ (m.call c).partyIdGen := by
  cases c with
  | createParty leaderId =>
      simp only [call, createParty]
      split
      · exact Nat.le_refl _
      · exact Nat.le_succ _
  | addMember partyId playerId =>
      simp only [call, addMember]
      split
      · exact Nat.le_refl _
      · split
        · exact Nat.le_refl _
        · split <;> exact Nat.le_refl _
  | removeMember partyId playerId =>
      simp only [call, removeMember]
      split
      · exact Nat.le_refl _
      · split
        · simp [disbandParty]
        · exact Nat.le_refl _

theorem currentCall_call (m next : PartyManager) (c : PartyCall)
    (made : m.currentCall c = some next) : next = m.call c := by
  cases c with
  | removeMember partyId playerId =>
      simp only [currentCall] at made
      split at made
      · exact (Option.some.inj made).symm
      · cases made
  | _ => exact (Option.some.inj made).symm

theorem currentCall_wellFormed (m next : PartyManager) (c : PartyCall) (wellFormed : m.WellFormed)
    (made : m.currentCall c = some next) : next.WellFormed := by
  cases c with
  | createParty leaderId =>
      cases made
      exact createParty_wellFormed m leaderId wellFormed
  | addMember partyId playerId =>
      cases made
      exact addMember_wellFormed m partyId playerId wellFormed
  | removeMember partyId playerId =>
      simp only [currentCall] at made
      split at made
      case isTrue current =>
        cases made
        apply removeMember_wellFormed m partyId playerId wellFormed
        intro party _
        exact .inl (partyIdByPlayer_eq m playerId partyId current.1 current.2)
      case isFalse => cases made

theorem run_idGen (m final : PartyManager) (calls : List PartyCall)
    (made : Runs.run currentCall m calls = some final) : m.partyIdGen ≤ final.partyIdGen := by
  apply Runs.run_preserved (fun now : PartyManager => m.partyIdGen ≤ now.partyIdGen) _ m final calls
    (Nat.le_refl _) made
  intro now c next before stepped
  rw [currentCall_call now next c stepped]
  exact Nat.le_trans before (call_idGen now c)

/-- After any calls the maps are well formed; the id of the next party has named none
before; and a party that a removal leaves with at most one member is gone, with all entries
that named it. -/
theorem party_representation (calls : List PartyCall) (m : PartyManager)
    (made : Runs.run currentCall initial calls = some m) :
    m.WellFormed ∧
      (∀ leaderId, (m.createParty leaderId).1 ≠ 0 → ∀ front back earlier, calls = front ++ back →
        Runs.run currentCall initial front = some earlier →
        earlier.parties (m.createParty leaderId).1 = none) ∧
      (∀ partyId playerId next party,
        m.currentCall (.removeMember partyId playerId) = some next →
        m.parties partyId = some party → (party.memberIds.filter (· ≠ playerId)).length ≤ 1 →
        next.parties partyId = none ∧ ∀ x, next.playerToParty x ≠ some partyId) := by
  have wellFormed (front : List PartyCall) (now : PartyManager)
      (reached : Runs.run currentCall initial front = some now) : now.WellFormed :=
    Runs.run_preserved WellFormed
      (fun now c next kept stepped => currentCall_wellFormed now next c kept stepped) initial now
      front .initial reached
  refine ⟨wellFormed calls m made, ?_, ?_⟩
  · intro leaderId created front back earlier split reached
    rw [split, Runs.run_append, reached] at made
    have later := run_idGen earlier m back made
    have fresh : (m.createParty leaderId).1 = m.partyIdGen := by
      unfold createParty at created ⊢
      cases named : m.playerToParty leaderId with
      | some other => simp [named] at created
      | none => rfl
    rw [fresh]
    exact (wellFormed front earlier reached).unused _ later
  · intro partyId playerId next party stepped found few
    have after := currentCall_wellFormed m next _ (wellFormed calls m made) stepped
    have gone : next.parties partyId = none := by
      rw [currentCall_call m next _ stepped, call, removeMember_disbands m partyId playerId party
        found few]
      exact Function.update_self ..
    refine ⟨gone, fun x entry => ?_⟩
    obtain ⟨party', present, -⟩ := (after.mapped x partyId).mp entry
    rw [gone] at present
    cases present

/-- The leader of a party of three leaves it. -/
def leaderLeaves : List PartyCall :=
  [.createParty 1, .addMember 1 2, .addMember 1 3, .removeMember 1 1]

theorem leader_leaves_well_formed :
    ∃ m, Runs.run currentCall initial leaderLeaves = some m ∧ m.WellFormed ∧
      m.isLeader 2 = true := by
  have ends : (Runs.run currentCall initial leaderLeaves).any (fun m => m.isLeader 2) = true := by
    decide
  obtain ⟨m, made, leads⟩ := Option.any_eq_true _ _ |>.mp ends
  exact ⟨m, made, (party_representation leaderLeaves m made).1, leads⟩

end PartyManager

end ZeldaServer
