import Mathlib.Data.List.Nodup
import ZeldaServer.Protocol.Packets

/-! `PartyManager`: parties, and the party each player is in. -/

namespace ZeldaServer

abbrev PartyId := Nat

structure Party where
  partyId : PartyId
  leaderId : ObjectId
  memberIds : List ObjectId
  memberNames : ObjectId → Option Bytes

structure PartyManager where
  parties : PartyId → Option Party
  playerToParty : ObjectId → Option PartyId
  partyIdGen : PartyId

namespace PartyManager

def initial : PartyManager where
  parties := fun _ => none
  playerToParty := fun _ => none
  partyIdGen := 1

def maxPartySize : Nat := 4

/-- `CreateParty`: the new party's id, 0 where the leader is in a party already. -/
def createParty (m : PartyManager) (leaderId : ObjectId) : PartyId × PartyManager :=
  match m.playerToParty leaderId with
  | some _ => (0, m)
  | none =>
      let partyId := m.partyIdGen
      let party : Party :=
        { partyId, leaderId, memberIds := [leaderId], memberNames := fun _ => none }
      (partyId,
        { parties := Function.update m.parties partyId (some party)
          playerToParty := Function.update m.playerToParty leaderId (some partyId)
          partyIdGen := partyId + 1 })

def addMember (m : PartyManager) (partyId : PartyId) (playerId : ObjectId) : Bool × PartyManager :=
  match m.parties partyId with
  | none => (false, m)
  | some party =>
      if maxPartySize ≤ party.memberIds.length then (false, m)
      else
        match m.playerToParty playerId with
        | some _ => (false, m)
        | none =>
            (true,
              { m with
                parties := Function.update m.parties partyId
                  (some { party with memberIds := party.memberIds ++ [playerId] })
                playerToParty := Function.update m.playerToParty playerId (some partyId) })

def disbandParty (m : PartyManager) (partyId : PartyId) : PartyManager :=
  match m.parties partyId with
  | none => m
  | some party =>
      { m with
        playerToParty := fun x => if x ∈ party.memberIds then none else m.playerToParty x
        parties := Function.update m.parties partyId none }

def removeMember (m : PartyManager) (partyId : PartyId) (playerId : ObjectId) : PartyManager :=
  match m.parties partyId with
  | none => m
  | some party =>
      let members := party.memberIds.filter (· ≠ playerId)
      let left : Party :=
        { partyId := party.partyId
          leaderId :=
            -- a party that stays has a first member to lead it
            if party.leaderId = playerId then members.headD playerId else party.leaderId
          memberIds := members
          memberNames := Function.update party.memberNames playerId none }
      let m : PartyManager :=
        { m with
          parties := Function.update m.parties partyId (some left)
          playerToParty := Function.update m.playerToParty playerId none }
      if members.length ≤ 1 then m.disbandParty partyId else m

/-- `GetPartyIdByPlayer`, 0 for a player in no party. -/
def partyIdByPlayer (m : PartyManager) (playerId : ObjectId) : PartyId :=
  (m.playerToParty playerId).getD 0

def isInParty (m : PartyManager) (playerId : ObjectId) : Bool := (m.playerToParty playerId).isSome

def isLeader (m : PartyManager) (playerId : ObjectId) : Bool :=
  match m.playerToParty playerId with
  | none => false
  | some partyId =>
      match m.parties partyId with
      | none => false
      | some party => party.leaderId = playerId

/-- `p->memberNames[id] = name` through the pointer `GetParty` returns. -/
def setMemberName (m : PartyManager) (partyId : PartyId) (playerId : ObjectId) (name : Bytes) :
    PartyManager :=
  match m.parties partyId with
  | none => m
  | some party =>
      { m with
        parties := Function.update m.parties partyId
          (some { party with memberNames := Function.update party.memberNames playerId (some name) }) }

def Listed (m : PartyManager) : Prop :=
  ∀ partyId party, m.parties partyId = some party →
    party.memberIds.Nodup ∧ ∀ x ∈ party.memberIds, m.playerToParty x = some partyId

theorem initial_listed : initial.Listed := by
  intro partyId party present
  cases present

theorem createParty_listed (m : PartyManager) (leaderId : ObjectId) (listed : m.Listed) :
    (m.createParty leaderId).2.Listed := by
  unfold createParty
  cases free : m.playerToParty leaderId with
  | some other => exact listed
  | none =>
      intro partyId party present
      by_cases created : partyId = m.partyIdGen
      · subst created
        simp only [Function.update_self, Option.some.injEq] at present
        subst present
        simp
      · simp only [Function.update_of_ne created] at present
        obtain ⟨nodup, mapped⟩ := listed partyId party present
        refine ⟨nodup, fun x member => ?_⟩
        have other : x ≠ leaderId := by
          intro same
          subst same
          rw [mapped x member] at free
          cases free
        simpa only [Function.update_of_ne other] using mapped x member

theorem addMember_listed (m : PartyManager) (partyId : PartyId) (playerId : ObjectId)
    (listed : m.Listed) : (m.addMember partyId playerId).2.Listed := by
  unfold addMember
  cases found : m.parties partyId with
  | none => exact listed
  | some party =>
      by_cases full : maxPartySize ≤ party.memberIds.length
      · simpa only [if_pos full] using listed
      · simp only [if_neg full]
        cases free : m.playerToParty playerId with
        | some other => exact listed
        | none =>
            intro otherId other present
            have absent : ∀ id party', m.parties id = some party' → playerId ∉ party'.memberIds := by
              intro id party' present' member
              rw [(listed id party' present').2 playerId member] at free
              cases free
            by_cases same : otherId = partyId
            · subst same
              simp only [Function.update_self, Option.some.injEq] at present
              subst present
              obtain ⟨nodup, mapped⟩ := listed otherId party found
              constructor
              · exact (List.nodup_append).mpr ⟨nodup, List.nodup_singleton _, by
                  rintro x member y only rfl
                  rw [List.mem_singleton] at only
                  exact absent otherId party found (only ▸ member)⟩
              · intro x member
                dsimp only at member ⊢
                by_cases joined : x = playerId
                · rw [joined, Function.update_self]
                · rw [Function.update_of_ne joined]
                  exact mapped x (by simpa [joined] using member)
            · simp only [Function.update_of_ne same] at present
              obtain ⟨nodup, mapped⟩ := listed otherId other present
              refine ⟨nodup, fun x member => ?_⟩
              have stranger : x ≠ playerId := fun same' =>
                absent otherId other present (same' ▸ member)
              simpa only [Function.update_of_ne stranger] using mapped x member

theorem disbandParty_listed (m : PartyManager) (partyId : PartyId) (listed : m.Listed) :
    (m.disbandParty partyId).Listed := by
  unfold disbandParty
  cases found : m.parties partyId with
  | none => exact listed
  | some party =>
      intro otherId other present
      have apart : otherId ≠ partyId := by
        intro same
        subst same
        simp at present
      simp only [Function.update_of_ne apart] at present
      obtain ⟨nodup, mapped⟩ := listed otherId other present
      refine ⟨nodup, fun x member => ?_⟩
      have kept : x ∉ party.memberIds := by
        intro shared
        have both := (mapped x member).symm.trans ((listed partyId party found).2 x shared)
        exact apart (Option.some.inj both)
      simpa only [if_neg kept] using mapped x member

theorem removeMember_listed (m : PartyManager) (partyId : PartyId) (playerId : ObjectId)
    (listed : m.Listed) (current : m.playerToParty playerId = some partyId) :
    (m.removeMember partyId playerId).Listed := by
  unfold removeMember
  cases found : m.parties partyId with
  | none => exact listed
  | some party =>
      have left : PartyManager.Listed
          { m with
            parties := Function.update m.parties partyId (some
              { partyId := party.partyId
                leaderId :=
                  if party.leaderId = playerId then
                    (party.memberIds.filter (· ≠ playerId)).headD playerId
                  else party.leaderId
                memberIds := party.memberIds.filter (· ≠ playerId)
                memberNames := Function.update party.memberNames playerId none })
            playerToParty := Function.update m.playerToParty playerId none } := by
        intro otherId other present
        by_cases same : otherId = partyId
        · subst same
          simp only [Function.update_self, Option.some.injEq] at present
          subst present
          obtain ⟨nodup, mapped⟩ := listed otherId party found
          refine ⟨nodup.filter _, fun x member => ?_⟩
          simp only [List.mem_filter, decide_eq_true_eq] at member
          simpa only [Function.update_of_ne member.2] using mapped x member.1
        · simp only [Function.update_of_ne same] at present
          obtain ⟨nodup, mapped⟩ := listed otherId other present
          refine ⟨nodup, fun x member => ?_⟩
          have stranger : x ≠ playerId := by
            intro same
            subst same
            rw [mapped x member] at current
            exact same (Option.some.inj current)
          simpa only [Function.update_of_ne stranger] using mapped x member
      dsimp only
      split
      · exact disbandParty_listed _ partyId left
      · exact left

theorem setMemberName_listed (m : PartyManager) (partyId : PartyId) (playerId : ObjectId)
    (name : Bytes) (listed : m.Listed) : (m.setMemberName partyId playerId name).Listed := by
  unfold setMemberName
  cases found : m.parties partyId with
  | none => exact listed
  | some party =>
      intro otherId other present
      by_cases same : otherId = partyId
      · subst same
        simp only [Function.update_self, Option.some.injEq] at present
        subst present
        exact listed otherId party found
      · simp only [Function.update_of_ne same] at present
        exact listed otherId other present

end PartyManager

end ZeldaServer
