import ZeldaServer.World.Acts
import ZeldaServer.World.Output
import ZeldaServer.World.Parties
import ZeldaServer.World.Saves

/-! What the party jobs, an `EnterRoom`, a login and a disconnect tell, next to what they do
to the lists of members. -/

namespace ZeldaServer

variable (data : GameData)

namespace PartyManager

def membersOf (m : PartyManager) (id : ObjectId) : List ObjectId :=
  match m.parties (m.partyIdByPlayer id) with
  | none => []
  | some party => party.memberIds

def groupOf (m : PartyManager) (id : ObjectId) : List ObjectId :=
  match m.parties (m.partyIdByPlayer id) with
  | none => [id]
  | some party => party.memberIds

def matesOf (m : PartyManager) (id : ObjectId) : List ObjectId := (m.membersOf id).filter (· ≠ id)

/-- One list of members becomes another one; all other players keep theirs. -/
structure Regroups (m m' : PartyManager) (before after : List ObjectId) : Prop where
  inside : ∀ id ∈ after, m'.membersOf id = after
  gone : ∀ id ∈ before, id ∉ after → m'.membersOf id = []
  others : ∀ id, id ∉ before → id ∉ after → m'.membersOf id = m.membersOf id

theorem membersOf_listed (m : PartyManager) (wellFormed : m.WellFormed) (id : ObjectId)
    (partyId : PartyId) (party : Party) (present : m.parties partyId = some party)
    (member : id ∈ party.memberIds) : m.membersOf id = party.memberIds := by
  have mapped := wellFormed.entry id partyId party present member
  rw [membersOf, partyIdByPlayer, mapped, Option.getD_some, present]

theorem parties_zero (m : PartyManager) (wellFormed : m.WellFormed) : m.parties 0 = none := by
  cases present : m.parties 0 with
  | none => rfl
  | some party => exact absurd rfl (wellFormed.used 0 party present).1

theorem membersOf_free (m : PartyManager) (wellFormed : m.WellFormed) (id : ObjectId)
    (free : m.playerToParty id = none) : m.membersOf id = [] := by
  rw [membersOf, partyIdByPlayer, free, Option.getD_none, parties_zero m wellFormed]

theorem groupOf_free (m : PartyManager) (wellFormed : m.WellFormed) (id : ObjectId)
    (free : m.playerToParty id = none) : m.groupOf id = [id] := by
  rw [groupOf, partyIdByPlayer, free, Option.getD_none, parties_zero m wellFormed]

theorem membersOf_outside (m m' : PartyManager) (wellFormed : m.WellFormed)
    (wellFormed' : m'.WellFormed) (partyId : PartyId)
    (others : ∀ other, other ≠ partyId → m'.parties other = m.parties other) (id : ObjectId)
    (outside : ∀ party, m.parties partyId = some party → id ∉ party.memberIds)
    (outside' : ∀ party, m'.parties partyId = some party → id ∉ party.memberIds) :
    m'.membersOf id = m.membersOf id := by
  cases own : m.playerToParty id with
  | some other =>
      obtain ⟨party, present, member⟩ := (wellFormed.mapped id other).mp own
      have apart : other ≠ partyId := fun same => outside party (same ▸ present) member
      have present' : m'.parties other = some party := (others other apart).trans present
      rw [membersOf_listed m wellFormed id other party present member,
        membersOf_listed m' wellFormed' id other party present' member]
  | none =>
      rw [membersOf_free m wellFormed id own]
      apply membersOf_free m' wellFormed'
      cases own' : m'.playerToParty id with
      | none => rfl
      | some other =>
          obtain ⟨party, present, member⟩ := (wellFormed'.mapped id other).mp own'
          have apart : other ≠ partyId := fun same => outside' party (same ▸ present) member
          rw [others other apart] at present
          exact absurd member (wellFormed.stranger id own other party present)

theorem regroups_of_party (m m' : PartyManager) (wellFormed : m.WellFormed)
    (wellFormed' : m'.WellFormed) (partyId : PartyId)
    (others : ∀ other, other ≠ partyId → m'.parties other = m.parties other) :
    m.Regroups m' (((m.parties partyId).map Party.memberIds).getD [])
      (((m'.parties partyId).map Party.memberIds).getD []) := by
  have listed' (id : ObjectId) (party : Party) (present : m'.parties partyId = some party) :
      id ∈ ((m'.parties partyId).map Party.memberIds).getD [] ↔ id ∈ party.memberIds := by
    rw [present]
    exact Iff.rfl
  have listed (id : ObjectId) (party : Party) (present : m.parties partyId = some party) :
      id ∈ ((m.parties partyId).map Party.memberIds).getD [] ↔ id ∈ party.memberIds := by
    rw [present]
    exact Iff.rfl
  constructor
  · intro id member
    cases present : m'.parties partyId with
    | none => simp [present] at member
    | some party =>
        exact membersOf_listed m' wellFormed' id partyId party present
          ((listed' id party present).mp member)
  · intro id member left
    cases present : m.parties partyId with
    | none => simp [present] at member
    | some party =>
        have own := wellFormed.entry id partyId party present
          ((listed id party present).mp member)
        apply membersOf_free m' wellFormed'
        cases own' : m'.playerToParty id with
        | none => rfl
        | some other =>
            obtain ⟨party', present', member'⟩ := (wellFormed'.mapped id other).mp own'
            by_cases same : other = partyId
            · rw [same] at present'
              exact absurd ((listed' id party' present').mpr member') left
            · rw [others other same] at present'
              have own'' := wellFormed.entry id other party' present' member'
              rw [own] at own''
              exact absurd (Option.some.inj own'').symm same
  · intro id left left'
    apply membersOf_outside m m' wellFormed wellFormed' partyId others id
    · exact fun party present member => left ((listed id party present).mpr member)
    · exact fun party present member => left' ((listed' id party present).mpr member)

theorem removeMember_regroups (m : PartyManager) (wellFormed : m.WellFormed) (id : ObjectId)
    (partyId : PartyId) (own : m.playerToParty id = some partyId) :
    id ∈ m.membersOf id ∧
      (((m.matesOf id).length ≤ 1 ∧ (m.removeMember partyId id).parties partyId = none ∧
          m.Regroups (m.removeMember partyId id) (m.membersOf id) []) ∨
        (¬ (m.matesOf id).length ≤ 1 ∧
          (∃ left, (m.removeMember partyId id).parties partyId = some left ∧
            left.memberIds = m.matesOf id) ∧
          m.Regroups (m.removeMember partyId id) (m.membersOf id) (m.matesOf id))) := by
  obtain ⟨party, present, member⟩ := (wellFormed.mapped id partyId).mp own
  have members := membersOf_listed m wellFormed id partyId party present member
  have wellFormed' := removeMember_wellFormed m partyId id wellFormed fun _ _ => .inl own
  have before : ((m.parties partyId).map Party.memberIds).getD [] = m.membersOf id := by
    rw [present, members]
    rfl
  have regroups (others : ∀ other, other ≠ partyId →
      (m.removeMember partyId id).parties other = m.parties other) :=
    regroups_of_party m _ wellFormed wellFormed' partyId others
  rw [before] at regroups
  have mates : m.matesOf id = party.memberIds.filter (· ≠ id) := by rw [matesOf, members]
  rw [mates]
  refine ⟨members ▸ member, ?_⟩
  by_cases few : (party.memberIds.filter (· ≠ id)).length ≤ 1
  · have result := removeMember_disbands m partyId id party present few
    have gone : (m.removeMember partyId id).parties partyId = none := by
      rw [result]
      exact Function.update_self ..
    have regrouped := regroups fun other apart => by
      rw [result]
      exact Function.update_of_ne apart ..
    rw [gone] at regrouped
    exact .inl ⟨few, gone, regrouped⟩
  · obtain ⟨left, -, leftMembers, -, result⟩ := removeMember_stays m partyId id party present few
    have stays : (m.removeMember partyId id).parties partyId = some left := by
      rw [result]
      exact Function.update_self ..
    have regrouped := regroups fun other apart => by
      rw [result]
      exact Function.update_of_ne apart ..
    rw [stays, Option.map_some, Option.getD_some, leftMembers] at regrouped
    exact .inr ⟨few, ⟨left, stays, leftMembers⟩, regrouped⟩

end PartyManager

theorem partyMember_playerId (w : World) (r : RoomRef) (party : Party) (memberId : ObjectId) :
    (partyMember w r party memberId).playerId = memberId := by
  unfold partyMember
  split <;> rfl

theorem partyUpdate_lists (w : World) (r : RoomRef) (party : Party) :
    (party.memberIds.map (partyMember w r party)).map (·.playerId) = party.memberIds := by
  rw [List.map_map]
  calc
    party.memberIds.map ((·.playerId) ∘ partyMember w r party) = party.memberIds.map id := by
      apply List.map_congr_left
      exact fun memberId _ => partyMember_playerId w r party memberId
    _ = party.memberIds := List.map_id _

theorem sendPartyUpdateFromRoom_tells (w : World) (r : RoomRef) (partyId : PartyId) (party : Party)
    (present : w.routing.parties.parties partyId = some party) :
    w.scene.Tells (toEach (w.routing.addressees r party.memberIds) (partyUpdate w r party))
      (sendPartyUpdateFromRoom w r partyId).scene := by
  simp only [sendPartyUpdateFromRoom, present]
  exact sendToMembers_tells r party.memberIds (partyUpdate w r party) rfl w

/-- The answer makes the player of the session a member of the inviter's party. -/
structure Joins (w : World) (s : SessionId) (inviterId : ObjectId) (accept : Bool)
    (acceptor : ObjectId) : Prop where
  locked : lockPlayer w.routing w.scene [] s = some acceptor
  accepts : accept = true
  free : w.routing.parties.playerToParty acceptor = none
  fits : partyFull w.routing.parties inviterId = false

inductive AnswerTold (w : World) (r : RoomRef) (s : SessionId) (inviterId : ObjectId)
    (accept : Bool) (next : World) : Prop where
  | unchanged (refused : ∀ acceptor, ¬ Joins w s inviterId accept acceptor)
      (parties : next.routing.parties = w.routing.parties)
      (told : w.scene.Tells [] next.scene) : AnswerTold w r s inviterId accept next
  | alone (joins : Joins w s inviterId accept inviterId)
      (groups : w.routing.parties.Regroups next.routing.parties [] [inviterId])
      (told : w.scene.Tells [] next.scene) : AnswerTold w r s inviterId accept next
  | joined (acceptor : ObjectId) (joins : Joins w s inviterId accept acceptor)
      (other : inviterId ≠ acceptor) (before : List ObjectId)
      (stay : ∀ id ∈ before, id ∈ w.routing.parties.groupOf inviterId ++ [acceptor])
      (groups : w.routing.parties.Regroups next.routing.parties before
        (w.routing.parties.groupOf inviterId ++ [acceptor]))
      (members : List PartyMemberInfo)
      (lists : members.map (·.playerId) = w.routing.parties.groupOf inviterId ++ [acceptor])
      (told : w.scene.Tells (toEach
        (w.routing.addressees r (w.routing.parties.groupOf inviterId ++ [acceptor]))
        (.partyUpdate members)) next.scene) : AnswerTold w r s inviterId accept next

namespace PartyManager

theorem setMemberName_parties (m : PartyManager) (partyId : PartyId) (playerId : ObjectId)
    (name : Bytes) (party : Party) (present : m.parties partyId = some party) :
    (∃ party', (m.setMemberName partyId playerId name).parties partyId = some party' ∧
      party'.memberIds = party.memberIds) ∧
      ∀ other, other ≠ partyId →
        (m.setMemberName partyId playerId name).parties other = m.parties other := by
  simp only [setMemberName, present]
  exact ⟨⟨_, Function.update_self .., rfl⟩, fun other apart => Function.update_of_ne apart ..⟩

theorem added_regroups (m m' : PartyManager) (wellFormed : m.WellFormed)
    (wellFormed' : m'.WellFormed) (partyId : PartyId)
    (others : ∀ other, other ≠ partyId → m'.parties other = m.parties other)
    (acceptor : ObjectId) (name : Bytes) (added : (m'.addMember partyId acceptor).1 = true) :
    ∃ party party', m'.parties partyId = some party ∧
      ((m'.addMember partyId acceptor).2.setMemberName partyId acceptor name).parties partyId =
        some party' ∧ party'.memberIds = party.memberIds ++ [acceptor] ∧
      m.Regroups ((m'.addMember partyId acceptor).2.setMemberName partyId acceptor name)
        (((m.parties partyId).map Party.memberIds).getD []) (party.memberIds ++ [acceptor]) := by
  obtain ⟨party, present, result⟩ := addMember_added m' partyId acceptor added
  have grown : (m'.addMember partyId acceptor).2.parties partyId =
      some { party with memberIds := party.memberIds ++ [acceptor] } := by
    rw [result]
    exact Function.update_self ..
  obtain ⟨⟨party', named, members⟩, apart⟩ :=
    setMemberName_parties _ partyId acceptor name _ grown
  have wellFormed'' := setMemberName_wellFormed _ partyId acceptor name
    (addMember_wellFormed m' partyId acceptor wellFormed')
  have regroups := regroups_of_party m _ wellFormed wellFormed'' partyId fun other different => by
    rw [apart other different, result]
    exact (Function.update_of_ne different ..).trans (others other different)
  rw [named, Option.map_some, Option.getD_some, members] at regroups
  exact ⟨party, party', present, named, members, regroups⟩

end PartyManager

theorem partyFull_added (m : PartyManager) (wellFormed : m.WellFormed)
    (inviterId acceptor : ObjectId) (partyId : PartyId)
    (own : m.playerToParty inviterId = some partyId) (alone : m.playerToParty acceptor = none) :
    partyFull m inviterId = !(m.addMember partyId acceptor).1 := by
  obtain ⟨party, present, -⟩ := (wellFormed.mapped inviterId partyId).mp own
  simp only [partyFull, PartyManager.partyIdByPlayer, own, Option.getD_some, present,
    PartyManager.addMember, alone]
  split
  case isTrue full => exact decide_eq_true full
  case isFalse room => exact decide_eq_false room

theorem joins_other (m : PartyManager) (inviterId acceptor : ObjectId) (partyId : PartyId)
    (own : m.playerToParty inviterId = some partyId) (alone : m.playerToParty acceptor = none) :
    inviterId ≠ acceptor := by
  rintro rfl
  rw [own] at alone
  cases alone

theorem joined_told (w : World) (r : RoomRef) (s : SessionId) (inviterId acceptor : ObjectId)
    (accept : Bool) (joins : Joins w s inviterId accept acceptor) (other : inviterId ≠ acceptor)
    (wellFormed : w.routing.parties.WellFormed) (m' : PartyManager) (wellFormed' : m'.WellFormed)
    (partyId : PartyId)
    (others : ∀ other, other ≠ partyId → m'.parties other = w.routing.parties.parties other)
    (old : ∀ party, w.routing.parties.parties partyId = some party →
      party.memberIds = w.routing.parties.groupOf inviterId)
    (new : ∀ party, m'.parties partyId = some party →
      party.memberIds = w.routing.parties.groupOf inviterId)
    (added : (m'.addMember partyId acceptor).1 = true) :
    AnswerTold w r s inviterId accept (sendPartyUpdateFromRoom
      { w with
        routing := w.routing.onParties fun _ =>
          (m'.addMember partyId acceptor).2.setMemberName partyId acceptor
            (w.scene.players acceptor).info.name } r partyId) := by
  generalize named : (m'.addMember partyId acceptor).2.setMemberName partyId acceptor
    (w.scene.players acceptor).info.name = joined
  obtain ⟨party, party', present, present', members, groups⟩ :=
    PartyManager.added_regroups w.routing.parties m' wellFormed wellFormed' partyId others acceptor
      (w.scene.players acceptor).info.name added
  rw [named] at present' groups
  rw [new party present] at members groups
  have told := sendPartyUpdateFromRoom_tells
    { w with routing := w.routing.onParties fun _ => joined } r partyId party' present'
  have lists := partyUpdate_lists
    { w with routing := w.routing.onParties fun _ => joined } r party'
  rw [members] at told
  have stay : ∀ id ∈ ((w.routing.parties.parties partyId).map Party.memberIds).getD [],
      id ∈ w.routing.parties.groupOf inviterId ++ [acceptor] := by
    intro id member
    apply List.mem_append_left
    cases before : w.routing.parties.parties partyId with
    | none => simp [before] at member
    | some party'' =>
        rw [← old party'' before]
        simpa [before] using member
  refine .joined acceptor joins other _ stay ?_ _ (lists.trans members) told
  rw [sendPartyUpdateFromRoom_routing]
  exact groups

theorem partyAnswer_told (w : World) (r : RoomRef) (s : SessionId) (inviterId : ObjectId)
    (accept : Bool) (wellFormed : w.routing.parties.WellFormed) :
    AnswerTold w r s inviterId accept (partyAnswer w r s inviterId accept) := by
  unfold partyAnswer
  cases locked : lockPlayer w.routing w.scene [] s with
  | none =>
      refine .unchanged (fun acceptor joins => ?_) rfl (.refl _)
      rw [joins.locked] at locked
      cases locked
  | some acceptor =>
      dsimp only
      have itself (acceptor' : ObjectId) (joins : Joins w s inviterId accept acceptor') :
          acceptor' = acceptor := by
        have there := joins.locked
        rw [locked] at there
        exact (Option.some.inj there).symm
      split
      case isTrue declines =>
        refine .unchanged (fun acceptor' joins => ?_) rfl (.refl _)
        rw [joins.accepts] at declines
        cases declines
      case isFalse accepts =>
        split
        case isTrue grouped =>
          refine .unchanged (fun acceptor' joins => ?_) rfl (.refl _)
          rw [PartyManager.isInParty, ← itself acceptor' joins, joins.free] at grouped
          cases grouped
        case isFalse outside =>
          have alone : w.routing.parties.playerToParty acceptor = none := by
            simpa [PartyManager.isInParty] using outside
          have agreed : accept = true := by simpa using accepts
          cases own : w.routing.parties.playerToParty inviterId with
          | some partyId =>
              obtain ⟨known, nonzero⟩ := inviterParty_known w r inviterId partyId wellFormed own
              rw [known]
              dsimp only
              rw [if_neg nonzero]
              cases added : (w.routing.parties.addMember partyId acceptor).1 with
              | false =>
                  refine .unchanged (fun acceptor' joins => ?_) rfl (.refl _)
                  have full := partyFull_added _ wellFormed inviterId acceptor partyId own alone
                  rw [joins.fits, added] at full
                  cases full
              | true =>
                  rw [Bool.not_true, if_neg Bool.false_ne_true]
                  have fits : partyFull w.routing.parties inviterId = false := by
                    rw [partyFull_added _ wellFormed inviterId acceptor partyId own alone, added]
                    rfl
                  have group (party : Party) (present : w.routing.parties.parties partyId =
                      some party) : party.memberIds = w.routing.parties.groupOf inviterId := by
                    rw [PartyManager.groupOf, PartyManager.partyIdByPlayer, own, Option.getD_some,
                      present]
                  exact joined_told w r s inviterId acceptor accept
                    ⟨locked, agreed, alone, fits⟩ (joins_other _ inviterId acceptor partyId own alone)
                    wellFormed w.routing.parties wellFormed partyId (fun _ _ => rfl) group group added
          | none =>
              obtain ⟨m', created, founded⟩ := inviterParty_founded w r inviterId own
              obtain ⟨⟨first, there, members, -⟩, others, -⟩ := founded.party own
              have wellFormed' := founded.wellFormed wellFormed
              have unused := wellFormed.unused w.routing.parties.partyIdGen (Nat.le_refl _)
              have group := PartyManager.groupOf_free _ wellFormed inviterId own
              have fits : partyFull w.routing.parties inviterId = false := by
                rw [partyFull, PartyManager.partyIdByPlayer, own, Option.getD_none,
                  PartyManager.parties_zero _ wellFormed]
              rw [created]
              dsimp only
              rw [if_neg wellFormed.idGen]
              cases added : (m'.addMember w.routing.parties.partyIdGen acceptor).1 with
              | false =>
                  have refused : ((({ w with routing := w.routing.onParties fun _ => m' } :
                    World).routing.parties).addMember w.routing.parties.partyIdGen acceptor).1 =
                      false := added
                  rw [refused, Bool.not_false, if_pos rfl]
                  have same : inviterId = acceptor := by
                    by_contra other
                    obtain ⟨party, -, -, result⟩ := founded.admits own alone other
                    rw [result] at added
                    cases added
                  subst same
                  have groups := PartyManager.regroups_of_party w.routing.parties m' wellFormed
                    wellFormed' w.routing.parties.partyIdGen others
                  rw [unused, there, Option.map_some, Option.getD_some, members] at groups
                  exact .alone ⟨locked, agreed, alone, fits⟩ groups (.refl _)
              | true =>
                  have joined : ((({ w with routing := w.routing.onParties fun _ => m' } :
                    World).routing.parties).addMember w.routing.parties.partyIdGen acceptor).1 =
                      true := added
                  rw [joined, Bool.not_true, if_neg Bool.false_ne_true]
                  have other : inviterId ≠ acceptor := by
                    rintro rfl
                    simp only [PartyManager.addMember, there] at added
                    split at added
                    case isTrue => cases added
                    case isFalse =>
                      have entered := (founded.party own).2.2
                      rw [entered, Function.update_self] at added
                      cases added
                  apply joined_told w r s inviterId acceptor accept
                    ⟨locked, agreed, alone, fits⟩ other wellFormed m' wellFormed' _ others _ _ added
                  · intro party present
                    rw [unused] at present
                    cases present
                  · intro party present
                    rw [there] at present
                    cases present
                    rw [members, group]

theorem partyIdByPlayer_own (m : PartyManager) (wellFormed : m.WellFormed) (player : ObjectId)
    (grouped : ¬ m.partyIdByPlayer player = 0) :
    m.playerToParty player = some (m.partyIdByPlayer player) ∧
      ∃ party, m.parties (m.partyIdByPlayer player) = some party ∧
        m.membersOf player = party.memberIds := by
  have own := playerToParty_of_nonzero m player grouped
  obtain ⟨party, present, member⟩ := (wellFormed.mapped player _).mp own
  exact ⟨own, party, present,
    PartyManager.membersOf_listed m wellFormed player _ party present member⟩

theorem membersOf_nowhere (m : PartyManager) (wellFormed : m.WellFormed) (player : ObjectId)
    (outside : m.partyIdByPlayer player = 0) : m.membersOf player = [] :=
  PartyManager.membersOf_free m wellFormed player
    ((PartyManager.partyIdByPlayer_zero m wellFormed player).mp outside)

def World.withoutMember (w : World) (player : ObjectId) : World :=
  { w with
    routing := w.routing.onParties
      (·.removeMember (w.routing.parties.partyIdByPlayer player) player) }

/-- What `C_PartyLeave` does to the lists, and whom it tells. -/
inductive LeaveTold (w : World) (r : RoomRef) (s : SessionId) (next : World) : Prop where
  | unchanged (nowhere : ∀ player, lockPlayer w.routing w.scene [] s = some player →
        w.routing.parties.membersOf player = [])
      (parties : next.routing.parties = w.routing.parties)
      (told : w.scene.Tells [] next.scene) : LeaveTold w r s next
  | stays (player : ObjectId) (locked : lockPlayer w.routing w.scene [] s = some player)
      (member : player ∈ w.routing.parties.membersOf player)
      (enough : ¬ (w.routing.parties.matesOf player).length ≤ 1)
      (groups : w.routing.parties.Regroups next.routing.parties
        (w.routing.parties.membersOf player) (w.routing.parties.matesOf player))
      (members : List PartyMemberInfo)
      (lists : members.map (·.playerId) = w.routing.parties.matesOf player)
      (told : w.scene.Tells ((s, .partyLeave) ::
        toEach (w.routing.addressees r (w.routing.parties.matesOf player)) (.partyUpdate members))
        next.scene) : LeaveTold w r s next
  | disbands (player : ObjectId) (locked : lockPlayer w.routing w.scene [] s = some player)
      (member : player ∈ w.routing.parties.membersOf player)
      (few : (w.routing.parties.matesOf player).length ≤ 1)
      (groups : w.routing.parties.Regroups next.routing.parties
        (w.routing.parties.membersOf player) [])
      (told : w.scene.Tells ((s, .partyLeave) ::
        toEach (w.routing.addressees r (w.routing.parties.matesOf player)) .partyLeave)
        next.scene) : LeaveTold w r s next

theorem partyLeave_outcome (w v : World) (r : RoomRef) (s : SessionId) (player : ObjectId)
    (party : Party) (locked : lockPlayer w.routing w.scene [] s = some player)
    (wellFormed : w.routing.parties.WellFormed)
    (own : w.routing.parties.playerToParty player = some (w.routing.parties.partyIdByPlayer player))
    (members : w.routing.parties.membersOf player = party.memberIds)
    (routing : v.routing = (w.withoutMember player).routing)
    (scene : v.scene = w.scene.send s .partyLeave) :
    LeaveTold w r s
      (match v.routing.parties.parties (w.routing.parties.partyIdByPlayer player) with
      | some _ => sendPartyUpdateFromRoom v r (w.routing.parties.partyIdByPlayer player)
      | none => sendToMembers r (party.memberIds.filter (· ≠ player)) .partyLeave v) := by
  have said := Scene.Tells.send w.scene s .partyLeave rfl
  rw [← scene] at said
  obtain ⟨member, ⟨few, gone, groups⟩ | ⟨enough, ⟨left, stays, listed⟩, groups⟩⟩ :=
    PartyManager.removeMember_regroups w.routing.parties wellFormed player _ own
  · have gone' : v.routing.parties.parties
        (w.routing.parties.partyIdByPlayer player) = none := by
      rw [routing]
      exact gone
    have rest := sendToMembers_tells r (party.memberIds.filter (· ≠ player)) .partyLeave
      rfl v
    rw [gone']
    refine .disbands player locked member few ?_ ?_
    · rw [show (sendToMembers r _ _ v).routing = v.routing from rfl, routing]
      exact groups
    · rw [PartyManager.matesOf, members]
      rw [routing] at rest
      exact said.trans rest
  · have stays' : v.routing.parties.parties
        (w.routing.parties.partyIdByPlayer player) = some left := by
      rw [routing]
      exact stays
    have rest := sendPartyUpdateFromRoom_tells v r _ left stays'
    have lists := partyUpdate_lists v r left
    rw [stays']
    rw [routing, listed] at rest
    refine .stays player locked member enough ?_ _ (lists.trans listed) (said.trans rest)
    dsimp only
    rw [sendPartyUpdateFromRoom_routing, routing]
    exact groups

theorem partyLeave_told (w : World) (r : RoomRef) (s : SessionId)
    (wellFormed : w.routing.parties.WellFormed) : LeaveTold w r s (partyLeave w r s) := by
  unfold partyLeave
  cases locked : lockPlayer w.routing w.scene [] s with
  | none =>
      refine .unchanged (fun player there => ?_) rfl (.refl _)
      rw [locked] at there
      cases there
  | some player =>
      dsimp only
      split
      case isTrue outside =>
        refine .unchanged (fun player' there => ?_) rfl (.refl _)
        rw [locked] at there
        cases there
        exact membersOf_nowhere _ wellFormed player outside
      case isFalse grouped =>
        obtain ⟨own, party, present, members⟩ :=
          partyIdByPlayer_own w.routing.parties wellFormed player grouped
        generalize parted : (w.withoutMember player).sendTo s .partyLeave = v
        have routing : v.routing = (w.withoutMember player).routing := by rw [← parted]; rfl
        have scene : v.scene = w.scene.send s .partyLeave := by rw [← parted]; rfl
        have outcome := partyLeave_outcome w v r s player party locked wellFormed own members
          routing scene
        rw [← parted] at outcome
        rw [present]
        exact outcome

inductive PartingTold (w : World) (s : SessionId) (next : World)
    (news : List (SessionId × ServerPacket)) : Prop where
  | unchanged (nowhere : ∀ player, lockPlayer w.routing w.scene [] s = some player →
        w.routing.parties.membersOf player = [])
      (parties : next.routing.parties = w.routing.parties) (silent : news = []) :
      PartingTold w s next news
  | stays (player : ObjectId) (locked : lockPlayer w.routing w.scene [] s = some player)
      (member : player ∈ w.routing.parties.membersOf player)
      (enough : ¬ (w.routing.parties.matesOf player).length ≤ 1)
      (groups : w.routing.parties.Regroups next.routing.parties
        (w.routing.parties.membersOf player) (w.routing.parties.matesOf player))
      (r : RoomRef) (bound : lockRoom w.routing w.scene s = some r)
      (members : List PartyMemberInfo)
      (lists : members.map (·.playerId) = w.routing.parties.matesOf player)
      (told : news = toEach (w.routing.addressees r (w.routing.parties.matesOf player))
        (.partyUpdate members)) : PartingTold w s next news
  | unheard (player : ObjectId) (locked : lockPlayer w.routing w.scene [] s = some player)
      (member : player ∈ w.routing.parties.membersOf player) (after : List ObjectId)
      (remain : ∀ id ∈ after, id ∈ w.routing.parties.matesOf player)
      (groups : w.routing.parties.Regroups next.routing.parties
        (w.routing.parties.membersOf player) after)
      (unable : (w.routing.parties.matesOf player).length ≤ 1 ∨
        lockRoom w.routing w.scene s = none) (silent : news = []) : PartingTold w s next news

theorem leavePartyOnDisconnect_outcome (w v : World) (s : SessionId) (player : ObjectId)
    (locked : lockPlayer w.routing w.scene [] s = some player)
    (wellFormed : w.routing.parties.WellFormed)
    (own : w.routing.parties.playerToParty player = some (w.routing.parties.partyIdByPlayer player))
    (routing : v.routing = (w.withoutMember player).routing) (scene : v.scene = w.scene) :
    let next :=
      match v.routing.parties.parties (w.routing.parties.partyIdByPlayer player),
        lockRoom v.routing v.scene s with
      | some remaining, some r =>
          sendToMembers r remaining.memberIds (.partyUpdate (remaining.memberIds.map fun mid =>
            ⟨mid, [], 0, 0, 0, mid = remaining.leaderId⟩)) v
      | _, _ => v
    ∃ news, w.scene.Tells news next.scene ∧ PartingTold w s next news := by
  have room : lockRoom v.routing v.scene s = lockRoom w.routing w.scene s := by
    rw [routing, scene]
    rfl
  dsimp only
  rw [room]
  obtain ⟨member, ⟨few, gone, groups⟩ | ⟨enough, ⟨left, stays, listed⟩, groups⟩⟩ :=
    PartyManager.removeMember_regroups w.routing.parties wellFormed player _ own
  · have gone' : v.routing.parties.parties
        (w.routing.parties.partyIdByPlayer player) = none := by
      rw [routing]
      exact gone
    rw [gone']
    refine ⟨[], ?_, .unheard player locked member [] (List.forall_mem_nil _) ?_ (.inl few) rfl⟩
    · rw [← scene]
      exact .refl _
    · dsimp only
      rw [routing]
      exact groups
  · have stays' : v.routing.parties.parties
        (w.routing.parties.partyIdByPlayer player) = some left := by
      rw [routing]
      exact stays
    have groups' : w.routing.parties.Regroups v.routing.parties
        (w.routing.parties.membersOf player) (w.routing.parties.matesOf player) := by
      rw [routing]
      exact groups
    rw [stays']
    cases bound : lockRoom w.routing w.scene s with
    | none =>
        refine ⟨[], ?_, .unheard player locked member _ (fun _ remains => remains) groups'
          (.inr bound) rfl⟩
        rw [← scene]
        exact .refl _
    | some r =>
        have told := sendToMembers_tells r left.memberIds
          (.partyUpdate (left.memberIds.map fun mid =>
            ⟨mid, [], 0, 0, 0, mid = left.leaderId⟩)) rfl v
        have lists : (left.memberIds.map fun mid =>
            (⟨mid, [], 0, 0, 0, mid = left.leaderId⟩ : PartyMemberInfo)).map (·.playerId) =
              w.routing.parties.matesOf player := by
          rw [List.map_map, ← listed]
          exact List.map_id _
        rw [scene] at told
        refine ⟨_, told, .stays player locked member enough groups' r bound _ lists ?_⟩
        rw [routing, ← listed]
        rfl

theorem leavePartyOnDisconnect_told (w : World) (s : SessionId) (player : ObjectId)
    (locked : lockPlayer w.routing w.scene [] s = some player)
    (wellFormed : w.routing.parties.WellFormed) :
    ∃ news, w.scene.Tells news (leavePartyOnDisconnect w s player).scene ∧
      PartingTold w s (leavePartyOnDisconnect w s player) news := by
  unfold leavePartyOnDisconnect
  dsimp only
  split
  case isTrue outside =>
    refine ⟨[], .refl _, .unchanged (fun player' there => ?_) rfl rfl⟩
    rw [locked] at there
    cases there
    exact membersOf_nowhere _ wellFormed player outside
  case isFalse grouped =>
    obtain ⟨own, -⟩ := partyIdByPlayer_own w.routing.parties wellFormed player grouped
    generalize parted : w.withoutMember player = v
    have routing : v.routing = (w.withoutMember player).routing := by rw [← parted]
    have scene : v.scene = w.scene := by rw [← parted]; rfl
    have outcome := leavePartyOnDisconnect_outcome w v s player locked wellFormed own routing scene
    rw [← parted] at outcome
    exact outcome

/-- What `OnDisconnected` asks Redis to forget: the name of the player that is still there. -/
def forgotten (w : World) (s : SessionId) : Option Bytes :=
  (lockPlayer w.routing w.scene [] s).map fun player => (w.scene.players player).info.name

theorem forgetOnDisconnect_told (w : World) (player : ObjectId)
    (connected : w.scene.redisConnected = true) :
    (forgetOnDisconnect w player).scene.news = w.scene.news ∧
      (forgetOnDisconnect w player).scene.redisConnected = true ∧
      (forgetOnDisconnect w player).scene.locations =
        w.scene.locations ++ [.delLocation (w.scene.players player).info.name] := by
  have result : (forgetOnDisconnect w player).scene =
      { w.scene with
        redis := w.scene.redis ++ [.delLocation (w.scene.players player).info.name] } := by
    rw [forgetOnDisconnect, if_pos connected]
    exact if_pos connected
  rw [result]
  refine ⟨rfl, connected, ?_⟩
  simp only [Scene.locations, List.filter_append, List.filter_singleton, RedisCommand.isLocation,
    cond_true]

theorem forgetOnDisconnect_news (w : World) (player : ObjectId) :
    (forgetOnDisconnect w player).scene.news = w.scene.news := by
  unfold forgetOnDisconnect World.onScene Scene.redisCommand
  split
  · dsimp only
    split <;> rfl
  · rfl

theorem saveOnDisconnect_fields (w : World) (s : SessionId) (player : ObjectId) :
    (saveOnDisconnect w s player).scene = w.scene ∧
      (saveOnDisconnect w s player).routing.parties = w.routing.parties := by
  unfold saveOnDisconnect
  dsimp only
  split <;> exact ⟨rfl, rfl⟩

theorem PartingTold.of_before {u w next : World} {s : SessionId}
    {news : List (SessionId × ServerPacket)} (told : PartingTold u s next news)
    (parties : u.routing.parties = w.routing.parties)
    (locks : lockPlayer u.routing u.scene [] s = lockPlayer w.routing w.scene [] s)
    (rooms : lockRoom u.routing u.scene s = lockRoom w.routing w.scene s)
    (standing : u.routing.rooms = w.routing.rooms)
    (sessions : u.routing.playerSession = w.routing.playerSession) :
    PartingTold w s next news := by
  have addressees (r : RoomRef) (memberIds : List ObjectId) :
      u.routing.addressees r memberIds = w.routing.addressees r memberIds := by
    unfold Routing.addressees playerIds
    rw [standing, sessions]
  cases told with
  | unchanged nowhere same silent =>
      rw [locks, parties] at nowhere
      exact .unchanged nowhere (same.trans parties) silent
  | stays player locked member enough groups r bound members lists told =>
      rw [parties] at member enough groups lists told
      rw [addressees] at told
      exact .stays player (locks ▸ locked) member enough groups r (rooms ▸ bound) members lists told
  | unheard player locked member after remain groups unable silent =>
      rw [parties] at member remain groups unable
      rw [rooms] at unable
      exact .unheard player (locks ▸ locked) member after remain groups unable silent

theorem PartingTold.of_after {w next next' : World} {s : SessionId}
    {news : List (SessionId × ServerPacket)} (told : PartingTold w s next news)
    (parties : next'.routing.parties = next.routing.parties) : PartingTold w s next' news := by
  cases told with
  | unchanged nowhere same silent => exact .unchanged nowhere (parties.trans same) silent
  | stays player locked member enough groups r bound members lists told =>
      exact .stays player locked member enough (parties ▸ groups) r bound members lists told
  | unheard player locked member after remain groups unable silent =>
      exact .unheard player locked member after remain (parties ▸ groups) unable silent

theorem partWithPlayer_told (w : World) (s : SessionId) (player : ObjectId)
    (locked : lockPlayer w.routing w.scene [] s = some player)
    (wellFormed : w.routing.parties.WellFormed) :
    ∃ news, (partWithPlayer w s player).scene.news = w.scene.news ++ news ∧
      PartingTold w s (partWithPlayer w s player) news ∧
      (w.scene.redisConnected = true → (partWithPlayer w s player).scene.redisConnected = true ∧
        (partWithPlayer w s player).scene.locations =
          w.scene.locations ++ [.delLocation (w.scene.players player).info.name]) := by
  obtain ⟨store, saved⟩ := saveOnDisconnect_routing w s player
  obtain ⟨scene, parties⟩ := saveOnDisconnect_fields w s player
  have locks : lockPlayer (saveOnDisconnect w s player).routing
      (saveOnDisconnect w s player).scene [] s = lockPlayer w.routing w.scene [] s := by
    rw [saved, scene]
    rfl
  have rooms : lockRoom (saveOnDisconnect w s player).routing
      (saveOnDisconnect w s player).scene s = lockRoom w.routing w.scene s := by
    rw [saved, scene]
    rfl
  obtain ⟨news, tells, told⟩ := leavePartyOnDisconnect_told (saveOnDisconnect w s player) s player
    (locks.trans locked) (parties ▸ wellFormed)
  rw [scene] at tells
  have told' := told.of_before parties locks rooms (by rw [saved]; rfl) (by rw [saved]; rfl)
  have players := (leaveParty_objects (saveOnDisconnect w s player) s player).players
  refine ⟨news, ?_, told'.of_after ?_, fun connected => ?_⟩
  · rw [partWithPlayer, forgetOnDisconnect_news]
    exact tells.news
  · rw [partWithPlayer, forgetOnDisconnect_routing]
  · have connected' := tells.redisConnected.trans connected
    obtain ⟨-, still, locations⟩ := forgetOnDisconnect_told
      (leavePartyOnDisconnect (saveOnDisconnect w s player) s player) player connected'
    refine ⟨still, ?_⟩
    rw [partWithPlayer, locations, tells.locations, players, scene]

theorem disconnecting_eq (w v : World) (s : SessionId)
    (away : { w with
      routing := w.routing.setSession s
        { w.routing.sessions s with connection := .disconnected } } = v) :
    disconnecting w s =
      match lockPlayer v.routing v.scene [] s with
      | none => v
      | some player => partWithPlayer v s player := by
  rw [← away]
  rfl

theorem onDisconnected_told (w : World) (s : SessionId)
    (wellFormed : w.routing.parties.WellFormed) :
    ∃ news, (onDisconnected w s).scene.news = w.scene.news ++ news ∧
      PartingTold w s (onDisconnected w s) news ∧
      (w.scene.redisConnected = true → (onDisconnected w s).scene.redisConnected = true ∧
        (onDisconnected w s).scene.locations =
          w.scene.locations ++ (forgotten w s).toList.map .delLocation) := by
  have pushed : (onDisconnected w s).scene = (disconnecting w s).scene ∧
      (onDisconnected w s).routing.parties = (disconnecting w s).routing.parties := by
    rw [onDisconnected_eq]
    cases lockRoom (disconnecting w s).routing (disconnecting w s).scene s <;> exact ⟨rfl, rfl⟩
  have lock := lockPlayer_disconnecting w.routing w.scene [] s s .disconnected
  generalize away : ({ w with
    routing := w.routing.setSession s
      { w.routing.sessions s with connection := .disconnected } } : World) = v
  have routing : v.routing = w.routing.setSession s
      { w.routing.sessions s with connection := .disconnected } := by rw [← away]
  have scene : v.scene = w.scene := by rw [← away]
  have parties : v.routing.parties = w.routing.parties := by rw [routing]; rfl
  rw [← routing, ← scene] at lock
  have room : lockRoom v.routing v.scene s = lockRoom w.routing w.scene s := by
    have bound := (setSession_rests w.routing s .disconnected).gameRoom s
    rw [← routing] at bound
    have alive (r : RoomRef) : roomAlive v.routing v.scene r = roomAlive w.routing w.scene r := by
      rw [routing, scene]
      rfl
    simp only [lockRoom, bound, alive]
  have result := disconnecting_eq w v s away
  rw [pushed.1]
  cases locked : lockPlayer w.routing w.scene [] s with
  | none =>
      rw [scene, locked, ← scene] at lock
      rw [lock] at result
      rw [result] at pushed ⊢
      refine ⟨[], ?_, .unchanged ?_ (pushed.2.trans parties) rfl, fun connected => ?_⟩
      · rw [scene, List.append_nil]
      · intro player there
        rw [locked] at there
        cases there
      · rw [scene, forgotten, locked]
        exact ⟨connected, (List.append_nil _).symm⟩
  | some player =>
      rw [scene, locked, ← scene] at lock
      rw [lock] at result
      rw [result] at pushed ⊢
      obtain ⟨news, tells, told, forgets⟩ := partWithPlayer_told v s player lock
        (parties ▸ wellFormed)
      rw [scene] at tells forgets
      refine ⟨news, tells, ?_, ?_⟩
      · apply (told.of_before parties (lock.trans locked.symm) room _ _).of_after pushed.2
        · rw [routing]
          rfl
        · rw [routing]
          rfl
      · rw [forgotten, locked]
        exact forgets

def EntryTold (b : Routing) (r : RoomRef) (player : ObjectId)
    (news : List (SessionId × ServerPacket)) : Prop :=
  (b.parties.membersOf player = [] ∧ news = []) ∨
    ∃ members : List PartyMemberInfo, members.map (·.playerId) = b.parties.membersOf player ∧
      news = toEach (b.addressees r (b.parties.membersOf player)) (.partyUpdate members)

theorem enterRoomParty_told (w : World) (r : RoomRef) (player : ObjectId)
    (wellFormed : w.routing.parties.WellFormed)
    (fine : (enterRoomParty w r player).scene.fault = none) :
    ∃ news, w.scene.Tells news (enterRoomParty w r player).scene ∧
      EntryTold w.routing r player news := by
  unfold enterRoomParty at fine ⊢
  dsimp only at fine ⊢
  split
  case isTrue outside =>
    exact ⟨[], .refl _, .inl ⟨membersOf_nowhere _ wellFormed player outside, rfl⟩⟩
  case isFalse grouped =>
    obtain ⟨-, party, present, members⟩ :=
      partyIdByPlayer_own w.routing.parties wellFormed player grouped
    rw [if_neg grouped] at fine
    simp only [present] at fine ⊢
    split
    case isTrue miscast =>
      rw [if_pos miscast] at fine
      exact absurd fine (fault_fail w.scene .badCast)
    case isFalse =>
      refine ⟨_, sendToMembers_tells r party.memberIds (partyUpdate w r party) rfl w, .inr ?_⟩
      rw [members]
      exact ⟨_, partyUpdate_lists w r party, rfl⟩

theorem enterRoom_told (w : World) (r : RoomRef) (s : SessionId) (player : ObjectId)
    (wellFormed : w.routing.parties.WellFormed)
    (fine : (w.enterRoom r s player).scene.fault = none) :
    ∃ info news, w.scene.Tells ([(s, .myPlayer info)] ++ news) (w.enterRoom r s player).scene ∧
      EntryTold (w.enterRoom r s player).routing r player news := by
  have routing := enterRoom_routing w r s player
  unfold World.enterRoom at fine ⊢
  dsimp only at fine ⊢
  obtain ⟨news, told, entry⟩ := enterRoomParty_told _ r player (by exact wellFormed) fine
  refine ⟨(w.scene.players player).atEntrance.info, news, ?_, ?_⟩
  · have greeted : w.scene.Tells [(s, .myPlayer (w.scene.players player).atEntrance.info)]
        ((w.scene.setPlayer player (w.scene.players player).atEntrance).send s
          (.myPlayer (w.scene.players player).atEntrance.info)) :=
      (Scene.Tells.setPlayer player _ w.scene).after (.send _ s _ rfl)
    have stocked := Scene.Tells.emissions (w.routing.bind r s player) player
      (w.scene.players player).atEntrance.sendInventoryData
      ((List.forall_mem_singleton).mpr rfl)
      ((w.scene.setPlayer player (w.scene.players player).atEntrance).send s
        (.myPlayer (w.scene.players player).atEntrance.info))
    refine Scene.Tells.trans (Scene.Tells.before ?_ (.broadcast _ r _ rfl _)) told
    exact (greeted.before stocked).before (.sendOther _ s _ rfl)
  · rw [enterRoomParty_routing]
    exact entry

/-- The session and the name of a `C_Login` that goes through. -/
def loginName (w : World) : Event → Option (SessionId × Bytes)
  | .packet s (.login username) =>
      if username = [] ∨ w.routing.store.accountOf username = 0 then none else some (s, username)
  | _ => none

theorem handleCLogin_told (w : World) (s : SessionId) (username : Bytes) :
    (handleCLogin data w s username).scene.news = w.scene.news ∧
      (w.scene.redisConnected = true →
        (handleCLogin data w s username).scene.redisConnected = true ∧
        (handleCLogin data w s username).scene.locations = w.scene.locations ++
          ((loginName w (.packet s (.login username))).map Prod.snd).toList.map .setLocation) := by
  have nothing (refused : username = [] ∨ w.routing.store.accountOf username = 0) :
      w.scene.redisConnected = true → w.scene.redisConnected = true ∧
        w.scene.locations = w.scene.locations ++
          ((loginName w (.packet s (.login username))).map Prod.snd).toList.map .setLocation := by
    intro connected
    simp only [loginName, if_pos refused]
    exact ⟨connected, (List.append_nil _).symm⟩
  unfold handleCLogin
  split
  case isTrue empty => exact ⟨rfl, nothing (.inl empty)⟩
  case isFalse named =>
    dsimp only
    split
    case isTrue unknown => exact ⟨rfl, nothing (.inr unknown)⟩
    case isFalse known =>
      have through : ¬ (username = [] ∨ w.routing.store.accountOf username = 0) := by
        rintro (empty | unknown)
        · exact named empty
        · exact known unknown
      generalize (w.routing.store.findOrCreateAccount username).1 = account
      generalize (w.routing.store.findOrCreateAccount username).2 = found
      generalize loginPlayer data found account w.idGen username = made
      have greeted : w.scene.Tells []
          ((w.scene.setPlayer w.idGen made.1).send s (.enterGame true account)) :=
        (Scene.Tells.setPlayer w.idGen made.1 w.scene).after (.sendOther _ s _ rfl)
      generalize (w.scene.setPlayer w.idGen made.1).send s (.enterGame true account) = scene
        at greeted
      have ranked := Scene.Tells.rankLevel (scene.redisCommand (.setLocation username)) username
        made.1.level
      have news := greeted.news
      rw [List.append_nil] at news
      split
      case isTrue connected =>
        have placed : scene.redisCommand (.setLocation username) =
            { scene with redis := scene.redis ++ [.setLocation username] } := if_pos connected
        have kept := ranked.news
        rw [List.append_nil] at kept
        refine ⟨?_, fun _ => ⟨?_, ?_⟩⟩
        · rw [kept, placed, ← news]
          rfl
        · rw [ranked.redisConnected, placed]
          exact connected
        · rw [ranked.locations, placed, loginName, if_neg through, ← greeted.locations]
          simp only [Scene.locations, List.filter_append, List.filter_singleton,
            RedisCommand.isLocation, cond_true]
          rfl
      case isFalse off =>
        refine ⟨news, fun connected => absurd (greeted.redisConnected.trans connected) off⟩

theorem runJob_tells (w : World) (r : RoomRef) (job : Job) (made : r < w.routing.roomCount)
    (wellFormed : w.routing.parties.WellFormed) (fine : (runJob data w r job).scene.fault = none) :
    ∃ news, w.scene.Tells news (runJob data w r job).scene := by
  cases job with
  | move s pkt => exact ⟨_, handleCMove_tells w.routing r s pkt w.scene⟩
  | turn s pkt => exact ⟨_, handleCTurn_tells w.routing r s pkt w.scene⟩
  | attack s pkt => exact ⟨_, handleCAttack_tells data w r s pkt⟩
  | changeMap s pkt =>
      rcases handleCChangeMap_tells data w r s pkt made with ⟨instanceId, told⟩ | ⟨-, told⟩
      · exact ⟨_, told⟩
      · exact ⟨_, told⟩
  | equipItem s slot => exact ⟨_, itemJob_tells _ (Player.equipItem_others data slot) w s⟩
  | unequipItem s equipType =>
      exact ⟨_, itemJob_tells _ (Player.unequipItem_others data equipType) w s⟩
  | useItem s slot => exact ⟨_, itemJob_tells _ (Player.useItem_others data slot) w s⟩
  | partyInvite s targetId => exact ⟨_, partyInvite_tells w r s targetId⟩
  | partyAnswer s inviterId accept =>
      rw [runJob]
      cases partyAnswer_told w r s inviterId accept wellFormed with
      | unchanged _ _ told => exact ⟨_, told⟩
      | alone _ _ told => exact ⟨_, told⟩
      | joined _ _ _ _ _ _ _ _ told => exact ⟨_, told⟩
  | partyLeave s =>
      rw [runJob]
      cases partyLeave_told w r s wellFormed with
      | unchanged _ _ told => exact ⟨_, told⟩
      | stays _ _ _ _ _ _ _ told => exact ⟨_, told⟩
      | disbands _ _ _ _ _ told => exact ⟨_, told⟩
  | enterRoom s player =>
      obtain ⟨info, news, told, -⟩ := enterRoom_told w r s player wellFormed fine
      exact ⟨_, told⟩
  | leaveRoom s => exact ⟨_, leaveRoom_tells w [] r s⟩

/-- The name whose key a login sets, and the name whose key a disconnect deletes. -/
def locating (w : World) (e : Event) : List RedisCommand :=
  match e with
  | .packet _ _ => ((loginName w e).map Prod.snd).toList.map .setLocation
  | .disconnect s => (forgotten w s).toList.map .delLocation
  | _ => []

theorem step_locations (w next : World) (e : Event) (inRange : w.routing.InRange)
    (wellFormed : w.routing.parties.WellFormed) (connected : w.scene.redisConnected = true)
    (stepped : w.step data e = some next) :
    next.scene.redisConnected = true ∧
      next.scene.locations = w.scene.locations ++ locating w e := by
  have silent (told : ∃ news, w.scene.Tells news next.scene) (nothing : locating w e = []) :
      next.scene.redisConnected = true ∧
        next.scene.locations = w.scene.locations ++ locating w e := by
    obtain ⟨news, told⟩ := told
    rw [nothing, List.append_nil]
    exact ⟨told.redisConnected.trans connected, told.locations⟩
  obtain ⟨acted, fine⟩ := step_act data w next e stepped
  have still (jobless : ∀ rand, e ≠ .job rand)
      (request : ∀ s username, e ≠ .packet s (.login username))
      (stays : ∀ s, e ≠ .disconnect s) : ∃ news, w.scene.Tells news next.scene :=
    ⟨[], step_silent data w next e jobless request stays stepped⟩
  cases e with
  | packet s pkt =>
      cases pkt with
      | login username =>
          simp only [World.act] at acted
          split at acted
          · cases acted
            exact (handleCLogin_told data w s username).2 connected
          · cases acted
      | _ => exact silent (still (by simp) (by simp) (by simp)) rfl
  | disconnect s =>
      simp only [World.act] at acted
      split at acted
      · cases acted
        obtain ⟨news, -, -, forgets⟩ := onDisconnected_told w s wellFormed
        exact forgets connected
      · cases acted
  | job rand =>
      obtain ⟨r, job, rest, front, result⟩ := runNextJob_some data w next rand acted
      obtain ⟨ranged, known⟩ := forJob_room w inRange r job rest rand front
      rw [result] at fine
      obtain ⟨news, told⟩ := runJob_tells data (w.forJob r rest rand) r job
        (ranged.registered r known) wellFormed fine
      have supplied : w.scene.Tells [] (w.forJob r rest rand).scene := .of_same rfl rfl rfl
      rw [result] at silent ⊢
      exact silent ⟨news, supplied.after told⟩ rfl
  | _ => exact silent (still (by simp) (by simp) (by simp)) rfl

end ZeldaServer
