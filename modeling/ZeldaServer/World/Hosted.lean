import ZeldaServer.Client.Frames
import ZeldaServer.World.Mail

/-! The server with its clients, each of them the game's own. What a client sends is on its way
until it arrives, and each client makes of its packets what the game makes of them. -/

namespace ZeldaServer

variable (data : GameData)

structure Hosted where
  world : World
  clients : SessionId → GameClient
  /-- What a client has sent that has not arrived. -/
  asked : SessionId → List ClientMessage
  /-- How many of the packets for a session its client has handled. -/
  heard : SessionId → Nat

inductive HostedEvent where
  /-- An event of the server alone. -/
  | server (e : Event)
  /-- A frame of a client; nothing is sent unless its session is connected. -/
  | frame (s : SessionId) (sys : SystemInput) (connected : Bool)
  | hear (s : SessionId)
  | hearChat (s : SessionId)
  | arrive (s : SessionId)

namespace Hosted

def start (store : Store) (redisConnected : Bool) (rand : List Nat) : Hosted where
  world := .init data store redisConnected rand
  clients := fun _ => .start
  asked := fun _ => []
  heard := fun _ => 0

def unheard (h : Hosted) (s : SessionId) : List ServerPacket :=
  (heardBy s h.world.scene.sent).drop (h.heard s)

def step (h : Hosted) : HostedEvent → Option Hosted
  | .server (.packet _ _) => none
  | .server e => (h.world.step data e).map fun world => { h with world }
  | .frame s sys connected =>
      let updated := (h.clients s).update sys
      some { h with
        clients := Function.update h.clients s updated.1
        asked :=
          if connected then Function.update h.asked s (h.asked s ++ updated.2) else h.asked }
  | .hear s =>
      match h.unheard s with
      | [] => none
      | pkt :: _ =>
          some { h with
            clients := Function.update h.clients s ((h.clients s).hear pkt)
            heard := Function.update h.heard s (h.heard s + 1) }
  | .hearChat s =>
      some { h with clients := Function.update h.clients s (h.clients s).hearChat }
  | .arrive s =>
      match h.asked s with
      | [] => none
      | .getRanking :: rest => some { h with asked := Function.update h.asked s rest }
      | .game pkt :: rest =>
          (h.world.step data (.packet s pkt)).map fun world =>
            { h with world, asked := Function.update h.asked s rest }

inductive Stepped (h : Hosted) : HostedEvent → Hosted → Prop where
  | server (e : Event) (world : World) (own : ∀ s pkt, e ≠ .packet s pkt)
      (stepped : h.world.step data e = some world) : Stepped h (.server e) { h with world }
  | arrive (s : SessionId) (pkt : ClientPacket) (rest : List ClientMessage)
      (front : h.asked s = .game pkt :: rest) (world : World)
      (stepped : h.world.step data (.packet s pkt) = some world) :
      Stepped h (.arrive s) { h with world, asked := Function.update h.asked s rest }
  | ranking (s : SessionId) (rest : List ClientMessage) (front : h.asked s = .getRanking :: rest) :
      Stepped h (.arrive s) { h with asked := Function.update h.asked s rest }
  | frame (s : SessionId) (sys : SystemInput) (connected : Bool) (sent : List ClientMessage)
      (goes : sent = [] ∨ sent = ((h.clients s).update sys).2) :
      Stepped h (.frame s sys connected)
        { h with
          clients := Function.update h.clients s ((h.clients s).update sys).1
          asked := Function.update h.asked s (h.asked s ++ sent) }
  | hear (s : SessionId) (pkt : ServerPacket) (rest : List ServerPacket)
      (front : h.unheard s = pkt :: rest) :
      Stepped h (.hear s)
        { h with
          clients := Function.update h.clients s ((h.clients s).hear pkt)
          heard := Function.update h.heard s (h.heard s + 1) }
  | hearChat (s : SessionId) :
      Stepped h (.hearChat s)
        { h with clients := Function.update h.clients s (h.clients s).hearChat }

theorem step_stepped (h next : Hosted) (e : HostedEvent) (stepped : h.step data e = some next) :
    h.Stepped data e next := by
  cases e with
  | server e =>
      have own : ∀ s pkt, e ≠ .packet s pkt := by
        rintro s pkt rfl
        cases stepped
      have moved : (h.world.step data e).map (fun world => { h with world }) = some next := by
        cases e with
        | packet s pkt => exact absurd rfl (own s pkt)
        | _ => exact stepped
      obtain ⟨world, served, rfl⟩ := Option.map_eq_some_iff.mp moved
      exact .server e world own served
  | frame s sys connected =>
      cases stepped
      cases connected with
      | true => exact .frame s sys true _ (.inr rfl)
      | false =>
          have silent : h.Stepped data (.frame s sys false) _ := .frame s sys false [] (.inl rfl)
          rwa [List.append_nil, Function.update_eq_self] at silent
  | hear s =>
      unfold step at stepped
      dsimp only at stepped
      split at stepped
      · cases stepped
      · cases stepped
        exact .hear s _ _ ‹_›
  | hearChat s =>
      cases stepped
      exact .hearChat s
  | arrive s =>
      unfold step at stepped
      dsimp only at stepped
      split at stepped
      · cases stepped
      · cases stepped
        exact .ranking s _ ‹_›
      · obtain ⟨world, served, rfl⟩ := Option.map_eq_some_iff.mp stepped
        exact .arrive s _ _ ‹_› world served

/-- The clients are in order, and so is all that is on its way between them and the server. -/
structure Sound (h : Hosted) : Prop where
  orderly : h.world.Orderly
  directed : h.world.scene.Directed
  straight : ∀ r s pkt, .attack s pkt ∈ (h.world.routing.rooms r).queue → pkt.dir.isValid = true
  genuine : ∀ s pkt, .game pkt ∈ h.asked s → pkt.Genuine
  proper : ∀ s, (h.clients s).Proper h.world.routing.LoggedPlayer
  upright : ∀ sent ∈ h.world.scene.sent,
    sent.2.Upright h.world.routing.LoggedPlayer h.world.idGen

end Hosted

theorem ServerPacket.Upright.welcome {taken : ObjectId → Prop} {g : ObjectId} {pkt : ServerPacket}
    (upright : pkt.Upright taken g) : GameClient.Welcome taken pkt := by
  have valid (id : ObjectId) (dir : Dir) (shown : pkt.facing = some (id, dir)) (is_taken : taken id) :
      dir.isValid = true := by
    rcases upright.faces id dir shown with valid | ⟨-, free⟩
    · exact valid
    · exact absurd is_taken free
  refine ⟨?_, ?_, ?_, ?_⟩
  · rintro info rfl
    exact ⟨upright.owned info rfl, valid _ _ rfl (upright.owned info rfl)⟩
  · rintro info rfl
    exact valid _ _ rfl
  · rintro info rfl
    exact valid _ _ rfl
  · rintro id dir weaponType rfl
    exact valid _ _ rfl

namespace Hosted

variable {data}

theorem Sound.serve {h : Hosted} (sound : h.Sound) (e : Event) (world : World)
    (stepped : h.world.step data e = some world)
    (genuine : ∀ s pkt, e = .packet s pkt → pkt.Genuine) : Sound { h with world } := by
  have straight : AttacksStraight h.world e := by
    rintro rand r s pkt rest rfl front
    exact sound.straight r s pkt (Routing.nextJob_queued _ r _ rest front)
  obtain ⟨more, new⟩ := step_logged data h.world world e sound.orderly.inRange stepped
  constructor
  · exact step_orderly data h.world world e sound.orderly stepped
  · exact acts_directed data (step_acts data h.world world e sound.orderly stepped)
      (turns_straight data h.world e straight.aims) sound.directed
  · intro r s pkt queued
    rcases step_queued data h.world world e sound.orderly.inRange stepped r _ queued with
      old | entering | ⟨s', left⟩ | ⟨s', pkt', event, sends⟩
    · exact sound.straight r s pkt old
    · exact absurd rfl entering
    · cases left
    · have fine := genuine s' pkt' event
      cases pkt' with
      | attack pkt' =>
          cases sends
          exact fine
      | _ => cases sends
  · exact sound.genuine
  · exact fun s => (sound.proper s).mono more
  · obtain ⟨news, sent, upright⟩ :=
      step_upright data h.world world e sound.orderly sound.directed straight stepped
    dsimp only
    rw [sent]
    refine List.forall_mem_append.mpr ⟨fun old member => ?_, upright⟩
    exact (sound.upright old member).raise (step_idGen data h.world world e stepped) more new

theorem Sound.goesOn {h : Hosted} (sound : h.Sound) (s : SessionId) (client : GameClient)
    (proper : client.Proper h.world.routing.LoggedPlayer) (asked : List ClientMessage)
    (genuine : ∀ pkt, .game pkt ∈ asked → pkt.Genuine) (heard : SessionId → Nat) :
    Sound { h with
      clients := Function.update h.clients s client
      asked := Function.update h.asked s asked
      heard } where
  orderly := sound.orderly
  directed := sound.directed
  straight := sound.straight
  upright := sound.upright
  genuine :=
    (Function.forall_update_iff h.asked fun _ asked => ∀ pkt, .game pkt ∈ asked → pkt.Genuine).mpr
      ⟨genuine, fun s' _ => sound.genuine s'⟩
  proper :=
    (Function.forall_update_iff h.clients fun _ client =>
      client.Proper h.world.routing.LoggedPlayer).mpr ⟨proper, fun s' _ => sound.proper s'⟩

theorem unheard_mem {h : Hosted} {s : SessionId} {pkt : ServerPacket} {rest : List ServerPacket}
    (front : h.unheard s = pkt :: rest) : (s, pkt) ∈ h.world.scene.sent := by
  have member : pkt ∈ heardBy s h.world.scene.sent := by
    apply List.mem_of_mem_drop
    rw [← unheard, front]
    exact List.mem_cons_self
  obtain ⟨⟨s', pkt'⟩, listed, rfl⟩ := List.mem_map.mp member
  obtain ⟨sent, own⟩ := List.mem_filter.mp listed
  rwa [← of_decide_eq_true own]

theorem step_sound {h next : Hosted} (e : HostedEvent) (sound : h.Sound)
    (stepped : h.step data e = some next) : next.Sound := by
  have same (s : SessionId) : Function.update h.asked s (h.asked s) = h.asked :=
    Function.update_eq_self s h.asked
  cases step_stepped data h next e stepped with
  | server e world own served => exact sound.serve e world served fun s pkt event => absurd event (own s pkt)
  | arrive s pkt rest front world served =>
      have genuine : ∀ pkt', .game pkt' ∈ h.asked s → pkt'.Genuine := sound.genuine s
      rw [front] at genuine
      have after := sound.serve (.packet s pkt) world served fun s' pkt' event => by
        cases event
        exact genuine pkt List.mem_cons_self
      have goes := after.goesOn s (h.clients s) (after.proper s) rest
        (fun pkt' member => genuine pkt' (List.mem_cons_of_mem _ member)) h.heard
      dsimp only at goes
      rwa [Function.update_eq_self s h.clients] at goes
  | ranking s rest front =>
      have genuine : ∀ pkt', .game pkt' ∈ h.asked s → pkt'.Genuine := sound.genuine s
      rw [front] at genuine
      have goes := sound.goesOn s (h.clients s) (sound.proper s) rest
        (fun pkt' member => genuine pkt' (List.mem_cons_of_mem _ member)) h.heard
      rwa [Function.update_eq_self s h.clients] at goes
  | frame s sys connected sent sends =>
      obtain ⟨proper, behaves⟩ := GameClient.update_proper sys (h.clients s) (sound.proper s)
      apply sound.goesOn s _ proper
      intro pkt member
      rcases List.mem_append.mp member with old | new
      · exact sound.genuine s pkt old
      · rcases sends with rfl | rfl
        · cases new
        · exact behaves.genuine pkt new
  | hear s pkt rest front =>
      have upright := sound.upright _ (unheard_mem front)
      have proper := GameClient.hear_proper (h.clients s) pkt (sound.proper s) upright.welcome
      have goes := sound.goesOn s _ proper (h.asked s) (sound.genuine s)
        (Function.update h.heard s (h.heard s + 1))
      rwa [same s] at goes
  | hearChat s =>
      have goes := sound.goesOn s (h.clients s).hearChat
        ⟨(sound.proper s).typed, (sound.proper s).actors⟩ (h.asked s) (sound.genuine s) h.heard
      rwa [same s] at goes

variable (data)

theorem start_sound (store : Store) (redisConnected : Bool) (rand : List Nat) :
    (start data store redisConnected rand).Sound := by
  have blank := init_blank data store redisConnected rand
  constructor
  · exact init_orderly data store redisConnected rand
  · apply acts_directed data (init_acts data store redisConnected rand)
    · exact fun _ member => absurd member List.not_mem_nil
    · exact empty_directed data store redisConnected rand
  · intro r s pkt queued
    dsimp only [start] at queued
    rw [blank.queue] at queued
    cases queued
  · intro s pkt member
    cases member
  · exact fun s => ⟨⟨Nat.zero_le _, List.forall_mem_nil _⟩, List.forall_mem_nil _⟩
  · intro sent member
    exact (ServerPacket.Ordinary.of_aside (init_asides data store redisConnected rand sent member)).toUpright

/-- In every run of the server with its clients, everybody looks in one of the four directions
on both sides, and what is on its way to the server is genuine. -/
theorem clients_in_order (store : Store) (redisConnected : Bool) (rand : List Nat)
    (events : List HostedEvent) :
    Runs.EveryState (step data)
      (fun h => h.world.Directed ∧ (∀ s pkt, .game pkt ∈ h.asked s → pkt.Genuine) ∧
        ∀ s, ∀ actor ∈ (h.clients s).actors, ∀ me, actor.walk = some me → me.Proper)
      (start data store redisConnected rand) events := by
  apply Runs.everyState_invariant (fun _ _ => True) Sound
  · intro h sound
    refine ⟨sound.directed.world, sound.genuine, fun s actor member me there => ?_⟩
    exact ((sound.proper s).actors actor member me there).1
  · exact fun h e next sound _ stepped => step_sound e sound stepped
  · exact start_sound data store redisConnected rand
  · exact Runs.eachStep_true _ _

def toServer (h : Hosted) : HostedEvent → Option Event
  | .server e => some e
  | .arrive s =>
      match h.asked s with
      | .game pkt :: _ => some (.packet s pkt)
      | _ => none
  | _ => none

def record (h : Hosted) (e : HostedEvent) (next : Hosted) (counts : Answers) : Answers :=
  match h.toServer e with
  | some e => counts.record h.world e next.world
  | none => counts

/-- An answer that changes the parties is to an invitation that was not answered yet, and
afterwards the two are in one party. -/
def AnswersInvitation (now : Hosted × Answers) (e : HostedEvent) : Prop :=
  ∀ next rand r s inviterId accept rest, e = .server (.job rand) →
    now.1.world.routing.nextJob = some (r, .partyAnswer s inviterId accept, rest) →
    now.1.step data e = some next →
    next.world.routing.parties = now.1.world.routing.parties ∨
      accept = true ∧ now.2.answered s inviterId < now.2.invited s inviterId ∧
      ∃ acceptor partyId party,
        lockPlayer (now.1.world.forJob r rest rand).routing (now.1.world.forJob r rest rand).scene []
          s = some acceptor ∧
        next.world.routing.parties.parties partyId = some party ∧
        inviterId ∈ party.memberIds ∧ acceptor ∈ party.memberIds

/-- An answer that arrived, is under way or is still to be given has an invitation of its own
that the client has handled. -/
structure Invited (h : Hosted) (counts : Answers) : Prop where
  wellFormed : h.world.routing.parties.WellFormed
  unread : ∀ s inviterId (rooms : Finset RoomRef),
    counts.answered s inviterId + ∑ r ∈ rooms, h.world.routing.unread s inviterId r ≤
      counts.arrived s inviterId
  invited : ∀ s inviterId,
    counts.invited s inviterId = h.world.scene.sent.countP (invites s inviterId)
  waiting : ∀ s inviterId,
    counts.arrived s inviterId + (h.asked s).countP (ClientMessage.answers inviterId) +
        waits inviterId (h.clients s).myPlayer ≤
      ((heardBy s h.world.scene.sent).take (h.heard s)).countP (GameClient.invitedBy inviterId)

theorem heardBy_invited (s : SessionId) (inviterId : ObjectId) (sent : List (SessionId × ServerPacket)) :
    (heardBy s sent).countP (GameClient.invitedBy inviterId) = sent.countP (invites s inviterId) := by
  rw [heardBy, List.countP_map, List.countP_filter]
  apply List.countP_congr
  rintro ⟨session, pkt⟩ -
  cases pkt <;> simp [invites, GameClient.invitedBy, Function.comp_apply, and_comm]

theorem Invited.honest {h : Hosted} {counts : Answers} (invited : h.Invited counts) (s : SessionId)
    (inviterId : ObjectId) : counts.arrived s inviterId ≤ counts.invited s inviterId := by
  have waiting := invited.waiting s inviterId
  have handled := (List.take_sublist (h.heard s) (heardBy s h.world.scene.sent)).countP_le
    (p := GameClient.invitedBy inviterId)
  rw [heardBy_invited] at handled
  rw [invited.invited]
  omega

variable {data}

theorem Invited.serve {h : Hosted} {counts : Answers} (invited : h.Invited counts) (sound : h.Sound)
    (e : Event) (world : World) (stepped : h.world.step data e = some world) :
    (world.routing.parties.WellFormed) ∧
      (∀ s inviterId (rooms : Finset RoomRef),
        (counts.record h.world e world).answered s inviterId +
            ∑ r ∈ rooms, world.routing.unread s inviterId r ≤
          (counts.record h.world e world).arrived s inviterId) ∧
      (∀ s inviterId, (counts.record h.world e world).invited s inviterId =
        world.scene.sent.countP (invites s inviterId)) ∧
      ∀ s inviterId,
        ((heardBy s h.world.scene.sent).take (h.heard s)).countP (GameClient.invitedBy inviterId) ≤
          ((heardBy s world.scene.sent).take (h.heard s)).countP (GameClient.invitedBy inviterId) := by
  have inRange := sound.orderly.inRange
  have straight : AttacksStraight h.world e := by
    rintro rand r s pkt rest rfl front
    exact sound.straight r s pkt (Routing.nextJob_queued _ r _ rest front)
  have mails := step_mails data h.world world e sound.orderly sound.directed straight stepped
  refine ⟨step_wellFormedParties data h.world world e inRange invited.wellFormed stepped, ?_, ?_, ?_⟩
  · intro s inviterId rooms
    exact step_unread data h.world world e counts s inviterId rooms
      ⟨inRange, invited.wellFormed, invited.unread, invited.honest⟩ stepped
  · intro s inviterId
    rw [mails.invited s inviterId, ← invited.invited]
    rfl
  · intro s inviterId
    obtain ⟨news, sent, -⟩ := mails.upright
    rw [sent, heardBy, heardBy, List.filter_append, List.map_append, List.take_append, List.countP_append]
    exact Nat.le_add_right _ _

theorem arrives_packet (s s' : SessionId) (inviterId : ObjectId) (pkt : ClientPacket) :
    (Event.packet s pkt).arrives s' inviterId =
      (decide (s = s') && (ClientMessage.game pkt).answers inviterId) := by
  cases pkt with
  | partyAnswer inviter accept => rfl
  | _ => simp [Event.arrives, ClientMessage.answers]

theorem Invited.goesOn {h : Hosted} {counts : Answers} (invited : h.Invited counts) (s : SessionId)
    (client : GameClient) (asked : List ClientMessage) (heard : Nat)
    (waiting : ∀ inviterId,
      counts.arrived s inviterId + asked.countP (ClientMessage.answers inviterId) +
          waits inviterId client.myPlayer ≤
        ((heardBy s h.world.scene.sent).take heard).countP (GameClient.invitedBy inviterId)) :
    Invited { h with
      clients := Function.update h.clients s client
      asked := Function.update h.asked s asked
      heard := Function.update h.heard s heard } counts where
  wellFormed := invited.wellFormed
  unread := invited.unread
  invited := invited.invited
  waiting := by
    intro s'
    by_cases own : s' = s
    · subst own
      simpa only [Function.update_self] using waiting
    · simpa only [Function.update_of_ne own] using invited.waiting s'

theorem step_invited {h next : Hosted} {counts : Answers} (e : HostedEvent) (sound : h.Sound)
    (invited : h.Invited counts) (stepped : h.step data e = some next) :
    next.Invited (h.record e next counts) := by
  cases step_stepped data h next e stepped with
  | server e world own served =>
      obtain ⟨wellFormed, unread, sent, more⟩ := invited.serve sound e world served
      refine ⟨wellFormed, unread, sent, fun s inviterId => ?_⟩
      have unarrived : e.arrives s inviterId = false := by
        cases e with
        | packet s' pkt => exact absurd rfl (own s' pkt)
        | _ => rfl
      have arrived : (h.record (.server e) { h with world } counts).arrived s inviterId =
          counts.arrived s inviterId := by
        simp [record, toServer, Answers.record, unarrived]
      rw [arrived]
      exact Nat.le_trans (invited.waiting s inviterId) (more s inviterId)
  | arrive s pkt rest front world served =>
      obtain ⟨wellFormed, unread, sent, more⟩ := invited.serve sound (.packet s pkt) world served
      have recorded : h.record (.arrive s) { h with world, asked := Function.update h.asked s rest }
          counts = counts.record h.world (.packet s pkt) world := by
        simp only [record, toServer, front]
      rw [recorded]
      refine ⟨wellFormed, unread, sent, fun s' inviterId => ?_⟩
      have before := Nat.le_trans (invited.waiting s' inviterId) (more s' inviterId)
      refine Nat.le_trans (Nat.add_le_add_right ?_ _) before
      dsimp only [Answers.record]
      rw [arrives_packet]
      by_cases own : s' = s
      · subst own
        rw [Function.update_self, front, List.countP_cons]
        simp only [decide_true, Bool.true_and]
        omega
      · have other : decide (s = s') = false := decide_eq_false (Ne.symm own)
        rw [Function.update_of_ne own, other]
        simp
  | ranking s rest front =>
      have recorded : h.record (.arrive s) { h with asked := Function.update h.asked s rest } counts =
          counts := by
        simp only [record, toServer, front]
      rw [recorded]
      have goes := invited.goesOn s (h.clients s) rest (h.heard s) fun inviterId => by
        have before := invited.waiting s inviterId
        rwa [front, List.countP_cons_of_neg (by simp [ClientMessage.answers])] at before
      rwa [Function.update_eq_self s h.clients, Function.update_eq_self s h.heard] at goes
  | frame s sys connected sent sends =>
      have behaves := (GameClient.update_proper sys (h.clients s) (sound.proper s)).2
      have goes := invited.goesOn s ((h.clients s).update sys).1 (h.asked s ++ sent) (h.heard s) (by
        intro inviterId
        have before := invited.waiting s inviterId
        have answered := behaves.answered inviterId
        have few : sent.countP (ClientMessage.answers inviterId) ≤
            ((h.clients s).update sys).2.countP (ClientMessage.answers inviterId) := by
          rcases sends with rfl | rfl
          · exact Nat.zero_le _
          · exact Nat.le_refl _
        rw [List.countP_append]
        omega)
      rwa [Function.update_eq_self s h.heard] at goes
  | hear s pkt rest front =>
      have goes := invited.goesOn s ((h.clients s).hear pkt) (h.asked s) (h.heard s + 1) (by
        intro inviterId
        have before := invited.waiting s inviterId
        have after := GameClient.hear_waits (h.clients s) pkt inviterId
        have next : (heardBy s h.world.scene.sent).take (h.heard s + 1) =
            (heardBy s h.world.scene.sent).take (h.heard s) ++ [pkt] := by
          have shown : (heardBy s h.world.scene.sent)[h.heard s]? = some pkt := by
            have first := congrArg List.head? front
            rwa [unheard, List.head?_drop] at first
          rw [List.take_add_one, shown]
          rfl
        rw [next, List.countP_append, List.countP_singleton]
        omega)
      rwa [Function.update_eq_self s h.asked] at goes
  | hearChat s =>
      have goes := invited.goesOn s (h.clients s).hearChat (h.asked s) (h.heard s)
        (invited.waiting s)
      rwa [Function.update_eq_self s h.asked, Function.update_eq_self s h.heard] at goes

end Hosted

namespace PartyManager

theorem setMemberName_mapped (m : PartyManager) (partyId : PartyId) (playerId : ObjectId)
    (name : Bytes) : (m.setMemberName partyId playerId name).playerToParty = m.playerToParty := by
  unfold setMemberName
  split <;> rfl

theorem addMember_unmapped (m : PartyManager) (partyId : PartyId) (playerId : ObjectId)
    (added : (m.addMember partyId playerId).1 = true) : m.playerToParty playerId = none := by
  by_contra mapped
  obtain ⟨other, there⟩ := Option.ne_none_iff_exists'.mp mapped
  unfold addMember at added
  rw [there] at added
  split at added
  · cases added
  · split at added <;> cases added

theorem addMember_mapped (m : PartyManager) (partyId : PartyId) (playerId : ObjectId)
    (added : (m.addMember partyId playerId).1 = true) :
    (m.addMember partyId playerId).2.playerToParty =
      Function.update m.playerToParty playerId (some partyId) := by
  obtain ⟨party, -, result⟩ := addMember_added m partyId playerId added
  rw [result]

theorem Answered.together {m m' : PartyManager} {inviterId acceptor : ObjectId}
    (answered : m.Answered inviterId acceptor m') (wellFormed : m.WellFormed)
    (alone : m.playerToParty acceptor = none) :
    ∃ partyId party, m'.parties partyId = some party ∧ inviterId ∈ party.memberIds ∧
      acceptor ∈ party.memberIds := by
  have after := answered.wellFormed wellFormed
  have mapped : ∃ partyId, m'.playerToParty inviterId = some partyId ∧
      m'.playerToParty acceptor = some partyId := by
    cases answered with
    | joined partyId name own added =>
        have result := addMember_mapped m partyId acceptor added
        have other : inviterId ≠ acceptor := by
          rintro rfl
          rw [own] at alone
          cases alone
        refine ⟨partyId, ?_, ?_⟩
        · rw [setMemberName_mapped, result, Function.update_of_ne other, own]
        · rw [setMemberName_mapped, result, Function.update_self]
    | founded m'' name free created added =>
        obtain ⟨-, -, founded⟩ := created.party free
        have unmapped := addMember_unmapped m'' m.partyIdGen acceptor added
        have result := addMember_mapped m'' m.partyIdGen acceptor added
        have other : inviterId ≠ acceptor := by
          rintro rfl
          rw [founded, Function.update_self] at unmapped
          cases unmapped
        refine ⟨m.partyIdGen, ?_, ?_⟩
        · rw [setMemberName_mapped, result, Function.update_of_ne other, founded,
            Function.update_self]
        · rw [setMemberName_mapped, result, Function.update_self]
    | alone _ free created refused =>
        obtain ⟨-, -, founded⟩ := created.party free
        -- the new party has room for anybody but the inviter itself
        have same : inviterId = acceptor := by
          by_contra other
          obtain ⟨party, -, -, result⟩ := created.admits free alone other
          rw [result] at refused
          cases refused
        subst same
        exact ⟨m.partyIdGen, by rw [founded, Function.update_self],
          by rw [founded, Function.update_self]⟩
  obtain ⟨partyId, inviter, own⟩ := mapped
  obtain ⟨party, found, listed⟩ := (after.mapped inviterId partyId).mp inviter
  obtain ⟨party', found', joined⟩ := (after.mapped acceptor partyId).mp own
  rw [found] at found'
  cases found'
  exact ⟨partyId, party, found, listed, joined⟩

end PartyManager

namespace Hosted

theorem invited_answers {h : Hosted} {counts : Answers} (e : HostedEvent)
    (invited : h.Invited counts) : AnswersInvitation data (h, counts) e := by
  rintro next rand r s inviterId accept rest rfl front stepped
  cases step_stepped data h next _ stepped with
  | server _ world own served =>
      obtain ⟨acted, -⟩ := step_act data h.world world _ served
      obtain ⟨r', job, rest', front', result⟩ := runNextJob_some data h.world world rand acted
      have same := front.symm.trans front'
      cases same
      dsimp only
      rw [result]
      rcases partyAnswer_cases (h.world.forJob r rest rand) r s inviterId accept invited.wellFormed with
        still | ⟨acceptor, locked, accepts, alone, answered⟩
      · exact .inl still
      · obtain ⟨partyId, party, found, listed, joined⟩ := answered.together invited.wellFormed alone
        -- the answer itself is one that arrived, and is not among those handled
        have waits : 0 < h.world.routing.unread s inviterId r := by
          apply List.countP_pos_iff.mpr
          exact ⟨_, Routing.nextJob_queued h.world.routing r _ rest front, by simp [Job.answers]⟩
        have unread := invited.unread s inviterId {r}
        have arrived := invited.honest s inviterId
        rw [Finset.sum_singleton] at unread
        exact .inr ⟨accepts, by omega, acceptor, partyId, party, locked, found, listed, joined⟩

theorem start_invited (store : Store) (redisConnected : Bool) (rand : List Nat) :
    (start data store redisConnected rand).Invited .start := by
  have answering := init_answering data store redisConnected rand
  refine ⟨answering.wellFormed, answering.unread, fun s inviterId => ?_, fun s inviterId => ?_⟩
  · symm
    apply List.countP_eq_zero.mpr
    intro sent member
    have aside := init_asides data store redisConnected rand sent member
    have uninviting : sent.2.isInvite = false := by
      simpa using (Bool.and_eq_true_iff.mp aside).1
    rw [invites_isInvite s inviterId sent uninviting]
    exact Bool.false_ne_true
  · have nobody : waits inviterId ((start data store redisConnected rand).clients s).myPlayer = 0 := by
      simp [start, GameClient.start, waits]
    rw [nobody]
    exact Nat.zero_le _

/-- In every run of the server with its clients, who joins a party answers an invitation that it
was sent and has not answered yet, and joins who invited. -/
theorem clients_join_invited (store : Store) (redisConnected : Bool) (rand : List Nat)
    (events : List HostedEvent) :
    Runs.EachStep (Runs.observed (step data) record) (AnswersInvitation data)
      (start data store redisConnected rand, .start) events := by
  apply Runs.eachStep_mono (fun _ _ => True) (AnswersInvitation data)
    (fun now : Hosted × Answers => now.1.Sound ∧ now.1.Invited now.2)
  · rintro now e after ⟨sound, invited⟩ - stepped
    obtain ⟨moved, result⟩ := Runs.observed_some record now after e stepped
    rw [result]
    exact ⟨step_sound e sound moved, step_invited e sound invited moved⟩
  · rintro now e after ⟨-, invited⟩ - -
    exact invited_answers data e invited
  · exact ⟨start_sound data store redisConnected rand, start_invited data store redisConnected rand⟩
  · exact Runs.eachStep_true _ _

/-! Two players log in by their keyboards; the first clicks on the second, who presses Y. -/

def restingFrame : SystemInput where
  device := some ⟨fun _ => false, ⟨0, 0⟩⟩
  edit := []
  editFocused := false
  faded := fun _ => false
  inventorySprite := none
  senses := fun _ => ⟨true, false, false, false, false⟩
  near := fun _ => true
  order := []

def press (s : SessionId) (key : KeyCode) : HostedEvent :=
  .frame s { restingFrame with device := some ⟨fun held => held = key, ⟨0, 0⟩⟩ } true

def hears (s : SessionId) (n : Nat) : List HostedEvent := List.replicate n (.hear s)

def clickedTogether : List HostedEvent :=
  [Event.connect 1, .connect 2].map .server ++
    [press 1 (KeyCode.ofChar 'A'), press 1 KeyCode.enter, .arrive 1,
      press 2 (KeyCode.ofChar 'B'), press 2 KeyCode.enter, .arrive 2] ++
    (updateTown 2).map .server ++ hears 1 6 ++ hears 2 5 ++
    [press 1 KeyCode.leftMouse, .arrive 1] ++ (updateTown 1).map .server ++ hears 2 1 ++
    [press 2 (KeyCode.ofChar 'Y'), .arrive 2] ++ (updateTown 1).map .server

set_option maxRecDepth 20000 in
example : (Runs.run (step smallGame) (start smallGame newStore false []) clickedTogether).any
    (fun h => (h.world.routing.parties.parties 1).map (·.memberIds) = some [1, 2]) = true := by
  decide +kernel

end Hosted

end ZeldaServer
