import ZeldaServer.Client.UIManager
import ZeldaServer.Client.Walking

/-! What a frame of the client can send, and the invitations it answers. -/

namespace ZeldaServer

/-- The characters of a username that is typed in. -/
def nameChars : Bytes := GameClient.loginKeys.map (·.2)

def UsernameTyped (text : Bytes) : Prop :=
  text.length ≤ GameClient.maxUsernameLen ∧ ∀ c ∈ text, c ∈ nameChars

def ClientPacket.Genuine : ClientPacket → Prop
  | .login username => username ≠ [] ∧ UsernameTyped username
  | .move pkt => pkt.dir.isValid = true
  | .turn pkt => pkt.dir.isValid = true
  | .attack pkt => pkt.dir.isValid = true
  | .changeMap pkt => ∃ i, pkt = UIManager.onClick i
  | .equipItem slot => 0 ≤ slot ∧ slot < 27
  | .unequipItem equipType =>
      equipType = Player.EquipSlot.weapon.equipType ∨ equipType = Player.EquipSlot.armor.equipType
  | .useItem slot => slot = -1
  | .chat pkt => pkt.msg.length + pkt.target.length ≤ 765
  | _ => True

structure ClientPacket.Volunteered (pkt : ClientPacket) : Prop where
  genuine : pkt.Genuine
  unasked : ∀ inviterId accept, pkt ≠ .partyAnswer inviterId accept

structure MyPlayerWalk.Proper (me : MyPlayerWalk) : Prop where
  dir : me.footing.dir.isValid = true
  wanted : me.wantedDir.isValid = true

/-- `taken` are the ids of players. -/
def SceneActor.Proper (taken : ObjectId → Prop) (actor : SceneActor) : Prop :=
  ∀ me, actor.walk = some me → me.Proper ∧ taken actor.objectId

structure GameClient.Proper (taken : ObjectId → Prop) (client : GameClient) : Prop where
  typed : UsernameTyped client.loginText
  actors : ∀ actor ∈ client.actors, actor.Proper taken

variable {taken taken' : ObjectId → Prop}

namespace MyPlayerWalk

theorem tick_dir (frame : Frame) (me : MyPlayerWalk) (wanted : me.wantedDir.isValid = true) :
    (me.tick frame).1.footing.dir = me.footing.dir := by
  unfold tick act
  split
  · rfl
  · cases me.footing.state with
    | move => rfl
    | skill =>
        dsimp only
        split <;> rfl
    | idle =>
        obtain ⟨footing, -, valid, -⟩ := tickInput_keeps frame me
        obtain ⟨footing', -, -⟩ := tryMove_cases frame (me.tickInput frame).1 (valid wanted)
        exact congrArg Footing.dir (footing'.trans footing)

theorem tick_proper (frame : Frame) (me : MyPlayerWalk) (proper : me.Proper) :
    (me.tick frame).1.Proper ∧ ∀ q ∈ (me.tick frame).2, (GameClient.packetOf q).Volunteered := by
  obtain ⟨ticked, wanted⟩ := tick_ticked frame me proper.wanted
  refine ⟨⟨by rw [tick_dir frame me proper.wanted]; exact proper.dir, wanted⟩, ?_⟩
  have aims (q : Request) (aimed : ∃ weaponType, q = .attack me.footing.dir weaponType) :
      (GameClient.packetOf q).Volunteered := by
    obtain ⟨weaponType, rfl⟩ := aimed
    exact ⟨proper.dir, nofun⟩
  intro q member
  generalize (me.tick frame).2 = asked at ticked member
  cases ticked with
  | woke => cases member
  | stayed strikes _ _ aimed => exact aims q (aimed q member).2
  | stepped strikes step _ _ _ _ aimed due =>
      rcases List.mem_append.mp member with strike | last
      · exact aims q (aimed q strike)
      · rw [List.mem_singleton.mp last]
        rcases due with rfl | ⟨other, rfl, valid, -⟩
        · exact ⟨proper.dir, nofun⟩
        · exact ⟨valid, nofun⟩

end MyPlayerWalk

namespace GameClient

theorem tickActors_proper (frame : Nat → Frame) (i : Nat) (actors : List SceneActor)
    (proper : ∀ actor ∈ actors, actor.Proper taken) :
    (∀ actor ∈ (tickActors frame i actors).1, actor.Proper taken) ∧
      ∀ pkt ∈ (tickActors frame i actors).2, pkt.Volunteered := by
  induction actors generalizing i with
  | nil => exact ⟨List.forall_mem_nil _, List.forall_mem_nil _⟩
  | cons actor rest ih =>
      obtain ⟨first, others⟩ := List.forall_mem_cons.mp proper
      obtain ⟨later, sent⟩ := ih (i + 1) others
      have ticks (me : MyPlayerWalk) (there : actor.walk = some me) :=
        MyPlayerWalk.tick_proper (frame i) me (first me there).1
      unfold tickActors
      cases walk : actor.walk with
      | none =>
          refine ⟨List.forall_mem_cons.mpr ⟨?_, later⟩, sent⟩
          intro me there
          cases there
      | some me =>
          obtain ⟨still, genuine⟩ := ticks me walk
          refine ⟨List.forall_mem_cons.mpr ⟨?_, later⟩, List.forall_mem_append.mpr ⟨?_, sent⟩⟩
          · intro after there
            cases there
            exact ⟨still, (first me walk).2⟩
          · intro pkt member
            obtain ⟨q, asked, rfl⟩ := List.mem_map.mp member
            exact genuine q (by simpa using asked)

end GameClient

theorem InventoryPanel.clickAt_volunteered (items : MyPlayer) (point : Vec2Int) :
    ∀ pkt ∈ clickAt items point, pkt.Volunteered := by
  have shown (condition : Prop) [Decidable condition] (pkt : ClientPacket) (fine : pkt.Volunteered) :
      ∀ sent ∈ (if condition then [pkt] else []), sent.Volunteered := by
    split
    · exact List.forall_mem_singleton.mpr fine
    · exact List.forall_mem_nil _
  unfold clickAt
  split
  · exact shown _ _ ⟨.inl rfl, nofun⟩
  · split
    · exact shown _ _ ⟨.inr rfl, nofun⟩
    · split
      · exact shown _ _ ⟨rfl, nofun⟩
      · split
        case h_1 i _ =>
          exact shown _ _ ⟨⟨Int.natCast_nonneg _, Int.ofNat_lt.mpr i.isLt⟩, nofun⟩
        case h_2 => exact List.forall_mem_nil _

theorem InventoryPanel.tick_volunteered (sprite : Option Vec2Int) (input : InputManager)
    (items : Option MyPlayer) (panel : Panel) :
    ∀ pkt ∈ (InventoryPanel.tick sprite input items panel).2, pkt.Volunteered := by
  have clicks (panel : Panel) :
      ∀ pkt ∈ handleInventoryClick input items panel, pkt.Volunteered := by
    unfold handleInventoryClick
    cases items with
    | none => exact List.forall_mem_nil _
    | some items =>
        dsimp only
        split
        · exact List.forall_mem_nil _
        · split
          · exact List.forall_mem_nil _
          · exact clickAt_volunteered items _
  unfold InventoryPanel.tick
  split
  · exact List.forall_mem_nil _
  · cases sprite with
    | none => exact List.forall_mem_nil _
    | some size => exact clicks _

theorem utf8_length (code : Nat) :
    (utf8 code).length ≤ 4 ∧ (code < 0x10000 → (utf8 code).length ≤ 3) := by
  unfold utf8
  repeat' split
  all_goals
    simp only [List.length_cons, List.length_nil]
    omega

theorem loneUnit_length (unit : UInt16) : (loneUnit unit).length ≤ 3 := by
  apply (utf8_length _).2
  split
  · decide
  · exact unit.toNat_lt

theorem wideCharToMultiByte_length (text : WString) :
    (wideCharToMultiByte text).length ≤ 3 * text.length := by
  induction text using wideCharToMultiByte.induct with
  | case1 high low rest pair ih =>
      rw [wideCharToMultiByte, if_pos pair, List.length_append]
      have four := (utf8_length
        (0x10000 + (high.toNat - 0xD800) * 0x400 + (low.toNat - 0xDC00))).1
      simp only [List.length_cons]
      omega
  | case2 high low rest lone ih =>
      rw [wideCharToMultiByte, if_neg lone, List.length_append]
      have three := loneUnit_length high
      simp only [List.length_cons] at ih ⊢
      omega
  | case3 unit =>
      rw [wideCharToMultiByte]
      exact loneUnit_length unit
  | case4 => exact Nat.le_refl _

namespace ChatPanel

theorem chatOf_length (msg : Bytes) (pkt : CChat) (made : chatOf msg = some pkt) :
    pkt.msg.length + pkt.target.length ≤ msg.length := by
  unfold chatOf at made
  split at made
  · cases made
    simp
  · split at made
    · dsimp only at made
      split at made
      · cases made
        have parts := congrArg List.length
          (List.takeWhile_append_dropWhile (p := (· ≠ (32 : UInt8))) (l := msg.drop 3))
        simp only [List.length_append, List.length_drop] at parts ⊢
        omega
      · cases made
    · cases made
      simp

theorem sendChat_volunteered (edit : WString) : ∀ pkt ∈ sendChat edit, pkt.Volunteered := by
  unfold sendChat
  dsimp only
  split
  · exact List.forall_mem_nil _
  · intro pkt member
    obtain ⟨chat, made, rfl⟩ := List.mem_map.mp member
    have parts := chatOf_length _ chat (Option.mem_toList.mp made)
    have bytes := wideCharToMultiByte_length (getWindowText edit)
    have units : (getWindowText edit).length ≤ 255 :=
      Nat.le_trans (List.takeWhile_sublist _).length_le (List.length_take_le _ _)
    have short : chat.msg.length + chat.target.length ≤ 765 := by omega
    exact ⟨short, nofun⟩

theorem tick_volunteered (input : InputManager) (focused : Bool) (edit : WString) (panel : ChatPanel) :
    ∀ pkt ∈ (panel.tick input focused edit).2, pkt.Volunteered := by
  unfold tick
  repeat' split
  all_goals first
    | exact List.forall_mem_nil _
    | exact sendChat_volunteered edit

end ChatPanel

def ClientMessage.answers (inviterId : ObjectId) : ClientMessage → Bool
  | .game (.partyAnswer inviter _) => inviter = inviterId
  | _ => false

def waits (inviterId : ObjectId) (me : Option OwnPlayer) : Nat :=
  if inviterId ≠ 0 ∧ me.map (·.pendingInviteFrom) = some inviterId then 1 else 0

/-- What is sent is genuine, and an invitation is given up with its answer. -/
structure Behaves (before after : Option OwnPlayer) (sent : List ClientMessage) : Prop where
  genuine : ∀ pkt, .game pkt ∈ sent → pkt.Genuine
  answered : ∀ inviterId,
    sent.countP (ClientMessage.answers inviterId) + waits inviterId after ≤ waits inviterId before

namespace Behaves

variable {a b c : Option OwnPlayer}

theorem silent (me : Option OwnPlayer) : Behaves me me [] where
  genuine := fun _ member => absurd member List.not_mem_nil
  answered := fun _ => by simp

theorem volunteered (me : Option OwnPlayer) (sent : List ClientPacket)
    (all : ∀ pkt ∈ sent, pkt.Volunteered) : Behaves me me (sent.map .game) where
  genuine := by
    intro pkt member
    obtain ⟨sent, listed, same⟩ := List.mem_map.mp member
    cases same
    exact (all pkt listed).genuine
  answered := by
    intro inviterId
    have none : (sent.map ClientMessage.game).countP (ClientMessage.answers inviterId) = 0 := by
      apply List.countP_eq_zero.mpr
      intro msg member answers
      obtain ⟨pkt, listed, rfl⟩ := List.mem_map.mp member
      have unasked := (all pkt listed).unasked
      cases pkt with
      | partyAnswer inviter accept => exact unasked inviter accept rfl
      | _ => cases answers
    omega

theorem append {sent sent' : List ClientMessage} (first : Behaves a b sent) (second : Behaves b c sent') :
    Behaves a c (sent ++ sent') where
  genuine := fun pkt member =>
    (List.mem_append.mp member).elim (first.genuine pkt) (second.genuine pkt)
  answered := by
    intro inviterId
    have before := first.answered inviterId
    have after := second.answered inviterId
    rw [List.countP_append]
    omega

end Behaves

namespace UIManager

theorem tickButtons_volunteered (faded : Nat → Bool) (input : InputManager) (i : Nat)
    (states : List ButtonState) : ∀ pkt ∈ (tickButtons faded input i states).2, pkt.Volunteered := by
  induction states generalizing i with
  | nil => exact List.forall_mem_nil _
  | cons state rest ih =>
      unfold tickButtons
      refine List.forall_mem_append.mpr ⟨?_, ih (i + 1)⟩
      split
      · exact List.forall_mem_singleton.mpr ⟨⟨i, rfl⟩, nofun⟩
      · exact List.forall_mem_nil _

theorem tickPanels_behaves (sys : SystemInput) (state : UIState) :
    Behaves state.myPlayer (tickPanels sys state).1.myPlayer
      ((tickPanels sys state).2.map .game) := by
  apply Behaves.volunteered
  unfold tickPanels
  refine List.forall_mem_append.mpr ⟨List.forall_mem_append.mpr ⟨?_, ?_⟩, ?_⟩
  · exact tickButtons_volunteered _ _ _ _
  · exact InventoryPanel.tick_volunteered _ _ _ _
  · exact ChatPanel.tick_volunteered _ _ _ _

theorem tickToggles_behaves (state : UIState) :
    Behaves state.myPlayer (tickToggles state).1.myPlayer (tickToggles state).2 := by
  have ranking (visible : Bool) :
      Behaves state.myPlayer state.myPlayer (if visible then [] else [.getRanking]) := by
    cases visible with
    | true => exact .silent _
    | false =>
        exact ⟨fun pkt member => (by cases List.mem_singleton.mp member),
          fun _ => by simp [ClientMessage.answers]⟩
  unfold tickToggles
  dsimp only
  split
  · split
    · exact ranking _
    · exact ranking _
  · exact .silent _

theorem tickParty_behaves (state : UIState) :
    Behaves state.myPlayer (tickParty state).1.myPlayer ((tickParty state).2.map .game) := by
  have answered (me : OwnPlayer) (invited : me.pendingInviteFrom ≠ 0) (accept : Bool) :
      Behaves (some me) (some { me with pendingInviteFrom := 0 })
        [.game (.partyAnswer me.pendingInviteFrom accept)] := by
    refine ⟨fun pkt member => ?_, fun inviterId => ?_⟩
    · cases List.mem_singleton.mp member
      trivial
    · have forgotten : waits inviterId (some { me with pendingInviteFrom := 0 }) = 0 := by
        unfold waits
        split
        case isTrue both =>
          have zero : inviterId = 0 := by simpa [eq_comm] using both.2
          exact absurd zero both.1
        case isFalse => rfl
      rw [forgotten, List.countP_singleton]
      unfold waits
      split
      case isTrue same =>
        have same : me.pendingInviteFrom = inviterId := of_decide_eq_true same
        subst same
        simp [invited]
      case isFalse => exact Nat.zero_le _
  unfold tickParty
  dsimp only
  cases there : state.myPlayer with
  | none =>
      dsimp only
      rw [there]
      exact .silent _
  | some me =>
      dsimp only
      split
      case isTrue yes => exact answered me yes.1 true
      case isFalse =>
        split
        case isTrue no => exact answered me no.1 false
        case isFalse =>
          split
          · dsimp only
            rw [there]
            exact .volunteered _ [.partyLeave] (List.forall_mem_singleton.mpr ⟨trivial, nofun⟩)
          · dsimp only
            rw [there]
            exact .silent _

theorem tickEnter_myPlayer (state : UIState) : (tickEnter state).myPlayer = state.myPlayer := by
  unfold tickEnter
  split <;> rfl

theorem tickUIInput_behaves (state : UIState) :
    Behaves state.myPlayer (tickUIInput state).1.myPlayer (tickUIInput state).2 := by
  have party := tickParty_behaves (tickEnter (tickToggles state).1)
  rw [tickEnter_myPlayer] at party
  exact (tickToggles_behaves state).append party

theorem tick_behaves (sys : SystemInput) (state : UIState) :
    Behaves state.myPlayer (tick sys state).1.myPlayer (tick sys state).2 := by
  unfold tick
  dsimp only
  split
  · have chats := ChatPanel.tick_volunteered state.input sys.editFocused sys.edit state.ui.chatPanel
    unfold tickChat
    dsimp only
    split <;> exact .volunteered _ _ chats
  · have keyed := tickUIInput_behaves { state with ui := { state.ui with inputConsumed := false } }
    exact keyed.append (tickPanels_behaves sys _)

end UIManager

namespace GameClient

theorem typed_proper (input : InputManager) (text : Bytes)
    (proper : UsernameTyped text) : UsernameTyped (typed input text) := by
  have pressed (keys : List (KeyCode × UInt8)) (text : Bytes) (known : ∀ key ∈ keys, key.2 ∈ nameChars)
      (proper : UsernameTyped text) :
      UsernameTyped (keys.foldl
        (fun text key =>
          if input.getButtonDown key.1 ∧ text.length < maxUsernameLen then text ++ [key.2] else text)
        text) := by
    induction keys generalizing text with
    | nil => exact proper
    | cons key keys ih =>
        obtain ⟨first, others⟩ := List.forall_mem_cons.mp known
        apply ih _ others
        dsimp only
        split
        case isTrue room =>
          have longer : (text ++ [key.2]).length ≤ maxUsernameLen := by
            rw [List.length_append, List.length_singleton]
            exact room.2
          refine ⟨longer, List.forall_mem_append.mpr ⟨proper.2, ?_⟩⟩
          exact List.forall_mem_singleton.mpr first
        case isFalse => exact proper
  have whole := pressed loginKeys text (fun key member => List.mem_map_of_mem member) proper
  unfold typed
  dsimp only
  split
  · refine ⟨Nat.le_trans (List.dropLast_sublist _).length_le whole.1, ?_⟩
    exact fun c member => whole.2 c (List.dropLast_subset _ member)
  · exact whole

theorem sortActors_subset (order : List Nat) (actors : List SceneActor) :
    ∀ actor ∈ sortActors order actors, actor ∈ actors := by
  unfold sortActors
  split
  · intro actor member
    obtain ⟨i, -, there⟩ := List.mem_filterMap.mp member
    exact List.mem_of_getElem? there
  · exact fun _ member => member

theorem handlePartyInviteClick_volunteered (sys : SystemInput) (client : GameClient) :
    ∀ pkt ∈ client.handlePartyInviteClick sys, pkt.Volunteered := by
  unfold handlePartyInviteClick
  split
  · intro pkt member
    obtain ⟨entry, -, rfl⟩ := List.mem_map.mp member
    exact ⟨trivial, nofun⟩
  · exact List.forall_mem_nil _

theorem updateScene_proper (sys : SystemInput) (client : GameClient) (proper : client.Proper taken) :
    (client.updateScene sys).1.Proper taken ∧
      Behaves client.myPlayer (client.updateScene sys).1.myPlayer (client.updateScene sys).2 := by
  unfold updateScene
  split
  · have typing := typed_proper client.input client.loginText proper.typed
    refine ⟨⟨typing, proper.actors⟩, ?_⟩
    unfold updateLogin
    dsimp only
    split
    case isTrue entered =>
      exact .volunteered _ [.login _]
        (List.forall_mem_singleton.mpr ⟨⟨entered.2, typing⟩, nofun⟩)
    case isFalse => exact .silent _
  · obtain ⟨actors, acted⟩ :=
      tickActors_proper (fun i => client.frame (sys.senses i)) 0 client.actors proper.actors
    have ticked := UIManager.tick_behaves sys ⟨client.input, client.ui, client.myPlayer⟩
    dsimp only at ticked ⊢
    refine ⟨⟨proper.typed, actors⟩, ((Behaves.volunteered _ _ acted).append ticked).append ?_⟩
    apply Behaves.volunteered
    split
    · exact List.forall_mem_nil _
    · exact handlePartyInviteClick_volunteered _ _

theorem update_proper (sys : SystemInput) (client : GameClient) (proper : client.Proper taken) :
    (client.update sys).1.Proper taken ∧
      Behaves client.myPlayer (client.update sys).1.myPlayer (client.update sys).2 := by
  have started : Proper taken { client with input := client.input.update sys.device } :=
    ⟨proper.typed, proper.actors⟩
  obtain ⟨still, keeps⟩ := updateScene_proper sys _ started
  refine ⟨⟨still.typed, ?_⟩, keeps⟩
  exact fun actor member => still.actors actor (sortActors_subset _ _ actor member)

structure Welcome (taken : ObjectId → Prop) (pkt : ServerPacket) : Prop where
  spawn : ∀ info, pkt = .myPlayer info → taken info.objectId ∧ info.dir.isValid = true
  move : ∀ info, pkt = .move info → taken info.objectId → info.dir.isValid = true
  turn : ∀ info, pkt = .turn info → taken info.objectId → info.dir.isValid = true
  attack : ∀ id dir weaponType, pkt = .attack id dir weaponType → taken id → dir.isValid = true

theorem changeActor_mem (id : ObjectId) (f : SceneActor → SceneActor) (actors : List SceneActor) :
    ∀ actor ∈ changeActor id f actors, actor ∈ actors ∨
      ∃ old ∈ actors, old.objectId = id ∧ actor = f old := by
  induction actors with
  | nil => exact List.forall_mem_nil _
  | cons first rest ih =>
      unfold changeActor
      split
      case isTrue found =>
        refine List.forall_mem_cons.mpr ⟨.inr ⟨first, List.mem_cons_self, found, rfl⟩, ?_⟩
        exact fun actor member => .inl (List.mem_cons_of_mem _ member)
      case isFalse =>
        refine List.forall_mem_cons.mpr ⟨.inl List.mem_cons_self, fun actor member => ?_⟩
        rcases ih actor member with same | ⟨old, listed, found, changed⟩
        · exact .inl (List.mem_cons_of_mem _ same)
        · exact .inr ⟨old, List.mem_cons_of_mem _ listed, found, changed⟩

theorem changeActor_proper (id : ObjectId) (f : MyPlayerWalk → MyPlayerWalk)
    (actors : List SceneActor) (proper : ∀ actor ∈ actors, actor.Proper taken)
    (kept : ∀ me, taken id → me.Proper → (f me).Proper) :
    ∀ actor ∈ changeActor id (fun actor => { actor with walk := actor.walk.map f }) actors,
      actor.Proper taken := by
  intro actor member
  rcases changeActor_mem id _ actors actor member with same | ⟨old, listed, found, rfl⟩
  · exact proper actor same
  · intro me there
    obtain ⟨before, there', rfl⟩ := Option.map_eq_some_iff.mp there
    obtain ⟨fine, known⟩ := proper old listed before there'
    exact ⟨kept before (found ▸ known) fine, known⟩

theorem onServerMoveResult_wanted (info : ObjectInfo) (me : MyPlayerWalk) :
    (me.onServerMoveResult info).wantedDir = me.wantedDir := by
  unfold MyPlayerWalk.onServerMoveResult
  dsimp only
  split <;> rfl

theorem removeActors_subset (ids : List ObjectId) (actors : List SceneActor) :
    ∀ actor ∈ removeActors ids actors, actor ∈ actors := by
  unfold removeActors
  induction ids generalizing actors with
  | nil => exact fun _ => id
  | cons id ids ih => exact fun actor member => List.mem_of_mem_eraseP (ih _ actor member)

theorem hearActors_proper (own : ObjectId) (actors : List SceneActor) (pkt : ServerPacket)
    (proper : ∀ actor ∈ actors, actor.Proper taken) (welcome : Welcome taken pkt) :
    ∀ actor ∈ hearActors own actors pkt, actor.Proper taken := by
  cases pkt with
  | myPlayer info =>
      obtain ⟨known, valid⟩ := welcome.spawn info rfl
      refine List.forall_mem_append.mpr ⟨?_, List.forall_mem_singleton.mpr ?_⟩
      · intro actor member
        obtain ⟨old, listed, rfl⟩ := List.mem_map.mp member
        exact proper old listed
      · rintro me there
        cases there
        exact ⟨⟨valid, rfl⟩, known⟩
  | addObject pkt =>
      refine List.forall_mem_append.mpr ⟨proper, fun actor member me there => ?_⟩
      obtain ⟨info, -, rfl⟩ := List.mem_map.mp member
      cases there
  | removeObject ids =>
      exact fun actor member => proper actor (removeActors_subset ids actors actor member)
  | move info =>
      apply changeActor_proper info.objectId _ actors proper
      intro me is_taken fine
      refine ⟨welcome.move info rfl is_taken, ?_⟩
      dsimp only
      split
      · rw [onServerMoveResult_wanted]
        exact fine.wanted
      · exact fine.wanted
  | turn info =>
      apply changeActor_proper info.objectId _ actors proper
      exact fun me is_taken fine => ⟨welcome.turn info rfl is_taken, fine.wanted⟩
  | attack attackerId dir weaponType =>
      have struck := changeActor_proper attackerId
        (fun me =>
          { me with
            footing := { me.footing with dir }
            weaponType := MyPlayerWalk.protoWeapon weaponType })
        actors proper
        fun me is_taken fine => ⟨welcome.attack attackerId dir weaponType rfl is_taken, fine.wanted⟩
      intro actor member
      obtain ⟨old, listed, rfl⟩ := List.mem_map.mp member
      intro me there
      obtain ⟨before, there', rfl⟩ := Option.map_eq_some_iff.mp there
      obtain ⟨fine, known⟩ := struck old listed before there'
      exact ⟨⟨fine.dir, fine.wanted⟩, known⟩
  | _ => exact proper

theorem hear_proper (client : GameClient) (pkt : ServerPacket) (proper : client.Proper taken)
    (welcome : Welcome taken pkt) : (client.hear pkt).Proper taken := by
  unfold hear
  cases pkt with
  | enterGame success accountId => dsimp only; split <;> exact ⟨proper.typed, proper.actors⟩
  | changeMap success mapId channel instanceId =>
      dsimp only
      split
      · exact ⟨proper.typed, List.forall_mem_nil _⟩
      · exact proper
  | _ =>
      exact ⟨proper.typed,
        hearActors_proper client.myPlayerId client.actors _ proper.actors welcome⟩

theorem Proper.mono {client : GameClient} (proper : client.Proper taken)
    (more : ∀ id, taken id → taken' id) : client.Proper taken' where
  typed := proper.typed
  actors := fun actor member me there =>
    ⟨(proper.actors actor member me there).1, more _ (proper.actors actor member me there).2⟩

def invitedBy (inviterId : ObjectId) : ServerPacket → Bool
  | .partyInvite inviter _ => inviter = inviterId
  | _ => false

theorem hear_pending (me : OwnPlayer) (pkt : ServerPacket) (inviterId : ObjectId)
    (nonzero : inviterId ≠ 0) (named : (me.hear pkt).pendingInviteFrom = inviterId) :
    me.pendingInviteFrom = inviterId ∨ invitedBy inviterId pkt = true := by
  cases pkt with
  | partyInvite inviter name => exact .inr (decide_eq_true named)
  | partyLeave => exact absurd named.symm nonzero
  | _ => exact .inl named

theorem waits_le (inviterId : ObjectId) (before after : Option OwnPlayer) (n : Nat)
    (known : ∀ me, after = some me → inviterId ≠ 0 → me.pendingInviteFrom = inviterId →
      (∃ me', before = some me' ∧ me'.pendingInviteFrom = inviterId) ∨ 1 ≤ n) :
    waits inviterId after ≤ waits inviterId before + n := by
  by_cases waiting : inviterId ≠ 0 ∧ after.map (·.pendingInviteFrom) = some inviterId
  · obtain ⟨nonzero, named⟩ := waiting
    obtain ⟨me, there, pending⟩ := Option.map_eq_some_iff.mp named
    have one : waits inviterId after = 1 := if_pos ⟨nonzero, named⟩
    rcases known me there nonzero pending with ⟨me', there', pending'⟩ | new
    · have was : waits inviterId before = 1 :=
        if_pos ⟨nonzero, Option.map_eq_some_iff.mpr ⟨me', there', pending'⟩⟩
      omega
    · omega
  · have none : waits inviterId after = 0 := if_neg waiting
    omega

theorem hear_waits (client : GameClient) (pkt : ServerPacket) (inviterId : ObjectId) :
    waits inviterId (client.hear pkt).myPlayer ≤
      waits inviterId client.myPlayer + if invitedBy inviterId pkt then 1 else 0 := by
  apply waits_le
  intro me there nonzero named
  have heard (there : client.myPlayer.map (·.hear pkt) = some me) :
      (∃ me', client.myPlayer = some me' ∧ me'.pendingInviteFrom = inviterId) ∨
        1 ≤ if invitedBy inviterId pkt then 1 else 0 := by
    obtain ⟨before, there', rfl⟩ := Option.map_eq_some_iff.mp there
    rcases hear_pending before pkt inviterId nonzero named with same | invites
    · exact .inl ⟨before, there', same⟩
    · rw [if_pos invites]
      exact .inr (Nat.le_refl 1)
  unfold hear at there
  cases pkt with
  | enterGame success accountId =>
      have same : client.myPlayer = some me := by
        dsimp only at there
        split at there <;> exact there
      exact .inl ⟨me, same, named⟩
  | changeMap success mapId channel instanceId =>
      dsimp only at there
      split at there
      · cases there
      · exact .inl ⟨me, there, named⟩
  | myPlayer info =>
      cases there
      exact absurd named.symm nonzero
  | _ => exact heard there

end GameClient

end ZeldaServer
