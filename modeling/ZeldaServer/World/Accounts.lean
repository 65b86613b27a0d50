import ZeldaServer.World.Saves

/-! Accounts and their players. The login handler creates a player whether the account has
one in the game or not; while nobody logs in to an account that has, each account has one
player at most, and its saves are in the order of its players. -/

namespace ZeldaServer

variable (data : GameData)

namespace Routing

/-- At most one of the players that were loaded from or created for an account is in a
room, or in an `EnterRoom` job. -/
def OnePlayerPerAccount (a : Routing) : Prop :=
  ∀ l ∈ a.logins, ∀ l' ∈ a.logins, l.account = l'.account →
    a.Placed l.player → a.Placed l'.player → l.player = l'.player

def NewestPlaced (a : Routing) : Prop :=
  ∀ l ∈ a.logins, a.Placed l.player →
    ∀ l' ∈ a.logins, l'.account = l.account → l'.player ≤ l.player

def OwnCall (a : Routing) (call : SaveCall) : Prop :=
  ∃ l ∈ a.logins, l.account = call.account ∧ l.player = call.player

def SavesInOrder (a : Routing) : Prop :=
  a.store.saves.Pairwise fun newer older =>
    newer.account = older.account → a.OwnCall newer → a.OwnCall older →
      older.player ≤ newer.player

theorem NewestPlaced.onePlayer {a : Routing} (newest : a.NewestPlaced) : a.OnePlayerPerAccount := by
  intro l member l' member' account place place'
  exact Nat.le_antisymm (newest l' member' place' l member account)
    (newest l member place l' member' account.symm)

end Routing

def NoSecondPlayer (w : World) (e : Event) : Prop :=
  ∀ s username, e = .packet s (.login username) → username ≠ [] →
    ∀ l ∈ w.routing.logins, l.account = w.routing.store.accountOf username →
      ¬ w.routing.Placed l.player

structure World.Single (w : World) : Prop extends w.Sound where
  newest : w.routing.NewestPlaced
  inOrder : w.routing.SavesInOrder
  savers : ∀ call ∈ w.routing.store.saves, call.player < w.idGen

theorem step_newest (w next : World) (e : Event) (sound : w.Sound)
    (newest : w.routing.NewestPlaced) (alone : NoSecondPlayer w e)
    (stepped : w.step data e = some next) : next.routing.NewestPlaced := by
  rcases step_logins data w next e sound.inRange stepped with
    ⟨logins, placed⟩ | ⟨s, username, event, named, logins, placed⟩
  · intro l member place l' member' account
    rw [logins] at member member'
    exact newest l member (placed _ place) l' member' account
  · intro l member place l' member' account
    rw [logins] at member member'
    rcases List.mem_cons.mp member with rfl | old
    · rcases List.mem_cons.mp member' with rfl | old'
      · exact Nat.le_refl _
      · exact Nat.le_of_lt (sound.fresh l' old')
    · have before : w.routing.Placed l.player := by
        rcases placed _ place with before | new
        · exact before
        · exact absurd new (Nat.ne_of_lt (sound.fresh l old))
      rcases List.mem_cons.mp member' with rfl | old'
      · exact absurd before (alone s username event named l old account.symm)
      · exact newest l old before l' old' account

theorem step_ownCall (w next : World) (e : Event) (sound : w.Sound)
    (stepped : w.step data e = some next) (call : SaveCall) (earlier : call.player < w.idGen)
    (own : next.routing.OwnCall call) : w.routing.OwnCall call := by
  obtain ⟨l, member, account, player⟩ := own
  rcases step_logins data w next e sound.inRange stepped with
    ⟨logins, -⟩ | ⟨s, username, -, -, logins, -⟩
  · exact ⟨l, logins ▸ member, account, player⟩
  · rw [logins] at member
    rcases List.mem_cons.mp member with rfl | old
    · exact absurd player.symm (Nat.ne_of_lt earlier)
    · exact ⟨l, old, account, player⟩

theorem disconnectSave_placed (w : World) (s : SessionId) (call : SaveCall)
    (saved : disconnectSave w s = some call) : w.routing.Placed call.player := by
  obtain ⟨locked, -⟩ := disconnectSave_some w s call saved
  exact placed_of_alive _ _ _ (lockPlayer_some _ _ _ _ _ locked).2

theorem step_single (w next : World) (e : Event) (single : w.Single) (alone : NoSecondPlayer w e)
    (stepped : w.step data e = some next) : next.Single := by
  have sound := single.toSound
  have later := step_idGen data w next e stepped
  have own := step_ownCall data w next e sound stepped
  have ordered : w.routing.store.saves.Pairwise fun newer older =>
      newer.account = older.account → next.routing.OwnCall newer → next.routing.OwnCall older →
        older.player ≤ newer.player := by
    refine List.Pairwise.imp_of_mem ?_ single.inOrder
    intro newer older member member' ordered account ownNewer ownOlder
    exact ordered account (own newer (single.savers newer member) ownNewer)
      (own older (single.savers older member') ownOlder)
  refine ⟨step_sound data w next e sound stepped,
    step_newest data w next e sound single.newest alone stepped, ?_, ?_⟩
  · cases step_stored data w next e sound.inRange stepped with
    | kept e rows saves =>
        rw [Routing.SavesInOrder, saves]
        exact ordered
    | created s username saved named missing logins rows saves =>
        rw [Routing.SavesInOrder, saves]
        apply List.Pairwise.cons _ ordered
        intro older member _ _ _
        exact Nat.le_of_lt (single.savers older member)
    | left s call made store =>
        rw [Routing.SavesInOrder, store]
        apply List.Pairwise.cons _ ordered
        intro older member account ownNewer ownOlder
        have place := disconnectSave_placed w s call made
        obtain ⟨l₀, known, player₀⟩ := sound.placed call.player place
        obtain ⟨l, member', account', player⟩ := own call
          (player₀ ▸ sound.fresh l₀ known) ownNewer
        obtain ⟨l', older', accountOlder, playerOlder⟩ := own older
          (single.savers older member) ownOlder
        have before := single.newest l member' (player ▸ place) l' older'
          (accountOlder.trans (account.symm.trans account'.symm))
        rwa [player, playerOlder] at before
  · intro call member
    cases step_stored data w next e sound.inRange stepped with
    | kept e rows saves => exact Nat.lt_of_lt_of_le (single.savers call (saves ▸ member)) later
    | created s username saved named missing logins rows saves =>
        rw [saves] at member
        rcases List.mem_cons.mp member with rfl | old
        · apply (step_sound data w next _ sound stepped).fresh
            ⟨s, w.routing.store.accountOf username, w.idGen⟩
          rw [logins]
          exact List.mem_cons_self
        · exact Nat.lt_of_lt_of_le (single.savers call old) later
    | left s made saved store =>
        rw [store] at member
        rcases List.mem_cons.mp member with rfl | old
        · obtain ⟨l, known, player⟩ := sound.placed _ (disconnectSave_placed w s made saved)
          exact Nat.lt_of_lt_of_le (player ▸ sound.fresh l known) later
        · exact Nat.lt_of_lt_of_le (single.savers call old) later

theorem init_single (store : Store) (redisConnected : Bool) (rand : List Nat) :
    (World.init data store redisConnected rand).Single := by
  have blank := init_blank data store redisConnected rand
  refine ⟨init_sound data store redisConnected rand, ?_, ?_, ?_⟩
  · intro l member
    rw [blank.logins] at member
    cases member
  · rw [Routing.SavesInOrder, blank.saves]
    exact .nil
  · intro call member
    rw [blank.saves] at member
    cases member

/-- In a run in which nobody logs in to an account that has a player in the game, each
account has one at most, and no save of it is written over by an older copy. -/
theorem one_player_per_account (store : Store) (redisConnected : Bool) (rand : List Nat)
    (events : List Event) (w : World)
    (alone : Runs.EachStep (World.step data) NoSecondPlayer
      (World.init data store redisConnected rand) events)
    (run : reached data store redisConnected rand events = some w) :
    w.routing.OnePlayerPerAccount ∧ w.routing.SavesInOrder := by
  have single := Runs.run_invariant NoSecondPlayer World.Single
    (fun w e next single alone stepped => step_single data w next e single alone stepped) _ w
    events (init_single data store redisConnected rand) alone run
  exact ⟨single.newest.onePlayer, single.inOrder⟩

/-- Two sessions play as `a` and `b`, and the first one leaves. -/
def twoAccounts : List Event :=
  [Event.connect 1, .connect 2, .packet 1 (.login [97]), .packet 2 (.login [98])] ++ updateTown 2 ++
    [Event.disconnect 1]

def newAccount (w : World) : Event → Bool
  | .packet _ (.login username) =>
      w.routing.logins.all fun l => l.account ≠ w.routing.store.accountOf username
  | _ => true

set_option maxRecDepth 10000 in
theorem two_accounts_apart :
    ∃ w, reached smallGame newStore false [] twoAccounts = some w ∧
      w.routing.OnePlayerPerAccount ∧ w.routing.SavesInOrder := by
  have ends : (reached smallGame newStore false [] twoAccounts).isSome = true := by decide +kernel
  obtain ⟨w, run⟩ := Option.isSome_iff_exists.mp ends
  refine ⟨w, run, one_player_per_account smallGame newStore false [] twoAccounts w ?_ run⟩
  refine Runs.eachStep_of_check newAccount NoSecondPlayer ?_ _ twoAccounts (by decide +kernel)
  rintro w e checked s username rfl - l member account
  have apart := List.all_eq_true.mp checked l member
  exact absurd account (of_decide_eq_true apart)

/-- Two sessions that log in as `a` have a player each. -/
theorem same_account_twice :
    ∃ w, reached smallGame newStore false []
        [.connect 1, .connect 2, .packet 1 (.login [97]), .packet 2 (.login [97])] = some w ∧
      ¬ w.routing.OnePlayerPerAccount := by
  have run : (reached smallGame newStore false []
      [.connect 1, .connect 2, .packet 1 (.login [97]), .packet 2 (.login [97])]).any (fun w =>
        w.routing.logins = [⟨2, 1, 2⟩, ⟨1, 1, 1⟩] ∧
          (w.routing.rooms 0).queue = [.enterRoom 1 1, .enterRoom 2 2]) = true := by
    decide +kernel
  obtain ⟨w, reached, checked⟩ := Option.any_eq_true _ _ |>.mp run
  obtain ⟨logins, queue⟩ := of_decide_eq_true checked
  refine ⟨w, reached, fun one => ?_⟩
  have first : w.routing.Placed 1 := ⟨0, .inr ⟨1, by simp [queue]⟩⟩
  have second : w.routing.Placed 2 := ⟨0, .inr ⟨2, by simp [queue]⟩⟩
  have same := one ⟨2, 1, 2⟩ (by simp [logins]) ⟨1, 1, 1⟩ (by simp [logins]) rfl second first
  cases same

end ZeldaServer
