import ZeldaServer.Client.MyPlayer

/-! A player between its client and its room: the requests on their way, the packets on their
way back, and what the server holds of it. -/

namespace ZeldaServer

namespace Request

/-- The server answers the request when the player looks this way and stands. -/
def Due (dir : Dir) (q : Request) : Prop :=
  q = .move dir ∨ ∃ other : Dir, q = .turn other ∧ other.isValid = true ∧ other ≠ dir

theorem Due.isStep {dir : Dir} {q : Request} (due : q.Due dir) : q.isStep = true := by
  rcases due with rfl | ⟨other, rfl, -, -⟩ <;> rfl

end Request

namespace MyPlayerWalk

inductive Ticked (me : MyPlayerWalk) : MyPlayerWalk → List Request → Prop where
  | woke (me' : MyPlayerWalk) (asleep : me.footing.state = .skill)
      (pending : me'.movePending = me.movePending) : Ticked me me' []
  | stayed (me' : MyPlayerWalk) (strikes : List Request) (footing : me'.footing = me.footing)
      (pending : me'.movePending = me.movePending)
      (aimed : ∀ q ∈ strikes, me.footing.state = .idle ∧ ∃ weaponType, q = .attack me.footing.dir weaponType) :
      Ticked me me' strikes
  | stepped (me' : MyPlayerWalk) (strikes : List Request) (q : Request)
      (footing : me'.footing = me.footing) (idle : me.footing.state = .idle)
      (free : me.movePending = false) (pending : me'.movePending = true)
      (aimed : ∀ q ∈ strikes, ∃ weaponType, q = .attack me.footing.dir weaponType)
      (due : q.Due me.footing.dir) : Ticked me me' (strikes ++ [q])

theorem Ticked.same {me me' : MyPlayerWalk} {asked : List Request} (ticked : me.Ticked me' asked)
    (after : MyPlayerWalk) (footing : after.footing = me'.footing)
    (pending : after.movePending = me'.movePending) : me.Ticked after asked := by
  cases ticked with
  | woke asleep pending' => exact .woke after asleep (pending.trans pending')
  | stayed strikes footing' pending' aimed =>
      exact .stayed after _ (footing.trans footing') (pending.trans pending') aimed
  | stepped strikes q footing' idle free pending' aimed due =>
      exact .stepped after strikes q (footing.trans footing') idle free (pending.trans pending') aimed
        due

theorem heldDir_valid (frame : Frame) (dir : Dir) (held : heldDir frame = some dir) :
    dir.isValid = true := by
  unfold heldDir at held
  split at held
  · cases held
    rfl
  · split at held
    · cases held
      rfl
    · split at held
      · cases held
        rfl
      · split at held
        · cases held
          rfl
        · cases held

theorem tickInput_keeps (frame : Frame) (me : MyPlayerWalk) :
    (me.tickInput frame).1.footing = me.footing ∧
      (me.tickInput frame).1.movePending = me.movePending ∧
      (me.wantedDir.isValid = true → (me.tickInput frame).1.wantedDir.isValid = true) ∧
      ∀ q ∈ (me.tickInput frame).2, ∃ weaponType, q = .attack me.footing.dir weaponType := by
  unfold tickInput
  split
  · exact ⟨rfl, rfl, id, List.forall_mem_nil _⟩
  · cases held : heldDir frame with
    | none =>
        dsimp only
        split
        · exact ⟨rfl, rfl, id, List.forall_mem_singleton.mpr ⟨_, rfl⟩⟩
        · exact ⟨rfl, rfl, id, List.forall_mem_nil _⟩
    | some dir =>
        have valid := heldDir_valid frame dir held
        dsimp only
        split
        · exact ⟨rfl, rfl, fun _ => valid, List.forall_mem_singleton.mpr ⟨_, rfl⟩⟩
        · exact ⟨rfl, rfl, fun _ => valid, List.forall_mem_nil _⟩

theorem tryMove_cases (frame : Frame) (me : MyPlayerWalk) (wanted : me.wantedDir.isValid = true) :
    (me.tryMove frame).1.footing = me.footing ∧
      (me.tryMove frame).1.wantedDir.isValid = true ∧
      (((me.tryMove frame).2 = [] ∧ (me.tryMove frame).1.movePending = me.movePending) ∨
        me.movePending = false ∧ (me.tryMove frame).1.movePending = true ∧
          ∃ q : Request, (me.tryMove frame).2 = [q] ∧ q.Due me.footing.dir) := by
  unfold tryMove
  split
  · exact ⟨rfl, wanted, .inl ⟨rfl, rfl⟩⟩
  · split
    case isTrue => exact ⟨rfl, wanted, .inl ⟨rfl, rfl⟩⟩
    case isFalse free =>
      have free := eq_false_of_ne_true free
      split
      · exact ⟨rfl, wanted, .inl ⟨rfl, rfl⟩⟩
      · split
        case isTrue other =>
          exact ⟨rfl, wanted, .inr ⟨free, rfl, _, rfl, .inr ⟨_, rfl, wanted, Ne.symm other⟩⟩⟩
        case isFalse =>
          split
          · exact ⟨rfl, wanted, .inl ⟨rfl, rfl⟩⟩
          · exact ⟨rfl, wanted, .inr ⟨free, rfl, _, rfl, .inl rfl⟩⟩

theorem tickIdle_ticked (frame : Frame) (me : MyPlayerWalk) (wanted : me.wantedDir.isValid = true)
    (idle : me.footing.state = .idle) :
    me.Ticked (me.tickIdle frame).1 (me.tickIdle frame).2 ∧
      (me.tickIdle frame).1.wantedDir.isValid = true := by
  obtain ⟨footing, pending, valid, aimed⟩ := tickInput_keeps frame me
  obtain ⟨footing', wanted', outcome⟩ := tryMove_cases frame (me.tickInput frame).1 (valid wanted)
  refine ⟨?_, wanted'⟩
  rcases outcome with ⟨nothing, pending'⟩ | ⟨free, pending', q, asked, due⟩
  · have whole : (me.tickIdle frame).2 = (me.tickInput frame).2 := by
      unfold tickIdle
      dsimp only
      rw [nothing, List.append_nil]
    rw [whole]
    exact .stayed _ _ (footing'.trans footing) (pending'.trans pending)
      fun q listed => ⟨idle, aimed q listed⟩
  · have whole : (me.tickIdle frame).2 = (me.tickInput frame).2 ++ [q] := by
      unfold tickIdle
      dsimp only
      rw [asked]
    rw [whole]
    rw [footing] at due
    exact .stepped _ _ q (footing'.trans footing) idle (pending ▸ free) pending' aimed due

theorem tick_ticked (frame : Frame) (me : MyPlayerWalk) (wanted : me.wantedDir.isValid = true) :
    me.Ticked (me.tick frame).1 (me.tick frame).2 ∧ (me.tick frame).1.wantedDir.isValid = true := by
  have resting : me.Ticked { me with attackPending := me.attackPending && !frame.attackTimedOut } [] :=
    .stayed _ [] rfl rfl (List.forall_mem_nil _)
  unfold tick act
  split
  · exact ⟨resting, wanted⟩
  · cases state : me.footing.state with
    | move => exact ⟨resting, wanted⟩
    | skill =>
        dsimp only
        split
        · exact ⟨.woke _ state rfl, wanted⟩
        · exact ⟨resting, wanted⟩
    | idle =>
        obtain ⟨ticked, valid⟩ := tickIdle_ticked frame me wanted state
        exact ⟨ticked.same _ rfl rfl, valid⟩

end MyPlayerWalk

namespace ServerPacket

/-- The packets that end `_movePending`. -/
def answers (id : ObjectId) : ServerPacket → Bool
  | .move info | .turn info => info.objectId = id
  | _ => false

def steers (id : ObjectId) : ServerPacket → Bool
  | .attack attackerId _ _ => attackerId = id
  | pkt => pkt.answers id

end ServerPacket

/-- `footing` is what the server holds of the player. -/
structure Dialogue where
  me : MyPlayerWalk
  asked : List Request
  told : List ServerPacket
  footing : Footing

namespace Dialogue

variable (id : ObjectId)

def settled (l : Dialogue) : MyPlayerWalk := l.told.foldl (MyPlayerWalk.hear id) l.me

def steps (l : Dialogue) : List Request := l.asked.filter Request.isStep

def answers (l : Dialogue) : List ServerPacket := l.told.filter (ServerPacket.answers id)

/-- A `C_Turn` or its answer is on its way. -/
def TurnWaits (l : Dialogue) : Prop :=
  (∃ dir, .turn dir ∈ l.asked) ∨ ∃ info : ObjectInfo, info.objectId = id ∧ .turn info ∈ l.told

def Vain (footing : Footing) : Request → Prop
  | .turn dir => dir.isValid = false ∨ footing.dir = dir
  | .move dir => footing.state = .move ∨ dir.isValid = false
  | .attack _ _ => False

inductive Serves (footing : Footing) : Request → Footing → List ServerPacket → Prop where
  | unheeded (q : Request) (vain : Vain footing q) : Serves footing q footing []
  | turned (q : Request) (dir : Dir) (asks : q = .turn dir ∨ q = .move dir)
      (valid : dir.isValid = true) (other : footing.dir ≠ dir) (info : ObjectInfo)
      (named : info.objectId = id)
      (turns : info.footing = { footing with dir, state := .idle }) :
      Serves footing q info.footing [.turn info]
  | moved (info : ObjectInfo) (named : info.objectId = id) (dir : info.dir = footing.dir)
      (state : info.state ≠ .skill) : Serves footing (.move footing.dir) info.footing [.move info]
  | struck (dir : Dir) (weaponType : WeaponType) :
      Serves footing (.attack dir weaponType) footing [.attack id dir weaponType]

/-- The frames are those the condition allows; a player that moves comes to rest by itself. -/
inductive Step (allowed : Dialogue → Frame → Prop) (l : Dialogue) : Dialogue → Prop where
  | tick (frame : Frame) (allows : allowed l frame) :
      Step allowed l
        { l with me := (l.me.tick frame).1, asked := l.asked ++ (l.me.tick frame).2 }
  | hear (pkt : ServerPacket) (rest : List ServerPacket) (next : l.told = pkt :: rest) :
      Step allowed l { l with me := l.me.hear id pkt, told := rest }
  | serve (q : Request) (rest : List Request) (next : l.asked = q :: rest) (footing : Footing)
      (news : List ServerPacket) (serves : Serves id l.footing q footing news) :
      Step allowed l { l with asked := rest, told := l.told ++ news, footing }
  | arrive (moving : l.footing.state = .move) (info : ObjectInfo) (named : info.objectId = id)
      (rests : info.footing = { l.footing with state := .idle }) :
      Step allowed l { l with told := l.told ++ [.move info], footing := info.footing }

def Patient (l : Dialogue) (frame : Frame) : Prop :=
  (∃ dir weaponType, .attack dir weaponType ∈ (l.me.tick frame).2) → ¬ l.TurnWaits id

/-- The packet takes the client where the server had it, without a turn behind its back. -/
def Fits (me : MyPlayerWalk) : ServerPacket → Prop
  | .attack attackerId dir _ => attackerId = id → dir = me.footing.dir
  | .move info => info.objectId = id → info.dir = me.footing.dir ∧ info.state ≠ .skill
  | .turn info => info.objectId = id → info.state = .idle
  | _ => True

def Aligned : MyPlayerWalk → List ServerPacket → Prop
  | _, [] => True
  | me, pkt :: rest => Fits id me pkt ∧ Aligned (me.hear id pkt) rest

def Course : Dir → List Request → Prop
  | _, [] => True
  | dir, .attack aim _ :: rest => aim = dir ∧ Course dir rest
  | _, .turn dir :: rest => Course dir rest
  | dir, .move _ :: rest => Course dir rest

inductive Phase (l : Dialogue) : Prop where
  | rest (free : l.me.movePending = false) (unasked : l.steps = []) (untold : l.answers id = [])
  | arriving (free : l.me.movePending = false) (unasked : l.steps = []) (info : ObjectInfo)
      (untold : l.answers id = [.move info]) (moving : l.me.footing.state = .move)
      (idle : info.state = .idle)
  | asking (pending : l.me.movePending = true) (q : Request) (asks : l.steps = [q])
      (due : q.Due l.footing.dir) (untold : l.answers id = []) (idle : l.me.footing.state = .idle)
  | answered (pending : l.me.movePending = true) (unasked : l.steps = []) (pkt : ServerPacket)
      (told : l.answers id = [pkt])
  | ended (pending : l.me.movePending = true) (unasked : l.steps = []) (first last : ObjectInfo)
      (told : l.answers id = [.move first, .move last]) (moving : first.state = .move)
      (idle : last.state = .idle)

structure Sound (l : Dialogue) : Prop where
  valid : l.footing.dir.isValid = true
  wanted : l.me.wantedDir.isValid = true
  awake : l.me.footing.state ≠ .skill
  agrees : (l.settled id).footing = l.footing
  aligned : Aligned id l.me l.told
  course : Course l.footing.dir l.asked
  phase : l.Phase id

variable {id}

theorem hear_footing {me me' : MyPlayerWalk} (same : me'.footing = me.footing) (pkt : ServerPacket) :
    (me'.hear id pkt).footing = (me.hear id pkt).footing := by
  unfold MyPlayerWalk.hear
  cases pkt with
  | move info => dsimp only; split; exacts [rfl, same]
  | turn info => dsimp only; split; exacts [by rw [same], same]
  | attack attackerId dir weaponType => dsimp only; split; exacts [by rw [same], same]
  | _ => exact same

theorem foldl_hear_footing {me me' : MyPlayerWalk} (same : me'.footing = me.footing)
    (told : List ServerPacket) :
    (told.foldl (MyPlayerWalk.hear id) me').footing = (told.foldl (MyPlayerWalk.hear id) me).footing := by
  induction told generalizing me me' with
  | nil => exact same
  | cons pkt told ih => exact ih (hear_footing same pkt)

theorem aligned_congr {me me' : MyPlayerWalk} (same : me'.footing = me.footing)
    (told : List ServerPacket) (aligned : Aligned id me told) : Aligned id me' told := by
  induction told generalizing me me' with
  | nil => trivial
  | cons pkt told ih =>
      obtain ⟨fits, rest⟩ := aligned
      refine ⟨?_, ih (hear_footing same pkt) rest⟩
      unfold Fits at fits ⊢
      rwa [same]

theorem aligned_append (me : MyPlayerWalk) (front back : List ServerPacket)
    (first : Aligned id me front) (second : Aligned id (front.foldl (MyPlayerWalk.hear id) me) back) :
    Aligned id me (front ++ back) := by
  induction front generalizing me with
  | nil => exact second
  | cons pkt front ih => exact ⟨first.1, ih _ first.2 second⟩

theorem hear_pending (me : MyPlayerWalk) {pkt : ServerPacket} (other : pkt.answers id = false) :
    (me.hear id pkt).movePending = me.movePending := by
  unfold MyPlayerWalk.hear
  cases pkt with
  | move info =>
      have foreign : info.objectId ≠ id := by simpa [ServerPacket.answers] using other
      dsimp only
      rw [if_neg foreign]
  | turn info =>
      have foreign : info.objectId ≠ id := by simpa [ServerPacket.answers] using other
      dsimp only
      rw [if_neg foreign]
  | attack attackerId dir weaponType => dsimp only; split <;> rfl
  | _ => rfl

theorem hear_other {me : MyPlayerWalk} {pkt : ServerPacket} (fits : Fits id me pkt)
    (other : pkt.answers id = false) :
    (me.hear id pkt).footing = me.footing ∧ (me.hear id pkt).movePending = me.movePending := by
  refine ⟨?_, hear_pending me other⟩
  unfold MyPlayerWalk.hear
  cases pkt with
  | move info =>
      have foreign : info.objectId ≠ id := by simpa [ServerPacket.answers] using other
      dsimp only
      rw [if_neg foreign]
  | turn info =>
      have foreign : info.objectId ≠ id := by simpa [ServerPacket.answers] using other
      dsimp only
      rw [if_neg foreign]
  | attack attackerId dir weaponType =>
      dsimp only
      split
      case isTrue own =>
        have aimed : dir = me.footing.dir := fits own
        rw [aimed]
      case isFalse => rfl
  | _ => rfl

def stateTold (state : ObjectState) : ServerPacket → ObjectState
  | .move info | .turn info => info.state
  | _ => state

theorem hear_answer (me : MyPlayerWalk) {pkt : ServerPacket} (answer : pkt.answers id = true) :
    (me.hear id pkt).footing.state = stateTold me.footing.state pkt ∧
      (me.hear id pkt).movePending = false := by
  cases pkt with
  | move info =>
      have own : info.objectId = id := by simpa [ServerPacket.answers] using answer
      unfold MyPlayerWalk.hear
      dsimp only
      rw [if_pos own]
      refine ⟨rfl, ?_⟩
      unfold MyPlayerWalk.onServerMoveResult
      dsimp only
      split <;> rfl
  | turn info =>
      have own : info.objectId = id := by simpa [ServerPacket.answers] using answer
      unfold MyPlayerWalk.hear
      dsimp only
      rw [if_pos own]
      exact ⟨rfl, rfl⟩
  | _ => cases answer

theorem hear_wanted (me : MyPlayerWalk) (pkt : ServerPacket) :
    (me.hear id pkt).wantedDir = me.wantedDir := by
  unfold MyPlayerWalk.hear MyPlayerWalk.onServerMoveResult
  cases pkt with
  | move info =>
      dsimp only
      split
      · dsimp only
        split <;> rfl
      · rfl
  | turn info => dsimp only; split <;> rfl
  | attack attackerId dir weaponType => dsimp only; split <;> rfl
  | _ => rfl

theorem settled_told (told : List ServerPacket) (me : MyPlayerWalk) (aligned : Aligned id me told) :
    (told.foldl (MyPlayerWalk.hear id) me).footing.state =
        (told.filter (ServerPacket.answers id)).foldl stateTold me.footing.state ∧
      (told.foldl (MyPlayerWalk.hear id) me).movePending =
        (me.movePending && (told.filter (ServerPacket.answers id)).isEmpty) ∧
      ((told.filter (ServerPacket.answers id)) = [] →
        (told.foldl (MyPlayerWalk.hear id) me).footing = me.footing) := by
  induction told generalizing me with
  | nil => exact ⟨rfl, by simp, fun _ => rfl⟩
  | cons pkt told ih =>
      obtain ⟨fits, rest⟩ := aligned
      obtain ⟨state, pending, same⟩ := ih _ rest
      rw [List.foldl_cons]
      cases answer : pkt.answers id with
      | false =>
          obtain ⟨footing, waits⟩ := hear_other fits answer
          rw [List.filter_cons_of_neg (by simp [answer]), state, pending, footing, waits]
          exact ⟨rfl, rfl, fun silent => (same silent).trans footing⟩
      | true =>
          obtain ⟨tells, ends⟩ := hear_answer me answer
          rw [List.filter_cons_of_pos answer, state, pending, tells, ends]
          exact ⟨rfl, by simp, fun silent => absurd silent (List.cons_ne_nil _ _)⟩

theorem aligned_turn (told : List ServerPacket) (me : MyPlayerWalk) (aligned : Aligned id me told)
    (info : ObjectInfo) (listed : .turn info ∈ told) (own : info.objectId = id) :
    info.state = .idle := by
  induction told generalizing me with
  | nil => cases listed
  | cons pkt told ih =>
      rcases List.mem_cons.mp listed with rfl | later
      · exact aligned.1 own
      · exact ih _ aligned.2 later

theorem settled_dir (told : List ServerPacket) (me : MyPlayerWalk) (aligned : Aligned id me told)
    (straight : ∀ info : ObjectInfo, info.objectId = id → .turn info ∉ told) :
    (told.foldl (MyPlayerWalk.hear id) me).footing.dir = me.footing.dir := by
  induction told generalizing me with
  | nil => rfl
  | cons pkt told ih =>
      obtain ⟨fits, rest⟩ := aligned
      have later := ih _ rest fun info named listed =>
        straight info named (List.mem_cons_of_mem _ listed)
      rw [List.foldl_cons, later]
      cases answer : pkt.answers id with
      | false => rw [(hear_other fits answer).1]
      | true =>
          cases pkt with
          | move info =>
              have own : info.objectId = id := by simpa [ServerPacket.answers] using answer
              unfold MyPlayerWalk.hear
              dsimp only
              rw [if_pos own]
              exact (fits own).1
          | turn info =>
              have own : info.objectId = id := by simpa [ServerPacket.answers] using answer
              exact absurd List.mem_cons_self (straight info own)
          | _ => cases answer

theorem course_append (dir : Dir) (front back : List Request) (first : Course dir front)
    (straight : ∀ other, .turn other ∉ front) (second : Course dir back) :
    Course dir (front ++ back) := by
  induction front with
  | nil => exact second
  | cons q front ih =>
      have later := ih
      cases q with
      | turn other => exact absurd List.mem_cons_self (straight other)
      | move other => exact ih first fun other listed => straight other (List.mem_cons_of_mem _ listed)
      | attack aim weaponType =>
          exact ⟨first.1, ih first.2 fun other listed => straight other (List.mem_cons_of_mem _ listed)⟩

theorem course_aimed (dir : Dir) (strikes : List Request)
    (aimed : ∀ q ∈ strikes, ∃ weaponType, q = .attack dir weaponType) : Course dir strikes := by
  induction strikes with
  | nil => trivial
  | cons q strikes ih =>
      obtain ⟨weaponType, rfl⟩ := aimed q List.mem_cons_self
      exact ⟨rfl, ih fun q listed => aimed q (List.mem_cons_of_mem _ listed)⟩

theorem steps_aimed {dir : Dir} {strikes : List Request}
    (aimed : ∀ q ∈ strikes, ∃ weaponType, q = .attack dir weaponType) :
    strikes.filter Request.isStep = [] := by
  apply List.filter_eq_nil_iff.mpr
  intro q listed
  obtain ⟨weaponType, rfl⟩ := aimed q listed
  simp [Request.isStep]

namespace Sound

variable {l : Dialogue}

theorem looks (sound : l.Sound id)
    (straight : ∀ info : ObjectInfo, info.objectId = id → .turn info ∉ l.told) :
    l.footing.dir = l.me.footing.dir := by
  rw [← sound.agrees]
  exact settled_dir l.told l.me sound.aligned straight

theorem untold_footing (sound : l.Sound id) (untold : l.answers id = []) :
    l.footing = l.me.footing :=
  sound.agrees.symm.trans ((settled_told l.told l.me sound.aligned).2.2 untold)

theorem strikes (sound : l.Sound id) (me : MyPlayerWalk) (footing : me.footing = l.me.footing)
    (pending : me.movePending = l.me.movePending) (wanted : me.wantedDir.isValid = true)
    (strikes : List Request)
    (aimed : ∀ q ∈ strikes, ∃ weaponType, q = .attack l.me.footing.dir weaponType)
    (patient : strikes ≠ [] → ¬ l.TurnWaits id) :
    Sound id { l with me, asked := l.asked ++ strikes } where
  valid := sound.valid
  wanted := wanted
  awake := by
    rw [footing]
    exact sound.awake
  agrees := (foldl_hear_footing footing l.told).trans sound.agrees
  aligned := aligned_congr footing l.told sound.aligned
  course := by
    by_cases none : strikes = []
    · rw [none, List.append_nil]
      exact sound.course
    · have waits := patient none
      apply course_append _ _ _ sound.course
      · exact fun other listed => waits (.inl ⟨other, listed⟩)
      · rw [sound.looks fun info named listed => waits (.inr ⟨info, named, listed⟩)]
        exact course_aimed _ _ aimed
  phase := by
    have steps : steps { l with me, asked := l.asked ++ strikes } = l.steps := by
      unfold Dialogue.steps
      rw [List.filter_append, steps_aimed aimed, List.append_nil]
    cases sound.phase with
    | rest free unasked untold => exact .rest (pending.trans free) (steps.trans unasked) untold
    | arriving free unasked info untold moving idle =>
        exact .arriving (pending.trans free) (steps.trans unasked) info untold (by rw [footing]; exact moving) idle
    | asking waits q asks due untold idle =>
        exact .asking (pending.trans waits) q (steps.trans asks) due untold (by rw [footing]; exact idle)
    | answered waits unasked pkt told => exact .answered (pending.trans waits) (steps.trans unasked) pkt told
    | ended waits unasked first last told moving idle =>
        exact .ended (pending.trans waits) (steps.trans unasked) first last told moving idle

theorem tick (sound : l.Sound id) (frame : Frame) (patient : l.Patient id frame) :
    Sound id { l with me := (l.me.tick frame).1, asked := l.asked ++ (l.me.tick frame).2 } := by
  obtain ⟨ticked, wanted⟩ := MyPlayerWalk.tick_ticked frame l.me sound.wanted
  unfold Patient at patient
  generalize (l.me.tick frame).1 = me, (l.me.tick frame).2 = asked at ticked wanted patient ⊢
  have waits (strikes : List Request) (some_strike : strikes ≠ []) (listed : ∀ q ∈ strikes, q ∈ asked)
      (aimed : ∀ q ∈ strikes, ∃ weaponType, q = .attack l.me.footing.dir weaponType) :
      ¬ l.TurnWaits id := by
    obtain ⟨q, member⟩ := List.exists_mem_of_ne_nil strikes some_strike
    obtain ⟨weaponType, rfl⟩ := aimed q member
    exact patient ⟨_, _, listed _ member⟩
  cases ticked with
  | woke asleep pending => exact absurd asleep sound.awake
  | stayed strikes footing pending aimed =>
      exact sound.strikes _ footing pending wanted _ (fun q listed => (aimed q listed).2)
        fun nonempty => waits _ nonempty (fun _ listed => listed) fun q listed => (aimed q listed).2
  | stepped strikes q footing idle free pending aimed due =>
      have struck := sound.strikes l.me rfl rfl sound.wanted strikes aimed fun nonempty =>
        waits strikes nonempty (fun _ listed => List.mem_append_left _ listed) aimed
      have unasked : l.steps = [] := by
        cases sound.phase with
        | rest _ unasked _ => exact unasked
        | arriving _ unasked => exact unasked
        | asking waits => exact absurd free (by rw [waits]; decide)
        | answered waits => exact absurd free (by rw [waits]; decide)
        | ended waits => exact absurd free (by rw [waits]; decide)
      have untold : l.answers id = [] := by
        cases sound.phase with
        | rest _ _ untold => exact untold
        | arriving _ _ _ _ moving => exact absurd idle (by rw [moving]; decide)
        | asking waits => exact absurd free (by rw [waits]; decide)
        | answered waits => exact absurd free (by rw [waits]; decide)
        | ended waits => exact absurd free (by rw [waits]; decide)
      have same := sound.untold_footing untold
      have straight : ∀ other, .turn other ∉ l.asked ++ strikes := by
        intro other listed
        have kept := List.mem_filter.mpr ⟨listed, (rfl : (Request.turn other).isStep = true)⟩
        rw [List.filter_append, steps_aimed aimed, List.append_nil] at kept
        unfold Dialogue.steps at unasked
        rw [unasked] at kept
        cases kept
      exact
        { valid := sound.valid
          wanted
          awake := by
            rw [footing]
            exact sound.awake
          agrees := (foldl_hear_footing footing l.told).trans sound.agrees
          aligned := aligned_congr footing l.told sound.aligned
          course := by
            dsimp only
            rw [← List.append_assoc]
            apply course_append _ _ _ struck.course straight
            rcases due with rfl | ⟨other, rfl, -, -⟩ <;> trivial
          phase := by
            refine .asking pending q ?_ (by rw [same]; exact due) untold (by rw [footing]; exact idle)
            unfold Dialogue.steps at unasked ⊢
            dsimp only
            rw [List.filter_append, unasked, List.filter_append, steps_aimed aimed, List.nil_append,
              List.nil_append, List.filter_cons_of_pos due.isStep, List.filter_nil] }

theorem hear (sound : l.Sound id) (pkt : ServerPacket) (rest : List ServerPacket)
    (next : l.told = pkt :: rest) : Sound id { l with me := l.me.hear id pkt, told := rest } := by
  have aligned := sound.aligned
  have agrees := sound.agrees
  unfold settled at agrees
  rw [next] at aligned agrees
  have filtered (answer : pkt.answers id = true) :
      l.answers id = pkt :: rest.filter (ServerPacket.answers id) := by
    unfold Dialogue.answers
    rw [next, List.filter_cons_of_pos answer]
  have passed (other : pkt.answers id = false) :
      rest.filter (ServerPacket.answers id) = l.answers id := by
    unfold Dialogue.answers
    rw [next, List.filter_cons_of_neg (by simp [other])]
  refine
    { valid := sound.valid
      wanted := by
        dsimp only
        rw [hear_wanted]
        exact sound.wanted
      awake := ?_
      agrees
      aligned := aligned.2
      course := sound.course
      phase := ?_ }
  · dsimp only
    cases answer : pkt.answers id with
    | false =>
        rw [(hear_other aligned.1 answer).1]
        exact sound.awake
    | true =>
        rw [(hear_answer _ answer).1]
        cases pkt with
        | move info => exact (aligned.1 (by simpa [ServerPacket.answers] using answer)).2
        | turn info =>
            have idle : info.state = .idle := aligned.1 (by simpa [ServerPacket.answers] using answer)
            exact fun asleep => absurd (idle.symm.trans asleep) (by decide)
        | _ => cases answer
  · cases answer : pkt.answers id with
    | false =>
        obtain ⟨footing, pending⟩ := hear_other aligned.1 answer
        have same := passed answer
        cases sound.phase with
        | rest free unasked untold => exact .rest (pending.trans free) unasked (same.trans untold)
        | arriving free unasked info untold moving idle =>
            exact .arriving (pending.trans free) unasked info (same.trans untold)
              (by dsimp only; rw [footing]; exact moving) idle
        | asking waits q asks due untold idle =>
            exact .asking (pending.trans waits) q asks due (same.trans untold)
              (by dsimp only; rw [footing]; exact idle)
        | answered waits unasked pkt told =>
            exact .answered (pending.trans waits) unasked pkt (same.trans told)
        | ended waits unasked first last told moving idle =>
            exact .ended (pending.trans waits) unasked first last (same.trans told) moving idle
    | true =>
        have whole := filtered answer
        obtain ⟨state, ends⟩ := hear_answer l.me answer
        cases sound.phase with
        | rest free unasked untold => exact absurd (whole.symm.trans untold) (List.cons_ne_nil _ _)
        | arriving free unasked info untold moving idle =>
            obtain ⟨-, last⟩ := List.cons.inj (whole.symm.trans untold)
            exact .rest ends unasked last
        | asking waits q asks due untold idle =>
            exact absurd (whole.symm.trans untold) (List.cons_ne_nil _ _)
        | answered waits unasked pkt' told =>
            obtain ⟨-, last⟩ := List.cons.inj (whole.symm.trans told)
            exact .rest ends unasked last
        | ended waits unasked first last told moving idle =>
            obtain ⟨rfl, later⟩ := List.cons.inj (whole.symm.trans told)
            exact .arriving ends unasked last later (state.trans moving) idle

theorem told (sound : l.Sound id) (pkt : ServerPacket) (asked : List Request) (footing : Footing)
    (valid : footing.dir.isValid = true) (course : Course footing.dir asked)
    (fits : Fits id (l.settled id) pkt) (agrees : ((l.settled id).hear id pkt).footing = footing)
    (phase : Phase id { l with asked, told := l.told ++ [pkt], footing }) :
    Sound id { l with asked, told := l.told ++ [pkt], footing } where
  valid := valid
  wanted := sound.wanted
  awake := sound.awake
  agrees := by
    unfold Dialogue.settled
    rw [List.foldl_append]
    exact agrees
  aligned := aligned_append l.me l.told [pkt] sound.aligned ⟨fits, trivial⟩
  course := course
  phase := phase

theorem answers_told (l : Dialogue) (asked : List Request) (footing : Footing) (pkt : ServerPacket)
    (answer : pkt.answers id = true) :
    answers id { l with asked, told := l.told ++ [pkt], footing } = l.answers id ++ [pkt] := by
  unfold Dialogue.answers
  rw [List.filter_append, List.filter_cons_of_pos answer, List.filter_nil]

theorem steps_strike {rest : List Request} {dir : Dir} {weaponType : WeaponType}
    (next : l.asked = .attack dir weaponType :: rest) (told : List ServerPacket)
    (footing : Footing) : steps { l with asked := rest, told, footing } = l.steps := by
  unfold Dialogue.steps
  rw [next, List.filter_cons_of_neg (by simp [Request.isStep])]

theorem struck (sound : l.Sound id) (rest : List Request) (dir : Dir) (weaponType : WeaponType)
    (next : l.asked = .attack dir weaponType :: rest) :
    Sound id { l with asked := rest, told := l.told ++ [.attack id dir weaponType] } := by
  have course := sound.course
  rw [next] at course
  have looks : dir = (l.settled id).footing.dir := by rw [sound.agrees]; exact course.1
  have fits : Fits id (l.settled id) (.attack id dir weaponType) := fun _ => looks
  apply sound.told _ rest l.footing sound.valid course.2 fits
  · rw [(hear_other fits rfl).1]
    exact sound.agrees
  · have same := steps_strike next (l.told ++ [.attack id dir weaponType]) l.footing
    have silent : answers id
        { l with asked := rest, told := l.told ++ [.attack id dir weaponType] } = l.answers id := by
      unfold Dialogue.answers
      rw [List.filter_append, List.filter_cons_of_neg (by simp [ServerPacket.answers]),
        List.filter_nil, List.append_nil]
    cases sound.phase with
    | rest free unasked untold => exact .rest free (same.trans unasked) (silent.trans untold)
    | arriving free unasked info untold moving idle =>
        exact .arriving free (same.trans unasked) info (silent.trans untold) moving idle
    | asking waits q asks due untold idle =>
        exact .asking waits q (same.trans asks) due (silent.trans untold) idle
    | answered waits unasked pkt told =>
        exact .answered waits (same.trans unasked) pkt (silent.trans told)
    | ended waits unasked first last told moving idle =>
        exact .ended waits (same.trans unasked) first last (silent.trans told) moving idle

theorem asking_head (sound : l.Sound id) (q : Request) (rest : List Request)
    (next : l.asked = q :: rest) (isStep : q.isStep = true) :
    l.me.movePending = true ∧ q.Due l.footing.dir ∧ l.answers id = [] ∧
      l.footing.state = .idle ∧ rest.filter Request.isStep = [] := by
  have steps : l.steps = q :: rest.filter Request.isStep := by
    unfold Dialogue.steps
    rw [next, List.filter_cons_of_pos isStep]
  cases sound.phase with
  | asking waits q' asks due untold idle =>
      obtain ⟨rfl, last⟩ := List.cons.inj (steps.symm.trans asks)
      exact ⟨waits, due, untold, by rw [sound.untold_footing untold]; exact idle, last⟩
  | rest _ unasked _ => exact absurd (steps.symm.trans unasked) (List.cons_ne_nil _ _)
  | arriving _ unasked => exact absurd (steps.symm.trans unasked) (List.cons_ne_nil _ _)
  | answered _ unasked => exact absurd (steps.symm.trans unasked) (List.cons_ne_nil _ _)
  | ended _ unasked => exact absurd (steps.symm.trans unasked) (List.cons_ne_nil _ _)

theorem serve (sound : l.Sound id) (q : Request) (rest : List Request) (next : l.asked = q :: rest)
    (footing : Footing) (news : List ServerPacket) (serves : Serves id l.footing q footing news) :
    Sound id { l with asked := rest, told := l.told ++ news, footing } := by
  have course := sound.course
  rw [next] at course
  cases serves with
  | struck dir weaponType => exact sound.struck rest dir weaponType next
  | unheeded _ vain =>
      cases q with
      | attack _ _ => exact vain.elim
      | turn dir =>
          obtain ⟨-, due, -, -, -⟩ := sound.asking_head _ rest next rfl
          rcases due with move | ⟨other, turn, valid, apart⟩
          · cases move
          · cases turn
            rcases vain with invalid | same
            · exact absurd valid (by rw [invalid]; decide)
            · exact absurd same.symm apart
      | move dir =>
          obtain ⟨-, due, -, idle, -⟩ := sound.asking_head _ rest next rfl
          rcases due with move | ⟨other, turn, -, -⟩
          · cases move
            rcases vain with moving | invalid
            · exact absurd (idle.symm.trans moving) (by decide)
            · exact absurd sound.valid (by rw [invalid]; decide)
          · cases turn
  | turned _ dir asks valid other info named turns =>
      have isStep : q.isStep = true := by
        rcases asks with rfl | rfl <;> rfl
      obtain ⟨waits, due, untold, idle, unasked⟩ := sound.asking_head q rest next isStep
      have turn : q = .turn dir := by
        rcases asks with turn | rfl
        · exact turn
        · rcases due with move | ⟨_, turn, -, -⟩
          · exact absurd (Request.move.inj move).symm other
          · cases turn
      subst turn
      have answer : (ServerPacket.turn info).answers id = true := by
        simp [ServerPacket.answers, named]
      have looks : info.footing.dir = dir := by rw [turns]
      have rests : info.footing.state = .idle := by rw [turns]
      apply sound.told (.turn info) rest info.footing (by rw [looks]; exact valid)
        (by rw [looks]; exact course) fun _ => rests
      · have cell : info.footing.cellPos = (l.settled id).footing.cellPos := by
          rw [sound.agrees, turns]
        unfold MyPlayerWalk.hear
        dsimp only
        rw [if_pos named]
        dsimp only
        rw [← cell]
        rfl
      · exact .answered waits unasked _ (by rw [answers_told l _ _ _ answer, untold]; rfl)
  | moved info named dir state =>
      obtain ⟨waits, due, untold, idle, unasked⟩ := sound.asking_head _ rest next rfl
      have answer : (ServerPacket.move info).answers id = true := by
        simp [ServerPacket.answers, named]
      have looks : info.footing.dir = l.footing.dir := dir
      apply sound.told _ rest info.footing (by rw [looks]; exact sound.valid)
        (by rw [looks]; exact course)
      · exact fun _ => ⟨by rw [sound.agrees]; exact dir, state⟩
      · unfold MyPlayerWalk.hear
        dsimp only
        rw [if_pos named]
      · exact .answered waits unasked _ (by rw [answers_told l _ _ _ answer, untold]; rfl)

theorem state_told (sound : l.Sound id) :
    (l.answers id).foldl stateTold l.me.footing.state = l.footing.state := by
  rw [← sound.agrees]
  exact (settled_told l.told l.me sound.aligned).1.symm

theorem arrive (sound : l.Sound id) (moving : l.footing.state = .move) (info : ObjectInfo)
    (named : info.objectId = id) (rests : info.footing = { l.footing with state := .idle }) :
    Sound id { l with told := l.told ++ [.move info], footing := info.footing } := by
  have state := sound.state_told
  have answer : (ServerPacket.move info).answers id = true := by
    simp [ServerPacket.answers, named]
  have more := answers_told l l.asked info.footing _ answer
  have looks : info.footing.dir = l.footing.dir := by rw [rests]
  have idle : info.footing.state = .idle := by rw [rests]
  have idle_info : info.state = .idle := idle
  apply sound.told _ l.asked info.footing (by rw [looks]; exact sound.valid)
    (by rw [looks]; exact sound.course)
  · refine fun _ => ⟨by rw [sound.agrees]; exact looks, ?_⟩
    rw [idle_info]
    decide
  · unfold MyPlayerWalk.hear
    dsimp only
    rw [if_pos named]
  · cases sound.phase with
    | rest free unasked untold =>
        have moves : l.me.footing.state = .move := by rw [← sound.untold_footing untold]; exact moving
        exact .arriving free unasked info (by rw [more, untold]; rfl) moves idle
    | arriving _ _ last untold _ still =>
        rw [untold] at state
        exact absurd (still.symm.trans (state.trans moving)) (by decide)
    | asking _ _ _ _ untold still =>
        rw [untold] at state
        exact absurd (still.symm.trans (state.trans moving)) (by decide)
    | ended _ _ first last told _ still =>
        rw [told] at state
        exact absurd (still.symm.trans (state.trans moving)) (by decide)
    | answered waits unasked pkt told =>
        have listed : pkt ∈ l.answers id := by rw [told]; exact List.mem_singleton_self pkt
        have own := (List.mem_filter.mp listed).2
        rw [told] at state
        cases pkt with
        | move first =>
            exact .ended waits unasked first info (by rw [more, told]; rfl) (state.trans moving) idle
        | turn first =>
            have turns : first.state = .idle := by
              apply aligned_turn l.told l.me sound.aligned first (List.mem_filter.mp listed).1
              simpa [ServerPacket.answers] using own
            exact absurd (turns.symm.trans (state.trans moving)) (by decide)
        | _ => cases own

theorem step (sound : l.Sound id) {next : Dialogue} (stepped : l.Step id (Patient id) next) :
    next.Sound id := by
  cases stepped with
  | tick frame patient => exact sound.tick frame patient
  | hear pkt rest told => exact sound.hear pkt rest told
  | serve q rest asked footing news serves => exact sound.serve q rest asked footing news serves
  | arrive moving info named rests => exact sound.arrive moving info named rests

/-- What the client will hold is what the server holds, and it goes on waiting exactly when its
one step is not served yet. -/
theorem settles (sound : l.Sound id) :
    (l.settled id).footing = l.footing ∧
      l.steps.length = if (l.settled id).movePending then 1 else 0 := by
  refine ⟨sound.agrees, ?_⟩
  have pending : (l.settled id).movePending = (l.me.movePending && (l.answers id).isEmpty) :=
    (settled_told l.told l.me sound.aligned).2.1
  rw [pending]
  cases sound.phase with
  | rest free unasked untold => simp [free, unasked]
  | arriving free unasked info untold moving idle => simp [free, unasked]
  | asking waits q asks due untold idle => simp [waits, asks, untold]
  | answered waits unasked pkt told => simp [unasked, told]
  | ended waits unasked first last told moving idle => simp [unasked, told]

end Sound

structure Stuck (id : ObjectId) (l : Dialogue) : Prop where
  wanted : l.me.wantedDir.isValid = true
  pending : l.me.movePending = true
  unasked : l.steps = []
  untold : l.answers id = []
  rests : l.footing.state ≠ .move

theorem Stuck.step {allowed : Dialogue → Frame → Prop} {l next : Dialogue} (stuck : l.Stuck id)
    (stepped : l.Step id allowed next) : next.Stuck id ∧ next.footing = l.footing := by
  obtain ⟨valid, pending, unasked, untold, rests⟩ := stuck
  cases stepped with
  | tick frame _ =>
      obtain ⟨ticked, wanted⟩ := MyPlayerWalk.tick_ticked frame l.me valid
      generalize (l.me.tick frame).1 = me, (l.me.tick frame).2 = asked at ticked wanted ⊢
      have kept (strikes : List Request) (waits : me.movePending = l.me.movePending)
          (aimed : ∀ q ∈ strikes, ∃ weaponType, q = .attack l.me.footing.dir weaponType) :
          Stuck id { l with me, asked := l.asked ++ strikes } := by
        refine ⟨wanted, waits.trans pending, ?_, untold, rests⟩
        unfold Dialogue.steps at unasked ⊢
        rw [List.filter_append, unasked, steps_aimed aimed, List.append_nil]
      cases ticked with
      | woke asleep waits => exact ⟨kept [] waits (List.forall_mem_nil _), rfl⟩
      | stayed strikes footing waits aimed =>
          exact ⟨kept _ waits fun q listed => (aimed q listed).2, rfl⟩
      | stepped strikes q footing idle free => exact absurd pending (by rw [free]; decide)
  | hear pkt rest told =>
      have none_left := untold
      unfold Dialogue.answers at none_left
      rw [told, List.filter_eq_nil_iff] at none_left
      have other : pkt.answers id = false :=
        eq_false_of_ne_true (none_left pkt List.mem_cons_self)
      refine ⟨⟨?_, (hear_pending l.me other).trans pending, unasked, ?_, rests⟩, rfl⟩
      · dsimp only
        rw [hear_wanted]
        exact valid
      · exact List.filter_eq_nil_iff.mpr fun pkt listed => none_left pkt (List.mem_cons_of_mem _ listed)
  | serve q rest asked footing news serves =>
      have none_left := unasked
      unfold Dialogue.steps at none_left
      rw [asked, List.filter_eq_nil_iff] at none_left
      have later : rest.filter Request.isStep = [] :=
        List.filter_eq_nil_iff.mpr fun q listed => none_left q (List.mem_cons_of_mem _ listed)
      cases q with
      | turn dir => exact absurd rfl (none_left _ List.mem_cons_self)
      | move dir => exact absurd rfl (none_left _ List.mem_cons_self)
      | attack dir weaponType =>
          cases serves with
          | unheeded _ vain => exact vain.elim
          | turned _ _ asks =>
              rcases asks with turn | move
              · cases turn
              · cases move
          | struck =>
              refine ⟨⟨valid, pending, later, ?_, rests⟩, rfl⟩
              unfold Dialogue.answers at untold ⊢
              rw [List.filter_append, untold, List.nil_append]
              exact List.filter_cons_of_neg (by simp [ServerPacket.answers])
  | arrive moving => exact absurd moving rests

end Dialogue

end ZeldaServer
