import Mathlib.Data.List.Range
import ZeldaServer.World.Beats

/-! Which steps the calls of `GameRoom::Update` take of a room, and when. -/

namespace ZeldaServer

namespace Ticks

/-- The sum of a `uint64` and `kTickMs`. -/
def after (time : Nat) : Nat := (time + kTickMs) % 2 ^ 64

/-- `if (_nextTick == 0) _nextTick = now + kTickMs;` -/
def firstTick (now nextTick : Nat) : Nat := if nextTick = 0 then after now else nextTick

/-- The loop over `Step(_nextTick)`, with the steps left to `kMaxCatchUp`: the times of the steps,
and `_nextTick`. -/
def catchUp (now : Nat) : Nat → Nat → List Nat × Nat
  | 0, nextTick => ([], nextTick)
  | left + 1, nextTick =>
      if nextTick ≤ now then
        let rest := catchUp now left (after nextTick)
        (nextTick :: rest.1, rest.2)
      else ([], nextTick)

/-- A call of `Update`, after its jobs. -/
structure Call where
  now : Nat
  steps : List Nat
  /-- The loop ended for its limit, with a step still due. -/
  limited : Bool
  nextTick : Nat
  deriving DecidableEq

def update (now nextTick : Nat) : Call :=
  let ran := catchUp now kMaxCatchUp (firstTick now nextTick)
  { now
    steps := ran.1
    limited := ran.2 ≤ now
    nextTick := if ran.2 ≤ now then after now else ran.2 }

def run : Nat → List Nat → List Call
  | _, [] => []
  | nextTick, now :: nows =>
      let call := update now nextTick
      call :: run call.nextTick nows

def times (nextTick : Nat) (nows : List Nat) : List Nat :=
  (run nextTick nows).flatMap Call.steps

theorem after_eq (time : Nat) (small : time + kTickMs < 2 ^ 64) : after time = time + kTickMs :=
  Nat.mod_eq_of_lt small

theorem catchUp_spec (now left nextTick : Nat) (small : now + kTickMs < 2 ^ 64) :
    ∃ count ≤ left,
      catchUp now left nextTick =
          (List.range' nextTick count kTickMs, nextTick + kTickMs * count) ∧
        (∀ time ∈ List.range' nextTick count kTickMs, time ≤ now) ∧
        (count < left → now < nextTick + kTickMs * count) := by
  induction left generalizing nextTick with
  | zero => exact ⟨0, Nat.le_refl _, rfl, by simp, by simp⟩
  | succ left ih =>
      by_cases due : nextTick ≤ now
      · obtain ⟨count, le, ran, early, ahead⟩ := ih (nextTick + kTickMs)
        refine ⟨count + 1, Nat.succ_le_succ le, ?_, ?_, ?_⟩
        · simp only [catchUp, due, if_true, after_eq nextTick (by omega), ran, List.range'_succ]
          congr 1
          rw [Nat.mul_succ]
          omega
        · intro time member
          rw [List.range'_succ, List.mem_cons] at member
          rcases member with rfl | later
          · exact due
          · exact early time later
        · intro less
          have := ahead (by omega)
          rw [Nat.mul_succ]
          omega
      · exact ⟨0, Nat.zero_le _, by simp [catchUp, due], by simp, fun _ => by simpa using due⟩

structure Scheduled (now nextTick : Nat) (call : Call) : Prop where
  now_eq : call.now = now
  count : call.steps.length ≤ kMaxCatchUp
  even : call.steps = List.range' nextTick call.steps.length kTickMs
  early : ∀ time ∈ call.steps, time ≤ now
  ahead : now < call.nextTick
  near : call.nextTick ≤ max nextTick (now + kTickMs)
  late : nextTick + kTickMs * call.steps.length ≤ call.nextTick
  exact_of_unlimited : call.limited = false →
    call.nextTick = nextTick + kTickMs * call.steps.length

theorem update_scheduled (now nextTick : Nat) (small : now + kTickMs < 2 ^ 64)
    (set : nextTick ≠ 0) : Scheduled now nextTick (update now nextTick) := by
  obtain ⟨count, le, ran, early, ahead⟩ := catchUp_spec now kMaxCatchUp nextTick small
  have length : (List.range' nextTick count kTickMs).length = count := List.length_range'
  have last : 0 < count → nextTick + kTickMs * count ≤ now + kTickMs := by
    intro some
    have := early (nextTick + kTickMs * (count - 1))
      (List.mem_range'.mpr ⟨count - 1, by omega, rfl⟩)
    have split : kTickMs * count = kTickMs * (count - 1) + kTickMs := by
      rw [← Nat.mul_succ]
      congr 1
      omega
    omega
  have near : nextTick + kTickMs * count ≤ max nextTick (now + kTickMs) := by
    rcases Nat.eq_zero_or_pos count with none | some
    · subst none
      simp
    · exact (last some).trans (Nat.le_max_right _ _)
  have tick : 0 < kTickMs := by decide
  simp only [update, firstTick, set, if_false, ran]
  by_cases behind : nextTick + kTickMs * count ≤ now
  · simp only [behind, decide_true, if_true, after_eq now small]
    constructor
    · rfl
    · exact length.trans_le le
    · rw [length]
    · exact early
    · exact Nat.lt_add_of_pos_right tick
    · exact Nat.le_max_right _ _
    · rw [length]
      exact behind.trans (Nat.le_add_right _ _)
    · exact fun unlimited => nomatch unlimited
  · simp only [behind, decide_false, if_false]
    constructor
    · rfl
    · exact length.trans_le le
    · rw [length]
    · exact early
    · exact Nat.lt_of_not_le behind
    · exact near
    · rw [length]
    · intro _
      rw [length]

theorem run_first (now : Nat) (nows : List Nat) (small : now + kTickMs < 2 ^ 64) :
    run 0 (now :: nows) = run (now + kTickMs) (now :: nows) := by
  have set : now + kTickMs ≠ 0 := by simp [kTickMs]
  simp only [run, update, firstTick, set, if_true, if_false, after_eq now small]

structure Clocked (nows : List Nat) : Prop where
  sorted : nows.Pairwise (· ≤ ·)
  small : ∀ now ∈ nows, now + kTickMs < 2 ^ 64

namespace Clocked

variable {now nextTick : Nat} {nows : List Nat} (clocked : Clocked (now :: nows))
include clocked

theorem tail : Clocked nows where
  sorted := (List.pairwise_cons.mp clocked.sorted).2
  small later member := clocked.small later (List.mem_cons_of_mem now member)

theorem head_le (later : Nat) (member : later ∈ nows) : now ≤ later :=
  (List.pairwise_cons.mp clocked.sorted).1 later member

theorem scheduled (set : nextTick ≠ 0) : Scheduled now nextTick (update now nextTick) :=
  update_scheduled now nextTick (clocked.small now List.mem_cons_self) set

theorem next_ne_zero (set : nextTick ≠ 0) : (update now nextTick).nextTick ≠ 0 :=
  Nat.ne_zero_of_lt (clocked.scheduled set).ahead

theorem next_le (set : nextTick ≠ 0) (near : nextTick ≤ now + kTickMs) :
    (update now nextTick).nextTick ≤ now + kTickMs :=
  (clocked.scheduled set).near.trans (Nat.max_le.mpr ⟨near, Nat.le_refl _⟩)

end Clocked

theorem run_call (nextTick : Nat) (nows : List Nat) (clocked : Clocked nows) (set : nextTick ≠ 0)
    (near : ∀ now ∈ nows, nextTick ≤ now + kTickMs) (call : Call)
    (member : call ∈ run nextTick nows) :
    call.steps.length ≤ kMaxCatchUp ∧ (∀ time ∈ call.steps, time ≤ call.now) ∧
      call.now < call.nextTick ∧ call.nextTick ≤ call.now + kTickMs := by
  induction nows generalizing nextTick with
  | nil => cases member
  | cons now nows ih =>
      have scheduled := clocked.scheduled set
      have next := clocked.next_le set (near now List.mem_cons_self)
      simp only [run, List.mem_cons] at member
      rcases member with rfl | later
      · exact ⟨scheduled.count, scheduled.early, scheduled.ahead, next⟩
      · refine ih _ clocked.tail (clocked.next_ne_zero set) (fun later' member' => ?_) later
        have := clocked.head_le later' member'
        omega

theorem times_after (nextTick : Nat) (nows : List Nat) (clocked : Clocked nows)
    (set : nextTick ≠ 0) (time : Nat) (member : time ∈ times nextTick nows) : nextTick ≤ time := by
  induction nows generalizing nextTick with
  | nil => cases member
  | cons now nows ih =>
      have scheduled := clocked.scheduled set
      simp only [times, run, List.flatMap_cons, List.mem_append] at member
      rcases member with here | later
      · rw [scheduled.even, List.mem_range'] at here
        obtain ⟨count, _, rfl⟩ := here
        exact Nat.le_add_right _ _
      · have := ih _ clocked.tail (clocked.next_ne_zero set) later
        have := scheduled.late
        omega

theorem range'_spaced (start count step : Nat) :
    (List.range' start count step).Pairwise fun earlier later => earlier + step ≤ later := by
  induction count generalizing start with
  | zero => exact .nil
  | succ count ih =>
      rw [List.range'_succ]
      refine .cons (fun later member => ?_) (ih (start + step))
      obtain ⟨i, _, rfl⟩ := List.mem_range'.mp member
      exact Nat.le_add_right _ _

theorem times_spaced (nextTick : Nat) (nows : List Nat) (clocked : Clocked nows)
    (set : nextTick ≠ 0) :
    (times nextTick nows).Pairwise fun earlier later => earlier + kTickMs ≤ later := by
  induction nows generalizing nextTick with
  | nil => exact .nil
  | cons now nows ih =>
      have scheduled := clocked.scheduled set
      have set' := clocked.next_ne_zero set
      simp only [times, run, List.flatMap_cons]
      refine List.pairwise_append.mpr ⟨?_, ih _ clocked.tail set', ?_⟩
      · rw [scheduled.even]
        exact range'_spaced _ _ _
      · intro earlier here later there
        have after := times_after _ nows clocked.tail set' later there
        have late := scheduled.late
        rw [scheduled.even, List.mem_range'] at here
        obtain ⟨count, less, rfl⟩ := here
        have : kTickMs * (count + 1) ≤ kTickMs * (update now nextTick).steps.length :=
          Nat.mul_le_mul_left _ less
        rw [Nat.mul_succ] at this
        omega

theorem times_even (nextTick : Nat) (nows : List Nat) (clocked : Clocked nows)
    (set : nextTick ≠ 0) (unlimited : ∀ call ∈ run nextTick nows, call.limited = false) :
    times nextTick nows = List.range' nextTick (times nextTick nows).length kTickMs := by
  induction nows generalizing nextTick with
  | nil => rfl
  | cons now nows ih =>
      have scheduled := clocked.scheduled set
      have next := scheduled.exact_of_unlimited (unlimited _ (by simp [run]))
      have later := ih _ clocked.tail (clocked.next_ne_zero set) fun call member =>
        unlimited call (by simp [run, member])
      have whole : times nextTick (now :: nows) =
          (update now nextTick).steps ++ times (update now nextTick).nextTick nows := by
        simp only [times, run, List.flatMap_cons]
      rw [whole, List.length_append, ← List.range'_append, ← next, ← scheduled.even, ← later]

/-- The steps of a room, over any calls of `Update`: at most so many in one call and none ahead
of its time, a tick or more apart, and exactly a tick apart while no call meets the limit. -/
theorem room_steps_scheduled (nows : List Nat) (clocked : Clocked nows) :
    (∀ call ∈ run 0 nows,
        call.steps.length ≤ kMaxCatchUp ∧ (∀ time ∈ call.steps, time ≤ call.now) ∧
          call.now < call.nextTick ∧ call.nextTick ≤ call.now + kTickMs) ∧
      ((times 0 nows).Pairwise fun earlier later => earlier + kTickMs ≤ later) ∧
      ((∀ call ∈ run 0 nows, call.limited = false) →
        ∃ first, times 0 nows = List.range' first (times 0 nows).length kTickMs) := by
  cases nows with
  | nil => exact ⟨fun _ member => absurd member List.not_mem_nil, .nil, fun _ => ⟨0, rfl⟩⟩
  | cons now nows =>
      have set : now + kTickMs ≠ 0 := by simp [kTickMs]
      have first := run_first now nows (clocked.small now List.mem_cons_self)
      have same : times 0 (now :: nows) = times (now + kTickMs) (now :: nows) := by
        simp only [times, first]
      rw [first, same]
      refine ⟨run_call _ _ clocked set fun later member => ?_, times_spaced _ _ clocked set,
        fun unlimited => ⟨_, times_even _ _ clocked set unlimited⟩⟩
      rcases List.mem_cons.mp member with rfl | after
      · exact Nat.le_refl _
      · exact Nat.add_le_add_right (clocked.head_le later after) _

end Ticks

/-- The last call before the clock of 64 bits is full, and one that catches up. -/
theorem full_clock :
    [2 ^ 64 - 50].Pairwise (· ≤ ·) ∧
      ¬ ∀ call ∈ Ticks.run 0 [2 ^ 64 - 50], call.now < call.nextTick := by
  decide

theorem calls_scheduled :
    (∀ call ∈ Ticks.run 0 [100, 100, 410, 2000], call.steps.length ≤ kMaxCatchUp ∧
        (∀ time ∈ call.steps, time ≤ call.now) ∧ call.now < call.nextTick ∧
          call.nextTick ≤ call.now + kTickMs) ∧
      Ticks.times 0 [100, 100, 410, 2000] =
        [150, 200, 250, 300, 350, 460, 510, 560, 610, 660] :=
  ⟨(Ticks.room_steps_scheduled [100, 100, 410, 2000] ⟨by decide, by decide⟩).1, by decide⟩

variable (data : GameData)

theorem setField_nextTick (scene : Scene) (r r' : RoomRef) (field : Field)
    (same : field.nextTick = (scene.fields r).nextTick) :
    ((scene.setField r field).fields r').nextTick = (scene.fields r').nextTick := by
  rcases setField_cases scene r r' field with ⟨rfl, here⟩ | away
  · rw [here, same]
  · rw [away]

theorem tryReserve_nextTick (m : Monster) (now : Nat) (field : Field) :
    (tryReserve m now field).nextTick = field.nextTick := by
  unfold tryReserve
  split
  · rfl
  · split <;> rfl

theorem Scene.Beat.nextTick {routing : Routing} {r : RoomRef} {a b : Scene × ObjectId}
    {labels : List (ObjectId × Int)} (beat : Scene.Beat data routing r a labels b) (r' : RoomRef) :
    (b.1.fields r').nextTick = (a.1.fields r').nextTick := by
  have told (pkt : ServerPacket) (scene : Scene) :
      (broadcast routing r pkt scene).fields = scene.fields :=
    (Scene.SameObjects.broadcast routing r pkt scene).fields
  cases beat with
  | failed fault other => rfl
  | drew rand => rfl
  | struck attacker pkt => rw [told]
  | gained id share worth => rw [actPlayer_fields]
  | looted id itemId => rw [actPlayer_fields]
  | ticked id member => rw [actPlayer_fields]
  | hurt attacker id damage aimed =>
      rw [told]
      rfl
  | kept m m' member follows looks => exact setField_nextTick _ _ _ _ rfl
  | moved m m' member follows health =>
      rw [told]
      exact setField_nextTick _ _ _ _ rfl
  | hit attacker damage m member =>
      rw [hitMonster_fields]
      exact setField_nextTick _ _ _ _ rfl
  | removed m member =>
      dsimp only [removeMonster]
      rw [told]
      exact setField_nextTick _ _ _ _ (tryReserve_nextTick m _ _)
  | arrowKept arrow arrow' member info => exact setField_nextTick _ _ _ _ rfl
  | arrowMoved arrow arrow' info member named looks health =>
      rw [told]
      exact setField_nextTick _ _ _ _ rfl
  | echoed arrow member => rw [told]
  | arrowRemoved arrow member =>
      dsimp only [removeProjectile]
      rw [told]
      exact setField_nextTick _ _ _ _ rfl
  | queued respawnQueue => exact setField_nextTick _ _ _ _ rfl
  | born m named fresh =>
      dsimp only [addMonster]
      rw [told]
      exact setField_nextTick _ _ _ _ rfl
  | fired arrow named =>
      dsimp only [addArrow]
      rw [told]
      exact setField_nextTick _ _ _ _ rfl

theorem gameStep_nextTick (routing : Routing) (r r' : RoomRef) (scene : Scene) (g : ObjectId) :
    ((gameStep data routing r scene g).1.fields r').nextTick = (scene.fields r').nextTick :=
  (Scene.Beats.gameStep data routing r scene g).keeps
    (fun now => (now.1.fields r').nextTick = (scene.fields r').nextTick)
    (fun _ _ _ same beat => (beat.nextTick data r').trans same) rfl

/-- The room `r` is being stepped, with so many steps left and this tick. -/
structure World.Stepping (w : World) (now : Nat) (r : RoomRef) (left nextTick : Nat) : Prop where
  pass : ∃ pass, w.routing.pass = some pass ∧ pass.now = now ∧
    pass.current = some ⟨r, some (kMaxCatchUp - left)⟩
  left_le : left ≤ kMaxCatchUp
  tick : (w.scene.fields r).nextTick = nextTick

theorem stepping_start (w next : World) (pass : Pass) (r : RoomRef)
    (under_way : w.routing.pass = some pass) (current : pass.current = some ⟨r, none⟩)
    (small : pass.now + kTickMs < 2 ^ 64) (stepped : w.step data .endJobs = some next) :
    next.Stepping pass.now r kMaxCatchUp
      (Ticks.firstTick pass.now (w.scene.fields r).nextTick) := by
  obtain ⟨acted, -⟩ := step_act data w next _ stepped
  simp only [World.act, under_way, World.stepPass, current] at acted
  split at acted
  · cases acted
    refine ⟨⟨_, rfl, rfl, rfl⟩, Nat.le_refl _, ?_⟩
    simp [Scene.setField, Ticks.firstTick, Ticks.after_eq _ small]
  · cases acted

theorem stepping_step (w next : World) (now : Nat) (r : RoomRef) (left nextTick : Nat)
    (rand : List Nat) (stepping : w.Stepping now r left nextTick)
    (small : now + kTickMs < 2 ^ 64) (stepped : w.step data (.step rand) = some next) :
    nextTick ≤ now ∧
      ∃ fewer, left = fewer + 1 ∧ next.Stepping now r fewer (Ticks.after nextTick) := by
  obtain ⟨pass, under_way, time, current⟩ := stepping.pass
  obtain ⟨acted, -⟩ := step_act data w next _ stepped
  simp only [World.act, under_way, World.stepPass, current, time, stepping.tick] at acted
  split at acted
  next due =>
    obtain ⟨fewer, rfl⟩ : ∃ fewer, left = fewer + 1 := ⟨left - 1, by omega⟩
    have le := stepping.left_le
    cases acted
    refine ⟨due.1, fewer, rfl, ⟨_, rfl, rfl, ?_⟩, by omega, ?_⟩
    · dsimp only
      congr 3
      omega
    · simp only [Scene.setField, Function.update_self, gameStep_nextTick]
      rw [Ticks.after_eq nextTick (by omega), ← stepping.tick]
  next => cases acted

theorem stepping_end (w next : World) (now : Nat) (r : RoomRef) (left nextTick : Nat)
    (stepping : w.Stepping now r left nextTick) (small : now + kTickMs < 2 ^ 64)
    (stepped : w.step data .endRoom = some next) :
    (nextTick ≤ now → left = 0) ∧
      (next.scene.fields r).nextTick = if nextTick ≤ now then Ticks.after now else nextTick := by
  obtain ⟨pass, under_way, time, current⟩ := stepping.pass
  obtain ⟨acted, -⟩ := step_act data w next _ stepped
  simp only [World.act, under_way, World.stepPass, current, time, stepping.tick] at acted
  split at acted
  · cases acted
  next ended =>
    cases acted
    have le := stepping.left_le
    refine ⟨fun due => by omega, ?_⟩
    simp only [Scene.setField, Function.update_self, Ticks.after_eq now small]

theorem stepping_run (w final : World) (now : Nat) (r : RoomRef) (left nextTick : Nat)
    (rands : List (List Nat)) (stepping : w.Stepping now r left nextTick)
    (small : now + kTickMs < 2 ^ 64)
    (ran : Runs.run (World.step data) w (rands.map .step ++ [.endRoom]) = some final) :
    rands.length = (Ticks.catchUp now left nextTick).1.length ∧
      (final.scene.fields r).nextTick =
        if (Ticks.catchUp now left nextTick).2 ≤ now then Ticks.after now
        else (Ticks.catchUp now left nextTick).2 := by
  induction rands generalizing w left nextTick with
  | nil =>
      obtain ⟨next, stepped, ended⟩ := Runs.run_cons_some w final _ _ ran
      cases ended
      obtain ⟨spent, tick⟩ := stepping_end data w final now r left nextTick stepping small stepped
      have none : Ticks.catchUp now left nextTick = ([], nextTick) := by
        cases left with
        | zero => rfl
        | succ left =>
            have early : ¬ nextTick ≤ now := fun due => nomatch spent due
            simp [Ticks.catchUp, early]
      rw [none]
      exact ⟨rfl, tick⟩
  | cons rand rands ih =>
      obtain ⟨next, stepped, later⟩ := Runs.run_cons_some w final _ _ ran
      obtain ⟨due, fewer, rfl, stepping'⟩ :=
        stepping_step data w next now r left nextTick rand stepping small stepped
      obtain ⟨count, tick⟩ := ih next fewer _ stepping' later
      simp only [Ticks.catchUp, due, if_true, List.length_cons]
      exact ⟨congrArg Nat.succ count, tick⟩

theorem visit_update (w final : World) (pass : Pass) (r : RoomRef) (rands : List (List Nat))
    (under_way : w.routing.pass = some pass) (current : pass.current = some ⟨r, none⟩)
    (small : pass.now + kTickMs < 2 ^ 64)
    (ran : Runs.run (World.step data) w (.endJobs :: (rands.map .step ++ [.endRoom])) =
      some final) :
    let call := Ticks.update pass.now (w.scene.fields r).nextTick
    rands.length = call.steps.length ∧ (final.scene.fields r).nextTick = call.nextTick := by
  obtain ⟨next, stepped, later⟩ := Runs.run_cons_some w final _ _ ran
  have stepping := stepping_start data w next pass r under_way current small stepped
  exact stepping_run data next final pass.now r kMaxCatchUp _ rands stepping small later

end ZeldaServer
