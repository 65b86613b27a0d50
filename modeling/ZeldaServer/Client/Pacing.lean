import ZeldaServer.Client.Walking

/-! The steps of a client that may attack whenever it likes. Where its player looks can then be
lost, and it may come to wait for ever; the state of the player is told right all the same. -/

namespace ZeldaServer

namespace Dialogue

variable {id : ObjectId}

/-- The states that the server tells of a player: a turn ends in `IDLE`. -/
def Tells : ServerPacket → Prop
  | .move info => info.state ≠ .skill
  | .turn info => info.state = .idle
  | _ => True

/-- How far the step of the client is; `forsaken` is where nothing came of it. -/
inductive Stage (id : ObjectId) (l : Dialogue) : Prop where
  | rest (free : l.me.movePending = false) (unasked : l.steps = []) (untold : l.answers id = [])
  | arriving (free : l.me.movePending = false) (unasked : l.steps = []) (info : ObjectInfo)
      (untold : l.answers id = [.move info]) (moving : l.me.footing.state = .move)
      (idle : info.state = .idle)
  | asking (pending : l.me.movePending = true) (q : Request) (asks : l.steps = [q])
      (untold : l.answers id = []) (idle : l.me.footing.state = .idle)
  | answered (pending : l.me.movePending = true) (unasked : l.steps = []) (pkt : ServerPacket)
      (told : l.answers id = [pkt])
  | ended (pending : l.me.movePending = true) (unasked : l.steps = []) (first last : ObjectInfo)
      (told : l.answers id = [.move first, .move last]) (moving : first.state = .move)
      (idle : last.state = .idle)
  | forsaken (pending : l.me.movePending = true) (unasked : l.steps = [])
      (untold : l.answers id = []) (idle : l.me.footing.state = .idle)

structure Steady (id : ObjectId) (l : Dialogue) : Prop where
  wanted : l.me.wantedDir.isValid = true
  awake : l.me.footing.state ≠ .skill
  tells : ∀ pkt ∈ l.answers id, Tells pkt
  agrees : (l.answers id).foldl stateTold l.me.footing.state = l.footing.state
  stage : l.Stage id

theorem hear_steady (me : MyPlayerWalk) {pkt : ServerPacket} (other : pkt.answers id = false) :
    (me.hear id pkt).footing.state = me.footing.state ∧
      (me.hear id pkt).movePending = me.movePending := by
  refine ⟨?_, hear_pending me other⟩
  unfold MyPlayerWalk.hear
  cases pkt with
  | move info =>
      have foreign : info.objectId ≠ id := by simpa [ServerPacket.answers] using other
      dsimp only
      rw [if_neg foreign]
  | turn info =>
      have foreign : info.objectId ≠ id := by simpa [ServerPacket.answers] using other
      dsimp only
      rw [if_neg foreign]
  | attack attackerId dir weaponType => dsimp only; split <;> rfl
  | _ => rfl

namespace Steady

variable {l : Dialogue}

theorem stage_congr {l' : Dialogue} (stage : l.Stage id)
    (pending : l'.me.movePending = l.me.movePending)
    (state : l'.me.footing.state = l.me.footing.state) (steps : l'.steps = l.steps)
    (answers : l'.answers id = l.answers id) : l'.Stage id := by
  cases stage with
  | rest free unasked untold =>
      exact .rest (pending.trans free) (steps.trans unasked) (answers.trans untold)
  | arriving free unasked info untold moving idle =>
      exact .arriving (pending.trans free) (steps.trans unasked) info (answers.trans untold)
        (state.trans moving) idle
  | asking waits q asks untold idle =>
      exact .asking (pending.trans waits) q (steps.trans asks) (answers.trans untold)
        (state.trans idle)
  | answered waits unasked pkt told =>
      exact .answered (pending.trans waits) (steps.trans unasked) pkt (answers.trans told)
  | ended waits unasked first last told moving idle =>
      exact .ended (pending.trans waits) (steps.trans unasked) first last (answers.trans told)
        moving idle
  | forsaken waits unasked untold idle =>
      exact .forsaken (pending.trans waits) (steps.trans unasked) (answers.trans untold)
        (state.trans idle)

theorem tick (steady : l.Steady id) (frame : Frame) :
    Steady id { l with me := (l.me.tick frame).1, asked := l.asked ++ (l.me.tick frame).2 } := by
  obtain ⟨ticked, wanted⟩ := MyPlayerWalk.tick_ticked frame l.me steady.wanted
  generalize (l.me.tick frame).1 = me, (l.me.tick frame).2 = asked at ticked wanted ⊢
  have struck (strikes : List Request)
      (aimed : ∀ q ∈ strikes, ∃ weaponType, q = .attack l.me.footing.dir weaponType) :
      steps { l with me, asked := l.asked ++ strikes } = l.steps := by
    unfold Dialogue.steps
    rw [List.filter_append, steps_aimed aimed, List.append_nil]
  have awake (footing : me.footing = l.me.footing) : me.footing.state ≠ .skill := by
    rw [footing]
    exact steady.awake
  have agrees (footing : me.footing = l.me.footing) :
      (l.answers id).foldl stateTold me.footing.state = l.footing.state := by
    rw [footing]
    exact steady.agrees
  cases ticked with
  | woke asleep pending => exact absurd asleep steady.awake
  | stayed strikes footing pending aimed =>
      exact ⟨wanted, awake footing, steady.tells, agrees footing,
        stage_congr steady.stage pending (congrArg Footing.state footing)
          (struck _ fun q listed => (aimed q listed).2) rfl⟩
  | stepped strikes q footing idle free pending aimed due =>
      refine ⟨wanted, awake footing, steady.tells, agrees footing, ?_⟩
      have asks (unasked : l.steps = []) :
          steps { l with me, asked := l.asked ++ (strikes ++ [q]) } = [q] := by
        unfold Dialogue.steps at unasked ⊢
        dsimp only
        rw [List.filter_append, unasked, List.filter_append, steps_aimed aimed, List.nil_append,
          List.nil_append, List.filter_cons_of_pos due.isStep, List.filter_nil]
      cases steady.stage with
      | rest _ unasked untold =>
          exact .asking pending q (asks unasked) untold (by rw [footing]; exact idle)
      | arriving _ _ _ _ moving => exact absurd idle (by rw [moving]; decide)
      | asking waits => exact absurd free (by rw [waits]; decide)
      | answered waits => exact absurd free (by rw [waits]; decide)
      | ended waits => exact absurd free (by rw [waits]; decide)
      | forsaken waits => exact absurd free (by rw [waits]; decide)

theorem hear (steady : l.Steady id) (pkt : ServerPacket) (rest : List ServerPacket)
    (next : l.told = pkt :: rest) : Steady id { l with me := l.me.hear id pkt, told := rest } := by
  have wanted : (l.me.hear id pkt).wantedDir.isValid = true := by
    rw [hear_wanted]
    exact steady.wanted
  cases answer : pkt.answers id with
  | false =>
      have still : (l.me.hear id pkt).footing.state = l.me.footing.state ∧
          (l.me.hear id pkt).movePending = l.me.movePending := hear_steady l.me answer
      obtain ⟨state, pending⟩ := still
      have same : answers id { l with me := l.me.hear id pkt, told := rest } = l.answers id := by
        unfold Dialogue.answers
        rw [next, List.filter_cons_of_neg (by simp [answer])]
      refine ⟨wanted, ?_, ?_, ?_, stage_congr steady.stage pending state rfl same⟩
      · dsimp only
        rw [state]
        exact steady.awake
      · rw [same]
        exact steady.tells
      · rw [same]
        dsimp only
        rw [state]
        exact steady.agrees
  | true =>
      obtain ⟨state, ends⟩ := hear_answer l.me answer
      have whole : l.answers id = pkt :: rest.filter (ServerPacket.answers id) := by
        unfold Dialogue.answers
        rw [next, List.filter_cons_of_pos answer]
      have tells := steady.tells
      have agrees := steady.agrees
      rw [whole] at tells agrees
      obtain ⟨told, later⟩ := List.forall_mem_cons.mp tells
      refine ⟨wanted, ?_, later, ?_, ?_⟩
      · dsimp only
        rw [state]
        cases pkt with
        | move info => exact told
        | turn info => exact fun asleep => absurd (told.symm.trans asleep) (by decide)
        | _ => cases answer
      · dsimp only
        rw [state]
        exact agrees
      · cases steady.stage with
        | rest _ _ untold => exact absurd (whole.symm.trans untold) (List.cons_ne_nil _ _)
        | asking _ _ _ untold => exact absurd (whole.symm.trans untold) (List.cons_ne_nil _ _)
        | forsaken _ _ untold => exact absurd (whole.symm.trans untold) (List.cons_ne_nil _ _)
        | arriving _ unasked info untold =>
            obtain ⟨-, last⟩ := List.cons.inj (whole.symm.trans untold)
            exact .rest ends unasked last
        | answered _ unasked pkt' told =>
            obtain ⟨-, last⟩ := List.cons.inj (whole.symm.trans told)
            exact .rest ends unasked last
        | ended _ unasked first last told moving idle =>
            obtain ⟨rfl, later⟩ := List.cons.inj (whole.symm.trans told)
            exact .arriving ends unasked last later (state.trans moving) idle

theorem asking_head (steady : l.Steady id) (q : Request) (rest : List Request)
    (next : l.asked = q :: rest) (isStep : q.isStep = true) :
    l.me.movePending = true ∧ l.answers id = [] ∧ l.me.footing.state = .idle ∧
      l.footing.state = .idle ∧ rest.filter Request.isStep = [] := by
  have steps : l.steps = q :: rest.filter Request.isStep := by
    unfold Dialogue.steps
    rw [next, List.filter_cons_of_pos isStep]
  cases steady.stage with
  | asking waits q' asks untold idle =>
      obtain ⟨rfl, last⟩ := List.cons.inj (steps.symm.trans asks)
      have agrees := steady.agrees
      rw [untold] at agrees
      exact ⟨waits, untold, idle, agrees.symm.trans idle, last⟩
  | rest _ unasked _ => exact absurd (steps.symm.trans unasked) (List.cons_ne_nil _ _)
  | arriving _ unasked => exact absurd (steps.symm.trans unasked) (List.cons_ne_nil _ _)
  | answered _ unasked => exact absurd (steps.symm.trans unasked) (List.cons_ne_nil _ _)
  | ended _ unasked => exact absurd (steps.symm.trans unasked) (List.cons_ne_nil _ _)
  | forsaken _ unasked => exact absurd (steps.symm.trans unasked) (List.cons_ne_nil _ _)

theorem answered (steady : l.Steady id) (asked : List Request) (pkt : ServerPacket)
    (answer : pkt.answers id = true) (tells : Tells pkt) (footing : Footing)
    (state : stateTold l.footing.state pkt = footing.state)
    (stage : Stage id { l with asked, told := l.told ++ [pkt], footing }) :
    Steady id { l with asked, told := l.told ++ [pkt], footing } := by
  have more := Sound.answers_told l asked footing pkt answer
  refine ⟨steady.wanted, steady.awake, ?_, ?_, stage⟩
  · rw [more]
    exact List.forall_mem_append.mpr ⟨steady.tells, List.forall_mem_singleton.mpr tells⟩
  · rw [more, List.foldl_append]
    dsimp only
    rw [steady.agrees]
    exact state

theorem serve (steady : l.Steady id) (q : Request) (rest : List Request) (next : l.asked = q :: rest)
    (footing : Footing) (news : List ServerPacket) (serves : Serves id l.footing q footing news) :
    Steady id { l with asked := rest, told := l.told ++ news, footing } := by
  cases serves with
  | struck dir weaponType =>
      have silent : answers id
          { l with asked := rest, told := l.told ++ [.attack id dir weaponType] } = l.answers id := by
        unfold Dialogue.answers
        rw [List.filter_append, List.filter_cons_of_neg (by simp [ServerPacket.answers]),
          List.filter_nil, List.append_nil]
      refine ⟨steady.wanted, steady.awake, ?_, ?_,
        stage_congr steady.stage rfl rfl (Sound.steps_strike next _ l.footing) silent⟩
      · rw [silent]
        exact steady.tells
      · rw [silent]
        exact steady.agrees
  | unheeded _ vain =>
      rw [List.append_nil]
      cases q with
      | attack _ _ => exact vain.elim
      | turn dir =>
          obtain ⟨waits, untold, idle, -, last⟩ := steady.asking_head _ rest next rfl
          exact ⟨steady.wanted, steady.awake, steady.tells, steady.agrees,
            .forsaken waits last untold idle⟩
      | move dir =>
          obtain ⟨waits, untold, idle, -, last⟩ := steady.asking_head _ rest next rfl
          exact ⟨steady.wanted, steady.awake, steady.tells, steady.agrees,
            .forsaken waits last untold idle⟩
  | turned _ dir asks valid other info named turns =>
      have isStep : q.isStep = true := by
        rcases asks with rfl | rfl <;> rfl
      obtain ⟨waits, untold, -, -, last⟩ := steady.asking_head q rest next isStep
      have answer : (ServerPacket.turn info).answers id = true := decide_eq_true named
      have rests : info.state = .idle := congrArg Footing.state turns
      apply steady.answered rest _ answer rests info.footing rfl
      exact .answered waits last _ (by rw [Sound.answers_told l _ _ _ answer, untold]; rfl)
  | moved info named dir state =>
      obtain ⟨waits, untold, -, -, last⟩ := steady.asking_head _ rest next rfl
      have answer : (ServerPacket.move info).answers id = true := decide_eq_true named
      apply steady.answered rest _ answer state info.footing rfl
      exact .answered waits last _ (by rw [Sound.answers_told l _ _ _ answer, untold]; rfl)

theorem arrive (steady : l.Steady id) (moving : l.footing.state = .move) (info : ObjectInfo)
    (named : info.objectId = id) (rests : info.footing = { l.footing with state := .idle }) :
    Steady id { l with told := l.told ++ [.move info], footing := info.footing } := by
  have state := steady.agrees
  have answer : (ServerPacket.move info).answers id = true := decide_eq_true named
  have more := Sound.answers_told l l.asked info.footing _ answer
  have idle : info.state = .idle := congrArg Footing.state rests
  have stands {still : ObjectState} (told : still = l.footing.state) (idle : still = .idle) : False :=
    absurd (idle.symm.trans (told.trans moving)) (by decide)
  apply steady.answered l.asked _ answer (fun asleep => absurd (idle.symm.trans asleep) (by decide))
    info.footing rfl
  cases steady.stage with
  | rest free unasked untold =>
      rw [untold] at state
      exact .arriving free unasked info (by rw [more, untold]; rfl) (state.trans moving) idle
  | arriving _ _ last untold _ still =>
      rw [untold] at state
      exact (stands state still).elim
  | asking _ _ _ untold still =>
      rw [untold] at state
      exact (stands state still).elim
  | forsaken _ _ untold still =>
      rw [untold] at state
      exact (stands state still).elim
  | ended _ _ first last told _ still =>
      rw [told] at state
      exact (stands state still).elim
  | answered waits unasked pkt told =>
      have listed : pkt ∈ l.answers id := by rw [told]; exact List.mem_singleton_self pkt
      have own := (List.mem_filter.mp listed).2
      have tells := steady.tells pkt listed
      rw [told] at state
      cases pkt with
      | move first =>
          exact .ended waits unasked first info (by rw [more, told]; rfl) (state.trans moving) idle
      | turn first => exact (stands state tells).elim
      | _ => cases own

theorem step (steady : l.Steady id) {next : Dialogue} {allowed : Dialogue → Frame → Prop}
    (stepped : l.Step id allowed next) : next.Steady id := by
  cases stepped with
  | tick frame => exact steady.tick frame
  | hear pkt rest told => exact steady.hear pkt rest told
  | serve q rest asked footing news serves => exact steady.serve q rest asked footing news serves
  | arrive moving info named rests => exact steady.arrive moving info named rests

end Steady

theorem aligned_tells (told : List ServerPacket) (me : MyPlayerWalk) (aligned : Aligned id me told) :
    ∀ pkt ∈ told.filter (ServerPacket.answers id), Tells pkt := by
  induction told generalizing me with
  | nil => exact List.forall_mem_nil _
  | cons pkt told ih =>
      obtain ⟨fits, rest⟩ := aligned
      cases answer : pkt.answers id with
      | false =>
          rw [List.filter_cons_of_neg (by simp [answer])]
          exact ih _ rest
      | true =>
          rw [List.filter_cons_of_pos answer]
          refine List.forall_mem_cons.mpr ⟨?_, ih _ rest⟩
          cases pkt with
          | move info => exact (fits (of_decide_eq_true answer)).2
          | turn info => exact fits (of_decide_eq_true answer)
          | _ => trivial

theorem Sound.steady {l : Dialogue} (sound : l.Sound id) : l.Steady id where
  wanted := sound.wanted
  awake := sound.awake
  tells := aligned_tells l.told l.me sound.aligned
  agrees := sound.state_told
  stage := by
    cases sound.phase with
    | rest free unasked untold => exact .rest free unasked untold
    | arriving free unasked info untold moving idle =>
        exact .arriving free unasked info untold moving idle
    | asking waits q asks due untold idle => exact .asking waits q asks untold idle
    | answered waits unasked pkt told => exact .answered waits unasked pkt told
    | ended waits unasked first last told moving idle =>
        exact .ended waits unasked first last told moving idle

end Dialogue

end ZeldaServer
