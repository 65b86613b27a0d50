import Mathlib.Logic.Relation
import ZeldaServer.World.Walks

/-! A client in a room: its frames, its requests in the order they were sent, the packets it has
not heard yet, and everything else that goes on in the room meanwhile. -/

namespace ZeldaServer

variable (data : GameData) (id : ObjectId) (s : SessionId)

/-- `heard` is how many of the packets to its session the client has handled. -/
structure Online where
  world : World
  me : Option MyPlayerWalk
  asked : List Request
  heard : Nat

inductive OnlineEvent where
  | tick (frame : Frame)
  | hear
  /-- The room runs the job of the oldest request. -/
  | serve (rand : List Nat)
  | other (e : RoomEvent)

namespace Online

def unheard (o : Online) : List ServerPacket := (heardBy s o.world.scene.sent).drop o.heard

/-- An event of the room, in which the player stays, and the ids fit into an `int32`. -/
def room (o : Online) (e : RoomEvent) : Option World :=
  (World.roomStep data Job.remains o.world e).filter fun next =>
    decide (id ∈ playerIds next.routing 0) && decide (next.idGen ≤ Screen.idLimit)

def step (o : Online) : OnlineEvent → Option Online
  | .tick frame =>
      o.me.map fun me =>
        { o with me := some (me.tick frame).1, asked := o.asked ++ (me.tick frame).2 }
  | .hear =>
      match o.unheard s with
      | [] => none
      | pkt :: _ => some { o with me := hearOwn id o.me pkt, heard := o.heard + 1 }
  | .serve rand =>
      match o.asked with
      | [] => none
      | q :: rest =>
          (o.room data id (.job rand (q.job s))).map fun world => { o with world, asked := rest }
  | .other e =>
      if e.isForeign s then (o.room data id e).map fun world => { o with world } else none

/-- `EnterRoom` has run: the client has heard all that was sent before, and has no player. -/
def enter (before after : World) : Online := ⟨after, none, [], (heardBy s before.scene.sent).length⟩

def footing (o : Online) : Footing := (o.world.scene.players id).info.footing

def dialogue (o : Online) (me : MyPlayerWalk) (told : List ServerPacket) : Dialogue :=
  ⟨me, o.asked, told.filter (ServerPacket.steers id), o.footing id⟩

def Plain (told : List ServerPacket) : Prop :=
  ∀ pkt ∈ told, pkt.concerns id = true → pkt.steers id = true

/-- The client waits for its `S_MyPlayer`, or it has its player. -/
inductive Tied (o : Online) : Dialogue → Prop where
  | waits (info : ObjectInfo) (told : List ServerPacket) (nobody : o.me = none) (unasked : o.asked = [])
      (next : o.unheard s = .myPlayer info :: told) (plain : Plain id told) :
      Tied o (o.dialogue id (.spawn info) told)
  | plays (me : MyPlayerWalk) (mine : o.me = some me) (plain : Plain id (o.unheard s)) :
      Tied o (o.dialogue id me (o.unheard s))

end Online

variable {id s}

theorem ServerPacket.concerns_steers (pkt : ServerPacket) (steers : pkt.steers id = true) :
    pkt.concerns id = true := by
  cases pkt <;> first | exact steers | cases steers

theorem MyPlayerWalk.hear_unsteered (me : MyPlayerWalk) (pkt : ServerPacket) (other : pkt.steers id = false) :
    me.hear id pkt = me := by
  cases pkt with
  | move info => exact if_neg (of_decide_eq_false other)
  | turn info => exact if_neg (of_decide_eq_false other)
  | attack attackerId dir weaponType => exact if_neg (of_decide_eq_false other)
  | _ => rfl

theorem hearOwn_plain (me : MyPlayerWalk) (pkt : ServerPacket)
    (plain : pkt.concerns id = true → pkt.steers id = true) :
    hearOwn id (some me) pkt = some (me.hear id pkt) := by
  cases pkt with
  | myPlayer info => cases plain rfl
  | removeObject ids =>
      unfold hearOwn
      dsimp only
      split
      case isTrue own => cases plain own
      case isFalse => rfl
  | _ => rfl

namespace Online

theorem Plain.append {front back : List ServerPacket} (first : Plain id front)
    (second : Plain id back) : Plain id (front ++ back) := List.forall_mem_append.mpr ⟨first, second⟩

theorem Plain.of_calm {told : List ServerPacket} (calm : ∀ pkt ∈ told, pkt.concerns id = false) :
    Plain id told := by
  intro pkt listed concerned
  rw [calm pkt listed] at concerned
  cases concerned

theorem calm_unsteered {told : List ServerPacket} (calm : ∀ pkt ∈ told, pkt.concerns id = false) :
    told.filter (ServerPacket.steers id) = [] := by
  apply List.filter_eq_nil_iff.mpr
  intro pkt listed steers
  have concerned := pkt.concerns_steers steers
  rw [calm pkt listed] at concerned
  cases concerned

variable {o : Online}

theorem unheard_sent (o : Online) (world : World) (asked : List Request)
    (news : List (SessionId × ServerPacket)) (begun : o.heard ≤ (heardBy s o.world.scene.sent).length)
    (sent : world.scene.sent = o.world.scene.sent ++ news) :
    unheard s { o with world, asked } = o.unheard s ++ heardBy s news := by
  unfold unheard
  dsimp only
  rw [sent, heardBy_append, List.drop_append_of_le_length begun]

end Online

section Links

variable (allowed : Dialogue → Frame → Prop)

theorem Dialogue.Serves.steers {before after : Footing} {q : Request} {news : List ServerPacket}
    (serves : Dialogue.Serves id before q after news) : ∀ pkt ∈ news, pkt.steers id = true := by
  cases serves with
  | unheeded q vain => exact List.forall_mem_nil _
  | turned q dir asks valid other info named turns =>
      exact List.forall_mem_singleton.mpr (decide_eq_true named)
  | moved info named dir state => exact List.forall_mem_singleton.mpr (decide_eq_true named)
  | struck dir weaponType => exact List.forall_mem_singleton.mpr (decide_eq_true rfl)

theorem Scene.Drifts.dialogue {a b : Scene} (drifts : a.Drifts id s b) :
    ∃ news, b.sent = a.sent ++ news ∧ Online.Plain id (heardBy s news) ∧
      ∀ me asked told, Relation.ReflTransGen (Dialogue.Step id allowed)
        ⟨me, asked, told, (a.players id).info.footing⟩
        ⟨me, asked, told ++ (heardBy s news).filter (ServerPacket.steers id),
          (b.players id).info.footing⟩ := by
  rcases drifts with ⟨footing, news, sent, calm⟩ |
    ⟨moving, rests, news, front, info, back, sent, heard, named, tells, calm⟩
  · refine ⟨news, sent, .of_calm calm, fun me asked told => ?_⟩
    rw [Online.calm_unsteered calm, List.append_nil, footing]
  · obtain ⟨before, after⟩ := List.forall_mem_append.mp calm
    have steers : (ServerPacket.move info).steers id = true := decide_eq_true named
    refine ⟨news, sent, ?_, fun me asked told => ?_⟩
    · rw [heard]
      apply Online.Plain.append (.of_calm before)
      exact List.forall_mem_cons.mpr ⟨fun _ => steers, Online.Plain.of_calm after⟩
    · rw [heard, List.filter_append, Online.calm_unsteered before, List.nil_append,
        List.filter_cons_of_pos steers, Online.calm_unsteered after, ← tells]
      apply Relation.ReflTransGen.single
      exact .arrive moving info named (tells.trans rests)

theorem Scene.Answers.dialogue {q : Request} {a b : Scene} (answers : a.Answers id s q b) :
    ∃ news, b.sent = a.sent ++ news ∧ Online.Plain id (heardBy s news) ∧
      ∀ me rest told, Relation.ReflTransGen (Dialogue.Step id allowed)
        ⟨me, q :: rest, told, (a.players id).info.footing⟩
        ⟨me, rest, told ++ (heardBy s news).filter (ServerPacket.steers id),
          (b.players id).info.footing⟩ := by
  obtain ⟨news, sent, serves⟩ := answers
  refine ⟨news, sent, fun pkt listed _ => serves.steers pkt listed, fun me rest told => ?_⟩
  rw [List.filter_eq_self.mpr serves.steers]
  apply Relation.ReflTransGen.single
  exact .serve q rest rfl _ _ serves

end Links

structure Online.Kept (id : ObjectId) (s : SessionId) (o : Online) (l : Dialogue) : Prop where
  bound : o.world.Bound id s
  begun : o.heard ≤ (heardBy s o.world.scene.sent).length
  tied : o.Tied id s l
  wanted : l.me.wantedDir.isValid = true

namespace Online.Kept

variable {o next : Online} {l : Dialogue} (allowed : Dialogue → Frame → Prop)

theorem tick (kept : o.Kept id s l) (frame : Frame)
    (stepped : o.step data id s (.tick frame) = some next)
    (allows : ∀ me, o.me = some me → allowed (o.dialogue id me (o.unheard s)) frame) :
    ∃ l', next.Kept id s l' ∧ Relation.ReflTransGen (Dialogue.Step id allowed) l l' := by
  obtain ⟨bound, begun, tied, wanted⟩ := kept
  unfold Online.step at stepped
  cases tied with
  | waits info told nobody => simp [nobody] at stepped
  | plays me mine plain =>
      simp only [mine, Option.map_some, Option.some.injEq] at stepped
      subst stepped
      obtain ⟨-, valid⟩ := MyPlayerWalk.tick_ticked frame me wanted
      refine ⟨_, ⟨bound, begun, .plays (me.tick frame).1 rfl plain, valid⟩, ?_⟩
      exact .single (.tick frame (allows me mine))

theorem hear (kept : o.Kept id s l) (stepped : o.step data id s .hear = some next) :
    ∃ l', next.Kept id s l' ∧ Relation.ReflTransGen (Dialogue.Step id allowed) l l' := by
  obtain ⟨bound, begun, tied, wanted⟩ := kept
  unfold Online.step at stepped
  cases more : o.unheard s with
  | nil => simp [more] at stepped
  | cons pkt rest =>
      simp only [more, Option.some.injEq] at stepped
      subst stepped
      have later : unheard s { o with me := hearOwn id o.me pkt, heard := o.heard + 1 } = rest := by
        have dropped : ((heardBy s o.world.scene.sent).drop o.heard).drop 1 = rest :=
          congrArg (List.drop 1) more
        rwa [List.drop_drop] at dropped
      have begun : o.heard + 1 ≤ (heardBy s o.world.scene.sent).length := by
        have long := congrArg List.length more
        unfold unheard at long
        rw [List.length_drop, List.length_cons] at long
        omega
      cases tied with
      | waits info told nobody unasked front plain =>
          obtain ⟨rfl, rfl⟩ := List.cons.inj (more.symm.trans front)
          refine ⟨_, ⟨bound, begun, .plays (.spawn info) rfl (by rw [later]; exact plain), wanted⟩, ?_⟩
          rw [later]
          exact .refl
      | plays me mine plain =>
          rw [more] at plain
          obtain ⟨first, plain⟩ := List.forall_mem_cons.mp plain
          have heard := hearOwn_plain me pkt first
          rw [← mine] at heard
          refine ⟨_, ⟨bound, begun, .plays (me.hear id pkt) heard (by rw [later]; exact plain), ?_⟩, ?_⟩
          · exact (congrArg Dir.isValid (Dialogue.hear_wanted me pkt)).trans wanted
          · rw [later, more]
            unfold Online.dialogue
            cases steers : pkt.steers id with
            | true =>
                rw [List.filter_cons_of_pos steers]
                exact .single (.hear pkt _ rfl)
            | false =>
                rw [List.filter_cons_of_neg (by rw [steers]; decide), me.hear_unsteered pkt steers]
                exact .refl

theorem follow (kept : o.Kept id s l) (world : World) (asked : List Request)
    (bound : world.Bound id s) (news : List (SessionId × ServerPacket))
    (sent : world.scene.sent = o.world.scene.sent ++ news) (plain : Plain id (heardBy s news))
    (served : o.me = none → asked = [])
    (goes : ∀ me told, Relation.ReflTransGen (Dialogue.Step id allowed)
      ⟨me, o.asked, told, o.footing id⟩
      ⟨me, asked, told ++ (heardBy s news).filter (ServerPacket.steers id),
        (world.scene.players id).info.footing⟩) :
    ∃ l', Kept id s { o with world, asked } l' ∧
      Relation.ReflTransGen (Dialogue.Step id allowed) l l' := by
  obtain ⟨-, begun, tied, wanted⟩ := kept
  have more := unheard_sent o world asked news begun sent
  have begun : o.heard ≤ (heardBy s world.scene.sent).length := by
    rw [sent, heardBy_append, List.length_append]
    exact Nat.le_trans begun (Nat.le_add_right _ _)
  cases tied with
  | waits info told nobody unasked front plain' =>
      rw [front] at more
      refine ⟨_, ⟨bound, begun, .waits info (told ++ heardBy s news) nobody (served nobody) more
        (plain'.append plain), wanted⟩, ?_⟩
      unfold Online.dialogue
      rw [List.filter_append]
      exact goes _ _
  | plays me mine plain' =>
      refine ⟨_, ⟨bound, begun, .plays me mine (by rw [more]; exact plain'.append plain), wanted⟩, ?_⟩
      rw [more]
      unfold Online.dialogue
      rw [List.filter_append]
      exact goes _ _

theorem room_some {world : World} {e : RoomEvent} (o : Online)
    (went : o.room data id e = some world) :
    World.roomStep data Job.remains o.world e = some world ∧ id ∈ playerIds world.routing 0 ∧
      world.idGen ≤ Screen.idLimit := by
  unfold Online.room at went
  obtain ⟨stepped, guard⟩ := Option.filter_eq_some_iff.mp went
  rw [Bool.and_eq_true] at guard
  exact ⟨stepped, of_decide_eq_true guard.1, of_decide_eq_true guard.2⟩

theorem serve (kept : o.Kept id s l) (rand : List Nat)
    (stepped : o.step data id s (.serve rand) = some next) :
    ∃ l', next.Kept id s l' ∧ Relation.ReflTransGen (Dialogue.Step id allowed) l l' := by
  unfold Online.step at stepped
  cases asked : o.asked with
  | nil => simp [asked] at stepped
  | cons q rest =>
      simp only [asked, Option.map_eq_some_iff] at stepped
      obtain ⟨world, went, rfl⟩ := stepped
      obtain ⟨stepped, here, few⟩ := room_some data o went
      have keeps : RoomEvent.rebinds s (.job rand (q.job s)) = false := by cases q <;> rfl
      have bound := kept.bound.roomStep data stepped keeps here few
      cases roomStep_stepped data stepped with
      | job rand job remains awaited =>
          obtain ⟨middle, answers, drifts⟩ :=
            (kept.bound.supplied rand (q.job s)).request data q here few
          obtain ⟨news, sent, plain, first⟩ := answers.dialogue allowed
          obtain ⟨news', sent', plain', second⟩ := drifts.dialogue allowed
          apply kept.follow allowed _ rest bound (news ++ news')
          · rw [sent', sent, List.append_assoc]
            rfl
          · rw [heardBy_append]
            exact plain.append plain'
          · intro nobody
            cases kept.tied with
            | waits info told _ unasked => exact absurd (asked.symm.trans unasked) (List.cons_ne_nil _ _)
            | plays me mine => exact absurd (mine.symm.trans nobody) (Option.some_ne_none me)
          · intro me told
            rw [heardBy_append, List.filter_append, ← List.append_assoc, asked]
            exact (first me rest told).trans (second me rest _)

theorem other (kept : o.Kept id s l) (e : RoomEvent)
    (stepped : o.step data id s (.other e) = some next) :
    ∃ l', next.Kept id s l' ∧ Relation.ReflTransGen (Dialogue.Step id allowed) l l' := by
  unfold Online.step at stepped
  dsimp only at stepped
  split at stepped
  case isFalse => cases stepped
  case isTrue foreign =>
    obtain ⟨world, went, rfl⟩ := Option.map_eq_some_iff.mp stepped
    obtain ⟨stepped, here, few⟩ := room_some data o went
    have bound := kept.bound.roomStep data stepped (RoomEvent.isForeign_keeps foreign) here few
    have drifts := kept.bound.roomStep_drifts data stepped foreign here few
    obtain ⟨news, sent, plain, goes⟩ := drifts.dialogue allowed
    apply kept.follow allowed world o.asked bound news sent plain
    · intro nobody
      cases kept.tied with
      | waits info told _ unasked => exact unasked
      | plays me mine => exact absurd (mine.symm.trans nobody) (Option.some_ne_none me)
    · exact fun me told => goes me o.asked told

theorem step (kept : o.Kept id s l) (e : OnlineEvent)
    (stepped : o.step data id s e = some next)
    (allows : ∀ frame me, e = .tick frame → o.me = some me →
      allowed (o.dialogue id me (o.unheard s)) frame) :
    ∃ l', next.Kept id s l' ∧ Relation.ReflTransGen (Dialogue.Step id allowed) l l' := by
  cases e with
  | tick frame => exact kept.tick data allowed frame stepped fun me => allows frame me rfl
  | hear => exact kept.hear data allowed stepped
  | serve rand => exact kept.serve data allowed rand stepped
  | other e => exact kept.other data allowed e stepped

end Online.Kept

namespace Online

variable {o : Online} {l : Dialogue}

def settled (id : ObjectId) (s : SessionId) (o : Online) : Option MyPlayerWalk :=
  (o.unheard s).foldl (hearOwn id) o.me

/-- The client will look and stand as the server has it, and it will wait for an answer exactly
when its one step is not served yet. -/
def Follows (id : ObjectId) (s : SessionId) (o : Online) : Prop :=
  ∃ me, o.settled id s = some me ∧ me.footing = o.footing id ∧
    (o.asked.filter Request.isStep).length = if me.movePending then 1 else 0

/-- No attack is sent while a turn of the player waits to be served or to be heard. -/
def Patient (id : ObjectId) (s : SessionId) (o : Online) (e : OnlineEvent) : Prop :=
  ∀ frame me, e = .tick frame → o.me = some me →
    (∃ dir weaponType, .attack dir weaponType ∈ (me.tick frame).2) →
      (∀ dir, .turn dir ∉ o.asked) ∧
        ∀ info : ObjectInfo, info.objectId = id → .turn info ∉ o.unheard s

/-- The client waits for an answer, and none will come: its step is served, everything is heard
that could be one, and the player does not move. -/
def Stuck (id : ObjectId) (s : SessionId) (o : Online) : Prop :=
  ∃ me, o.me = some me ∧ me.movePending = true ∧ o.asked.filter Request.isStep = [] ∧
    (o.unheard s).filter (ServerPacket.answers id) = [] ∧ (o.footing id).state ≠ .move

theorem foldl_hearOwn (told : List ServerPacket) (plain : Plain id told) (me : MyPlayerWalk) :
    told.foldl (hearOwn id) (some me) = some (told.foldl (MyPlayerWalk.hear id) me) := by
  induction told generalizing me with
  | nil => rfl
  | cons pkt told ih =>
      obtain ⟨first, plain⟩ := List.forall_mem_cons.mp plain
      rw [List.foldl_cons, hearOwn_plain me pkt first, ih plain, List.foldl_cons]

theorem foldl_hear_steers (told : List ServerPacket) (me : MyPlayerWalk) :
    (told.filter (ServerPacket.steers id)).foldl (MyPlayerWalk.hear id) me =
      told.foldl (MyPlayerWalk.hear id) me := by
  induction told generalizing me with
  | nil => rfl
  | cons pkt told ih =>
      cases steers : pkt.steers id with
      | true =>
          rw [List.filter_cons_of_pos steers]
          exact ih _
      | false =>
          rw [List.filter_cons_of_neg (by rw [steers]; decide), List.foldl_cons,
            me.hear_unsteered pkt steers]
          exact ih me

theorem Tied.settled (tied : o.Tied id s l) : o.settled id s = some (l.settled id) := by
  unfold Online.settled Dialogue.settled
  cases tied with
  | waits info told nobody unasked next plain =>
      rw [next, nobody, List.foldl_cons]
      unfold Online.dialogue
      dsimp only
      rw [foldl_hear_steers]
      exact foldl_hearOwn told plain (.spawn info)
  | plays me mine plain =>
      rw [mine]
      unfold Online.dialogue
      dsimp only
      rw [foldl_hear_steers]
      exact foldl_hearOwn _ plain me

theorem Kept.follows (kept : o.Kept id s l) (sound : l.Sound id) : o.Follows id s := by
  obtain ⟨agrees, steps⟩ := sound.settles
  have footing : l.footing = o.footing id := by cases kept.tied <;> rfl
  have asked : l.asked = o.asked := by cases kept.tied <;> rfl
  refine ⟨_, kept.tied.settled, agrees.trans footing, ?_⟩
  unfold Dialogue.steps at steps
  rwa [asked] at steps

theorem steers_of_answers (pkt : ServerPacket) (answers : pkt.answers id = true) :
    pkt.steers id = true := by
  cases pkt <;> first | exact answers | cases answers

theorem filter_answers (told : List ServerPacket) :
    (told.filter (ServerPacket.steers id)).filter (ServerPacket.answers id) =
      told.filter (ServerPacket.answers id) := by
  rw [List.filter_filter]
  apply List.filter_congr
  intro pkt _
  cases answers : pkt.answers id with
  | true => rw [steers_of_answers pkt answers, Bool.and_true]
  | false => rfl

theorem Kept.stuck_iff (kept : o.Kept id s l) : o.Stuck id s ↔ l.Stuck id := by
  constructor
  · rintro ⟨me, mine, pending, unasked, untold, rests⟩
    cases kept.tied with
    | waits info told nobody => exact absurd (mine.symm.trans nobody) (Option.some_ne_none me)
    | plays me' mine' plain =>
        cases mine.symm.trans mine'
        exact ⟨kept.wanted, pending, unasked, (filter_answers _).trans untold, rests⟩
  · rintro ⟨-, pending, unasked, untold, rests⟩
    cases kept.tied with
    | waits info told nobody => cases pending
    | plays me mine plain =>
        exact ⟨me, mine, pending, unasked, (filter_answers _).symm.trans untold, rests⟩

theorem Kept.begins {before after : World} {rand : List Nat} (peopled : before.Populated)
    (entered : World.roomStep data Job.remains before (.job rand (.enterRoom s id)) = some after)
    (once : ∀ login ∈ before.routing.logins, login.session = s → login.player = id)
    (few : after.idGen ≤ Screen.idLimit) :
    ∃ l, (Online.enter s before after).Kept id s l ∧ l.Sound id := by
  have people := peopled.roomStep data entered
  cases roomStep_stepped data entered with
  | job rand job remains awaited =>
      have bound : World.Bound id s ((before.taking rand (.enterRoom s id)).enterRoom 0 s id) :=
        { toPopulated := people
          here := (entered_player id).mpr (.inr rfl)
          session := by rw [entered_session, if_pos rfl]
          owner := by rw [entered_owner, if_pos rfl]
          only := by
            rw [entered_logins]
            exact once
          few := few }
      have rest : Scene.Leaves id s _ _ :=
        World.Bound.enterRoom_rest (before.taking rand (.enterRoom s id)) s id
      obtain ⟨footing, news, sent, calm⟩ := rest
      have stands : ((runJob data (before.taking rand (.enterRoom s id)) 0
          (.enterRoom s id)).scene.players id).info.footing =
            (before.scene.players id).atEntrance.info.footing := by
        apply footing.trans
        exact congrArg (fun p : Player => p.info.footing) (Function.update_self ..)
      have front : (Online.enter s before (runJob data (before.taking rand (.enterRoom s id)) 0
          (.enterRoom s id))).unheard s =
            .myPlayer (before.scene.players id).atEntrance.info :: heardBy s news := by
        have told : (runJob data (before.taking rand (.enterRoom s id)) 0
            (.enterRoom s id)).scene.sent = before.scene.sent ++
              [(s, .myPlayer (before.scene.players id).atEntrance.info)] ++ news := sent
        have mine : heardBy s [(s, .myPlayer (before.scene.players id).atEntrance.info)] =
            [.myPlayer (before.scene.players id).atEntrance.info] := by
          simp [heardBy]
        unfold Online.enter unheard
        dsimp only
        rw [told, heardBy_append, heardBy_append, mine, List.append_assoc, List.drop_left]
        rfl
      have begun : (heardBy s before.scene.sent).length ≤ (heardBy s (runJob data
          (before.taking rand (.enterRoom s id)) 0 (.enterRoom s id)).scene.sent).length := by
        have long := congrArg List.length front
        unfold Online.enter unheard at long
        dsimp only at long
        rw [List.length_drop, List.length_cons] at long
        omega
      refine ⟨_, ⟨bound, begun, .waits _ _ rfl rfl front (.of_calm calm), rfl⟩, ?_⟩
      have told := calm_unsteered calm
      have same : Online.footing id (Online.enter s before (runJob data
          (before.taking rand (.enterRoom s id)) 0 (.enterRoom s id))) =
            (before.scene.players id).atEntrance.info.footing := stands
      unfold Online.dialogue
      rw [told, same]
      exact
        { valid := peopled.looking id
          wanted := rfl
          awake := by
            intro asleep
            cases asleep
          agrees := rfl
          aligned := trivial
          course := trivial
          phase := .rest rfl rfl rfl }

theorem Kept.patient {e : OnlineEvent} (patient : o.Patient id s e) (frame : Frame) (me : MyPlayerWalk)
    (ticks : e = .tick frame) (mine : o.me = some me) :
    Dialogue.Patient id (o.dialogue id me (o.unheard s)) frame := by
  intro strikes waits
  obtain ⟨unasked, untold⟩ := patient frame me ticks mine strikes
  rcases waits with ⟨dir, asks⟩ | ⟨info, named, told⟩
  · exact unasked dir asks
  · exact untold info named (List.mem_filter.mp told).1

theorem sound_steps {l l' : Dialogue} (steps : Relation.ReflTransGen (Dialogue.Step id (Dialogue.Patient id)) l l')
    (sound : l.Sound id) : l'.Sound id := by
  induction steps with
  | refl => exact sound
  | tail _ step ih => exact ih.step step

theorem sound_step {o next : Online} (e : OnlineEvent)
    (sound : ∃ l, o.Kept id s l ∧ l.Sound id) (patient : o.Patient id s e)
    (stepped : o.step data id s e = some next) : ∃ l, next.Kept id s l ∧ l.Sound id := by
  obtain ⟨l, kept, sound⟩ := sound
  obtain ⟨l', kept', goes⟩ := kept.step data (Dialogue.Patient id) e stepped (Kept.patient patient)
  exact ⟨l', kept', sound_steps goes sound⟩

theorem kept_step {o next : Online} (e : OnlineEvent) (kept : ∃ l, o.Kept id s l)
    (stepped : o.step data id s e = some next) : ∃ l, next.Kept id s l := by
  obtain ⟨l, kept⟩ := kept
  obtain ⟨l', kept', -⟩ :=
    kept.step data (fun _ _ => True) e stepped fun _ _ _ _ => trivial
  exact ⟨l', kept'⟩

theorem stuck_steps {l l' : Dialogue}
    (steps : Relation.ReflTransGen (Dialogue.Step id fun _ _ => True) l l') (stuck : l.Stuck id) :
    l'.Stuck id ∧ l'.footing = l.footing := by
  induction steps with
  | refl => exact ⟨stuck, rfl⟩
  | tail _ step ih =>
      obtain ⟨next, same⟩ := ih.1.step step
      exact ⟨next, same.trans ih.2⟩

theorem stuck_step {o next : Online} (e : OnlineEvent) (kept : ∃ l, o.Kept id s l)
    (stuck : o.Stuck id s) (stepped : o.step data id s e = some next) :
    next.Stuck id s ∧ next.footing id = o.footing id := by
  obtain ⟨l, kept⟩ := kept
  obtain ⟨l', kept', goes⟩ :=
    kept.step data (fun _ _ => True) e stepped fun _ _ _ _ => trivial
  obtain ⟨stays, same⟩ := stuck_steps goes (kept.stuck_iff.mp stuck)
  have before : l.footing = o.footing id := by cases kept.tied <;> rfl
  have after : l'.footing = next.footing id := by cases kept'.tied <;> rfl
  exact ⟨kept'.stuck_iff.mpr stays, after.symm.trans (same.trans before)⟩

end Online

section Runs

variable (fieldId : FieldId) (channel : Int) (roomId : RoomName) (store : Store)
  (redisConnected : Bool) (rand : List Nat) (events : List RoomEvent) (before after : World)
  (reached : Runs.run (World.roomStep data Job.remains)
    (World.oneRoom data fieldId channel roomId store redisConnected rand) events = some before)
  (entering : List Nat)
  (entered : World.roomStep data Job.remains before (.job entering (.enterRoom s id)) = some after)
  (once : ∀ login ∈ before.routing.logins, login.session = s → login.player = id)
  (few : after.idGen ≤ Screen.idLimit)

include reached entered once few

theorem Online.begins : ∃ l, (Online.enter s before after).Kept id s l ∧ l.Sound id := by
  have peopled := Runs.run_preserved World.Populated
    (fun w e next now stepped => now.roomStep data stepped) _ before events
    (.oneRoom data fieldId channel roomId store redisConnected rand) reached
  exact Online.Kept.begins data peopled entered once few

/-- However the client, the network and the room take turns: when it has heard all that is sent,
the client stands and looks as the server has it, and it waits exactly for the one step that is
not served, as long as no attack is sent while a turn waits. -/
theorem client_settles (course : List OnlineEvent)
    (patient : Runs.EachStep (Online.step data id s) (Online.Patient id s)
      (Online.enter s before after) course) :
    Runs.EveryState (Online.step data id s) (Online.Follows id s) (Online.enter s before after)
      course := by
  apply Runs.everyState_invariant (Online.Patient id s) (fun o => ∃ l, o.Kept id s l ∧ l.Sound id)
  · rintro o ⟨l, kept, sound⟩
    exact kept.follows sound
  · exact fun o e next sound patient stepped => Online.sound_step data e sound patient stepped
  · exact Online.begins data fieldId channel roomId store redisConnected rand events before after
      reached entering entered once few
  · exact patient

/-- A client that waits for an answer that will not come waits for ever: whatever happens in the
room, it asks for no step again, and the server leaves its player where it is. -/
theorem stuck_for_good (course : List OnlineEvent) (o : Online)
    (comes : Runs.run (Online.step data id s) (Online.enter s before after) course = some o)
    (stuck : o.Stuck id s) (later : List OnlineEvent) :
    Runs.EveryState (Online.step data id s)
      (fun now => now.Stuck id s ∧ now.footing id = o.footing id) o later := by
  obtain ⟨l, begins, -⟩ := Online.begins data fieldId channel roomId store redisConnected rand
    events before after reached entering entered once few
  have kept := Runs.run_preserved (fun o => ∃ l, Online.Kept id s o l)
    (fun o e next kept stepped => Online.kept_step data e kept stepped) _ o course ⟨l, begins⟩ comes
  apply Runs.everyState_invariant (fun _ _ => True)
    (fun now => (∃ l, Online.Kept id s now l) ∧ now.Stuck id s ∧ now.footing id = o.footing id)
  · exact fun now all => all.2
  · rintro now e next ⟨kept, stuck, same⟩ - stepped
    obtain ⟨stays, kept_footing⟩ := Online.stuck_step data e kept stuck stepped
    exact ⟨Online.kept_step data e kept stepped, stays, kept_footing.trans same⟩
  · exact ⟨kept, stuck, rfl⟩
  · exact Runs.eachStep_true _ later

end Runs

namespace Online

/-- A frame with the keys that are held and those that are pressed, in which nothing else is in
the way. -/
def frameOf (held pressed : List KeyType) : Frame where
  arrived := true
  animationEnded := false
  inputLocked := false
  getButton := (held.contains ·)
  getButtonDown := (pressed.contains ·)
  coolingDown := false
  fightingGround := true
  turnGrace := false
  attackTimedOut := false

def patientCheck (s : SessionId) (o : Online) : OnlineEvent → Bool
  | .tick frame =>
      o.me.all (fun me => (me.tick frame).2.all Request.isStep) ||
        o.asked.isEmpty && (o.unheard s).isEmpty
  | _ => true

theorem patientCheck_sound {id : ObjectId} {s : SessionId} (o : Online) (e : OnlineEvent)
    (checked : patientCheck s o e = true) : o.Patient id s e := by
  rintro frame me rfl mine ⟨dir, weaponType, strikes⟩
  rcases Bool.or_eq_true_iff.mp checked with steps | quiet
  · rw [mine] at steps
    cases List.all_eq_true.mp steps _ strikes
  · obtain ⟨unasked, silent⟩ := Bool.and_eq_true_iff.mp quiet
    rw [List.isEmpty_iff.mp unasked, List.isEmpty_iff.mp silent]
    exact ⟨fun _ => List.not_mem_nil, fun _ _ => List.not_mem_nil⟩

/-- The player of a dungeon hears that it is in, turns, takes a step, and shoots. -/
def stroll : List OnlineEvent :=
  List.replicate 4 .hear ++
    [.tick (frameOf [.a] []), .serve [], .hear, .tick (frameOf [.a] []), .serve [], .hear,
      .other (.clock 100), .other (.step []), .hear, .tick (frameOf [] [.key2, .spaceBar]),
      .serve [], .hear]

end Online

/-- The room before its only player enters. -/
def loneDungeon : Option World :=
  Runs.run (World.roomStep smallGame Job.remains)
    (World.oneRoom smallGame .dungeon 0 .dungeonForest newStore false []) [.login 1 [97]]

theorem lone_run (course : List OnlineEvent) (check : Online → Bool)
    (runs : (loneDungeon.any fun before =>
      before.routing.logins.all (fun login => login.player = 1) &&
        (World.roomStep smallGame Job.remains before (.job [] (.enterRoom 1 1))).any fun after =>
          decide (after.idGen ≤ Screen.idLimit) &&
            (Runs.run (Online.step smallGame 1 1) (Online.enter 1 before after) course).any check &&
              Runs.checkSteps (Online.step smallGame 1 1) (Online.patientCheck 1)
                (Online.enter 1 before after) course) = true) :
    ∃ before after o, loneDungeon = some before ∧
      World.roomStep smallGame Job.remains before (.job [] (.enterRoom 1 1)) = some after ∧
        (∀ login ∈ before.routing.logins, login.session = 1 → login.player = 1) ∧
          after.idGen ≤ Screen.idLimit ∧
            Runs.run (Online.step smallGame 1 1) (Online.enter 1 before after) course = some o ∧
              check o = true ∧
                Runs.EachStep (Online.step smallGame 1 1) (Online.Patient 1 1)
                  (Online.enter 1 before after) course := by
  obtain ⟨before, reached, rest⟩ := (Option.any_eq_true _ _).mp runs
  obtain ⟨logins, rest⟩ := Bool.and_eq_true_iff.mp rest
  obtain ⟨after, entered, rest⟩ := (Option.any_eq_true _ _).mp rest
  obtain ⟨rest, steps⟩ := Bool.and_eq_true_iff.mp rest
  obtain ⟨few, rest⟩ := Bool.and_eq_true_iff.mp rest
  obtain ⟨o, comes, checked⟩ := (Option.any_eq_true _ _).mp rest
  refine ⟨before, after, o, reached, entered, ?_, of_decide_eq_true few, comes, checked, ?_⟩
  · exact fun login member _ => of_decide_eq_true (List.all_eq_true.mp logins login member)
  · exact Runs.eachStep_of_check _ _ Online.patientCheck_sound _ course steps

set_option maxRecDepth 20000 in
theorem stroll_settles : ∃ before after o, loneDungeon = some before ∧
    Runs.run (Online.step smallGame 1 1) (Online.enter 1 before after) Online.stroll = some o ∧
      o.Follows 1 1 ∧ (o.footing 1).cellPos = ⟨4, 5⟩ := by
  obtain ⟨before, after, o, reached, entered, once, few, comes, checked, patient⟩ :=
    lone_run Online.stroll (fun o => (o.footing 1).cellPos = ⟨4, 5⟩) (by decide +kernel)
  refine ⟨before, after, o, reached, comes, ?_, of_decide_eq_true checked⟩
  exact Runs.everyState_final _ _ o _
    (client_settles smallGame .dungeon 0 .dungeonForest newStore false [] [.login 1 [97]] before
      after reached [] entered once few Online.stroll patient) comes

/-- The player shoots while its turn is on the way, and then turns again. -/
def Online.entangled : List OnlineEvent :=
  List.replicate 4 .hear ++
    [.tick (frameOf [.a] []), .tick (frameOf [] [.key2, .spaceBar]), .serve [], .serve [], .hear,
      .hear, .hear, .tick (frameOf [.a] []), .serve []]

def Online.isStuck (id : ObjectId) (s : SessionId) (o : Online) : Bool :=
  o.me.any (·.movePending) && (o.asked.filter Request.isStep).isEmpty &&
    ((o.unheard s).filter (ServerPacket.answers id)).isEmpty &&
      decide ((o.footing id).state ≠ .move)

theorem Online.stuck_of_check {id : ObjectId} {s : SessionId} {o : Online}
    (checked : o.isStuck id s = true) : o.Stuck id s := by
  obtain ⟨checked, rests⟩ := Bool.and_eq_true_iff.mp checked
  obtain ⟨checked, untold⟩ := Bool.and_eq_true_iff.mp checked
  obtain ⟨waits, unasked⟩ := Bool.and_eq_true_iff.mp checked
  obtain ⟨me, mine, pending⟩ := (Option.any_eq_true _ _).mp waits
  exact ⟨me, mine, pending, List.isEmpty_iff.mp unasked, List.isEmpty_iff.mp untold,
    of_decide_eq_true rests⟩

set_option maxRecDepth 20000 in
theorem entangled_for_good : ∃ before after o, loneDungeon = some before ∧
    Runs.run (Online.step smallGame 1 1) (Online.enter 1 before after) Online.entangled = some o ∧
      Runs.EveryState (Online.step smallGame 1 1)
        (fun now => now.Stuck 1 1 ∧ now.footing 1 = o.footing 1) o
        [.tick (Online.frameOf [.d] []), .other (.step []), .hear] := by
  have ends : (loneDungeon.any fun before =>
      before.routing.logins.all (fun login => login.player = 1) &&
        (World.roomStep smallGame Job.remains before (.job [] (.enterRoom 1 1))).any fun after =>
          decide (after.idGen ≤ Screen.idLimit) &&
            (Runs.run (Online.step smallGame 1 1) (Online.enter 1 before after)
              Online.entangled).any (Online.isStuck 1 1)) = true := by
    decide +kernel
  obtain ⟨before, reached, rest⟩ := (Option.any_eq_true _ _).mp ends
  obtain ⟨logins, rest⟩ := Bool.and_eq_true_iff.mp rest
  obtain ⟨after, entered, rest⟩ := (Option.any_eq_true _ _).mp rest
  obtain ⟨few, rest⟩ := Bool.and_eq_true_iff.mp rest
  obtain ⟨o, comes, checked⟩ := (Option.any_eq_true _ _).mp rest
  refine ⟨before, after, o, reached, comes, ?_⟩
  apply stuck_for_good smallGame .dungeon 0 .dungeonForest newStore false [] [.login 1 [97]] before
    after reached [] entered _ (of_decide_eq_true few) Online.entangled o comes
    (Online.stuck_of_check checked)
  exact fun login member _ => of_decide_eq_true (List.all_eq_true.mp logins login member)

end ZeldaServer
