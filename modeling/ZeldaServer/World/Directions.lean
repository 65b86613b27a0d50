import ZeldaServer.World.Updates

/-! Where the objects look. Moves and turns are checked; the direction of a shot is not. -/

namespace ZeldaServer

variable (data : GameData)

structure Scene.Directed (scene : Scene) : Prop where
  players : ∀ id, (scene.players id).info.dir.isValid = true
  monsters : ∀ r, ∀ m ∈ (scene.fields r).monsters, m.info.dir.isValid = true
  arrows : ∀ r, ∀ a ∈ (scene.fields r).projectiles, a.info.dir.isValid = true

theorem lookAtDir_valid (info : ObjectInfo) (pos : Vec2Int) :
    (info.lookAtDir pos).isValid = true := by
  unfold ObjectInfo.lookAtDir
  dsimp only
  split
  · rfl
  · split
    · rfl
    · split <;> rfl

namespace Scene.Directed

variable {a b : Scene}

theorem same (directed : a.Directed) (ground : a.SameGround b) : b.Directed where
  players := fun id => ground.looks id (directed.players id)
  monsters := fun r => by
    rw [ground.monsters]
    exact directed.monsters r
  arrows := fun r => by
    rw [ground.projectiles]
    exact directed.arrows r

theorem setField (directed : a.Directed) (r : RoomRef) (field : Field)
    (monsters : ∀ m ∈ field.monsters, m.info.dir.isValid = true)
    (arrows : ∀ arrow ∈ field.projectiles, arrow.info.dir.isValid = true) :
    (a.setField r field).Directed where
  players := directed.players
  monsters := by
    intro r'
    rcases setField_cases a r r' field with ⟨rfl, here⟩ | away
    · rwa [here]
    · rw [away]
      exact directed.monsters r'
  arrows := by
    intro r'
    rcases setField_cases a r r' field with ⟨rfl, here⟩ | away
    · rwa [here]
    · rw [away]
      exact directed.arrows r'

theorem setMonster (directed : a.Directed) (r : RoomRef) (m : Monster)
    (valid : m.info.dir.isValid = true) : (a.setMonster r m).Directed := by
  apply directed.setField r
  · intro m' member
    obtain ⟨old, listed, rfl⟩ := List.mem_map.mp member
    split
    · exact valid
    · exact directed.monsters r old listed
  · exact directed.arrows r

theorem setProjectile (directed : a.Directed) (r : RoomRef) (arrow : Arrow)
    (valid : arrow.info.dir.isValid = true) : (a.setProjectile r arrow).Directed := by
  apply directed.setField r
  · exact directed.monsters r
  · intro arrow' member
    obtain ⟨old, listed, rfl⟩ := List.mem_map.mp member
    split
    · exact valid
    · exact directed.arrows r old listed

theorem dropMonster (directed : a.Directed) (r : RoomRef) (m : Monster) :
    (a.dropMonster r m).Directed := by
  obtain ⟨monsters, projectiles, -, -⟩ := tryReserve_fields m a.now (a.fields r)
  apply directed.setField r
  · intro m' member
    rw [monsters] at member
    exact directed.monsters r m' (List.mem_of_mem_filter member)
  · rw [projectiles]
    exact directed.arrows r

theorem dropArrow (directed : a.Directed) (r : RoomRef) (id : ObjectId) :
    (a.dropArrow r id).Directed := by
  apply directed.setField r
  · exact directed.monsters r
  · exact fun arrow member => directed.arrows r arrow (List.mem_of_mem_filter member)

theorem damaged (m : Monster) (damage : Int) : (m.damaged damage).info.dir = m.info.dir := by
  unfold Monster.damaged ObjectInfo.onDamaged
  split <;> rfl

theorem struck {r : RoomRef} {target : Monster} (directed : a.Directed)
    (valid : target.info.dir.isValid = true) (hit : a.Struck r target b) : b.Directed := by
  cases hit with
  | spared => exact directed
  | hurt damage => exact directed.setMonster r _ (by rwa [damaged])
  | killed damage => exact (directed.setMonster r _ (by rwa [damaged])).dropMonster r _

theorem monsterTurn {routing : Routing} {r : RoomRef} {m : Monster} (directed : a.Directed)
    (member : m ∈ (a.fields r).monsters) (turn : MonsterTurn routing r a m b) : b.Directed := by
  have valid := directed.monsters r m member
  cases turn with
  | busy state due result => exact directed.same result
  | wakes state due result =>
      apply (directed.setMonster r _ _).same result
      exact valid
  | stays target state still apart result =>
      apply (directed.setMonster r _ _).same result
      rwa [(aiming_keeps m target).1]
  | goes nextPos target state steps result =>
      exact (directed.setMonster r _ (lookAtDir_valid _ nextPos)).same result
  | attacks target state aims near result =>
      exact (directed.setMonster r _ (lookAtDir_valid _ _)).same result

theorem arrowTurn {r : RoomRef} {later : Nat} {fired : Arrow} (directed : a.Directed)
    (member : fired ∈ (a.fields r).projectiles) (turn : ArrowTurn r later a fired b) :
    b.Directed := by
  have valid := directed.arrows r fired member
  have info := (arrowStart_keeps a.now fired).1
  have started : (arrowStart a.now fired).info.dir.isValid = true := by rwa [info]
  have start := directed.setProjectile r (arrowStart a.now fired) started
  cases turn with
  | waits fresh due stands result => exact start.same result
  | rests fresh state due stands result =>
      apply (directed.setProjectile r _ _).same result
      exact started
  | flies fresh delta state due ahead free alone result =>
      apply (directed.setProjectile r _ _).same result
      exact started
  | removed result => exact (start.dropArrow r _).same result
  | hits target hit met struck result =>
      exact ((start.struck (directed.monsters r target met) struck).dropArrow r _).same result
  | lost fresh nowhere fault result => exact start.same result

end Scene.Directed

def Turn.Straight (t : Turn) : Prop := ∀ arrow, t.kind = .shot arrow → arrow.info.dir.isValid = true

theorem act_directed (a b : Scene × ObjectId) (labels : List Turn) (act : Scene.Act data a labels b)
    (straight : ∀ t ∈ labels, t.Straight) (directed : a.1.Directed) : b.1.Directed := by
  have created (m : Monster) (newborn : m.Newborn data) : m.info.dir.isValid = true := by
    obtain ⟨id, cell, aggroRange, leashRange, templateId, rfl⟩ := newborn
    rfl
  cases act with
  | aside b same later => exact directed.same same
  | monster routing r m found known distinct =>
      exact directed.monsterTurn (List.mem_of_find?_eq_some found)
        (monsterUpdate_turn routing r a.1 m distinct found)
  | arrow routing r fired found known distinct fine =>
      have turn := arrowUpdateBy_turn data routing r a.1.now a.1 _ fired found (Nat.le_refl _)
      exact directed.arrowTurn (List.mem_of_find?_eq_some found) turn
  | hit r m damage found =>
      apply directed.setMonster r
      rw [Scene.Directed.damaged]
      exact directed.monsters r m (List.mem_of_find?_eq_some found)
  | removed r m => exact directed.dropMonster r m
  | born routing r cell aggroRange leashRange templateId =>
      apply directed.setField r
      · intro m member
        rcases List.mem_append.mp member with old | new
        · exact directed.monsters r m old
        · rw [List.mem_singleton.mp new]
          exact created _ ⟨_, _, _, _, _, rfl⟩
      · exact directed.arrows r
  | fired routing r arrow named fresh idle =>
      apply directed.setField r
      · exact directed.monsters r
      · intro arrow' member
        rcases List.mem_append.mp member with old | new
        · exact directed.arrows r arrow' old
        · rw [List.mem_singleton.mp new]
          exact straight _ (List.mem_singleton.mpr rfl) arrow rfl
  | opened r field g later empty newborn new =>
      apply directed.setField r
      · exact fun m member => created m (newborn m member)
      · rw [empty]
        exact fun _ member => absurd member List.not_mem_nil

theorem acts_directed {a b : Scene × ObjectId} {labels : List Turn} (acts : Scene.Acts data a labels b)
    (straight : ∀ t ∈ labels, t.Straight) (directed : a.1.Directed) : b.1.Directed := by
  apply acts.relates (fun a labels b => (∀ t ∈ labels, t.Straight) → a.1.Directed → b.1.Directed) _ _
    straight directed
  · exact fun _ _ directed => directed
  · intro a middle b first rest act later straight directed
    apply later (fun t member => straight t (List.mem_append_right _ member))
    apply act_directed data a middle first act _ directed
    exact fun t member => straight t (List.mem_append_left _ member)

def AimsStraight (w : World) (e : Event) : Prop :=
  ∀ rand r s pkt rest, e = .job rand → w.routing.nextJob = some (r, .attack s pkt, rest) →
    pkt.weaponType = WeaponType.bow →
    (lockPlayer (w.forJob r rest rand).routing (w.forJob r rest rand).scene [] s).isSome = true →
    pkt.dir.isValid = true

/-- Every player, monster and arrow of a room looks in one of the four directions. -/
structure World.Directed (w : World) : Prop where
  players : ∀ r, ∀ id ∈ playerIds w.routing r, (w.scene.players id).info.dir.isValid = true
  monsters : ∀ r, ∀ m ∈ (w.scene.fields r).monsters, m.info.dir.isValid = true
  arrows : ∀ r, ∀ a ∈ (w.scene.fields r).projectiles, a.info.dir.isValid = true

theorem Scene.Directed.world {w : World} (directed : w.scene.Directed) : w.Directed :=
  ⟨fun _ id _ => directed.players id, directed.monsters, directed.arrows⟩

theorem stepTurns_straight (routing : Routing) (r : RoomRef) (scene : Scene) (idGen : ObjectId) :
    ∀ t ∈ stepTurns data routing r scene idGen, t.Straight := by
  intro t member arrow is
  rcases stepTurns_kind data routing r scene idGen t member with
    ⟨id, other⟩ | ⟨id, other⟩ | ⟨cell, other⟩ <;>
  · rw [other] at is
    cases is

theorem turns_straight (w : World) (e : Event) (aims : AimsStraight w e) :
    ∀ t ∈ w.turns data e, t.Straight := by
  have nothing : ∀ t ∈ ([] : List Turn), t.Straight := fun _ member => absurd member List.not_mem_nil
  cases e with
  | step rand =>
      unfold World.turns
      dsimp only
      split
      · exact stepTurns_straight data _ _ _ _
      · exact nothing
  | job rand =>
      unfold World.turns
      cases front : w.routing.nextJob with
      | none => exact nothing
      | some next =>
          obtain ⟨r, job, rest⟩ := next
          cases job with
          | attack s pkt =>
              have aimed := aims rand r s pkt rest rfl front
              dsimp only [jobTurns]
              generalize w.forJob r rest rand = v at aimed
              unfold shotTurns
              cases locked : lockPlayer v.routing v.scene [] s with
              | none => exact nothing
              | some attacker =>
                  dsimp only
                  split
                  case isTrue bow =>
                    intro t member arrow is
                    rw [List.mem_singleton.mp member] at is
                    cases is
                    exact aimed bow (by rw [locked]; rfl)
                  case isFalse => exact nothing
          | _ => exact nothing
  | _ => exact nothing

theorem shot_lands (w next : World) (rand : List Nat) (r : RoomRef) (s : SessionId) (pkt : CAttack)
    (rest : List Job) (front : w.routing.nextJob = some (r, .attack s pkt, rest))
    (bow : pkt.weaponType = WeaponType.bow) (attacker : ObjectId)
    (locked : lockPlayer (w.forJob r rest rand).routing (w.forJob r rest rand).scene [] s =
      some attacker)
    (stepped : w.step data (.job rand) = some next) :
    ∃ a ∈ (next.scene.fields r).projectiles, a.info.dir = pkt.dir := by
  have result : next = handleCAttack data (w.forJob r rest rand) r s pkt := by
    obtain ⟨acted, -⟩ := step_act data w next _ stepped
    obtain ⟨r', job, rest', front', result⟩ := runNextJob_some data w next rand acted
    rw [front] at front'
    cases front'
    exact result
  have sword : pkt.weaponType ≠ WeaponType.sword := by
    rw [bow]
    decide
  generalize w.forJob r rest rand = v at locked result
  unfold handleCAttack at result
  rw [locked] at result
  dsimp only at result
  rw [if_neg sword, if_pos bow] at result
  generalize v.onScene (broadcast v.routing r _) = heard at result
  refine ⟨heard.bowArrow attacker pkt, ?_, rfl⟩
  have told := Scene.Quiet.broadcast heard.routing r
    (.addObject ⟨[(heard.bowArrow attacker pkt).info]⟩)
    (heard.scene.newArrow r (heard.bowArrow attacker pkt))
  have fields : next.scene.fields = (heard.scene.newArrow r (heard.bowArrow attacker pkt)).fields := by
    rw [result]
    exact told.fields
  rw [fields, Scene.newArrow_field]
  exact List.mem_append_right _ (List.mem_singleton.mpr rfl)

theorem empty_directed (store : Store) (redisConnected : Bool) (rand : List Nat) :
    (World.empty data store redisConnected rand).scene.Directed where
  players := fun _ => rfl
  monsters := fun _ _ member => absurd member List.not_mem_nil
  arrows := fun _ _ member => absurd member List.not_mem_nil

/-- In every run all objects look in one of the four directions throughout, exactly when every
bow that is shot is. -/
theorem directions_iff (store : Store) (redisConnected : Bool) (rand : List Nat)
    (events : List Event) :
    Runs.EveryState (World.step data) World.Directed (World.init data store redisConnected rand)
        events ↔
      Runs.EachStep (World.step data) AimsStraight (World.init data store redisConnected rand)
        events := by
  apply Runs.everyState_iff (fun _ _ => True) AimsStraight
    (fun w => w.Orderly ∧ w.scene.Directed)
  · exact fun w kept => kept.2.world
  · rintro w e next ⟨orderly, directed⟩ _ stepped aims
    exact ⟨step_orderly data w next e orderly stepped,
      acts_directed data (step_acts data w next e orderly stepped) (turns_straight data w e aims)
        directed⟩
  · rintro w e next ⟨orderly, directed⟩ _ stepped now rand r s pkt rest rfl front bow alive
    obtain ⟨attacker, locked⟩ := Option.isSome_iff_exists.mp alive
    obtain ⟨a, flies, dir⟩ := shot_lands data w next rand r s pkt rest front bow attacker locked
      stepped
    rw [← dir]
    exact now.arrows r a flies
  · refine ⟨init_orderly data store redisConnected rand, ?_⟩
    apply acts_directed data (init_acts data store redisConnected rand)
    · exact fun _ member => absurd member List.not_mem_nil
    · exact empty_directed data store redisConnected rand
  · exact Runs.eachStep_true _ _

/-- A player logs in and shoots in direction 7. -/
def shootsNowhere : List Event :=
  [Event.connect 1, .packet 1 (.login [97])] ++ updateTown 1 ++
    [Event.packet 1 (.attack ⟨7, WeaponType.bow⟩)] ++ updateTown 1

set_option maxRecDepth 20000 in
theorem arrow_without_direction :
    ¬ Runs.EveryState (World.step smallGame) World.Directed
      (World.init smallGame newStore false []) shootsNowhere := by
  intro every
  have run : (Runs.run (World.step smallGame) (World.init smallGame newStore false [])
      shootsNowhere).any (fun w => (w.scene.fields 0).projectiles.any (·.info.dir = 7)) = true := by
    decide +kernel
  obtain ⟨w, reached, checked⟩ := (Option.any_eq_true _ _).mp run
  obtain ⟨a, flies, dir⟩ := List.any_eq_true.mp checked
  have valid := (Runs.everyState_final _ _ w shootsNowhere every reached).arrows 0 a flies
  rw [of_decide_eq_true dir] at valid
  exact absurd valid (by decide)

end ZeldaServer
