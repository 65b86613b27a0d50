import ZeldaServer.World.Views

/-! A room and the clients of its players, in step: every beat tells each of them what it
changes. -/

namespace ZeldaServer

open Chains (Chain)

variable (data : GameData)

section Room

variable (routing : Routing) (r : RoomRef) (taken : ObjectId → Prop)

def Screen.Owned (screen : Screen) (g : ObjectId) : Prop := ∀ id, screen.own = some id → id < g

def Screen.Fits (inGame : Bool) (g : ObjectId) : Prop := inGame = true → g ≤ Screen.idLimit

/-- Where the players who gain exp are in the room, the sessions of the room hear what turns
a right screen into a right screen. -/
def Scene.Mirrored (a : Scene × ObjectId) (granted : List (ObjectId × Int))
    (b : Scene × ObjectId) : Prop :=
  (∀ grant ∈ granted, grant.1 ∈ playerIds routing r) → Scene.Roster routing r taken a →
    Scene.Roster routing r taken b ∧ a.2 ≤ b.2 ∧
      ∃ pkts, Scene.Spreads routing r a.1 b.1 pkts ∧ ∀ inGame screen, Screen.Fits inGame b.2 →
        screen.Owned a.2 → screen.Right routing r a.1 →
          (pkts.foldl (Screen.hear inGame) screen).Right routing r b.1 ∧
            (pkts.foldl (Screen.hear inGame) screen).own = screen.own

variable {routing r taken}

namespace Scene.Mirrored

theorem refl (a : Scene × ObjectId) : Scene.Mirrored routing r taken a [] a :=
  fun _ roster => ⟨roster, Nat.le_refl _, [], .refl a.1, fun _ _ _ _ right => ⟨right, rfl⟩⟩

theorem trans {a b c : Scene × ObjectId} {front back : List (ObjectId × Int)}
    (first : Scene.Mirrored routing r taken a front b)
    (second : Scene.Mirrored routing r taken b back c) :
    Scene.Mirrored routing r taken a (front ++ back) c := by
  intro crew roster
  obtain ⟨roster', up, pkts, spread, heard⟩ :=
    first (fun grant member => crew grant (List.mem_append_left _ member)) roster
  obtain ⟨roster'', up', pkts', spread', heard'⟩ :=
    second (fun grant member => crew grant (List.mem_append_right _ member)) roster'
  refine ⟨roster'', Nat.le_trans up up', pkts ++ pkts', spread.trans spread', ?_⟩
  intro inGame screen fits owned right
  obtain ⟨right', own⟩ := heard inGame screen (fun game => Nat.le_trans up' (fits game)) owned right
  have owned' : (pkts.foldl (Screen.hear inGame) screen).Owned b.2 := by
    intro id named
    rw [own] at named
    exact Nat.lt_of_lt_of_le (owned id named) up
  obtain ⟨right'', own'⟩ := heard' inGame _ fits owned' right'
  rw [List.foldl_append]
  exact ⟨right'', own'.trans own⟩

theorem silent (a : Scene × ObjectId) (b : Scene) (sent : b.sent = a.1.sent)
    (roster : Scene.Roster routing r taken a → Scene.Roster routing r taken (b, a.2))
    (same : Scene.Roster routing r taken a → ∀ id looks,
      b.Shows routing r id looks ↔ a.1.Shows routing r id looks) :
    Scene.Mirrored routing r taken a [] (b, a.2) :=
  fun _ before => ⟨roster before, Nat.le_refl _, [], .of_sent sent,
    fun _ _ _ _ right => ⟨right.same (same before), rfl⟩⟩

theorem unchanged (a : Scene × ObjectId) (b : Scene) (sent : b.sent = a.1.sent)
    (players : b.players = a.1.players) (fields : b.fields = a.1.fields) :
    Scene.Mirrored routing r taken a [] (b, a.2) :=
  silent a b sent (fun roster => roster.of_same b players fields)
    fun _ => Scene.shows_of_same players fields

theorem told (a : Scene × ObjectId) (b : Scene) (g : ObjectId) (pkt : ServerPacket)
    (steady : Screen.Steady pkt) (sent : b.sent = a.1.sent) (up : a.2 ≤ g)
    (roster : Scene.Roster routing r taken a → Scene.Roster routing r taken (b, g))
    (heard : Scene.Roster routing r taken a → ∀ inGame screen, Screen.Fits inGame g →
      Screen.Owned screen a.2 → screen.Right routing r a.1 →
        (screen.hear inGame pkt).Right routing r b ∧ (screen.hear inGame pkt).own = screen.own) :
    Scene.Mirrored routing r taken a [] (broadcast routing r pkt b, g) := by
  intro _ before
  have same := Scene.SameObjects.broadcast routing r pkt b
  refine ⟨(roster before).of_same _ same.players same.fields, up, [pkt], ?_, ?_⟩
  · exact (Scene.Spreads.of_sent sent).before (.broadcast pkt steady b)
  · intro inGame screen fits owned right
    obtain ⟨right', own⟩ := heard before inGame screen fits owned right
    exact ⟨right'.same (Scene.shows_of_same same.players same.fields), own⟩

end Scene.Mirrored

def Emission.spoken : Emission → Option ServerPacket
  | .room pkt => some pkt
  | _ => none

/-- What the player's own session gets does not show, and the room hears broadcasts. -/
def Emission.Plain : Emission → Prop
  | .session pkt => pkt.isView = false
  | .room pkt => Screen.Steady pkt
  | .rank _ _ => True

theorem emissions_spread (id : ObjectId) (housed : routing.playerRoom id = some r)
    (emissions : List Emission) (plain : ∀ emission ∈ emissions, emission.Plain) (scene : Scene) :
    Scene.Spreads routing r scene (emissions.foldl (emit routing id) scene)
      (emissions.filterMap Emission.spoken) := by
  induction emissions generalizing scene with
  | nil => exact .refl scene
  | cons head tail ih =>
      have rest := ih (fun emission later => plain emission (List.mem_cons_of_mem head later))
        (emit routing id scene head)
      have now := plain head List.mem_cons_self
      cases head with
      | session pkt =>
          have whispered := Scene.Whispers.sendToPlayer routing id pkt now scene
          exact (Scene.Spreads.whispers whispered).before rest
      | room pkt =>
          have spread :
              Scene.Spreads routing r scene (emit routing id scene (.room pkt)) [pkt] := by
            unfold emit
            rw [housed]
            exact .broadcast pkt now scene
          exact spread.trans rest
      | rank name level =>
          have quiet : (emit routing id scene (.rank name level)).sent = scene.sent := by
            unfold emit Scene.redisCommand
            dsimp only
            split <;> rfl
          exact (Scene.Spreads.of_sent quiet).before rest

theorem untold_spread (id : ObjectId) (emissions : List Emission)
    (untold : Player.Untold emissions) (scene : Scene) :
    Scene.Spreads routing r scene (emissions.foldl (emit routing id) scene) [] := by
  induction emissions generalizing scene with
  | nil => exact .refl scene
  | cons head tail ih =>
      obtain ⟨pkt, hidden, rfl⟩ := untold head List.mem_cons_self
      have rest := ih (fun emission later => untold emission (List.mem_cons_of_mem _ later))
        (emit routing id scene (.session pkt))
      exact (Scene.Spreads.whispers (.sendToPlayer routing id pkt hidden scene)).before rest

theorem acted_mirrored (a : Scene × ObjectId) (id : ObjectId)
    (method : Player → Player × List Emission)
    (named : (method (a.1.players id)).1.info.objectId = (a.1.players id).info.objectId)
    (looks : (method (a.1.players id)).1.info.looks = (a.1.players id).info.looks)
    (pkts : List ServerPacket)
    (spread : ∀ scene, Scene.Spreads routing r scene
      ((method (a.1.players id)).2.foldl (emit routing id) scene) pkts)
    (unheard : ∀ inGame (screen : Screen), (id ∈ playerIds routing r →
      screen.looks id = some (a.1.players id).info.looks) →
        pkts.foldl (Screen.hear inGame) screen = screen) :
    Scene.Mirrored routing r taken a [] (actPlayer routing id method a.1, a.2) := by
  intro _ roster
  have quiet := Scene.Quiet.emissions routing id (method (a.1.players id)).2
    (a.1.setPlayer id (method (a.1.players id)).1)
  have set := roster.setPlayer id (method (a.1.players id)).1 (named.trans (roster.own id))
  refine ⟨set.of_same _ quiet.players quiet.fields, Nat.le_refl _, pkts, ?_, ?_⟩
  · have same : Scene.Spreads routing r a.1 (a.1.setPlayer id (method (a.1.players id)).1) [] :=
      .of_sent rfl
    exact same.before (spread _)
  · intro inGame screen _ owned right
    rw [unheard inGame screen fun standing =>
      (right id _).mpr (.inl ⟨standing, rfl⟩)]
    refine ⟨?_, rfl⟩
    have shown : screen.Right routing r (a.1.setPlayer id (method (a.1.players id)).1) :=
      right.same (roster.setPlayer_unseen id _ looks)
    exact shown.same (Scene.shows_of_same quiet.players quiet.fields)

theorem processLevelUp_looks (p : Player) :
    (Player.processLevelUp data p).1.info.objectId = p.info.objectId ∧
      (Player.processLevelUp data p).1.info.looks =
        { p.info.looks with
          hp := (Player.processLevelUp data p).1.info.maxHp
          maxHp := (Player.processLevelUp data p).1.info.maxHp } := by
  unfold Player.processLevelUp
  dsimp only
  cases data.levelData (p.level + 1) with
  | none => exact ⟨rfl, rfl⟩
  | some row =>
      have looks := Player.recalcStats_looks data
        { p with level := p.level + 1, info := { p.info with maxHp := row.maxHp } }
      have named := congrArg Prod.fst (Player.recalcStats_gait data
        { p with level := p.level + 1, info := { p.info with maxHp := row.maxHp } })
      refine ⟨named, ?_⟩
      unfold Player.applyLevelStats Player.withExtra
      dsimp only
      generalize Player.recalcStats data
        { p with level := p.level + 1, info := { p.info with maxHp := row.maxHp } } = q at looks
      simp only [ObjectInfo.looks, Looks.mk.injEq] at looks ⊢
      exact ⟨looks.1, looks.2.1, looks.2.2.1, trivial, trivial⟩

theorem levelUps_heard (passes : Nat) (p : Player) :
    (Player.levelUps data passes p).1.info.objectId = p.info.objectId ∧
      (∀ emission ∈ (Player.levelUps data passes p).2, emission.Plain) ∧
      ∀ (k : Bool) (screen : Screen), screen.looks p.info.objectId = some p.info.looks →
        ((Player.levelUps data passes p).2.filterMap Emission.spoken).foldl (Screen.hear k) screen =
          screen.put p.info.objectId (some (Player.levelUps data passes p).1.info.looks) := by
  have still (p : Player) :
      p.info.objectId = p.info.objectId ∧ (∀ emission ∈ ([] : List Emission), emission.Plain) ∧
        ∀ (k : Bool) (screen : Screen), screen.looks p.info.objectId = some p.info.looks →
          (([] : List Emission).filterMap Emission.spoken).foldl (Screen.hear k) screen =
            screen.put p.info.objectId (some p.info.looks) :=
    ⟨rfl, List.forall_mem_nil _, fun _ screen known => (screen.put_same _ _ known).symm⟩
  induction passes generalizing p with
  | zero => exact still p
  | succ passes ih =>
      unfold Player.levelUps
      split
      · dsimp only
        split
        · exact still p
        · generalize paid : ({ p with exp := p.exp - Player.maxExp data p.level } : Player) = q
          have info : q.info = p.info := by rw [← paid]
          obtain ⟨named, looks⟩ := processLevelUp_looks data q
          obtain ⟨named', plain, heard⟩ := ih (Player.processLevelUp data q).1
          rw [named, info] at named' heard
          refine ⟨named', ?_, ?_⟩
          · intro emission member
            rcases List.mem_append.mp member with now | later
            · simp only [Player.processLevelUp, List.mem_cons, List.not_mem_nil, or_false] at now
              rcases now with rfl | rfl
              · trivial
              · exact Screen.steady_levelUp _ _ _ _ _ _
            · exact plain emission later
          · intro k screen known
            have said : (Player.processLevelUp data q).2.filterMap Emission.spoken =
                [.levelUp (Player.processLevelUp data q).1.info.objectId
                  (Player.processLevelUp data q).1.level (Player.processLevelUp data q).1.info.maxHp
                  (Player.processLevelUp data q).1.info.attack
                  (Player.processLevelUp data q).1.info.defence
                  (Player.maxExp data (Player.processLevelUp data q).1.level)] := rfl
            have raised : screen.hear k (.levelUp (Player.processLevelUp data q).1.info.objectId
                  (Player.processLevelUp data q).1.level (Player.processLevelUp data q).1.info.maxHp
                  (Player.processLevelUp data q).1.info.attack
                  (Player.processLevelUp data q).1.info.defence
                  (Player.maxExp data (Player.processLevelUp data q).1.level)) =
                screen.put p.info.objectId (some (Player.processLevelUp data q).1.info.looks) := by
              rw [looks, named, info]
              unfold Screen.hear Screen.alter
              dsimp only
              rw [known]
              rfl
            rw [List.filterMap_append, List.foldl_append, said, List.foldl_cons, List.foldl_nil,
              raised, heard, Screen.put_put]
            rw [Screen.put_looks, if_pos rfl]
      · exact still p

theorem gainExp_heard (share : Int) (p : Player) :
    (Player.gainExp data share p).1.info.objectId = p.info.objectId ∧
      (∀ emission ∈ (Player.gainExp data share p).2, emission.Plain) ∧
      ∀ (k : Bool) (screen : Screen), screen.looks p.info.objectId = some p.info.looks →
        ((Player.gainExp data share p).2.filterMap Emission.spoken).foldl (Screen.hear k) screen =
          screen.put p.info.objectId (some (Player.gainExp data share p).1.info.looks) := by
  have still : p.info.objectId = p.info.objectId ∧
      (∀ emission ∈ ([] : List Emission), emission.Plain) ∧
        ∀ (k : Bool) (screen : Screen), screen.looks p.info.objectId = some p.info.looks →
          (([] : List Emission).filterMap Emission.spoken).foldl (Screen.hear k) screen =
            screen.put p.info.objectId (some p.info.looks) :=
    ⟨rfl, List.forall_mem_nil _, fun _ screen known => (screen.put_same _ _ known).symm⟩
  unfold Player.gainExp
  split
  · exact still
  · split
    · exact still
    · obtain ⟨named, plain, heard⟩ := levelUps_heard data (Player.maxLevel - p.level).toNat
        { p with exp := p.exp + share }
      refine ⟨named, ?_, ?_⟩
      · intro emission member
        rcases List.mem_append.mp member with ups | last
        · exact plain emission ups
        · rw [List.mem_singleton.mp last]
          rfl
      · intro k screen known
        dsimp only
        rw [List.filterMap_append]
        have last (emission : ServerPacket) :
            [Emission.session emission].filterMap Emission.spoken = [] := rfl
        rw [last, List.append_nil, heard k screen known]
        rfl

namespace Scene

variable {taken : ObjectId → Prop} {a : Scene × ObjectId}

theorem Roster.setMonster_alters (roster : Roster routing r taken a) (m m' : Monster)
    (member : m ∈ (a.1.fields r).monsters) (named : m'.info.objectId = m.info.objectId) :
    a.1.Alters routing r m.info.objectId (some m'.info.looks) (a.1.setMonster r m') := by
  have listed : m'.info.objectId ∈ (a.1.fields r).monsters.map (·.info.objectId) :=
    List.mem_map.mpr ⟨m, member, named.symm⟩
  have field : ((a.1.setMonster r m').fields r).projectiles = (a.1.fields r).projectiles := by
    unfold setMonster setField
    dsimp only
    rw [Function.update_self]
  apply monsters_alter (b := a.1.setMonster r m') m.info.objectId (some m') _
    (roster.monster_away m member) (roster.monster_no_arrow m member) rfl field
  · intro x
    rw [mem_setMonster_iff r m' x a.1 listed, named, Option.some.injEq]
    exact or_congr_left eq_comm
  · intro x same
    rw [← Option.some.inj same, named]

theorem Roster.setMonster (roster : Roster routing r taken a) (m m' : Monster)
    (member : m ∈ (a.1.fields r).monsters) (follows : m.Follows routing r m') :
    Roster routing r taken (a.1.setMonster r m', a.2) := by
  have listed : m'.info.objectId ∈ (a.1.fields r).monsters.map (·.info.objectId) :=
    List.mem_map.mpr ⟨m, member, follows.named.symm⟩
  have ids : ((a.1.setMonster r m').fields r).ids = (a.1.fields r).ids := by
    unfold Field.ids
    rw [setMonster_ids]
    unfold Scene.setMonster setField
    dsimp only
    rw [Function.update_self]
  apply roster.fewer (a.1.setMonster r m') rfl
  · rw [ids]
  · intro x found id aims
    rcases (mem_setMonster_iff r m' x a.1 listed).mp found with rfl | ⟨old, -⟩
    · rcases follows.target with same | none | ⟨id', standing, same⟩
      · exact roster.targets m member id (same.symm.trans aims)
      · rw [none] at aims
        cases aims
      · rw [same] at aims
        rw [← Option.some.inj aims]
        exact roster.players id' standing
    · exact roster.targets x old id aims

theorem Roster.dropMonster_alters (roster : Roster routing r taken a) (m : Monster)
    (member : m ∈ (a.1.fields r).monsters) :
    a.1.Alters routing r m.info.objectId none (a.1.dropMonster r m) := by
  have field := dropMonster_field a.1 r m
  apply monsters_alter (b := a.1.dropMonster r m) m.info.objectId none _
    (roster.monster_away m member) (roster.monster_no_arrow m member) rfl field.2.1
  · intro x
    rw [field.1]
    simp only [reduceCtorEq, false_or, List.mem_filter, decide_eq_true_eq]
  · intro x absent
    cases absent

theorem Roster.dropMonster (roster : Roster routing r taken a) (m : Monster) :
    Roster routing r taken (a.1.dropMonster r m, a.2) := by
  have field := dropMonster_field a.1 r m
  apply roster.fewer (a.1.dropMonster r m) rfl
  · unfold Field.ids
    rw [field.1, field.2.1]
    exact (List.filter_sublist.map _).append_right _
  · intro x found
    rw [field.1] at found
    exact roster.targets x (List.mem_filter.mp found).1

theorem setProjectile_ids (arrow : Arrow) (scene : Scene) :
    ((scene.setProjectile r arrow).fields r).projectiles.map (·.info.objectId) =
      (scene.fields r).projectiles.map (·.info.objectId) := by
  simp only [Scene.setProjectile, Scene.setField, Function.update_self, List.map_map]
  apply List.map_congr_left
  intro old _
  simp only [Function.comp_apply]
  split
  case isTrue named => exact named.symm
  case isFalse => rfl

theorem mem_setProjectile_iff (arrow x : Arrow) (scene : Scene)
    (named : arrow.info.objectId ∈ (scene.fields r).projectiles.map (·.info.objectId)) :
    x ∈ ((scene.setProjectile r arrow).fields r).projectiles ↔
      x = arrow ∨ x ∈ (scene.fields r).projectiles ∧ x.info.objectId ≠ arrow.info.objectId := by
  obtain ⟨known, member, same⟩ := List.mem_map.mp named
  simp only [Scene.setProjectile, Scene.setField, Function.update_self, List.mem_map]
  constructor
  · intro found
    obtain ⟨old, listed, result⟩ := found
    split at result
    case isTrue => exact .inl result.symm
    case isFalse apart => exact .inr (result ▸ ⟨listed, apart⟩)
  · intro found
    rcases found with rfl | ⟨listed, apart⟩
    · exact ⟨known, member, if_pos same⟩
    · exact ⟨x, listed, if_neg apart⟩

theorem Roster.setProjectile_alters (roster : Roster routing r taken a) (arrow arrow' : Arrow)
    (member : arrow ∈ (a.1.fields r).projectiles)
    (named : arrow'.info.objectId = arrow.info.objectId) :
    a.1.Alters routing r arrow.info.objectId (some arrow'.info.looks)
      (a.1.setProjectile r arrow') := by
  have listed : arrow'.info.objectId ∈ (a.1.fields r).projectiles.map (·.info.objectId) :=
    List.mem_map.mpr ⟨arrow, member, named.symm⟩
  have field : ((a.1.setProjectile r arrow').fields r).monsters = (a.1.fields r).monsters := by
    unfold setProjectile setField
    dsimp only
    rw [Function.update_self]
  apply arrows_alter (b := a.1.setProjectile r arrow') arrow.info.objectId (some arrow')
    _ (roster.arrow_away arrow member) (roster.arrow_no_monster arrow member) rfl field
  · intro x
    rw [mem_setProjectile_iff arrow' x a.1 listed, named, Option.some.injEq]
    exact or_congr_left eq_comm
  · intro x same
    rw [← Option.some.inj same, named]

theorem Roster.setProjectile (roster : Roster routing r taken a) (arrow' : Arrow) :
    Roster routing r taken (a.1.setProjectile r arrow', a.2) := by
  have monsters : ((a.1.setProjectile r arrow').fields r).monsters = (a.1.fields r).monsters := by
    unfold Scene.setProjectile setField
    dsimp only
    rw [Function.update_self]
  apply roster.fewer (a.1.setProjectile r arrow') rfl
  · unfold Field.ids
    rw [setProjectile_ids, monsters]
  · rw [monsters]
    exact roster.targets

/-- `removeProjectile` without its broadcast. -/
def dropArrow (scene : Scene) (r : RoomRef) (id : ObjectId) : Scene :=
  let field := scene.fields r
  scene.setField r { field with projectiles := field.projectiles.filter (·.info.objectId ≠ id) }

theorem dropArrow_field (scene : Scene) (id : ObjectId) :
    (scene.dropArrow r id).fields r =
      { scene.fields r with
        projectiles := (scene.fields r).projectiles.filter (·.info.objectId ≠ id) } := by
  unfold dropArrow setField
  dsimp only
  rw [Function.update_self]

theorem Roster.dropArrow_alters (roster : Roster routing r taken a) (arrow : Arrow)
    (member : arrow ∈ (a.1.fields r).projectiles) :
    a.1.Alters routing r arrow.info.objectId none (a.1.dropArrow r arrow.info.objectId) := by
  apply arrows_alter (b := a.1.dropArrow r arrow.info.objectId) arrow.info.objectId none _
    (roster.arrow_away arrow member) (roster.arrow_no_monster arrow member) rfl
  · rw [dropArrow_field]
  · intro x
    rw [dropArrow_field]
    simp only [reduceCtorEq, false_or, List.mem_filter, decide_eq_true_eq]
  · intro x absent
    cases absent

theorem Roster.dropArrow (roster : Roster routing r taken a) (id : ObjectId) :
    Roster routing r taken (a.1.dropArrow r id, a.2) := by
  apply roster.fewer (a.1.dropArrow r id) rfl
  · rw [dropArrow_field]
    exact (List.filter_sublist.map _).append_left _
  · rw [dropArrow_field]
    exact roster.targets

def newMonster (scene : Scene) (r : RoomRef) (m : Monster) : Scene :=
  let field := scene.fields r
  scene.setField r { field with monsters := field.monsters ++ [m] }

def newArrow (scene : Scene) (r : RoomRef) (arrow : Arrow) : Scene :=
  let field := scene.fields r
  scene.setField r { field with projectiles := field.projectiles ++ [arrow] }

theorem newMonster_field (scene : Scene) (m : Monster) :
    (scene.newMonster r m).fields r =
      { scene.fields r with monsters := (scene.fields r).monsters ++ [m] } := by
  unfold newMonster setField
  dsimp only
  rw [Function.update_self]

theorem newArrow_field (scene : Scene) (arrow : Arrow) :
    (scene.newArrow r arrow).fields r =
      { scene.fields r with projectiles := (scene.fields r).projectiles ++ [arrow] } := by
  unfold newArrow setField
  dsimp only
  rw [Function.update_self]

theorem Roster.unused (roster : Roster routing r taken a) :
    a.2 ∉ playerIds routing r ∧ (∀ m ∈ (a.1.fields r).monsters, m.info.objectId ≠ a.2) ∧
      ∀ arrow ∈ (a.1.fields r).projectiles, arrow.info.objectId ≠ a.2 := by
  refine ⟨?_, ?_, ?_⟩
  · exact fun standing => Nat.lt_irrefl _ (roster.fresh _ (roster.players _ standing))
  · intro m member same
    have below := roster.below _ (List.mem_append_left _ (List.mem_map_of_mem member))
    exact Nat.lt_irrefl _ (same ▸ below.1)
  · intro arrow member same
    have below := roster.below _ (List.mem_append_right _ (List.mem_map_of_mem member))
    exact Nat.lt_irrefl _ (same ▸ below.1)

theorem Roster.newMonster_alters (roster : Roster routing r taken a) (m : Monster)
    (named : m.info.objectId = a.2) :
    a.1.Alters routing r a.2 (some m.info.looks) (a.1.newMonster r m) := by
  obtain ⟨away, no_monster, no_arrow⟩ := roster.unused
  apply monsters_alter (b := a.1.newMonster r m) a.2 (some m) _ away no_arrow rfl
  · rw [newMonster_field]
  · intro x
    rw [newMonster_field, List.mem_append, List.mem_singleton, or_comm, Option.some.injEq]
    apply or_congr eq_comm
    exact ⟨fun member => ⟨member, no_monster x member⟩, And.left⟩
  · intro x same
    rw [← Option.some.inj same, named]

theorem Roster.newMonster (roster : Roster routing r taken a) (m : Monster)
    (named : m.info.objectId = a.2) (fresh : m.target = none) :
    Roster routing r taken (a.1.newMonster r m, a.2 + 1) := by
  apply roster.grown (a.1.newMonster r m) rfl
  · rw [newMonster_field]
    unfold Field.ids
    dsimp only
    rw [List.map_append, List.map_singleton, named, List.append_assoc]
    exact List.perm_middle
  · rw [newMonster_field]
    intro x found id aims
    rcases List.mem_append.mp found with old | new
    · exact roster.targets x old id aims
    · rw [List.mem_singleton.mp new, fresh] at aims
      cases aims

theorem Roster.newArrow_alters (roster : Roster routing r taken a) (arrow : Arrow)
    (named : arrow.info.objectId = a.2) :
    a.1.Alters routing r a.2 (some arrow.info.looks) (a.1.newArrow r arrow) := by
  obtain ⟨away, no_monster, no_arrow⟩ := roster.unused
  apply arrows_alter (b := a.1.newArrow r arrow) a.2 (some arrow) _ away no_monster rfl
  · rw [newArrow_field]
  · intro x
    rw [newArrow_field, List.mem_append, List.mem_singleton, or_comm, Option.some.injEq]
    apply or_congr eq_comm
    exact ⟨fun member => ⟨member, no_arrow x member⟩, And.left⟩
  · intro x same
    rw [← Option.some.inj same, named]

theorem Roster.newArrow (roster : Roster routing r taken a) (arrow : Arrow)
    (named : arrow.info.objectId = a.2) :
    Roster routing r taken (a.1.newArrow r arrow, a.2 + 1) := by
  apply roster.grown (a.1.newArrow r arrow) rfl
  · rw [newArrow_field]
    unfold Field.ids
    dsimp only
    rw [List.map_append, List.map_singleton, named, ← List.append_assoc]
    exact List.perm_append_singleton _ _
  · rw [newArrow_field]
    exact roster.targets

end Scene

theorem onDamaged_looks (info : ObjectInfo) (damage : Int) :
    (info.onDamaged damage).looks = { info.looks with hp := (info.onDamaged damage).hp } := by
  unfold ObjectInfo.onDamaged
  split <;> rfl

theorem unheard_all (inGame : Bool) (screen : Screen) (pkts : List ServerPacket)
    (unheard : ∀ pkt ∈ pkts, screen.hear inGame pkt = screen) :
    pkts.foldl (Screen.hear inGame) screen = screen := by
  induction pkts with
  | nil => rfl
  | cons pkt pkts ih =>
      rw [List.foldl_cons, unheard pkt List.mem_cons_self]
      exact ih fun pkt' later => unheard pkt' (List.mem_cons_of_mem pkt later)

theorem hear_move_known (inGame : Bool) (screen : Screen) (info : ObjectInfo)
    (known : screen.looks info.objectId = some info.looks) :
    screen.hear inGame (.move info) = screen := by
  unfold Screen.hear Screen.alter
  dsimp only
  apply Screen.put_same
  rw [known]
  rfl

theorem moves_right {screen : Screen} {a b : Scene} (right : screen.Right routing r a)
    (inGame : Bool) (info : ObjectInfo) (old new : Looks)
    (known : a.Shows routing r info.objectId old) (changes : Screen.Looks.at info old = new)
    (alters : a.Alters routing r info.objectId (some new) b) :
    (screen.hear inGame (.move info)).Right routing r b ∧
      (screen.hear inGame (.move info)).own = screen.own :=
  ⟨right.alter info.objectId old new (Screen.Looks.at info) known changes alters, rfl⟩

theorem damages_right {screen : Screen} {a b : Scene} (right : screen.Right routing r a)
    (inGame : Bool) (attackerId id : ObjectId) (old : Looks) (newHp damage : Int)
    (known : a.Shows routing r id old)
    (alters : a.Alters routing r id (some { old with hp := newHp }) b) :
    (screen.hear inGame (.damaged attackerId id newHp damage)).Right routing r b ∧
      (screen.hear inGame (.damaged attackerId id newHp damage)).own = screen.own :=
  ⟨right.alter id old _ _ known rfl alters, rfl⟩

theorem adds_right {screen : Screen} {a b : Scene} (right : screen.Right routing r a)
    (inGame : Bool) (info : ObjectInfo) (other : screen.own ≠ some info.objectId)
    (alters : a.Alters routing r info.objectId (some info.looks) b) :
    (screen.hear inGame (.addObject ⟨[info]⟩)).Right routing r b ∧
      (screen.hear inGame (.addObject ⟨[info]⟩)).own = screen.own := by
  have shown : screen.hear inGame (.addObject ⟨[info]⟩) =
      screen.put info.objectId (some info.looks) := if_neg fun same => other same.2
  rw [shown]
  exact ⟨right.put info.objectId _ alters, rfl⟩

theorem Screen.Fits.lt {inGame : Bool} {g id : ObjectId} (fits : Screen.Fits inGame g)
    (below : id < g) (game : inGame = true) : id < Screen.idLimit :=
  Nat.lt_of_lt_of_le below (fits game)

theorem hear_remove (inGame : Bool) (screen : Screen) (id : ObjectId)
    (small : inGame = true → id < Screen.idLimit) :
    screen.hear inGame (.removeObject [id]) = screen.put id none := by
  unfold Screen.hear
  dsimp only [List.foldl_cons, List.foldl_nil]
  unfold Screen.remove
  split
  case isTrue game => rw [Screen.narrow_small id (small game)]
  case isFalse => rfl

theorem removes_right {screen : Screen} {a b : Scene} (right : screen.Right routing r a)
    (inGame : Bool) (id : ObjectId) (small : inGame = true → id < Screen.idLimit)
    (alters : a.Alters routing r id none b) :
    (screen.hear inGame (.removeObject [id])).Right routing r b ∧
      (screen.hear inGame (.removeObject [id])).own = screen.own := by
  rw [hear_remove inGame screen id small]
  exact ⟨right.put id none alters, rfl⟩

section Mirrors

variable {taken : ObjectId → Prop}
  (housed : ∀ id ∈ playerIds routing r, routing.playerRoom id = some r) (a : Scene × ObjectId)

namespace Scene.Mirrored

include housed in
theorem gained (id : ObjectId) (share : Int) :
    Scene.Mirrored routing r taken a [(id, share)]
      (actPlayer routing id (Player.gainExp data share) a.1, a.2) := by
  intro crew roster
  have standing : id ∈ playerIds routing r := crew (id, share) List.mem_cons_self
  obtain ⟨named, plain, heard⟩ := gainExp_heard data share (a.1.players id)
  rw [roster.own id] at named heard
  have quiet := Scene.Quiet.emissions routing id (Player.gainExp data share (a.1.players id)).2
    (a.1.setPlayer id (Player.gainExp data share (a.1.players id)).1)
  have set := roster.setPlayer id _ named
  have spread := emissions_spread id (housed id standing) _ plain
    (a.1.setPlayer id (Player.gainExp data share (a.1.players id)).1)
  refine ⟨set.of_same _ quiet.players quiet.fields, Nat.le_refl _, _,
    (Scene.Spreads.of_sent rfl).before spread, ?_⟩
  intro inGame screen _ _ right
  have known : screen.looks id = some (a.1.players id).info.looks :=
    (right id _).mpr (.inl ⟨standing, rfl⟩)
  rw [heard inGame screen known]
  have put := right.put id _
    (roster.setPlayer_alters id (Player.gainExp data share (a.1.players id)).1 standing)
  exact ⟨put.same (Scene.shows_of_same quiet.players quiet.fields), rfl⟩

theorem looted (id : ObjectId) (itemId : Int) :
    Scene.Mirrored routing r taken a []
      (actPlayer routing id (fun p => (Player.addItem data itemId 1 p).2) a.1, a.2) := by
  obtain ⟨info, -, untold⟩ := Player.addItem_told data itemId 1 (a.1.players id)
  apply acted_mirrored a id _ _ _ []
  · exact untold_spread id _ untold
  · exact fun _ _ _ => rfl
  · exact congrArg ObjectInfo.objectId info
  · exact congrArg ObjectInfo.looks info

include housed in
theorem ticked (id : ObjectId) (standing : id ∈ playerIds routing r) :
    Scene.Mirrored routing r taken a []
      (actPlayer routing id (Player.update a.1.now) a.1, a.2) := by
  intro crew roster
  obtain ⟨looks, -, told⟩ := Player.update_told a.1.now (a.1.players id)
  have named : (Player.update a.1.now (a.1.players id)).1.info.objectId = id := by
    unfold Player.update
    split <;> exact roster.own id
  apply acted_mirrored a id _ _ looks
    ((Player.update a.1.now (a.1.players id)).2.filterMap Emission.spoken) _ _ crew roster
  · rw [named, roster.own id]
  · apply emissions_spread id (housed id standing)
    intro emission member
    rw [told emission member]
    exact Screen.steady_move _
  · intro inGame screen known
    apply unheard_all
    intro pkt said
    obtain ⟨emission, member, spoken⟩ := List.mem_filterMap.mp said
    rw [told emission member] at spoken
    rw [← Option.some.inj spoken]
    apply hear_move_known
    rw [named, looks]
    exact known standing

theorem hurt (attacker id : ObjectId) (damage : Int)
    (aimed : id ∈ playerIds routing r ∨ ∃ m ∈ (a.1.fields r).monsters, m.target = some id) :
    Scene.Mirrored routing r taken a []
      (broadcast routing r
        (damaged attacker ((a.1.hurtPlayer id damage).players id).info damage)
        (a.1.hurtPlayer id damage), a.2) := by
  have set : (a.1.hurtPlayer id damage).players id = (a.1.players id).onDamaged damage := by
    unfold Scene.hurtPlayer
    rw [setPlayer_players, if_pos rfl]
  rw [set]
  have named (roster : Scene.Roster routing r taken a) :
      ((a.1.players id).onDamaged damage).info.objectId = id :=
    (onDamaged_keeps (a.1.players id).info damage).1.trans (roster.own id)
  apply told
  · exact Screen.steady_damaged _ _ _ _
  · rfl
  · exact Nat.le_refl _
  · exact fun roster => roster.setPlayer id _ (named roster)
  · intro roster inGame screen _ _ right
    unfold damaged
    rw [named roster]
    by_cases standing : id ∈ playerIds routing r
    · apply damages_right right inGame attacker id (a.1.players id).info.looks
      · exact .inl ⟨standing, rfl⟩
      · have alters := roster.setPlayer_alters id ((a.1.players id).onDamaged damage) standing
        unfold Player.onDamaged at alters ⊢
        rwa [onDamaged_looks] at alters
    · refine ⟨?_, rfl⟩
      have is_taken : taken id := by
        rcases aimed with here | ⟨m, member, aims⟩
        · exact absurd here standing
        · exact roster.targets m member id aims
      have unknown (looks : Looks) : ¬ a.1.Shows routing r id looks :=
        fun shown => standing ((roster.shows_player id is_taken looks).mp shown).1
      apply (right.alter_unknown id _ unknown).same
      intro other looks
      apply setPlayer_shows
      exact fun here same => standing (same ▸ here)

theorem kept (m m' : Monster) (member : m ∈ (a.1.fields r).monsters)
    (follows : m.Follows routing r m') (looks : m'.info.looks = m.info.looks) :
    Scene.Mirrored routing r taken a [] (a.1.setMonster r m', a.2) := by
  apply silent
  · rfl
  · exact fun roster => roster.setMonster m m' member follows
  · intro roster id looks'
    rw [roster.setMonster_alters m m' member follows.named id looks', looks]
    split
    case isTrue same =>
      rw [same, roster.shows_monster m member, Option.some.injEq]
    case isFalse => exact Iff.rfl

theorem moved (m m' : Monster) (member : m ∈ (a.1.fields r).monsters)
    (follows : m.Follows routing r m')
    (health : m'.info.hp = m.info.hp ∧ m'.info.maxHp = m.info.maxHp) :
    Scene.Mirrored routing r taken a []
      (broadcast routing r (.move m'.info) (a.1.setMonster r m'), a.2) := by
  apply told
  · exact Screen.steady_move _
  · rfl
  · exact Nat.le_refl _
  · exact fun roster => roster.setMonster m m' member follows
  · intro roster inGame screen _ _ right
    apply moves_right right inGame m'.info m.info.looks m'.info.looks
    · exact .inr (.inl ⟨m, member, follows.named.symm, rfl⟩)
    · simp only [Screen.Looks.at, ObjectInfo.looks, health.1, health.2]
    · rw [follows.named]
      exact roster.setMonster_alters m m' member follows.named

theorem hit (attacker : ObjectId) (damage : Int) (m : Monster)
    (member : m ∈ (a.1.fields r).monsters) :
    Scene.Mirrored routing r taken a [] ((hitMonster routing r attacker damage m a.1).2, a.2) := by
  have named := (onDamaged_keeps m.info damage).1
  have follows : m.Follows routing r (m.damaged damage) := .same named rfl
  apply told
  · exact Screen.steady_damaged _ _ _ _
  · rfl
  · exact Nat.le_refl _
  · exact fun roster => roster.setMonster m (m.damaged damage) member follows
  · intro roster inGame screen _ _ right
    unfold damaged
    dsimp only
    rw [named]
    apply damages_right right inGame attacker m.info.objectId m.info.looks
    · exact .inr (.inl ⟨m, member, rfl, rfl⟩)
    · have alters := roster.setMonster_alters m (m.damaged damage) member named
      unfold Monster.damaged at alters
      rwa [onDamaged_looks] at alters

theorem removed (m : Monster) (member : m ∈ (a.1.fields r).monsters) :
    Scene.Mirrored routing r taken a [] (removeMonster routing r m a.1, a.2) := by
  apply told a (a.1.dropMonster r m)
  · exact Screen.steady_remove m.info.objectId
  · rfl
  · exact Nat.le_refl _
  · exact fun roster => roster.dropMonster m
  · intro roster inGame screen fits _ right
    have below := (roster.below _ (List.mem_append_left _ (List.mem_map_of_mem member))).1
    exact removes_right right inGame m.info.objectId (fits.lt below)
      (roster.dropMonster_alters m member)

theorem arrowKept (arrow arrow' : Arrow) (member : arrow ∈ (a.1.fields r).projectiles)
    (info : arrow'.info = arrow.info) :
    Scene.Mirrored routing r taken a [] (a.1.setProjectile r arrow', a.2) := by
  apply silent
  · rfl
  · exact fun roster => roster.setProjectile arrow'
  · intro roster id looks'
    rw [roster.setProjectile_alters arrow arrow' member (congrArg _ info) id looks', info]
    split
    case isTrue same =>
      rw [same, roster.shows_arrow arrow member, Option.some.injEq]
    case isFalse => exact Iff.rfl

theorem arrowMoved (arrow arrow' : Arrow) (info : ObjectInfo)
    (member : arrow ∈ (a.1.fields r).projectiles)
    (named : arrow'.info.objectId = arrow.info.objectId ∧ info.objectId = arrow.info.objectId)
    (looks : info.looks = arrow'.info.looks)
    (health : arrow'.info.hp = arrow.info.hp ∧ arrow'.info.maxHp = arrow.info.maxHp) :
    Scene.Mirrored routing r taken a []
      (broadcast routing r (.move info) (a.1.setProjectile r arrow'), a.2) := by
  apply told
  · exact Screen.steady_move _
  · rfl
  · exact Nat.le_refl _
  · exact fun roster => roster.setProjectile arrow'
  · intro roster inGame screen _ _ right
    apply moves_right right inGame info arrow.info.looks info.looks
    · exact .inr (.inr ⟨arrow, member, named.2.symm, rfl⟩)
    · have hp : info.hp = arrow.info.hp := (congrArg Looks.hp looks).trans health.1
      have maxHp : info.maxHp = arrow.info.maxHp := (congrArg Looks.maxHp looks).trans health.2
      simp only [Screen.Looks.at, ObjectInfo.looks, hp, maxHp]
    · rw [named.2, looks]
      exact roster.setProjectile_alters arrow arrow' member named.1

theorem echoed (arrow : Arrow) (member : arrow ∈ (a.1.fields r).projectiles) :
    Scene.Mirrored routing r taken a [] (broadcast routing r (.move arrow.info) a.1, a.2) := by
  apply told
  · exact Screen.steady_move _
  · rfl
  · exact Nat.le_refl _
  · exact id
  · intro roster inGame screen _ _ right
    have known : screen.looks arrow.info.objectId = some arrow.info.looks :=
      (right _ _).mpr (.inr (.inr ⟨arrow, member, rfl, rfl⟩))
    rw [hear_move_known inGame screen arrow.info known]
    exact ⟨right, rfl⟩

theorem arrowRemoved (arrow : Arrow) (member : arrow ∈ (a.1.fields r).projectiles) :
    Scene.Mirrored routing r taken a []
      (removeProjectile routing r arrow.info.objectId a.1, a.2) := by
  apply told a (a.1.dropArrow r arrow.info.objectId)
  · exact Screen.steady_remove arrow.info.objectId
  · rfl
  · exact Nat.le_refl _
  · exact fun roster => roster.dropArrow arrow.info.objectId
  · intro roster inGame screen fits _ right
    have below := (roster.below _ (List.mem_append_right _ (List.mem_map_of_mem member))).1
    exact removes_right right inGame arrow.info.objectId (fits.lt below)
      (roster.dropArrow_alters arrow member)

theorem queued (respawnQueue : List RespawnRequest) :
    Scene.Mirrored routing r taken a []
      (a.1.setField r { a.1.fields r with respawnQueue }, a.2) := by
  have field : (a.1.setField r { a.1.fields r with respawnQueue }).fields r =
      { a.1.fields r with respawnQueue } := by
    unfold Scene.setField
    dsimp only
    rw [Function.update_self]
  apply silent
  · rfl
  · intro roster
    apply roster.fewer (a.1.setField r { a.1.fields r with respawnQueue }) rfl
    · rw [field]
      exact List.Sublist.refl _
    · rw [field]
      exact roster.targets
  · intro roster id looks
    unfold Scene.Shows
    rw [field]
    rfl

theorem born (m : Monster) (named : m.info.objectId = a.2) (fresh : m.target = none) :
    Scene.Mirrored routing r taken a [] (addMonster routing r m a.1, a.2 + 1) := by
  apply told a (a.1.newMonster r m)
  · exact Screen.steady_add m.info
  · rfl
  · exact Nat.le_succ _
  · exact fun roster => roster.newMonster m named fresh
  · intro roster inGame screen _ owned right
    apply adds_right right inGame m.info
    · rw [named]
      exact fun same => Nat.lt_irrefl _ (owned a.2 same)
    · rw [named]
      exact roster.newMonster_alters m named

theorem fired (arrow : Arrow) (named : arrow.info.objectId = a.2) :
    Scene.Mirrored routing r taken a [] (addArrow routing r arrow a.1, a.2 + 1) := by
  apply told a (a.1.newArrow r arrow)
  · exact Screen.steady_add arrow.info
  · rfl
  · exact Nat.le_succ _
  · exact fun roster => roster.newArrow arrow named
  · intro roster inGame screen _ owned right
    apply adds_right right inGame arrow.info
    · rw [named]
      exact fun same => Nat.lt_irrefl _ (owned a.2 same)
    · rw [named]
      exact roster.newArrow_alters arrow named

end Scene.Mirrored

variable {a}

include housed in
theorem beat_mirrored {b : Scene × ObjectId} {granted : List (ObjectId × Int)}
    (beat : Scene.Beat data routing r a granted b) :
    Scene.Mirrored routing r taken a granted b := by
  cases beat with
  | failed fault other => exact .unchanged a (a.1.fail fault) rfl rfl rfl
  | drew rand => exact .unchanged a { a.1 with rand } rfl rfl rfl
  | struck attacker pkt =>
      apply Scene.Mirrored.told a a.1 a.2 _ (Screen.steady_hidden _ rfl) rfl (Nat.le_refl _) id
      intro _ inGame screen _ _ right
      rw [Screen.hear_hidden inGame screen _ rfl]
      exact ⟨right, rfl⟩
  | gained id share worth => exact .gained data housed a id share
  | looted id itemId => exact .looted data a id itemId
  | ticked id member => exact .ticked housed a id member
  | hurt attacker id damage aimed => exact .hurt a attacker id damage aimed
  | kept m m' member follows looks => exact .kept a m m' member follows looks
  | moved m m' member follows health => exact .moved a m m' member follows health
  | hit attacker damage m member => exact .hit a attacker damage m member
  | removed m member => exact .removed a m member
  | arrowKept arrow arrow' member info => exact .arrowKept a arrow arrow' member info
  | arrowMoved arrow arrow' info member named looks health =>
      exact .arrowMoved a arrow arrow' info member named looks health
  | echoed arrow member => exact .echoed a arrow member
  | arrowRemoved arrow member => exact .arrowRemoved a arrow member
  | queued respawnQueue => exact .queued a respawnQueue
  | born m named fresh => exact .born a m named fresh
  | fired arrow named => exact .fired a arrow named

include housed in
theorem beats_mirrored {b : Scene × ObjectId} {granted : List (ObjectId × Int)}
    (beats : Scene.Beats data routing r a granted b) :
    Scene.Mirrored routing r taken a granted b := by
  apply beats.relates (Scene.Mirrored routing r taken)
  · exact .refl
  · exact fun _ _ _ _ _ beat rest => (beat_mirrored data housed beat).trans rest

end Mirrors

end Room

end ZeldaServer
