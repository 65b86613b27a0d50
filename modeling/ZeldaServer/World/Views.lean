import ZeldaServer.World.Beats

/-! What a client makes of the packets it is sent, against what there is in a room. A
change of one object and its packet are set against each other. -/

namespace ZeldaServer

/-- `MyPlayer` and the objects of the scene, as far as the packets set them. -/
structure Screen where
  own : Option ObjectId
  looks : ObjectId → Option Looks

namespace Screen

def empty : Screen := ⟨none, fun _ => none⟩

def put (screen : Screen) (id : ObjectId) (looks : Option Looks) : Screen :=
  { screen with looks := Function.update screen.looks id looks }

def alter (screen : Screen) (id : ObjectId) (f : Looks → Looks) : Screen :=
  screen.put id ((screen.looks id).map f)

def Looks.at (info : ObjectInfo) (looks : Looks) : Looks :=
  { looks with posX := info.posX, posY := info.posY, dir := info.dir }

/-- `int32 id = pkt.ids(i)`, and the `uint64` it is compared with. -/
def narrow (id : ObjectId) : ObjectId :=
  if id % 2 ^ 32 < 2 ^ 31 then id % 2 ^ 32 else id % 2 ^ 32 + (2 ^ 64 - 2 ^ 32)

/-- The ids from here on do not fit into an `int32`. -/
def idLimit : ObjectId := 2 ^ 31

theorem narrow_small (id : ObjectId) (small : id < idLimit) : narrow id = id := by
  unfold idLimit at small
  have whole : id % 2 ^ 32 = id := Nat.mod_eq_of_lt (Nat.lt_trans small (by decide))
  unfold narrow
  rw [whole, if_pos small]

/-- `Handle_S_AddObject`: the game passes over its own player. -/
def add (inGame : Bool) (screen : Screen) (info : ObjectInfo) : Screen :=
  if inGame ∧ screen.own = some info.objectId then screen
  else screen.put info.objectId (some info.looks)

/-- `Handle_S_RemoveObject`: the game takes the ids for `int32`. -/
def remove (inGame : Bool) (screen : Screen) (id : ObjectId) : Screen :=
  screen.put (if inGame then narrow id else id) none

def hear (inGame : Bool) (screen : Screen) : ServerPacket → Screen
  | .myPlayer info => { screen.put info.objectId (some info.looks) with own := some info.objectId }
  | .addObject pkt => pkt.objects.foldl (add inGame) screen
  | .removeObject ids => ids.foldl (remove inGame) screen
  | .move info | .turn info => screen.alter info.objectId (Looks.at info)
  | .damaged _ targetId newHp _ => screen.alter targetId fun looks => { looks with hp := newHp }
  | .levelUp id _ maxHp _ _ _ => screen.alter id fun looks => { looks with hp := maxHp, maxHp }
  | .useItem _ _ newHp =>
      match screen.own with
      | some id => screen.alter id fun looks => { looks with hp := newHp }
      | none => screen
  | _ => screen

theorem hear_hidden (inGame : Bool) (screen : Screen) (pkt : ServerPacket)
    (hidden : pkt.isView = false) : screen.hear inGame pkt = screen := by
  cases pkt <;> first | rfl | cases hidden

theorem put_put (screen : Screen) (id : ObjectId) (first second : Option Looks) :
    (screen.put id first).put id second = screen.put id second := by
  unfold put
  rw [Function.update_idem]

theorem put_same (screen : Screen) (id : ObjectId) (looks : Option Looks)
    (same : screen.looks id = looks) : screen.put id looks = screen := by
  unfold put
  rw [← same, Function.update_eq_self]

@[simp] theorem put_own (screen : Screen) (id : ObjectId) (looks : Option Looks) :
    (screen.put id looks).own = screen.own := rfl

theorem put_looks (screen : Screen) (id other : ObjectId) (looks : Option Looks) :
    (screen.put id looks).looks other = if other = id then looks else screen.looks other := by
  unfold put
  dsimp only
  by_cases same : other = id
  · rw [if_pos same, same, Function.update_self]
  · rw [if_neg same, Function.update_of_ne same]

theorem alter_twice (screen : Screen) (id : ObjectId) (f : Looks → Looks)
    (steady : ∀ looks, f (f looks) = f looks) :
    (screen.alter id f).alter id f = screen.alter id f := by
  unfold alter
  rw [put_put, put_looks, if_pos rfl, Option.map_map]
  congr 2
  funext looks
  exact steady looks

def Steady (pkt : ServerPacket) : Prop :=
  ∀ (inGame : Bool) (screen : Screen),
    (screen.hear inGame pkt).hear inGame pkt = screen.hear inGame pkt

theorem steady_hidden (pkt : ServerPacket) (hidden : pkt.isView = false) : Steady pkt := by
  intro inGame screen
  rw [hear_hidden inGame screen pkt hidden, hear_hidden inGame screen pkt hidden]

theorem steady_move (info : ObjectInfo) : Steady (.move info) :=
  fun _ screen => alter_twice screen info.objectId _ fun _ => rfl

theorem steady_damaged (attackerId targetId : ObjectId) (newHp damage : Int) :
    Steady (.damaged attackerId targetId newHp damage) :=
  fun _ screen => alter_twice screen targetId _ fun _ => rfl

theorem steady_levelUp (id : ObjectId) (level maxHp attack defence maxExp : Int) :
    Steady (.levelUp id level maxHp attack defence maxExp) :=
  fun _ screen => alter_twice screen id _ fun _ => rfl

theorem steady_remove (id : ObjectId) : Steady (.removeObject [id]) :=
  fun _ screen => put_put screen _ none none

theorem steady_add (info : ObjectInfo) : Steady (.addObject ⟨[info]⟩) := by
  intro inGame screen
  unfold hear
  dsimp only [List.foldl_cons, List.foldl_nil]
  unfold add
  split
  case isTrue own => rfl
  case isFalse other => rw [put_own, if_neg other, put_put]

theorem hears_again (inGame : Bool) (screen : Screen) (pkt : ServerPacket) (steady : Steady pkt)
    (times : Nat) :
    (List.replicate (times + 1) pkt).foldl (hear inGame) screen = screen.hear inGame pkt := by
  induction times with
  | zero => rfl
  | succ times ih =>
      rw [List.replicate_succ', List.foldl_append, ih]
      exact steady inGame screen

theorem adds (inGame : Bool) (shown : ObjectId → Looks → Prop) (objects : List ObjectInfo)
    (screen : Screen)
    (listed : ∀ info ∈ objects, ∀ looks, shown info.objectId looks ↔ info.looks = looks)
    (known : ∀ id, (∀ looks, screen.looks id = some looks ↔ shown id looks) ∨
      ∃ info ∈ objects, info.objectId = id ∧ ¬ (inGame ∧ screen.own = some id)) :
    (∀ id looks, (objects.foldl (add inGame) screen).looks id = some looks ↔ shown id looks) ∧
      (objects.foldl (add inGame) screen).own = screen.own := by
  induction objects generalizing screen with
  | nil =>
      refine ⟨fun id => ?_, rfl⟩
      exact (known id).resolve_right fun ⟨_, absent, _⟩ => absurd absent List.not_mem_nil
  | cons head tail ih =>
      have own : (add inGame screen head).own = screen.own := by
        unfold add
        split <;> rfl
      have first := listed head List.mem_cons_self
      have added (id : ObjectId) (same : id = head.objectId) (looks : Looks) :
          some head.looks = some looks ↔ shown id looks := by
        rw [same, first looks, Option.some.injEq]
      rw [List.foldl_cons, ← own]
      apply ih
      · exact fun info member => listed info (List.mem_cons_of_mem head member)
      · intro id
        rw [own]
        rcases known id with same | ⟨info, member, named, adds⟩
        · left
          unfold add
          split
          · exact same
          · intro looks
            rw [put_looks]
            split
            case isTrue here => exact added id here looks
            case isFalse => exact same looks
        · rcases List.mem_cons.mp member with rfl | later
          · left
            intro looks
            unfold add
            rw [named, if_neg adds, put_looks, if_pos rfl]
            exact added id named.symm looks
          · exact .inr ⟨info, later, named, adds⟩

end Screen

section Room

variable (routing : Routing) (r : RoomRef)

def Scene.Shows (scene : Scene) (id : ObjectId) (looks : Looks) : Prop :=
  (id ∈ playerIds routing r ∧ (scene.players id).info.looks = looks) ∨
    (∃ m ∈ (scene.fields r).monsters, m.info.objectId = id ∧ m.info.looks = looks) ∨
    ∃ arrow ∈ (scene.fields r).projectiles, arrow.info.objectId = id ∧ arrow.info.looks = looks

def Field.ids (field : Field) : List ObjectId :=
  field.monsters.map (·.info.objectId) ++ field.projectiles.map (·.info.objectId)

/-- No two objects of the room have one id. `taken` are the ids of the players that were
created. -/
structure Scene.Roster (taken : ObjectId → Prop) (a : Scene × ObjectId) : Prop where
  own : ∀ id, (a.1.players id).info.objectId = id
  apart : (a.1.fields r).ids.Nodup
  below : ∀ id ∈ (a.1.fields r).ids, id < a.2 ∧ ¬ taken id
  fresh : ∀ id, taken id → id < a.2
  players : ∀ id ∈ playerIds routing r, taken id
  targets : ∀ m ∈ (a.1.fields r).monsters, ∀ id, m.target = some id → taken id

def Screen.Right (screen : Screen) (scene : Scene) : Prop :=
  ∀ id looks, screen.looks id = some looks ↔ scene.Shows routing r id looks

def Scene.Alters (a : Scene) (id : ObjectId) (looks : Option Looks) (b : Scene) : Prop :=
  ∀ other looks', b.Shows routing r other looks' ↔
    if other = id then looks = some looks' else a.Shows routing r other looks'

variable {routing r}

namespace Screen.Right

variable {screen : Screen} {a b : Scene}

theorem same (right : screen.Right routing r a)
    (shows_same : ∀ id looks, b.Shows routing r id looks ↔ a.Shows routing r id looks) :
    screen.Right routing r b :=
  fun id looks => (right id looks).trans (shows_same id looks).symm

theorem put {routing' : Routing} (right : screen.Right routing r a) (id : ObjectId)
    (looks : Option Looks)
    (alters : ∀ other looks', b.Shows routing' r other looks' ↔
      if other = id then looks = some looks' else a.Shows routing r other looks') :
    (screen.put id looks).Right routing' r b := by
  intro other looks'
  rw [alters other looks', Screen.put_looks]
  split
  · exact Iff.rfl
  · exact right other looks'

theorem alter (right : screen.Right routing r a) (id : ObjectId) (old new : Looks)
    (f : Looks → Looks) (known : a.Shows routing r id old) (changes : f old = new)
    (alters : a.Alters routing r id (some new) b) : (screen.alter id f).Right routing r b := by
  unfold Screen.alter
  rw [(right id old).mpr known, Option.map_some, changes]
  exact right.put id (some new) alters

theorem alter_unknown (right : screen.Right routing r a) (id : ObjectId) (f : Looks → Looks)
    (unknown : ∀ looks, ¬ a.Shows routing r id looks) : (screen.alter id f).Right routing r a := by
  unfold Screen.alter
  have absent : screen.looks id = none := by
    cases shown : screen.looks id with
    | none => rfl
    | some looks => exact absurd ((right id looks).mp shown) (unknown looks)
  rw [absent, Option.map_none, Screen.put_same screen id none absent]
  exact right

end Screen.Right

namespace Scene

variable {taken : ObjectId → Prop} {a : Scene × ObjectId}

theorem Roster.not_taken (roster : Roster routing r taken a) (id : ObjectId) (is_taken : taken id) :
    id ∉ (a.1.fields r).ids := fun listed => (roster.below id listed).2 is_taken

theorem Roster.not_monster (roster : Roster routing r taken a) (id : ObjectId)
    (is_taken : taken id) (m : Monster) (member : m ∈ (a.1.fields r).monsters) :
    m.info.objectId ≠ id := by
  intro same
  apply roster.not_taken id is_taken
  exact List.mem_append_left _ (List.mem_map.mpr ⟨m, member, same⟩)

theorem Roster.not_arrow (roster : Roster routing r taken a) (id : ObjectId)
    (is_taken : taken id) (arrow : Arrow) (member : arrow ∈ (a.1.fields r).projectiles) :
    arrow.info.objectId ≠ id := by
  intro same
  apply roster.not_taken id is_taken
  exact List.mem_append_right _ (List.mem_map.mpr ⟨arrow, member, same⟩)

theorem Roster.shows_player (roster : Roster routing r taken a) (id : ObjectId)
    (is_taken : taken id) (looks : Looks) :
    a.1.Shows routing r id looks ↔
      id ∈ playerIds routing r ∧ (a.1.players id).info.looks = looks := by
  unfold Shows
  constructor
  · rintro (shown | ⟨m, member, named, -⟩ | ⟨arrow, member, named, -⟩)
    · exact shown
    · exact absurd named (roster.not_monster id is_taken m member)
    · exact absurd named (roster.not_arrow id is_taken arrow member)
  · exact .inl

theorem setPlayer_players (scene : Scene) (id other : ObjectId) (p : Player) :
    (scene.setPlayer id p).players other = if other = id then p else scene.players other := by
  unfold setPlayer
  dsimp only
  by_cases same : other = id
  · rw [if_pos same, same, Function.update_self]
  · rw [if_neg same, Function.update_of_ne same]

theorem setPlayer_shows (scene : Scene) (id : ObjectId) (p : Player) (other : ObjectId)
    (looks : Looks) (apart : other ∈ playerIds routing r → other ≠ id) :
    (scene.setPlayer id p).Shows routing r other looks ↔ scene.Shows routing r other looks := by
  unfold Shows
  apply or_congr _ Iff.rfl
  apply and_congr_right
  intro standing
  rw [setPlayer_players, if_neg (apart standing)]

theorem Roster.setPlayer_alters (roster : Roster routing r taken a) (id : ObjectId) (p : Player)
    (standing : id ∈ playerIds routing r) :
    a.1.Alters routing r id (some p.info.looks) (a.1.setPlayer id p) := by
  intro other looks
  split
  case isTrue same =>
    subst same
    have is_taken := roster.players other standing
    unfold Shows
    rw [setPlayer_players, if_pos rfl]
    constructor
    · rintro (⟨-, rfl⟩ | ⟨m, member, named, -⟩ | ⟨arrow, member, named, -⟩)
      · rfl
      · exact absurd named (roster.not_monster other is_taken m member)
      · exact absurd named (roster.not_arrow other is_taken arrow member)
    · exact fun same => .inl ⟨standing, Option.some.inj same⟩
  case isFalse apart => exact setPlayer_shows a.1 id p other looks fun _ => apart

theorem Roster.setPlayer_unseen (roster : Roster routing r taken a) (id : ObjectId) (p : Player)
    (looks : p.info.looks = (a.1.players id).info.looks) (other : ObjectId) (looks' : Looks) :
    (a.1.setPlayer id p).Shows routing r other looks' ↔ a.1.Shows routing r other looks' := by
  by_cases standing : id ∈ playerIds routing r
  · rw [roster.setPlayer_alters id p standing other looks', looks]
    split
    case isTrue same =>
      rw [same, roster.shows_player id (roster.players id standing) looks', Option.some.injEq]
      exact (and_iff_right standing).symm
    case isFalse => exact Iff.rfl
  · apply setPlayer_shows
    exact fun here same => standing (same ▸ here)

theorem Roster.setPlayer (roster : Roster routing r taken a) (id : ObjectId) (p : Player)
    (named : p.info.objectId = id) : Roster routing r taken (a.1.setPlayer id p, a.2) where
  own := by
    intro other
    dsimp only
    rw [setPlayer_players]
    split
    case isTrue same => rw [same, named]
    case isFalse => exact roster.own other
  apart := roster.apart
  below := roster.below
  fresh := roster.fresh
  players := roster.players
  targets := roster.targets

theorem monsters_alter {a b : Scene} (id : ObjectId) (kept : Option Monster)
    (named : ∀ m, kept = some m → m.info.objectId = id) (away : id ∉ playerIds routing r)
    (no_arrow : ∀ arrow ∈ (a.fields r).projectiles, arrow.info.objectId ≠ id)
    (players : b.players = a.players)
    (projectiles : (b.fields r).projectiles = (a.fields r).projectiles)
    (monsters : ∀ m, m ∈ (b.fields r).monsters ↔
      kept = some m ∨ m ∈ (a.fields r).monsters ∧ m.info.objectId ≠ id) :
    a.Alters routing r id (kept.map (·.info.looks)) b := by
  intro other looks
  unfold Shows
  rw [players, projectiles]
  split
  case isTrue same =>
    subst same
    constructor
    · rintro (⟨standing, -⟩ | ⟨m, member, same, rfl⟩ | ⟨arrow, member, same, -⟩)
      · exact absurd standing away
      · rcases (monsters m).mp member with new | ⟨-, apart⟩
        · rw [new, Option.map_some]
        · exact absurd same apart
      · exact absurd same (no_arrow arrow member)
    · intro shown
      obtain ⟨m, new, same⟩ := Option.map_eq_some_iff.mp shown
      exact .inr (.inl ⟨m, (monsters m).mpr (.inl new), named m new, same⟩)
  case isFalse apart =>
    apply or_congr_right
    apply or_congr_left
    constructor
    · rintro ⟨m, member, same, looked⟩
      rcases (monsters m).mp member with new | ⟨old, -⟩
      · exact absurd (same.symm.trans (named m new)) apart
      · exact ⟨m, old, same, looked⟩
    · rintro ⟨m, member, same, looked⟩
      refine ⟨m, (monsters m).mpr (.inr ⟨member, ?_⟩), same, looked⟩
      exact fun here => apart (same.symm.trans here)

theorem arrows_alter {a b : Scene} (id : ObjectId) (kept : Option Arrow)
    (named : ∀ arrow, kept = some arrow → arrow.info.objectId = id)
    (away : id ∉ playerIds routing r)
    (no_monster : ∀ m ∈ (a.fields r).monsters, m.info.objectId ≠ id)
    (players : b.players = a.players)
    (monsters : (b.fields r).monsters = (a.fields r).monsters)
    (projectiles : ∀ arrow, arrow ∈ (b.fields r).projectiles ↔
      kept = some arrow ∨ arrow ∈ (a.fields r).projectiles ∧ arrow.info.objectId ≠ id) :
    a.Alters routing r id (kept.map (·.info.looks)) b := by
  intro other looks
  unfold Shows
  rw [players, monsters]
  split
  case isTrue same =>
    subst same
    constructor
    · rintro (⟨standing, -⟩ | ⟨m, member, same, -⟩ | ⟨arrow, member, same, rfl⟩)
      · exact absurd standing away
      · exact absurd same (no_monster m member)
      · rcases (projectiles arrow).mp member with new | ⟨-, apart⟩
        · rw [new, Option.map_some]
        · exact absurd same apart
    · intro shown
      obtain ⟨arrow, new, same⟩ := Option.map_eq_some_iff.mp shown
      exact .inr (.inr ⟨arrow, (projectiles arrow).mpr (.inl new), named arrow new, same⟩)
  case isFalse apart =>
    apply or_congr_right
    apply or_congr_right
    constructor
    · rintro ⟨arrow, member, same, looked⟩
      rcases (projectiles arrow).mp member with new | ⟨old, -⟩
      · exact absurd (same.symm.trans (named arrow new)) apart
      · exact ⟨arrow, old, same, looked⟩
    · rintro ⟨arrow, member, same, looked⟩
      refine ⟨arrow, (projectiles arrow).mpr (.inr ⟨member, ?_⟩), same, looked⟩
      exact fun here => apart (same.symm.trans here)

theorem Roster.monster_away (roster : Roster routing r taken a) (m : Monster)
    (member : m ∈ (a.1.fields r).monsters) : m.info.objectId ∉ playerIds routing r := by
  intro standing
  exact roster.not_monster _ (roster.players _ standing) m member rfl

theorem Roster.arrow_away (roster : Roster routing r taken a) (arrow : Arrow)
    (member : arrow ∈ (a.1.fields r).projectiles) : arrow.info.objectId ∉ playerIds routing r := by
  intro standing
  exact roster.not_arrow _ (roster.players _ standing) arrow member rfl

theorem Roster.monster_no_arrow (roster : Roster routing r taken a) (m : Monster)
    (member : m ∈ (a.1.fields r).monsters) :
    ∀ arrow ∈ (a.1.fields r).projectiles, arrow.info.objectId ≠ m.info.objectId := by
  intro arrow flies same
  have disjoint := (List.nodup_append.mp roster.apart).2.2
  exact disjoint _ (List.mem_map_of_mem member) _ (List.mem_map_of_mem flies) same.symm

theorem Roster.arrow_no_monster (roster : Roster routing r taken a) (arrow : Arrow)
    (flies : arrow ∈ (a.1.fields r).projectiles) :
    ∀ m ∈ (a.1.fields r).monsters, m.info.objectId ≠ arrow.info.objectId :=
  fun m member same => roster.monster_no_arrow m member arrow flies same.symm

theorem Roster.shows_monster (roster : Roster routing r taken a) (m : Monster)
    (member : m ∈ (a.1.fields r).monsters) (looks : Looks) :
    a.1.Shows routing r m.info.objectId looks ↔ m.info.looks = looks := by
  constructor
  · rintro (⟨standing, -⟩ | ⟨other, listed, named, same⟩ | ⟨arrow, flies, named, -⟩)
    · exact absurd standing (roster.monster_away m member)
    · have distinct := (List.nodup_append.mp roster.apart).1
      have one : other = m := List.inj_on_of_nodup_map distinct listed member named
      rw [← same, one]
    · exact absurd named (roster.monster_no_arrow m member arrow flies)
  · exact fun same => .inr (.inl ⟨m, member, rfl, same⟩)

theorem Roster.shows_arrow (roster : Roster routing r taken a) (arrow : Arrow)
    (flies : arrow ∈ (a.1.fields r).projectiles) (looks : Looks) :
    a.1.Shows routing r arrow.info.objectId looks ↔ arrow.info.looks = looks := by
  constructor
  · rintro (⟨standing, -⟩ | ⟨m, member, named, -⟩ | ⟨other, listed, named, same⟩)
    · exact absurd standing (roster.arrow_away arrow flies)
    · exact absurd named (roster.arrow_no_monster arrow flies m member)
    · have distinct := (List.nodup_append.mp roster.apart).2.1
      have one : other = arrow := List.inj_on_of_nodup_map distinct listed flies named
      rw [← same, one]
  · exact fun same => .inr (.inr ⟨arrow, flies, rfl, same⟩)

theorem Roster.fewer (roster : Roster routing r taken a) (b : Scene)
    (players : b.players = a.1.players) (ids : (b.fields r).ids.Sublist (a.1.fields r).ids)
    (targets : ∀ m ∈ (b.fields r).monsters, ∀ id, m.target = some id → taken id) :
    Roster routing r taken (b, a.2) where
  own := fun id => by rw [players]; exact roster.own id
  apart := roster.apart.sublist ids
  below := fun id listed => roster.below id (ids.subset listed)
  fresh := roster.fresh
  players := roster.players
  targets := targets

theorem Roster.grown (roster : Roster routing r taken a) (b : Scene)
    (players : b.players = a.1.players) (ids : (b.fields r).ids.Perm (a.2 :: (a.1.fields r).ids))
    (targets : ∀ m ∈ (b.fields r).monsters, ∀ id, m.target = some id → taken id) :
    Roster routing r taken (b, a.2 + 1) where
  own := fun id => by rw [players]; exact roster.own id
  apart := by
    rw [ids.nodup_iff, List.nodup_cons]
    exact ⟨fun listed => Nat.lt_irrefl _ (roster.below _ listed).1, roster.apart⟩
  below := by
    intro id listed
    rcases List.mem_cons.mp (ids.mem_iff.mp listed) with rfl | old
    · exact ⟨Nat.lt_succ_self _, fun is_taken => Nat.lt_irrefl _ (roster.fresh _ is_taken)⟩
    · exact ⟨Nat.lt_succ_of_lt (roster.below id old).1, (roster.below id old).2⟩
  fresh := fun id is_taken => Nat.lt_succ_of_lt (roster.fresh id is_taken)
  players := roster.players
  targets := targets

theorem Roster.of_same (roster : Roster routing r taken a) (b : Scene)
    (players : b.players = a.1.players) (fields : b.fields = a.1.fields) :
    Roster routing r taken (b, a.2) := by
  apply roster.fewer b players
  · rw [fields]
  · rw [fields]
    exact roster.targets

theorem shows_of_same {a b : Scene} (players : b.players = a.players) (fields : b.fields = a.fields)
    (id : ObjectId) (looks : Looks) :
    b.Shows routing r id looks ↔ a.Shows routing r id looks := by
  unfold Shows
  rw [players, fields]

end Scene

section Sending

variable (routing : Routing) (r : RoomRef)

def heardBy (s : SessionId) (sent : List (SessionId × ServerPacket)) : List ServerPacket :=
  (sent.filter (·.1 = s)).map (·.2)

def Routing.Listens (a : Routing) (r : RoomRef) (s : SessionId) : Prop :=
  ∃ id ∈ playerIds a r, a.playerSession id = some s

/-- From `a` to `b` the sessions of the room are told what these packets tell. -/
def Scene.Spreads (a b : Scene) (pkts : List ServerPacket) : Prop :=
  ∃ news, b.sent = a.sent ++ news ∧ ∀ s, routing.Listens r s → ∀ inGame screen,
    (heardBy s news).foldl (Screen.hear inGame) screen = pkts.foldl (Screen.hear inGame) screen

theorem heardBy_append (s : SessionId) (front back : List (SessionId × ServerPacket)) :
    heardBy s (front ++ back) = heardBy s front ++ heardBy s back := by
  unfold heardBy
  rw [List.filter_append, List.map_append]

def toPlayers (ids : List ObjectId) (pkt : ServerPacket) : List (SessionId × ServerPacket) :=
  ids.filterMap fun id => (routing.playerSession id).map fun s => (s, pkt)

theorem broadcast_sent (pkt : ServerPacket) (scene : Scene) :
    (broadcast routing r pkt scene).sent =
      scene.sent ++ toPlayers routing (playerIds routing r) pkt := by
  unfold broadcast toPlayers
  generalize playerIds routing r = ids
  induction ids generalizing scene with
  | nil => exact (List.append_nil _).symm
  | cons id ids ih =>
      rw [List.foldl_cons, ih]
      cases session : routing.playerSession id with
      | none =>
          rw [List.filterMap_cons_none (by rw [session]; rfl)]
          rfl
      | some s =>
          rw [List.filterMap_cons_some (by rw [session]; rfl)]
          exact List.append_assoc scene.sent [(s, pkt)] _

namespace Scene.Spreads

variable {routing r}

theorem of_sent {a b : Scene} (sent : b.sent = a.sent) : Scene.Spreads routing r a b [] :=
  ⟨[], by rw [sent, List.append_nil], fun _ _ _ _ => rfl⟩

theorem refl (scene : Scene) : Scene.Spreads routing r scene scene [] := of_sent rfl

theorem trans {a b c : Scene} {front back : List ServerPacket}
    (first : Scene.Spreads routing r a b front) (second : Scene.Spreads routing r b c back) :
    Scene.Spreads routing r a c (front ++ back) := by
  obtain ⟨news, sent, heard⟩ := first
  obtain ⟨news', sent', heard'⟩ := second
  refine ⟨news ++ news', by rw [sent', sent, List.append_assoc], ?_⟩
  intro s listens inGame screen
  rw [heardBy_append, List.foldl_append, List.foldl_append, heard s listens, heard' s listens]

theorem before {a b c : Scene} {pkts : List ServerPacket}
    (first : Scene.Spreads routing r a b []) (second : Scene.Spreads routing r b c pkts) :
    Scene.Spreads routing r a c pkts := first.trans second

theorem broadcast (pkt : ServerPacket) (steady : Screen.Steady pkt) (scene : Scene) :
    Scene.Spreads routing r scene (broadcast routing r pkt scene) [pkt] := by
  refine ⟨_, broadcast_sent routing r pkt scene, ?_⟩
  rintro s ⟨id, standing, session⟩ inGame screen
  have told : (s, pkt) ∈ toPlayers routing (playerIds routing r) pkt := by
    apply List.mem_filterMap.mpr
    exact ⟨id, standing, by rw [session]; rfl⟩
  have all : ∀ heard ∈ heardBy s (toPlayers routing (playerIds routing r) pkt), heard = pkt := by
    intro heard member
    obtain ⟨entry, listed, rfl⟩ := List.mem_map.mp member
    obtain ⟨id', -, made⟩ := List.mem_filterMap.mp (List.mem_filter.mp listed).1
    obtain ⟨s', -, rfl⟩ := Option.map_eq_some_iff.mp made
    rfl
  have some_heard : pkt ∈ heardBy s (toPlayers routing (playerIds routing r) pkt) :=
    List.mem_map.mpr ⟨(s, pkt), List.mem_filter.mpr ⟨told, decide_eq_true rfl⟩, rfl⟩
  rw [List.eq_replicate_of_mem all]
  obtain ⟨times, length⟩ := Nat.exists_eq_add_of_lt (List.length_pos_of_mem some_heard)
  rw [length, Nat.zero_add]
  exact Screen.hears_again inGame screen pkt steady times

theorem send (scene : Scene) (s : SessionId) (pkt : ServerPacket) (hidden : pkt.isView = false) :
    Scene.Spreads routing r scene (scene.send s pkt) [] := by
  refine ⟨[(s, pkt)], rfl, ?_⟩
  intro s' _ inGame screen
  unfold heardBy
  by_cases same : s = s'
  · rw [List.filter_cons_of_pos (by simpa using same)]
    exact Screen.hear_hidden inGame screen pkt hidden
  · rw [List.filter_cons_of_neg (by simpa using same)]
    rfl

theorem whispers {a b : Scene} (whispers : a.Whispers b) : Scene.Spreads routing r a b [] := by
  induction whispers with
  | silent => exact refl a
  | told b _ s pkt hidden ih => exact ih.trans (send b s pkt hidden)
  | failed b _ fault _ ih => exact ih.trans (of_sent rfl)

theorem fewer {a b : Scene} {pkts : List ServerPacket} {routing' : Routing}
    (spread : Scene.Spreads routing r a b pkts)
    (listen : ∀ s, routing'.Listens r s → routing.Listens r s) :
    Scene.Spreads routing' r a b pkts := by
  obtain ⟨news, sent, heard⟩ := spread
  exact ⟨news, sent, fun s listens => heard s (listen s listens)⟩

end Scene.Spreads

/-- From `a` to `b` the session is told what these packets tell. -/
def Scene.Hears (s : SessionId) (a b : Scene) (pkts : List ServerPacket) : Prop :=
  ∃ news, b.sent = a.sent ++ news ∧ ∀ inGame screen,
    (heardBy s news).foldl (Screen.hear inGame) screen = pkts.foldl (Screen.hear inGame) screen

namespace Scene.Hears

variable {routing r} {s : SessionId}

theorem of_sent {a b : Scene} (sent : b.sent = a.sent) : Scene.Hears s a b [] :=
  ⟨[], by rw [sent, List.append_nil], fun _ _ => rfl⟩

theorem trans {a b c : Scene} {front back : List ServerPacket} (first : Scene.Hears s a b front)
    (second : Scene.Hears s b c back) : Scene.Hears s a c (front ++ back) := by
  obtain ⟨news, sent, heard⟩ := first
  obtain ⟨news', sent', heard'⟩ := second
  refine ⟨news ++ news', by rw [sent', sent, List.append_assoc], ?_⟩
  intro inGame screen
  rw [heardBy_append, List.foldl_append, List.foldl_append, heard, heard']

theorem before {a b c : Scene} {pkts : List ServerPacket} (first : Scene.Hears s a b [])
    (second : Scene.Hears s b c pkts) : Scene.Hears s a c pkts := first.trans second

theorem own (scene : Scene) (pkt : ServerPacket) :
    Scene.Hears s scene (scene.send s pkt) [pkt] := by
  refine ⟨[(s, pkt)], rfl, fun inGame screen => ?_⟩
  unfold heardBy
  rw [List.filter_cons_of_pos (by exact decide_eq_true rfl)]
  rfl

theorem other (scene : Scene) (s' : SessionId) (pkt : ServerPacket) (apart : s' ≠ s) :
    Scene.Hears s scene (scene.send s' pkt) [] := by
  refine ⟨[(s', pkt)], rfl, fun inGame screen => ?_⟩
  unfold heardBy
  rw [List.filter_cons_of_neg (by simpa using apart)]
  rfl

theorem of_spreads {a b : Scene} {pkts : List ServerPacket}
    (spread : Scene.Spreads routing r a b pkts) (listens : routing.Listens r s) : Scene.Hears s a b pkts := by
  obtain ⟨news, sent, heard⟩ := spread
  exact ⟨news, sent, heard s listens⟩

theorem stream {a b : Scene} {pkts : List ServerPacket} (hears : Scene.Hears s a b pkts)
    (mark : Nat) (begun : mark ≤ a.sent.length) (inGame : Bool) (screen : Screen) :
    mark ≤ b.sent.length ∧
      (heardBy s (b.sent.drop mark)).foldl (Screen.hear inGame) screen =
        pkts.foldl (Screen.hear inGame)
          ((heardBy s (a.sent.drop mark)).foldl (Screen.hear inGame) screen) := by
  obtain ⟨news, sent, heard⟩ := hears
  rw [sent, List.drop_append_of_le_length begun, heardBy_append, List.foldl_append, heard,
    List.length_append]
  exact ⟨Nat.le_add_right_of_le begun, rfl⟩

end Scene.Hears

end Sending

end Room

end ZeldaServer
