import ZeldaServer.World.System

/-! The client's scene: the actors of its object layer, how it removes what the server removed,
and its search for the nearest player beside the server's. -/

namespace ZeldaServer

namespace DevScene

/-- What `dynamic_cast` finds in an actor. -/
inductive ActorKind where
  | player (objectId : UInt64) (cellPos : Vec2Int)
  /-- Any other `GameObject`. -/
  | gameObject (objectId : UInt64)
  | other
  deriving DecidableEq

structure Actor where
  address : Nat
  kind : ActorKind
  deriving DecidableEq

/-- `gameObject->info.objectid()` -/
def Actor.objectId (actor : Actor) : Option UInt64 :=
  match actor.kind with
  | .player objectId _ => some objectId
  | .gameObject objectId => some objectId
  | .other => none

/-- `player->GetCellPos()` -/
def Actor.playerCell (actor : Actor) : Option Vec2Int :=
  match actor.kind with
  | .player _ cellPos => some cellPos
  | _ => none

/-- `_actors[LAYER_OBJECT]` of a scene whose game objects have distinct ids. -/
structure Layer where
  actors : List Actor
  /-- A pointer points to one actor. -/
  pointers : ∀ a ∈ actors, ∀ b ∈ actors, a.address = b.address → a = b
  distinct : ∀ a ∈ actors, ∀ b ∈ actors, a.objectId.isSome → a.objectId = b.objectId → a = b

def getObject (actors : List Actor) (id : UInt64) : Option Actor :=
  actors.find? (·.objectId = some id)

/-- `Scene::RemoveActor` -/
def removeActor (actors : List Actor) (actor : Actor) : List Actor :=
  actors.filter (·.address ≠ actor.address)

/-- `int32 id = pkt.ids(i)`, as `GetObject` gets it. -/
def localId (id : UInt64) : UInt64 := id.toUInt32.toInt32.toInt64.toUInt64

/-- `Handle_S_RemoveObject` -/
def handleSRemoveObject (actors : List Actor) (ids : List UInt64) : List Actor :=
  ids.foldl (fun actors id =>
    match getObject actors (localId id) with
    | none => actors
    | some object => removeActor actors object) actors

theorem removed_one (layer : Layer) (kept : Actor → Bool) (id : UInt64) :
    (match getObject (layer.actors.filter kept) id with
      | none => layer.actors.filter kept
      | some object => removeActor (layer.actors.filter kept) object) =
      layer.actors.filter fun actor => kept actor && actor.objectId ≠ some id := by
  cases found : getObject (layer.actors.filter kept) id with
  | none =>
      apply List.filter_congr
      intro actor member
      have absent := List.find?_eq_none.mp found actor
      cases keeps : kept actor with
      | false => rfl
      | true => simpa using absent (List.mem_filter.mpr ⟨member, keeps⟩)
  | some object =>
      have has : object.objectId = some id := by simpa using List.find?_some found
      have inside := (List.mem_filter.mp (List.mem_of_find?_eq_some found)).1
      dsimp only
      unfold removeActor
      rw [List.filter_filter]
      apply List.filter_congr
      intro actor member
      have same : actor.address = object.address ↔ actor.objectId = some id := by
        constructor
        · intro address
          rw [layer.pointers actor member object inside address, has]
        · intro objectId
          have one := layer.distinct object inside actor member (by simp [has])
            (has.trans objectId.symm)
          rw [one]
      by_cases address : actor.address = object.address
      · simp [address, same.mp address]
      · have other : actor.objectId ≠ some id := fun objectId => address (same.mpr objectId)
        simp [address, other]

theorem handleSRemoveObject_eq (layer : Layer) (ids : List UInt64) :
    handleSRemoveObject layer.actors ids =
      layer.actors.filter fun actor =>
        ids.all fun id => actor.objectId ≠ some (localId id) := by
  have all (done : Actor → Bool) :
      ids.foldl (fun actors id =>
        match getObject actors (localId id) with
        | none => actors
        | some object => removeActor actors object) (layer.actors.filter done) =
      layer.actors.filter fun actor =>
        done actor && ids.all fun id => actor.objectId ≠ some (localId id) := by
    induction ids generalizing done with
    | nil => simp
    | cons id ids ih =>
        rw [List.foldl_cons, removed_one, ih]
        apply List.filter_congr
        intro actor _
        simp [Bool.and_assoc]
  have whole := all fun _ => true
  rw [List.filter_true] at whole
  unfold handleSRemoveObject
  simpa using whole

/-- The client removes exactly the objects of the packet if and only if the local ids name the
same objects of the scene. -/
theorem removes_what_the_server_removes_iff (layer : Layer) (ids : List UInt64) :
    ((∀ actor ∈ handleSRemoveObject layer.actors ids, ∀ id ∈ ids, actor.objectId ≠ some id) ∧
      ∀ actor ∈ layer.actors, actor.objectId.isSome → (∀ id ∈ ids, actor.objectId ≠ some id) →
        actor ∈ handleSRemoveObject layer.actors ids) ↔
      ∀ actor ∈ layer.actors, ∀ id, actor.objectId = some id →
        (id ∈ ids ↔ id ∈ ids.map localId) := by
  rw [handleSRemoveObject_eq]
  simp only [List.mem_filter, List.all_eq_true, decide_eq_true_eq]
  constructor
  · rintro ⟨gone, stays⟩ actor member id has
    constructor
    · intro listed
      by_contra other
      apply gone actor ⟨member, ?_⟩ id listed has
      intro id' listed' same
      rw [has] at same
      cases same
      exact other (List.mem_map_of_mem listed')
    · intro named
      by_contra other
      obtain ⟨id', listed', rfl⟩ := List.mem_map.mp named
      apply (stays actor member (by simp [has]) ?_).2 id' listed' has
      intro id listed same
      rw [has] at same
      cases same
      exact other listed
  · intro same
    constructor
    · rintro actor ⟨member, spared⟩ id listed has
      obtain ⟨id', listed', rfl⟩ := List.mem_map.mp ((same actor member id has).mp listed)
      exact spared id' listed' has
    · intro actor member object other
      refine ⟨member, fun id' listed' has => ?_⟩
      exact other _ ((same actor member _ has).mpr (List.mem_map_of_mem listed')) has

/-- An object with the id 2^31. -/
def lateLayer : Layer where
  actors := [⟨0, .gameObject 2147483648⟩]
  pointers := by simp
  distinct := by simp

theorem late_object_stays :
    ¬ ∀ (layer : Layer) (ids : List UInt64),
      (∀ actor ∈ handleSRemoveObject layer.actors ids, ∀ id ∈ ids, actor.objectId ≠ some id) ∧
      ∀ actor ∈ layer.actors, actor.objectId.isSome → (∀ id ∈ ids, actor.objectId ≠ some id) →
        actor ∈ handleSRemoveObject layer.actors ids := by
  intro all
  have gone := (all lateLayer [2147483648]).1
  have stays : (⟨0, .gameObject 2147483648⟩ : Actor) ∈
      handleSRemoveObject lateLayer.actors [2147483648] := by decide
  exact gone _ stays _ List.mem_cons_self rfl

/-- `FLT_MAX` -/
def fltMax : Int := (2 ^ 24 - 1) * 2 ^ 104

/-- `FindClosestPlayer` of the client: `best` and `ret`. The distances are floats in the code,
exact for squares below 2^24. -/
def findClosestPlayer (actors : List Actor) (cellPos : Vec2Int) : Option Actor :=
  (actors.foldl (fun (best, ret) actor =>
    match actor.playerCell with
    | none => (best, ret)
    | some playerPos =>
        let dist := (cellPos - playerPos).lengthSquared
        -- `dist = best;` leaves `best` as it is
        if dist < best then (best, some actor) else (best, ret)) (fltMax, none)).2

end DevScene

section Nearest

variable {α : Type}

structure FindsNearest (items : List α) (dist : α → Int) (found : Option α) : Prop where
  null : found = none ↔ items = []
  nearest : ∀ item, found = some item → item ∈ items ∧ ∀ other ∈ items, dist item ≤ dist other

/-- One turn of a search that remembers the least distance and who is there. -/
def rememberNearer (dist : α → Int) (best : Option (Int × α)) (item : α) : Option (Int × α) :=
  match best with
  | none => some (dist item, item)
  | some (least, nearest) => if dist item < least then some (dist item, item) else some (least, nearest)

theorem rememberNearer_all (dist : α → Int) (seen items : List α) (first : α)
    (best : Option (Int × α)) (known : best = some (dist first, first)) (member : first ∈ seen)
    (least : ∀ other ∈ seen, dist first ≤ dist other) :
    ∃ item, items.foldl (rememberNearer dist) best = some (dist item, item) ∧
      item ∈ seen ++ items ∧ ∀ other ∈ seen ++ items, dist item ≤ dist other := by
  induction items generalizing seen first best with
  | nil => exact ⟨first, known, by simpa using member, by simpa using least⟩
  | cons item items ih =>
      subst known
      rw [List.foldl_cons, List.append_cons seen item items]
      by_cases nearer : dist item < dist first
      · apply ih (seen ++ [item]) item _ (if_pos nearer) (by simp)
        intro other seen'
        rcases List.mem_append.mp seen' with before | same
        · exact le_trans (le_of_lt nearer) (least other before)
        · rw [List.mem_singleton.mp same]
      · apply ih (seen ++ [item]) first _ (if_neg nearer) (List.mem_append_left _ member)
        intro other seen'
        rcases List.mem_append.mp seen' with before | same
        · exact least other before
        · rw [List.mem_singleton.mp same]
          exact not_lt.mp nearer

theorem rememberNearer_finds (dist : α → Int) (items : List α) :
    FindsNearest items dist ((items.foldl (rememberNearer dist) none).map (·.2)) := by
  cases items with
  | nil => exact ⟨by simp, by simp⟩
  | cons first items =>
      obtain ⟨item, result, member, least⟩ :=
        rememberNearer_all dist [first] items first _ rfl (by simp) (by simp)
      have whole : (first :: items).foldl (rememberNearer dist) none = some (dist item, item) := result
      rw [whole]
      constructor
      · simp
      · rintro _ ⟨⟩
        exact ⟨member, least⟩

end Nearest

namespace DevScene

def players (actors : List Actor) : List Actor := actors.filter (·.playerCell.isSome)

def distanceTo (cellPos : Vec2Int) (actor : Actor) : Int :=
  (cellPos - (actor.playerCell).getD ⟨0, 0⟩).lengthSquared

theorem findClosestPlayer_last (actors : List Actor) (cellPos : Vec2Int)
    (exact_squares : ∀ actor ∈ players actors, distanceTo cellPos actor < 2 ^ 24) :
    findClosestPlayer actors cellPos = (players actors).getLast? := by
  have all (ret : Option Actor) :
      actors.foldl (fun (best, ret) actor =>
        match actor.playerCell with
        | none => (best, ret)
        | some playerPos =>
            let dist := (cellPos - playerPos).lengthSquared
            if dist < best then (best, some actor) else (best, ret)) (fltMax, ret) =
      (fltMax, (players actors).getLast?.or ret) := by
    induction actors generalizing ret with
    | nil => rfl
    | cons actor actors ih =>
        rw [List.foldl_cons]
        cases cell : actor.playerCell with
        | none =>
            have same : players (actor :: actors) = players actors := by simp [players, cell]
            rw [same] at exact_squares ⊢
            exact ih exact_squares ret
        | some playerPos =>
            have more : players (actor :: actors) = actor :: players actors := by
              simp [players, cell]
            rw [more] at exact_squares ⊢
            obtain ⟨here, later⟩ := List.forall_mem_cons.mp exact_squares
            have near : (cellPos - playerPos).lengthSquared < fltMax := by
              unfold distanceTo at here
              rw [cell, Option.getD_some] at here
              exact lt_trans here (by decide)
            dsimp only
            rw [if_pos near, ih later, List.getLast?_cons]
            cases (players actors).getLast? with
            | none => rfl
            | some last => rfl
  unfold findClosestPlayer
  rw [all]
  exact Option.or_none

end DevScene

section Closest

variable (routing : Routing) (scene : Scene) (r : RoomRef)

/-- Both searches find a nearest player if and only if the last player in the client's layer
is one. -/
theorem closest_players_iff (cellPos : Vec2Int) (actors : List DevScene.Actor)
    (client_squares : ∀ actor ∈ DevScene.players actors,
      DevScene.distanceTo cellPos actor < 2 ^ 24) :
    (FindsNearest (playerIds routing r)
        (fun id => (cellPos - (scene.players id).info.cellPos).lengthSquared)
        (findClosestPlayer routing scene r cellPos) ∧
      FindsNearest (DevScene.players actors) (DevScene.distanceTo cellPos)
        (DevScene.findClosestPlayer actors cellPos)) ↔
      ∀ last, (DevScene.players actors).getLast? = some last →
        ∀ other ∈ DevScene.players actors,
          DevScene.distanceTo cellPos last ≤ DevScene.distanceTo cellPos other := by
  rw [DevScene.findClosestPlayer_last actors cellPos client_squares]
  constructor
  · rintro ⟨-, client⟩ last found
    exact (client.nearest last found).2
  · intro nearest
    have server := rememberNearer_finds
      (fun id => (cellPos - (scene.players id).info.cellPos).lengthSquared) (playerIds routing r)
    have same : findClosestPlayer routing scene r cellPos =
        ((playerIds routing r).foldl (rememberNearer fun id =>
          (cellPos - (scene.players id).info.cellPos).lengthSquared) none).map (·.2) := by
      unfold findClosestPlayer
      congr 2
      funext best id
      cases best with
      | none => rfl
      | some found => rfl
    rw [← same] at server
    refine ⟨server, List.getLast?_eq_none_iff, fun last found => ?_⟩
    exact ⟨List.mem_of_getLast? found, nearest last found⟩

end Closest

def twoPlayers (first second : Vec2Int) : List DevScene.Actor :=
  [⟨0, .player 1 first⟩, ⟨1, .player 2 second⟩]

theorem nearer_last_found :
    FindsNearest (DevScene.players (twoPlayers ⟨0, 0⟩ ⟨3, 4⟩)) (DevScene.distanceTo ⟨3, 3⟩)
      (DevScene.findClosestPlayer (twoPlayers ⟨0, 0⟩ ⟨3, 4⟩) ⟨3, 3⟩) :=
  let w := World.empty smallGame newStore false []
  ((closest_players_iff w.routing w.scene 0 ⟨3, 3⟩ (twoPlayers ⟨0, 0⟩ ⟨3, 4⟩) (by decide)).mpr
    (by decide)).2

/-- The nearer of two players is the first one. -/
theorem farther_player_found :
    ¬ ∀ (routing : Routing) (scene : Scene) (r : RoomRef) (cellPos : Vec2Int)
      (actors : List DevScene.Actor),
      (∀ actor ∈ DevScene.players actors, DevScene.distanceTo cellPos actor < 2 ^ 24) →
      FindsNearest (playerIds routing r)
        (fun id => (cellPos - (scene.players id).info.cellPos).lengthSquared)
        (findClosestPlayer routing scene r cellPos) ∧
      FindsNearest (DevScene.players actors) (DevScene.distanceTo cellPos)
        (DevScene.findClosestPlayer actors cellPos) := by
  intro all
  let w := World.empty smallGame newStore false []
  have found := (all w.routing w.scene 0 ⟨3, 3⟩ (twoPlayers ⟨3, 4⟩ ⟨0, 0⟩) (by decide)).2
  have result : DevScene.findClosestPlayer (twoPlayers ⟨3, 4⟩ ⟨0, 0⟩) ⟨3, 3⟩ =
      some ⟨1, .player 2 ⟨0, 0⟩⟩ := by decide
  have nearest := (found.nearest _ result).2 ⟨0, .player 1 ⟨3, 4⟩⟩ (by decide)
  exact absurd nearest (by decide)

end ZeldaServer
