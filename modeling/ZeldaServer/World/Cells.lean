import ZeldaServer.Lib.Loop
import ZeldaServer.Lib.Rounding
import ZeldaServer.World.State

/-! Looking things up in a room: objects by id and by cell, the nearest player, free cells
and paths. -/

namespace ZeldaServer

/-- What `FindObject` and `GetGameObjectAt` return. -/
inductive ObjectRef where
  | player (id : ObjectId)
  | monster (m : Monster)
  | projectile (a : Arrow)
  deriving DecidableEq

def Field.monster (field : Field) (id : ObjectId) : Option Monster :=
  field.monsters.find? (·.info.objectId = id)

def Field.projectile (field : Field) (id : ObjectId) : Option Arrow :=
  field.projectiles.find? (·.info.objectId = id)

section Room

variable (routing : Routing) (scene : Scene) (r : RoomRef)

def playerIds : List ObjectId := (routing.rooms r).players

def findObject (id : ObjectId) : Option ObjectRef :=
  if id ∈ playerIds routing r then some (.player id)
  else
    match (scene.fields r).monster id with
    | some m => some (.monster m)
    | none => ((scene.fields r).projectile id).map .projectile

def playerAt (cellPos : Vec2Int) : Option ObjectId :=
  (playerIds routing r).find? fun id => (scene.players id).info.cellPos = cellPos

/-- `GetMonsterAt` -/
def monsterAt (cellPos : Vec2Int) : Option Monster :=
  (scene.fields r).monsters.find? (·.info.cellPos = cellPos)

/-- `GetCreatureAt` -/
def creatureAt (cellPos : Vec2Int) : Option ObjectRef :=
  match playerAt routing scene r cellPos with
  | some id => some (.player id)
  | none => (monsterAt scene r cellPos).map .monster

/-- `GetGameObjectAt` -/
def gameObjectAt (cellPos : Vec2Int) : Option ObjectRef :=
  match creatureAt routing scene r cellPos with
  | some creature => some creature
  | none =>
      ((scene.fields r).projectiles.find? (·.info.cellPos = cellPos)).map .projectile

def canGo (cellPos : Vec2Int) : Bool :=
  match (scene.fields r).tilemap.getTileAt cellPos with
  | none => false
  | some tile => (creatureAt routing scene r cellPos).isNone && tile ≠ 1

def isBlockedByWall (cellPos : Vec2Int) : Bool :=
  match (scene.fields r).tilemap.getTileAt cellPos with
  | none => true
  | some tile => tile = 1

/-- `FindClosestPlayer`: the first of the nearest. The distances are floats in the code,
exact for squares below 2^24. -/
def findClosestPlayer (pos : Vec2Int) : Option ObjectId :=
  (playerIds routing r).foldl (fun best id =>
    let dist := (pos - (scene.players id).info.cellPos).lengthSquared
    match best with
    | none => some (dist, id)
    | some (least, nearest) => if dist < least then some (dist, id) else some (least, nearest))
    none |>.map (·.2)

end Room

structure PQNode where
  cost : Nat
  pos : Vec2Int
  deriving DecidableEq

/-- A `map<Vec2Int, _>`, its keys in ascending order. -/
abbrev CellMap (α : Type) := List (Vec2Int × α)

namespace CellMap

variable {α : Type}

def get (m : CellMap α) (pos : Vec2Int) : Option α := (m.find? (·.1 = pos)).map (·.2)

def set (pos : Vec2Int) (value : α) : CellMap α → CellMap α
  | [] => [(pos, value)]
  | (key, old) :: rest =>
      if key = pos then (pos, value) :: rest
      else if pos.before key then (pos, value) :: (key, old) :: rest
      else (key, old) :: set pos value rest

end CellMap

structure PathSearch where
  pq : List PQNode
  best : CellMap Nat
  parent : CellMap Vec2Int

/-- What `top` and `pop` do; the library does not fix which of several least nodes it is. -/
abbrev Pop := List PQNode → Option (PQNode × List PQNode)

/-- A node of least cost, the one pushed first among equals. -/
def popLeast : Pop
  | [] => none
  | node :: rest =>
      match popLeast rest with
      | none => some (node, [])
      | some (least, others) =>
          if least.cost < node.cost then some (least, node :: others) else some (node, rest)

def front : List Vec2Int := [⟨0, -1⟩, ⟨0, 1⟩, ⟨-1, 0⟩, ⟨1, 0⟩]

/-- One neighbour in the loop over `front`. -/
def visitNeighbour (free : Vec2Int → Bool) (src dest : Vec2Int) (maxDepth : Int)
    (node : PQNode) (search : PathSearch) (step : Vec2Int) : PathSearch :=
  let nextPos := node.pos + step
  if !free nextPos then search
  else if maxDepth ≤ (src - nextPos).manhattan then search
  else
    let cost := (dest - nextPos).manhattan
    let bestValue := (search.best.get nextPos).getD 0
    if bestValue ≠ 0 ∧ bestValue ≤ cost then search
    else
      { pq := search.pq ++ [⟨cost, nextPos⟩]
        best := search.best.set nextPos cost
        parent := search.parent.set nextPos node.pos }

/-- One pass of the search loop; it leaves with whether `dest` was found. -/
def searchBody (pop : Pop) (free : Vec2Int → Bool) (src dest : Vec2Int) (maxDepth : Int)
    (search : PathSearch) : WhileLoop.Pass PathSearch (Bool × PathSearch) :=
  match pop search.pq with
  | none => .exit (false, search)
  | some (node, pq) =>
      let search := { search with pq }
      if (search.best.get node.pos).getD 0 < node.cost then .again search
      else if node.pos = dest then .exit (true, search)
      else .again (front.foldl (visitNeighbour free src dest maxDepth node) search)

/-- An `int32` as a `float`, which has 23 bits after the first one. -/
def toFloat (value : Nat) : Nat := Rounding.keepBits 23 value

/-- One pass of the loop over `best`. `bestScore` is a float, `FLT_MAX` at first. -/
def keepNearest (src : Vec2Int) (now : Vec2Int × Option Nat) (item : Vec2Int × Nat) :
    Vec2Int × Option Nat :=
  let score := toFloat item.2
  match now.2 with
  | none => (item.1, some score)
  | some bestScore =>
      if bestScore = score then
        if (item.1 - src).manhattan < (now.1 - src).manhattan then (item.1, now.2) else now
      else if score < bestScore then (item.1, some score)
      else now

/-- The cell to go to where `dest` was not found: the last one that replaced `dest`. -/
def nearestReached (src dest : Vec2Int) (best : CellMap Nat) : Vec2Int :=
  (best.foldl (keepNearest src) (dest, none)).1

/-- The chain of parents from `pos` on, in reverse; `none` where it is longer. -/
def tracePath (parent : CellMap Vec2Int) : Nat → Vec2Int → Option (List Vec2Int)
  | 0, _ => none
  | cells + 1, pos =>
      let before := (parent.get pos).getD ⟨0, 0⟩
      if pos = before then some [pos] else (tracePath parent cells before).map (· ++ [pos])

/-- More than the cells nearer than `maxDepth` to one cell. -/
def searchFuel (maxDepth : Int) : Nat := (2 * maxDepth.toNat) * (2 * maxDepth.toNat) + 1

/-- `GameRoom::FindPath` with its result and its out parameter; `none` where it does not
return. -/
def findPathBy (pop : Pop) (free : Vec2Int → Bool) (src dest : Vec2Int) (maxDepth : Int)
    (path : List Vec2Int) : Option (Bool × List Vec2Int) :=
  if maxDepth ≤ (src - dest).manhattan then some (false, path)
  else
    let cost := (dest - src).manhattan
    let start : PathSearch :=
      { pq := [⟨cost, src⟩], best := [(src, cost)], parent := [(src, src)] }
    match WhileLoop.run (searchBody pop free src dest maxDepth) (searchFuel maxDepth) start with
    | none => none
    | some (found, search) =>
        let dest := if found then dest else nearestReached src dest search.best
        (tracePath search.parent (searchFuel maxDepth) dest).map (true, ·)

/-- The path that `FindPath` finds, where it returns true. -/
def findPath (free : Vec2Int → Bool) (src dest : Vec2Int) (maxDepth : Int) :
    Option (List Vec2Int) :=
  match findPathBy popLeast free src dest maxDepth [] with
  | some (true, path) => some path
  | _ => none

section Sending

variable (routing : Routing) (r : RoomRef)

/-- `GameRoom::Broadcast` -/
def broadcast (pkt : ServerPacket) (scene : Scene) : Scene :=
  (playerIds routing r).foldl (fun scene id =>
    match routing.playerSession id with
    | some s => scene.send s pkt
    | none => scene.fail .nullPointer) scene

/-- `if (player->session) player->session->Send(pkt)` -/
def sendToPlayer (id : ObjectId) (pkt : ServerPacket) (scene : Scene) : Scene :=
  match routing.playerSession id with
  | some s => scene.send s pkt
  | none => scene

end Sending

/-- What a method of the player hands on goes to its session, its room and Redis. -/
def emit (routing : Routing) (id : ObjectId) (scene : Scene) : Emission → Scene
  | .session pkt => sendToPlayer routing id pkt scene
  | .room pkt =>
      match routing.playerRoom id with
      | some r => broadcast routing r pkt scene
      | none => scene
  | .rank name level => scene.redisCommand (.rankLevel name level)

def actPlayer (routing : Routing) (id : ObjectId) (method : Player → Player × List Emission)
    (scene : Scene) : Scene :=
  let done := method (scene.players id)
  done.2.foldl (emit routing id) (scene.setPlayer id done.1)

end ZeldaServer
