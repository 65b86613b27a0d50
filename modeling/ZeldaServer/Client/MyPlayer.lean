import ZeldaServer.World.Views

/-! The player of the client: what its keys ask the server for, and what it makes of the
packets about itself. Times and distances are floats in the code; what they decide comes with
the frame. -/

namespace ZeldaServer

/-- The part of an `ObjectInfo` that walking changes. -/
structure Footing where
  dir : Dir
  state : ObjectState
  cellPos : Vec2Int
  deriving DecidableEq

def ObjectInfo.footing (info : ObjectInfo) : Footing := ⟨info.dir, info.state, info.cellPos⟩

/-- A `C_Turn`, `C_Move` or `C_Attack` of the client. -/
inductive Request where
  | turn (dir : Dir)
  | move (dir : Dir)
  | attack (dir : Dir) (weaponType : WeaponType)
  deriving DecidableEq

namespace Request

/-- The requests that `_movePending` is for. -/
def isStep : Request → Bool
  | .turn _ | .move _ => true
  | .attack _ _ => false

def job (s : SessionId) : Request → Job
  | .turn dir => .turn s ⟨dir⟩
  | .move dir => .move s ⟨dir⟩
  | .attack dir weaponType => .attack s ⟨dir, weaponType⟩

end Request

inductive KeyType where
  | w
  | a
  | s
  | d
  | key1
  | key2
  | key3
  | spaceBar
  deriving DecidableEq

/-- What one `Tick` of the player finds outside of it. -/
structure Frame where
  /-- `(_destPos - _pos).Length() <= 0.5f` -/
  arrived : Bool
  animationEnded : Bool
  inputLocked : Bool
  getButton : KeyType → Bool
  getButtonDown : KeyType → Bool
  /-- `now < _attackCooldownUntil` -/
  coolingDown : Bool
  /-- The scene has a map, and it is not the town. -/
  fightingGround : Bool
  /-- `_turnGraceLeft > 0.f` -/
  turnGrace : Bool
  /-- `now - _attackPendingStart > 0.25f` at the end of the frame -/
  attackTimedOut : Bool

/-- `MyPlayer`, as far as it walks and fights: `info.dir()`, `info.state()`, the cell, and the
fields of its own. -/
structure MyPlayerWalk where
  footing : Footing
  weaponType : WeaponType
  keyPressed : Bool
  wantedDir : Dir
  movePending : Bool
  attackPending : Bool
  blockedHold : Bool
  blockedDir : Dir
  lastMoveFrom : Vec2Int
  lastMoveDir : Dir
  hasLastMoveRequest : Bool
  deriving DecidableEq

namespace MyPlayerWalk

/-- `SpawnObject<MyPlayer>`, and `myPlayer->info = info`. -/
def spawn (info : ObjectInfo) : MyPlayerWalk :=
  { footing := info.footing
    weaponType := WeaponType.sword
    keyPressed := false
    wantedDir := Dir.down
    movePending := false
    attackPending := false
    blockedHold := false
    blockedDir := Dir.down
    lastMoveFrom := ⟨0, 0⟩
    lastMoveDir := Dir.down
    hasLastMoveRequest := false }

def heldDir (frame : Frame) : Option Dir :=
  if frame.getButton .w then some Dir.up
  else if frame.getButton .s then some Dir.down
  else if frame.getButton .a then some Dir.left
  else if frame.getButton .d then some Dir.right
  else none

/-- `SetWeaponType` by the keys 1, 2 and 3. -/
def chosenWeapon (frame : Frame) (weaponType : WeaponType) : WeaponType :=
  if frame.getButtonDown .key1 then WeaponType.sword
  else if frame.getButtonDown .key2 then WeaponType.bow
  else if frame.getButtonDown .key3 then WeaponType.staff
  else weaponType

/-- `MyPlayer::TickInput`, with `TrySkill`. -/
def tickInput (frame : Frame) (me : MyPlayerWalk) : MyPlayerWalk × List Request :=
  if frame.inputLocked then (me, [])
  else
    let me :=
      match heldDir frame with
      | some dir => { me with keyPressed := true, wantedDir := dir }
      | none => { me with keyPressed := false, blockedHold := false }
    let me := { me with weaponType := chosenWeapon frame me.weaponType }
    if frame.getButtonDown .spaceBar && !frame.coolingDown && !me.attackPending &&
        frame.fightingGround then
      ({ me with attackPending := true }, [.attack me.footing.dir me.weaponType])
    else (me, [])

/-- `MyPlayer::TryMove` -/
def tryMove (frame : Frame) (me : MyPlayerWalk) : MyPlayerWalk × List Request :=
  if me.keyPressed = false then (me, [])
  else if me.movePending then (me, [])
  else if me.blockedHold ∧ me.footing.dir = me.wantedDir ∧ me.blockedDir = me.wantedDir then (me, [])
  else if me.footing.dir ≠ me.wantedDir then
    ({ me with keyPressed := false, movePending := true }, [.turn me.wantedDir])
  else if frame.turnGrace then (me, [])
  else
    ({ me with
        lastMoveFrom := me.footing.cellPos
        lastMoveDir := me.footing.dir
        hasLastMoveRequest := true
        keyPressed := false
        movePending := true },
      [.move me.footing.dir])

/-- `MyPlayer::TickIdle` -/
def tickIdle (frame : Frame) (me : MyPlayerWalk) : MyPlayerWalk × List Request :=
  let input := me.tickInput frame
  let move := input.1.tryMove frame
  (move.1, input.2 ++ move.2)

/-- `GameObject::Tick`: on its way to a cell the player does nothing else. -/
def act (frame : Frame) (me : MyPlayerWalk) : MyPlayerWalk × List Request :=
  if !frame.arrived then (me, [])
  else
    match me.footing.state with
    | .idle => me.tickIdle frame
    | .move => (me, [])
    | .skill =>
        (if frame.animationEnded then { me with footing := { me.footing with state := .idle } } else me,
          [])

/-- `MyPlayer::Tick` -/
def tick (frame : Frame) (me : MyPlayerWalk) : MyPlayerWalk × List Request :=
  let acted := me.act frame
  ({ acted.1 with attackPending := acted.1.attackPending && !frame.attackTimedOut }, acted.2)

/-- `MyPlayer::OnServerMoveResult` -/
def onServerMoveResult (info : ObjectInfo) (me : MyPlayerWalk) : MyPlayerWalk :=
  let me := { me with movePending := false }
  if me.hasLastMoveRequest = false then me
  else
    let stayed := info.cellPos = me.lastMoveFrom ∧ info.state = .idle
    { me with
      blockedHold := decide stayed
      blockedDir := if stayed then me.lastMoveDir else me.blockedDir
      hasLastMoveRequest := false }

/-- `Player::FromProtoWeaponType` and `ToProtoWeaponType` -/
def protoWeapon (weaponType : WeaponType) : WeaponType :=
  if weaponType = WeaponType.bow ∨ weaponType = WeaponType.staff then weaponType
  else WeaponType.sword

/-- `Handle_S_Move`, `Handle_S_Turn` and `Handle_S_Attack` for the own id; a turn keeps the
cell. -/
def hear (id : ObjectId) (me : MyPlayerWalk) : ServerPacket → MyPlayerWalk
  | .move info =>
      if info.objectId = id then { me.onServerMoveResult info with footing := info.footing } else me
  | .turn info =>
      if info.objectId = id then
        { me with
          movePending := false
          footing := { me.footing with dir := info.dir, state := info.state } }
      else me
  | .attack attackerId dir weaponType =>
      if attackerId = id then
        { me with
          footing := { me.footing with dir }
          weaponType := protoWeapon weaponType
          attackPending := false }
      else me
  | _ => me

end MyPlayerWalk

/-- `S_MyPlayer` creates the player of the client, and `S_RemoveObject` removes it by its id,
an `int32`. -/
def hearOwn (id : ObjectId) (me : Option MyPlayerWalk) : ServerPacket → Option MyPlayerWalk
  | .myPlayer info => some (.spawn info)
  | .removeObject ids => if ids.any (Screen.narrow · = id) then none else me
  | pkt => me.map fun me => me.hear id pkt

end ZeldaServer
