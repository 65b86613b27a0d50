import Mathlib.Data.Fintype.Pi
import Mathlib.Logic.Function.Basic
import ZeldaServer.Game.GameData
import ZeldaServer.Protocol.Packets

/-! The game data of a `Player`, and what its methods do to it. The pointers `session` and
`room` are kept with the routing; what a method sends through them is part of its result. -/

namespace ZeldaServer

structure InventorySlot where
  itemId : Int
  count : Int
  deriving DecidableEq

def InventorySlot.empty : InventorySlot := ⟨0, 0⟩

def inventorySize : Nat := 27

abbrev Storage := Fin inventorySize → InventorySlot

structure Player where
  info : ObjectInfo
  moveEndTick : Nat
  level : Int
  exp : Int
  storage : Storage
  equipWeapon : InventorySlot
  equipArmor : InventorySlot
  equipPotion : InventorySlot

/-- `PlayerSaveData` -/
structure SaveData where
  name : Bytes
  level : Int
  exp : Int
  hp : Int
  storage : Storage
  equipWeapon : InventorySlot
  equipArmor : InventorySlot
  equipPotion : InventorySlot
  deriving DecidableEq

inductive Emission where
  /-- `if (session) session->Send(..)` -/
  | session (pkt : ServerPacket)
  /-- `if (room) room->Broadcast(..)` -/
  | room (pkt : ServerPacket)
  /-- `GRedisClient.Get().zadd("rank:level", name, level)` -/
  | rank (name : Bytes) (level : Int)
  deriving DecidableEq

namespace ObjectInfo

def cellPos (info : ObjectInfo) : Vec2Int := ⟨info.posX, info.posY⟩

def setCellPos (info : ObjectInfo) (pos : Vec2Int) : ObjectInfo :=
  { info with posX := pos.x, posY := pos.y }

@[simp] theorem cellPos_setCellPos (info : ObjectInfo) (pos : Vec2Int) :
    (info.setCellPos pos).cellPos = pos := rfl

/-- `Creature::OnDamaged` -/
def onDamaged (info : ObjectInfo) (damage : Int) : ObjectInfo :=
  if damage ≤ 0 then info else { info with hp := max 0 (info.hp - damage) }

end ObjectInfo

namespace Dir

/-- `DIR_TYPE_IsValid` -/
def isValid (dir : Dir) : Bool := dir = up ∨ dir = down ∨ dir = left ∨ dir = right

end Dir

/-- `GameObject::GetFrontCellPos` -/
def ObjectInfo.frontCellPos (info : ObjectInfo) : Vec2Int :=
  if info.dir = Dir.down then info.cellPos + ⟨0, 1⟩
  else if info.dir = Dir.left then info.cellPos + ⟨-1, 0⟩
  else if info.dir = Dir.right then info.cellPos + ⟨1, 0⟩
  else if info.dir = Dir.up then info.cellPos + ⟨0, -1⟩
  else info.cellPos

/-- `GameObject::GetLookAtDir` -/
def ObjectInfo.lookAtDir (info : ObjectInfo) (cellPos : Vec2Int) : Dir :=
  let dir := cellPos - info.cellPos
  if 0 < dir.x then Dir.right
  else if dir.x < 0 then Dir.left
  else if 0 < dir.y then Dir.down
  else Dir.up

namespace Player

/-- `Player::GetMaxExp` -/
def maxExp (data : GameData) (level : Int) : Int :=
  match data.levelData (level + 1) with
  | some row => row.requiredExp
  | none => 0

/-- The three fields of `info.mutable_player()`. -/
def withExtra (data : GameData) (p : Player) : Player :=
  { p with info := { p.info with extra := some (.player p.level p.exp (maxExp data p.level)) } }

/-- `Player::Player`, behind `GameObject::CreatePlayer`. -/
def create (data : GameData) (objectId : ObjectId) : Player :=
  let row := (data.levelData 1).getD { requiredExp := 0, maxHp := 100, attack := 20, defence := 5 }
  withExtra data
    { info :=
        { ObjectInfo.default with
          objectId := objectId
          objectType := .player
          hp := row.maxHp
          maxHp := row.maxHp
          attack := row.attack
          defence := row.defence }
      moveEndTick := 0
      level := 1
      exp := 0
      storage := fun _ => .empty
      equipWeapon := .empty
      equipArmor := .empty
      equipPotion := .empty }

/-- `GameObject::Update` with its broadcast. -/
def update (now : Nat) (p : Player) : Player × List Emission :=
  if p.info.state = .move ∧ p.moveEndTick ≠ 0 ∧ p.moveEndTick ≤ now then
    let info := { p.info with state := .idle }
    ({ p with moveEndTick := 0, info }, [.room (.move info)])
  else (p, [])

def onDamaged (p : Player) (damage : Int) : Player := { p with info := p.info.onDamaged damage }

def equipValue (data : GameData) (slot : InventorySlot) : Int :=
  if 0 < slot.itemId then
    match data.itemTemplate slot.itemId with
    | some item => item.value
    | none => 0
  else 0

def recalcStats (data : GameData) (p : Player) : Player :=
  match data.levelData p.level with
  | none => p
  | some row =>
      { p with
        info :=
          { p.info with
            attack := row.attack + equipValue data p.equipWeapon
            defence := row.defence + equipValue data p.equipArmor } }

def applyLevelStats (data : GameData) (row : LevelData) (p : Player) : Player :=
  recalcStats data { p with info := { p.info with maxHp := row.maxHp } }

def processLevelUp (data : GameData) (p : Player) : Player × List Emission :=
  let p := { p with level := p.level + 1 }
  let p :=
    match data.levelData p.level with
    | some row => applyLevelStats data row p
    | none => p
  let p := withExtra data { p with info := { p.info with hp := p.info.maxHp } }
  (p,
    [.rank p.info.name p.level,
      .room (.levelUp p.info.objectId p.level p.info.maxHp p.info.attack p.info.defence
        (maxExp data p.level))])

/-- The loop of `GainExp`. Every pass raises the level, so the passes left to level 30
bound it. -/
def levelUps (data : GameData) : Nat → Player → Player × List Emission
  | 0, p => (p, [])
  | passes + 1, p =>
      if p.level < 30 then
        let requiredExp := maxExp data p.level
        if requiredExp ≤ 0 ∨ p.exp < requiredExp then (p, [])
        else
          let up := processLevelUp data { p with exp := p.exp - requiredExp }
          let rest := levelUps data passes up.1
          (rest.1, up.2 ++ rest.2)
      else (p, [])

def maxLevel : Int := 30

def gainExp (data : GameData) (amount : Int) (p : Player) : Player × List Emission :=
  if amount ≤ 0 then (p, [])
  else if maxLevel ≤ p.level then (p, [])
  else
    let ups := levelUps data (maxLevel - p.level).toNat { p with exp := p.exp + amount }
    let p := ups.1
    -- `set_exp` and `set_maxexp` only: the level in `extra` is as the last level-up left it
    let extra :=
      match p.info.extra with
      | some (.player level _ _) => .player level p.exp (maxExp data p.level)
      | _ => .player 0 p.exp (maxExp data p.level)
    ({ p with info := { p.info with extra := some extra } },
      ups.2 ++ [.session (.gainExp p.info.objectId amount p.exp (maxExp data p.level))])

def findSlot (storage : Storage) (fits : InventorySlot → Bool) : Option (Fin inventorySize) :=
  (List.finRange inventorySize).find? fun i => fits (storage i)

def findEmptySlot (p : Player) : Option (Fin inventorySize) :=
  findSlot p.storage fun slot => slot.itemId = 0

def setStorage (p : Player) (i : Fin inventorySize) (slot : InventorySlot) : Player :=
  { p with storage := Function.update p.storage i slot }

/-- `Player::AddItem`: its result, the player and the packets. -/
def addItem (data : GameData) (itemId count : Int) (p : Player) : Bool × Player × List Emission :=
  match data.itemTemplate itemId with
  | none => (false, p, [])
  | some tmpl =>
      let stack :=
        if 1 < tmpl.maxStack then
          findSlot p.storage fun slot => slot.itemId = itemId ∧ slot.count < tmpl.maxStack
        else none
      match stack with
      | some i =>
          let slot := { p.storage i with count := min ((p.storage i).count + count) tmpl.maxStack }
          (true, p.setStorage i slot, [.session (.addItem itemId i slot.count)])
      | none =>
          match p.findEmptySlot with
          | none => (false, p, [])
          | some i => (true, p.setStorage i ⟨itemId, count⟩, [.session (.addItem itemId i count)])

/-- `equipSlot` of `EquipItem` and `UnequipItem`, by its equip type. -/
inductive EquipSlot where
  | weapon
  | armor
  | potion
  deriving DecidableEq

def EquipSlot.equipType : EquipSlot → Int
  | .weapon => 0
  | .armor => 1
  | .potion => 2

def EquipSlot.ofItemType : ItemType → Option EquipSlot
  | .weapon => some .weapon
  | .armor => some .armor
  | .consumable => some .potion
  | .other => none

def EquipSlot.ofEquipType (equipType : Int) : Option EquipSlot :=
  if equipType = 0 then some .weapon
  else if equipType = 1 then some .armor
  else if equipType = 2 then some .potion
  else none

def equipped (p : Player) : EquipSlot → InventorySlot
  | .weapon => p.equipWeapon
  | .armor => p.equipArmor
  | .potion => p.equipPotion

def setEquipped (p : Player) (slot : InventorySlot) : EquipSlot → Player
  | .weapon => { p with equipWeapon := slot }
  | .armor => { p with equipArmor := slot }
  | .potion => { p with equipPotion := slot }

/-- `_storage[slot]` where the index is checked against `[0, INVENTORY_SIZE)`. -/
def storageSlot (slot : Int) : Option (Fin inventorySize) :=
  if inside : 0 ≤ slot ∧ slot < inventorySize then some ⟨slot.toNat, by omega⟩ else none

def equipItem (data : GameData) (slot : Int) (p : Player) : Player × List Emission :=
  match storageSlot slot with
  | none => (p, [])
  | some i =>
      if (p.storage i).itemId = 0 then (p, [])
      else
        match data.itemTemplate (p.storage i).itemId with
        | none => (p, [])
        | some tmpl =>
            match EquipSlot.ofItemType tmpl.type with
            | none => (p, [])
            | some equip =>
                let old := p.equipped equip
                let p := recalcStats data ((p.setEquipped (p.storage i) equip).setStorage i old)
                (p,
                  [.session (.equipItem equip.equipType slot (p.storage i).itemId
                    (p.storage i).count (p.equipped equip).itemId (p.equipped equip).count
                    p.info.attack p.info.defence)])

def unequipItem (data : GameData) (equipType : Int) (p : Player) : Player × List Emission :=
  match EquipSlot.ofEquipType equipType with
  | none => (p, [])
  | some equip =>
      if (p.equipped equip).itemId = 0 then (p, [])
      else
        match p.findEmptySlot with
        | none => (p, [])
        | some i =>
            let p := recalcStats data ((p.setStorage i (p.equipped equip)).setEquipped .empty equip)
            (p, [.session (.unequipItem equipType i p.info.attack p.info.defence)])

/-- `targetSlot` of `UseItem`: the equipped potion for -1, else a storage slot. -/
inductive UseSlot where
  | potion
  | storage (i : Fin inventorySize)

def UseSlot.ofInt (slot : Int) : Option UseSlot :=
  if slot = -1 then some .potion else (storageSlot slot).map .storage

def UseSlot.equipType : UseSlot → Int
  | .potion => 2
  | .storage _ => -1

def useSlot (p : Player) : UseSlot → InventorySlot
  | .potion => p.equipPotion
  | .storage i => p.storage i

def setUseSlot (p : Player) (slot : InventorySlot) : UseSlot → Player
  | .potion => { p with equipPotion := slot }
  | .storage i => p.setStorage i slot

def useItem (data : GameData) (slot : Int) (p : Player) : Player × List Emission :=
  match UseSlot.ofInt slot with
  | none => (p, [])
  | some target =>
      if (p.useSlot target).itemId = 0 then (p, [])
      else
        match data.itemTemplate (p.useSlot target).itemId with
        | none => (p, [])
        | some tmpl =>
            if tmpl.type ≠ .consumable then (p, [])
            else
              let newHp := min (p.info.hp + tmpl.value) p.info.maxHp
              let used : InventorySlot :=
                { p.useSlot target with count := (p.useSlot target).count - 1 }
              let left := if used.count ≤ 0 then InventorySlot.empty else used
              (({ p with info := { p.info with hp := newHp } } : Player).setUseSlot left target,
                [.session (.useItem target.equipType left.count newHp)])

def itemInfo (slot : InventorySlot) (i : Int) : ItemInfo := ⟨slot.itemId, slot.count, i⟩

def sendInventoryData (p : Player) : List Emission :=
  let items := (List.finRange inventorySize).filterMap fun i =>
    if (p.storage i).itemId = 0 then none else some (itemInfo (p.storage i) i)
  [.session (.inventoryData items (itemInfo p.equipWeapon 0) (itemInfo p.equipArmor 0)
    (itemInfo p.equipPotion 0))]

def applyFromSaveData (data : GameData) (saved : SaveData) (p : Player) : Player :=
  let p := { p with level := saved.level, exp := saved.exp }
  let info := { p.info with name := saved.name }
  let info :=
    match data.levelData p.level with
    | some row => { info with maxHp := row.maxHp, attack := row.attack, defence := row.defence }
    | none => info
  let info := { info with hp := min saved.hp info.maxHp }
  withExtra data <| recalcStats data
    { p with
      info
      storage := saved.storage
      equipWeapon := saved.equipWeapon
      equipArmor := saved.equipArmor
      equipPotion := saved.equipPotion }

def toSaveData (p : Player) : SaveData where
  name := p.info.name
  level := p.level
  exp := p.exp
  hp := p.info.hp
  storage := p.storage
  equipWeapon := p.equipWeapon
  equipArmor := p.equipArmor
  equipPotion := p.equipPotion

end Player

end ZeldaServer
