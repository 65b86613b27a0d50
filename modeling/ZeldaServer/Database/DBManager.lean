import ZeldaServer.Lib.Table
import ZeldaServer.World.PacketHandler

/-! `DBManager` over its SQLite connection: the four tables, the statements it executes on
them, and its methods. -/

namespace ZeldaServer

/-- A row of `accounts`; its `created_at` is never read. -/
structure AccountRow where
  accountId : Int
  username : Bytes
  deriving DecidableEq

structure PlayerRow where
  accountId : Int
  name : Bytes
  level : Int
  exp : Int
  hp : Int
  deriving DecidableEq

/-- A row of `inventory`, or one of `equipment`, with its `equip_type` for the slot. -/
structure ItemRow where
  rowid : Int
  accountId : Int
  slot : Int
  item : InventorySlot
  deriving DecidableEq

/-- `PRIMARY KEY (account_id, slot)` -/
def ItemRow.key (row : ItemRow) : Int × Int := (row.accountId, row.slot)

abbrev ItemTable := Table ItemRow.rowid ItemRow.key

/-- What one connection sees. No statement ever rolls back, so a transaction that is open is
only a flag. -/
structure Database where
  accounts : Table AccountRow.accountId AccountRow.username
  /-- The last account id ever given, kept by `AUTOINCREMENT`. -/
  accountSeq : Int
  players : Table PlayerRow.accountId PlayerRow.accountId
  inventory : ItemTable
  equipment : ItemTable
  inTransaction : Bool
  /-- `sqlite3_last_insert_rowid` -/
  lastInsertRowid : Int

/-- After `CreateTables` on a new file. -/
def Database.created : Database := ⟨.empty, 0, .empty, .empty, .empty, false, 0⟩

inductive Statement where
  | beginTransaction
  | insertAccount (username : Bytes)
  | replacePlayer (row : PlayerRow)
  | deleteInventory (accountId : Int)
  | insertInventory (accountId slot : Int) (item : InventorySlot)
  | deleteEquipment (accountId : Int)
  | insertEquipment (accountId equipType : Int) (item : InventorySlot)
  | commit

def ItemTable.newRow (t : ItemTable) (accountId slot : Int) (item : InventorySlot) : ItemRow :=
  ⟨t.nextRowid, accountId, slot, item⟩

namespace Database

def nextAccountId (db : Database) : Int := max db.accountSeq (db.accounts.maxRowid.getD 0) + 1

/-- `sqlite3_step` or `sqlite3_exec`, `none` where SQLite answers with an error. -/
def exec (db : Database) : Statement → Option Database
  | .beginTransaction => if db.inTransaction then none else some { db with inTransaction := true }
  | .insertAccount username =>
      (db.accounts.insert ⟨db.nextAccountId, username⟩).map fun accounts =>
        { db with
          accounts
          accountSeq := db.nextAccountId
          lastInsertRowid := db.nextAccountId }
  | .replacePlayer row =>
      some { db with players := db.players.replace row, lastInsertRowid := row.accountId }
  | .deleteInventory accountId =>
      some { db with inventory := db.inventory.keep fun row => row.accountId ≠ accountId }
  | .insertInventory accountId slot item =>
      (db.inventory.insert (db.inventory.newRow accountId slot item)).map fun inventory =>
        { db with inventory, lastInsertRowid := db.inventory.nextRowid }
  | .deleteEquipment accountId =>
      some { db with equipment := db.equipment.keep fun row => row.accountId ≠ accountId }
  | .insertEquipment accountId equipType item =>
      (db.equipment.insert (db.equipment.newRow accountId equipType item)).map fun equipment =>
        { db with equipment, lastInsertRowid := db.equipment.nextRowid }
  | .commit => if db.inTransaction then some { db with inTransaction := false } else none

def attempt (db : Database) (statement : Statement) : Database :=
  (db.exec statement).getD db

/-- The `SELECT` of `FindOrCreateAccount` -/
def selectAccount (db : Database) (username : Bytes) : Option Int :=
  (db.accounts.find (cString username)).map (·.accountId)

/-- `DBManager::FindOrCreateAccount`, where all its statements can be prepared. -/
def findOrCreateAccount (db : Database) (username : Bytes) : Int × Database :=
  match db.selectAccount username with
  | some id => (id, db)
  | none =>
      match db.exec (.insertAccount (cString username)) with
      | some db => (db.lastInsertRowid, db)
      | none => (0, db)

/-- `DBManager::HasPlayerData` -/
def hasPlayerData (db : Database) (accountId : Int) : Bool := (db.players.find accountId).isSome

end Database

namespace SaveData

/-- The initialisers of `PlayerSaveData`. -/
def fresh : SaveData := ⟨[], 1, 0, 100, fun _ => .empty, .empty, .empty, .empty⟩

def equipped (saved : SaveData) : Player.EquipSlot → InventorySlot
  | .weapon => saved.equipWeapon
  | .armor => saved.equipArmor
  | .potion => saved.equipPotion

def setEquipped (saved : SaveData) (slot : InventorySlot) : Player.EquipSlot → SaveData
  | .weapon => { saved with equipWeapon := slot }
  | .armor => { saved with equipArmor := slot }
  | .potion => { saved with equipPotion := slot }

def readPlayer (out : SaveData) (row : PlayerRow) : SaveData :=
  { out with name := cString row.name, level := row.level, exp := row.exp, hp := row.hp }

def readInventory (out : SaveData) (row : ItemRow) : SaveData :=
  match Player.storageSlot row.slot with
  | none => out
  | some i => { out with storage := Function.update out.storage i row.item }

def readEquipment (out : SaveData) (row : ItemRow) : SaveData :=
  match Player.EquipSlot.ofEquipType row.slot with
  | none => out
  | some equip => out.setEquipped row.item equip

end SaveData

/-- The rows `SELECT .. WHERE account_id = ?` finds. -/
def ItemTable.ofAccount (t : ItemTable) (accountId : Int) : List ItemRow :=
  t.rows.filter fun row => row.accountId = accountId

/-- `DBManager::LoadPlayerData`: its result, and what it leaves in `outData`. -/
def Database.loadPlayerData (db : Database) (accountId : Int) (out : SaveData) :
    Bool × SaveData :=
  match db.players.find accountId with
  | none => (false, out)
  | some row =>
      let out := out.readPlayer row
      let out := (db.inventory.ofAccount accountId).foldl SaveData.readInventory out
      (true, (db.equipment.ofAccount accountId).foldl SaveData.readEquipment out)

/-- The calls of `SavePlayerData` that can fail. -/
inductive SaveStep where
  | execBegin
  | preparePlayer
  | stepPlayer
  | prepareDeleteInventory
  | stepDeleteInventory
  | prepareInsertInventory
  | stepInsertInventory (i : Fin inventorySize)
  | prepareDeleteEquipment
  | stepDeleteEquipment
  | prepareInsertEquipment
  | stepInsertEquipment (equip : Player.EquipSlot)
  | execCommit
  deriving DecidableEq

def SaveData.playerRow (saved : SaveData) (accountId : Int) : PlayerRow :=
  ⟨accountId, cString saved.name, saved.level, saved.exp, saved.hp⟩

def issued (reached : Bool) (statement : Statement) : List Statement :=
  if reached then [statement] else []

def equipSlots : List Player.EquipSlot := [.weapon, .armor, .potion]

section

variable (ok : SaveStep → Bool) (accountId : Int) (saved : SaveData)

/-- The statements of `SavePlayerData`, in their order, where only the calls that are `ok` get
through. A slot with item id 0 is skipped. -/
def inventoryInserts : List Statement :=
  (List.finRange inventorySize).flatMap fun i =>
    issued
      (ok .prepareInsertInventory && (saved.storage i).itemId ≠ 0 && ok (.stepInsertInventory i))
      (.insertInventory accountId i (saved.storage i))

def equipmentInserts : List Statement :=
  equipSlots.flatMap fun equip =>
    issued
      (ok .prepareInsertEquipment && (saved.equipped equip).itemId ≠ 0 &&
        ok (.stepInsertEquipment equip))
      (.insertEquipment accountId equip.equipType (saved.equipped equip))

def saveStatements : List Statement :=
  issued (ok .execBegin) .beginTransaction ++
    issued (ok .preparePlayer && ok .stepPlayer) (.replacePlayer (saved.playerRow accountId)) ++
    issued (ok .prepareDeleteInventory && ok .stepDeleteInventory) (.deleteInventory accountId) ++
    inventoryInserts ok accountId saved ++
    issued (ok .prepareDeleteEquipment && ok .stepDeleteEquipment) (.deleteEquipment accountId) ++
    equipmentInserts ok accountId saved ++
    issued (ok .execCommit) .commit

/-- `DBManager::SavePlayerData`: no result of a call is looked at. -/
def Database.savePlayerData (db : Database) : Bool × Database :=
  (true, (saveStatements ok accountId saved).foldl Database.attempt db)

end

end ZeldaServer
