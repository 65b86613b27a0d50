import ZeldaServer.Database.DBManager
import ZeldaServer.Game.Inventory

/-! What `SavePlayerData` leaves in the tables, slot by slot, and what `LoadPlayerData` reads
from them. -/

namespace ZeldaServer

open Player (EquipSlot storageSlot)

namespace ItemTable

def itemAt (t : ItemTable) (accountId slot : Int) : Option InventorySlot :=
  (t.find (accountId, slot)).map (·.item)

/-- `DELETE FROM .. WHERE account_id = ?` -/
def deleteAccount (t : ItemTable) (accountId : Int) : ItemTable :=
  t.keep fun row => row.accountId ≠ accountId

/-- `INSERT INTO ..`, with its error ignored -/
def insertItem (t : ItemTable) (accountId slot : Int) (item : InventorySlot) : ItemTable :=
  (t.insert (t.newRow accountId slot item)).getD t

section

variable (t : ItemTable) (accountId slot : Int) (item : InventorySlot)

theorem itemAt_insertItem (accountId' slot' : Int) :
    (t.insertItem accountId slot item).itemAt accountId' slot' =
      (t.itemAt accountId' slot').or
        (if accountId = accountId' ∧ slot = slot' then some item else none) := by
  have collides := t.collides_next (t.newRow accountId slot item) (Int.le_refl _)
  unfold insertItem itemAt
  cases inserted : t.insert (t.newRow accountId slot item) with
  | none =>
      have taken := collides.mp ((t.insert_eq_none_iff _).mp inserted)
      rw [Option.getD_none]
      by_cases same : accountId = accountId' ∧ slot = slot'
      · obtain ⟨rfl, rfl⟩ := same
        obtain ⟨old, found⟩ := Option.ne_none_iff_exists'.mp taken
        have found : t.find (accountId, slot) = some old := found
        simp [found]
      · simp [same]
  | some t' =>
      have free : t.find (accountId, slot) = none := by
        by_contra taken
        have none := (t.insert_eq_none_iff _).mpr (collides.mpr taken)
        rw [inserted] at none
        cases none
      rw [Option.getD_some, t.find_insert _ _ t' inserted]
      by_cases same : accountId = accountId' ∧ slot = slot'
      · obtain ⟨rfl, rfl⟩ := same
        simp [ItemRow.key, newRow, free]
      · have other : (t.newRow accountId slot item).key ≠ (accountId', slot') := by
          simpa [ItemRow.key, newRow, Prod.ext_iff] using same
        simp [other, same]

theorem itemAt_deleteAccount (accountId' : Int) :
    (t.deleteAccount accountId).itemAt accountId' slot =
      if accountId' = accountId then none else t.itemAt accountId' slot := by
  unfold deleteAccount itemAt
  rw [t.find_keep]
  cases found : t.find (accountId', slot) with
  | none => simp
  | some row =>
      have key := ((t.find_eq_some_iff row _).mp found).2
      have account : row.accountId = accountId' := congrArg Prod.fst key
      by_cases same : accountId' = accountId <;> simp [Option.filter, account, same]

theorem ofAccount_insertItem (other : Int) (ne : other ≠ accountId) :
    (t.insertItem accountId slot item).ofAccount other = t.ofAccount other := by
  unfold insertItem
  cases inserted : t.insert (t.newRow accountId slot item) with
  | none => rfl
  | some t' =>
      have elsewhere : (t.newRow accountId slot item).accountId ≠ other := Ne.symm ne
      simp [ofAccount, t.insert_rows _ t' inserted, elsewhere]

theorem ofAccount_deleteAccount (other : Int) (ne : other ≠ accountId) :
    (t.deleteAccount accountId).ofAccount other = t.ofAccount other := by
  simp only [ofAccount, deleteAccount, Table.keep, List.filter_filter]
  apply List.filter_congr
  intro row _
  by_cases same : row.accountId = other
  · simp [same, ne]
  · simp [same]

end

section

variable {Item : Type} (accountId : Int) (slot : Item → Int) (item : Item → InventorySlot)

def insertItems (t : ItemTable) (items : List Item) : ItemTable :=
  items.foldl (fun t i => t.insertItem accountId (slot i) (item i)) t

theorem itemAt_insertItems (slot_inj : Function.Injective slot) [DecidableEq Item] (t : ItemTable)
    (items : List Item) (i : Item) :
    (insertItems accountId slot item t items).itemAt accountId (slot i) =
      (t.itemAt accountId (slot i)).or (if i ∈ items then some (item i) else none) := by
  induction items generalizing t with
  | nil => simp [insertItems]
  | cons head items ih =>
      have rest := ih (t.insertItem accountId (slot head) (item head))
      rw [itemAt_insertItem, Option.or_assoc] at rest
      refine rest.trans ?_
      by_cases same : i = head
      · subst same
        simp
      · have other : slot head ≠ slot i := fun equal => same (slot_inj equal).symm
        simp [same, other]

theorem ofAccount_insertItems (t : ItemTable) (items : List Item) (other : Int)
    (ne : other ≠ accountId) :
    (insertItems accountId slot item t items).ofAccount other = t.ofAccount other := by
  induction items generalizing t with
  | nil => rfl
  | cons head items ih => exact (ih _).trans (t.ofAccount_insertItem _ _ _ other ne)

end

end ItemTable

namespace SaveData

theorem ext_slots {a b : SaveData} (name : a.name = b.name) (level : a.level = b.level)
    (exp : a.exp = b.exp) (hp : a.hp = b.hp) (storage : a.storage = b.storage)
    (equipped : ∀ equip, a.equipped equip = b.equipped equip) : a = b := by
  have weapon := equipped .weapon
  have armor := equipped .armor
  have potion := equipped .potion
  cases a
  cases b
  simp_all [SaveData.equipped]

theorem equipped_setEquipped (saved : SaveData) (slot : InventorySlot) (equip : EquipSlot) :
    (saved.setEquipped slot equip).equipped = Function.update saved.equipped equip slot := by
  funext equip'
  cases equip <;> cases equip' <;> rfl

structure SameHead (a b : SaveData) : Prop where
  name : b.name = a.name
  level : b.level = a.level
  exp : b.exp = a.exp
  hp : b.hp = a.hp

theorem SameHead.trans {a b c : SaveData} (first : a.SameHead b) (second : b.SameHead c) :
    a.SameHead c :=
  ⟨second.name.trans first.name, second.level.trans first.level, second.exp.trans first.exp,
    second.hp.trans first.hp⟩

theorem readInventory_spec (row : ItemRow) (out : SaveData) :
    out.SameHead (out.readInventory row) ∧ (out.readInventory row).equipped = out.equipped ∧
      (out.readInventory row).storage =
        Table.put out.storage (storageSlot row.slot) row.item := by
  unfold readInventory
  cases storageSlot row.slot with
  | none => exact ⟨⟨rfl, rfl, rfl, rfl⟩, rfl, rfl⟩
  | some i => exact ⟨⟨rfl, rfl, rfl, rfl⟩, rfl, rfl⟩

theorem readEquipment_spec (row : ItemRow) (out : SaveData) :
    out.SameHead (out.readEquipment row) ∧ (out.readEquipment row).storage = out.storage ∧
      (out.readEquipment row).equipped =
        Table.put out.equipped (EquipSlot.ofEquipType row.slot) row.item := by
  unfold readEquipment
  cases EquipSlot.ofEquipType row.slot with
  | none => exact ⟨⟨rfl, rfl, rfl, rfl⟩, rfl, rfl⟩
  | some equip =>
      refine ⟨?_, ?_, equipped_setEquipped out row.item equip⟩
      · cases equip <;> exact ⟨rfl, rfl, rfl, rfl⟩
      · cases equip <;> rfl

theorem foldl_readInventory (rows : List ItemRow) (out : SaveData) :
    out.SameHead (rows.foldl readInventory out) ∧
      (rows.foldl readInventory out).equipped = out.equipped ∧
      (rows.foldl readInventory out).storage =
        rows.foldl (fun f row => Table.put f (storageSlot row.slot) row.item) out.storage := by
  induction rows generalizing out with
  | nil => exact ⟨⟨rfl, rfl, rfl, rfl⟩, rfl, rfl⟩
  | cons row rows ih =>
      obtain ⟨head, equipped, storage⟩ := readInventory_spec row out
      obtain ⟨heads, equippeds, storages⟩ := ih (out.readInventory row)
      refine ⟨head.trans heads, equippeds.trans equipped, ?_⟩
      rw [List.foldl_cons, List.foldl_cons, storages, storage]

theorem foldl_readEquipment (rows : List ItemRow) (out : SaveData) :
    out.SameHead (rows.foldl readEquipment out) ∧
      (rows.foldl readEquipment out).storage = out.storage ∧
      (rows.foldl readEquipment out).equipped =
        rows.foldl (fun f row => Table.put f (EquipSlot.ofEquipType row.slot) row.item)
          out.equipped := by
  induction rows generalizing out with
  | nil => exact ⟨⟨rfl, rfl, rfl, rfl⟩, rfl, rfl⟩
  | cons row rows ih =>
      obtain ⟨head, storage, equipped⟩ := readEquipment_spec row out
      obtain ⟨heads, storages, equippeds⟩ := ih (out.readEquipment row)
      refine ⟨head.trans heads, storages.trans storage, ?_⟩
      rw [List.foldl_cons, List.foldl_cons, equippeds, equipped]

end SaveData

theorem Player.ofEquipType_some (equipType : Int) (equip : EquipSlot)
    (found : EquipSlot.ofEquipType equipType = some equip) : equipType = equip.equipType := by
  unfold EquipSlot.ofEquipType at found
  split at found
  next weapon => cases found; exact weapon
  next =>
    split at found
    next armor => cases found; exact armor
    next =>
      split at found
      next potion => cases found; exact potion
      next => cases found

namespace ItemTable

theorem foldl_ofAccount {Place : Type} [DecidableEq Place] (t : ItemTable) (accountId : Int)
    (place : Int → Option Place) (slot : Place → Int)
    (at_slot : ∀ n i, place n = some i ↔ n = slot i) (start : Place → InventorySlot) (i : Place) :
    ((t.ofAccount accountId).foldl (fun f row => Table.put f (place row.slot) row.item) start) i =
      (t.itemAt accountId (slot i)).getD (start i) := by
  have apart : (t.ofAccount accountId).Pairwise fun a b =>
      ∀ i, place a.slot = some i → place b.slot ≠ some i := by
    have keys := List.pairwise_map.mp t.keys_nodup
    refine List.Pairwise.imp_of_mem ?_ (keys.sublist List.filter_sublist)
    intro a b member member' other i placed placed'
    have account := (List.mem_filter.mp member).2
    have account' := (List.mem_filter.mp member').2
    simp only [decide_eq_true_eq] at account account'
    apply other
    rw [ItemRow.key, ItemRow.key, account, account', (at_slot _ _).mp placed,
      (at_slot _ _).mp placed']
  rw [Table.foldl_put (fun row : ItemRow => place row.slot) (fun row => row.item) _ apart]
  have found : (t.ofAccount accountId).find? (fun row => place row.slot = some i) =
      t.find (accountId, slot i) := by
    rw [ofAccount, List.find?_filter, Table.find]
    congr 1
    funext row
    simp [ItemRow.key, Prod.ext_iff, at_slot]
  rw [found, itemAt]

end ItemTable

namespace Database

variable (db : Database) (accountId : Int) (out : SaveData)

/-- `LoadPlayerData` reads the player's row, and every slot that has a row. -/
structure Loads (row : PlayerRow) (loaded : SaveData) : Prop where
  name : loaded.name = cString row.name
  level : loaded.level = row.level
  exp : loaded.exp = row.exp
  hp : loaded.hp = row.hp
  storage : ∀ i : Fin inventorySize,
    loaded.storage i = (db.inventory.itemAt accountId i.val).getD (out.storage i)
  equipped : ∀ equip : EquipSlot,
    loaded.equipped equip =
      (db.equipment.itemAt accountId equip.equipType).getD (out.equipped equip)

theorem loadPlayerData_missing (missing : db.players.find accountId = none) :
    db.loadPlayerData accountId out = (false, out) := by
  simp [loadPlayerData, missing]

theorem loadPlayerData_found (row : PlayerRow) (found : db.players.find accountId = some row) :
    ∃ loaded, db.loadPlayerData accountId out = (true, loaded) ∧
      db.Loads accountId out row loaded := by
  unfold loadPlayerData
  rw [found]
  refine ⟨_, rfl, ?_⟩
  obtain ⟨head, equipped, storage⟩ :=
    SaveData.foldl_readInventory (db.inventory.ofAccount accountId) (out.readPlayer row)
  obtain ⟨head', storage', equipped'⟩ :=
    SaveData.foldl_readEquipment (db.equipment.ofAccount accountId)
      ((db.inventory.ofAccount accountId).foldl SaveData.readInventory (out.readPlayer row))
  constructor
  · exact head'.name.trans head.name
  · exact head'.level.trans head.level
  · exact head'.exp.trans head.exp
  · exact head'.hp.trans head.hp
  · intro i
    rw [storage', storage]
    apply db.inventory.foldl_ofAccount accountId storageSlot (fun i => i.val)
    intro n i
    constructor
    · exact Player.storageSlot_some n i
    · rintro rfl
      exact Player.storageSlot_val i
  · intro equip
    rw [equipped', equipped]
    apply db.equipment.foldl_ofAccount accountId EquipSlot.ofEquipType EquipSlot.equipType
    intro n equip
    constructor
    · exact Player.ofEquipType_some n equip
    · rintro rfl
      exact Player.ofEquipType_equipType equip

end Database

namespace Statement

def onPlayers (t : Table PlayerRow.accountId PlayerRow.accountId) :
    Statement → Table PlayerRow.accountId PlayerRow.accountId
  | .replacePlayer row => t.replace row
  | _ => t

def onInventory (t : ItemTable) : Statement → ItemTable
  | .deleteInventory accountId => t.deleteAccount accountId
  | .insertInventory accountId slot item => t.insertItem accountId slot item
  | _ => t

def onEquipment (t : ItemTable) : Statement → ItemTable
  | .deleteEquipment accountId => t.deleteAccount accountId
  | .insertEquipment accountId equipType item => t.insertItem accountId equipType item
  | _ => t

structure Done (statement : Statement) (db db' : Database) : Prop where
  players : db'.players = statement.onPlayers db.players
  inventory : db'.inventory = statement.onInventory db.inventory
  equipment : db'.equipment = statement.onEquipment db.equipment
  accounts : (∀ username, statement ≠ .insertAccount username) →
    db'.accounts = db.accounts ∧ db'.accountSeq = db.accountSeq

end Statement

namespace Database

theorem attempt_done (db : Database) (statement : Statement) :
    statement.Done db (db.attempt statement) := by
  cases statement with
  | beginTransaction =>
      by_cases opened : db.inTransaction = true
      · simp only [attempt, exec, opened, if_true, Option.getD_none]
        exact ⟨rfl, rfl, rfl, fun _ => ⟨rfl, rfl⟩⟩
      · simp only [attempt, exec, opened]
        exact ⟨rfl, rfl, rfl, fun _ => ⟨rfl, rfl⟩⟩
  | commit =>
      by_cases opened : db.inTransaction = true
      · simp only [attempt, exec, opened, if_true, Option.getD_some]
        exact ⟨rfl, rfl, rfl, fun _ => ⟨rfl, rfl⟩⟩
      · simp only [attempt, exec, opened]
        exact ⟨rfl, rfl, rfl, fun _ => ⟨rfl, rfl⟩⟩
  | insertAccount username =>
      simp only [attempt, exec]
      cases db.accounts.insert ⟨db.nextAccountId, username⟩ <;>
        exact ⟨rfl, rfl, rfl, fun another => absurd rfl (another username)⟩
  | replacePlayer row => exact ⟨rfl, rfl, rfl, fun _ => ⟨rfl, rfl⟩⟩
  | deleteInventory accountId => exact ⟨rfl, rfl, rfl, fun _ => ⟨rfl, rfl⟩⟩
  | deleteEquipment accountId => exact ⟨rfl, rfl, rfl, fun _ => ⟨rfl, rfl⟩⟩
  | insertInventory accountId slot item =>
      simp only [attempt, exec]
      cases inserted : db.inventory.insert (db.inventory.newRow accountId slot item) with
      | none =>
          refine ⟨rfl, ?_, rfl, fun _ => ⟨rfl, rfl⟩⟩
          simp [Statement.onInventory, ItemTable.insertItem, inserted]
      | some inventory =>
          refine ⟨rfl, ?_, rfl, fun _ => ⟨rfl, rfl⟩⟩
          simp [Statement.onInventory, ItemTable.insertItem, inserted]
  | insertEquipment accountId equipType item =>
      simp only [attempt, exec]
      cases inserted : db.equipment.insert (db.equipment.newRow accountId equipType item) with
      | none =>
          refine ⟨rfl, rfl, ?_, fun _ => ⟨rfl, rfl⟩⟩
          simp [Statement.onEquipment, ItemTable.insertItem, inserted]
      | some equipment =>
          refine ⟨rfl, rfl, ?_, fun _ => ⟨rfl, rfl⟩⟩
          simp [Statement.onEquipment, ItemTable.insertItem, inserted]

structure DoneAll (statements : List Statement) (db db' : Database) : Prop where
  players : db'.players = statements.foldl Statement.onPlayers db.players
  inventory : db'.inventory = statements.foldl Statement.onInventory db.inventory
  equipment : db'.equipment = statements.foldl Statement.onEquipment db.equipment
  accounts : (∀ statement ∈ statements, ∀ username, statement ≠ .insertAccount username) →
    db'.accounts = db.accounts ∧ db'.accountSeq = db.accountSeq

theorem foldl_attempt_done (statements : List Statement) (db : Database) :
    DoneAll statements db (statements.foldl attempt db) := by
  induction statements generalizing db with
  | nil => exact ⟨rfl, rfl, rfl, fun _ => ⟨rfl, rfl⟩⟩
  | cons statement statements ih =>
      have first := db.attempt_done statement
      have rest := ih (db.attempt statement)
      constructor
      · exact rest.players.trans (by rw [first.players]; rfl)
      · exact rest.inventory.trans (by rw [first.inventory]; rfl)
      · exact rest.equipment.trans (by rw [first.equipment]; rfl)
      · intro others
        obtain ⟨accounts, seq⟩ := first.accounts (others statement List.mem_cons_self)
        obtain ⟨accounts', seq'⟩ := rest.accounts fun statement member =>
          others statement (List.mem_cons_of_mem _ member)
        exact ⟨accounts'.trans accounts, seq'.trans seq⟩

end Database

theorem foldl_untouched {Tbl : Type} (f : Tbl → Statement → Tbl) (statements : List Statement)
    (untouched : ∀ statement ∈ statements, ∀ t, f t statement = t) (t : Tbl) :
    statements.foldl f t = t := by
  induction statements with
  | nil => rfl
  | cons statement statements ih =>
      rw [List.foldl_cons, untouched statement List.mem_cons_self]
      exact ih fun statement member => untouched statement (List.mem_cons_of_mem _ member)

theorem mem_issued (reached : Bool) (a b : Statement) (member : a ∈ issued reached b) : a = b := by
  unfold issued at member
  split at member
  · exact List.mem_singleton.mp member
  · cases member

theorem foldl_inserts {Place : Type} (f : ItemTable → Statement → ItemTable) (accountId : Int)
    (slot : Place → Int) (item : Place → InventorySlot) (statement : Place → Statement)
    (inserts : ∀ t i, f t (statement i) = t.insertItem accountId (slot i) (item i))
    (reached : Place → Bool) (places : List Place) (t : ItemTable) :
    (places.flatMap fun i => issued (reached i) (statement i)).foldl f t =
      t.insertItems accountId slot item (places.filter reached) := by
  induction places generalizing t with
  | nil => rfl
  | cons i places ih =>
      rw [List.flatMap_cons, List.foldl_append, ih]
      cases made : reached i with
      | false => simp [issued, made]
      | true => simp [issued, made, inserts, ItemTable.insertItems]

theorem foldl_issued {Tbl : Type} (f : Tbl → Statement → Tbl) (reached : Bool)
    (statement : Statement) (t : Tbl) :
    (issued reached statement).foldl f t = if reached then f t statement else t := by
  cases reached <;> rfl

section

variable (ok : SaveStep → Bool) (accountId : Int) (saved : SaveData)

theorem onPlayers_inserts (statement : Statement)
    (member : statement ∈ inventoryInserts ok accountId saved ∨
      statement ∈ equipmentInserts ok accountId saved)
    (t : Table PlayerRow.accountId PlayerRow.accountId) : statement.onPlayers t = t := by
  rcases member with member | member
  · obtain ⟨i, -, made⟩ := List.mem_flatMap.mp member
    rw [mem_issued _ _ _ made]
    rfl
  · obtain ⟨equip, -, made⟩ := List.mem_flatMap.mp member
    rw [mem_issued _ _ _ made]
    rfl

theorem onInventory_equipmentInserts (statement : Statement)
    (member : statement ∈ equipmentInserts ok accountId saved) (t : ItemTable) :
    statement.onInventory t = t := by
  obtain ⟨equip, -, made⟩ := List.mem_flatMap.mp member
  rw [mem_issued _ _ _ made]
  rfl

theorem onEquipment_inventoryInserts (statement : Statement)
    (member : statement ∈ inventoryInserts ok accountId saved) (t : ItemTable) :
    statement.onEquipment t = t := by
  obtain ⟨i, -, made⟩ := List.mem_flatMap.mp member
  rw [mem_issued _ _ _ made]
  rfl

theorem saveStatements_no_account (statement : Statement)
    (member : statement ∈ saveStatements ok accountId saved) (username : Bytes) :
    statement ≠ .insertAccount username := by
  rintro rfl
  simp only [saveStatements, inventoryInserts, equipmentInserts, List.mem_append,
    List.mem_flatMap] at member
  rcases member with
    (((((made | made) | made) | ⟨i, -, made⟩) | made) | ⟨equip, -, made⟩) | made
  all_goals exact absurd (mem_issued _ _ _ made) (by simp)

/-- The call's statements for one table. -/
def SaveStep.playerSaved : Bool := ok .preparePlayer && ok .stepPlayer

def SaveStep.inventoryDeleted : Bool := ok .prepareDeleteInventory && ok .stepDeleteInventory

def SaveStep.equipmentDeleted : Bool := ok .prepareDeleteEquipment && ok .stepDeleteEquipment

def SaveStep.inventoryInserted (i : Fin inventorySize) : Bool :=
  ok .prepareInsertInventory && (saved.storage i).itemId ≠ 0 && ok (.stepInsertInventory i)

def SaveStep.equipmentInserted (equip : EquipSlot) : Bool :=
  ok .prepareInsertEquipment && (saved.equipped equip).itemId ≠ 0 &&
    ok (.stepInsertEquipment equip)

/-- `SavePlayerData`, table by table. -/
structure Database.SavedTo (db db' : Database) : Prop where
  players : db'.players =
    if SaveStep.playerSaved ok then db.players.replace (saved.playerRow accountId)
    else db.players
  inventory : db'.inventory =
    (if SaveStep.inventoryDeleted ok then db.inventory.deleteAccount accountId
      else db.inventory).insertItems accountId (fun i => i.val) saved.storage
      ((List.finRange inventorySize).filter (SaveStep.inventoryInserted ok saved))
  equipment : db'.equipment =
    (if SaveStep.equipmentDeleted ok then db.equipment.deleteAccount accountId
      else db.equipment).insertItems accountId EquipSlot.equipType saved.equipped
      (equipSlots.filter (SaveStep.equipmentInserted ok saved))
  accounts : db'.accounts = db.accounts
  accountSeq : db'.accountSeq = db.accountSeq

theorem Database.savePlayerData_savedTo (db : Database) :
    SavedTo ok accountId saved db (db.savePlayerData ok accountId saved).2 := by
  have done := db.foldl_attempt_done (saveStatements ok accountId saved)
  obtain ⟨accounts, seq⟩ := done.accounts (saveStatements_no_account ok accountId saved)
  constructor
  · refine done.players.trans ?_
    simp only [saveStatements, List.foldl_append, foldl_issued]
    rw [foldl_untouched _ (inventoryInserts ok accountId saved)
        fun statement member => onPlayers_inserts ok accountId saved statement (.inl member),
      foldl_untouched _ (equipmentInserts ok accountId saved)
        fun statement member => onPlayers_inserts ok accountId saved statement (.inr member)]
    simp only [Statement.onPlayers, ite_self]
    rfl
  · refine done.inventory.trans ?_
    simp only [saveStatements, List.foldl_append, foldl_issued]
    rw [foldl_untouched _ (equipmentInserts ok accountId saved)
        (onInventory_equipmentInserts ok accountId saved), inventoryInserts,
      foldl_inserts Statement.onInventory accountId (fun i => i.val) saved.storage
        (fun i => .insertInventory accountId i.val (saved.storage i)) fun _ _ => rfl]
    simp only [Statement.onInventory, ite_self]
    rfl
  · refine done.equipment.trans ?_
    simp only [saveStatements, List.foldl_append, foldl_issued]
    rw [foldl_untouched _ (inventoryInserts ok accountId saved)
        (onEquipment_inventoryInserts ok accountId saved), equipmentInserts,
      foldl_inserts Statement.onEquipment accountId EquipSlot.equipType saved.equipped
        (fun equip => .insertEquipment accountId equip.equipType (saved.equipped equip))
        fun _ _ => rfl]
    simp only [Statement.onEquipment, ite_self]
    rfl
  · exact accounts
  · exact seq

namespace Database.SavedTo

variable {ok accountId saved} {db db' : Database}

theorem player (done : SavedTo ok accountId saved db db') :
    db'.players.find accountId =
      if SaveStep.playerSaved ok then some (saved.playerRow accountId)
      else db.players.find accountId := by
  rw [done.players]
  split
  · exact (Table.find_eq_some_iff _ _ _).mpr ⟨by rw [Table.replace_rows]; simp, rfl⟩
  · rfl

theorem other_player (done : SavedTo ok accountId saved db db') (other : Int)
    (ne : other ≠ accountId) : db'.players.find other = db.players.find other := by
  rw [done.players]
  split
  · apply Table.find_congr
    rintro row rfl
    rw [Table.replace_rows]
    have new : row ≠ saved.playerRow accountId := by
      rintro rfl
      exact ne rfl
    have kept : row.accountId ≠ (saved.playerRow accountId).accountId := ne
    simp [new, kept]
  · rfl

theorem storage (done : SavedTo ok accountId saved db db') (i : Fin inventorySize) :
    db'.inventory.itemAt accountId i.val =
      (if SaveStep.inventoryDeleted ok then none else db.inventory.itemAt accountId i.val).or
        (if SaveStep.inventoryInserted ok saved i then some (saved.storage i) else none) := by
  have slot_inj : Function.Injective fun i : Fin inventorySize => (i.val : Int) := by
    intro i j same
    exact Fin.ext (Int.ofNat.inj same)
  rw [done.inventory, ItemTable.itemAt_insertItems accountId _ saved.storage slot_inj]
  congr 1
  · split
    · rw [ItemTable.itemAt_deleteAccount, if_pos rfl]
    · rfl
  · simp

theorem equipment_at (done : SavedTo ok accountId saved db db') (equip : EquipSlot) :
    db'.equipment.itemAt accountId equip.equipType =
      (if SaveStep.equipmentDeleted ok then none
        else db.equipment.itemAt accountId equip.equipType).or
        (if SaveStep.equipmentInserted ok saved equip then some (saved.equipped equip)
          else none) := by
  have slot_inj : Function.Injective EquipSlot.equipType := by
    intro a b same
    cases a <;> cases b <;> first | rfl | cases same
  have listed : equip ∈ equipSlots := by cases equip <;> decide
  rw [done.equipment, ItemTable.itemAt_insertItems accountId _ saved.equipped slot_inj]
  congr 1
  · split
    · rw [ItemTable.itemAt_deleteAccount, if_pos rfl]
    · rfl
  · simp [listed]

theorem other_items (done : SavedTo ok accountId saved db db') (other : Int)
    (ne : other ≠ accountId) :
    db'.inventory.ofAccount other = db.inventory.ofAccount other ∧
      db'.equipment.ofAccount other = db.equipment.ofAccount other := by
  rw [done.inventory, done.equipment, ItemTable.ofAccount_insertItems _ _ _ _ _ other ne,
    ItemTable.ofAccount_insertItems _ _ _ _ _ other ne]
  constructor
  · split
    · exact ItemTable.ofAccount_deleteAccount _ _ other ne
    · rfl
  · split
    · exact ItemTable.ofAccount_deleteAccount _ _ other ne
    · rfl

end Database.SavedTo

end

end ZeldaServer
