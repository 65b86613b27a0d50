import Mathlib.Data.List.TakeWhile
import ZeldaServer.Database.Saving

/-! Saves whose calls fail. A call that fails changes nothing, and `SavePlayerData` goes on:
what can be read afterwards is decided slot by slot. -/

namespace ZeldaServer

theorem cString_idem (text : Bytes) : cString (cString text) = cString text := by
  unfold cString
  exact List.takeWhile_idem

theorem cString_eq_self_iff (text : Bytes) : cString text = text ↔ 0 ∉ text := by
  unfold cString
  rw [List.takeWhile_eq_self_iff]
  constructor
  · intro each nul
    simpa using each 0 nul
  · intro free byte member
    rw [decide_eq_true_eq]
    rintro rfl
    exact free member

namespace Database

structure SameRows (db db' : Database) (accountId : Int) : Prop where
  players : db'.players.find accountId = db.players.find accountId
  inventory : db'.inventory.ofAccount accountId = db.inventory.ofAccount accountId
  equipment : db'.equipment.ofAccount accountId = db.equipment.ofAccount accountId

/-- All or nothing: the data is there, or the call says that nothing was done. -/
def SavedOrKept (db : Database) (accountId : Int) (saved : SaveData)
    (result : Bool × Database) : Prop :=
  (result.1 = true ∧ result.2.loadPlayerData accountId .fresh = (true, saved)) ∨
    (result.1 = false ∧ db.SameRows result.2 accountId)

end Database

namespace SaveStep

/-- The row of `players` is written, or it says the same already. -/
def PlayerArrives (ok : SaveStep → Bool) (saved : SaveData) (old : Option PlayerRow) : Prop :=
  if playerSaved ok then 0 ∉ saved.name
  else
    ∃ row, old = some row ∧ cString row.name = saved.name ∧ row.level = saved.level ∧
      row.exp = saved.exp ∧ row.hp = saved.hp

/-- A slot: the old row, unless it was deleted, stays and keeps the new one out. -/
def ItemArrives (old : Option InventorySlot) (deleted inserted : Bool) (item : InventorySlot) :
    Prop :=
  (if deleted then none else old).getD (if inserted then item else .empty) = item

end SaveStep

namespace Database

theorem Loads.eq_iff {db : Database} {accountId : Int} {out loaded : SaveData} {row : PlayerRow}
    (loads : db.Loads accountId out row loaded) (saved : SaveData) :
    loaded = saved ↔
      (cString row.name = saved.name ∧ row.level = saved.level ∧ row.exp = saved.exp ∧
        row.hp = saved.hp) ∧
        (∀ i, (db.inventory.itemAt accountId i.val).getD (out.storage i) = saved.storage i) ∧
        ∀ equip : Player.EquipSlot,
          (db.equipment.itemAt accountId equip.equipType).getD (out.equipped equip) =
            saved.equipped equip := by
  constructor
  · rintro rfl
    exact ⟨⟨loads.name.symm, loads.level.symm, loads.exp.symm, loads.hp.symm⟩,
      fun i => (loads.storage i).symm, fun equip => (loads.equipped equip).symm⟩
  · rintro ⟨⟨name, level, exp, hp⟩, storage, equipped⟩
    apply SaveData.ext_slots
    · exact loads.name.trans name
    · exact loads.level.trans level
    · exact loads.exp.trans exp
    · exact loads.hp.trans hp
    · funext i
      exact (loads.storage i).trans (storage i)
    · intro equip
      exact (loads.equipped equip).trans (equipped equip)

theorem loadPlayerData_eq_iff (db : Database) (accountId : Int) (out saved : SaveData) :
    db.loadPlayerData accountId out = (true, saved) ↔
      (∃ row, db.players.find accountId = some row ∧ cString row.name = saved.name ∧
        row.level = saved.level ∧ row.exp = saved.exp ∧ row.hp = saved.hp) ∧
        (∀ i : Fin inventorySize,
          (db.inventory.itemAt accountId i.val).getD (out.storage i) = saved.storage i) ∧
        ∀ equip : Player.EquipSlot,
          (db.equipment.itemAt accountId equip.equipType).getD (out.equipped equip) =
            saved.equipped equip := by
  cases found : db.players.find accountId with
  | none => simp [loadPlayerData_missing db accountId out found]
  | some row =>
      obtain ⟨loaded, read, loads⟩ := loadPlayerData_found db accountId out row found
      rw [read, Prod.mk.injEq, eq_self_iff_true, true_and, loads.eq_iff saved]
      simp

end Database

namespace SaveStep

variable (ok : SaveStep → Bool) (accountId : Int) (saved : SaveData) (db db' : Database)

theorem playerArrives_iff (done : Database.SavedTo ok accountId saved db db') :
    (∃ row, db'.players.find accountId = some row ∧ cString row.name = saved.name ∧
        row.level = saved.level ∧ row.exp = saved.exp ∧ row.hp = saved.hp) ↔
      PlayerArrives ok saved (db.players.find accountId) := by
  rw [done.player]
  unfold PlayerArrives
  split
  · simp [SaveData.playerRow, cString_idem, cString_eq_self_iff]
  · exact Iff.rfl

theorem itemArrives_iff (old found : Option InventorySlot) (deleted inserted : Bool)
    (item : InventorySlot)
    (written : found =
      (if deleted then none else old).or (if inserted then some item else none)) :
    found.getD .empty = item ↔ ItemArrives old deleted inserted item := by
  subst written
  unfold ItemArrives
  cases (if deleted then none else old : Option InventorySlot) with
  | some kept => simp
  | none => cases inserted <;> simp

end SaveStep

/-- The name of a new account's player. -/
def newcomer : SaveData := { SaveData.fresh with name := [97] }

end ZeldaServer
