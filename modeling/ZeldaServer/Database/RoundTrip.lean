import ZeldaServer.Database.Logins
import ZeldaServer.Game.Slots

/-! A player that is saved and loaded again. What the game keeps of its players' slots and
stats is what the tables leave out. -/

namespace ZeldaServer

variable (data : GameData)

inductive Player.Played : Player → Prop where
  | created (id : ObjectId) (name : Bytes) :
      Played { Player.create data id with info := { (Player.create data id).info with name } }
  | loaded (id : ObjectId) (p : Player) (played : Played p) :
      Played (Player.applyFromSaveData data (Store.rowsOf p.toSaveData) (Player.create data id))
  | gainExp (amount : Int) (p : Player) (played : Played p) : Played (p.gainExp data amount).1
  | addItem (itemId count : Int) (p : Player) (played : Played p) :
      Played (p.addItem data itemId count).2.1
  | equipItem (slot : Int) (p : Player) (played : Played p) : Played (p.equipItem data slot).1
  | unequipItem (equipType : Int) (p : Player) (played : Played p) :
      Played (p.unequipItem data equipType).1
  | useItem (slot : Int) (p : Player) (played : Played p) : Played (p.useItem data slot).1
  | onDamaged (damage : Int) (p : Player) (played : Played p) : Played (p.onDamaged damage)
  | update (now : Nat) (p : Player) (played : Played p) : Played (p.update now).1
  | walk (pos : Vec2Int) (dir : Dir) (state : ObjectState) (moveEndTick : Nat) (p : Player)
      (played : Played p) :
      Played { p with moveEndTick, info := { p.info.setCellPos pos with dir, state } }

namespace Player

structure Fit (p : Player) : Prop where
  hp_le : p.info.hp ≤ p.info.maxHp
  maxHp_nonneg : 0 ≤ p.info.maxHp
  maxHp_row : ∀ row, data.levelData p.level = some row → p.info.maxHp = row.maxHp

structure Tidy (p : Player) : Prop where
  storage : ∀ i, (p.storage i).itemId = 0 → p.storage i = .empty
  equipped : ∀ equip, (p.equipped equip).itemId = 0 → p.equipped equip = .empty

/-- The stats are those `RecalcStats` would set. -/
structure Armed (p : Player) : Prop where
  attack : ∀ row, data.levelData p.level = some row →
    p.info.attack = row.attack + equipValue data p.equipWeapon
  defence : ∀ row, data.levelData p.level = some row →
    p.info.defence = row.defence + equipValue data p.equipArmor

structure Steady (p : Player) : Prop extends p.Fit data, p.Tidy, p.Armed data where
  extra : p.info.extra = some (.player p.level p.exp (maxExp data p.level))

/-- The tables the code relies on: items have an id, and nobody's hp is bounded by a negative
number. -/
structure SoundTables : Prop where
  noItem : data.itemTemplate 0 = none
  levels : ∀ level row, data.levelData level = some row → 0 ≤ row.maxHp

variable {data}

theorem Fit.of_info {p q : Player} (fit : p.Fit data) (hp : q.info.hp = p.info.hp)
    (maxHp : q.info.maxHp = p.info.maxHp) (level : q.level = p.level) : q.Fit data := by
  constructor
  · rw [hp, maxHp]
    exact fit.hp_le
  · rw [maxHp]
    exact fit.maxHp_nonneg
  · rw [level, maxHp]
    exact fit.maxHp_row

theorem Fit.recalcStats {p : Player} (fit : p.Fit data) : (p.recalcStats data).Fit data := by
  obtain ⟨attack, defence, same⟩ := p.recalcStats_eq data
  rw [same]
  exact fit.of_info rfl rfl rfl

theorem Tidy.recalcStats {p : Player} (tidy : p.Tidy) : (p.recalcStats data).Tidy := by
  constructor
  · simpa using tidy.storage
  · simpa using tidy.equipped

theorem recalcStats_armed (p : Player) : (p.recalcStats data).Armed data := by
  unfold Player.recalcStats
  cases found : data.levelData p.level with
  | none => constructor <;> intro row entry <;> simp [found] at entry
  | some row =>
      constructor
      · intro row' entry
        rw [show data.levelData p.level = some row' from entry] at found
        cases found
        rfl
      · intro row' entry
        rw [show data.levelData p.level = some row' from entry] at found
        cases found
        rfl

theorem Tidy.setStorage {p : Player} (tidy : p.Tidy) (i : Fin inventorySize) (slot : InventorySlot)
    (cleared : slot.itemId = 0 → slot = .empty) : (p.setStorage i slot).Tidy := by
  constructor
  · intro j
    by_cases same : j = i
    · subst same
      simpa using cleared
    · simpa [same] using tidy.storage j
  · simpa using tidy.equipped

theorem Tidy.setEquipped {p : Player} (tidy : p.Tidy) (slot : InventorySlot) (equip : EquipSlot)
    (cleared : slot.itemId = 0 → slot = .empty) : (p.setEquipped slot equip).Tidy := by
  constructor
  · simpa using tidy.storage
  · intro equip'
    by_cases same : equip' = equip
    · subst same
      simpa using cleared
    · simpa [same] using tidy.equipped equip'

theorem Tidy.of_slots {p q : Player} (tidy : p.Tidy) (storage : q.storage = p.storage)
    (weapon : q.equipWeapon = p.equipWeapon) (armor : q.equipArmor = p.equipArmor)
    (potion : q.equipPotion = p.equipPotion) : q.Tidy := by
  constructor
  · rw [storage]
    exact tidy.storage
  · intro equip
    have same : q.equipped equip = p.equipped equip := by
      cases equip with
      | weapon => exact weapon
      | armor => exact armor
      | potion => exact potion
    rw [same]
    exact tidy.equipped equip

theorem Fit.steady {p : Player} (fit : p.Fit data) (tidy : p.Tidy)
    (extra : p.info.extra = some (.player p.level p.exp (maxExp data p.level))) :
    (p.recalcStats data).Steady data := by
  refine ⟨fit.recalcStats, tidy.recalcStats, p.recalcStats_armed, ?_⟩
  obtain ⟨attack, defence, same⟩ := p.recalcStats_eq data
  rw [same]
  exact extra

namespace Steady

variable {p : Player}

theorem setStorage (steady : p.Steady data) (i : Fin inventorySize) (slot : InventorySlot)
    (cleared : slot.itemId = 0 → slot = .empty) : (p.setStorage i slot).Steady data :=
  ⟨steady.toFit.of_info rfl rfl rfl, steady.toTidy.setStorage i slot cleared,
    ⟨steady.attack, steady.defence⟩, steady.extra⟩

theorem addItem (steady : p.Steady data) (noItem : data.itemTemplate 0 = none)
    (itemId count : Int) : (p.addItem data itemId count).2.1.Steady data := by
  unfold Player.addItem
  cases template : data.itemTemplate itemId with
  | none => exact steady
  | some tmpl =>
      have item : itemId ≠ 0 := by
        rintro rfl
        rw [noItem] at template
        cases template
      dsimp only
      split
      next i stacked =>
        have same := stack_itemId p.storage itemId tmpl.maxStack i stacked
        exact steady.setStorage i _ fun none => absurd (same.symm.trans none) item
      next =>
        split
        · exact steady
        · exact steady.setStorage _ _ fun none => absurd none item

theorem equipItem (steady : p.Steady data) (slot : Int) :
    (p.equipItem data slot).1.Steady data := by
  rcases p.equipItem_cases data slot with idle | ⟨i, _, equip, _, _, _, _, done⟩
  · rw [idle]
    exact steady
  · have tidy := (steady.toTidy.setEquipped (p.storage i) equip (steady.storage i)).setStorage
      i (p.equipped equip) (steady.equipped equip)
    rw [done]
    apply Fit.steady _ tidy
    · cases equip <;> exact steady.extra
    · cases equip <;> exact steady.toFit.of_info rfl rfl rfl

theorem unequipItem (steady : p.Steady data) (equipType : Int) :
    (p.unequipItem data equipType).1.Steady data := by
  rcases p.unequipItem_cases data equipType with idle | ⟨equip, i, _, _, _, done⟩
  · rw [idle]
    exact steady
  · have tidy := (steady.toTidy.setStorage i (p.equipped equip)
      (steady.equipped equip)).setEquipped .empty equip fun _ => rfl
    rw [done]
    apply Fit.steady _ tidy
    · cases equip <;> exact steady.extra
    · cases equip <;> exact steady.toFit.of_info rfl rfl rfl

theorem setHp (steady : p.Steady data) (hp : Int) (le : hp ≤ p.info.maxHp) :
    ({ p with info := { p.info with hp } } : Player).Steady data :=
  ⟨⟨le, steady.maxHp_nonneg, steady.maxHp_row⟩, steady.toTidy.of_slots rfl rfl rfl rfl,
    ⟨steady.attack, steady.defence⟩, steady.extra⟩

theorem spent_cleared (slot : InventorySlot) (held : slot.itemId ≠ 0) :
    (spent slot).itemId = 0 → spent slot = .empty := by
  unfold spent
  split
  · exact fun _ => rfl
  · exact fun none => absurd none held

theorem useItem (steady : p.Steady data) (slot : Int) : (p.useItem data slot).1.Steady data := by
  by_cases usable : ∃ target, UseSlot.ofInt slot = some target ∧ Usable data (p.useSlot target)
  · obtain ⟨target, chosen, usable⟩ := usable
    obtain ⟨newHp, ⟨tmpl, _, rfl⟩, used⟩ := useItem_of_usable data slot p target chosen usable
    have cleared := spent_cleared (p.useSlot target) usable.1
    have healed := steady.setHp (min (p.info.hp + tmpl.value) p.info.maxHp) (Int.min_le_right _ _)
    rw [used]
    cases target with
    | storage i => exact healed.setStorage i _ cleared
    | potion =>
        exact ⟨healed.toFit.of_info rfl rfl rfl, healed.toTidy.setEquipped _ .potion cleared,
          ⟨healed.attack, healed.defence⟩, healed.extra⟩
  · rw [useItem_of_not_usable data slot p fun target chosen held => usable ⟨target, chosen, held⟩]
    exact steady

theorem onDamaged (steady : p.Steady data) (damage : Int) :
    (p.onDamaged damage).Steady data := by
  unfold Player.onDamaged ObjectInfo.onDamaged
  split
  · exact steady
  · apply steady.setHp
    have := steady.hp_le
    have := steady.maxHp_nonneg
    omega

theorem update (steady : p.Steady data) (now : Nat) : (p.update now).1.Steady data := by
  unfold Player.update
  split
  · exact ⟨⟨steady.hp_le, steady.maxHp_nonneg, steady.maxHp_row⟩, steady.toTidy.of_slots rfl rfl rfl rfl,
      ⟨steady.attack, steady.defence⟩, steady.extra⟩
  · exact steady

end Steady

/-- What holds between the level-ups of one `GainExp`, whose exp is not in `extra` yet. -/
structure Growing (data : GameData) (p : Player) : Prop extends p.Fit data, p.Tidy, p.Armed data where
  extra : ∃ exp maxExp, p.info.extra = some (.player p.level exp maxExp)

theorem growing_healed {p : Player} (nonneg : 0 ≤ p.info.maxHp)
    (maxHp_row : ∀ row, data.levelData p.level = some row → p.info.maxHp = row.maxHp)
    (tidy : p.Tidy) (armed : p.Armed data) :
    (withExtra data { p with info := { p.info with hp := p.info.maxHp } }).Growing data :=
  ⟨⟨Int.le_refl _, nonneg, maxHp_row⟩, tidy.of_slots rfl rfl rfl rfl,
    ⟨armed.attack, armed.defence⟩, ⟨_, _, rfl⟩⟩

theorem processLevelUp_growing (tables : SoundTables data) (p : Player) (growing : p.Growing data) :
    (p.processLevelUp data).1.Growing data := by
  unfold Player.processLevelUp
  cases entry : data.levelData (p.level + 1) with
  | none =>
      simp only [entry]
      refine growing_healed (p := { p with level := p.level + 1 }) growing.maxHp_nonneg ?_ ?_ ?_
      · intro row found
        exact absurd (entry.symm.trans found) (by simp)
      · exact growing.toTidy.of_slots rfl rfl rfl rfl
      · constructor <;> exact fun row found => absurd (entry.symm.trans found) (by simp)
  | some row =>
      simp only [entry, applyLevelStats]
      have maxHp : ∀ q : Player, (q.recalcStats data).info.maxHp = q.info.maxHp := by
        intro q
        obtain ⟨attack, defence, same⟩ := q.info_recalcStats data
        rw [same]
      apply growing_healed
      · rw [maxHp]
        exact tables.levels _ row entry
      · intro row' found
        rw [level_recalcStats] at found
        cases entry.symm.trans found
        rw [maxHp]
      · apply Tidy.recalcStats
        exact growing.toTidy.of_slots rfl rfl rfl rfl
      · exact recalcStats_armed _

theorem levelUps_growing (tables : SoundTables data) (passes : Nat) (p : Player)
    (growing : p.Growing data) : (levelUps data passes p).1.Growing data := by
  induction passes generalizing p with
  | zero => exact growing
  | succ passes ih =>
      unfold levelUps
      split
      · dsimp only
        split
        · exact growing
        · apply ih
          apply processLevelUp_growing tables
          exact ⟨growing.toFit.of_info rfl rfl rfl, growing.toTidy.of_slots rfl rfl rfl rfl,
            ⟨growing.attack, growing.defence⟩, growing.extra⟩
      · exact growing

namespace Steady

variable {p : Player}

theorem gainExp (steady : p.Steady data) (tables : SoundTables data) (amount : Int) :
    (p.gainExp data amount).1.Steady data := by
  unfold Player.gainExp
  split
  · exact steady
  · split
    · exact steady
    · have start : ({ p with exp := p.exp + amount } : Player).Growing data :=
        ⟨steady.toFit.of_info rfl rfl rfl, steady.toTidy.of_slots rfl rfl rfl rfl,
          ⟨steady.attack, steady.defence⟩, ⟨_, _, steady.extra⟩⟩
      have growing := levelUps_growing tables (maxLevel - p.level).toNat _ start
      obtain ⟨exp, maxExp, extra⟩ := growing.extra
      dsimp only
      rw [extra]
      exact ⟨growing.toFit.of_info rfl rfl rfl, growing.toTidy.of_slots rfl rfl rfl rfl,
        ⟨growing.attack, growing.defence⟩, rfl⟩

theorem restored (fit : p.Fit data) (tidy : p.Tidy) :
    (withExtra data (p.recalcStats data)).Steady data := by
  have armed : (p.recalcStats data).Armed data := p.recalcStats_armed
  exact ⟨fit.recalcStats.of_info rfl rfl rfl, tidy.recalcStats.of_slots rfl rfl rfl rfl,
    ⟨armed.attack, armed.defence⟩, rfl⟩

theorem applyFromSaveData (tables : SoundTables data) (saved : SaveData) (fresh : Player)
    (nonneg : 0 ≤ fresh.info.maxHp)
    (storage : ∀ i, (saved.storage i).itemId = 0 → saved.storage i = .empty)
    (equipped : ∀ equip, (saved.equipped equip).itemId = 0 → saved.equipped equip = .empty) :
    (Player.applyFromSaveData data saved fresh).Steady data := by
  unfold Player.applyFromSaveData
  apply restored
  · cases entry : data.levelData saved.level with
    | none =>
        refine ⟨Int.min_le_right _ _, nonneg, fun row found => ?_⟩
        exact absurd (entry.symm.trans found) (by simp)
    | some row =>
        refine ⟨Int.min_le_right _ _, tables.levels _ row entry, fun row' found => ?_⟩
        cases entry.symm.trans found
        rfl
  · refine ⟨storage, fun equip => ?_⟩
    cases equip with
    | weapon => exact equipped .weapon
    | armor => exact equipped .armor
    | potion => exact equipped .potion

theorem created (tables : SoundTables data) (id : ObjectId) (name : Bytes) :
    ({ Player.create data id with info := { (Player.create data id).info with name } } :
      Player).Steady data := by
  have unarmed : ∀ n : Int, n = n + equipValue data .empty := by
    intro n
    simp [equipValue, InventorySlot.empty]
  refine ⟨⟨Int.le_refl _, ?_, ?_⟩, ⟨fun _ _ => rfl, fun equip _ => ?_⟩, ⟨?_, ?_⟩, rfl⟩
  · unfold Player.create
    cases entry : data.levelData 1 with
    | none => exact show (0 : Int) ≤ 100 by decide
    | some row => exact tables.levels 1 row entry
  · intro row entry
    have entry : data.levelData 1 = some row := entry
    simp [Player.create, withExtra, entry]
  · cases equip <;> rfl
  · intro row entry
    have entry : data.levelData 1 = some row := entry
    simpa [Player.create, withExtra, entry] using unarmed row.attack
  · intro row entry
    have entry : data.levelData 1 = some row := entry
    simpa [Player.create, withExtra, entry] using unarmed row.defence

end Steady

theorem Played.steady (tables : SoundTables data) (p : Player) (played : p.Played data) :
    p.Steady data := by
  induction played with
  | created id name => exact Steady.created tables id name
  | loaded id p played ih =>
      have fresh := (Steady.created tables id []).maxHp_nonneg
      have cleared : ∀ slot : InventorySlot, (Store.slotRow slot).itemId = 0 →
          Store.slotRow slot = .empty := by
        intro slot empty
        unfold Store.slotRow at empty ⊢
        split
        · rfl
        next held =>
          rw [if_neg held] at empty
          exact absurd empty held
      apply Steady.applyFromSaveData tables _ _ fresh
      · exact fun i => cleared (p.storage i)
      · intro equip
        cases equip with
        | weapon => exact cleared p.equipWeapon
        | armor => exact cleared p.equipArmor
        | potion => exact cleared p.equipPotion
  | gainExp amount p played ih => exact ih.gainExp tables amount
  | addItem itemId count p played ih => exact ih.addItem tables.noItem itemId count
  | equipItem slot p played ih => exact ih.equipItem slot
  | unequipItem equipType p played ih => exact ih.unequipItem equipType
  | useItem slot p played ih => exact ih.useItem slot
  | onDamaged damage p played ih => exact ih.onDamaged damage
  | update now p played ih => exact ih.update now
  | walk pos dir state moveEndTick p played ih =>
      exact ⟨ih.toFit.of_info rfl rfl rfl, ih.toTidy.of_slots rfl rfl rfl rfl,
        ⟨ih.attack, ih.defence⟩, ih.extra⟩

end Player

structure Player.SameSaved (p q : Player) : Prop where
  name : p.info.name = q.info.name
  level : p.level = q.level
  exp : p.exp = q.exp
  hp : p.info.hp = q.info.hp
  maxHp : p.info.maxHp = q.info.maxHp
  storage : p.storage = q.storage
  equipped : ∀ equip, p.equipped equip = q.equipped equip
  attack : p.info.attack = q.info.attack
  defence : p.info.defence = q.info.defence
  extra : p.info.extra = q.info.extra

theorem Player.Tidy.rowsOf {p : Player} (tidy : p.Tidy) (name : 0 ∉ p.info.name) :
    Store.rowsOf p.toSaveData = p.toSaveData := by
  have kept : ∀ slot : InventorySlot, (slot.itemId = 0 → slot = .empty) →
      Store.slotRow slot = slot := by
    intro slot cleared
    unfold Store.slotRow
    split
    next none => exact (cleared none).symm
    next => rfl
  apply SaveData.ext_slots
  · exact (cString_eq_self_iff _).mpr name
  · rfl
  · rfl
  · rfl
  · funext i
    exact kept _ (tidy.storage i)
  · intro equip
    cases equip with
    | weapon => exact kept _ (tidy.equipped .weapon)
    | armor => exact kept _ (tidy.equipped .armor)
    | potion => exact kept _ (tidy.equipped .potion)

theorem Player.Steady.reloaded {p : Player} (steady : p.Steady data) (row : LevelData)
    (entry : data.levelData p.level = some row) (fresh : Player) :
    (Player.applyFromSaveData data p.toSaveData fresh).SameSaved p := by
  have loaded_level : p.toSaveData.level = p.level := rfl
  have weapon : p.toSaveData.equipWeapon = p.equipWeapon := rfl
  have armor : p.toSaveData.equipArmor = p.equipArmor := rfl
  have le := steady.hp_le
  have maxHp := steady.maxHp_row row entry
  have attack := steady.attack row entry
  have defence := steady.defence row entry
  rw [maxHp] at le
  unfold Player.applyFromSaveData Player.withExtra Player.recalcStats
  simp only [loaded_level, entry]
  constructor
  · rfl
  · rfl
  · rfl
  · exact Int.min_eq_left le
  · exact maxHp.symm
  · rfl
  · intro equip
    cases equip <;> rfl
  · exact attack.symm
  · exact defence.symm
  · exact steady.extra.symm

/-- Save then load gives the player back, and touches no other account. -/
theorem save_load_round_trip (tables : Player.SoundTables data) (db : Database) (accountId : Int)
    (p : Player) (played : p.Played data) (row : LevelData)
    (entry : data.levelData p.level = some row) (name : 0 ∉ p.info.name) (id : ObjectId) :
    ∃ db' loaded, db.savePlayerData allOk accountId p.toSaveData = (true, db') ∧
      db'.loadPlayerData accountId .fresh = (true, loaded) ∧
      (Player.applyFromSaveData data loaded (Player.create data id)).SameSaved p ∧
      db'.accounts = db.accounts ∧
      ∀ other, other ≠ accountId → db.SameRows db' other := by
  have steady := Player.Played.steady tables p played
  have read := db.savePlayerData_loaded accountId p.toSaveData
  rw [steady.toTidy.rowsOf name] at read
  exact ⟨_, _, rfl, read, steady.reloaded data row entry _,
    (db.savePlayerData_savedTo allOk accountId p.toSaveData).accounts,
    fun other => db.savePlayerData_other allOk accountId other p.toSaveData⟩

/-- A level of negative hit points, and an item with id 0. -/
def oddGame : GameData :=
  { potionGame with
    levelData := fun level => if level = 1 then some ⟨0, -5, 20, 5⟩ else none
    itemTemplate := fun itemId => if itemId = 0 then some ⟨.other, 0, 1⟩ else none }

def oddPlayer : Player :=
  { Player.create oddGame 1 with info := { (Player.create oddGame 1).info with name := [97] } }

/-- A hit raises the hit points of such a player to 0, and loading takes them down again; the
item with id 0 is not saved. -/
theorem odd_players_not_restored :
    ((oddPlayer.onDamaged 1).Played oddGame ∧
      ∀ loaded, (Database.created.savePlayerData allOk 1
          (oddPlayer.onDamaged 1).toSaveData).2.loadPlayerData 1 .fresh = (true, loaded) →
        (Player.applyFromSaveData oddGame loaded (Player.create oddGame 2)).info.hp ≠
          (oddPlayer.onDamaged 1).info.hp) ∧
    ((oddPlayer.addItem oddGame 0 1).2.1.Played oddGame ∧
      ∀ loaded, (Database.created.savePlayerData allOk 1
          (oddPlayer.addItem oddGame 0 1).2.1.toSaveData).2.loadPlayerData 1 .fresh =
            (true, loaded) →
        (Player.applyFromSaveData oddGame loaded (Player.create oddGame 2)).storage ≠
          (oddPlayer.addItem oddGame 0 1).2.1.storage) := by
  have start : oddPlayer.Played oddGame := .created 1 [97]
  refine ⟨⟨.onDamaged 1 _ start, fun loaded read => ?_⟩, ⟨.addItem 0 1 _ start,
    fun loaded read => ?_⟩⟩
  · rw [Database.savePlayerData_loaded] at read
    cases read
    decide
  · rw [Database.savePlayerData_loaded] at read
    cases read
    intro same
    have first := congrFun same ⟨0, by decide⟩
    revert first
    decide

/-- A player with two potions, at a level that has a row. -/
def trainedGame : GameData :=
  { potionGame with levelData := fun level => if level = 1 then some ⟨0, 100, 20, 5⟩ else none }

theorem potions_restored :
    ∃ db' loaded,
      Database.created.savePlayerData allOk 1
          ((Player.create trainedGame 1).addItem trainedGame 3 2).2.1.toSaveData = (true, db') ∧
        db'.loadPlayerData 1 .fresh = (true, loaded) ∧
        (Player.applyFromSaveData trainedGame loaded (Player.create trainedGame 2)).SameSaved
          ((Player.create trainedGame 1).addItem trainedGame 3 2).2.1 ∧
        db'.accounts = Database.created.accounts ∧
        ∀ other, other ≠ 1 → Database.created.SameRows db' other :=
  save_load_round_trip trainedGame
    ⟨rfl, fun level row found => by
      by_cases first : level = 1
      · simp only [trainedGame, first, if_true, Option.some.injEq] at found
        rw [← found]
        decide
      · simp [trainedGame, first] at found⟩
    Database.created 1 _ (.addItem 3 2 _ (.created 1 [])) ⟨0, 100, 20, 5⟩ rfl (by decide) 2

end ZeldaServer
