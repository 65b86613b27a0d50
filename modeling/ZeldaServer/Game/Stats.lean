import ZeldaServer.Game.Experience
import ZeldaServer.Game.Slots

/-! The stats in a player's info against what they are computed from: the level's row and what
the player wears. -/

namespace ZeldaServer

open Player (EquipSlot)

variable (data : GameData)

/-- The first level has a row, and neither hit points nor the values of items are negative. -/
structure GameData.Playable : Prop where
  first : ∃ row, data.levelData 1 = some row
  maxHp : ∀ level row, data.levelData level = some row → 0 ≤ row.maxHp
  value : ∀ itemId tmpl, data.itemTemplate itemId = some tmpl → 0 ≤ tmpl.value

namespace Player

inductive Called : Player → Prop where
  | created (id : ObjectId) : Called (Player.create data id)
  | applyFromSaveData (saved : SaveData) (row : LevelData) (p : Player) (called : Called p)
      (hp : 0 ≤ saved.hp) (entry : data.levelData saved.level = some row) :
      Called (p.applyFromSaveData data saved)
  | gainExp (amount : Int) (p : Player) (called : Called p) : Called (p.gainExp data amount).1
  | addItem (itemId count : Int) (p : Player) (called : Called p) :
      Called (p.addItem data itemId count).2.1
  | equipItem (slot : Int) (p : Player) (called : Called p) : Called (p.equipItem data slot).1
  | unequipItem (equipType : Int) (p : Player) (called : Called p) :
      Called (p.unequipItem data equipType).1
  | useItem (slot : Int) (p : Player) (called : Called p) : Called (p.useItem data slot).1
  | onDamaged (damage : Int) (p : Player) (called : Called p) : Called (p.onDamaged damage)

structure Rated (p : Player) (row : LevelData) : Prop where
  entry : data.levelData p.level = some row
  maxHp : p.info.maxHp = row.maxHp
  attack : p.info.attack = row.attack + equipValue data p.equipWeapon
  defence : p.info.defence = row.defence + equipValue data p.equipArmor

structure Current (p : Player) : Prop where
  rated : ∃ row, p.Rated data row
  hp_nonneg : 0 ≤ p.info.hp
  hp_le : p.info.hp ≤ p.info.maxHp
  extra : p.info.extra = some (.player p.level p.exp (maxExp data p.level))

variable {data}

theorem recalcStats_rated (p : Player) (row : LevelData)
    (entry : data.levelData p.level = some row) (maxHp : p.info.maxHp = row.maxHp) :
    (p.recalcStats data).Rated data row := by
  have set : p.recalcStats data =
      { p with
        info :=
          { p.info with
            attack := row.attack + equipValue data p.equipWeapon
            defence := row.defence + equipValue data p.equipArmor } } := by
    simp only [recalcStats, entry]
  rw [set]
  exact ⟨entry, maxHp, rfl, rfl⟩

namespace Current

variable {p : Player} (current : p.Current data)
include current

theorem recalcStats (q : Player) (info : q.info = p.info) (level : q.level = p.level)
    (exp : q.exp = p.exp) : (q.recalcStats data).Current data := by
  obtain ⟨row, rated⟩ := current.rated
  obtain ⟨attack, defence, kept⟩ := q.info_recalcStats data
  refine ⟨⟨row, recalcStats_rated q row (level ▸ rated.entry) (info ▸ rated.maxHp)⟩, ?_, ?_, ?_⟩
  · rw [kept, info]
    exact current.hp_nonneg
  · rw [kept, info]
    exact current.hp_le
  · rw [kept, info, level_recalcStats, exp_recalcStats, level, exp]
    exact current.extra

theorem setStorage (i : Fin inventorySize) (slot : InventorySlot) :
    (p.setStorage i slot).Current data := by
  obtain ⟨row, rated⟩ := current.rated
  exact ⟨⟨row, rated.entry, rated.maxHp, rated.attack, rated.defence⟩, current.hp_nonneg,
    current.hp_le, current.extra⟩

theorem setHp (hp : Int) (nonneg : 0 ≤ hp) (le : hp ≤ p.info.maxHp) :
    ({ p with info := { p.info with hp } } : Player).Current data := by
  obtain ⟨row, rated⟩ := current.rated
  exact ⟨⟨row, rated.entry, rated.maxHp, rated.attack, rated.defence⟩, nonneg, le, current.extra⟩

theorem maxHp_nonneg : 0 ≤ p.info.maxHp := current.hp_nonneg.trans current.hp_le

theorem addItem (itemId count : Int) : (p.addItem data itemId count).2.1.Current data := by
  unfold Player.addItem
  split
  · exact current
  · dsimp only
    split
    · exact current.setStorage _ _
    · split
      · exact current
      · exact current.setStorage _ _

theorem equipItem (slot : Int) : (p.equipItem data slot).1.Current data := by
  rcases p.equipItem_cases data slot with idle | ⟨i, tmpl, equip, _, _, _, _, done⟩
  · rw [idle]
    exact current
  · rw [done]
    cases equip <;> exact current.recalcStats _ rfl rfl rfl

theorem unequipItem (equipType : Int) : (p.unequipItem data equipType).1.Current data := by
  rcases p.unequipItem_cases data equipType with idle | ⟨equip, i, _, _, _, done⟩
  · rw [idle]
    exact current
  · rw [done]
    cases equip <;> exact current.recalcStats _ rfl rfl rfl

theorem onDamaged (damage : Int) : (p.onDamaged damage).Current data := by
  unfold Player.onDamaged ObjectInfo.onDamaged
  split
  · exact current
  · have := current.hp_le
    have := current.maxHp_nonneg
    exact current.setHp _ (by omega) (by omega)

theorem useItem (values : ∀ itemId tmpl, data.itemTemplate itemId = some tmpl → 0 ≤ tmpl.value)
    (slot : Int) : (p.useItem data slot).1.Current data := by
  by_cases usable : ∃ target, UseSlot.ofInt slot = some target ∧ Usable data (p.useSlot target)
  · obtain ⟨target, named, usable⟩ := usable
    obtain ⟨newHp, ⟨tmpl, known, rfl⟩, used⟩ := useItem_of_usable data slot p target named usable
    have value := values _ tmpl known
    have hp := current.hp_nonneg
    have maxHp := current.maxHp_nonneg
    have healed := current.setHp (min (p.info.hp + tmpl.value) p.info.maxHp)
      (le_min (by omega) maxHp) (min_le_right _ _)
    rw [used]
    cases target with
    | storage i => exact healed.setStorage i _
    | potion =>
        obtain ⟨row, rated⟩ := healed.rated
        exact ⟨⟨row, rated.entry, rated.maxHp, rated.attack, rated.defence⟩, healed.hp_nonneg,
          healed.hp_le, healed.extra⟩
  · rw [useItem_of_not_usable data slot p fun target named held => usable ⟨target, named, held⟩]
    exact current

end Current

/-- The level in the info is the player's; the loop of `GainExp` leaves its exp to the end. -/
def LevelShown (p : Player) : Prop := ∃ exp maxExp, p.info.extra = some (.player p.level exp maxExp)

theorem levelUps_shown (data : GameData) (passes : Nat) (p : Player) (shown : p.LevelShown) :
    (levelUps data passes p).1.LevelShown := by
  induction passes generalizing p with
  | zero => exact shown
  | succ passes ih =>
      unfold levelUps
      split
      · dsimp only
        split
        · exact shown
        · exact ih _ ⟨_, _, rfl⟩
      · exact shown

theorem gainExp_extra (data : GameData) (amount : Int) (p : Player)
    (extra : p.info.extra = some (.player p.level p.exp (maxExp data p.level))) :
    (p.gainExp data amount).1.info.extra =
      some (.player (p.gainExp data amount).1.level (p.gainExp data amount).1.exp
        (maxExp data (p.gainExp data amount).1.level)) := by
  unfold gainExp
  split
  · exact extra
  · split
    · exact extra
    · have start : ({ p with exp := p.exp + amount } : Player).LevelShown := ⟨_, _, extra⟩
      obtain ⟨exp, most, shown⟩ := levelUps_shown data (maxLevel - p.level).toNat _ start
      simp only [shown]

namespace Current

variable {p : Player}

theorem gainExp (current : p.Current data)
    (rows : ∀ level row, data.levelData level = some row → 0 ≤ row.maxHp) (amount : Int) :
    (p.gainExp data amount).1.Current data := by
  have extra := gainExp_extra data amount p current.extra
  have trained := gainExp_trained data amount p
  rcases trained.stats with ⟨level, stats⟩ | ⟨_, row, entry, stats⟩
  · obtain ⟨row, rated⟩ := current.rated
    have hp := congrArg Stats.hp stats
    have maxHp := congrArg Stats.maxHp stats
    have attack := congrArg Stats.attack stats
    have defence := congrArg Stats.defence stats
    simp only [Player.stats] at hp maxHp attack defence
    refine ⟨⟨row, level ▸ rated.entry, maxHp.trans rated.maxHp, ?_, ?_⟩, ?_, ?_, extra⟩
    · rw [attack, trained.weapon, rated.attack]
    · rw [defence, trained.armor, rated.defence]
    · rw [hp]
      exact current.hp_nonneg
    · rw [hp, maxHp]
      exact current.hp_le
  · have hp := congrArg Stats.hp stats
    have maxHp := congrArg Stats.maxHp stats
    have attack := congrArg Stats.attack stats
    have defence := congrArg Stats.defence stats
    simp only [Player.stats, rowStats] at hp maxHp attack defence
    refine ⟨⟨row, entry, maxHp, ?_, ?_⟩, ?_, ?_, extra⟩
    · rw [attack, trained.weapon]
    · rw [defence, trained.armor]
    · rw [hp]
      exact rows _ row entry
    · rw [hp, maxHp]

theorem applied (rows : ∀ level row, data.levelData level = some row → 0 ≤ row.maxHp)
    (saved : SaveData) (row : LevelData) (nonneg : 0 ≤ saved.hp)
    (entry : data.levelData saved.level = some row) (p : Player) :
    (p.applyFromSaveData data saved).Current data := by
  have rated := recalcStats_rated
    { p with
      level := saved.level
      exp := saved.exp
      info :=
        { p.info with
          name := saved.name
          hp := min saved.hp row.maxHp
          maxHp := row.maxHp
          attack := row.attack
          defence := row.defence }
      storage := saved.storage
      equipWeapon := saved.equipWeapon
      equipArmor := saved.equipArmor
      equipPotion := saved.equipPotion } row entry rfl
  have most := rows _ row entry
  simp only [Player.applyFromSaveData, entry]
  refine ⟨⟨row, rated.entry, rated.maxHp, rated.attack, rated.defence⟩, ?_, ?_, rfl⟩
  · simp only [withExtra, Player.recalcStats, entry]
    exact le_min nonneg most
  · simp only [withExtra, Player.recalcStats, entry]
    exact min_le_right _ _

theorem created (playable : data.Playable) (id : ObjectId) :
    (Player.create data id).Current data := by
  obtain ⟨row, entry⟩ := playable.first
  have hp := playable.maxHp 1 row entry
  unfold Player.create
  simp only [entry, Option.getD_some, withExtra]
  refine ⟨⟨row, entry, rfl, ?_, ?_⟩, hp, le_refl _, rfl⟩
  · simp [equipValue, InventorySlot.empty]
  · simp [equipValue, InventorySlot.empty]

end Current

/-- After every call the stats, the hit points and the extra of the info are those of the level,
the experience and what is worn; a worn item counts if its id is positive. -/
theorem stats_current (playable : data.Playable) (p : Player) (called : p.Called data) :
    p.Current data := by
  induction called with
  | created id => exact Current.created playable id
  | applyFromSaveData saved row p called hp entry ih =>
      exact Current.applied playable.maxHp saved row hp entry p
  | gainExp amount p called ih => exact ih.gainExp playable.maxHp amount
  | addItem itemId count p called ih => exact ih.addItem itemId count
  | equipItem slot p called ih => exact ih.equipItem slot
  | unequipItem equipType p called ih => exact ih.unequipItem equipType
  | useItem slot p called ih => exact ih.useItem playable.value slot
  | onDamaged damage p called ih => exact ih.onDamaged damage

end Player

/-- A sword of id -5 that adds ten. -/
def cursedGame : GameData :=
  { potionGame with
    levelData := fun level => if level = 1 then some ⟨0, 100, 20, 5⟩ else none
    itemTemplate := fun itemId => if itemId = -5 then some ⟨.weapon, 10, 1⟩ else none }

def cursedPlayer : Player :=
  (((Player.create cursedGame 1).addItem cursedGame (-5) 1).2.1.equipItem cursedGame 0).1

theorem cursedPlayer_called : cursedPlayer.Called cursedGame :=
  .equipItem 0 _ (.addItem (-5) 1 _ (.created 1))

theorem cursedGame_playable : cursedGame.Playable where
  first := ⟨⟨0, 100, 20, 5⟩, rfl⟩
  maxHp level row entry := by
    by_cases first : level = 1
    · subst first
      cases entry
      decide
    · simp [cursedGame, first] at entry
  value itemId tmpl known := by
    by_cases sword : itemId = -5
    · subst sword
      cases known
      decide
    · simp [cursedGame, sword] at known

/-- The sword is worn and does not count. -/
theorem cursed_sword_uncounted :
    cursedGame.Playable ∧ cursedPlayer.Called cursedGame ∧
      cursedGame.levelData cursedPlayer.level = some ⟨0, 100, 20, 5⟩ ∧
      cursedGame.itemTemplate cursedPlayer.equipWeapon.itemId = some ⟨.weapon, 10, 1⟩ ∧
      cursedPlayer.info.attack ≠ 20 + 10 :=
  ⟨cursedGame_playable, cursedPlayer_called, by decide, by decide, by decide⟩

/-- The sword of id 2 counts, and level 2 takes 10 exp. -/
def knightGame : GameData :=
  { potionGame with
    levelData := fun level =>
      if level = 1 then some ⟨0, 100, 20, 5⟩
      else if level = 2 then some ⟨10, 115, 23, 6⟩
      else none
    itemTemplate := fun itemId => if itemId = 2 then some ⟨.weapon, 10, 1⟩ else none }

/-- A player takes a sword, wears it, comes to level 2 and is hit. -/
def knight : Player :=
  ((((Player.create knightGame 1).addItem knightGame 2 1).2.1.equipItem knightGame 0).1.gainExp
    knightGame 10).1.onDamaged 30

theorem knightGame_playable : knightGame.Playable where
  first := ⟨⟨0, 100, 20, 5⟩, rfl⟩
  maxHp level row entry := by
    by_cases first : level = 1
    · subst first
      cases entry
      decide
    · by_cases second : level = 2
      · subst second
        cases entry
        decide
      · simp [knightGame, first, second] at entry
  value itemId tmpl known := by
    by_cases sword : itemId = 2
    · subst sword
      cases known
      decide
    · simp [knightGame, sword] at known

theorem knight_current :
    knight.level = 2 ∧ knight.info.attack = 23 + 10 ∧ knight.info.defence = 6 ∧
      knight.info.maxHp = 115 ∧ knight.info.hp = 85 ∧ knight.Current knightGame := by
  have called : knight.Called knightGame :=
    .onDamaged 30 _ (.gainExp 10 _ (.equipItem 0 _ (.addItem 2 1 _ (.created 1))))
  exact ⟨by decide, by decide, by decide, by decide, by decide,
    Player.stats_current knightGame_playable knight called⟩

end ZeldaServer
