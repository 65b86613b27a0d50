import ZeldaServer.Database.RoundTrip

/-! What the slots of a player hold, whatever was done to it since it was created. -/

namespace ZeldaServer

open Player (EquipSlot UseSlot storageSlot Usable amountOf)

variable (data : GameData)

namespace Player

/-- The players that drops, the three inventory requests and saving lead to. Nothing else of the
server touches the slots. -/
inductive Handled : Player → Prop where
  | created (id : ObjectId) : Handled (Player.create data id)
  | addItem (itemId : Int) (p : Player) (handled : Handled p) :
      Handled (p.addItem data itemId 1).2.1
  | equipItem (slot : Int) (p : Player) (handled : Handled p) : Handled (p.equipItem data slot).1
  | unequipItem (equipType : Int) (p : Player) (handled : Handled p) :
      Handled (p.unequipItem data equipType).1
  | useItem (slot : Int) (p : Player) (handled : Handled p) : Handled (p.useItem data slot).1
  | reloaded (db : Database) (accountId : Int) (id : ObjectId) (saved : SaveData) (p : Player)
      (handled : Handled p)
      (read : (db.savePlayerData allOk accountId p.toSaveData).2.loadPlayerData accountId .fresh =
        (true, saved)) :
      Handled (Player.applyFromSaveData data saved (Player.create data id))
  | elsewhere (p q : Player) (handled : Handled p) (same : q.slots = p.slots) : Handled q

structure Closed (Good : SlotPlace → InventorySlot → Prop) : Prop where
  cleared : ∀ place, Good place .empty
  dropped : ∀ i itemId tmpl, data.itemTemplate itemId = some tmpl → Good (.inl i) ⟨itemId, 1⟩
  stacked : ∀ i slot tmpl, Good (.inl i) slot → data.itemTemplate slot.itemId = some tmpl →
    slot.count < tmpl.maxStack → Good (.inl i) ⟨slot.itemId, slot.count + 1⟩
  worn : ∀ i slot tmpl equip, Good (.inl i) slot → data.itemTemplate slot.itemId = some tmpl →
    EquipSlot.ofItemType tmpl.type = some equip → Good (.inr equip) slot
  stored : ∀ i equip slot, Good (.inr equip) slot → Good (.inl i) slot
  used : ∀ place slot, Good place slot → Usable data slot → Good place (spent slot)

theorem good_put (Good : SlotPlace → InventorySlot → Prop) (p q : Player) (place : SlotPlace)
    (slot : InventorySlot) (good : ∀ other, Good other (p.slots other)) (item : Good place slot)
    (put : q.slots = Function.update p.slots place slot) (other : SlotPlace) :
    Good other (q.slots other) := by
  rw [put]
  by_cases same : other = place
  · subst same
    simpa using item
  · simpa [same] using good other

theorem slots_applyFromSaveData (saved : SaveData) (fresh : Player) :
    (applyFromSaveData data saved fresh).slots = Sum.elim saved.storage saved.equipped := by
  unfold applyFromSaveData withExtra
  rw [slots_setInfo, slots_recalcStats]
  unfold slots
  congr 1

theorem slots_reloaded (db : Database) (accountId : Int) (id : ObjectId) (saved : SaveData)
    (p : Player)
    (read : (db.savePlayerData allOk accountId p.toSaveData).2.loadPlayerData accountId .fresh =
      (true, saved)) (place : SlotPlace) :
    (applyFromSaveData data saved (create data id)).slots place =
      Store.slotRow (p.slots place) := by
  rw [db.savePlayerData_loaded accountId p.toSaveData] at read
  cases read
  rw [slots_applyFromSaveData]
  cases place with
  | inl i => rfl
  | inr equip => cases equip <;> rfl

theorem Handled.good (Good : SlotPlace → InventorySlot → Prop) (closed : Closed data Good)
    (p : Player) (handled : p.Handled data) (place : SlotPlace) : Good place (p.slots place) := by
  induction handled generalizing place with
  | created id =>
      cases place with
      | inl i => exact closed.cleared _
      | inr equip => cases equip <;> exact closed.cleared _
  | addItem itemId p handled ih =>
      cases known : data.itemTemplate itemId with
      | none =>
          rw [p.addItem_unknown data itemId 1 known]
          exact ih place
      | some tmpl =>
          cases stack : p.stackSlot tmpl itemId with
          | some i =>
              obtain ⟨held, less⟩ := stackSlot_some p tmpl itemId i stack
              have one : min ((p.storage i).count + 1) tmpl.maxStack = (p.storage i).count + 1 :=
                min_eq_left less
              have put := (addItem_stacked data p itemId 1 tmpl known i stack).2
              rw [one, ← held] at put
              rw [← held] at known
              exact good_put Good p _ _ _ ih (closed.stacked i _ tmpl (ih (.inl i)) known less)
                (held ▸ put) place
          | none =>
              cases found : p.findEmptySlot with
              | some i =>
                  exact good_put Good p _ _ _ ih (closed.dropped i itemId tmpl known)
                    (addItem_placed data p itemId 1 tmpl known i stack found).2 place
              | none =>
                  rw [p.addItem_full data itemId 1 tmpl known stack found]
                  exact ih place
  | equipItem slot p handled ih =>
      rcases equipItem_cases data p slot with idle | ⟨i, tmpl, equip, _, _, known, type, done⟩
      · rw [idle]
        exact ih place
      · rw [done, slots_recalcStats]
        have worn := good_put Good p (p.setEquipped (p.storage i) equip) (.inr equip) _ ih
          (closed.worn i _ tmpl equip (ih (.inl i)) known type) (slots_setEquipped p _ equip)
        exact good_put Good _ _ (.inl i) _ worn (closed.stored i equip _ (ih (.inr equip)))
          (slots_setStorage _ _ i) place
  | unequipItem equipType p handled ih =>
      rcases unequipItem_cases data p equipType with idle | ⟨equip, i, _, _, _, done⟩
      · rw [idle]
        exact ih place
      · rw [done, slots_recalcStats]
        have stored := good_put Good p (p.setStorage i (p.equipped equip)) (.inl i) _ ih
          (closed.stored i equip _ (ih (.inr equip))) (slots_setStorage p _ i)
        exact good_put Good _ _ (.inr equip) _ stored (closed.cleared _)
          (slots_setEquipped _ _ equip) place
  | useItem slot p handled ih =>
      rcases useItem_cases data p slot with idle | ⟨target, _, usable, put⟩
      · rw [idle]
        exact ih place
      · exact good_put Good p _ _ _ ih (closed.used _ _ (ih target.place) usable) put place
  | reloaded db accountId id saved p handled read ih =>
      rw [slots_reloaded data db accountId id saved p read]
      unfold Store.slotRow
      split
      · exact closed.cleared place
      · exact ih place
  | elsewhere p q handled same ih =>
      rw [same]
      exact ih place

def SoundItems : Prop :=
  ∀ itemId tmpl, data.itemTemplate itemId = some tmpl → 0 < itemId ∧ 1 ≤ tmpl.maxStack

/-- An empty slot, or a known item with at least one and at most a stack of it. -/
def Filled (slot : InventorySlot) : Prop :=
  slot = .empty ∨
    ∃ tmpl, data.itemTemplate slot.itemId = some tmpl ∧ 1 ≤ slot.count ∧
      slot.count ≤ tmpl.maxStack

def Suits (equip : EquipSlot) (slot : InventorySlot) : Prop :=
  slot = .empty ∨
    ∃ tmpl, data.itemTemplate slot.itemId = some tmpl ∧
      EquipSlot.ofItemType tmpl.type = some equip

theorem spent_of_usable (slot : InventorySlot) :
    spent slot = .empty ∨ 1 < slot.count ∧ spent slot = ⟨slot.itemId, slot.count - 1⟩ := by
  unfold spent
  split
  · exact .inl rfl
  · exact .inr ⟨by omega, rfl⟩

theorem filled_closed (items : SoundItems data) : Closed data fun _ slot => Filled data slot where
  cleared _ := .inl rfl
  dropped _ itemId tmpl known := .inr ⟨tmpl, known, Int.le_refl 1, (items itemId tmpl known).2⟩
  stacked _ slot tmpl filled known less := by
    refine .inr ⟨tmpl, known, ?_, less⟩
    rcases filled with empty | ⟨_, _, some, _⟩
    · subst empty
      decide
    · exact show 1 ≤ slot.count + 1 by omega
  worn _ _ _ _ filled _ _ := filled
  stored _ _ _ filled := filled
  used _ slot filled usable := by
    rcases spent_of_usable slot with empty | ⟨more, left⟩
    · exact .inl empty
    · rcases filled with none | ⟨tmpl, known, _, le⟩
      · exact absurd (congrArg InventorySlot.itemId none) usable.1
      · rw [left]
        exact .inr ⟨tmpl, known, show 1 ≤ slot.count - 1 by omega,
          show slot.count - 1 ≤ tmpl.maxStack by omega⟩

theorem suits_closed :
    Closed data fun place slot => ∀ equip, place = .inr equip → Suits data equip slot where
  cleared _ _ _ := .inl rfl
  dropped _ _ _ _ _ elsewhere := nomatch elsewhere
  stacked _ _ _ _ _ _ _ elsewhere := nomatch elsewhere
  worn _ slot tmpl equip _ known type equip' same := by
    cases same
    exact .inr ⟨tmpl, known, type⟩
  stored _ _ _ _ _ elsewhere := nomatch elsewhere
  used place slot suits usable equip same := by
    rcases spent_of_usable slot with empty | ⟨_, left⟩
    · exact .inl empty
    · rcases suits equip same with none | suited
      · exact absurd (congrArg InventorySlot.itemId none) usable.1
      · rw [left]
        exact .inr suited

/-- Every slot is empty or holds part of a stack of a known item, and weapons, armor and
consumables only are worn. -/
theorem slots_in_order (items : SoundItems data) (p : Player) (handled : p.Handled data) :
    (∀ place, Filled data (p.slots place)) ∧ ∀ equip, Suits data equip (p.equipped equip) :=
  ⟨handled.good data _ (filled_closed data items),
    fun equip => handled.good data _ (suits_closed data) p (.inr equip) equip rfl⟩

def Counted (slot : InventorySlot) : Prop := slot = .empty ∨ slot.itemId ≠ 0 ∧ 1 ≤ slot.count

theorem counted_closed (noItem : data.itemTemplate 0 = none) :
    Closed data fun _ slot => Counted slot where
  cleared _ := .inl rfl
  dropped _ itemId tmpl known := by
    refine .inr ⟨?_, Int.le_refl 1⟩
    rintro rfl
    rw [noItem] at known
    cases known
  stacked _ slot tmpl counted known _ := by
    rcases counted with empty | ⟨item, some⟩
    · subst empty
      rw [show InventorySlot.empty.itemId = 0 from rfl, noItem] at known
      cases known
    · exact .inr ⟨item, show 1 ≤ slot.count + 1 by omega⟩
  worn _ _ _ _ counted _ _ := counted
  stored _ _ _ counted := counted
  used _ slot _ usable := by
    rcases spent_of_usable slot with empty | ⟨more, left⟩
    · exact .inl empty
    · rw [left]
      exact .inr ⟨usable.1, show 1 ≤ slot.count - 1 by omega⟩

theorem Counted.eq_empty {slot : InventorySlot} (counted : Counted slot) (none : slot.itemId = 0) :
    slot = .empty :=
  counted.resolve_right fun held => held.1 none

theorem amountOf_spent (slot : InventorySlot) (counted : Counted slot) (usable : Usable data slot)
    (itemId : Int) :
    amountOf itemId (spent slot) =
      amountOf itemId slot - if itemId = slot.itemId then 1 else 0 := by
  rcases counted with empty | ⟨item, some⟩
  · exact absurd (congrArg InventorySlot.itemId empty) usable.1
  · unfold spent
    by_cases same : slot.itemId = itemId
    · subst same
      by_cases last : slot.count - 1 ≤ 0
      · have one : slot.count = 1 := by omega
        simp [amountOf, one, InventorySlot.empty, item.symm]
      · simp [amountOf, last]
    · have differ : itemId ≠ slot.itemId := fun equal => same equal.symm
      by_cases last : slot.count - 1 ≤ 0
      · simp [last, amountOf, same, differ, InventorySlot.empty]
      · simp [amountOf, last, same, differ]

section

variable (p : Player) (counted : ∀ place, Counted (p.slots place))
include counted

theorem addItem_conserves (itemId : Int) :
    ((p.addItem data itemId 1).1 = true →
        ∀ id, (p.addItem data itemId 1).2.1.stock id =
          p.stock id + if id = itemId then 1 else 0) ∧
      ((p.addItem data itemId 1).1 = false → (p.addItem data itemId 1).2.1.slots = p.slots) := by
  cases known : data.itemTemplate itemId with
  | none =>
      rw [p.addItem_unknown data itemId 1 known]
      exact ⟨fun accepted => absurd accepted (by simp), fun _ => rfl⟩
  | some tmpl =>
      cases stack : p.stackSlot tmpl itemId with
      | some i =>
          obtain ⟨held, less⟩ := stackSlot_some p tmpl itemId i stack
          obtain ⟨accepted, put⟩ := addItem_stacked data p itemId 1 tmpl known i stack
          refine ⟨fun _ id => ?_, fun refused => absurd (accepted.symm.trans refused) (by simp)⟩
          rw [min_eq_left (show (p.storage i).count + 1 ≤ tmpl.maxStack from less)] at put
          rw [stock_put id p _ _ _ put]
          by_cases same : id = itemId
          · simp only [amountOf, slots_inl, held, same, if_true]
            omega
          · have differ : itemId ≠ id := fun equal => same equal.symm
            simp [amountOf, held, same, differ]
      | none =>
          cases found : p.findEmptySlot with
          | some i =>
              obtain ⟨accepted, put⟩ := addItem_placed data p itemId 1 tmpl known i stack found
              refine ⟨fun _ id => ?_, fun refused => absurd (accepted.symm.trans refused) (by simp)⟩
              have free := (counted (.inl i)).eq_empty (findEmptySlot_some p i found)
              rw [stock_put id p _ _ _ put, free, amountOf_empty]
              by_cases same : id = itemId
              · simp [amountOf, same]
              · have differ : itemId ≠ id := fun equal => same equal.symm
                simp [amountOf, same, differ]
          | none =>
              rw [p.addItem_full data itemId 1 tmpl known stack found]
              exact ⟨fun accepted => absurd accepted (by simp), fun _ => rfl⟩

omit counted in
theorem equipItem_conserves (slot id : Int) : (p.equipItem data slot).1.stock id = p.stock id := by
  rcases p.equipItem_cases data slot with idle | ⟨i, _, equip, _, _, _, _, done⟩
  · rw [idle]
  · rw [done]
    exact stock_moved id p _ _ (slots_equipped data p i equip)

theorem unequipItem_conserves (equipType id : Int) :
    (p.unequipItem data equipType).1.stock id = p.stock id := by
  rcases p.unequipItem_cases data equipType with idle | ⟨equip, i, _, _, found, done⟩
  · rw [idle]
  · have free := (counted (.inl i)).eq_empty (findEmptySlot_some p i found)
    rw [done]
    exact stock_moved id p _ _ (slots_unequipped data p i equip free)

theorem useItem_conserves (slot : Int) :
    (p.useItem data slot).1.slots = p.slots ∨
      ∃ target, UseSlot.ofInt slot = some target ∧ Usable data (p.slots target.place) ∧
        ∀ id, (p.useItem data slot).1.stock id =
          p.stock id - if id = (p.slots target.place).itemId then 1 else 0 := by
  rcases p.useItem_cases data slot with idle | ⟨target, named, usable, put⟩
  · rw [idle]
    exact .inl rfl
  · refine .inr ⟨target, named, usable, fun id => ?_⟩
    rw [stock_put id p _ _ _ put, amountOf_spent data _ (counted _) usable]
    omega

end

/-- Wearing and taking off move items, a drop adds one or nothing, using takes one or nothing,
and the slots a call does not name or choose stay as they are. -/
theorem items_conserved (noItem : data.itemTemplate 0 = none) (p : Player)
    (handled : p.Handled data) :
    (∀ slot id, (p.equipItem data slot).1.stock id = p.stock id) ∧
      (∀ equipType id, (p.unequipItem data equipType).1.stock id = p.stock id) ∧
      (∀ itemId,
        ((p.addItem data itemId 1).1 = true →
            ∀ id, (p.addItem data itemId 1).2.1.stock id =
              p.stock id + if id = itemId then 1 else 0) ∧
          ((p.addItem data itemId 1).1 = false →
            (p.addItem data itemId 1).2.1.slots = p.slots)) ∧
      (∀ slot, (p.useItem data slot).1.slots = p.slots ∨
        ∃ target, UseSlot.ofInt slot = some target ∧ Usable data (p.slots target.place) ∧
          ∀ id, (p.useItem data slot).1.stock id =
            p.stock id - if id = (p.slots target.place).itemId then 1 else 0) ∧
      ∀ call : InventoryCall, ∀ place, ¬ call.Touches data p place →
        (call.perform data p).1.slots place = p.slots place := by
  have counted := handled.good data _ (counted_closed data noItem) p
  exact ⟨p.equipItem_conserves data, unequipItem_conserves data p counted,
    addItem_conserves data p counted, useItem_conserves data p counted,
    InventoryCall.slots_untouched data p⟩

end Player

/-- An item with id 0 is put where the one before it lies. -/
theorem zero_items_lost :
    ((Player.create oddGame 1).addItem oddGame 0 1).2.1.Handled oddGame ∧
      (((Player.create oddGame 1).addItem oddGame 0 1).2.1.addItem oddGame 0 1).1 = true ∧
      (((Player.create oddGame 1).addItem oddGame 0 1).2.1.addItem oddGame 0 1).2.1.stock 0 ≠
        ((Player.create oddGame 1).addItem oddGame 0 1).2.1.stock 0 + 1 :=
  ⟨.addItem 0 _ (.created 1), by decide, by decide⟩

theorem potionGame_sound : Player.SoundItems potionGame := by
  intro itemId tmpl known
  by_cases potion : itemId = 3
  · subst potion
    cases known
    decide
  · simp [potionGame, potion] at known

/-- Two potions are dropped, and one is worn. -/
def potionPlayer : Player :=
  ((((Player.create potionGame 1).addItem potionGame 3 1).2.1.addItem potionGame 3 1).2.1.equipItem
    potionGame 0).1

theorem potionPlayer_handled : potionPlayer.Handled potionGame :=
  .equipItem 0 _ (.addItem 3 _ (.addItem 3 _ (.created 1)))

theorem potionPlayer_in_order :
    (∀ place, Player.Filled potionGame (potionPlayer.slots place)) ∧
      ∀ equip, Player.Suits potionGame equip (potionPlayer.equipped equip) :=
  Player.slots_in_order potionGame potionGame_sound potionPlayer potionPlayer_handled

theorem potionPlayer_conserved :
    (potionPlayer.unequipItem potionGame 2).1.stock 3 = potionPlayer.stock 3 ∧
      potionPlayer.stock 3 = 2 :=
  ⟨(Player.items_conserved potionGame rfl potionPlayer potionPlayer_handled).2.1 2 3, by decide⟩

end ZeldaServer
