import ZeldaServer.Game.Inventory
import ZeldaServer.Lib.Turnover

/-! The thirty slots of a player as one, and what each method moves between them. -/

namespace ZeldaServer

open Player (EquipSlot UseSlot storageSlot)

instance : Fintype EquipSlot where
  elems := {.weapon, .armor, .potion}
  complete := by
    intro equip
    cases equip <;> decide

abbrev SlotPlace := Fin inventorySize ⊕ EquipSlot

namespace Player

def slots (p : Player) : SlotPlace → InventorySlot := Sum.elim p.storage p.equipped

def UseSlot.place : UseSlot → SlotPlace
  | .potion => .inr .potion
  | .storage i => .inl i

def amountOf (itemId : Int) (slot : InventorySlot) : Int :=
  if slot.itemId = itemId then slot.count else 0

@[simp] theorem amountOf_empty (itemId : Int) : amountOf itemId .empty = 0 := by
  unfold amountOf
  split <;> rfl

def stock (itemId : Int) (p : Player) : Int := Stock.total (amountOf itemId) p.slots

section

variable (p : Player) (slot : InventorySlot) (i : Fin inventorySize) (equip : EquipSlot)

@[simp] theorem slots_inl : p.slots (.inl i) = p.storage i := rfl

@[simp] theorem slots_inr : p.slots (.inr equip) = p.equipped equip := rfl

theorem slots_of (q : Player) (storage : q.storage = p.storage)
    (equipped : ∀ equip, q.equipped equip = p.equipped equip) : q.slots = p.slots := by
  unfold slots
  rw [storage, funext equipped]

@[simp] theorem slots_setStorage :
    (p.setStorage i slot).slots = Function.update p.slots (.inl i) slot := by
  unfold slots
  rw [Sum.update_elim_inl, storage_setStorage]
  congr 1

@[simp] theorem slots_setEquipped :
    (p.setEquipped slot equip).slots = Function.update p.slots (.inr equip) slot := by
  unfold slots
  rw [Sum.update_elim_inr, storage_setEquipped]
  congr 1
  funext equip'
  rw [equipped_setEquipped, Function.update_apply]

@[simp] theorem slots_recalcStats (data : GameData) : (recalcStats data p).slots = p.slots :=
  slots_of p _ (storage_recalcStats p data) fun equip => equipped_recalcStats p equip data

@[simp] theorem slots_setInfo (info : ObjectInfo) : ({ p with info } : Player).slots = p.slots := by
  apply slots_of
  · rfl
  · intro equip
    cases equip <;> rfl

@[simp] theorem slots_setUseSlot (target : UseSlot) :
    (p.setUseSlot slot target).slots = Function.update p.slots target.place slot := by
  cases target with
  | potion => exact slots_setEquipped p slot .potion
  | storage i => exact slots_setStorage p slot i

theorem slots_place (target : UseSlot) : p.slots target.place = p.useSlot target := by
  cases target <;> rfl

end

/-- The stack `AddItem` adds to. -/
def stackSlot (p : Player) (tmpl : ItemTemplateData) (itemId : Int) : Option (Fin inventorySize) :=
  if 1 < tmpl.maxStack then
    findSlot p.storage fun slot => slot.itemId = itemId ∧ slot.count < tmpl.maxStack
  else none

theorem stackSlot_some (p : Player) (tmpl : ItemTemplateData) (itemId : Int)
    (i : Fin inventorySize) (stacked : p.stackSlot tmpl itemId = some i) :
    (p.storage i).itemId = itemId ∧ (p.storage i).count < tmpl.maxStack := by
  unfold stackSlot at stacked
  split at stacked
  · have fits := List.find?_some stacked
    rwa [decide_eq_true_eq] at fits
  · cases stacked

theorem findEmptySlot_some (p : Player) (i : Fin inventorySize)
    (found : p.findEmptySlot = some i) : (p.storage i).itemId = 0 := by
  have empty := List.find?_some found
  rwa [decide_eq_true_eq] at empty

section

variable (data : GameData) (p : Player) (itemId count : Int) (tmpl : ItemTemplateData)

theorem addItem_unknown (unknown : data.itemTemplate itemId = none) :
    p.addItem data itemId count = (false, p, []) := by
  simp only [addItem, unknown]

variable (known : data.itemTemplate itemId = some tmpl)
include known

theorem addItem_stacked (i : Fin inventorySize) (stacked : p.stackSlot tmpl itemId = some i) :
    (p.addItem data itemId count).1 = true ∧
      (p.addItem data itemId count).2.1.slots = Function.update p.slots (.inl i)
        ⟨itemId, min ((p.storage i).count + count) tmpl.maxStack⟩ := by
  have same := (stackSlot_some p tmpl itemId i stacked).1
  unfold stackSlot at stacked
  simp only [addItem, known, stacked, slots_setStorage, same, and_self]

theorem addItem_placed (i : Fin inventorySize) (unstacked : p.stackSlot tmpl itemId = none)
    (found : p.findEmptySlot = some i) :
    (p.addItem data itemId count).1 = true ∧
      (p.addItem data itemId count).2.1.slots =
        Function.update p.slots (.inl i) ⟨itemId, count⟩ := by
  unfold stackSlot at unstacked
  simp only [addItem, known, unstacked, found, slots_setStorage, and_self]

theorem addItem_full (unstacked : p.stackSlot tmpl itemId = none)
    (full : p.findEmptySlot = none) : p.addItem data itemId count = (false, p, []) := by
  unfold stackSlot at unstacked
  simp only [addItem, known, unstacked, full]

end

theorem equipItem_cases (data : GameData) (p : Player) (slot : Int) :
    p.equipItem data slot = (p, []) ∨
      ∃ i tmpl equip, storageSlot slot = some i ∧ (p.storage i).itemId ≠ 0 ∧
        data.itemTemplate (p.storage i).itemId = some tmpl ∧
        EquipSlot.ofItemType tmpl.type = some equip ∧
        (p.equipItem data slot).1 =
          recalcStats data ((p.setEquipped (p.storage i) equip).setStorage i (p.equipped equip)) := by
  unfold equipItem
  split
  · exact .inl rfl
  next i named =>
    split
    · exact .inl rfl
    next held =>
      split
      · exact .inl rfl
      next tmpl known =>
        cases type : EquipSlot.ofItemType tmpl.type with
        | none => exact .inl rfl
        | some equip => exact .inr ⟨i, tmpl, equip, named, held, known, type, rfl⟩

theorem unequipItem_cases (data : GameData) (p : Player) (equipType : Int) :
    p.unequipItem data equipType = (p, []) ∨
      ∃ equip i, EquipSlot.ofEquipType equipType = some equip ∧ (p.equipped equip).itemId ≠ 0 ∧
        p.findEmptySlot = some i ∧
        (p.unequipItem data equipType).1 =
          recalcStats data ((p.setStorage i (p.equipped equip)).setEquipped .empty equip) := by
  unfold unequipItem
  split
  · exact .inl rfl
  next equip named =>
    split
    · exact .inl rfl
    next held =>
      cases found : p.findEmptySlot with
      | none => exact .inl rfl
      | some i => exact .inr ⟨equip, i, named, held, rfl, rfl⟩

theorem useItem_cases (data : GameData) (p : Player) (slot : Int) :
    p.useItem data slot = (p, []) ∨
      ∃ target, UseSlot.ofInt slot = some target ∧ Usable data (p.slots target.place) ∧
        (p.useItem data slot).1.slots =
          Function.update p.slots target.place (spent (p.slots target.place)) := by
  by_cases usable : ∃ target, UseSlot.ofInt slot = some target ∧ Usable data (p.useSlot target)
  · obtain ⟨target, named, usable⟩ := usable
    obtain ⟨newHp, -, used⟩ := useItem_of_usable data slot p target named usable
    have place := p.slots_place target
    refine .inr ⟨target, named, place ▸ usable, ?_⟩
    rw [used, slots_setUseSlot, slots_setInfo, place]
  · exact .inl (useItem_of_not_usable data slot p fun target named held =>
      usable ⟨target, named, held⟩)

section

variable (data : GameData) (p : Player)

theorem slots_equipped (i : Fin inventorySize) (equip : EquipSlot) :
    (recalcStats data ((p.setEquipped (p.storage i) equip).setStorage i (p.equipped equip))).slots =
      p.slots ∘ Equiv.swap (.inl i) (.inr equip) := by
  rw [Equiv.comp_swap_eq_update, slots_recalcStats, slots_setStorage, slots_setEquipped]
  rfl

theorem slots_unequipped (i : Fin inventorySize) (equip : EquipSlot)
    (free : p.storage i = .empty) :
    (recalcStats data ((p.setStorage i (p.equipped equip)).setEquipped .empty equip)).slots =
      p.slots ∘ Equiv.swap (.inr equip) (.inl i) := by
  rw [Equiv.comp_swap_eq_update, slots_recalcStats, slots_setEquipped, slots_setStorage]
  simp only [slots_inl, slots_inr, free]

end

theorem stock_put (itemId : Int) (p q : Player) (place : SlotPlace) (slot : InventorySlot)
    (put : q.slots = Function.update p.slots place slot) :
    q.stock itemId = p.stock itemId - amountOf itemId (p.slots place) + amountOf itemId slot := by
  have total := Stock.total_put (amountOf itemId) p.slots place slot
  unfold stock
  rw [put]
  omega

theorem stock_moved (itemId : Int) (p q : Player) (moved : Equiv.Perm SlotPlace)
    (same : q.slots = p.slots ∘ moved) : q.stock itemId = p.stock itemId := by
  unfold stock
  rw [same]
  exact Stock.total_moved _ _ moved

end Player

def InventoryCall.Touches (data : GameData) (p : Player) (place : SlotPlace) : InventoryCall → Prop
  | .addItem itemId _ =>
      ∃ tmpl i, data.itemTemplate itemId = some tmpl ∧
        (p.stackSlot tmpl itemId).or p.findEmptySlot = some i ∧ place = .inl i
  | .equipItem slot =>
      ∃ i tmpl equip, storageSlot slot = some i ∧
        data.itemTemplate (p.storage i).itemId = some tmpl ∧
        EquipSlot.ofItemType tmpl.type = some equip ∧ (place = .inl i ∨ place = .inr equip)
  | .unequipItem equipType =>
      ∃ equip, EquipSlot.ofEquipType equipType = some equip ∧
        (place = .inr equip ∨ ∃ i, p.findEmptySlot = some i ∧ place = .inl i)
  | .useItem slot => ∃ target, UseSlot.ofInt slot = some target ∧ place = target.place
  | .sendInventoryData => False

theorem InventoryCall.slots_untouched (data : GameData) (p : Player) (call : InventoryCall)
    (place : SlotPlace) (untouched : ¬ call.Touches data p place) :
    (call.perform data p).1.slots place = p.slots place := by
  cases call with
  | addItem itemId count =>
      cases known : data.itemTemplate itemId with
      | none => rw [perform, p.addItem_unknown data itemId count known]
      | some tmpl =>
          cases stacked : p.stackSlot tmpl itemId with
          | some i =>
              have other : place ≠ .inl i := fun same =>
                untouched ⟨tmpl, i, known, by simp [stacked], same⟩
              rw [perform, (p.addItem_stacked data itemId count tmpl known i stacked).2,
                Function.update_of_ne other]
          | none =>
              cases found : p.findEmptySlot with
              | some i =>
                  have other : place ≠ .inl i := fun same =>
                    untouched ⟨tmpl, i, known, by simp [stacked, found], same⟩
                  rw [perform, (p.addItem_placed data itemId count tmpl known i stacked found).2,
                    Function.update_of_ne other]
              | none => rw [perform, p.addItem_full data itemId count tmpl known stacked found]
  | equipItem slot =>
      rcases p.equipItem_cases data slot with idle | ⟨i, tmpl, equip, named, _, known, type, done⟩
      · rw [perform, idle]
      · have other : place ≠ .inl i ∧ place ≠ .inr equip :=
          not_or.mp fun same => untouched ⟨i, tmpl, equip, named, known, type, same⟩
        rw [perform, done, Player.slots_equipped, Function.comp_apply,
          Equiv.swap_apply_of_ne_of_ne other.1 other.2]
  | unequipItem equipType =>
      rcases p.unequipItem_cases data equipType with idle | ⟨equip, i, named, _, found, done⟩
      · rw [perform, idle]
      · have worn : place ≠ .inr equip := fun same => untouched ⟨equip, named, .inl same⟩
        have free : place ≠ .inl i := fun same => untouched ⟨equip, named, .inr ⟨i, found, same⟩⟩
        rw [perform, done, Player.slots_recalcStats, Player.slots_setEquipped,
          Player.slots_setStorage, Function.update_of_ne worn, Function.update_of_ne free]
  | useItem slot =>
      rcases p.useItem_cases data slot with idle | ⟨target, named, _, done⟩
      · rw [perform, idle]
      · have other : place ≠ target.place := fun same => untouched ⟨target, named, same⟩
        rw [perform, done, Function.update_of_ne other]
  | sendInventoryData => rfl

namespace Player

section

variable (data : GameData) (p : Player) (itemId count : Int)

def Within (slot : InventorySlot) : Prop :=
  ∀ tmpl, data.itemTemplate slot.itemId = some tmpl → slot.count ≤ tmpl.maxStack

/-- `AddItem` either adds all, with no stack overfilled, or leaves the slots as they are. -/
def AllOrNothing : Prop :=
  let added := p.addItem data itemId count
  (added.1 = true ∧ added.2.1.stock itemId = p.stock itemId + count ∧
      ∀ place, Within data (p.slots place) → Within data (added.2.1.slots place)) ∨
    (added.1 = false ∧ added.2.1.slots = p.slots)

/-- What `AddItem` finds has room: the first stack for the whole count, or else the first free
slot, where the count makes one stack at most. -/
def HasRoom (tmpl : ItemTemplateData) : Prop :=
  match p.stackSlot tmpl itemId with
  | some i => (p.storage i).count + count ≤ tmpl.maxStack
  | none =>
      ∀ i, p.findEmptySlot = some i →
        (itemId = 0 → (p.storage i).count = 0) ∧
          (Within data (p.storage i) → count ≤ tmpl.maxStack)

theorem within_put (q : Player) (place : SlotPlace) (slot : InventorySlot)
    (put : q.slots = Function.update p.slots place slot) :
    (∀ other, Within data (p.slots other) → Within data (q.slots other)) ↔
      (Within data (p.slots place) → Within data slot) := by
  rw [put]
  constructor
  · intro every before
    simpa using every place before
  · intro one other before
    by_cases same : other = place
    · subst same
      simpa using one before
    · simpa [same] using before

variable (tmpl : ItemTemplateData) (known : data.itemTemplate itemId = some tmpl)
include known

theorem within_iff : Within data ⟨itemId, count⟩ ↔ count ≤ tmpl.maxStack := by
  simp [Within, known]

theorem allOrNothing_stacked (i : Fin inventorySize) (stacked : p.stackSlot tmpl itemId = some i) :
    AllOrNothing data p itemId count ↔ (p.storage i).count + count ≤ tmpl.maxStack := by
  obtain ⟨accepted, put⟩ := addItem_stacked data p itemId count tmpl known i stacked
  have held := (stackSlot_some p tmpl itemId i stacked).1
  have gained := stock_put itemId p _ (.inl i) _ put
  simp only [amountOf, slots_inl, held, if_true] at gained
  unfold AllOrNothing
  simp only [accepted, gained, within_put data p _ _ _ put, within_iff data _ _ tmpl known,
    true_and, reduceCtorEq, false_and, or_false]
  omega

theorem allOrNothing_placed (i : Fin inventorySize) (unstacked : p.stackSlot tmpl itemId = none)
    (found : p.findEmptySlot = some i) :
    AllOrNothing data p itemId count ↔
      (itemId = 0 → (p.storage i).count = 0) ∧
        (Within data (p.storage i) → count ≤ tmpl.maxStack) := by
  obtain ⟨accepted, put⟩ := addItem_placed data p itemId count tmpl known i unstacked found
  have free := findEmptySlot_some p i found
  have gained := stock_put itemId p _ (.inl i) _ put
  simp only [amountOf, slots_inl, free, if_true] at gained
  unfold AllOrNothing
  simp only [accepted, gained, within_put data p _ _ _ put, within_iff data _ _ tmpl known,
    true_and, reduceCtorEq, false_and, or_false, slots_inl]
  apply and_congr_left'
  split
  next zero => rw [← zero]; omega
  next some_id => omega

/-- `AddItem` is all or nothing exactly where what it finds has room. -/
theorem addItem_all_or_nothing_iff :
    AllOrNothing data p itemId count ↔ HasRoom data p itemId count tmpl := by
  unfold HasRoom
  cases stacked : p.stackSlot tmpl itemId with
  | some i => exact allOrNothing_stacked data p itemId count tmpl known i stacked
  | none =>
      cases found : p.findEmptySlot with
      | some i =>
          simpa using allOrNothing_placed data p itemId count tmpl known i stacked found
      | none =>
          have refused := addItem_full data p itemId count tmpl known stacked found
          simp [AllOrNothing, refused]

end

end Player

/-- A bag of one potion takes twelve more, and has ten of them; an empty bag takes them as one
stack of twelve. -/
theorem potions_lost_and_overfilled :
    ¬ Player.AllOrNothing potionGame ((Player.create potionGame 1).addItem potionGame 3 1).2.1 3
        12 ∧
      ¬ Player.AllOrNothing potionGame (Player.create potionGame 1) 3 12 := by
  constructor
  · rintro (⟨_, gained, _⟩ | ⟨refused, _⟩)
    · revert gained
      decide
    · revert refused
      decide
  · rintro (⟨_, _, within⟩ | ⟨refused, _⟩)
    · have stack := within (.inl ⟨0, by decide⟩) (fun tmpl none => nomatch none) _ rfl
      revert stack
      decide
    · revert refused
      decide

theorem nine_potions_added :
    Player.AllOrNothing potionGame ((Player.create potionGame 1).addItem potionGame 3 1).2.1 3 9 :=
  (Player.addItem_all_or_nothing_iff potionGame _ 3 9 ⟨.consumable, 30, 10⟩ rfl).mpr
    (show (1 : Int) + 9 ≤ 10 by decide)

end ZeldaServer
