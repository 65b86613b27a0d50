import ZeldaServer.Game.Player
import ZeldaServer.Lib.Runs

/-! The inventory a client keeps of its own player. The server sends what a call changed, and
the client applies it to its copy. -/

namespace ZeldaServer

open Player (EquipSlot storageSlot)

/-- What the inventory packets set of a `MyPlayer`. -/
structure MyPlayer where
  hp : Int
  attack : Int
  defence : Int
  storage : Storage
  equipWeapon : InventorySlot
  equipArmor : InventorySlot
  equipPotion : InventorySlot

namespace MyPlayer

/-- `MyPlayer::GetEquipSlot`, read -/
def equipped (me : MyPlayer) : EquipSlot → InventorySlot
  | .weapon => me.equipWeapon
  | .armor => me.equipArmor
  | .potion => me.equipPotion

/-- `MyPlayer::GetEquipSlot`, written -/
def setEquipped (me : MyPlayer) (slot : InventorySlot) : EquipSlot → MyPlayer
  | .weapon => { me with equipWeapon := slot }
  | .armor => { me with equipArmor := slot }
  | .potion => { me with equipPotion := slot }

/-- `if ( slot >= 0 && slot < INVENTORY_SIZE )` -/
def setStorage (me : MyPlayer) (slot : Int) (item : InventorySlot) : MyPlayer :=
  match storageSlot slot with
  | none => me
  | some i => { me with storage := Function.update me.storage i item }

def applyInventoryData (items : List ItemInfo) (weapon armor potion : ItemInfo) (me : MyPlayer) :
    MyPlayer :=
  let me :=
    items.foldl (fun me item => me.setStorage item.slot ⟨item.itemId, item.count⟩)
      { me with storage := fun _ => .empty }
  { me with
    equipWeapon := ⟨weapon.itemId, weapon.count⟩
    equipArmor := ⟨armor.itemId, armor.count⟩
    equipPotion := ⟨potion.itemId, potion.count⟩ }

def applyAddItem (slot itemId count : Int) (me : MyPlayer) : MyPlayer :=
  me.setStorage slot ⟨itemId, count⟩

def applyEquipItem (equipType storageSlot storageItemId storageItemCount equipItemId
    equipItemCount attack defence : Int) (me : MyPlayer) : MyPlayer :=
  let me := me.setStorage storageSlot ⟨storageItemId, storageItemCount⟩
  let me :=
    match EquipSlot.ofEquipType equipType with
    | none => me
    | some equip => me.setEquipped ⟨equipItemId, equipItemCount⟩ equip
  { me with attack, defence }

def applyUnequipItem (equipType storageSlot attack defence : Int) (me : MyPlayer) : MyPlayer :=
  let me :=
    match EquipSlot.ofEquipType equipType with
    | none => me
    | some equip => (me.setStorage storageSlot (me.equipped equip)).setEquipped .empty equip
  { me with attack, defence }

def applyUseItem (equipType remainCount newHp : Int) (me : MyPlayer) : MyPlayer :=
  let me :=
    match EquipSlot.ofEquipType equipType with
    | none => me
    | some equip =>
        if remainCount ≤ 0 then me.setEquipped .empty equip
        else me.setEquipped { me.equipped equip with count := remainCount } equip
  { me with hp := newHp }

/-- The inventory handlers of `ClientPacketHandler`. -/
def receive (me : MyPlayer) : ServerPacket → MyPlayer
  | .inventoryData items weapon armor potion => me.applyInventoryData items weapon armor potion
  | .addItem itemId slot count => me.applyAddItem slot itemId count
  | .equipItem equipType storageSlot storageItemId storageItemCount equipItemId equipItemCount
      attack defence =>
      me.applyEquipItem equipType storageSlot storageItemId storageItemCount equipItemId
        equipItemCount attack defence
  | .unequipItem equipType storageSlot attack defence =>
      me.applyUnequipItem equipType storageSlot attack defence
  | .useItem equipType remainCount newHp => me.applyUseItem equipType remainCount newHp
  | _ => me

structure Mirrors (me : MyPlayer) (p : Player) : Prop where
  storage : me.storage = p.storage
  equipped : ∀ equip, me.equipped equip = p.equipped equip

section

variable (me : MyPlayer) (slot : InventorySlot) (equip equip' : EquipSlot)

@[simp] theorem equipped_setEquipped :
    (me.setEquipped slot equip).equipped equip' =
      if equip' = equip then slot else me.equipped equip' := by
  cases equip <;> cases equip' <;> rfl

@[simp] theorem storage_setEquipped : (me.setEquipped slot equip).storage = me.storage := by
  cases equip <;> rfl

@[simp] theorem equipped_setStorage (index : Int) :
    (me.setStorage index slot).equipped equip = me.equipped equip := by
  unfold setStorage
  cases storageSlot index <;> cases equip <;> rfl

end

end MyPlayer

namespace Player

theorem storageSlot_val (i : Fin inventorySize) : storageSlot (i.val : Int) = some i := by
  have inside : (0 : Int) ≤ i.val ∧ (i.val : Int) < inventorySize := ⟨by omega, by omega⟩
  simp [storageSlot, inside]

theorem storageSlot_some (slot : Int) (i : Fin inventorySize) (found : storageSlot slot = some i) :
    slot = i.val := by
  simp only [storageSlot] at found
  split at found
  next inside =>
    cases found
    exact (Int.toNat_of_nonneg inside.1).symm
  next => cases found

theorem stack_itemId (storage : Storage) (itemId maxStack : Int) (i : Fin inventorySize)
    (stacked : (if 1 < maxStack then
      findSlot storage fun slot => slot.itemId = itemId ∧ slot.count < maxStack
      else none) = some i) : (storage i).itemId = itemId := by
  split at stacked
  · have fits := List.find?_some stacked
    rw [decide_eq_true_eq] at fits
    exact fits.1
  · cases stacked

section

variable (p : Player) (slot : InventorySlot) (equip equip' : EquipSlot) (i : Fin inventorySize)

@[simp] theorem equipped_setEquipped :
    (p.setEquipped slot equip).equipped equip' =
      if equip' = equip then slot else p.equipped equip' := by
  cases equip <;> cases equip' <;> rfl

@[simp] theorem storage_setEquipped : (p.setEquipped slot equip).storage = p.storage := by
  cases equip <;> rfl

@[simp] theorem equipped_setStorage : (p.setStorage i slot).equipped equip = p.equipped equip := by
  cases equip <;> rfl

@[simp] theorem storage_setStorage :
    (p.setStorage i slot).storage = Function.update p.storage i slot := rfl

theorem setEquipped_setStorage (slot' : InventorySlot) :
    (p.setStorage i slot').setEquipped slot equip =
      (p.setEquipped slot equip).setStorage i slot' := by
  cases equip <;> rfl

theorem recalcStats_eq (data : GameData) :
    ∃ attack defence,
      recalcStats data p = { p with info := { p.info with attack, defence } } := by
  unfold recalcStats
  cases data.levelData p.level with
  | none => exact ⟨p.info.attack, p.info.defence, rfl⟩
  | some row => exact ⟨_, _, rfl⟩

@[simp] theorem storage_recalcStats (data : GameData) :
    (recalcStats data p).storage = p.storage := by
  obtain ⟨attack, defence, same⟩ := p.recalcStats_eq data
  rw [same]

@[simp] theorem equipped_recalcStats (data : GameData) :
    (recalcStats data p).equipped equip = p.equipped equip := by
  obtain ⟨attack, defence, same⟩ := p.recalcStats_eq data
  rw [same]
  cases equip <;> rfl

@[simp] theorem level_recalcStats (data : GameData) : (recalcStats data p).level = p.level := by
  obtain ⟨attack, defence, same⟩ := p.recalcStats_eq data
  rw [same]

@[simp] theorem exp_recalcStats (data : GameData) : (recalcStats data p).exp = p.exp := by
  obtain ⟨attack, defence, same⟩ := p.recalcStats_eq data
  rw [same]

theorem info_recalcStats (data : GameData) :
    ∃ attack defence, (recalcStats data p).info = { p.info with attack, defence } := by
  obtain ⟨attack, defence, same⟩ := p.recalcStats_eq data
  exact ⟨attack, defence, by rw [same]⟩

end

@[simp] theorem ofEquipType_equipType (equip : EquipSlot) :
    EquipSlot.ofEquipType equip.equipType = some equip := by
  cases equip <;> rfl

/-- An item whose `UseItem` goes through. -/
def Usable (data : GameData) (slot : InventorySlot) : Prop :=
  slot.itemId ≠ 0 ∧
    ∃ tmpl, data.itemTemplate slot.itemId = some tmpl ∧ tmpl.type = .consumable

/-- The slot that `UseItem` leaves. -/
def spent (slot : InventorySlot) : InventorySlot :=
  if slot.count - 1 ≤ 0 then .empty else { slot with count := slot.count - 1 }

theorem spent_ne (data : GameData) (slot : InventorySlot) (usable : Usable data slot) :
    spent slot ≠ slot := by
  intro same
  unfold spent at same
  split at same
  · exact usable.1 (congrArg InventorySlot.itemId same).symm
  · have fewer := congrArg InventorySlot.count same
    simp at fewer

theorem useItem_of_usable (data : GameData) (slot : Int) (p : Player) (target : UseSlot)
    (chosen : UseSlot.ofInt slot = some target) (usable : Usable data (p.useSlot target)) :
    ∃ newHp,
      (∃ tmpl, data.itemTemplate (p.useSlot target).itemId = some tmpl ∧
        newHp = min (p.info.hp + tmpl.value) p.info.maxHp) ∧
      p.useItem data slot =
        (({ p with info := { p.info with hp := newHp } } : Player).setUseSlot
            (spent (p.useSlot target)) target,
          [.session (.useItem target.equipType (spent (p.useSlot target)).count newHp)]) := by
  obtain ⟨held, tmpl, template, consumable⟩ := usable
  refine ⟨min (p.info.hp + tmpl.value) p.info.maxHp, ⟨tmpl, template, rfl⟩, ?_⟩
  simp only [useItem, chosen, held, template, consumable, spent, if_false, not_true_eq_false,
    ne_eq]

theorem useItem_of_not_usable (data : GameData) (slot : Int) (p : Player)
    (unusable : ∀ target, UseSlot.ofInt slot = some target → ¬ Usable data (p.useSlot target)) :
    p.useItem data slot = (p, []) := by
  unfold useItem
  split
  · rfl
  next target chosen =>
    split
    · rfl
    next held =>
      split
      · rfl
      next tmpl template =>
        split
        · rfl
        next consumable =>
          exact absurd ⟨held, tmpl, template, not_not.mp consumable⟩ (unusable target chosen)

end Player

inductive InventoryCall where
  | addItem (itemId count : Int)
  | equipItem (slot : Int)
  | unequipItem (equipType : Int)
  | useItem (slot : Int)
  | sendInventoryData

def InventoryCall.perform (data : GameData) (p : Player) : InventoryCall → Player × List Emission
  | .addItem itemId count => (p.addItem data itemId count).2
  | .equipItem slot => p.equipItem data slot
  | .unequipItem equipType => p.unequipItem data equipType
  | .useItem slot => p.useItem data slot
  | .sendInventoryData => (p, p.sendInventoryData)

def Emission.toOwner : Emission → Option ServerPacket
  | .session pkt => some pkt
  | _ => none

def MyPlayer.deliver (me : MyPlayer) (emissions : List Emission) : MyPlayer :=
  (emissions.filterMap Emission.toOwner).foldl receive me

/-- A call on the server, with the packets it sends applied at the client. -/
def inventoryStep (data : GameData) (now : Player × MyPlayer) (call : InventoryCall) :
    Option (Player × MyPlayer) :=
  let done := call.perform data now.1
  some (done.1, now.2.deliver done.2)

namespace MyPlayer.Mirrors

variable {me : MyPlayer} {p : Player}

theorem setStorage (agreed : me.Mirrors p) (i : Fin inventorySize) (slot : InventorySlot) :
    (me.setStorage i.val slot).Mirrors (p.setStorage i slot) := by
  constructor
  · simp [MyPlayer.setStorage, Player.storageSlot_val, agreed.storage]
  · simpa using agreed.equipped

theorem setEquipped (agreed : me.Mirrors p) (slot : InventorySlot) (equip : EquipSlot) :
    (me.setEquipped slot equip).Mirrors (p.setEquipped slot equip) := by
  constructor
  · simpa using agreed.storage
  · intro equip'
    simp [agreed.equipped]

theorem recalcStats (agreed : me.Mirrors p) (data : GameData) :
    me.Mirrors (p.recalcStats data) := by
  constructor
  · simpa using agreed.storage
  · simpa using agreed.equipped

theorem setStats (agreed : me.Mirrors p) (attack defence : Int) :
    ({ me with attack, defence } : MyPlayer).Mirrors p := by
  constructor
  · exact agreed.storage
  · intro equip
    cases equip with
    | weapon => exact agreed.equipped .weapon
    | armor => exact agreed.equipped .armor
    | potion => exact agreed.equipped .potion

theorem setHp (agreed : me.Mirrors p) (mine : Int) (hp : Int) :
    ({ me with hp := mine } : MyPlayer).Mirrors { p with info := { p.info with hp } } := by
  constructor
  · exact agreed.storage
  · intro equip
    cases equip with
    | weapon => exact agreed.equipped .weapon
    | armor => exact agreed.equipped .armor
    | potion => exact agreed.equipped .potion

end MyPlayer.Mirrors

theorem MyPlayer.applyUseItem_potion (me : MyPlayer) (newHp : Int) :
    me.applyUseItem 2 (Player.spent me.equipPotion).count newHp =
      ({ me with hp := newHp } : MyPlayer).setEquipped (Player.spent me.equipPotion) .potion := by
  by_cases last : me.equipPotion.count - 1 ≤ 0
  · simp [applyUseItem, EquipSlot.ofEquipType, Player.spent, last, setEquipped,
      InventorySlot.empty]
  · simp [applyUseItem, EquipSlot.ofEquipType, Player.spent, last, setEquipped, equipped]

namespace InventoryCall

open Player (Usable)

variable (data : GameData) (p : Player) (me : MyPlayer) (agreed : me.Mirrors p)

include agreed

theorem addItem_mirrored (itemId count : Int) :
    (me.deliver (p.addItem data itemId count).2.2).Mirrors (p.addItem data itemId count).2.1 := by
  unfold Player.addItem
  cases data.itemTemplate itemId with
  | none => exact agreed
  | some tmpl =>
      dsimp only
      split
      next i stacked =>
        have same := Player.stack_itemId p.storage itemId tmpl.maxStack i stacked
        rw [← same]
        exact agreed.setStorage i _
      next =>
        split
        · exact agreed
        · exact agreed.setStorage _ _

theorem equipItem_mirrored (slot : Int) :
    (me.deliver (p.equipItem data slot).2).Mirrors (p.equipItem data slot).1 := by
  unfold Player.equipItem
  split
  · exact agreed
  next i found =>
    obtain rfl := Player.storageSlot_some slot i found
    split
    · exact agreed
    · split
      · exact agreed
      · split
        · exact agreed
        next equip _ =>
          -- the client writes the two slots in the other order
          dsimp only
          rw [← Player.setEquipped_setStorage]
          have swapped :=
            ((agreed.setStorage i (p.equipped equip)).setEquipped (p.storage i) equip).recalcStats
              data
          simpa [MyPlayer.deliver, Emission.toOwner, MyPlayer.receive, MyPlayer.applyEquipItem]
            using swapped.setStats _ _

theorem unequipItem_mirrored (equipType : Int) :
    (me.deliver (p.unequipItem data equipType).2).Mirrors (p.unequipItem data equipType).1 := by
  unfold Player.unequipItem
  cases found : EquipSlot.ofEquipType equipType with
  | none => exact agreed
  | some equip =>
      dsimp only
      split
      · exact agreed
      · split
        · exact agreed
        next i _ =>
          have moved :=
            ((agreed.setStorage i (p.equipped equip)).setEquipped .empty equip).recalcStats data
          simpa [MyPlayer.deliver, Emission.toOwner, MyPlayer.receive, MyPlayer.applyUnequipItem,
            found, agreed.equipped] using moved.setStats _ _

theorem useItem_potion_mirrored :
    (me.deliver (p.useItem data (-1)).2).Mirrors (p.useItem data (-1)).1 := by
  by_cases usable : Usable data p.equipPotion
  · obtain ⟨newHp, -, used⟩ := Player.useItem_of_usable data (-1) p .potion rfl usable
    have spent := (agreed.setHp newHp newHp).setEquipped (Player.spent p.equipPotion) .potion
    have same : me.equipPotion = p.equipPotion := agreed.equipped .potion
    rw [← same, ← MyPlayer.applyUseItem_potion, same] at spent
    rw [used]
    exact spent
  · rw [Player.useItem_of_not_usable data (-1) p]
    · exact agreed
    · rintro target ⟨⟩
      exact usable

theorem useItem_storage_mirrored (slot : Int) (i : Fin inventorySize)
    (inside : storageSlot slot = some i) :
    (me.deliver (p.useItem data slot).2).Mirrors (p.useItem data slot).1 ↔
      ¬ Usable data (p.storage i) := by
  have chosen : Player.UseSlot.ofInt slot = some (.storage i) := by
    have natural : slot ≠ -1 := by
      have := Player.storageSlot_some slot i inside
      omega
    simp [Player.UseSlot.ofInt, natural, inside]
  constructor
  · intro mirrored usable
    obtain ⟨newHp, -, used⟩ := Player.useItem_of_usable data slot p _ chosen usable
    rw [used] at mirrored
    have unseen := congrFun mirrored.storage i
    have kept : me.storage i = Player.spent (p.storage i) := by
      simpa [MyPlayer.deliver, Emission.toOwner, MyPlayer.receive, MyPlayer.applyUseItem,
        Player.UseSlot.equipType, EquipSlot.ofEquipType, Player.setUseSlot, Player.useSlot]
        using unseen
    rw [agreed.storage] at kept
    exact Player.spent_ne data _ usable kept.symm
  · intro unusable
    rw [Player.useItem_of_not_usable data slot p]
    · exact agreed
    · intro target chosen'
      rw [chosen] at chosen'
      cases chosen'
      exact unusable

end InventoryCall

theorem MyPlayer.foldl_setStorage (p : Player) (slots : List (Fin inventorySize)) (me : MyPlayer)
    (i : Fin inventorySize) :
    ((slots.filterMap fun i =>
        if (p.storage i).itemId = 0 then none else some (Player.itemInfo (p.storage i) i)).foldl
      (fun me item => me.setStorage item.slot ⟨item.itemId, item.count⟩) me).storage i =
      if i ∈ slots ∧ (p.storage i).itemId ≠ 0 then p.storage i else me.storage i := by
  induction slots generalizing me with
  | nil => simp
  | cons j slots ih =>
      by_cases listed : (p.storage j).itemId = 0
      · simp only [List.filterMap_cons, listed, if_true]
        rw [ih]
        by_cases same : i = j
        · subst same
          simp [listed]
        · simp [same]
      · simp only [List.filterMap_cons, listed, if_false, List.foldl_cons]
        rw [ih]
        by_cases same : i = j
        · subst same
          simp [listed, Player.itemInfo, MyPlayer.setStorage, Player.storageSlot_val]
        · simp [same, Player.itemInfo, MyPlayer.setStorage, Player.storageSlot_val]

theorem InventoryCall.sendInventoryData_mirrored (p : Player) (me : MyPlayer) :
    (me.deliver p.sendInventoryData).Mirrors p ↔
      ∀ i, (p.storage i).itemId = 0 → (p.storage i).count = 0 := by
  have slots : ∀ i, (me.deliver p.sendInventoryData).storage i =
      if (p.storage i).itemId ≠ 0 then p.storage i else .empty := by
    intro i
    have written := MyPlayer.foldl_setStorage p (List.finRange inventorySize)
      { me with storage := fun _ => .empty } i
    simp only [List.mem_finRange, true_and] at written
    exact written
  constructor
  · intro mirrored i empty
    have same := congrFun mirrored.storage i
    rw [slots i, if_neg (not_not.mpr empty)] at same
    rw [← same]
    rfl
  · intro cleared
    constructor
    · funext i
      rw [slots i]
      split
      · rfl
      next empty =>
        have unused := not_not.mp empty
        cases held : p.storage i with
        | mk itemId count =>
            have none_left := cleared i unused
            rw [held] at unused none_left
            simp only at unused none_left
            subst unused none_left
            rfl
    · intro equip
      cases equip <;> rfl

/-- What the client is told of a call: `UseItem` on a storage slot does not name the slot, and
`SendInventoryData` leaves out the count of a slot without an item. -/
def InventoryCall.Told (data : GameData) (p : Player) : InventoryCall → Prop
  | .useItem slot => ∀ i, storageSlot slot = some i → ¬ Player.Usable data (p.storage i)
  | .sendInventoryData => ∀ i, (p.storage i).itemId = 0 → (p.storage i).count = 0
  | _ => True

theorem InventoryCall.mirrored_iff (data : GameData) (p : Player) (me : MyPlayer)
    (agreed : me.Mirrors p) (call : InventoryCall) :
    (me.deliver (call.perform data p).2).Mirrors (call.perform data p).1 ↔
      call.Told data p := by
  cases call with
  | addItem itemId count =>
      exact iff_true_intro (addItem_mirrored data p me agreed itemId count)
  | equipItem slot => exact iff_true_intro (equipItem_mirrored data p me agreed slot)
  | unequipItem equipType =>
      exact iff_true_intro (unequipItem_mirrored data p me agreed equipType)
  | useItem slot =>
      cases inside : storageSlot slot with
      | some i =>
          simp only [Told, inside, Option.some.injEq, forall_eq']
          exact useItem_storage_mirrored data p me agreed slot i inside
      | none =>
          have told : (useItem slot).Told data p := by simp [Told, inside]
          refine iff_of_true ?_ told
          by_cases potion : slot = -1
          · rw [potion]
            exact useItem_potion_mirrored data p me agreed
          · have untouched := Player.useItem_of_not_usable data slot p
            simp only [Player.UseSlot.ofInt, potion, inside, if_false, Option.map_none,
              reduceCtorEq, false_implies, implies_true, forall_const] at untouched
            simp only [perform, untouched]
            exact agreed
  | sendInventoryData => exact sendInventoryData_mirrored p me

/-- The client's slots are the server's after every call exactly if each call of the sequence
is one that the client is told of. -/
theorem inventory_mirrored_iff (data : GameData) (p : Player) (me : MyPlayer)
    (calls : List InventoryCall) (agreed : me.Mirrors p) :
    Runs.EveryState (inventoryStep data) (fun now => now.2.Mirrors now.1) (p, me) calls ↔
      Runs.EachStep (inventoryStep data) (fun now call => call.Told data now.1) (p, me) calls := by
  apply Runs.everyState_iff (fun _ _ => True) _ (fun now => now.2.Mirrors now.1)
  · exact fun _ mirrored => mirrored
  · rintro now call next mirrored - stepped told
    cases stepped
    exact (call.mirrored_iff data now.1 now.2 mirrored).mpr told
  · rintro now call next mirrored - stepped kept
    cases stepped
    exact (call.mirrored_iff data now.1 now.2 mirrored).mp kept
  · exact agreed
  · exact Runs.eachStep_true _ _

/-- Item 3 is a potion of 30 hp, of which ten make a stack. -/
def potionGame : GameData where
  loaded := true
  roomConfig := fun _ => none
  spawnConfig := fun _ => none
  monsterTemplate := fun _ => none
  levelData := fun _ => none
  itemTemplate := fun itemId => if itemId = 3 then some ⟨.consumable, 30, 10⟩ else none
  monsterDrops := fun _ => none

def emptyHanded : MyPlayer := ⟨0, 0, 0, fun _ => .empty, .empty, .empty, .empty⟩

theorem emptyHanded_mirrors : emptyHanded.Mirrors (Player.create potionGame 1) := by
  constructor
  · rfl
  · intro equip
    cases equip <;> rfl

/-- The client keeps the potion that was drunk out of the storage. -/
theorem drunk_potion_stays :
    emptyHanded.Mirrors (Player.create potionGame 1) ∧
      ¬ Runs.EveryState (inventoryStep potionGame) (fun now => now.2.Mirrors now.1)
        (Player.create potionGame 1, emptyHanded) [.addItem 3 1, .useItem 0] := by
  refine ⟨emptyHanded_mirrors, fun every => ?_⟩
  have agreed := Runs.everyState_final _ _ _ _ every rfl
  have first := congrFun agreed.storage ⟨0, by decide⟩
  revert first
  decide

theorem inventory_mirrored_equipped :
    emptyHanded.Mirrors (Player.create potionGame 1) ∧
      (Runs.EveryState (inventoryStep potionGame) (fun now => now.2.Mirrors now.1)
          (Player.create potionGame 1, emptyHanded) [.addItem 3 2, .equipItem 0, .useItem (-1)] ↔
        Runs.EachStep (inventoryStep potionGame) (fun now call => call.Told potionGame now.1)
          (Player.create potionGame 1, emptyHanded)
          [.addItem 3 2, .equipItem 0, .useItem (-1)]) :=
  ⟨emptyHanded_mirrors, inventory_mirrored_iff _ _ _ _ emptyHanded_mirrors⟩

end ZeldaServer
