import ZeldaServer.Game.Inventory
import ZeldaServer.Lib.Loop
import ZeldaServer.Lib.Thresholds

/-! What `GainExp` gives a player: every point counts, and how the points are handed out does
not. -/

namespace ZeldaServer

variable (data : GameData)

/-- The row's `requiredExp`, 0 where the table has no row. -/
def GameData.required (level : Int) : Int :=
  match data.levelData level with
  | some row => row.requiredExp
  | none => 0

def GameData.Leveled : Prop :=
  ∀ level, 2 ≤ level → level ≤ Player.maxLevel →
    ∃ row, data.levelData level = some row ∧ 0 < row.requiredExp

namespace Player

/-- All the experience of a player: what its levels cost and what it has since. -/
def totalExp (p : Player) : Int := Thresholds.total data.required p.level p.exp

def Settled (p : Player) : Prop := Thresholds.Settled data.required p.level p.exp

structure Stats where
  hp : Int
  maxHp : Int
  attack : Int
  defence : Int
  deriving DecidableEq

def stats (p : Player) : Stats := ⟨p.info.hp, p.info.maxHp, p.info.attack, p.info.defence⟩

def rowStats (row : LevelData) (p : Player) : Stats :=
  ⟨row.maxHp, row.maxHp, row.attack + equipValue data p.equipWeapon,
    row.defence + equipValue data p.equipArmor⟩

/-- One pass of the loop of `GainExp`. -/
def gainExpBody (state : Player × List Emission) :
    WhileLoop.Pass (Player × List Emission) (Player × List Emission) :=
  let p := state.1
  if p.level < 30 then
    let requiredExp := maxExp data p.level
    if requiredExp ≤ 0 ∨ p.exp < requiredExp then .exit state
    else
      let up := processLevelUp data { p with exp := p.exp - requiredExp }
      .again (up.1, state.2 ++ up.2)
  else .exit state

@[simp] theorem level_processLevelUp (p : Player) :
    (processLevelUp data p).1.level = p.level + 1 := by
  unfold processLevelUp
  cases entry : data.levelData (p.level + 1) with
  | none => simp [entry, withExtra]
  | some row => simp [entry, withExtra, applyLevelStats]

theorem levelUps_run (passes : Nat) (p : Player) (sent : List Emission)
    (enough : maxLevel ≤ p.level + passes) :
    WhileLoop.run (gainExpBody data) (passes + 1) (p, sent) =
      some ((levelUps data passes p).1, sent ++ (levelUps data passes p).2) := by
  induction passes generalizing p sent with
  | zero =>
      have top : ¬ p.level < 30 := by
        simp only [maxLevel] at enough
        omega
      rw [WhileLoop.run_exit (gainExpBody data) 0 (p, sent) (p, sent) (by simp [gainExpBody, top])]
      simp [levelUps]
  | succ passes ih =>
      by_cases low : p.level < 30
      · by_cases short : maxExp data p.level ≤ 0 ∨ p.exp < maxExp data p.level
        · rw [WhileLoop.run_exit (gainExpBody data) _ (p, sent) (p, sent)
            (by simp [gainExpBody, low, short])]
          simp [levelUps, low, short]
        · rw [WhileLoop.run_again (gainExpBody data) _ (p, sent) _
            (by simp only [gainExpBody, low, short, if_true, if_false]; rfl)]
          rw [ih]
          · simp [levelUps, low, short]
          · rw [level_processLevelUp]
            push_cast at enough
            show maxLevel ≤ p.level + 1 + passes
            omega
      · have exit : gainExpBody data (p, sent) = .exit (p, sent) := by simp [gainExpBody, low]
        rw [WhileLoop.run_exit (gainExpBody data) _ (p, sent) (p, sent) exit]
        simp [levelUps, low]

theorem gainExp_terminates (p : Player) :
    WhileLoop.Leaves (gainExpBody data) (p, []) (levelUps data (maxLevel - p.level).toNat p) := by
  refine ⟨_, (levelUps_run data (maxLevel - p.level).toNat p [] (by omega)).trans ?_⟩
  simp

structure Trained (p q : Player) : Prop where
  weapon : q.equipWeapon = p.equipWeapon
  armor : q.equipArmor = p.equipArmor
  stats : q.level = p.level ∧ q.stats = p.stats ∨
    p.level < q.level ∧
      ∃ row, data.levelData q.level = some row ∧ q.stats = rowStats data row p

namespace Trained

variable {data} {p q r : Player}

theorem refl (p : Player) : Trained data p p := ⟨rfl, rfl, .inl ⟨rfl, rfl⟩⟩

theorem level_le (trained : Trained data p q) : p.level ≤ q.level := by
  rcases trained.stats with ⟨same, _⟩ | ⟨less, _⟩
  · exact same.ge
  · exact less.le

theorem rowStats_eq (trained : Trained data p q) (row : LevelData) :
    rowStats data row q = rowStats data row p := by
  simp only [rowStats, trained.weapon, trained.armor]

theorem trans (first : Trained data p q) (second : Trained data q r) : Trained data p r := by
  refine ⟨second.weapon.trans first.weapon, second.armor.trans first.armor, ?_⟩
  rcases second.stats with ⟨same, stats⟩ | ⟨less, row, entry, stats⟩
  · rw [same, stats]
    exact first.stats
  · rw [first.rowStats_eq row] at stats
    exact .inr ⟨lt_of_le_of_lt first.level_le less, row, entry, stats⟩

theorem stats_unique (one : Trained data p q) (two : Trained data p r) (same : q.level = r.level) :
    q.stats = r.stats := by
  rcases one.stats with ⟨level, stats⟩ | ⟨less, row, entry, stats⟩
  · rcases two.stats with ⟨_, stats'⟩ | ⟨less', _⟩
    · exact stats.trans stats'.symm
    · omega
  · rcases two.stats with ⟨level', _⟩ | ⟨_, row', entry', stats'⟩
    · omega
    · rw [same, entry'] at entry
      cases entry
      exact stats.trans stats'.symm

end Trained

theorem trained_setExp (p : Player) (exp : Int) : Trained data p { p with exp } :=
  ⟨rfl, rfl, .inl ⟨rfl, rfl⟩⟩

theorem processLevelUp_trained (p : Player) (row : LevelData)
    (entry : data.levelData (p.level + 1) = some row) :
    Trained data p (processLevelUp data p).1 := by
  have raised : (processLevelUp data p).1 =
      withExtra data
        { p with
          level := p.level + 1
          info :=
            { p.info with
              hp := row.maxHp
              maxHp := row.maxHp
              attack := row.attack + equipValue data p.equipWeapon
              defence := row.defence + equipValue data p.equipArmor } } := by
    simp only [processLevelUp, entry, applyLevelStats, recalcStats]
  rw [raised]
  exact ⟨rfl, rfl, .inr ⟨show p.level < p.level + 1 by omega, row, entry, rfl⟩⟩

@[simp] theorem exp_processLevelUp (p : Player) : (processLevelUp data p).1.exp = p.exp := by
  unfold processLevelUp
  cases entry : data.levelData (p.level + 1) with
  | none => simp [entry, withExtra]
  | some row => simp [entry, withExtra, applyLevelStats]

theorem row_of_cost (level : Int) (costs : 0 < maxExp data level) :
    ∃ row, data.levelData (level + 1) = some row := by
  unfold maxExp at costs
  cases entry : data.levelData (level + 1) with
  | none => simp [entry] at costs
  | some row => exact ⟨row, rfl⟩

theorem levelUps_trained (passes : Nat) (p : Player) :
    Trained data p (levelUps data passes p).1 := by
  induction passes generalizing p with
  | zero => exact .refl p
  | succ passes ih =>
      unfold levelUps
      split
      · dsimp only
        split
        · exact .refl p
        next reached =>
          obtain ⟨row, entry⟩ := row_of_cost data p.level (by omega)
          have up := processLevelUp_trained data { p with exp := p.exp - maxExp data p.level } row
            entry
          exact ((trained_setExp data p _).trans up).trans (ih _)
      · exact .refl p

theorem gainExp_trained (amount : Int) (p : Player) : Trained data p (p.gainExp data amount).1 := by
  unfold gainExp
  split
  · exact .refl p
  · split
    · exact .refl p
    · have ups := (trained_setExp data p (p.exp + amount)).trans
        (levelUps_trained data (maxLevel - p.level).toNat { p with exp := p.exp + amount })
      exact ⟨ups.weapon, ups.armor, ups.stats⟩

structure Rising (p : Player) : Prop where
  low : 1 ≤ p.level
  top : p.level ≤ maxLevel
  exp : 0 ≤ p.exp

structure LeveledUp (p q : Player) : Prop extends Rising q where
  total : q.totalExp data = p.totalExp data
  settled : q.level = maxLevel ∨ q.Settled data

theorem required_pos (table : data.Leveled) (level : Int) (low : 2 ≤ level)
    (high : level ≤ maxLevel) : 0 < data.required level := by
  obtain ⟨row, entry, positive⟩ := table level low high
  simpa only [GameData.required, entry] using positive

theorem levelUps_leveledUp (table : data.Leveled) (passes : Nat) (p : Player) (rising : p.Rising)
    (enough : maxLevel ≤ p.level + passes) : p.LeveledUp data (levelUps data passes p).1 := by
  induction passes generalizing p with
  | zero =>
      have top : maxLevel ≤ p.level := by simpa using enough
      exact ⟨rising, rfl, .inl (le_antisymm rising.top top)⟩
  | succ passes ih =>
      unfold levelUps
      split
      next below =>
        have costs : 0 < maxExp data p.level :=
          required_pos data table (p.level + 1) (by have := rising.low; omega)
            (show p.level + 1 ≤ 30 by omega)
        dsimp only
        split
        next stays =>
          refine ⟨rising, rfl, .inr ⟨rising.exp, ?_⟩⟩
          show p.exp < maxExp data p.level
          omega
        next reached =>
          have later := ih (processLevelUp data { p with exp := p.exp - maxExp data p.level }).1
            ⟨by rw [level_processLevelUp]; have := rising.low; show 1 ≤ p.level + 1; omega,
              by rw [level_processLevelUp]; show p.level + 1 ≤ 30; omega,
              by rw [exp_processLevelUp]; show 0 ≤ p.exp - maxExp data p.level; omega⟩
            (by
              rw [level_processLevelUp]
              show maxLevel ≤ p.level + 1 + passes
              push_cast at enough
              omega)
          refine ⟨later.toRising, later.total.trans ?_, later.settled⟩
          unfold totalExp
          rw [level_processLevelUp, exp_processLevelUp]
          exact Thresholds.total_succ data.required p.level p.exp rising.low
      next top =>
        have := rising.top
        exact ⟨rising, rfl, .inl (by simp only [maxLevel] at *; omega)⟩

theorem gainExp_leveledUp (table : data.Leveled) (p : Player) (low : 1 ≤ p.level)
    (below : p.level < maxLevel) (exp : 0 ≤ p.exp) (amount : Int) (positive : 0 < amount) :
    ({ p with exp := p.exp + amount } : Player).LeveledUp data (p.gainExp data amount).1 := by
  have start : ({ p with exp := p.exp + amount } : Player).Rising :=
    ⟨low, below.le, show 0 ≤ p.exp + amount by omega⟩
  have ups := levelUps_leveledUp data table (maxLevel - p.level).toNat _ start
    (show maxLevel ≤ p.level + _ by omega)
  unfold gainExp
  rw [if_neg (by omega), if_neg (by omega)]
  exact ⟨⟨ups.low, ups.top, ups.exp⟩, ups.total, ups.settled⟩

theorem below_of_total_le (table : data.Leveled) (q r : Player) (rising : q.Rising)
    (settled : q.Settled data) (rising' : r.Rising) (below : q.level < maxLevel)
    (le : r.totalExp data ≤ q.totalExp data) : r.level < maxLevel := by
  by_contra top
  have less : q.totalExp data < Thresholds.spent data.required maxLevel :=
    Thresholds.total_lt data.required maxLevel (required_pos data table) q.level maxLevel q.exp
      rising.low below (Int.le_refl _) settled
  have same : r.level = maxLevel := le_antisymm rising'.top (not_lt.mp top)
  have exp := rising'.exp
  unfold totalExp Thresholds.total at le less
  rw [same] at le
  omega

namespace LeveledUp

variable {data} {p q r : Player}

theorem below (table : data.Leveled) (one : p.LeveledUp data q) (two : p.LeveledUp data r)
    (below : q.level < maxLevel) : r.level < maxLevel :=
  below_of_total_le data table q r one.toRising (one.settled.resolve_left below.ne) two.toRising
    below (two.total.trans one.total.symm).le

theorem unique (table : data.Leveled) (one : p.LeveledUp data q) (two : p.LeveledUp data r)
    (below : q.level < maxLevel) : q.level = r.level ∧ q.exp = r.exp :=
  Thresholds.settled_unique data.required maxLevel (required_pos data table)
    q.level r.level q.exp r.exp one.low two.low one.top two.top
    (one.settled.resolve_left below.ne)
    (two.settled.resolve_left (one.below table two below).ne) (one.total.trans two.total.symm)

theorem add (first : p.LeveledUp data q) (amount : Int)
    (second : ({ q with exp := q.exp + amount } : Player).LeveledUp data r) :
    ({ p with exp := p.exp + amount } : Player).LeveledUp data r := by
  refine ⟨second.toRising, ?_, second.settled⟩
  have one := first.total
  have two := second.total
  simp only [totalExp, Thresholds.total] at *
  omega

end LeveledUp

theorem gainExp_batched (table : data.Leveled) (p : Player) (low : 1 ≤ p.level)
    (under : p.level < maxLevel) (exp : 0 ≤ p.exp) (a b : Int) (some_a : 0 < a) (some_b : 0 < b)
    (short : (p.gainExp data (a + b)).1.level < maxLevel ∨
      ((p.gainExp data a).1.gainExp data b).1.level < maxLevel) :
    let once := (p.gainExp data (a + b)).1
    let twice := ((p.gainExp data a).1.gainExp data b).1
    once.level = twice.level ∧ once.exp = twice.exp ∧ once.stats = twice.stats := by
  dsimp only
  have one := gainExp_leveledUp data table p low under exp (a + b) (by omega)
  have first := gainExp_leveledUp data table p low under exp a some_a
  have sum : p.exp + a + b = p.exp + (a + b) := Int.add_assoc _ _ _
  have mid : (p.gainExp data a).1.level < maxLevel := by
    by_contra top
    have idle : ((p.gainExp data a).1.gainExp data b).1 = (p.gainExp data a).1 := by
      rw [gainExp, if_neg (by omega), if_pos (not_lt.mp top)]
    rw [idle] at short
    have once := short.resolve_right top
    apply top
    apply below_of_total_le data table _ _ one.toRising (one.settled.resolve_left once.ne)
      first.toRising once
    rw [one.total, first.total]
    simp only [totalExp, Thresholds.total]
    omega
  have second := gainExp_leveledUp data table _ first.low mid first.exp b some_b
  have two := first.add b second
  simp only [sum] at two
  have below : (p.gainExp data (a + b)).1.level < maxLevel := by
    rcases short with once | twice
    · exact once
    · exact two.below table one twice
  obtain ⟨level, exp⟩ := one.unique table two below
  exact ⟨level, exp, (gainExp_trained data (a + b) p).stats_unique
    ((gainExp_trained data a p).trans (gainExp_trained data b _)) level⟩

/-- The accounts of a grant: the loop leaves, every point counts, what is left does not reach the
next level, and only a level gained heals. -/
theorem gainExp_accounts (table : data.Leveled) (p : Player) (low : 1 ≤ p.level)
    (under : p.level < maxLevel) (settled : p.Settled data) :
    (∀ amount, 0 < amount →
      let start : Player := { p with exp := p.exp + amount }
      let after := (p.gainExp data amount).1
      WhileLoop.Leaves (gainExpBody data) (start, [])
          (levelUps data (maxLevel - p.level).toNat start) ∧
        after.totalExp data = p.totalExp data + amount ∧
        (after.level = maxLevel ∨ after.Settled data) ∧
        p.level ≤ after.level ∧
        (p.level < after.level →
          ∃ row, data.levelData after.level = some row ∧ after.info.hp = row.maxHp) ∧
        (after.level = p.level → after.info.hp = p.info.hp)) ∧
    ∀ a b, 0 < a → 0 < b →
      let once := (p.gainExp data (a + b)).1
      let twice := ((p.gainExp data a).1.gainExp data b).1
      once.level < maxLevel ∨ twice.level < maxLevel →
        once.level = twice.level ∧ once.exp = twice.exp ∧
          once.info.attack = twice.info.attack ∧ once.info.defence = twice.info.defence ∧
          once.info.maxHp = twice.info.maxHp ∧ once.info.hp = twice.info.hp := by
  constructor
  · intro amount positive
    have up := gainExp_leveledUp data table p low under settled.1 amount positive
    have trained := gainExp_trained data amount p
    refine ⟨gainExp_terminates data _, ?_, up.settled, trained.level_le, ?_, ?_⟩
    · rw [up.total]
      simp only [totalExp, Thresholds.total]
      omega
    · intro gained
      rcases trained.stats with ⟨same, _⟩ | ⟨_, row, entry, stats⟩
      · exact absurd same gained.ne'
      · exact ⟨row, entry, congrArg Stats.hp stats⟩
    · intro same
      rcases trained.stats with ⟨_, stats⟩ | ⟨gained, _⟩
      · exact congrArg Stats.hp stats
      · exact absurd same gained.ne'
  · intro a b some_a some_b once twice short
    obtain ⟨level, exp, stats⟩ :=
      gainExp_batched data table p low under settled.1 a b some_a some_b short
    exact ⟨level, exp, congrArg Stats.attack stats, congrArg Stats.defence stats,
      congrArg Stats.maxHp stats, congrArg Stats.hp stats⟩

end Player

/-- Every level costs ten points and gives ten hit points. -/
def steepGame : GameData :=
  { potionGame with
    levelData := fun level =>
      if 1 ≤ level ∧ level ≤ 30 then some ⟨10, 10 * level, 20 + level, 5⟩ else none }

theorem steepGame_leveled : steepGame.Leveled := by
  intro level low high
  refine ⟨⟨10, 10 * level, 20 + level, 5⟩, ?_, show (0 : Int) < 10 by decide⟩
  exact if_pos ⟨by omega, high⟩

theorem steep_accounts :
    ((Player.create steepGame 1).gainExp steepGame 34).1.level = 4 ∧
      ((Player.create steepGame 1).gainExp steepGame 34).1.totalExp steepGame =
        (Player.create steepGame 1).totalExp steepGame + 34 ∧
      (((Player.create steepGame 1).gainExp steepGame 13).1.gainExp steepGame 21).1.level = 4 := by
  have accounts := Player.gainExp_accounts steepGame steepGame_leveled (Player.create steepGame 1)
    (by decide) (by decide) ⟨by decide, by decide⟩
  have level : ((Player.create steepGame 1).gainExp steepGame (13 + 21)).1.level = 4 := by decide
  have batched := accounts.2 13 21 (by decide) (by decide) (.inl (by rw [level]; decide))
  exact ⟨level, (accounts.1 34 (by decide)).2.1, batched.1.symm.trans level⟩

end ZeldaServer
