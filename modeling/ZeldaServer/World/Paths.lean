import Mathlib.Data.Finset.Card
import Mathlib.Data.Int.Interval
import Mathlib.Data.Prod.Lex
import Mathlib.Data.Set.Finite.Lemmas
import ZeldaServer.Lib.Search
import ZeldaServer.World.System

/-! What `FindPath` finds: a way to `dest`, or to the cell nearest to it among those that can be
reached, where the distances are compared as floats. -/

namespace ZeldaServer

/-- What the library promises of `top` and `pop`. -/
structure Pops (pop : Pop) : Prop where
  empty : ∀ pq, pop pq = none → pq = []
  least : ∀ pq node rest, pop pq = some (node, rest) →
    pq.Perm (node :: rest) ∧ ∀ other ∈ rest, node.cost ≤ other.cost

def Move (free : Vec2Int → Bool) (src : Vec2Int) (maxDepth : Int) (a b : Vec2Int) : Prop :=
  (b - a).manhattan = 1 ∧ free b ∧ ((src - b).manhattan : Int) < maxDepth

def Reachable (free : Vec2Int → Bool) (src : Vec2Int) (maxDepth : Int) : Vec2Int → Prop :=
  Relation.ReflTransGen (Move free src maxDepth) src

/-- The order of the cells that are equally near to `dest`. -/
def place (src cell : Vec2Int) : ℕ ×ₗ ℤ ×ₗ ℤ :=
  toLex ((cell - src).manhattan, toLex (cell.x, cell.y))

def rank (score : Nat → Nat) (src dest cell : Vec2Int) : ℕ ×ₗ ℕ ×ₗ ℤ ×ₗ ℤ :=
  toLex (score (dest - cell).manhattan, place src cell)

def Nearest (score : Nat → Nat) (free : Vec2Int → Bool) (src dest : Vec2Int) (maxDepth : Int)
    (cell : Vec2Int) : Prop :=
  Reachable free src maxDepth cell ∧
    ∀ other, Reachable free src maxDepth other →
      rank score src dest cell ≤ rank score src dest other

structure PathFound (score : Nat → Nat) (free : Vec2Int → Bool) (src dest : Vec2Int)
    (maxDepth : Int) (path : List Vec2Int) : Prop where
  starts : path.head? = some src
  distinct : path.Nodup
  moves : path.IsChain (Move free src maxDepth)
  ends : ∃ last, path.getLast? = some last ∧
    (Reachable free src maxDepth dest → last = dest) ∧
    (¬Reachable free src maxDepth dest → Nearest score free src dest maxDepth last)

/-- What `FindPath` is to return, and to do with its out parameter. -/
def FindsPath (score : Nat → Nat) (free : Vec2Int → Bool) (src dest : Vec2Int) (maxDepth : Int)
    (path : List Vec2Int) (answer : Option (Bool × List Vec2Int)) : Prop :=
  if maxDepth ≤ (src - dest).manhattan then answer = some (false, path)
  else ∃ found, answer = some (true, found) ∧ PathFound score free src dest maxDepth found

/-- No cell that can be reached and whose distance to `dest` is another number, but the same
float as the least distance, comes before the cell at that distance. -/
def Discerned (free : Vec2Int → Bool) (src dest : Vec2Int) (maxDepth : Int) : Prop :=
  ∀ nearest cell, Nearest id free src dest maxDepth nearest → Reachable free src maxDepth cell →
    toFloat (dest - cell).manhattan = toFloat (dest - nearest).manhattan →
    place src nearest ≤ place src cell

theorem manhattan_comm (a b : Vec2Int) : (a - b).manhattan = (b - a).manhattan := by
  simp only [Vec2Int.manhattan, Vec2Int.sub_x, Vec2Int.sub_y]
  omega

theorem manhattan_zero {a b : Vec2Int} (zero : (a - b).manhattan = 0) : a = b := by
  cases a
  cases b
  simp only [Vec2Int.manhattan, Vec2Int.sub_x, Vec2Int.sub_y] at zero
  simp only [Vec2Int.mk.injEq]
  omega

theorem front_neighbours (a b : Vec2Int) :
    (b - a).manhattan = 1 ↔ ∃ step ∈ front, b = a + step := by
  constructor
  · intro near
    refine ⟨b - a, ?_, ?_⟩
    · cases a with | mk ax ay =>
      cases b with | mk bx bby =>
      have cases_ : bx - ax = 0 ∧ bby - ay = -1 ∨ bx - ax = 0 ∧ bby - ay = 1 ∨
          bx - ax = -1 ∧ bby - ay = 0 ∨ bx - ax = 1 ∧ bby - ay = 0 := by
        simp only [Vec2Int.manhattan, Vec2Int.sub_x, Vec2Int.sub_y] at near
        omega
      have shown : (⟨bx, bby⟩ - ⟨ax, ay⟩ : Vec2Int) = ⟨bx - ax, bby - ay⟩ := rfl
      rw [shown]
      rcases cases_ with ⟨x, y⟩ | ⟨x, y⟩ | ⟨x, y⟩ | ⟨x, y⟩ <;> simp [x, y, front]
    · cases a
      cases b
      show _ = (⟨_, _⟩ : Vec2Int)
      simp
  · rintro ⟨step, member, rfl⟩
    have shown : (a + step - a).manhattan = step.manhattan := by
      simp [Vec2Int.manhattan]
    rw [shown]
    exact (by decide : ∀ step ∈ front, step.manhattan = 1) step member

theorem ball_length (src : Vec2Int) (depth : Int) (cells : List Vec2Int) (distinct : cells.Nodup)
    (near : ∀ c ∈ cells, ((src - c).manhattan : Int) < depth) :
    cells.length ≤ (2 * depth.toNat) * (2 * depth.toNat) := by
  let square := Finset.Ico (src.x - depth) (src.x + depth) ×ˢ
    Finset.Ico (src.y - depth) (src.y + depth)
  have size : square.card = (2 * depth.toNat) * (2 * depth.toNat) := by
    rw [Finset.card_product, Int.card_Ico, Int.card_Ico]
    congr 1 <;> omega
  rw [← List.toFinset_card_of_nodup distinct, ← size]
  apply Finset.card_le_card_of_injOn fun c => (c.x, c.y)
  · intro c member
    have bound := near c (List.mem_toFinset.mp member)
    simp only [Vec2Int.manhattan, Vec2Int.sub_x, Vec2Int.sub_y] at bound
    simp only [square, Finset.coe_product, Finset.coe_Ico, Set.mem_prod, Set.mem_Ico]
    omega
  · intro c _ d _ same
    obtain ⟨x, y⟩ := Prod.mk.inj same
    cases c
    cases d
    cases x
    cases y
    rfl

namespace CellMap

variable {α : Type}

def Sorted (m : CellMap α) : Prop := m.Pairwise fun a b => a.1.before b.1

theorem before_irrefl (a : Vec2Int) : a.before a = false := by
  simp [Vec2Int.before]

theorem before_trans {a b c : Vec2Int} (first : a.before b) (second : b.before c) :
    a.before c := by
  unfold Vec2Int.before at *
  split at first <;> split at second <;> split <;> simp_all <;> omega

theorem before_total {a b : Vec2Int} (ne : a ≠ b) (not : ¬a.before b) : b.before a := by
  cases a with | mk ax ay =>
  cases b with | mk bx by_ =>
  simp only [ne_eq, Vec2Int.mk.injEq, not_and] at ne
  unfold Vec2Int.before at *
  split at not <;> split <;> simp_all <;> omega

theorem get_cons (key : Vec2Int) (old : α) (rest : CellMap α) (p : Vec2Int) :
    get ((key, old) :: rest) p = if p = key then some old else get rest p := by
  by_cases same : p = key
  · simp [get, same]
  · simp [get, same, Ne.symm same]

theorem get_set (m : CellMap α) (pos p : Vec2Int) (value : α) :
    (m.set pos value).get p = if p = pos then some value else m.get p := by
  induction m with
  | nil => exact get_cons pos value [] p
  | cons item rest ih =>
      obtain ⟨key, old⟩ := item
      unfold set
      split
      case isTrue same =>
        subst same
        rw [get_cons, get_cons]
        split <;> rfl
      case isFalse other =>
        split
        · rw [get_cons]
        · rw [get_cons, get_cons, ih]
          by_cases here : p = key
          · rw [if_pos here, if_pos here, if_neg (here ▸ other)]
          · rw [if_neg here, if_neg here]

theorem mem_set (m : CellMap α) (pos : Vec2Int) (value : α) (item : Vec2Int × α)
    (member : item ∈ m.set pos value) : item.1 = pos ∨ item ∈ m := by
  induction m with
  | nil =>
      rw [List.mem_singleton.mp member]
      exact .inl rfl
  | cons first rest ih =>
      obtain ⟨key, old⟩ := first
      unfold set at member
      split at member
      · rcases List.mem_cons.mp member with rfl | later
        · exact .inl rfl
        · exact .inr (List.mem_cons_of_mem _ later)
      · split at member
        · rcases List.mem_cons.mp member with rfl | later
          · exact .inl rfl
          · exact .inr later
        · rcases List.mem_cons.mp member with rfl | later
          · exact .inr List.mem_cons_self
          · exact (ih later).imp id (List.mem_cons_of_mem _)

theorem Sorted.set {m : CellMap α} (sorted : m.Sorted) (pos : Vec2Int) (value : α) :
    (m.set pos value).Sorted := by
  induction m with
  | nil => exact List.pairwise_singleton _ _
  | cons item rest ih =>
      obtain ⟨key, old⟩ := item
      obtain ⟨below, sorted⟩ := List.pairwise_cons.mp sorted
      unfold CellMap.set
      split
      case isTrue same =>
        subst same
        exact List.pairwise_cons.mpr ⟨below, sorted⟩
      case isFalse other =>
        split
        case isTrue before =>
          refine List.pairwise_cons.mpr ⟨?_, List.pairwise_cons.mpr ⟨below, sorted⟩⟩
          intro later member
          rcases List.mem_cons.mp member with rfl | member
          · exact before
          · exact before_trans before (below later member)
        case isFalse after =>
          refine List.pairwise_cons.mpr ⟨?_, ih sorted⟩
          intro later member
          rcases mem_set rest pos value later member with same | member
          · rw [same]
            exact before_total (Ne.symm other) after
          · exact below later member

theorem get_of_mem {m : CellMap α} (sorted : m.Sorted) {item : Vec2Int × α} (member : item ∈ m) :
    m.get item.1 = some item.2 := by
  induction m with
  | nil => cases member
  | cons first rest ih =>
      obtain ⟨key, old⟩ := first
      obtain ⟨below, sorted⟩ := List.pairwise_cons.mp sorted
      rw [get_cons]
      rcases List.mem_cons.mp member with rfl | later
      · rw [if_pos rfl]
      · rw [if_neg, ih sorted later]
        intro same
        have before := below item later
        rw [same, before_irrefl] at before
        cases before

theorem mem_of_get {m : CellMap α} {p : Vec2Int} {value : α} (found : m.get p = some value) :
    (p, value) ∈ m := by
  obtain ⟨item, first, rfl⟩ := Option.map_eq_some_iff.mp found
  have same := List.find?_some first
  rw [← of_decide_eq_true same]
  exact List.mem_of_find?_eq_some first

end CellMap

variable {free : Vec2Int → Bool} {src dest : Vec2Int} {maxDepth : Int}

theorem place_injective {a b : Vec2Int} (same : place src a = place src b) : a = b := by
  obtain ⟨-, cells⟩ := Prod.mk.inj (toLex_inj.mp same)
  obtain ⟨x, y⟩ := Prod.mk.inj (toLex_inj.mp cells)
  cases a
  cases b
  cases x
  cases y
  rfl

theorem rank_le {score : Nat → Nat} {a b : Vec2Int} :
    rank score src dest a ≤ rank score src dest b ↔
      score (dest - a).manhattan < score (dest - b).manhattan ∨
        score (dest - a).manhattan = score (dest - b).manhattan ∧ place src a ≤ place src b :=
  Prod.Lex.toLex_le_toLex

theorem place_le {a b : Vec2Int} :
    place src a ≤ place src b ↔ (a - src).manhattan < (b - src).manhattan ∨
      (a - src).manhattan = (b - src).manhattan ∧ (a = b ∨ a.before b) := by
  unfold place
  rw [Prod.Lex.toLex_le_toLex, Prod.Lex.toLex_le_toLex]
  have cells : (a.x < b.x ∨ a.x = b.x ∧ a.y ≤ b.y) ↔ (a = b ∨ a.before b) := by
    cases a
    cases b
    simp only [Vec2Int.before, Vec2Int.mk.injEq]
    split <;> simp <;> omega
  exact or_congr_right (and_congr_right fun _ => cells)

theorem Nearest.unique {score : Nat → Nat} {a b : Vec2Int}
    (first : Nearest score free src dest maxDepth a)
    (second : Nearest score free src dest maxDepth b) : a = b := by
  have same := le_antisymm (first.2 b second.1) (second.2 a first.1)
  exact place_injective (Prod.mk.inj (toLex_inj.mp same)).2

theorem keepNearest_rank (src : Vec2Int) (kept : Vec2Int) (item : Vec2Int × Nat)
    (score : item.2 = (dest - item.1).manhattan) (after : kept.before item.1) :
    ∃ best, keepNearest src (kept, some (toFloat (dest - kept).manhattan)) item =
        (best, some (toFloat (dest - best).manhattan)) ∧ (best = kept ∨ best = item.1) ∧
      rank toFloat src dest best ≤ rank toFloat src dest kept ∧
      rank toFloat src dest best ≤ rank toFloat src dest item.1 := by
  simp only [keepNearest, score]
  split
  case isTrue same =>
    split
    case isTrue nearer =>
      refine ⟨item.1, by rw [same], .inr rfl, ?_, le_refl _⟩
      exact rank_le.mpr (.inr ⟨same.symm, place_le.mpr (.inl nearer)⟩)
    case isFalse farther =>
      refine ⟨kept, rfl, .inl rfl, le_refl _, rank_le.mpr (.inr ⟨same, place_le.mpr ?_⟩)⟩
      rcases Nat.lt_or_eq_of_le (Nat.le_of_not_lt farther) with less | equal
      · exact .inl less
      · exact .inr ⟨equal, .inr after⟩
  case isFalse other =>
    split
    case isTrue less => exact ⟨item.1, rfl, .inr rfl, rank_le.mpr (.inl less), le_refl _⟩
    case isFalse more =>
      refine ⟨kept, rfl, .inl rfl, le_refl _, rank_le.mpr (.inl ?_)⟩
      omega

theorem keepNearest_fold (src : Vec2Int) (rest : CellMap Nat) (kept : Vec2Int)
    (sorted : rest.Sorted)
    (scores : ∀ item ∈ rest, item.2 = (dest - item.1).manhattan)
    (after : ∀ item ∈ rest, kept.before item.1) :
    ∃ best, (rest.foldl (keepNearest src) (kept, some (toFloat (dest - kept).manhattan))).1 = best ∧
      (best = kept ∨ ∃ item ∈ rest, best = item.1) ∧
      rank toFloat src dest best ≤ rank toFloat src dest kept ∧
      ∀ item ∈ rest, rank toFloat src dest best ≤ rank toFloat src dest item.1 := by
  induction rest generalizing kept with
  | nil => exact ⟨kept, rfl, .inl rfl, le_refl _, fun _ member => nomatch member⟩
  | cons item rest ih =>
      obtain ⟨below, sorted⟩ := List.pairwise_cons.mp sorted
      obtain ⟨now, passed, choice, le_kept, le_item⟩ := keepNearest_rank src kept item
        (scores item List.mem_cons_self) (after item List.mem_cons_self)
      have later : ∀ other ∈ rest, now.before other.1 := by
        intro other member
        rcases choice with rfl | rfl
        · exact after other (List.mem_cons_of_mem _ member)
        · exact below other member
      obtain ⟨best, folded, found, le_now, le_rest⟩ :=
        ih now sorted (fun other member => scores other (List.mem_cons_of_mem _ member)) later
      refine ⟨best, ?_, ?_, le_now.trans le_kept, ?_⟩
      · rw [List.foldl_cons, passed, folded]
      · rcases found with rfl | ⟨other, member, same⟩
        · rcases choice with rfl | rfl
          · exact .inl rfl
          · exact .inr ⟨item, List.mem_cons_self, rfl⟩
        · exact .inr ⟨other, List.mem_cons_of_mem _ member, same⟩
      · intro other member
        rcases List.mem_cons.mp member with rfl | member
        · exact le_now.trans le_item
        · exact le_rest other member

theorem nearestReached_rank (src : Vec2Int) (best : CellMap Nat) (sorted : best.Sorted)
    (some_ : best ≠ [])
    (scores : ∀ item ∈ best, item.2 = (dest - item.1).manhattan) :
    (∃ item ∈ best, nearestReached src dest best = item.1) ∧
      ∀ item ∈ best,
        rank toFloat src dest (nearestReached src dest best) ≤ rank toFloat src dest item.1 := by
  cases best with
  | nil => exact absurd rfl some_
  | cons item rest =>
      obtain ⟨below, sorted⟩ := List.pairwise_cons.mp sorted
      obtain ⟨cell, folded, found, le_item, le_rest⟩ := keepNearest_fold src rest item.1
        sorted (fun other member => scores other (List.mem_cons_of_mem _ member)) below
      have first : keepNearest src (dest, none) item =
          (item.1, some (toFloat (dest - item.1).manhattan)) := by
        simp only [keepNearest, scores item List.mem_cons_self]
      have same : nearestReached src dest (item :: rest) = cell := by
        unfold nearestReached
        rw [List.foldl_cons, first, folded]
      rw [same]
      constructor
      · rcases found with rfl | ⟨other, member, same⟩
        · exact ⟨item, List.mem_cons_self, rfl⟩
        · exact ⟨other, List.mem_cons_of_mem _ member, same⟩
      · intro other member
        rcases List.mem_cons.mp member with rfl | member
        · exact le_item
        · exact le_rest other member

theorem tracePath_trail (parent : CellMap Vec2Int) (cells : List Vec2Int) (pos : Vec2Int)
    (trail : GraphSearch.Trail parent.get src cells pos) (fuel : Nat)
    (enough : cells.length ≤ fuel) : tracePath parent fuel pos = some cells := by
  induction trail generalizing fuel with
  | source root =>
      obtain ⟨rest, rfl⟩ : ∃ rest, fuel = rest + 1 := ⟨fuel - 1, by simp at enough; omega⟩
      simp [tracePath, root]
  | next cells before after trail link fresh ih =>
      rw [List.length_append, List.length_singleton] at enough
      obtain ⟨rest, rfl⟩ : ∃ rest, fuel = rest + 1 := ⟨fuel - 1, by omega⟩
      have other : after ≠ before := by
        rintro rfl
        exact fresh trail.mem_last
      simp only [tracePath, link, Option.getD_some]
      rw [if_neg other, ih rest (by omega)]
      rfl

/-- Where the search stands once the cells of `closed` have been expanded. Only `dest`, at
distance 0, may be in the queue more than once. -/
structure Searching (free : Vec2Int → Bool) (src dest : Vec2Int) (maxDepth : Int)
    (closed : List Vec2Int) (search : PathSearch) : Prop where
  tree : GraphSearch.Tree (Move free src maxDepth) src search.parent.get closed
  sorted : search.best.Sorted
  best : ∀ c, search.best.get c = (search.parent.get c).map fun _ => (dest - c).manhattan
  queued : ∀ c, (search.parent.get c).isSome → c ∈ closed ∨ ∃ node ∈ search.pq, node.pos = c
  nodes : ∀ node ∈ search.pq, (search.parent.get node.pos).isSome ∧ node.pos ∉ closed ∧
    node.cost = (dest - node.pos).manhattan
  once : search.pq.Pairwise fun a b => a.pos = b.pos → a.pos = dest
  dest_open : dest ∉ closed

def PathSearch.start (src dest : Vec2Int) : PathSearch where
  pq := [⟨(dest - src).manhattan, src⟩]
  best := [(src, (dest - src).manhattan)]
  parent := [(src, src)]

theorem start_get {α : Type} (value : α) (c : Vec2Int) :
    CellMap.get [(src, value)] c = if c = src then some value else none := by
  rw [CellMap.get_cons]
  rfl

theorem start_searching (free : Vec2Int → Bool) (src dest : Vec2Int) (maxDepth : Int) :
    Searching free src dest maxDepth [] (PathSearch.start src dest) where
  tree := by
    apply GraphSearch.Tree.start
    · exact (start_get src src).trans (if_pos rfl)
    · intro a other
      exact (start_get src a).trans (if_neg other)
  sorted := List.pairwise_singleton _ _
  best := by
    intro c
    rw [PathSearch.start, start_get, start_get]
    by_cases same : c = src
    · simp [same]
    · simp [same]
  queued := by
    intro c found
    rw [PathSearch.start, start_get] at found
    by_cases same : c = src
    · exact .inr ⟨_, List.mem_singleton_self _, same.symm⟩
    · simp [same] at found
  nodes := by
    intro node member
    rw [List.mem_singleton.mp member]
    refine ⟨?_, List.not_mem_nil, rfl⟩
    rw [PathSearch.start, start_get]
    simp
  once := List.pairwise_singleton _ _
  dest_open := List.not_mem_nil

namespace Searching

variable {closed : List Vec2Int} {search : PathSearch}

theorem again (searching : Searching free src dest maxDepth closed search) (c : Vec2Int)
    (found : (search.parent.get c).isSome)
    (better : ¬((search.best.get c).getD 0 ≠ 0 ∧
      (search.best.get c).getD 0 ≤ (dest - c).manhattan)) : c = dest := by
  obtain ⟨p, link⟩ := Option.isSome_iff_exists.mp found
  rw [searching.best, link] at better
  simp only [Option.map_some, Option.getD_some, le_refl, and_true, not_not] at better
  exact (manhattan_zero better).symm

theorem find (searching : Searching free src dest maxDepth closed search) (a c : Vec2Int)
    (expanded : a ∈ closed) (moved : Move free src maxDepth a c)
    (better : ¬((search.best.get c).getD 0 ≠ 0 ∧
      (search.best.get c).getD 0 ≤ (dest - c).manhattan)) :
    Searching free src dest maxDepth closed
      { pq := search.pq ++ [⟨(dest - c).manhattan, c⟩]
        best := search.best.set c (dest - c).manhattan
        parent := search.parent.set c a } := by
  have fresh : c ∉ closed := by
    intro member
    have same := searching.again c (searching.tree.found c member) better
    exact searching.dest_open (same ▸ member)
  have parents : (search.parent.set c a).get = Function.update search.parent.get c (some a) := by
    funext p
    rw [CellMap.get_set]
    by_cases same : p = c
    · simp [same]
    · simp [same]
  have known : ∀ p, ((search.parent.set c a).get p).isSome ↔
      p = c ∨ (search.parent.get p).isSome := by
    intro p
    rw [CellMap.get_set]
    by_cases same : p = c
    · simp [same]
    · simp [same]
  exact {
    tree := by
      dsimp only
      rw [parents]
      exact searching.tree.adopt expanded moved fresh
    sorted := searching.sorted.set c _
    best := by
      intro p
      dsimp only
      rw [CellMap.get_set, CellMap.get_set, searching.best]
      by_cases same : p = c
      · simp [same]
      · simp [same]
    queued := by
      intro p found
      rcases (known p).mp found with rfl | before
      · exact .inr ⟨_, List.mem_append_right _ (List.mem_singleton_self _), rfl⟩
      · rcases searching.queued p before with member | ⟨node, member, same⟩
        · exact .inl member
        · exact .inr ⟨node, List.mem_append_left _ member, same⟩
    nodes := by
      intro node member
      rcases List.mem_append.mp member with member | last
      · obtain ⟨found, outside, cost⟩ := searching.nodes node member
        exact ⟨(known node.pos).mpr (.inr found), outside, cost⟩
      · rw [List.mem_singleton.mp last]
        exact ⟨(known c).mpr (.inl rfl), fresh, rfl⟩
    once := by
      refine List.pairwise_append.mpr ⟨searching.once, List.pairwise_singleton _ _, ?_⟩
      intro node member other last same
      rw [List.mem_singleton.mp last] at same
      have found := (searching.nodes node member).1
      rw [same] at found
      exact same.trans (searching.again c found better)
    dest_open := searching.dest_open }

theorem visit (searching : Searching free src dest maxDepth closed search) (node : PQNode)
    (expanded : node.pos ∈ closed) (step : Vec2Int) (member : step ∈ front) :
    Searching free src dest maxDepth closed
        (visitNeighbour free src dest maxDepth node search step) ∧
      (∀ c, (search.parent.get c).isSome →
        ((visitNeighbour free src dest maxDepth node search step).parent.get c).isSome) ∧
      (Move free src maxDepth node.pos (node.pos + step) →
        ((visitNeighbour free src dest maxDepth node search step).parent.get
          (node.pos + step)).isSome) := by
  unfold visitNeighbour
  dsimp only
  split
  case isTrue blocked =>
    refine ⟨searching, fun _ => id, fun moved => ?_⟩
    simp [moved.2.1] at blocked
  case isFalse open_ =>
    split
    case isTrue far => exact ⟨searching, fun _ => id, fun moved => absurd far moved.2.2.not_ge⟩
    case isFalse near =>
      have moved : Move free src maxDepth node.pos (node.pos + step) :=
        ⟨(front_neighbours _ _).mpr ⟨step, member, rfl⟩, by simpa using open_, Int.not_le.mp near⟩
      split
      case isTrue worse =>
        refine ⟨searching, fun _ => id, fun _ => ?_⟩
        cases found : search.parent.get (node.pos + step) with
        | some p => rfl
        | none =>
            rw [searching.best, found] at worse
            exact absurd rfl worse.1
      case isFalse better =>
        refine ⟨searching.find node.pos (node.pos + step) expanded moved better, ?_, ?_⟩
        · intro c found
          dsimp only
          rw [CellMap.get_set]
          split
          · rfl
          · exact found
        · intro _
          dsimp only
          rw [CellMap.get_set, if_pos rfl]
          rfl

theorem visits (searching : Searching free src dest maxDepth closed search) (node : PQNode)
    (expanded : node.pos ∈ closed) (steps : List Vec2Int) (members : steps ⊆ front) :
    Searching free src dest maxDepth closed
        (steps.foldl (visitNeighbour free src dest maxDepth node) search) ∧
      (∀ c, (search.parent.get c).isSome →
        ((steps.foldl (visitNeighbour free src dest maxDepth node) search).parent.get c).isSome) ∧
      ∀ step ∈ steps, Move free src maxDepth node.pos (node.pos + step) →
        ((steps.foldl (visitNeighbour free src dest maxDepth node) search).parent.get
          (node.pos + step)).isSome := by
  induction steps generalizing search with
  | nil => exact ⟨searching, fun _ => id, fun _ member => nomatch member⟩
  | cons step steps ih =>
      obtain ⟨visited, kept, found⟩ :=
        searching.visit node expanded step (members List.mem_cons_self)
      obtain ⟨rest, keptRest, foundRest⟩ :=
        ih visited fun other member => members (List.mem_cons_of_mem _ member)
      refine ⟨rest, fun c before => keptRest c (kept c before), ?_⟩
      intro other member moved
      rcases List.mem_cons.mp member with rfl | later
      · exact keptRest _ (found moved)
      · exact foundRest other later moved

theorem take (searching : Searching free src dest maxDepth closed search) (node : PQNode)
    (rest : List PQNode) (popped : search.pq.Perm (node :: rest)) (other : node.pos ≠ dest) :
    Searching free src dest maxDepth (node.pos :: closed) { search with pq := rest } := by
  have member : ∀ queued, queued ∈ search.pq ↔ queued = node ∨ queued ∈ rest := by
    intro queued
    rw [popped.mem_iff, List.mem_cons]
  obtain ⟨found, outside, -⟩ := searching.nodes node ((member node).mpr (.inl rfl))
  have once := searching.once
  rw [popped.pairwise_iff fun away same => same ▸ away same.symm] at once
  obtain ⟨apart, once⟩ := List.pairwise_cons.mp once
  exact {
    tree := searching.tree.close found outside
    sorted := searching.sorted
    best := searching.best
    queued := by
      intro c known
      rcases searching.queued c known with expanded | ⟨queued, inside, same⟩
      · exact .inl (List.mem_cons_of_mem _ expanded)
      · rcases (member queued).mp inside with rfl | later
        · exact .inl (same ▸ List.mem_cons_self)
        · exact .inr ⟨queued, later, same⟩
    nodes := by
      intro queued later
      obtain ⟨known, away, cost⟩ := searching.nodes queued ((member queued).mpr (.inr later))
      refine ⟨known, ?_, cost⟩
      intro expanded
      rcases List.mem_cons.mp expanded with same | before
      · exact other (apart queued later same.symm)
      · exact away before
    once := once
    dest_open := by
      intro expanded
      rcases List.mem_cons.mp expanded with same | before
      · exact other same.symm
      · exact searching.dest_open before }

theorem not_stale (searching : Searching free src dest maxDepth closed search) (node : PQNode)
    (member : node ∈ search.pq) : ¬(search.best.get node.pos).getD 0 < node.cost := by
  obtain ⟨found, -, cost⟩ := searching.nodes node member
  obtain ⟨p, link⟩ := Option.isSome_iff_exists.mp found
  rw [searching.best, link, cost]
  exact Nat.lt_irrefl _

end Searching

structure Searched (free : Vec2Int → Bool) (src dest : Vec2Int) (maxDepth : Int)
    (result : Bool × PathSearch) : Prop where
  tree : ∃ closed, GraphSearch.Tree (Move free src maxDepth) src result.2.parent.get closed
  sorted : result.2.best.Sorted
  best : ∀ c, result.2.best.get c = (result.2.parent.get c).map fun _ => (dest - c).manhattan
  found : result.1 = true → (result.2.parent.get dest).isSome
  missed : result.1 = false → result.2.parent.get dest = none
  exhausted : result.1 = false →
    ∀ c, (result.2.parent.get c).isSome ↔ Reachable free src maxDepth c

variable {pop : Pop}

theorem searchBody_again (pops : Pops pop) {closed : List Vec2Int} {search next : PathSearch}
    (searching : Searching free src dest maxDepth closed search)
    (sealed : ∀ a ∈ closed, GraphSearch.Sealed (Move free src maxDepth) search.parent.get a)
    (pass : searchBody pop free src dest maxDepth search = .again next) :
    ∃ c, Searching free src dest maxDepth (c :: closed) next ∧
      ∀ a ∈ c :: closed, GraphSearch.Sealed (Move free src maxDepth) next.parent.get a := by
  unfold searchBody at pass
  split at pass
  · cases pass
  case h_2 node rest popped =>
    obtain ⟨perm, -⟩ := pops.least _ _ _ popped
    have member : node ∈ search.pq := perm.mem_iff.mpr List.mem_cons_self
    dsimp only at pass
    rw [if_neg (searching.not_stale node member)] at pass
    split at pass
    · cases pass
    case isFalse other =>
      cases pass
      have taken := searching.take node rest perm other
      obtain ⟨visited, kept, found⟩ :=
        taken.visits node List.mem_cons_self front fun _ => id
      refine ⟨node.pos, visited, ?_⟩
      intro a expanded b moved
      rcases List.mem_cons.mp expanded with rfl | before
      · obtain ⟨step, inside, rfl⟩ := (front_neighbours node.pos b).mp moved.1
        exact found step inside moved
      · exact kept b (sealed a before b moved)

theorem searchBody_exit (pops : Pops pop) {closed : List Vec2Int} {search : PathSearch}
    {result : Bool × PathSearch} (searching : Searching free src dest maxDepth closed search)
    (sealed : ∀ a ∈ closed, GraphSearch.Sealed (Move free src maxDepth) search.parent.get a)
    (pass : searchBody pop free src dest maxDepth search = .exit result) :
    Searched free src dest maxDepth result := by
  unfold searchBody at pass
  split at pass
  case h_1 empty =>
    cases pass
    have none_queued := pops.empty _ empty
    have expanded : ∀ c, (search.parent.get c).isSome → c ∈ closed := by
      intro c found
      apply (searching.queued c found).resolve_right
      rintro ⟨node, member, -⟩
      rw [none_queued] at member
      cases member
    exact {
      tree := ⟨closed, searching.tree⟩
      sorted := searching.sorted
      best := searching.best
      found := fun found => nomatch found
      missed := by
        intro _
        cases known : search.parent.get dest with
        | none => rfl
        | some p => exact absurd (expanded dest (by rw [known]; rfl)) searching.dest_open
      exhausted := fun _ c => ⟨searching.tree.sound,
        searching.tree.complete fun a found => sealed a (expanded a found)⟩ }
  case h_2 node rest popped =>
    obtain ⟨perm, -⟩ := pops.least _ _ _ popped
    have member : node ∈ search.pq := perm.mem_iff.mpr List.mem_cons_self
    dsimp only at pass
    rw [if_neg (searching.not_stale node member)] at pass
    split at pass
    case isTrue same =>
      cases pass
      exact {
        tree := ⟨closed, searching.tree⟩
        sorted := searching.sorted
        best := searching.best
        found := fun _ => same ▸ (searching.nodes node member).1
        missed := fun missed => nomatch missed
        exhausted := fun missed => nomatch missed }
    case isFalse => cases pass

theorem reachable_near (positive : 0 < maxDepth) {c : Vec2Int}
    (reached : Reachable free src maxDepth c) : ((src - c).manhattan : Int) < maxDepth := by
  cases reached with
  | refl =>
      have zero : (src - src).manhattan = 0 := by simp [Vec2Int.manhattan]
      rw [zero]
      exact positive
  | tail _ moved => exact moved.2.2

theorem reachable_length (positive : 0 < maxDepth) (cells : List Vec2Int) (distinct : cells.Nodup)
    (reached : ∀ c ∈ cells, Reachable free src maxDepth c) :
    cells.length ≤ (2 * maxDepth.toNat) * (2 * maxDepth.toNat) :=
  ball_length src maxDepth cells distinct fun c member =>
    reachable_near positive (reached c member)

theorem search_leaves (pops : Pops pop) (free : Vec2Int → Bool) (src dest : Vec2Int)
    (positive : 0 < maxDepth) :
    ∃ result, WhileLoop.run (searchBody pop free src dest maxDepth) (searchFuel maxDepth)
      (PathSearch.start src dest) = some result ∧ Searched free src dest maxDepth result := by
  apply WhileLoop.run_ranked (searchBody pop free src dest maxDepth)
    (fun search rank => ∃ closed, Searching free src dest maxDepth closed search ∧
      (∀ a ∈ closed, GraphSearch.Sealed (Move free src maxDepth) search.parent.get a) ∧
      closed.length + rank = (2 * maxDepth.toNat) * (2 * maxDepth.toNat))
  · rintro search rank next ⟨closed, searching, sealed, total⟩ pass
    obtain ⟨c, later, sealedLater⟩ := searchBody_again pops searching sealed pass
    have bound := reachable_length positive (c :: closed) later.tree.distinct fun a member =>
      later.tree.sound (later.tree.found a member)
    rw [List.length_cons] at bound
    exact ⟨rank - 1, by omega, c :: closed, later, sealedLater, by rw [List.length_cons]; omega⟩
  · rintro search rank result ⟨closed, searching, sealed, -⟩ pass
    exact searchBody_exit pops searching sealed pass
  · exact ⟨[], start_searching free src dest maxDepth, (fun _ member => nomatch member),
      Nat.zero_add _⟩

theorem Searched.path {result : Bool × PathSearch}
    (searched : Searched free src dest maxDepth result) (positive : 0 < maxDepth) (c : Vec2Int)
    (known : (result.2.parent.get c).isSome) :
    ∃ cells, tracePath result.2.parent (searchFuel maxDepth) c = some cells ∧
      cells.head? = some src ∧ cells.Nodup ∧ cells.IsChain (Move free src maxDepth) ∧
      cells.getLast? = some c := by
  obtain ⟨closed, tree⟩ := searched.tree
  obtain ⟨cells, trail⟩ := tree.trail known
  have bound := reachable_length positive cells trail.distinct fun a member =>
    tree.sound (trail.found a member)
  refine ⟨cells, ?_, trail.head, trail.distinct, tree.chain trail, trail.last⟩
  exact tracePath_trail result.2.parent cells c trail (searchFuel maxDepth)
    (Nat.le_succ_of_le bound)

theorem Searched.fallback {result : Bool × PathSearch}
    (searched : Searched free src dest maxDepth result) (missed : result.1 = false) :
    Nearest toFloat free src dest maxDepth (nearestReached src dest result.2.best) := by
  have scores : ∀ item ∈ result.2.best, item.2 = (dest - item.1).manhattan ∧
      (result.2.parent.get item.1).isSome := by
    intro item member
    have value := CellMap.get_of_mem searched.sorted member
    rw [searched.best] at value
    obtain ⟨p, link, same⟩ := Option.map_eq_some_iff.mp value
    exact ⟨same.symm, by rw [link]; rfl⟩
  have listed : ∀ c, Reachable free src maxDepth c →
      (c, (dest - c).manhattan) ∈ result.2.best := by
    intro c reached
    obtain ⟨p, link⟩ := Option.isSome_iff_exists.mp ((searched.exhausted missed c).mpr reached)
    apply CellMap.mem_of_get
    rw [searched.best, link]
    rfl
  have some_ := List.ne_nil_of_mem (listed src .refl)
  obtain ⟨⟨item, member, same⟩, least⟩ := nearestReached_rank src result.2.best
    searched.sorted some_ fun item member => (scores item member).1
  constructor
  · rw [same]
    exact (searched.exhausted missed item.1).mp (scores item member).2
  · intro other reached
    exact least (other, (dest - other).manhattan) (listed other reached)

theorem Searched.reaches {result : Bool × PathSearch}
    (searched : Searched free src dest maxDepth result) :
    result.1 = true ↔ Reachable free src maxDepth dest := by
  constructor
  · intro found
    obtain ⟨closed, tree⟩ := searched.tree
    exact tree.sound (searched.found found)
  · intro reached
    by_contra missed
    have missed := Bool.eq_false_of_not_eq_true missed
    have known := (searched.exhausted missed dest).mpr reached
    rw [searched.missed missed] at known
    cases known

theorem Searched.goal {result : Bool × PathSearch}
    (searched : Searched free src dest maxDepth result) (goal : Vec2Int)
    (chosen : goal = if result.1 then dest else nearestReached src dest result.2.best) :
    (result.2.parent.get goal).isSome ∧
      (Reachable free src maxDepth dest → goal = dest) ∧
      (¬Reachable free src maxDepth dest → Nearest toFloat free src dest maxDepth goal) := by
  cases found : result.1 with
  | true =>
      rw [found, if_pos rfl] at chosen
      subst chosen
      have reached := searched.reaches.mp found
      exact ⟨searched.found found, fun _ => rfl, fun missed => absurd reached missed⟩
  | false =>
      rw [found, if_neg Bool.false_ne_true] at chosen
      subst chosen
      have nearest := searched.fallback found
      refine ⟨(searched.exhausted found _).mpr nearest.1, fun reached => ?_, fun _ => nearest⟩
      rw [← searched.reaches, found] at reached
      cases reached

theorem findPathBy_finds (pops : Pops pop) (free : Vec2Int → Bool) (src dest : Vec2Int)
    (maxDepth : Int) (path : List Vec2Int) :
    FindsPath toFloat free src dest maxDepth path
      (findPathBy pop free src dest maxDepth path) := by
  unfold FindsPath findPathBy
  split
  · rfl
  case isFalse near =>
    have positive : 0 < maxDepth := by omega
    obtain ⟨result, left, searched⟩ := search_leaves pops free src dest positive
    obtain ⟨known, to_dest, to_nearest⟩ := searched.goal _ rfl
    obtain ⟨cells, traced, starts, distinct, moves, last⟩ := searched.path positive _ known
    unfold PathSearch.start at left
    simp only [left, traced, Option.map_some]
    exact ⟨cells, rfl, starts, distinct, moves, _, last, to_dest, to_nearest⟩

theorem nearest_exists (free : Vec2Int → Bool) (src dest : Vec2Int) (positive : 0 < maxDepth) :
    ∃ cell, Nearest id free src dest maxDepth cell := by
  have finite : {c | Reachable free src maxDepth c}.Finite := by
    by_contra infinite
    obtain ⟨cells, inside, size⟩ := Set.Infinite.exists_subset_card_eq infinite
      ((2 * maxDepth.toNat) * (2 * maxDepth.toNat) + 1)
    have bound := reachable_length positive cells.toList cells.nodup_toList fun c member =>
      inside (Finset.mem_toList.mp member)
    rw [Finset.length_toList, size] at bound
    omega
  obtain ⟨cell, reached, least⟩ := Set.exists_min_image _ (rank id src dest) finite ⟨src, .refl⟩
  exact ⟨cell, reached, least⟩

theorem Discerned.nearest {cell : Vec2Int} (discerned : Discerned free src dest maxDepth)
    (nearest : Nearest id free src dest maxDepth cell) :
    Nearest toFloat free src dest maxDepth cell := by
  refine ⟨nearest.1, fun other reached => ?_⟩
  have le : (dest - cell).manhattan ≤ (dest - other).manhattan := by
    rcases rank_le.mp (nearest.2 other reached) with less | ⟨same, -⟩
    · exact Nat.le_of_lt less
    · exact Nat.le_of_eq same
  rcases Nat.lt_or_eq_of_le (Rounding.keepBits_mono 23 le) with less | same
  · exact rank_le.mpr (.inl less)
  · exact rank_le.mpr (.inr ⟨same, discerned cell other nearest reached same.symm⟩)

/-- The cell that is first with the distances rounded is the nearest one exactly where no other
cell is taken for it. -/
theorem nearest_iff {cell : Vec2Int} (positive : 0 < maxDepth)
    (rounded : Nearest toFloat free src dest maxDepth cell) :
    Nearest id free src dest maxDepth cell ↔ Discerned free src dest maxDepth := by
  constructor
  · intro exact_ nearest other nearest' reached same
    have it := nearest'.unique exact_
    rw [it] at same ⊢
    rcases rank_le.mp (rounded.2 other reached) with less | ⟨-, first⟩
    · exact absurd same less.ne'
    · exact first
  · intro discerned
    obtain ⟨nearest, least⟩ := nearest_exists free src dest positive
    have it := rounded.unique (discerned.nearest least)
    exact it ▸ least

theorem discerned_near (small : (dest - src).manhattan < 2 ^ 24) :
    Discerned free src dest maxDepth := by
  intro nearest cell least reached same
  have le : (dest - nearest).manhattan ≤ (dest - src).manhattan := by
    rcases rank_le.mp (least.2 src .refl) with less | ⟨same, -⟩
    · exact Nat.le_of_lt less
    · exact Nat.le_of_eq same
  have equal := Rounding.keepBits_exact (lt_of_le_of_lt le small) same
  rcases rank_le.mp (least.2 cell reached) with less | ⟨-, first⟩
  · exact absurd equal (Nat.ne_of_gt less)
  · exact first

theorem findsPath_iff (pops : Pops pop) (free : Vec2Int → Bool) (src dest : Vec2Int)
    (maxDepth : Int) (path : List Vec2Int) :
    FindsPath id free src dest maxDepth path (findPathBy pop free src dest maxDepth path) ↔
      maxDepth ≤ (src - dest).manhattan ∨ Reachable free src maxDepth dest ∨
        Discerned free src dest maxDepth := by
  have rounded := findPathBy_finds pops free src dest maxDepth path
  unfold FindsPath at *
  by_cases far : maxDepth ≤ (src - dest).manhattan
  · rw [if_pos far] at *
    exact ⟨fun _ => .inl far, fun _ => rounded⟩
  · rw [if_neg far] at *
    obtain ⟨found, answer, starts, distinct, moves, last, isLast, to_dest, to_nearest⟩ := rounded
    have positive : 0 < maxDepth := by omega
    by_cases reached : Reachable free src maxDepth dest
    · refine ⟨fun _ => .inr (.inl reached), fun _ => ⟨found, answer, starts, distinct, moves,
        last, isLast, to_dest, fun missed => absurd reached missed⟩⟩
    · have agree := nearest_iff positive (to_nearest reached)
      constructor
      · rintro ⟨found', answer', -, -, -, last', isLast', -, to_nearest'⟩
        rw [answer] at answer'
        cases answer'
        rw [isLast] at isLast'
        cases isLast'
        exact .inr (.inr (agree.mp (to_nearest' reached)))
      · intro condition
        have discerned := (condition.resolve_left far).resolve_left reached
        exact ⟨found, answer, starts, distinct, moves, last, isLast, to_dest,
          fun _ => agree.mpr discerned⟩

theorem popLeast_pops : Pops popLeast where
  empty := by
    intro pq none
    cases pq with
    | nil => rfl
    | cons node rest =>
        simp only [popLeast] at none
        split at none
        · cases none
        · split at none <;> cases none
  least := by
    intro pq
    induction pq with
    | nil => exact fun _ _ popped => nomatch popped
    | cons first later ih =>
        intro node rest popped
        simp only [popLeast] at popped
        split at popped
        case h_1 none =>
          cases popped
          have empty : later = [] := by
            cases later with
            | nil => rfl
            | cons second rest =>
                simp only [popLeast] at none
                split at none
                · cases none
                · split at none <;> cases none
          subst empty
          exact ⟨.refl _, fun _ member => nomatch member⟩
        case h_2 least others found =>
          obtain ⟨perm, low⟩ := ih least others found
          split at popped
          case isTrue less =>
            cases popped
            refine ⟨(perm.cons first).trans (.swap _ _ _), ?_⟩
            intro other member
            rcases List.mem_cons.mp member with rfl | member
            · exact Nat.le_of_lt less
            · exact low other member
          case isFalse more =>
            cases popped
            refine ⟨.refl _, ?_⟩
            intro other member
            rcases List.mem_cons.mp (perm.mem_iff.mp member) with rfl | member
            · exact Nat.le_of_not_lt more
            · exact Nat.le_trans (Nat.le_of_not_lt more) (low other member)

theorem pathOf_found (routing : Routing) (scene : Scene) (r : RoomRef) (src dest : Vec2Int) :
    (pathOf routing r scene src dest = none ↔ 20 ≤ (src - dest).manhattan) ∧
      ∀ path, pathOf routing r scene src dest = some path →
        PathFound id (canGo routing scene r) src dest 20 path := by
  have finds := (findsPath_iff popLeast_pops (canGo routing scene r) src dest 20 []).mpr
  unfold FindsPath at finds
  unfold pathOf findPath
  by_cases far : (20 : Int) ≤ (src - dest).manhattan
  · rw [if_pos far] at finds
    rw [finds (.inl far)]
    exact ⟨⟨fun _ => by omega, fun _ => rfl⟩, fun _ found => nomatch found⟩
  · rw [if_neg far] at finds
    have small : (dest - src).manhattan < 2 ^ 24 := by
      rw [manhattan_comm]
      omega
    obtain ⟨found, answer, right⟩ := finds (.inr (.inr (discerned_near small)))
    rw [answer]
    exact ⟨⟨nofun, fun _ => by omega⟩, fun path same => Option.some.inj same ▸ right⟩

/-- A server with one room, one row of free cells with a wall at x = 3. -/
def corridor : World :=
  let w := World.empty smallGame newStore false []
  { w with scene := { w.scene with
      fields := fun _ => { Field.empty with tilemap := ⟨⟨2 ^ 24 + 10, 1⟩, [[0, 0, 0, 1]]⟩ } } }

def corridorFree : Vec2Int → Bool := canGo corridor.routing corridor.scene 0

/-- `FindPath` finds what it is to find exactly where no rounding takes another cell for the
nearest one. -/
theorem find_path_iff (pop : Pop) (pops : Pops pop) (routing : Routing) (scene : Scene)
    (r : RoomRef) (src dest : Vec2Int) (maxDepth : Int) (path : List Vec2Int) :
    FindsPath id (canGo routing scene r) src dest maxDepth path
        (findPathBy pop (canGo routing scene r) src dest maxDepth path) ↔
      maxDepth ≤ (src - dest).manhattan ∨
        Reachable (canGo routing scene r) src maxDepth dest ∨
        Discerned (canGo routing scene r) src dest maxDepth :=
  findsPath_iff pops (canGo routing scene r) src dest maxDepth path

theorem corridor_found :
    FindsPath id corridorFree ⟨0, 0⟩ ⟨5, 0⟩ 20 []
      (findPathBy popLeast corridorFree ⟨0, 0⟩ ⟨5, 0⟩ 20 []) :=
  (find_path_iff popLeast popLeast_pops corridor.routing corridor.scene 0 ⟨0, 0⟩ ⟨5, 0⟩ 20
    []).mpr (.inr (.inr (discerned_near (by decide))))

set_option maxRecDepth 4000 in
/-- The distances 2^24 + 5 and 2^24 + 3 are one float, so the search stays where it is. -/
theorem corridor_not_walked :
    ¬FindsPath id corridorFree ⟨0, 0⟩ ⟨2 ^ 24 + 5, 0⟩ (2 ^ 24 + 6) []
      (findPathBy popLeast corridorFree ⟨0, 0⟩ ⟨2 ^ 24 + 5, 0⟩ (2 ^ 24 + 6) []) := by
  have answer : findPathBy popLeast corridorFree ⟨0, 0⟩ ⟨2 ^ 24 + 5, 0⟩ (2 ^ 24 + 6) [] =
      some (true, [⟨0, 0⟩]) := by decide
  have reached : Reachable corridorFree ⟨0, 0⟩ (2 ^ 24 + 6) ⟨2, 0⟩ := by
    have first : Move corridorFree ⟨0, 0⟩ (2 ^ 24 + 6) ⟨0, 0⟩ ⟨1, 0⟩ := by
      exact ⟨by decide, by decide, by decide⟩
    have second : Move corridorFree ⟨0, 0⟩ (2 ^ 24 + 6) ⟨1, 0⟩ ⟨2, 0⟩ := by
      exact ⟨by decide, by decide, by decide⟩
    exact (Relation.ReflTransGen.single first).tail second
  rw [answer, FindsPath, if_neg (by decide)]
  rintro ⟨found, same, -, -, -, last, isLast, to_dest, to_nearest⟩
  cases same
  cases isLast
  by_cases goal : Reachable corridorFree ⟨0, 0⟩ (2 ^ 24 + 6) ⟨2 ^ 24 + 5, 0⟩
  · exact absurd (to_dest goal) (by decide)
  · have least := (to_nearest goal).2 ⟨2, 0⟩ reached
    rcases rank_le.mp least with less | ⟨same, -⟩
    · exact absurd less (by decide)
    · exact absurd same (by decide)

end ZeldaServer
