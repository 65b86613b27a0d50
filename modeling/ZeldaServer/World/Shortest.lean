import ZeldaServer.World.Paths

/-! Where the way that `FindPath` finds is a shortest one. The search looks at the distance to
`dest` only, so it goes straight as long as nothing stops it. -/

namespace ZeldaServer

section

variable (free : Vec2Int → Bool) (src dest : Vec2Int) (maxDepth : Int)

/-- A way to `dest`, cell by cell. -/
structure Way (way : List Vec2Int) : Prop where
  starts : way.head? = some src
  ends : way.getLast? = some dest
  moves : way.IsChain (Move free src maxDepth)

def FindsShortest (answer : Option (Bool × List Vec2Int)) : Prop :=
  ∃ found, answer = some (true, found) ∧ Way free src dest maxDepth found ∧
    ∀ other, Way free src dest maxDepth other → found.length ≤ other.length

/-- A step towards `dest`. -/
def Descends (a b : Vec2Int) : Prop :=
  Move free src maxDepth a b ∧ (dest - b).manhattan + 1 = (dest - a).manhattan

/-- Steps towards `dest` alone lead there, whichever are taken. -/
def NoDeadEnd : Prop :=
  ∀ c, Relation.ReflTransGen (Descends free src dest maxDepth) src c → c ≠ dest →
    ∃ b, Descends free src dest maxDepth c b

/-- There is no detour: every way that meets no cell twice is a shortest one. -/
def NoDetour : Prop :=
  ∀ way, Way free src dest maxDepth way → way.Nodup →
    ∀ other, Way free src dest maxDepth other → way.length ≤ other.length

end

variable {free : Vec2Int → Bool} {src dest : Vec2Int} {maxDepth : Int}

theorem Move.near (dest : Vec2Int) {a b : Vec2Int} (moved : Move free src maxDepth a b) :
    (dest - a).manhattan ≤ (dest - b).manhattan + 1 := by
  have one := moved.1
  simp only [Vec2Int.manhattan, Vec2Int.sub_x, Vec2Int.sub_y] at one ⊢
  omega

theorem chain_length (a : Vec2Int) (way : List Vec2Int) (starts : way.head? = some a)
    (ends : way.getLast? = some dest) (moves : way.IsChain (Move free src maxDepth)) :
    (dest - a).manhattan + 1 ≤ way.length := by
  induction way generalizing a with
  | nil => cases starts
  | cons first rest ih =>
      cases starts
      cases rest with
      | nil =>
          cases ends
          simp [Vec2Int.manhattan]
      | cons second rest =>
          rw [List.isChain_cons_cons] at moves
          have later := ih second rfl (by simpa using ends) moves.2
          have near := moves.1.near dest
          rw [List.length_cons]
          omega

theorem Way.reachable {way : List Vec2Int} (found : Way free src dest maxDepth way) :
    Reachable free src maxDepth dest := by
  obtain ⟨starts, ends, moves⟩ := found
  cases way with
  | nil => cases starts
  | cons first rest =>
      cases starts
      refine List.relationReflTransGen_of_exists_isChain_cons rest moves ?_
      exact Option.some.inj ((List.getLast?_eq_some_getLast _).symm.trans ends)

theorem trail_same {Node : Type} {parent parent' : Node → Option Node} {source a : Node}
    {cells : List Node} (trail : GraphSearch.Trail parent source cells a)
    (same : ∀ c ∈ cells, parent' c = parent c) : GraphSearch.Trail parent' source cells a := by
  induction trail with
  | source root => exact .source ((same _ (List.mem_singleton_self _)).trans root)
  | next cells before after trail link fresh ih =>
      refine .next cells before after (ih fun c member => same c (List.mem_append_left _ member))
        ?_ fresh
      exact (same after (List.mem_append_right _ (List.mem_singleton_self _))).trans link

/-- Where a parent is another one after some neighbours of a cell were visited, it is that cell,
and the neighbour was new, or is `dest`. -/
def Spread (free : Vec2Int → Bool) (src dest : Vec2Int) (maxDepth : Int) (a : Vec2Int)
    (search next : PathSearch) : Prop :=
  ∀ c, next.parent.get c = search.parent.get c ∨
    next.parent.get c = some a ∧ Move free src maxDepth a c ∧
      (search.parent.get c = none ∨ c = dest)

namespace Spread

variable {a : Vec2Int} {search middle next : PathSearch}

theorem trans (first : Spread free src dest maxDepth a search middle)
    (second : Spread free src dest maxDepth a middle next) :
    Spread free src dest maxDepth a search next := by
  intro c
  rcases second c with same | ⟨link, moved, fresh⟩
  · rw [same]
    exact first c
  · refine .inr ⟨link, moved, ?_⟩
    rcases fresh with none | goal
    · rcases first c with same | ⟨early, -, -⟩
      · exact .inl (same ▸ none)
      · rw [none] at early
        cases early
    · exact .inr goal

theorem kept (spread : Spread free src dest maxDepth a search next) (c : Vec2Int)
    (found : (search.parent.get c).isSome) (other : c ≠ dest) :
    next.parent.get c = search.parent.get c := by
  rcases spread c with same | ⟨-, -, none | goal⟩
  · exact same
  · rw [none] at found
    cases found
  · exact absurd goal other

theorem fresh (spread : Spread free src dest maxDepth a search next) (c : Vec2Int)
    (found : (next.parent.get c).isSome) (missed : search.parent.get c = none) :
    next.parent.get c = some a ∧ Move free src maxDepth a c := by
  rcases spread c with same | ⟨link, moved, -⟩
  · rw [same, missed] at found
    cases found
  · exact ⟨link, moved⟩

end Spread

theorem visitNeighbour_spread {closed : List Vec2Int} {search : PathSearch} (node : PQNode)
    (searching : Searching free src dest maxDepth closed search) (step : Vec2Int)
    (member : step ∈ front) :
    Spread free src dest maxDepth node.pos search
      (visitNeighbour free src dest maxDepth node search step) := by
  unfold visitNeighbour
  dsimp only
  split
  · exact fun _ => .inl rfl
  case isFalse open_ =>
    split
    · exact fun _ => .inl rfl
    case isFalse near =>
      split
      · exact fun _ => .inl rfl
      case isFalse better =>
        intro c
        dsimp only
        rw [CellMap.get_set]
        split
        case isTrue here =>
          subst here
          refine .inr ⟨rfl, ⟨(front_neighbours _ _).mpr ⟨step, member, rfl⟩, by simpa using open_,
            Int.not_le.mp near⟩, ?_⟩
          cases known : search.parent.get (node.pos + step) with
          | none => exact .inl rfl
          | some p => exact .inr (searching.again _ (by rw [known]; rfl) better)
        case isFalse away => exact .inl rfl

theorem visits_spread {closed : List Vec2Int} {search : PathSearch} (node : PQNode)
    (expanded : node.pos ∈ closed) (searching : Searching free src dest maxDepth closed search)
    (steps : List Vec2Int) (members : steps ⊆ front) :
    Spread free src dest maxDepth node.pos search
      (steps.foldl (visitNeighbour free src dest maxDepth node) search) := by
  induction steps generalizing search with
  | nil => exact fun _ => .inl rfl
  | cons step steps ih =>
      have inside := members List.mem_cons_self
      have visited := (searching.visit node expanded step inside).1
      exact (visitNeighbour_spread node searching step inside).trans
        (ih visited fun other member => members (List.mem_cons_of_mem _ member))

/-- The search has only stepped towards `dest` so far: the cells nearest to it that were found are
`level` away, some are still in the queue, and the way to each is straight. -/
structure Straight (free : Vec2Int → Bool) (src dest : Vec2Int) (maxDepth : Int)
    (closed : List Vec2Int) (level : Nat) (search : PathSearch) : Prop extends
    Searching free src dest maxDepth closed search where
  lowest : ∀ c, (search.parent.get c).isSome → level ≤ (dest - c).manhattan
  waiting : ∃ node ∈ search.pq, (dest - node.pos).manhattan = level
  above : ∀ c ∈ closed, level < (dest - c).manhattan
  ways : ∀ c, (search.parent.get c).isSome → (dest - c).manhattan = level →
    Relation.ReflTransGen (Descends free src dest maxDepth) src c ∧
      ∃ cells, GraphSearch.Trail search.parent.get src cells c ∧
        cells.length + level = (dest - src).manhattan + 1

theorem start_straight (free : Vec2Int → Bool) (src dest : Vec2Int) (maxDepth : Int) :
    Straight free src dest maxDepth [] (dest - src).manhattan (PathSearch.start src dest) where
  toSearching := start_searching free src dest maxDepth
  lowest := by
    intro c found
    rw [PathSearch.start, start_get] at found
    by_cases same : c = src
    · rw [same]
    · simp [same] at found
  waiting := ⟨_, List.mem_singleton_self _, rfl⟩
  above := fun _ member => nomatch member
  ways := by
    intro c found _
    rw [PathSearch.start, start_get] at found
    by_cases same : c = src
    · subst same
      refine ⟨.refl, [c], .source ?_, by rw [List.length_singleton]; omega⟩
      rw [PathSearch.start, start_get, if_pos rfl]
    · simp [same] at found

namespace Straight

variable {pop : Pop} {closed : List Vec2Int} {level : Nat} {search : PathSearch}

theorem taken_level (straight : Straight free src dest maxDepth closed level search)
    (node : PQNode) (rest : List PQNode) (perm : search.pq.Perm (node :: rest))
    (least : ∀ other ∈ rest, node.cost ≤ other.cost) :
    (dest - node.pos).manhattan = level := by
  have member : node ∈ search.pq := perm.mem_iff.mpr List.mem_cons_self
  obtain ⟨found, -, cost⟩ := straight.nodes node member
  have low := straight.lowest node.pos found
  obtain ⟨other, waits, at_level⟩ := straight.waiting
  have cost' := (straight.nodes other waits).2.2
  rcases List.mem_cons.mp (perm.mem_iff.mp waits) with rfl | later
  · exact at_level
  · have := least other later
    omega

theorem again (pops : Pops pop) (noDeadEnd : NoDeadEnd free src dest maxDepth)
    (straight : Straight free src dest maxDepth closed level search) (next : PathSearch)
    (pass : searchBody pop free src dest maxDepth search = .again next) :
    ∃ c lower, lower + 1 = level ∧ Straight free src dest maxDepth (c :: closed) lower next := by
  unfold searchBody at pass
  split at pass
  · cases pass
  case h_2 node rest popped =>
    obtain ⟨perm, least⟩ := pops.least _ _ _ popped
    have member : node ∈ search.pq := perm.mem_iff.mpr List.mem_cons_self
    dsimp only at pass
    rw [if_neg (straight.not_stale node member)] at pass
    split at pass
    · cases pass
    case isFalse other =>
      cases pass
      have level_eq := straight.taken_level node rest perm least
      have known := (straight.nodes node member).1
      obtain ⟨descent, cells, trail, length⟩ := straight.ways node.pos known level_eq
      obtain ⟨b, moved, nearer⟩ := noDeadEnd node.pos descent other
      have taken := straight.toSearching.take node rest perm other
      obtain ⟨visited, kept, found⟩ := taken.visits node List.mem_cons_self front fun _ => id
      have spread := visits_spread node List.mem_cons_self taken front fun _ => id
      -- before this pass nothing below the level was found, `dest` included
      have fresh (c : Vec2Int) (below : (dest - c).manhattan < level) :
          search.parent.get c = none := by
        cases found : search.parent.get c with
        | none => rfl
        | some p =>
            have := straight.lowest c (by rw [found]; rfl)
            omega
      have not_dest (c : Vec2Int) (early : (search.parent.get c).isSome) : c ≠ dest := by
        intro same
        have low := straight.lowest c early
        have zero : (dest - dest).manhattan = 0 := by simp [Vec2Int.manhattan]
        rw [same] at low
        exact other (manhattan_zero (by omega : (dest - node.pos).manhattan = 0)).symm
      refine ⟨node.pos, (dest - b).manhattan, by omega, ⟨visited, ?_, ?_, ?_, ?_⟩⟩
      · intro c now
        cases before : search.parent.get c with
        | some p =>
            have := straight.lowest c (by rw [before]; rfl)
            omega
        | none =>
            have near := (spread.fresh c now before).2.near dest
            omega
      · obtain ⟨step, inside, rfl⟩ := (front_neighbours node.pos b).mp moved.1
        rcases visited.queued _ (found step inside moved) with expanded | ⟨queued, waits, same⟩
        · have above : level ≤ (dest - (node.pos + step)).manhattan := by
            rcases List.mem_cons.mp expanded with same | earlier
            · rw [same, level_eq]
            · exact (straight.above _ earlier).le
          omega
        · exact ⟨queued, waits, by rw [same]⟩
      · intro c expanded
        rcases List.mem_cons.mp expanded with rfl | earlier
        · omega
        · have := straight.above c earlier
          omega
      · intro c now at_level
        obtain ⟨link, move⟩ := spread.fresh c now (fresh c (by omega))
        have outside : c ∉ cells := by
          intro listed
          have := straight.lowest c (trail.found c listed)
          omega
        refine ⟨descent.tail ⟨move, by omega⟩, cells ++ [c], ?_, ?_⟩
        · refine .next cells node.pos c (trail_same trail fun p listed => ?_) link outside
          exact spread.kept p (trail.found p listed) (not_dest p (trail.found p listed))
        · rw [List.length_append, List.length_singleton]
          omega

theorem exit (pops : Pops pop) (straight : Straight free src dest maxDepth closed level search)
    (result : Bool × PathSearch)
    (pass : searchBody pop free src dest maxDepth search = .exit result) :
    result.1 = true ∧ ∃ cells, GraphSearch.Trail result.2.parent.get src cells dest ∧
      cells.length = (dest - src).manhattan + 1 := by
  unfold searchBody at pass
  split at pass
  case h_1 empty =>
    obtain ⟨node, waits, -⟩ := straight.waiting
    rw [pops.empty _ empty] at waits
    cases waits
  case h_2 node rest popped =>
    obtain ⟨perm, least⟩ := pops.least _ _ _ popped
    have member : node ∈ search.pq := perm.mem_iff.mpr List.mem_cons_self
    dsimp only at pass
    rw [if_neg (straight.not_stale node member)] at pass
    split at pass
    case isTrue same =>
      cases pass
      have level_eq := straight.taken_level node rest perm least
      obtain ⟨-, cells, trail, length⟩ :=
        straight.ways node.pos (straight.nodes node member).1 level_eq
      rw [same] at trail level_eq
      have zero : (dest - dest).manhattan = 0 := by simp [Vec2Int.manhattan]
      exact ⟨rfl, cells, trail, by omega⟩
    case isFalse => cases pass

end Straight

theorem findPathBy_straight {pop : Pop} (pops : Pops pop) (path : List Vec2Int)
    (near : ((src - dest).manhattan : Int) < maxDepth)
    (noDeadEnd : NoDeadEnd free src dest maxDepth) :
    FindsShortest free src dest maxDepth (findPathBy pop free src dest maxDepth path) := by
  have positive : 0 < maxDepth := by omega
  obtain ⟨result, left, searched⟩ := search_leaves pops free src dest positive
  have straight := WhileLoop.leaves_invariant (searchBody pop free src dest maxDepth)
    (fun search => ∃ closed level, Straight free src dest maxDepth closed level search)
    (fun result => result.1 = true ∧
      ∃ cells, GraphSearch.Trail result.2.parent.get src cells dest ∧
        cells.length = (dest - src).manhattan + 1)
    (fun search next ⟨closed, level, straight⟩ pass =>
      let ⟨c, lower, _, later⟩ := straight.again pops noDeadEnd next pass
      ⟨c :: closed, lower, later⟩)
    (fun search result ⟨closed, level, straight⟩ pass => straight.exit pops result pass)
    (PathSearch.start src dest) result ⟨[], _, start_straight free src dest maxDepth⟩ ⟨_, left⟩
  obtain ⟨arrived, cells, trail, length⟩ := straight
  obtain ⟨closed, tree⟩ := searched.tree
  have traced := tracePath_trail result.2.parent cells dest trail (searchFuel maxDepth)
    (Nat.le_succ_of_le (reachable_length positive cells trail.distinct fun a member =>
      tree.sound (trail.found a member)))
  refine ⟨cells, ?_, ⟨trail.head, trail.last, tree.chain trail⟩, fun other way => ?_⟩
  · unfold PathSearch.start at left
    simp only [findPathBy, if_neg near.not_ge, left, arrived, if_true, traced, Option.map_some]
  · rw [length]
    exact chain_length src other way.starts way.ends way.moves

theorem findPathBy_only {pop : Pop} (pops : Pops pop) (path : List Vec2Int)
    (near : ((src - dest).manhattan : Int) < maxDepth)
    (reached : Reachable free src maxDepth dest) (noDetour : NoDetour free src dest maxDepth) :
    FindsShortest free src dest maxDepth (findPathBy pop free src dest maxDepth path) := by
  have finds := findPathBy_finds pops free src dest maxDepth path
  rw [FindsPath, if_neg near.not_ge] at finds
  obtain ⟨found, answer, starts, distinct, moves, last, isLast, to_dest, -⟩ := finds
  have way : Way free src dest maxDepth found := ⟨starts, to_dest reached ▸ isLast, moves⟩
  exact ⟨found, answer, way, noDetour found way distinct⟩

/-- A server with one room, five cells wide and four high, with a pocket in its walls. -/
def pocket : World :=
  let w := World.empty smallGame newStore false []
  { w with scene := { w.scene with
      fields := fun _ => { Field.empty with tilemap :=
        ⟨⟨5, 4⟩, [[0, 0, 0, 0, 0], [0, 1, 1, 1, 0], [0, 1, 0, 0, 0], [0, 0, 0, 0, 0]]⟩ } } }

def pocketFree : Vec2Int → Bool := canGo pocket.routing pocket.scene 0

/-- `FindPath` finds a shortest way where no straight way to `dest` can end before it, or where
there is no detour to take. -/
theorem find_path_shortest (pop : Pop) (pops : Pops pop) (routing : Routing) (scene : Scene)
    (r : RoomRef) (src dest : Vec2Int) (maxDepth : Int) (path : List Vec2Int)
    (near : ((src - dest).manhattan : Int) < maxDepth)
    (reached : Reachable (canGo routing scene r) src maxDepth dest)
    (clear : NoDeadEnd (canGo routing scene r) src dest maxDepth ∨
      NoDetour (canGo routing scene r) src dest maxDepth) :
    FindsShortest (canGo routing scene r) src dest maxDepth
      (findPathBy pop (canGo routing scene r) src dest maxDepth path) := by
  rcases clear with noDeadEnd | noDetour
  · exact findPathBy_straight pops path near noDeadEnd
  · exact findPathBy_only pops path near reached noDetour

theorem pocket_row_found :
    FindsShortest pocketFree ⟨0, 3⟩ ⟨2, 3⟩ 20
      (findPathBy popLeast pocketFree ⟨0, 3⟩ ⟨2, 3⟩ 20 []) := by
  have first : Move pocketFree ⟨0, 3⟩ 20 ⟨0, 3⟩ ⟨1, 3⟩ := ⟨by decide, by decide, by decide⟩
  have second : Move pocketFree ⟨0, 3⟩ 20 ⟨1, 3⟩ ⟨2, 3⟩ := ⟨by decide, by decide, by decide⟩
  have row (c : Vec2Int) (straight : Relation.ReflTransGen (Descends pocketFree ⟨0, 3⟩ ⟨2, 3⟩ 20)
      ⟨0, 3⟩ c) : c = ⟨0, 3⟩ ∨ c = ⟨1, 3⟩ ∨ c = ⟨2, 3⟩ := by
    induction straight with
    | refl => exact .inl rfl
    | tail _ moved ih =>
        obtain ⟨⟨one, -, -⟩, nearer⟩ := moved
        obtain ⟨step, member, rfl⟩ := (front_neighbours _ _).mp one
        revert step
        rcases ih with rfl | rfl | rfl <;> decide
  refine find_path_shortest popLeast popLeast_pops pocket.routing pocket.scene 0 ⟨0, 3⟩ ⟨2, 3⟩ 20
    [] (by decide) ((Relation.ReflTransGen.single first).tail second) (.inl ?_)
  intro c straight other
  rcases row c straight with rfl | rfl | rfl
  · exact ⟨⟨1, 3⟩, first, by decide⟩
  · exact ⟨⟨2, 3⟩, second, by decide⟩
  · exact absurd rfl other

set_option maxRecDepth 4000 in
/-- The search goes into the pocket, and the way it finds from there takes eight steps; six are
enough. -/
theorem pocket_entered :
    ((⟨3, 2⟩ - ⟨1, 0⟩ : Vec2Int).manhattan : Int) < 20 ∧
      Reachable pocketFree ⟨3, 2⟩ 20 ⟨1, 0⟩ ∧
      ¬FindsShortest pocketFree ⟨3, 2⟩ ⟨1, 0⟩ 20
        (findPathBy popLeast pocketFree ⟨3, 2⟩ ⟨1, 0⟩ 20 []) := by
  have answer : findPathBy popLeast pocketFree ⟨3, 2⟩ ⟨1, 0⟩ 20 [] =
      some (true, [⟨3, 2⟩, ⟨2, 2⟩, ⟨2, 3⟩, ⟨1, 3⟩, ⟨0, 3⟩, ⟨0, 2⟩, ⟨0, 1⟩, ⟨0, 0⟩, ⟨1, 0⟩]) := by
    decide
  have way : Way pocketFree ⟨3, 2⟩ ⟨1, 0⟩ 20
      [⟨3, 2⟩, ⟨4, 2⟩, ⟨4, 1⟩, ⟨4, 0⟩, ⟨3, 0⟩, ⟨2, 0⟩, ⟨1, 0⟩] := by
    refine ⟨rfl, rfl, ?_⟩
    simp only [Move, List.isChain_cons_cons, List.isChain_singleton]
    decide
  refine ⟨by decide, way.reachable, ?_⟩
  rintro ⟨found, same, -, least⟩
  rw [answer] at same
  cases same
  exact absurd (least _ way) (by decide)

end ZeldaServer
