import Mathlib.Computability.Language
import Mathlib.Data.List.Nodup

/-! Loops over containers, and calls from their bodies that change containers. A change of a
container that a loop is running over gets stuck, unless it leaves the loop's iterator alone. -/

namespace Iterators

variable {Name Key : Type}

inductive Op (Name Key : Type) where
  /-- A loop begins, its iterator at the first element. -/
  | start (c : Name)
  /-- `k` is the element at the iterator of the innermost loop. -/
  | read (c : Name) (k : Key)
  /-- `++it` -/
  | next (c : Name)
  /-- The iterator is at the end. -/
  | stop (c : Name)
  | insert (c : Name) (k : Key)
  | erase (c : Name) (k : Key)
  /-- An erasure behind the iterators of the loops over the container. -/
  | erasePassed (c : Name) (k : Key)
  /-- `it = erase(it)` -/
  | eraseHere (c : Name)
  /-- What the loops are for. -/
  | update (k : Key)

/-- The elements of the containers in their order, and those that were updated. -/
@[ext] structure Memory (Name Key : Type) where
  contents : Name → List Key
  updated : List Key

/-- The running loops, the innermost in front, and how many elements there are from each
loop's iterator on. -/
abbrev Loops (Name : Type) := List (Name × Nat)

abbrev Code (Name Key : Type) := Language (Op Name Key)

namespace Memory

variable (a : Memory Name Key) (c : Name)

def passed (left : Nat) : List Key := (a.contents c).take ((a.contents c).length - left)

def ahead (left : Nat) : List Key := (a.contents c).drop ((a.contents c).length - left)

def JustPassed (left : Nat) (k : Key) : Prop :=
  (a.passed c left).getLast? = some k ∧ k ∉ a.ahead c left

instance [DecidableEq Key] (left : Nat) (k : Key) : Decidable (a.JustPassed c left k) :=
  inferInstanceAs (Decidable (_ ∧ _))

variable [DecidableEq Name]

def set (keys : List Key) : Memory Name Key :=
  { a with contents := Function.update a.contents c keys }

variable {a c}

@[simp] theorem set_contents (keys : List Key) : (a.set c keys).contents c = keys := by
  simp [set]

theorem set_other (keys : List Key) (other : Name) (apart : other ≠ c) :
    (a.set c keys).contents other = a.contents other := by
  simp [set, apart]

@[simp] theorem set_updated (keys : List Key) : (a.set c keys).updated = a.updated := rfl

end Memory

structure Memory.Same (free : Name → Prop) (a b : Memory Name Key) : Prop where
  contents : ∀ c, ¬ free c → b.contents c = a.contents c
  updated : b.updated = a.updated

namespace Memory.Same

variable {free : Name → Prop}

theorem refl (a : Memory Name Key) : a.Same free a := ⟨fun _ _ => rfl, rfl⟩

theorem trans {a b d : Memory Name Key} (first : a.Same free b) (second : b.Same free d) :
    a.Same free d :=
  ⟨fun c busy => (second.contents c busy).trans (first.contents c busy),
    second.updated.trans first.updated⟩

theorem set [DecidableEq Name] (a : Memory Name Key) (c : Name) (keys : List Key)
    (left_free : free c) : a.Same free (a.set c keys) :=
  ⟨fun other busy => set_other keys other fun same => busy (same ▸ left_free), rfl⟩

end Memory.Same

theorem ahead_append (a : Memory Name Key) (c : Name) (front keys : List Key)
    (contents : a.contents c = front ++ keys) : a.ahead c keys.length = keys := by
  simp [Memory.ahead, contents]

theorem passed_append (a : Memory Name Key) (c : Name) (front keys : List Key)
    (contents : a.contents c = front ++ keys) : a.passed c keys.length = front := by
  simp [Memory.passed, contents]

section Run

variable [DecidableEq Name] [DecidableEq Key]

/-- One operation; none where it changes a container that a loop is running over, except
through the loop's iterator or behind it, or where the iterator is not what the code takes it
for. -/
def step (now : Memory Name Key × Loops Name) :
    Op Name Key → Option (Memory Name Key × Loops Name)
  | .start c => some (now.1, (c, (now.1.contents c).length) :: now.2)
  | .read c k =>
      match now.2 with
      | (d, left) :: _ => if d = c ∧ (now.1.ahead c left).head? = some k then some now else none
      | [] => none
  | .next c =>
      match now.2 with
      | (d, left + 1) :: outer => if d = c then some (now.1, (c, left) :: outer) else none
      | _ => none
  | .stop c =>
      match now.2 with
      | (d, 0) :: outer => if d = c then some (now.1, outer) else none
      | _ => none
  | .insert c k =>
      if ∀ loop ∈ now.2, loop.1 ≠ c then
        some (now.1.set c (now.1.contents c ++ [k]), now.2)
      else none
  | .erase c k =>
      if ∀ loop ∈ now.2, loop.1 ≠ c then
        some (now.1.set c ((now.1.contents c).filter (· ≠ k)), now.2)
      else none
  | .erasePassed c k =>
      if ∀ loop ∈ now.2, loop.1 = c → now.1.JustPassed c loop.2 k then
        some (now.1.set c ((now.1.contents c).filter (· ≠ k)), now.2)
      else none
  | .eraseHere c =>
      match now.2 with
      | (d, left + 1) :: outer =>
          if d = c ∧ ∀ loop ∈ outer, loop.1 ≠ c then
            some (now.1.set c (now.1.passed c (left + 1) ++ now.1.ahead c left),
              (c, left) :: outer)
          else none
      | _ => none
  | .update k => some ({ now.1 with updated := now.1.updated ++ [k] }, now.2)

def exec (now : Memory Name Key × Loops Name) :
    List (Op Name Key) → Option (Memory Name Key × Loops Name)
  | [] => some now
  | o :: ops => (step now o).bind fun next => exec next ops

theorem exec_append (now : Memory Name Key × Loops Name) (front back : List (Op Name Key)) :
    exec now (front ++ back) = (exec now front).bind fun next => exec next back := by
  induction front generalizing now with
  | nil => rfl
  | cons o front ih =>
      simp only [List.cons_append, exec, Option.bind_assoc]
      exact congrArg (step now o).bind (funext ih)

/-- Code that does only `o`. -/
def op (o : Op Name Key) : Code Name Key := {[o]}

/-- The code does something, and whatever it does, it gets to its end in a state with `post`. -/
def Fits (now : Memory Name Key × Loops Name) (code : Code Name Key)
    (post : Memory Name Key × Loops Name → Prop) : Prop :=
  (∃ ops, ops ∈ code) ∧ ∀ ops ∈ code, ∃ after, exec now ops = some after ∧ post after

def Runs (loops : Loops Name) (a : Memory Name Key) (code : Code Name Key)
    (post : Memory Name Key → Prop) : Prop :=
  Fits (a, loops) code fun after => after.2 = loops ∧ post after.1

namespace Fits

variable {now : Memory Name Key × Loops Name} {code first second : Code Name Key}
  {post m : Memory Name Key × Loops Name → Prop}

theorem weaken (fits : Fits now code m) (implies : ∀ after, m after → post after) :
    Fits now code post := by
  refine ⟨fits.1, fun ops member => ?_⟩
  obtain ⟨after, ran, ends⟩ := fits.2 ops member
  exact ⟨after, ran, implies after ends⟩

theorem one (ends : post now) : Fits now 1 post := by
  refine ⟨⟨[], Language.nil_mem_one⟩, fun ops member => ?_⟩
  rw [(Language.mem_one ops).mp member]
  exact ⟨now, rfl, ends⟩

theorem single (o : Op Name Key) (after : Memory Name Key × Loops Name)
    (stepped : step now o = some after) (ends : post after) : Fits now (op o) post := by
  refine ⟨⟨[o], rfl⟩, fun ops member => ?_⟩
  obtain rfl : ops = [o] := member
  exact ⟨after, by simp [exec, stepped], ends⟩

theorem mul (before : Fits now first m)
    (behind : ∀ next, m next → Fits next second post) : Fits now (first * second) post := by
  constructor
  · obtain ⟨front, member⟩ := before.1
    obtain ⟨next, -, ends⟩ := before.2 front member
    obtain ⟨back, member'⟩ := (behind next ends).1
    exact ⟨front ++ back, Language.mem_mul.mpr ⟨front, member, back, member', rfl⟩⟩
  · intro ops split
    obtain ⟨front, member, back, member', rfl⟩ := Language.mem_mul.mp split
    obtain ⟨next, ran, ends⟩ := before.2 front member
    obtain ⟨after, ran', ends'⟩ := (behind next ends).2 back member'
    exact ⟨after, by rw [exec_append, ran]; exact ran', ends'⟩

theorem prod {Item : Type} (piece : Item → Code Name Key)
    (inv : List Item → Memory Name Key × Loops Name → Prop) (items : List Item)
    (start : inv items now)
    (each : ∀ item rest now, inv (item :: rest) now → Fits now (piece item) (inv rest)) :
    Fits now (items.map piece).prod (inv []) := by
  induction items generalizing now with
  | nil => exact one start
  | cons item items ih =>
      rw [List.map_cons, List.prod_cons]
      exact (each item items now start).mul fun next ready => ih ready

end Fits

namespace Runs

variable {loops : Loops Name} {a : Memory Name Key} {code first second : Code Name Key}
  {post m : Memory Name Key → Prop}

theorem weaken (runs : Runs loops a code m) (implies : ∀ b, m b → post b) :
    Runs loops a code post :=
  Fits.weaken runs fun after ends => ⟨ends.1, implies after.1 ends.2⟩

theorem one (ends : post a) : Runs loops a 1 post := Fits.one ⟨rfl, ends⟩

theorem mul (before : Runs loops a first m)
    (behind : ∀ b, m b → Runs loops b second post) : Runs loops a (first * second) post := by
  apply Fits.mul before
  rintro ⟨b, now⟩ ⟨same, ends⟩
  obtain rfl : now = loops := same
  exact behind b ends

theorem insert (c : Name) (k : Key) (idle : ∀ loop ∈ loops, loop.1 ≠ c)
    (ends : post (a.set c (a.contents c ++ [k]))) : Runs loops a (op (.insert c k)) post :=
  Fits.single _ _ (if_pos idle) ⟨rfl, ends⟩

theorem erase (c : Name) (k : Key) (idle : ∀ loop ∈ loops, loop.1 ≠ c)
    (ends : post (a.set c ((a.contents c).filter (· ≠ k)))) :
    Runs loops a (op (.erase c k)) post := Fits.single _ _ (if_pos idle) ⟨rfl, ends⟩

theorem erasePassed (c : Name) (k : Key)
    (safe : ∀ loop ∈ loops, loop.1 = c → a.JustPassed c loop.2 k)
    (ends : post (a.set c ((a.contents c).filter (· ≠ k)))) :
    Runs loops a (op (.erasePassed c k)) post := by
  apply Fits.single _ (a.set c ((a.contents c).filter (· ≠ k)), loops) _ ⟨rfl, ends⟩
  unfold step
  exact if_pos safe

theorem update (k : Key) (ends : post { a with updated := a.updated ++ [k] }) :
    Runs loops a (op (.update k)) post := Fits.single _ _ rfl ⟨rfl, ends⟩

theorem outside (free : Name → Prop) (busy : ∀ loop ∈ loops, ¬ free loop.1)
    (some_ops : ∃ ops, ops ∈ code)
    (only : ∀ ops ∈ code, ∀ o ∈ ops, ∃ c k, free c ∧ (o = .insert c k ∨ o = .erase c k)) :
    Runs loops a code (a.Same free) := by
  have all (ops : List (Op Name Key))
      (only : ∀ o ∈ ops, ∃ c k, free c ∧ (o = .insert c k ∨ o = .erase c k))
      (a : Memory Name Key) : ∃ b, exec (a, loops) ops = some (b, loops) ∧ a.Same free b := by
    induction ops generalizing a with
    | nil => exact ⟨a, rfl, .refl a⟩
    | cons o ops ih =>
        obtain ⟨c, k, left_free, change⟩ := only o List.mem_cons_self
        have idle : ∀ loop ∈ loops, loop.1 ≠ c := by
          rintro loop member rfl
          exact busy loop member left_free
        obtain ⟨keys, stepped⟩ : ∃ keys, step (a, loops) o = some (a.set c keys, loops) := by
          rcases change with rfl | rfl <;> exact ⟨_, if_pos idle⟩
        obtain ⟨b, ran, same⟩ := ih (fun o later => only o (List.mem_cons_of_mem _ later))
          (a.set c keys)
        refine ⟨b, ?_, (Memory.Same.set a c keys left_free).trans same⟩
        rw [exec, stepped]
        exact ran
  refine ⟨some_ops, fun ops member => ?_⟩
  obtain ⟨b, ran, same⟩ := all ops (only ops member) a
  exact ⟨(b, loops), ran, rfl, same⟩

end Runs

/-- `for (auto& item : c) { .. }` -/
def each (c : Name) (body : List (Key × Code Name Key)) : Code Name Key :=
  op (.start c) * (body.map fun pass => op (.read c pass.1) * (pass.2 * op (.next c))).prod *
    op (.stop c)

def eachAhead (c : Name) (body : List (Key × Code Name Key)) : Code Name Key :=
  op (.start c) * (body.map fun pass => op (.read c pass.1) * (op (.next c) * pass.2)).prod *
    op (.stop c)

def drain (c : Name) (body : List (Key × Option (Code Name Key))) : Code Name Key :=
  op (.start c) *
    (body.map fun pass => op (.read c pass.1) *
      match pass.2 with
      | none => op (.next c)
      | some code => code * op (.eraseHere c)).prod *
    op (.stop c)

section Loops

variable {loops : Loops Name} {a : Memory Name Key}

theorem Runs.loop {Item : Type} (c : Name) (pass : Item → Code Name Key) (items : List Item)
    (inv : List Item → Memory Name Key → Prop) (start : inv items a)
    (all : (a.contents c).length = items.length)
    (passes : ∀ item rest b, inv (item :: rest) b →
      Fits (b, (c, rest.length + 1) :: loops) (pass item)
        fun after => after.2 = (c, rest.length) :: loops ∧ inv rest after.1) :
    Runs loops a (op (.start c) * (items.map pass).prod * op (.stop c)) (inv []) := by
  apply Fits.mul (m := fun now => now.2 = (c, 0) :: loops ∧ inv [] now.1)
  · apply Fits.mul (m := fun now => now.2 = (c, items.length) :: loops ∧ inv items now.1)
    · exact Fits.single _ _ rfl ⟨by rw [all], start⟩
    · rintro ⟨b, now⟩ ⟨same, ready⟩
      obtain rfl : now = (c, items.length) :: loops := same
      apply Fits.prod pass
        (fun rest now => now.2 = (c, rest.length) :: loops ∧ inv rest now.1) items ⟨rfl, ready⟩
      rintro item rest ⟨b, now⟩ ⟨same, ready⟩
      obtain rfl : now = (c, rest.length + 1) :: loops := same
      exact passes item rest b ready
  · rintro ⟨b, now⟩ ⟨same, ready⟩
    obtain rfl : now = (c, 0) :: loops := same
    exact Fits.single _ (b, loops) (if_pos rfl) ⟨rfl, ready⟩

theorem Fits.read {b : Memory Name Key} (c : Name) (k : Key) (front rest : List Key)
    (contents : b.contents c = front ++ k :: rest) {code : Code Name Key}
    {post : Memory Name Key × Loops Name → Prop}
    (later : Fits (b, (c, rest.length + 1) :: loops) code post) :
    Fits (b, (c, rest.length + 1) :: loops) (op (.read c k) * code) post := by
  have head : (b.ahead c (rest.length + 1)).head? = some k := by
    rw [← List.length_cons (a := k), ahead_append b c front (k :: rest) contents]
    rfl
  apply Fits.mul (m := fun now => now = (b, (c, rest.length + 1) :: loops))
  · exact Fits.single _ _ (if_pos ⟨rfl, head⟩) rfl
  · rintro now rfl
    exact later

theorem Runs.each (c : Name) (body : List (Key × Code Name Key))
    (keys : a.contents c = body.map Prod.fst)
    (inv : List (Key × Code Name Key) → Memory Name Key → Prop) (start : inv body a)
    (inside : ∀ k code rest front b, inv ((k, code) :: rest) b →
      b.contents c = front ++ k :: rest.map Prod.fst →
      Runs ((c, rest.length + 1) :: loops) b code
        fun after => inv rest after ∧ after.contents c = b.contents c) :
    Runs loops a (each c body) (inv []) := by
  apply weaken (m := fun b =>
    inv [] b ∧ ∃ front, b.contents c = front ++ ([] : List (Key × Code Name Key)).map Prod.fst)
  · apply loop c _ body (fun rest b => inv rest b ∧ ∃ front, b.contents c = front ++ rest.map Prod.fst)
    · exact ⟨start, [], keys⟩
    · rw [keys, List.length_map]
    · rintro ⟨k, code⟩ rest b ⟨ready, front, contents⟩
      have later := inside k code rest front b ready contents
      have many : (rest.map Prod.fst).length = rest.length := List.length_map _
      rw [← many] at later ⊢
      apply Fits.read c k front _ contents
      apply Fits.mul later
      rintro ⟨b', now⟩ ⟨same, ready', unchanged⟩
      obtain rfl : now = (c, (rest.map Prod.fst).length + 1) :: loops := same
      apply Fits.single (.next c) (b', (c, (rest.map Prod.fst).length) :: loops)
      · exact if_pos rfl
      · refine ⟨rfl, ready', front ++ [k], ?_⟩
        rw [unchanged, contents, List.append_assoc]
        rfl
  · exact fun b ends => ends.1

theorem Runs.eachAhead (c : Name) (body : List (Key × Code Name Key))
    (keys : a.contents c = body.map Prod.fst)
    (inv : List (Key × Code Name Key) → Memory Name Key → Prop) (start : inv body a)
    (inside : ∀ k code rest front b, inv ((k, code) :: rest) b →
      b.contents c = front ++ k :: rest.map Prod.fst →
      Runs ((c, rest.length) :: loops) b code
        fun after => inv rest after ∧ ∃ front', after.contents c = front' ++ rest.map Prod.fst) :
    Runs loops a (eachAhead c body) (inv []) := by
  apply weaken (m := fun b =>
    inv [] b ∧ ∃ front, b.contents c = front ++ ([] : List (Key × Code Name Key)).map Prod.fst)
  · apply loop c _ body (fun rest b => inv rest b ∧ ∃ front, b.contents c = front ++ rest.map Prod.fst)
    · exact ⟨start, [], keys⟩
    · rw [keys, List.length_map]
    · rintro ⟨k, code⟩ rest b ⟨ready, front, contents⟩
      have later := inside k code rest front b ready contents
      have many : (rest.map Prod.fst).length = rest.length := List.length_map _
      rw [← many] at later ⊢
      apply Fits.read c k front _ contents
      apply Fits.mul
        (m := fun now => now = (b, (c, (rest.map Prod.fst).length) :: loops))
      · exact Fits.single _ _ (if_pos rfl) rfl
      · rintro now rfl
        exact later
  · exact fun b ends => ends.1

theorem Runs.drain (c : Name) (body : List (Key × Option (Code Name Key)))
    (keys : a.contents c = body.map Prod.fst) (idle : ∀ loop ∈ loops, loop.1 ≠ c)
    (inv : List (Key × Option (Code Name Key)) → Memory Name Key → Prop) (start : inv body a)
    (kept : ∀ k rest front b, inv ((k, none) :: rest) b →
      b.contents c = front ++ k :: rest.map Prod.fst → inv rest b)
    (inside : ∀ k code rest front b, inv ((k, some code) :: rest) b →
      b.contents c = front ++ k :: rest.map Prod.fst →
      Runs ((c, rest.length + 1) :: loops) b code
        fun after => after.contents c = b.contents c ∧
          inv rest (after.set c (front ++ rest.map Prod.fst))) :
    Runs loops a (drain c body) (inv []) := by
  apply weaken (m := fun b => inv [] b ∧
    ∃ front, b.contents c = front ++ ([] : List (Key × Option (Code Name Key))).map Prod.fst)
  · apply loop c _ body (fun rest b => inv rest b ∧ ∃ front, b.contents c = front ++ rest.map Prod.fst)
    · exact ⟨start, [], keys⟩
    · rw [keys, List.length_map]
    · rintro ⟨k, code⟩ rest b ⟨ready, front, contents⟩
      have many : (rest.map Prod.fst).length = rest.length := List.length_map _
      cases code with
      | none =>
          have later := kept k rest front b ready contents
          rw [← many]
          apply Fits.read c k front _ contents
          apply Fits.single (.next c) (b, (c, (rest.map Prod.fst).length) :: loops)
          · exact if_pos rfl
          · refine ⟨rfl, later, front ++ [k], ?_⟩
            rw [contents, List.append_assoc]
            rfl
      | some code =>
          have later := inside k code rest front b ready contents
          rw [← many] at later ⊢
          apply Fits.read c k front _ contents
          apply Fits.mul later
          rintro ⟨b', now⟩ ⟨same, unchanged, ready'⟩
          obtain rfl : now = (c, (rest.map Prod.fst).length + 1) :: loops := same
          rw [contents] at unchanged
          have passed : b'.passed c ((rest.map Prod.fst).length + 1) = front :=
            passed_append b' c front (k :: rest.map Prod.fst) unchanged
          have ahead : b'.ahead c (rest.map Prod.fst).length = rest.map Prod.fst := by
            apply ahead_append b' c (front ++ [k])
            rw [unchanged, List.append_assoc]
            rfl
          apply Fits.single _
            (b'.set c (front ++ rest.map Prod.fst), (c, (rest.map Prod.fst).length) :: loops)
          · dsimp only [step]
            rw [if_pos ⟨rfl, idle⟩, passed, ahead]
          · exact ⟨rfl, ready', front, Memory.set_contents _⟩
  · exact fun b ends => ends.1

end Loops

end Run

end Iterators
