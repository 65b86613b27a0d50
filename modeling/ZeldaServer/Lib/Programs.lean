import ZeldaServer.Lib.Loop

/-! Programs with loops and exceptions, run with fuel, and what they mean: the value or the
exception they end with, or that they never end. -/

inductive Outcome (ε α : Type) where
  | never
  | threw (e : ε)
  | gave (a : α)
  deriving DecidableEq

namespace Outcome

variable {ε α β : Type}

protected def bind : Outcome ε α → (α → Outcome ε β) → Outcome ε β
  | .never, _ => .never
  | .threw e, _ => .threw e
  | .gave a, f => f a

instance : Monad (Outcome ε) where
  pure := .gave
  bind := Outcome.bind

instance : LawfulMonad (Outcome ε) := LawfulMonad.mk' (Outcome ε)
  (fun o => by cases o <;> rfl)
  (fun _ _ => rfl)
  (fun o _ _ => by cases o <;> rfl)

@[simp] theorem never_bind (f : α → Outcome ε β) : (Outcome.never >>= f) = .never := rfl
@[simp] theorem threw_bind (e : ε) (f : α → Outcome ε β) : (Outcome.threw e >>= f) = .threw e := rfl
@[simp] theorem gave_bind (a : α) (f : α → Outcome ε β) : (Outcome.gave a >>= f) = f a := rfl

@[simp] theorem bind_gave (o : Outcome ε α) : (o >>= fun a => .gave a) = o := bind_pure o

protected def ofExcept : Except ε α → Outcome ε α
  | .error e => .threw e
  | .ok a => .gave a

def collect (f : β → Outcome ε α) : List β → Outcome ε (List α)
  | [] => .gave []
  | item :: items => do
      let value ← f item
      let values ← collect f items
      return value :: values

def void (o : Outcome ε α) : Outcome ε Unit := o >>= fun _ => .gave ()

theorem void_unit (o : Outcome ε Unit) : o.void = o := by cases o <;> rfl

def inTurn : List (Outcome ε Unit) → Outcome ε Unit
  | [] => .gave ()
  | o :: rest => o >>= fun _ => inTurn rest

theorem inTurn_append (front back : List (Outcome ε Unit)) :
    inTurn (front ++ back) = inTurn front >>= fun _ => inTurn back := by
  induction front with
  | nil => rfl
  | cons o front ih => rw [List.cons_append, inTurn, inTurn, ih, bind_assoc]

theorem void_bind (o : Outcome ε α) (f : α → Outcome ε β) (rest : Outcome ε Unit)
    (each : ∀ a, (f a).void = rest) : (o >>= f).void = o.void >>= fun _ => rest := by
  cases o with
  | gave a => exact each a
  | _ => rfl

theorem void_map (o : Outcome ε α) (f : α → β) : (o >>= fun a => .gave (f a)).void = o.void := by
  cases o <;> rfl

theorem void_collect (f : β → Outcome ε α) (items : List β) :
    (collect f items).void = inTurn (items.map fun item => (f item).void) := by
  induction items with
  | nil => rfl
  | cons item items ih =>
      have later (value : α) :
          (collect f items >>= fun values => pure (value :: values)).void =
            (collect f items).void := void_map _ _
      rw [collect, void_bind _ _ _ later, ih]
      rfl

theorem inTurn_gave_iff (outcomes : List (Outcome ε Unit)) :
    inTurn outcomes = .gave () ↔ ∀ o ∈ outcomes, o = .gave () := by
  induction outcomes with
  | nil => simp [inTurn]
  | cons o outcomes ih =>
      rw [List.forall_mem_cons]
      cases o with
      | never => simp [inTurn]
      | threw e => simp [inTurn]
      | gave value => simpa [inTurn] using ih

theorem inTurn_ends_iff (outcomes : List (Outcome ε Unit)) :
    inTurn outcomes ≠ .never ↔
      ∀ front back, outcomes = front ++ .never :: back → ∃ e, .threw e ∈ front := by
  induction outcomes with
  | nil => simp [inTurn]
  | cons o outcomes ih =>
      cases o with
      | never =>
          simp only [inTurn, never_bind, ne_eq, not_true_eq_false, false_iff, not_forall]
          exact ⟨[], outcomes, rfl, by simp⟩
      | threw e =>
          simp only [inTurn, threw_bind, ne_eq, reduceCtorEq, not_false_eq_true, true_iff]
          intro front back split
          cases front with
          | nil => cases split
          | cons o front =>
              obtain ⟨rfl, -⟩ := List.cons.inj split
              exact ⟨e, List.mem_cons_self⟩
      | gave value =>
          simp only [inTurn, gave_bind, ih]
          constructor
          · intro all front back split
            cases front with
            | nil => cases split
            | cons o front =>
                obtain ⟨e, member⟩ := all front back (List.cons.inj split).2
                exact ⟨e, List.mem_cons_of_mem _ member⟩
          · rintro all front back rfl
            obtain ⟨e, member⟩ := all (.gave value :: front) back rfl
            exact ⟨e, by simpa using member⟩

def attempt : Outcome ε α → Outcome ε (Except ε α)
  | .never => .never
  | .threw e => .gave (.error e)
  | .gave a => .gave (.ok a)

end Outcome

/-- What comes of a program with so much fuel for each of its loops, `never` where it is not
enough; more fuel does not change it. -/
@[ext] structure Program (ε α : Type) where
  run : Nat → Outcome ε α
  mono : ∀ fuel more, fuel ≤ more → run fuel ≠ .never → run more = run fuel

namespace Program

open WhileLoop (Pass)

variable {ε α β σ : Type}

protected def pure (a : α) : Program ε α := ⟨fun _ => .gave a, fun _ _ _ _ => rfl⟩

def throw (e : ε) : Program ε α := ⟨fun _ => .threw e, fun _ _ _ _ => rfl⟩

protected def bind (p : Program ε α) (f : α → Program ε β) : Program ε β where
  run fuel := p.run fuel >>= fun a => (f a).run fuel
  mono fuel more enough done := by
    have same := p.mono fuel more enough
    cases first : p.run fuel with
    | never => simp [first] at done
    | threw e => simp [same (by simp [first]), first]
    | gave a =>
        rw [first, Outcome.gave_bind] at done
        rw [same (by simp [first]), first, Outcome.gave_bind, Outcome.gave_bind]
        exact (f a).mono fuel more enough done

instance : Monad (Program ε) where
  pure := Program.pure
  bind := Program.bind

instance : LawfulMonad (Program ε) := LawfulMonad.mk' (Program ε)
  (fun p => Program.ext (funext fun fuel => bind_pure (p.run fuel)))
  (fun _ _ => rfl)
  (fun p f g => Program.ext (funext fun fuel =>
    bind_assoc (p.run fuel) (fun a => (f a).run fuel) fun b => (g b).run fuel))

/-- `try { .. } catch`: the exception is a value. -/
def attempt (p : Program ε α) : Program ε (Except ε α) where
  run fuel := (p.run fuel).attempt
  mono fuel more enough done := by
    have apart : p.run fuel ≠ .never := fun never => done (congrArg Outcome.attempt never)
    exact congrArg Outcome.attempt (p.mono fuel more enough apart)

protected def ofExcept : Except ε α → Program ε α
  | .error e => throw e
  | .ok a => Program.pure a

def collect (f : β → Program ε α) : List β → Program ε (List α)
  | [] => pure []
  | item :: items => do
      let value ← f item
      let values ← collect f items
      return value :: values

def passes (body : σ → Program ε (Pass σ α)) (fuel : Nat) : Nat → σ → Outcome ε α
  | 0, _ => .never
  | count + 1, state => (body state).run fuel >>= fun
      | .again next => passes body fuel count next
      | .exit value => .gave value

theorem passes_mono (body : σ → Program ε (Pass σ α)) (fuel more count count' : Nat)
    (enough : fuel ≤ more) (enough' : count ≤ count') (state : σ)
    (done : passes body fuel count state ≠ .never) :
    passes body more count' state = passes body fuel count state := by
  induction count generalizing count' state with
  | zero => exact absurd rfl done
  | succ count ih =>
      obtain ⟨rest, rfl⟩ : ∃ rest, count' = rest + 1 := ⟨count' - 1, by omega⟩
      rw [passes] at done ⊢
      rw [passes]
      have same := (body state).mono fuel more enough
      cases first : (body state).run fuel with
      | never => simp [first] at done
      | threw e => simp [same (by simp [first]), first]
      | gave pass =>
          rw [same (by simp [first]), first, Outcome.gave_bind, Outcome.gave_bind]
          rw [first, Outcome.gave_bind] at done
          cases pass with
          | exit value => rfl
          | again next => exact ih rest (by omega) next done

def loop (body : σ → Program ε (Pass σ α)) (state : σ) : Program ε α where
  run fuel := passes body fuel fuel state
  mono fuel more enough := passes_mono body fuel more fuel more enough enough state

def Means (p : Program ε α) (outcome : Outcome ε α) : Prop :=
  ∃ enough, ∀ fuel, enough ≤ fuel → p.run fuel = outcome

theorem means_unique {p : Program ε α} {first second : Outcome ε α} (one : p.Means first)
    (two : p.Means second) : first = second := by
  obtain ⟨m, given⟩ := one
  obtain ⟨n, given'⟩ := two
  exact (given (max m n) (Nat.le_max_left m n)).symm.trans (given' _ (Nat.le_max_right m n))

theorem means_of_run {p : Program ε α} (fuel : Nat) (done : p.run fuel ≠ .never) :
    p.Means (p.run fuel) := ⟨fuel, fun more enough => p.mono fuel more enough done⟩

theorem exists_means (p : Program ε α) : ∃ outcome, p.Means outcome := by
  by_cases done : ∃ fuel, p.run fuel ≠ .never
  · obtain ⟨fuel, done⟩ := done
    exact ⟨_, means_of_run fuel done⟩
  · exact ⟨.never, 0, fun fuel _ => by_contra fun apart => done ⟨fuel, apart⟩⟩

theorem means_pure (a : α) : (pure a : Program ε α).Means (.gave a) := ⟨0, fun _ _ => rfl⟩

theorem means_throw (e : ε) : (throw e : Program ε α).Means (.threw e) := ⟨0, fun _ _ => rfl⟩

theorem means_bind {p : Program ε α} {f : α → Program ε β} {outcome : Outcome ε α}
    {rest : α → Outcome ε β} (first : p.Means outcome)
    (later : ∀ a, outcome = .gave a → (f a).Means (rest a)) :
    (p >>= f).Means (outcome >>= rest) := by
  obtain ⟨m, given⟩ := first
  have ran (fuel : Nat) (enough : m ≤ fuel) :
      (p >>= f).run fuel = outcome >>= fun a => (f a).run fuel := by
    rw [← given fuel enough]
    rfl
  cases outcome with
  | never => exact ⟨m, ran⟩
  | threw e => exact ⟨m, ran⟩
  | gave a =>
      obtain ⟨n, given'⟩ := later a rfl
      refine ⟨max m n, fun fuel enough => ?_⟩
      rw [ran fuel (by omega)]
      exact given' fuel (by omega)

theorem means_bind_gave {p : Program ε α} {f : α → Program ε β} {a : α} {outcome : Outcome ε β}
    (first : p.Means (.gave a)) (later : (f a).Means outcome) : (p >>= f).Means outcome := by
  have all : (p >>= f).Means (Outcome.gave a >>= fun _ => outcome) := by
    apply means_bind first
    rintro other ⟨⟩
    exact later
  exact all

theorem means_bind_never {p : Program ε α} {f : α → Program ε β} (first : p.Means .never) :
    (p >>= f).Means .never := by
  have all : (p >>= f).Means ((Outcome.never : Outcome ε α) >>= fun _ => .never) := by
    apply means_bind first
    rintro a ⟨⟩
  exact all

theorem means_bind_threw {p : Program ε α} {f : α → Program ε β} {e : ε}
    (first : p.Means (.threw e)) : (p >>= f).Means (.threw e) := by
  have all : (p >>= f).Means ((Outcome.threw e : Outcome ε α) >>= fun _ => .never) := by
    apply means_bind first
    rintro a ⟨⟩
  exact all

theorem bind_gives {p : Program ε α} {f : α → Program ε β} {b : β}
    (all : (p >>= f).Means (.gave b)) : ∃ a, p.Means (.gave a) ∧ (f a).Means (.gave b) := by
  obtain ⟨outcome, first⟩ := p.exists_means
  cases outcome with
  | never => cases means_unique all (means_bind_never first)
  | threw e => cases means_unique all (means_bind_threw first)
  | gave a =>
      obtain ⟨later, second⟩ := (f a).exists_means
      rw [← means_unique all (means_bind_gave first second)] at second
      exact ⟨a, first, second⟩

theorem means_ofExcept (value : Except ε α) :
    (Program.ofExcept value).Means (.ofExcept value) := by
  cases value with
  | error e => exact means_throw e
  | ok a => exact means_pure a

theorem ofExcept_gives {value : Except ε α} {a : α}
    (gives : (Program.ofExcept value).Means (.gave a)) : value = .ok a := by
  have same := means_unique (means_ofExcept value) gives
  cases value with
  | error e => cases same
  | ok b =>
      cases same
      rfl

theorem means_collect {f : β → Program ε α} {outcome : β → Outcome ε α}
    (each : ∀ item, (f item).Means (outcome item)) (items : List β) :
    (collect f items).Means (Outcome.collect outcome items) := by
  induction items with
  | nil => exact means_pure []
  | cons item items ih =>
      apply means_bind (each item)
      intro value _
      exact means_bind ih fun values _ => means_pure (value :: values)

theorem means_attempt {p : Program ε α} {outcome : Outcome ε α} (means : p.Means outcome) :
    (attempt p).Means outcome.attempt := by
  obtain ⟨m, given⟩ := means
  exact ⟨m, fun fuel enough => congrArg Outcome.attempt (given fuel enough)⟩

section Loop

variable {body : σ → Program ε (Pass σ α)} {state next : σ}

theorem means_loop {pass : Outcome ε (Pass σ α)} (rest : σ → Outcome ε α)
    (first : (body state).Means pass)
    (later : ∀ next, pass = .gave (.again next) → (loop body next).Means (rest next)) :
    (loop body state).Means (pass >>= fun
      | .again next => rest next
      | .exit value => .gave value) := by
  obtain ⟨m, given⟩ := first
  have ran (fuel : Nat) (enough : m + 1 ≤ fuel) :
      (loop body state).run fuel = pass >>= fun
        | .again next => passes body fuel (fuel - 1) next
        | .exit value => .gave value := by
    obtain ⟨count, rfl⟩ : ∃ count, fuel = count + 1 := ⟨fuel - 1, by omega⟩
    rw [← given (count + 1) (by omega)]
    rfl
  match pass with
  | .never => exact ⟨m + 1, ran⟩
  | .threw e => exact ⟨m + 1, ran⟩
  | .gave (.exit value) => exact ⟨m + 1, ran⟩
  | .gave (.again next) =>
      obtain ⟨n, given'⟩ := later next rfl
      refine ⟨max m n + 1, fun fuel enough => (ran fuel (by omega)).trans ?_⟩
      have before : passes body (fuel - 1) (fuel - 1) next = rest next := given' _ (by omega)
      have all : passes body fuel fuel next = rest next := given' fuel (by omega)
      change passes body fuel (fuel - 1) next = rest next
      by_cases none : rest next = .never
      · rw [none]
        by_contra done
        have same := passes_mono body fuel fuel (fuel - 1) fuel (by omega) (by omega) next done
        exact done (same.symm.trans (all.trans none))
      · rw [passes_mono body (fuel - 1) fuel (fuel - 1) _ (by omega) (by omega) next
          (before ▸ none), before]

theorem means_loop_pass {outcome : Outcome ε α}
    (all : (body state >>= fun
      | .again next => loop body next
      | .exit value => pure value).Means outcome) : (loop body state).Means outcome := by
  obtain ⟨pass, first⟩ := (body state).exists_means
  choose rest means using fun next => (loop body next).exists_means
  have same : (body state >>= fun
      | .again next => loop body next
      | .exit value => pure value).Means (pass >>= fun
        | .again next => rest next
        | .exit value => .gave value) := by
    apply means_bind first
    rintro (next | value) -
    · exact means next
    · exact means_pure value
  rw [means_unique all same]
  exact means_loop rest first fun next _ => means next

theorem means_loop_again {outcome : Outcome ε α}
    (pass : (body state).Means (.gave (.again next))) (later : (loop body next).Means outcome) :
    (loop body state).Means outcome := by
  have all := means_loop (fun _ => outcome) pass
  rw [Outcome.gave_bind] at all
  apply all
  rintro other ⟨⟩
  exact later

theorem means_loop_exit {value : α} (pass : (body state).Means (.gave (.exit value))) :
    (loop body state).Means (.gave value) := by
  have all := means_loop (fun _ => .never) pass
  rw [Outcome.gave_bind] at all
  apply all
  rintro other ⟨⟩

theorem means_loop_stuck (Stuck : σ → Prop)
    (again : ∀ state, Stuck state → ∃ next, (body state).Means (.gave (.again next)) ∧ Stuck next)
    (stuck : Stuck state) : (loop body state).Means .never := by
  have never (fuel count : Nat) (state : σ) (stuck : Stuck state) :
      passes body fuel count state = .never := by
    induction count generalizing state with
    | zero => rfl
    | succ count ih =>
        obtain ⟨next, means, still⟩ := again state stuck
        rw [passes]
        by_cases none : (body state).run fuel = .never
        · rw [none]
          rfl
        · rw [means_unique (means_of_run fuel none) means]
          exact ih next still
  exact ⟨0, fun fuel _ => never fuel fuel state stuck⟩

end Loop

end Program
