import Mathlib.Algebra.Ring.Int.Defs
import Mathlib.Data.Bool.AllAny
import Mathlib.Data.List.Basic
import ZeldaServer.Lib.Programs

/-! Texts that are gone through by position: searches, runs of characters, balanced brackets, and
the loops that find them. -/

namespace Scanning

open Program (loop)
open WhileLoop (Pass)

variable {α : Type} [DecidableEq α]

def indexOf (needle : List α) : List α → Option Nat
  | [] => if needle = [] then some 0 else none
  | c :: text =>
      if needle <+: c :: text then some 0 else (indexOf needle text).map (· + 1)

/-- `text.find(needle, pos)` -/
def find (needle text : List α) (pos : Nat) : Option Nat :=
  if pos ≤ text.length then (indexOf needle (text.drop pos)).map (pos + ·) else none

/-- `text.substr(start, len)` -/
def substr (text : List α) (start len : Nat) : List α := (text.drop start).take len

def segment (text : List α) (pos stop : Nat) : List α := substr text pos (stop - pos)

theorem indexOf_start (needle rest : List α) : indexOf needle (needle ++ rest) = some 0 := by
  cases needle with
  | nil => cases rest <;> simp [indexOf]
  | cons c needle => simp [indexOf]

def Apart (needle front rest : List α) : Prop :=
  ∀ i < front.length, ¬ needle <+: (front ++ rest).drop i

omit [DecidableEq α] in
theorem Apart.nil (needle rest : List α) : Apart needle [] rest := fun i less => by cases less

omit [DecidableEq α] in
theorem Apart.cons {needle front rest : List α} {c : α} (head : ¬ needle <+: c :: (front ++ rest))
    (tail : Apart needle front rest) : Apart needle (c :: front) rest := by
  intro i less
  cases i with
  | zero => exact head
  | succ i => exact tail i (by simpa using less)

omit [DecidableEq α] in
theorem Apart.append {needle front middle rest : List α}
    (first : Apart needle front (middle ++ rest)) (second : Apart needle middle rest) :
    Apart needle (front ++ middle) rest := by
  intro i less
  rw [List.append_assoc]
  by_cases inside : i < front.length
  · exact first i inside
  · rw [List.length_append] at less
    have later := second (i - front.length) (by omega)
    rwa [List.drop_append, List.drop_eq_nil_of_le (by omega), List.nil_append]

omit [DecidableEq α] in
theorem apart_single {c : α} {front : List α} (absent : c ∉ front) (rest : List α) :
    Apart [c] front rest := by
  induction front with
  | nil => exact .nil _ _
  | cons head front ih =>
      rw [List.mem_cons, not_or] at absent
      refine .cons ?_ (ih absent.2)
      rw [List.cons_prefix_cons]
      exact fun both => absent.1 both.1

theorem indexOf_apart {needle front rest : List α} (apart : Apart needle front rest) :
    indexOf needle (front ++ rest) = (indexOf needle rest).map (front.length + ·) := by
  induction front with
  | nil => simp
  | cons c front ih =>
      have head : ¬ needle <+: c :: (front ++ rest) := apart 0 (Nat.succ_pos _)
      have tail : Apart needle front rest := fun i less => apart (i + 1) (Nat.succ_lt_succ less)
      rw [List.cons_append, indexOf, if_neg head, ih tail, Option.map_map]
      congr 1
      funext n
      simp only [Function.comp_apply, List.length_cons]
      omega

theorem indexOf_none {needle text : List α} (apart : Apart needle text [])
    (some_char : needle ≠ []) :
    indexOf needle text = none := by
  have all := indexOf_apart apart
  rw [List.append_nil] at all
  simp [all, indexOf, some_char]

theorem indexOf_spec {needle text : List α} {n : Nat} (found : indexOf needle text = some n) :
    needle <+: text.drop n ∧ n ≤ text.length ∧ ∀ i < n, ¬ needle <+: text.drop i := by
  induction text generalizing n with
  | nil =>
      unfold indexOf at found
      split at found
      case isTrue empty =>
        cases found
        exact ⟨empty ▸ List.nil_prefix, Nat.le_refl _, fun i less => by cases less⟩
      case isFalse => cases found
  | cons c text ih =>
      unfold indexOf at found
      split at found
      case isTrue here =>
        cases found
        exact ⟨here, Nat.zero_le _, fun i less => by cases less⟩
      case isFalse not_here =>
        obtain ⟨m, later, rfl⟩ := Option.map_eq_some_iff.mp found
        obtain ⟨occurs, inside, first⟩ := ih later
        refine ⟨occurs, Nat.succ_le_succ inside, fun i less => ?_⟩
        cases i with
        | zero => exact not_here
        | succ i => exact first i (Nat.lt_of_succ_lt_succ less)

theorem find_spec {needle text : List α} {pos n : Nat} (found : find needle text pos = some n) :
    pos ≤ n ∧ needle <+: text.drop n ∧ n + needle.length ≤ text.length := by
  unfold find at found
  split at found
  case isTrue within =>
    obtain ⟨m, later, rfl⟩ := Option.map_eq_some_iff.mp found
    obtain ⟨occurs, inside, -⟩ := indexOf_spec later
    rw [List.drop_drop] at occurs
    refine ⟨Nat.le_add_right _ _, occurs, ?_⟩
    have length := occurs.length_le
    rw [List.length_drop] at inside length
    omega
  case isFalse => cases found

theorem find_single {c : α} {text front rest : List α} {pos : Nat}
    (split : text.drop pos = front ++ c :: rest) (absent : c ∉ front) :
    find [c] text pos = some (pos + front.length) := by
  have inside : pos ≤ text.length := by
    by_contra beyond
    rw [List.drop_eq_nil_of_le (by omega)] at split
    simp at split
  have found := indexOf_start [c] rest
  rw [List.singleton_append] at found
  rw [find, if_pos inside, split, indexOf_apart (apart_single absent _), found]
  rfl

theorem find_single_none {c : α} {text : List α} {pos : Nat} (absent : c ∉ text.drop pos) :
    find [c] text pos = none := by
  unfold find
  split
  · rw [indexOf_none (apart_single absent []) (by simp)]
    rfl
  · rfl

section Runs

omit [DecidableEq α]

theorem segment_behind (text : List α) (pos stop n : Nat) :
    segment text (pos + n) stop = (segment text pos stop).drop n := by
  unfold segment substr
  rw [List.drop_take, List.drop_drop, Nat.sub_add_eq]

theorem segment_nil (text : List α) (pos stop : Nat) (behind : stop ≤ pos) :
    segment text pos stop = [] := by
  unfold segment substr
  rw [Nat.sub_eq_zero_of_le behind, List.take_zero]

theorem segment_cons {text : List α} {pos stop : Nat} {c : α} {rest : List α}
    (split : segment text pos stop = c :: rest) :
    pos < stop ∧ text[pos]? = some c ∧ segment text (pos + 1) stop = rest := by
  have before : pos < stop := by
    by_contra behind
    rw [segment_nil text pos stop (by omega)] at split
    cases split
  refine ⟨before, ?_, ?_⟩
  · obtain ⟨more, length⟩ : ∃ more, stop - pos = more + 1 := ⟨stop - pos - 1, by omega⟩
    unfold segment substr at split
    rw [length] at split
    rw [← List.head?_drop]
    cases tail : text.drop pos with
    | nil => simp [tail] at split
    | cons d tail' => simp_all
  · rw [segment_behind, split]
    rfl

theorem segment_empty {text : List α} {pos stop : Nat} (inside : stop ≤ text.length)
    (empty : segment text pos stop = []) : stop ≤ pos := by
  unfold segment substr at empty
  have length := congrArg List.length empty
  rw [List.length_take, List.length_drop, List.length_nil] at length
  omega

theorem segment_append (front text rest : List α) :
    segment (front ++ (text ++ rest)) front.length (front.length + text.length) = text := by
  simp [segment, substr]

def skipTo (kind : α → Bool) (text : List α) (stop pos : Nat) : Nat :=
  pos + ((segment text pos stop).takeWhile kind).length

theorem segment_front {text : List α} {pos stop : Nat} {front rest : List α}
    (split : segment text pos stop = front ++ rest) :
    segment text pos (pos + front.length) = front := by
  have begins : front <+: text.drop pos :=
    (List.prefix_append front rest).trans (split ▸ List.take_prefix _ _)
  unfold segment substr
  rw [Nat.add_sub_cancel_left]
  exact (List.prefix_iff_eq_take.mp begins).symm

theorem segment_skip (kind : α → Bool) (text : List α) (stop pos : Nat) :
    segment text (skipTo kind text stop pos) stop = (segment text pos stop).dropWhile kind := by
  unfold skipTo
  rw [segment_behind]
  generalize segment text pos stop = run
  calc
    run.drop (run.takeWhile kind).length =
        (run.takeWhile kind ++ run.dropWhile kind).drop (run.takeWhile kind).length := by
      rw [List.takeWhile_append_dropWhile]
    _ = run.dropWhile kind := List.drop_left

theorem segment_run (kind : α → Bool) (text : List α) (stop pos : Nat) :
    segment text pos (skipTo kind text stop pos) = (segment text pos stop).takeWhile kind :=
  segment_front List.takeWhile_append_dropWhile.symm

theorem skipTo_run {kind : α → Bool} {text run rest : List α} {c : α} {stop pos : Nat}
    (split : text.drop pos = run ++ c :: rest) (all : ∀ c ∈ run, kind c = true)
    (ends : kind c = false) (before : pos + run.length < stop) :
    skipTo kind text stop pos = pos + run.length := by
  obtain ⟨more, length⟩ : ∃ more, stop - pos = run.length + (more + 1) :=
    ⟨stop - pos - run.length - 1, by omega⟩
  unfold skipTo segment substr
  rw [split, length, List.take_length_add_append, List.take_succ_cons,
    List.takeWhile_append_of_pos all, List.takeWhile_cons_of_neg (by simp [ends]),
    List.append_nil]

/-- `while (pos < stop && kind(text[pos])) pos++;` -/
def skip {ε : Type} (kind : α → Bool) (text : List α) (stop pos : Nat) : Program ε Nat :=
  loop (fun pos => pure
    (if pos < stop ∧ (text[pos]?).any kind = true then .again (pos + 1) else .exit pos)) pos

theorem means_skip {ε : Type} (kind : α → Bool) (text : List α) (stop pos : Nat)
    (inside : stop ≤ text.length) :
    (skip kind text stop pos : Program ε Nat).Means (.gave (skipTo kind text stop pos)) := by
  unfold skip skipTo
  induction rest : segment text pos stop generalizing pos with
  | nil =>
      have behind := segment_empty inside rest
      apply Program.means_loop_exit
      rw [if_neg (by omega)]
      exact Program.means_pure _
  | cons c rest ih =>
      obtain ⟨before, here, behind⟩ := segment_cons rest
      rw [List.takeWhile_cons]
      split
      case isTrue fits =>
        rw [List.length_cons, Nat.add_comm _ 1, ← Nat.add_assoc]
        refine Program.means_loop_again ?_ (ih (pos + 1) behind)
        rw [if_pos ⟨before, by simp [here, fits]⟩]
        exact Program.means_pure _
      case isFalse other =>
        apply Program.means_loop_exit
        rw [if_neg (by simp [here, other])]
        exact Program.means_pure _

theorem means_bind_skip {ε β : Type} {kind : α → Bool} {text : List α} {stop pos : Nat}
    {f : Nat → Program ε β} {outcome : Outcome ε β} (inside : stop ≤ text.length)
    (later : ∀ next, next = pos + ((segment text pos stop).takeWhile kind).length →
      segment text pos next = (segment text pos stop).takeWhile kind →
      segment text next stop = (segment text pos stop).dropWhile kind → (f next).Means outcome) :
    (skip kind text stop pos >>= f).Means outcome :=
  Program.means_bind_gave (means_skip kind text stop pos inside)
    (later _ rfl (segment_run kind text stop pos) (segment_skip kind text stop pos))

theorem skipTo_le (kind : α → Bool) (text : List α) (stop pos : Nat) (before : pos ≤ stop) :
    pos ≤ skipTo kind text stop pos ∧ skipTo kind text stop pos ≤ stop := by
  unfold skipTo segment substr
  have run := (List.takeWhile_prefix kind (l := (text.drop pos).take (stop - pos))).length_le
  rw [List.length_take] at run
  omega

/-- The runs of characters of a kind; `run` is the one that is under way. -/
def runsFrom (kind : α → Bool) (run : List α) : List α → List (List α)
  | [] => if run.isEmpty then [] else [run]
  | c :: text =>
      if kind c then runsFrom kind (run ++ [c]) text
      else if run.isEmpty then runsFrom kind [] text
      else run :: runsFrom kind [] text

def runs (kind : α → Bool) (text : List α) : List (List α) := runsFrom kind [] text

theorem runs_nil (kind : α → Bool) : runs kind [] = [] := rfl

theorem runs_other {kind : α → Bool} {c : α} (other : kind c = false) (text : List α) :
    runs kind (c :: text) = runs kind text := by simp [runs, runsFrom, other]

theorem runs_others {kind : α → Bool} (front rest : List α) (others : ∀ c ∈ front, kind c = false) :
    runs kind (front ++ rest) = runs kind rest := by
  induction front with
  | nil => rfl
  | cons c front ih =>
      obtain ⟨first, later⟩ := List.forall_mem_cons.mp others
      rw [List.cons_append, runs_other first, ih later]

theorem runsFrom_run {kind : α → Bool} (run front rest : List α)
    (all : ∀ c ∈ front, kind c = true) :
    runsFrom kind run (front ++ rest) = runsFrom kind (run ++ front) rest := by
  induction front generalizing run with
  | nil => simp
  | cons c front ih =>
      obtain ⟨first, later⟩ := List.forall_mem_cons.mp all
      rw [List.cons_append, runsFrom, if_pos first, ih _ later, List.append_assoc]
      rfl

theorem runs_run {kind : α → Bool} (front rest : List α) (some_char : front ≠ [])
    (all : ∀ c ∈ front, kind c = true) (ends : ∀ c ∈ rest.head?, kind c = false) :
    runs kind (front ++ rest) = front :: runs kind rest := by
  have nonempty : front.isEmpty = false := by simpa using some_char
  unfold runs
  rw [runsFrom_run [] front rest all, List.nil_append]
  cases rest with
  | nil => simp [runsFrom, nonempty]
  | cons c rest =>
      have other : kind c = false := ends c rfl
      simp [runsFrom, other, nonempty]

theorem runs_takeWhile {kind : α → Bool} {c : α} (text : List α) (fits : kind c = true) :
    runs kind (c :: text) = (c :: text).takeWhile kind :: runs kind ((c :: text).dropWhile kind) := by
  have ends : ∀ d ∈ ((c :: text).dropWhile kind).head?, kind d = false := by
    intro d first
    have other := List.head?_dropWhile_not kind (c :: text)
    rwa [Option.mem_def.mp first] at other
  have all := runs_run _ _ (by simp [fits])
    (List.all_eq_true.mp (List.all_takeWhile (p := kind) (l := c :: text))) ends
  rwa [List.takeWhile_append_dropWhile] at all

end Runs

def deepen (opening closer : α) (depth : Int) (c : α) : Int :=
  if c = opening then depth + 1 else if c = closer then depth - 1 else depth

/-- How much of the text there is up to where the depth is 0, and the depth there. -/
def closing (opening closer : α) : List α → Int → Nat × Int
  | [], depth => (0, depth)
  | c :: text, depth =>
      if 0 < depth then
        let rest := closing opening closer text (deepen opening closer depth c)
        (rest.1 + 1, rest.2)
      else (0, depth)

/-- `while (pos < text.length() && count > 0) { if (text[pos] == opening) count++; .. pos++; }` -/
def close {ε : Type} (opening closer : α) (text : List α) (pos : Nat) : Program ε (Nat × Int) :=
  loop (fun (pos, count) => pure
    (match text[pos]? with
    | some c =>
        if 0 < count then .again (pos + 1, deepen opening closer count c) else .exit (pos, count)
    | none => .exit (pos, count))) (pos, 1)

theorem closing_le (opening closer : α) (text : List α) (depth : Int) :
    (closing opening closer text depth).1 ≤ text.length := by
  induction text generalizing depth with
  | nil => exact Nat.le_refl _
  | cons c text ih =>
      unfold closing
      split
      · exact Nat.succ_le_succ (ih _)
      · exact Nat.zero_le _

theorem means_close {ε : Type} (opening closer : α) (text : List α) (pos : Nat) :
    (close opening closer text pos : Program ε (Nat × Int)).Means
      (.gave (pos + (closing opening closer (text.drop pos) 1).1,
        (closing opening closer (text.drop pos) 1).2)) := by
  unfold close
  generalize (1 : Int) = depth
  induction rest : text.drop pos generalizing pos depth with
  | nil =>
      have beyond : text[pos]? = none := by
        rw [← List.head?_drop, rest]
        rfl
      apply Program.means_loop_exit
      simp only [beyond]
      exact Program.means_pure _
  | cons c tail ih =>
      have here : text[pos]? = some c := by
        rw [← List.head?_drop, rest]
        rfl
      have behind : text.drop (pos + 1) = tail := by
        rw [← List.tail_drop, rest]
        rfl
      unfold closing
      split
      case isTrue deep =>
        have later := ih (pos + 1) (deepen opening closer depth c) behind
        dsimp only
        rw [show ∀ n, pos + (n + 1) = pos + 1 + n by omega]
        refine Program.means_loop_again ?_ later
        simp only [here, if_pos deep]
        exact Program.means_pure _
      case isFalse shallow =>
        apply Program.means_loop_exit
        simp only [here, if_neg shallow]
        exact Program.means_pure _

end Scanning
