import Mathlib.Tactic.Common

/-! Length-prefixed framing of a stream. A frame begins with a header of fixed
length, and the header alone says how long the whole frame is. -/

/-- A framing of lists over `α`: `size` may look at the header and no further. -/
structure Framing (α : Type) where
  header : Nat
  size : List α → Nat
  positive : 0 < header
  reads_header : ∀ front back, header ≤ front.length → size (front ++ back) = size front

namespace Framing

variable {α : Type} (F : Framing α)

def IsFrame (frame : List α) : Prop := F.header ≤ frame.length ∧ F.size frame = frame.length

/-- No whole frame stands at the head of the list: it is too short for a header,
or for the frame its header announces. -/
def Incomplete (rest : List α) : Prop := rest.length < F.header ∨ rest.length < F.size rest

/-- `stream` is `frames` one after the other, followed by the incomplete `rest`. -/
structure Deframes (stream : List α) (frames : List (List α)) (rest : List α) : Prop where
  split : stream = frames.flatten ++ rest
  whole : ∀ frame ∈ frames, F.IsFrame frame
  incomplete : F.Incomplete rest

/-- Behind some whole frames comes a header that announces less than a header. -/
def Broken (stream : List α) : Prop :=
  ∃ (frames : List (List α)) (rest : List α), stream = frames.flatten ++ rest ∧ (∀ frame ∈ frames, F.IsFrame frame) ∧
    F.header ≤ rest.length ∧ F.size rest < F.header

theorem size_frame (frame back : List α) (whole : F.IsFrame frame) :
    F.size (frame ++ back) = frame.length :=
  (F.reads_header frame back whole.1).trans whole.2

theorem frame_not_incomplete (frame back : List α) (whole : F.IsFrame frame) :
    ¬ F.Incomplete (frame ++ back) := by
  rintro (short | short)
  · have long := whole.1
    rw [List.length_append] at short
    omega
  · rw [F.size_frame frame back whole, List.length_append] at short
    omega

theorem frame_unique (first second : List α) (back other : List α) (one : F.IsFrame first)
    (two : F.IsFrame second) (same : first ++ back = second ++ other) :
    first = second ∧ back = other := by
  have size := F.size_frame first back one
  rw [same, F.size_frame second other two] at size
  exact List.append_inj same size.symm

theorem deframes_unique (stream : List α) (frames others : List (List α)) (rest tail : List α)
    (one : F.Deframes stream frames rest) (two : F.Deframes stream others tail) :
    frames = others ∧ rest = tail := by
  induction frames generalizing stream others with
  | nil =>
      cases others with
      | nil => exact ⟨rfl, by simpa [one.split] using two.split⟩
      | cons other others =>
          have again : rest = other ++ (others.flatten ++ tail) := by
            simpa [one.split] using two.split
          exact absurd (again ▸ one.incomplete)
            (F.frame_not_incomplete other _ (two.whole other (by simp)))
  | cons frame frames ih =>
      have whole := one.whole frame (by simp)
      cases others with
      | nil =>
          have again : tail = frame ++ (frames.flatten ++ rest) := by
            simpa [one.split] using two.split.symm
          exact absurd (again ▸ two.incomplete) (F.frame_not_incomplete frame _ whole)
      | cons other others =>
          have same : frame ++ (frames.flatten ++ rest) = other ++ (others.flatten ++ tail) := by
            simpa [one.split] using two.split
          obtain ⟨rfl, later⟩ := F.frame_unique frame other _ _ whole (two.whole other (by simp)) same
          obtain ⟨rfl, rfl⟩ := ih (frames.flatten ++ rest) others
            ⟨rfl, fun next member => one.whole next (by simp [member]), one.incomplete⟩
            ⟨later, fun next member => two.whole next (by simp [member]), two.incomplete⟩
          exact ⟨rfl, rfl⟩

theorem deframes_append (stream more : List α) (frames next : List (List α))
    (rest tail : List α) (one : F.Deframes stream frames rest)
    (two : F.Deframes (rest ++ more) next tail) :
    F.Deframes (stream ++ more) (frames ++ next) tail where
  split :=
    calc
      stream ++ more = frames.flatten ++ (rest ++ more) := by rw [one.split, List.append_assoc]
      _ = frames.flatten ++ (next.flatten ++ tail) := by rw [two.split]
      _ = (frames ++ next).flatten ++ tail := by rw [List.flatten_append, List.append_assoc]
  whole := by
    intro frame member
    rcases List.mem_append.mp member with early | late
    · exact one.whole frame early
    · exact two.whole frame late
  incomplete := two.incomplete

/-- A prefix of a list of frames deframes into the frames it has whole; the rest
is the beginning of the next one. -/
theorem deframes_prefix (frames : List (List α)) (stream : List α)
    (whole : ∀ frame ∈ frames, F.IsFrame frame) (front : stream <+: frames.flatten) :
    ∃ count rest, count ≤ frames.length ∧ F.Deframes stream (frames.take count) rest ∧
      (count = frames.length → rest = []) ∧
      ∀ next, frames[count]? = some next → rest <+: next ∧ rest.length < next.length := by
  induction frames generalizing stream with
  | nil =>
      have empty : stream = [] := by simpa using front
      subst empty
      exact ⟨0, [], Nat.le_refl 0, ⟨rfl, by simp, .inl F.positive⟩, fun _ => rfl, by simp⟩
  | cons frame frames ih =>
      have first := whole frame (by simp)
      rw [List.flatten_cons] at front
      by_cases reached : frame.length ≤ stream.length
      · obtain ⟨later, rfl⟩ := List.prefix_of_prefix_length_le
          (List.prefix_append frame frames.flatten) front reached
        have remaining : later <+: frames.flatten := (List.prefix_append_right_inj frame).mp front
        obtain ⟨count, rest, bound, deframes, atEnd, partway⟩ :=
          ih later (fun next member => whole next (by simp [member])) remaining
        refine ⟨count + 1, rest, by simpa using bound, ⟨?_, ?_, deframes.incomplete⟩, ?_, ?_⟩
        · simp only [List.take_succ_cons, List.flatten_cons, List.append_assoc, ← deframes.split]
        · intro next member
          rcases List.mem_cons.mp member with rfl | later
          · exact first
          · exact deframes.whole next later
        · intro full
          exact atEnd (by simpa using full)
        · simpa using partway
      · have short : stream <+: frame :=
          List.prefix_of_prefix_length_le front (List.prefix_append _ _) (by omega)
        refine ⟨0, stream, Nat.zero_le _, ⟨rfl, by simp, ?_⟩, by simp, ?_⟩
        · by_cases headed : F.header ≤ stream.length
          · right
            obtain ⟨missing, rfl⟩ := short
            rw [← F.reads_header stream missing headed, first.2]
            omega
          · left
            omega
        · intro next found
          simp only [List.getElem?_cons_zero, Option.some.injEq] at found
          subst found
          exact ⟨short, by omega⟩

theorem broken_cons (frame stream : List α) (whole : F.IsFrame frame) :
    F.Broken (frame ++ stream) ↔ F.Broken stream := by
  constructor
  · rintro ⟨frames, rest, split, frames_whole, headed, small⟩
    cases frames with
    | nil =>
        have same : rest = frame ++ stream := by simpa using split.symm
        rw [same, F.size_frame frame stream whole] at small
        have long := whole.1
        omega
    | cons other frames =>
        have same : frame ++ stream = other ++ (frames.flatten ++ rest) := by simpa using split
        have later := (F.frame_unique frame other _ _ whole (frames_whole other (by simp)) same).2
        exact ⟨frames, rest, later, fun next member => frames_whole next (by simp [member]),
          headed, small⟩
  · rintro ⟨frames, rest, rfl, frames_whole, headed, small⟩
    refine ⟨frame :: frames, rest, by simp, ?_, headed, small⟩
    intro next member
    rcases List.mem_cons.mp member with rfl | later
    · exact whole
    · exact frames_whole next later

theorem broken_append (frames : List (List α)) (stream : List α)
    (whole : ∀ frame ∈ frames, F.IsFrame frame) (broken : F.Broken stream) :
    F.Broken (frames.flatten ++ stream) := by
  obtain ⟨others, rest, rfl, others_whole, headed, small⟩ := broken
  refine ⟨frames ++ others, rest, by simp, ?_, headed, small⟩
  intro frame member
  rcases List.mem_append.mp member with early | late
  · exact whole frame early
  · exact others_whole frame late

theorem deframes_or_broken (stream : List α) :
    (∃ frames rest, F.Deframes stream frames rest) ∨ F.Broken stream := by
  induction measured : stream.length using Nat.strongRecOn generalizing stream with
  | ind total ih =>
      by_cases open_end : F.Incomplete stream
      · exact .inl ⟨[], stream, rfl, by simp, open_end⟩
      · have headed : F.header ≤ stream.length := by
          by_contra short
          exact open_end (.inl (by omega))
        have reached : F.size stream ≤ stream.length := by
          by_contra short
          exact open_end (.inr (by omega))
        by_cases small : F.size stream < F.header
        · exact .inr ⟨[], stream, rfl, by simp, headed, small⟩
        · obtain ⟨frame, back, split, size⟩ : ∃ frame back, stream = frame ++ back ∧
              frame.length = F.size stream :=
            ⟨stream.take (F.size stream), stream.drop (F.size stream),
              (List.take_append_drop _ _).symm, List.length_take_of_le reached⟩
          have whole : F.IsFrame frame := by
            have long : F.header ≤ frame.length := by omega
            refine ⟨long, ?_⟩
            rw [size, split, F.reads_header frame back long]
          have less : back.length < total := by
            rw [← measured, split, List.length_append]
            have pos := F.positive
            have long := whole.1
            omega
          rcases ih back.length less back rfl with ⟨frames, rest, deframes⟩ | broken
          · refine .inl ⟨frame :: frames, rest, ?_, ?_, deframes.incomplete⟩
            · rw [split, List.flatten_cons, List.append_assoc, ← deframes.split]
            · intro next member
              rcases List.mem_cons.mp member with rfl | later
              · exact whole
              · exact deframes.whole next later
          · exact .inr (split ▸ (F.broken_cons frame back whole).mpr broken)

theorem deframes_not_broken (stream : List α) (frames : List (List α)) (rest : List α)
    (deframes : F.Deframes stream frames rest) : ¬ F.Broken stream := by
  induction frames generalizing stream with
  | nil =>
      rintro ⟨others, tail, split, whole, headed, small⟩
      have start : stream = rest := by simpa using deframes.split
      subst start
      cases others with
      | nil =>
          have same : tail = stream := by simpa using split.symm
          subst same
          rcases deframes.incomplete with short | short <;> omega
      | cons other others =>
          have again : stream = other ++ (others.flatten ++ tail) := by simpa using split
          exact F.frame_not_incomplete other _ (whole other (by simp)) (again ▸ deframes.incomplete)
  | cons frame frames ih =>
      have first := deframes.whole frame (by simp)
      have split : stream = frame ++ (frames.flatten ++ rest) := by
        simpa using deframes.split
      rw [split, F.broken_cons frame _ first]
      exact ih (frames.flatten ++ rest)
        ⟨rfl, fun next member => deframes.whole next (by simp [member]), deframes.incomplete⟩

end Framing
