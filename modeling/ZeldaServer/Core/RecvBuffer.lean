import ZeldaServer.Lib.Bytes

/-! `RecvBuffer`: one vector with a read and a write cursor, ten receive buffers long. -/

namespace ZeldaServer

/-- `BUFFER_COUNT` -/
def bufferCount : Nat := 10

/-- The cursors stay in order and inside the vector by construction; every
operation below has to keep them so. -/
structure RecvBuffer where
  capacity : Nat
  bufferSize : Nat
  readPos : Nat
  writePos : Nat
  buffer : Bytes
  scaled : capacity = bufferSize * bufferCount
  filled : buffer.length = capacity
  ordered : readPos ≤ writePos
  bounded : writePos ≤ capacity

namespace RecvBuffer

/-- `RecvBuffer::RecvBuffer` -/
def create (bufferSize : Nat) : RecvBuffer where
  capacity := bufferSize * bufferCount
  bufferSize := bufferSize
  readPos := 0
  writePos := 0
  buffer := List.replicate (bufferSize * bufferCount) 0
  scaled := rfl
  filled := List.length_replicate
  ordered := Nat.le_refl 0
  bounded := Nat.zero_le _

def dataSize (b : RecvBuffer) : Nat := b.writePos - b.readPos

def freeSize (b : RecvBuffer) : Nat := b.capacity - b.writePos

def window (b : RecvBuffer) : Bytes := Bytes.slice b.buffer b.readPos b.dataSize

theorem length_window (b : RecvBuffer) : b.window.length = b.dataSize := by
  have ordered := b.ordered
  have bounded := b.bounded
  have filled := b.filled
  exact Bytes.length_slice b.buffer b.readPos b.dataSize (by simp only [dataSize]; omega)

/-- What the kernel does to the posted buffer: the bytes land at `WritePos()`,
the cursors do not move. -/
def fill (b : RecvBuffer) (data : Bytes) (fits : data.length ≤ b.freeSize) : RecvBuffer :=
  { b with
    buffer := Bytes.overwrite b.buffer b.writePos data
    filled := by
      have bounded := b.bounded
      simp only [freeSize] at fits
      rw [Bytes.length_overwrite b.buffer b.writePos data (by rw [b.filled]; omega), b.filled] }

/-- `OnRead`; `none` for `false`. -/
def onRead (b : RecvBuffer) (numOfBytes : Nat) : Option RecvBuffer :=
  if h : numOfBytes ≤ b.dataSize then
    some { b with
      readPos := b.readPos + numOfBytes
      ordered := by have ordered := b.ordered; simp only [dataSize] at h; omega }
  else none

/-- `OnWrite`; `none` for `false`. -/
def onWrite (b : RecvBuffer) (numOfBytes : Nat) : Option RecvBuffer :=
  if h : numOfBytes ≤ b.freeSize then
    some { b with
      writePos := b.writePos + numOfBytes
      ordered := by have ordered := b.ordered; omega
      bounded := by have bounded := b.bounded; simp only [freeSize] at h; omega }
  else none

/-- `Clean`; `none` where its `memcpy` would copy between overlapping ranges. -/
def clean (b : RecvBuffer) : Option RecvBuffer :=
  if b.dataSize = 0 then
    some { b with
      readPos := 0
      writePos := 0
      ordered := Nat.le_refl 0
      bounded := Nat.zero_le _ }
  else if b.freeSize < b.bufferSize then
    match copied : Bytes.memcpy b.buffer 0 b.readPos b.dataSize with
    | none => none
    | some moved =>
        some { b with
          readPos := 0
          writePos := b.dataSize
          buffer := moved
          filled := by
            have ordered := b.ordered
            have bounded := b.bounded
            have filled := b.filled
            rw [Bytes.length_memcpy b.buffer moved 0 b.readPos b.dataSize copied, filled] <;>
              simp only [dataSize] <;> omega
          ordered := Nat.zero_le _
          bounded := by have bounded := b.bounded; simp only [dataSize]; omega }
  else some b

theorem window_create (bufferSize : Nat) : (create bufferSize).window = [] := rfl

theorem fill_onWrite (b : RecvBuffer) (data : Bytes) (fits : data.length ≤ b.freeSize) :
    ∃ b', (b.fill data fits).onWrite data.length = some b' ∧
      b'.window = b.window ++ data ∧ b'.readPos = b.readPos ∧
      b'.writePos = b.writePos + data.length ∧ b'.capacity = b.capacity ∧
      b'.bufferSize = b.bufferSize := by
  have ordered := b.ordered
  have filled := b.filled
  have bounded := b.bounded
  have room : data.length ≤ (b.fill data fits).freeSize := fits
  refine ⟨_, dif_pos room, ?_, rfl, rfl, rfl, rfl⟩
  have split : b.writePos + data.length - b.readPos = b.writePos - b.readPos + data.length := by
    omega
  have inside : b.writePos + data.length ≤ b.buffer.length := by
    simp only [freeSize] at fits
    omega
  simp only [window, dataSize, fill, split]
  exact Bytes.slice_overwrite b.buffer b.readPos b.writePos data ordered inside

theorem onRead_some (b : RecvBuffer) (numOfBytes : Nat) (enough : numOfBytes ≤ b.dataSize) :
    ∃ b', b.onRead numOfBytes = some b' ∧ b'.window = b.window.drop numOfBytes ∧
      b'.readPos = b.readPos + numOfBytes ∧ b'.writePos = b.writePos ∧
      b'.capacity = b.capacity ∧ b'.bufferSize = b.bufferSize := by
  refine ⟨_, dif_pos enough, ?_, rfl, rfl, rfl, rfl⟩
  have left : b.writePos - (b.readPos + numOfBytes) = b.writePos - b.readPos - numOfBytes := by
    omega
  simp only [window, dataSize, Bytes.slice, left, List.drop_take, List.drop_drop]

/-- `Clean` moves the unread bytes to the front. -/
def Compacts (b : RecvBuffer) : Prop := b.dataSize ≠ 0 ∧ b.freeSize < b.bufferSize

/-- The ranges of the `memcpy` in `Clean` are disjoint as soon as the unread bytes
fill no more than one of the ten receive buffers. -/
theorem Compacts.disjoint {b : RecvBuffer} (compacts : b.Compacts)
    (short : b.dataSize ≤ b.bufferSize) : b.dataSize ≤ b.readPos := by
  have ordered := b.ordered
  have bounded := b.bounded
  have scaled := b.scaled
  have full := compacts.2
  simp only [bufferCount] at scaled
  simp only [freeSize, dataSize] at full short ⊢
  omega

theorem clean_some (b : RecvBuffer) (short : b.dataSize ≤ b.bufferSize) :
    ∃ b', b.clean = some b' ∧ b'.window = b.window ∧ b'.capacity = b.capacity ∧
      b'.bufferSize = b.bufferSize ∧ b.bufferSize ≤ b'.freeSize := by
  have ordered := b.ordered
  have bounded := b.bounded
  have filled := b.filled
  have scaled := b.scaled
  simp only [bufferCount] at scaled
  by_cases empty : b.dataSize = 0
  · refine ⟨_, if_pos empty, ?_, rfl, rfl, ?_⟩
    · simp [window, dataSize, Bytes.slice] at empty ⊢
      omega
    · simp only [freeSize]
      omega
  · by_cases full : b.freeSize < b.bufferSize
    · have disjoint : 0 + b.dataSize ≤ b.readPos ∨ b.readPos + b.dataSize ≤ 0 := by
        left
        rw [Nat.zero_add]
        exact Compacts.disjoint ⟨empty, full⟩ short
      have copied := Bytes.memcpy_some b.buffer 0 b.readPos b.dataSize disjoint
      simp only [clean, if_neg empty, if_pos full]
      split
      · rename_i failed
        rw [copied] at failed
        cases failed
      rename_i moved made
      refine ⟨_, rfl, ?_, rfl, rfl, ?_⟩
      · rw [copied] at made
        have fits : b.window.length ≤ b.buffer.length := by
          rw [length_window]
          simp only [dataSize]
          omega
        have front := Bytes.slice_overwrite_zero b.buffer b.window fits
        rw [length_window] at front
        change Bytes.slice moved 0 b.dataSize = b.window
        rw [← Option.some.inj made]
        exact front
      · simp only [freeSize]
        omega
    · refine ⟨b, ?_, rfl, rfl, rfl, by omega⟩
      simp only [clean, if_neg empty, if_neg full]

end RecvBuffer
end ZeldaServer
