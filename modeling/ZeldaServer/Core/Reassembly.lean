import ZeldaServer.Core.PacketSession

/-! `Session::ProcessRecv` over whole runs of receive completions: the packets
delivered depend on the stream and not on how it was cut. -/

namespace ZeldaServer

/-- The `cause` argument of the `Disconnect` calls in `ProcessRecv`. -/
inductive RecvFailure where
  | recvZero
  | onWriteOverflow
  | onReadOverflow
  deriving DecidableEq

/-- The receiving half of a `PacketSession`. -/
structure Receiver where
  recvBuffer : RecvBuffer
  connected : Bool
  /-- `wsaBuf.len` of the receive that is outstanding. -/
  posted : Option Nat
  /-- The byte strings `OnRecvPacket` was called on, in order. -/
  packets : List Bytes
  /-- The `Disconnect` calls made so far. -/
  disconnects : List RecvFailure

namespace Receiver

/-- `RegisterRecv`, with a `WSARecv` that succeeds or is pending. -/
def registerRecv (s : Receiver) : Receiver :=
  if s.connected then { s with posted := some s.recvBuffer.freeSize } else s

def disconnect (s : Receiver) (cause : RecvFailure) : Receiver :=
  { s with connected := false, disconnects := s.disconnects ++ [cause] }

/-- A connection after `ProcessConnect`; `BUFFER_SIZE` is 0x10000. -/
def connect : Receiver :=
  registerRecv
    { recvBuffer := RecvBuffer.create 0x10000
      connected := true
      posted := none
      packets := []
      disconnects := [] }

/-- `ProcessRecv` on a completion that brought `data`. `none` when `OnRecv` does not
return or `Clean` copies between overlapping ranges. -/
def processRecv (s : Receiver) (data : Bytes) : Option Receiver :=
  let s := { s with posted := none }
  if data.length = 0 then some (s.disconnect .recvZero)
  else if fits : data.length ≤ s.recvBuffer.freeSize then
    match (s.recvBuffer.fill data fits).onWrite data.length with
    | none => some (s.disconnect .onWriteOverflow)
    | some written => do
        let dataSize := written.dataSize
        let unread := written.buffer.drop written.readPos
        let out ← onRecv unread dataSize
        let s := { s with
          recvBuffer := written
          packets := s.packets ++ out.packets.map (PacketSlice.bytes unread) }
        if dataSize < out.processLen then some (s.disconnect .onReadOverflow)
        else
          match written.onRead out.processLen with
          | none => some (s.disconnect .onReadOverflow)
          | some consumed => do
              let cleaned ← consumed.clean
              some (registerRecv { s with recvBuffer := cleaned })
  else some (s.disconnect .onWriteOverflow)

/-- One `ProcessRecv` for each completion. -/
def processRecvs (s : Receiver) : List Bytes → Option Receiver
  | [] => some s
  | data :: later => (s.processRecv data).bind fun next => next.processRecvs later

/-- The completions fit what was posted: each brings at least one byte, and at most
the `FreeSize()` that `RegisterRecv` posted before it. -/
def Posted (s : Receiver) : List Bytes → Prop
  | [] => True
  | data :: later =>
      (∃ room, s.posted = some room ∧ 1 ≤ data.length ∧ data.length ≤ room) ∧
        ∀ next, s.processRecv data = some next → next.Posted later

/-- Between two completions: nothing was refused, a whole receive buffer is free and
posted, and the bytes between the cursors are `rest`. -/
structure Ready (s : Receiver) (packets : List Bytes) (rest : Bytes) : Prop where
  window : s.recvBuffer.window = rest
  short : rest.length ≤ 0xFFFF
  size : s.recvBuffer.bufferSize = 0x10000
  room : 0x10000 ≤ s.recvBuffer.freeSize
  connected : s.connected = true
  posted : s.posted = some s.recvBuffer.freeSize
  packets : s.packets = packets
  quiet : s.disconnects = []

theorem connect_ready : connect.Ready [] [] where
  window := RecvBuffer.window_create 0x10000
  short := Nat.zero_le _
  size := rfl
  room := by decide
  connected := rfl
  posted := rfl
  packets := rfl
  quiet := rfl

theorem deframes_nil : packetFraming.Deframes (([] : List Bytes).flatten) [] [] :=
  ⟨rfl, by simp, .inl packetFraming.positive⟩

theorem unread_take (b : RecvBuffer) :
    (b.buffer.drop b.readPos).take b.dataSize = b.window := rfl

theorem unread_long (b : RecvBuffer) : b.dataSize ≤ (b.buffer.drop b.readPos).length := by
  have bounded := b.bounded
  have filled := b.filled
  rw [List.length_drop]
  simp only [RecvBuffer.dataSize]
  omega

/-- What one `ProcessRecv` goes through when nothing is refused. -/
structure Stages (s : Receiver) (data : Bytes) (out : OnRecv) (written consumed cleaned : RecvBuffer) :
    Prop where
  nonempty : data.length ≠ 0
  fits : data.length ≤ s.recvBuffer.freeSize
  wrote : (s.recvBuffer.fill data fits).onWrite data.length = some written
  returned : onRecv (written.buffer.drop written.readPos) written.dataSize = some out
  inside : out.processLen ≤ written.dataSize
  read : written.onRead out.processLen = some consumed
  clean : consumed.clean = some cleaned

theorem Stages.processRecv {s : Receiver} {data : Bytes} {out : OnRecv}
    {written consumed cleaned : RecvBuffer} (stages : s.Stages data out written consumed cleaned) :
    s.processRecv data = some (registerRecv
      { s with
        posted := none
        recvBuffer := cleaned
        packets := s.packets ++
          out.packets.map (PacketSlice.bytes (written.buffer.drop written.readPos)) }) := by
  simp only [Receiver.processRecv, if_neg stages.nonempty, dif_pos stages.fits, stages.wrote,
    stages.returned, Option.bind_eq_bind, Option.bind_some, if_neg (Nat.not_lt.mpr stages.inside),
    stages.read, stages.clean]

theorem stages_ready (s : Receiver) (packets : List Bytes) (rest data : Bytes)
    (ready : s.Ready packets rest) (some_bytes : 1 ≤ data.length)
    (fits : data.length ≤ s.recvBuffer.freeSize) (frames : List Bytes) (tail : Bytes)
    (deframes : packetFraming.Deframes (rest ++ data) frames tail) (short : tail.length ≤ 0xFFFF) :
    ∃ written consumed cleaned,
      s.Stages data ⟨frames.flatten.length, slicesFrom 0 frames⟩ written consumed cleaned ∧
        written.window = rest ++ data ∧ consumed.window = tail ∧
        consumed.bufferSize = 0x10000 ∧ cleaned.window = tail ∧ cleaned.bufferSize = 0x10000 ∧
        0x10000 ≤ cleaned.freeSize := by
  obtain ⟨written, wrote, window, -, -, capacity, size⟩ :=
    RecvBuffer.fill_onWrite s.recvBuffer data fits
  rw [ready.window] at window
  rw [ready.size] at size
  have returned : onRecv (written.buffer.drop written.readPos) written.dataSize =
      some ⟨frames.flatten.length, slicesFrom 0 frames⟩ := by
    refine onRecv_deframes _ _ (unread_long written) frames tail ?_
    rw [unread_take, window]
    exact deframes
  have total : written.dataSize = frames.flatten.length + tail.length := by
    rw [← RecvBuffer.length_window, window, deframes.split, List.length_append]
  obtain ⟨consumed, read, left, -, -, -, size'⟩ :=
    RecvBuffer.onRead_some written frames.flatten.length (by omega)
  have left_tail : consumed.window = tail := by
    rw [left, window, deframes.split, List.drop_left]
  rw [size] at size'
  obtain ⟨cleaned, clean, kept, -, size'', room⟩ := RecvBuffer.clean_some consumed (by
    rw [← RecvBuffer.length_window, left_tail, size']
    omega)
  rw [size'] at size'' room
  exact ⟨written, consumed, cleaned,
    ⟨by omega, fits, wrote, returned, by simp only; omega, read, clean⟩,
    window, left_tail, size', kept.trans left_tail, size'', room⟩

theorem processRecv_ready (s : Receiver) (packets : List Bytes) (rest data : Bytes)
    (ready : s.Ready packets rest) (some_bytes : 1 ≤ data.length)
    (fits : data.length ≤ s.recvBuffer.freeSize) (frames : List Bytes) (tail : Bytes)
    (deframes : packetFraming.Deframes (rest ++ data) frames tail) (short : tail.length ≤ 0xFFFF) :
    ∃ s', s.processRecv data = some s' ∧ s'.Ready (packets ++ frames) tail := by
  obtain ⟨written, consumed, cleaned, stages, window, -, -, kept, size, room⟩ :=
    stages_ready s packets rest data ready some_bytes fits frames tail deframes short
  have delivered : (slicesFrom 0 frames).map
      (PacketSlice.bytes (written.buffer.drop written.readPos)) = frames := by
    have split : written.buffer.drop written.readPos =
        [] ++ frames.flatten ++ (tail ++ (written.buffer.drop written.readPos).drop written.dataSize) := by
      let unread := written.buffer.drop written.readPos
      calc
        unread = unread.take written.dataSize ++ unread.drop written.dataSize :=
          (List.take_append_drop _ _).symm
        _ = (frames.flatten ++ tail) ++ unread.drop written.dataSize := by
          rw [← deframes.split, ← window, ← unread_take]
        _ = [] ++ frames.flatten ++ (tail ++ unread.drop written.dataSize) := by
          rw [List.nil_append, List.append_assoc]
    rw [split]
    exact slices_bytes [] frames _
  refine ⟨_, stages.processRecv, ?_⟩
  simp only [registerRecv, ready.connected, if_true, delivered]
  exact
    { window := kept
      short := short
      size := size
      room := room
      connected := rfl
      posted := rfl
      packets := by rw [ready.packets]
      quiet := ready.quiet }

section Runs

/-! The frames the peer sends, each of a legal length. -/
variable (frames : List Bytes) (whole : ∀ frame ∈ frames, packetFraming.IsFrame frame)
  (bounded : ∀ frame ∈ frames, frame.length ≤ 65535)

include whole bounded

theorem fresh_frames (past packets : List Bytes) (rest data : Bytes)
    (deframes : packetFraming.Deframes past.flatten packets rest)
    (front : (past ++ [data]).flatten <+: frames.flatten) :
    ∃ fresh tail, packetFraming.Deframes (rest ++ data) fresh tail ∧ tail.length ≤ 0xFFFF := by
  obtain ⟨count, tail, bound, whole_stream, at_end, partway⟩ :=
    packetFraming.deframes_prefix frames _ whole front
  have short : tail.length ≤ 0xFFFF := by
    cases next : frames[count]? with
    | none =>
        have beyond := List.getElem?_eq_none_iff.mp next
        simp [at_end (by omega)]
    | some frame =>
        have less := (partway frame next).2
        have limit := bounded frame (List.mem_of_getElem? next)
        omega
  have appended : (past ++ [data]).flatten = past.flatten ++ data := by simp
  rw [appended] at whole_stream
  rcases packetFraming.deframes_or_broken (rest ++ data) with ⟨fresh, other, step⟩ | broken
  · have joined := packetFraming.deframes_append past.flatten data packets fresh rest other
      deframes step
    obtain ⟨-, rfl⟩ := packetFraming.deframes_unique _ _ _ _ _ whole_stream joined
    exact ⟨fresh, tail, step, short⟩
  · have broken_stream := packetFraming.broken_append packets _ deframes.whole broken
    rw [← List.append_assoc, ← deframes.split] at broken_stream
    exact absurd broken_stream (packetFraming.deframes_not_broken _ _ _ whole_stream)

theorem ready_step (s : Receiver) (past packets : List Bytes) (rest data : Bytes)
    (deframes : packetFraming.Deframes past.flatten packets rest) (ready : s.Ready packets rest)
    (front : (past ++ [data]).flatten <+: frames.flatten) (some_bytes : 1 ≤ data.length)
    (fits : data.length ≤ s.recvBuffer.freeSize) :
    ∃ s' packets' rest', s.processRecv data = some s' ∧ s'.Ready packets' rest' ∧
      packetFraming.Deframes (past ++ [data]).flatten packets' rest' := by
  obtain ⟨fresh, tail, step, short⟩ :=
    fresh_frames frames whole bounded past packets rest data deframes front
  obtain ⟨s', run, ready'⟩ :=
    processRecv_ready s packets rest data ready some_bytes fits fresh tail step short
  have appended : (past ++ [data]).flatten = past.flatten ++ data := by simp
  rw [appended]
  exact ⟨s', packets ++ fresh, tail, run, ready',
    packetFraming.deframes_append past.flatten data packets fresh rest tail deframes step⟩

theorem ready_run (chunks : List Bytes) (s : Receiver) (past packets : List Bytes) (rest : Bytes)
    (deframes : packetFraming.Deframes past.flatten packets rest) (ready : s.Ready packets rest)
    (front : (past ++ chunks).flatten <+: frames.flatten) (posted : s.Posted chunks) :
    ∃ s' packets' rest', s.processRecvs chunks = some s' ∧ s'.Ready packets' rest' ∧
      packetFraming.Deframes (past ++ chunks).flatten packets' rest' := by
  induction chunks generalizing s past packets rest with
  | nil => exact ⟨s, packets, rest, rfl, ready, by simpa using deframes⟩
  | cons data later ih =>
      obtain ⟨⟨room, room_eq, some_bytes, fits⟩, posted_later⟩ := posted
      have room_free : room = s.recvBuffer.freeSize :=
        Option.some.inj (room_eq.symm.trans ready.posted)
      rw [List.append_cons] at front ⊢
      have reached : (past ++ [data]).flatten <+: frames.flatten := by
        have joined : (past ++ [data] ++ later).flatten = (past ++ [data]).flatten ++ later.flatten :=
          List.flatten_append
        rw [joined] at front
        exact (List.prefix_append _ _).trans front
      obtain ⟨s₁, packets₁, rest₁, step, ready₁, deframes₁⟩ := ready_step frames whole bounded s past
        packets rest data deframes ready reached some_bytes (room_free ▸ fits)
      obtain ⟨s', packets', rest', run, ready', result⟩ :=
        ih s₁ (past ++ [data]) packets₁ rest₁ deframes₁ ready₁ front (posted_later s₁ step)
      refine ⟨s', packets', rest', ?_, ready', result⟩
      simp only [processRecvs, step, Option.bind_some, run]

theorem posted_of_small (chunks : List Bytes) (s : Receiver) (past packets : List Bytes)
    (rest : Bytes) (deframes : packetFraming.Deframes past.flatten packets rest)
    (ready : s.Ready packets rest) (front : (past ++ chunks).flatten <+: frames.flatten)
    (small : ∀ data ∈ chunks, 1 ≤ data.length ∧ data.length ≤ 0x10000) : s.Posted chunks := by
  induction chunks generalizing s past packets rest with
  | nil => trivial
  | cons data later ih =>
      obtain ⟨some_bytes, limit⟩ := small data (by simp)
      have room := ready.room
      refine ⟨⟨s.recvBuffer.freeSize, ready.posted, some_bytes, by omega⟩, ?_⟩
      intro next step
      rw [List.append_cons] at front
      have reached : (past ++ [data]).flatten <+: frames.flatten := by
        have joined : (past ++ [data] ++ later).flatten = (past ++ [data]).flatten ++ later.flatten :=
          List.flatten_append
        rw [joined] at front
        exact (List.prefix_append _ _).trans front
      obtain ⟨s₁, packets₁, rest₁, step₁, ready₁, deframes₁⟩ := ready_step frames whole bounded s
        past packets rest data deframes ready reached some_bytes (by omega)
      obtain rfl : s₁ = next := Option.some.inj (step₁.symm.trans step)
      exact ih s₁ (past ++ [data]) packets₁ rest₁ deframes₁ ready₁ front
        (fun other member => small other (by simp [member]))

end Runs

/-- Reassembly is independent of the cuts. -/
theorem reassembly_independent (frames : List Bytes)
    (whole : ∀ frame ∈ frames, 4 ≤ frame.length ∧ frame.length ≤ 65535 ∧
      Bytes.u16At frame 0 = frame.length) :
    (∀ chunks : List Bytes, chunks.flatten <+: frames.flatten → connect.Posted chunks →
      ∃ s count, connect.processRecvs chunks = some s ∧ count ≤ frames.length ∧
        s.packets = frames.take count ∧ s.disconnects = [] ∧ s.connected = true ∧
        chunks.flatten = (frames.take count).flatten ++ s.recvBuffer.window ∧
        (count = frames.length → s.recvBuffer.window = []) ∧
        ∀ next, frames[count]? = some next →
          s.recvBuffer.window <+: next ∧ s.recvBuffer.window.length < next.length) ∧
    ∀ first second : List Bytes, first.flatten = second.flatten →
      first.flatten <+: frames.flatten → connect.Posted first → connect.Posted second →
      (connect.processRecvs first).map Receiver.packets =
        (connect.processRecvs second).map Receiver.packets := by
  have framed : ∀ frame ∈ frames, packetFraming.IsFrame frame := by
    intro frame member
    exact ⟨(whole frame member).1, (whole frame member).2.2⟩
  have bounded : ∀ frame ∈ frames, frame.length ≤ 65535 := by
    intro frame member
    exact (whole frame member).2.1
  have runs (chunks : List Bytes) (front : chunks.flatten <+: frames.flatten)
      (posted : connect.Posted chunks) :=
    ready_run frames framed bounded chunks connect [] [] [] deframes_nil connect_ready
      (by simpa using front) posted
  constructor
  · intro chunks front posted
    obtain ⟨s, packets, rest, run, ready, deframes⟩ := runs chunks front posted
    obtain ⟨count, tail, bound, whole_stream, at_end, partway⟩ :=
      packetFraming.deframes_prefix frames chunks.flatten framed front
    obtain ⟨rfl, rfl⟩ := packetFraming.deframes_unique _ _ _ _ _ deframes whole_stream
    refine ⟨s, count, run, bound, ready.packets, ready.quiet, ready.connected, ?_, ?_, ?_⟩
    · rw [ready.window]
      exact whole_stream.split
    · rw [ready.window]
      exact at_end
    · rw [ready.window]
      exact partway
  · intro first second same front posted posted'
    obtain ⟨s, packets, rest, run, ready, deframes⟩ := runs first front posted
    obtain ⟨s', packets', rest', run', ready', deframes'⟩ := runs second (same ▸ front) posted'
    simp only [List.nil_append] at deframes deframes'
    rw [same] at deframes
    obtain ⟨rfl, -⟩ := packetFraming.deframes_unique _ _ _ _ _ deframes deframes'
    rw [run, run', Option.map_some, Option.map_some, ready.packets, ready'.packets]

theorem reassembly_two_frames :
    ∃ s count, connect.processRecvs [[4, 0, 101], [0, 5], [0, 101, 0]] = some s ∧ count ≤ 2 ∧
      s.packets = [[4, 0, 101, 0], [5, 0, 101, 0, 7]].take count ∧ s.disconnects = [] ∧
      [4, 0, 101, 0, 5, 0, 101, 0] =
        ([[4, 0, 101, 0], [5, 0, 101, 0, 7]].take count).flatten ++ s.recvBuffer.window := by
  have frames_whole : ∀ frame ∈ [[4, 0, 101, 0], [5, 0, 101, 0, 7]],
      4 ≤ frame.length ∧ frame.length ≤ 65535 ∧ Bytes.u16At frame 0 = frame.length := by decide
  have posted : connect.Posted [[4, 0, 101], [0, 5], [0, 101, 0]] :=
    posted_of_small [[4, 0, 101, 0], [5, 0, 101, 0, 7]]
      (fun frame member => ⟨(frames_whole frame member).1, (frames_whole frame member).2.2⟩)
      (fun frame member => (frames_whole frame member).2.1)
      _ connect [] [] [] deframes_nil connect_ready (by decide) (by decide)
  obtain ⟨s, count, run, bound, packets, quiet, -, split, -⟩ :=
    (reassembly_independent [[4, 0, 101, 0], [5, 0, 101, 0, 7]] frames_whole).1
      [[4, 0, 101], [0, 5], [0, 101, 0]] (by decide) posted
  exact ⟨s, count, run, bound, packets, quiet, split⟩

end Receiver
end ZeldaServer
