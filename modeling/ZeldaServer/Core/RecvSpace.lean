import ZeldaServer.Core.Reassembly

/-! The room in a `RecvBuffer`: it never runs out, however the stream is cut. -/

namespace ZeldaServer

namespace Receiver

/-- The cursors are inside the vector, a whole receive buffer is free and posted, and nothing was
refused so far. -/
structure Roomy (s : Receiver) : Prop where
  ordered : s.recvBuffer.readPos ≤ s.recvBuffer.writePos
  bounded : s.recvBuffer.writePos ≤ s.recvBuffer.capacity
  free : 0x10000 ≤ s.recvBuffer.freeSize
  posted : ∃ room, s.posted = some room ∧ 0x10000 ≤ room ∧ room = s.recvBuffer.freeSize
  connected : s.connected = true
  quiet : s.disconnects = []

theorem Ready.roomy {s : Receiver} {packets : List Bytes} {rest : Bytes}
    (ready : s.Ready packets rest) : s.Roomy where
  ordered := s.recvBuffer.ordered
  bounded := s.recvBuffer.bounded
  free := ready.room
  posted := ⟨_, ready.posted, ready.room, rfl⟩
  connected := ready.connected
  quiet := ready.quiet

/-- One `ProcessRecv` that is refused nothing: where `Clean` compacts, it copies between disjoint
ranges, and it keeps the unread bytes. -/
structure Received (s : Receiver) (data : Bytes) (s' : Receiver) : Prop where
  stages : ∃ out written consumed, s.Stages data out written consumed s'.recvBuffer ∧
    (consumed.Compacts → consumed.dataSize ≤ consumed.readPos) ∧
    s'.recvBuffer.window = consumed.window
  processed : s.processRecv data = some s'

theorem posted_front (front back : List Bytes) (s : Receiver) (posted : s.Posted (front ++ back)) :
    s.Posted front ∧ ∀ next, s.processRecvs front = some next → next.Posted back := by
  induction front generalizing s with
  | nil =>
      refine ⟨trivial, fun next done => ?_⟩
      cases done
      exact posted
  | cons data front ih =>
      obtain ⟨fits, later⟩ := posted
      refine ⟨⟨fits, fun next step => (ih next (later next step)).1⟩, fun next done => ?_⟩
      obtain ⟨middle, step, rest⟩ := Option.bind_eq_some_iff.mp done
      exact (ih middle (later middle step)).2 next rest

section Runs

variable (frames : List Bytes) (whole : ∀ frame ∈ frames, packetFraming.IsFrame frame)
  (bounded : ∀ frame ∈ frames, frame.length ≤ 65535)

include whole bounded

theorem received (s : Receiver) (past packets : List Bytes) (rest data : Bytes)
    (deframes : packetFraming.Deframes past.flatten packets rest) (ready : s.Ready packets rest)
    (front : (past ++ [data]).flatten <+: frames.flatten) (some_bytes : 1 ≤ data.length)
    (fits : data.length ≤ s.recvBuffer.freeSize) : ∃ s', s.Received data s' := by
  obtain ⟨fresh, tail, step, short⟩ :=
    fresh_frames frames whole bounded past packets rest data deframes front
  obtain ⟨written, consumed, cleaned, stages, -, left, size, kept, -, -⟩ :=
    stages_ready s packets rest data ready some_bytes fits fresh tail step short
  have unread : consumed.dataSize ≤ consumed.bufferSize := by
    rw [← RecvBuffer.length_window, left, size]
    omega
  refine ⟨_, ⟨⟨⟨fresh.flatten.length, slicesFrom 0 fresh⟩, written, consumed, ?_,
    fun compacts => compacts.disjoint unread, ?_⟩, stages.processRecv⟩⟩
  · simpa only [registerRecv, ready.connected, if_true] using stages
  · simp only [registerRecv, ready.connected, if_true, kept, left]

end Runs

/-- Over any run of completions that carry frames of legal sizes there is always room: before
and after every `ProcessRecv`. -/
theorem recv_buffer_never_full (frames : List Bytes)
    (sizes : ∀ frame ∈ frames, 4 ≤ frame.length ∧ Bytes.u16At frame 0 = frame.length)
    (chunks : List Bytes) (carried : chunks.flatten <+: frames.flatten)
    (posted : connect.Posted chunks) (past : List Bytes) (before : past <+: chunks) :
    ∃ s, connect.processRecvs past = some s ∧ s.Roomy ∧
      ∀ data later, chunks = past ++ data :: later →
        ∃ s', s.Received data s' ∧ s'.Roomy := by
  have whole : ∀ frame ∈ frames, packetFraming.IsFrame frame := sizes
  have bounded : ∀ frame ∈ frames, frame.length ≤ 65535 := by
    intro frame member
    have := (sizes frame member).2
    have := Bytes.u16At_lt frame 0
    omega
  obtain ⟨back, rfl⟩ := before
  obtain ⟨posted_past, posted_back⟩ := posted_front past back connect posted
  have front : past.flatten <+: frames.flatten := by
    rw [List.flatten_append] at carried
    exact (List.prefix_append _ _).trans carried
  obtain ⟨s, packets, rest, run, ready, deframes⟩ := ready_run frames whole bounded past connect []
    [] [] deframes_nil connect_ready (by simpa using front) posted_past
  refine ⟨s, run, ready.roomy, fun data later same => ?_⟩
  obtain rfl := List.append_cancel_left same
  obtain ⟨⟨room, room_eq, some_bytes, fits⟩, -⟩ := posted_back s run
  obtain rfl : room = s.recvBuffer.freeSize := Option.some.inj (room_eq.symm.trans ready.posted)
  have reached : (past ++ [data]).flatten <+: frames.flatten := by
    rw [List.append_cons, List.flatten_append] at carried
    exact (List.prefix_append _ _).trans carried
  have at_data := received frames whole bounded s past packets rest data (by simpa using deframes)
    ready reached some_bytes fits
  obtain ⟨s', packets', rest', processed, ready', -⟩ := ready_step frames whole bounded s past
    packets rest data (by simpa using deframes) ready reached some_bytes fits
  obtain ⟨s'', received⟩ := at_data
  obtain rfl : s' = s'' := Option.some.inj (processed.symm.trans received.processed)
  exact ⟨s', received, ready'.roomy⟩

theorem six_bytes_received :
    ∃ s, connect.processRecvs [[6, 0, 101, 0, 7]] = some s ∧ s.Roomy ∧
      ∃ s', s.Received [8, 4, 0] s' ∧ s'.Roomy := by
  have sizes : ∀ frame ∈ [[6, 0, 101, 0, 7, 8], [4, 0, 101, 0]],
      4 ≤ frame.length ∧ Bytes.u16At frame 0 = frame.length := by decide
  have posted : connect.Posted [[6, 0, 101, 0, 7], [8, 4, 0]] :=
    posted_of_small [[6, 0, 101, 0, 7, 8], [4, 0, 101, 0]] sizes (by decide) _ connect [] [] []
      deframes_nil connect_ready (by decide) (by decide)
  obtain ⟨s, run, roomy, next⟩ := recv_buffer_never_full _ sizes _ (by decide) posted
    [[6, 0, 101, 0, 7]] (by decide)
  exact ⟨s, run, roomy, next [8, 4, 0] [] rfl⟩

end Receiver

end ZeldaServer
