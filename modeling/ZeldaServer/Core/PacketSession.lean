import ZeldaServer.Lib.Loop
import ZeldaServer.Lib.Framing
import ZeldaServer.Core.RecvBuffer

/-! `PacketSession::OnRecv`: cutting the unread bytes into packets, and what the
packet handlers take for granted about every packet they are handed. -/

namespace ZeldaServer

/-- `sizeof(PacketHeader)` -/
def sizeofPacketHeader : Nat := 4

structure PacketHeader where
  size : Nat
  id : Nat
  deriving DecidableEq

/-- `*reinterpret_cast<PacketHeader*>(&buffer[pos])` -/
def PacketHeader.at (buffer : Bytes) (pos : Nat) : PacketHeader where
  size := Bytes.u16At buffer pos
  id := Bytes.u16At buffer (pos + 2)

theorem header_size (buffer : Bytes) (pos : Nat) :
    (PacketHeader.at buffer pos).size = Bytes.u16At buffer pos := rfl

/-- The arguments of one `OnRecvPacket` call: an offset into the buffer and a length. -/
structure PacketSlice where
  pos : Nat
  len : Nat
  deriving DecidableEq

def PacketSlice.bytes (buffer : Bytes) (p : PacketSlice) : Bytes := Bytes.slice buffer p.pos p.len

/-- `processLen`, and the `OnRecvPacket` calls made so far. -/
structure OnRecv where
  processLen : Nat
  packets : List PacketSlice
  deriving DecidableEq

def OnRecv.start : OnRecv := ⟨0, []⟩

/-- One pass of the `while (true)` in `OnRecv`. -/
def onRecvBody (buffer : Bytes) (len : Nat) (s : OnRecv) : WhileLoop.Pass OnRecv OnRecv :=
  let dataSize := len - s.processLen
  if dataSize < sizeofPacketHeader then .exit s
  else
    let header := PacketHeader.at buffer s.processLen
    if dataSize < header.size then .exit s
    else .again
      { processLen := s.processLen + header.size
        packets := s.packets ++ [⟨s.processLen, header.size⟩] }

/-- `PacketSession::OnRecv`; `none` when the loop never leaves. `len + 1` passes are
enough for every call that returns, by `onRecv_some_iff`. -/
def onRecv (buffer : Bytes) (len : Nat) : Option OnRecv :=
  WhileLoop.run (onRecvBody buffer len) (len + 1) OnRecv.start

/-- The wire format: four header bytes, of which the first two hold the length. -/
def packetFraming : Framing UInt8 where
  header := sizeofPacketHeader
  size := fun bytes => Bytes.u16At bytes 0
  positive := by decide
  reads_header := by
    intro front back headed
    exact Bytes.u16At_append front back 0 (by simp only [sizeofPacketHeader] at headed; omega)

/-- The `OnRecvPacket` calls for frames that follow one another from `pos` on. -/
def slicesFrom : Nat → List Bytes → List PacketSlice
  | _, [] => []
  | pos, frame :: frames => ⟨pos, frame.length⟩ :: slicesFrom (pos + frame.length) frames

/-- Consecutive slices that cover `[pos, stop)`. -/
def Tiles : Nat → List PacketSlice → Nat → Prop
  | pos, [], stop => pos = stop
  | pos, p :: ps, stop => p.pos = pos ∧ Tiles (pos + p.len) ps stop

theorem body_incomplete (buffer : Bytes) (len : Nat) (s : OnRecv) (long : len ≤ buffer.length)
    (rest : Bytes) (ahead : (buffer.take len).drop s.processLen = rest)
    (incomplete : packetFraming.Incomplete rest) : onRecvBody buffer len s = .exit s := by
  have size : rest.length = len - s.processLen := by
    rw [← ahead, List.length_drop, List.length_take_of_le long]
  simp only [onRecvBody]
  split
  · rfl
  · rename_i headed
    rw [if_pos]
    rcases incomplete with short | short
    · simp only [packetFraming] at short
      omega
    · have read : Bytes.u16At rest 0 = Bytes.u16At buffer s.processLen := by
        rw [← ahead, Bytes.u16At_drop]
        exact Bytes.u16At_take buffer len _ (by simp only [sizeofPacketHeader] at headed; omega) long
      simp only [packetFraming, read] at short
      simp only [PacketHeader.at]
      omega

theorem body_again (buffer : Bytes) (len : Nat) (s : OnRecv)
    (headed : sizeofPacketHeader ≤ len - s.processLen)
    (whole : Bytes.u16At buffer s.processLen ≤ len - s.processLen) :
    onRecvBody buffer len s = .again
      { processLen := s.processLen + Bytes.u16At buffer s.processLen
        packets := s.packets ++ [⟨s.processLen, Bytes.u16At buffer s.processLen⟩] } := by
  have headed' : ¬ len - s.processLen < sizeofPacketHeader := by omega
  have whole' : ¬ len - s.processLen < (PacketHeader.at buffer s.processLen).size := by
    rw [header_size]
    omega
  exact (if_neg headed').trans (if_neg whole')

theorem body_headed (buffer : Bytes) (len : Nat) (s : OnRecv) (long : len ≤ buffer.length)
    (rest : Bytes) (ahead : (buffer.take len).drop s.processLen = rest)
    (headed : sizeofPacketHeader ≤ rest.length) (whole : Bytes.u16At rest 0 ≤ rest.length) :
    onRecvBody buffer len s = .again
      { processLen := s.processLen + Bytes.u16At rest 0
        packets := s.packets ++ [⟨s.processLen, Bytes.u16At rest 0⟩] } := by
  have size : rest.length = len - s.processLen := by
    rw [← ahead, List.length_drop, List.length_take_of_le long]
  have read : Bytes.u16At rest 0 = Bytes.u16At buffer s.processLen := by
    rw [← ahead, Bytes.u16At_drop]
    exact Bytes.u16At_take buffer len _ (by simp only [sizeofPacketHeader] at headed; omega) long
  rw [read]
  exact body_again buffer len s (by omega) (by omega)

theorem loop_deframes (buffer : Bytes) (len : Nat) (long : len ≤ buffer.length)
    (frames : List Bytes) (rest : Bytes) (s : OnRecv)
    (deframes : packetFraming.Deframes ((buffer.take len).drop s.processLen) frames rest) :
    WhileLoop.Leaves (onRecvBody buffer len) s
      { processLen := s.processLen + frames.flatten.length
        packets := s.packets ++ slicesFrom s.processLen frames } := by
  induction frames generalizing s with
  | nil =>
      have ahead : (buffer.take len).drop s.processLen = rest := deframes.split
      have pass := body_incomplete buffer len s long rest ahead deframes.incomplete
      simpa [slicesFrom] using WhileLoop.leaves_exit _ s s pass
  | cons frame frames ih =>
      obtain ⟨headed, size⟩ := deframes.whole frame (by simp)
      have split : (buffer.take len).drop s.processLen = frame ++ (frames.flatten ++ rest) := by
        simpa using deframes.split
      have read : Bytes.u16At (frame ++ (frames.flatten ++ rest)) 0 = frame.length :=
        packetFraming.size_frame frame _ ⟨headed, size⟩
      have pass := body_headed buffer len s long _ split
        (by simp only [packetFraming] at headed; rw [List.length_append]; omega)
        (by rw [read, List.length_append]; omega)
      rw [read] at pass
      rw [WhileLoop.leaves_again _ s _ _ pass]
      have later : (buffer.take len).drop (s.processLen + frame.length) =
          frames.flatten ++ rest := by
        rw [← List.drop_drop, split, List.drop_left]
      have next := ih ⟨s.processLen + frame.length, s.packets ++ [⟨s.processLen, frame.length⟩]⟩
        ⟨later, fun other member => deframes.whole other (by simp [member]), deframes.incomplete⟩
      simpa [slicesFrom, List.append_assoc, Nat.add_assoc] using next

def Halted (buffer : Bytes) (len : Nat) (s : OnRecv) : Prop :=
  sizeofPacketHeader ≤ len - s.processLen ∧ Bytes.u16At buffer s.processLen = 0

theorem halted_again (buffer : Bytes) (len : Nat) (s : OnRecv) (halted : Halted buffer len s) :
    ∃ next, onRecvBody buffer len s = .again next ∧ Halted buffer len next := by
  obtain ⟨headed, zero⟩ := halted
  refine ⟨⟨s.processLen + 0, s.packets ++ [⟨s.processLen, 0⟩]⟩, ?_, headed, zero⟩
  have pass := body_again buffer len s headed (by omega)
  rwa [zero] at pass

theorem body_progress (buffer : Bytes) (len : Nat) (s next : OnRecv)
    (pass : onRecvBody buffer len s = .again next) :
    len - next.processLen < len - s.processLen ∨ Halted buffer len s := by
  simp only [onRecvBody] at pass
  split at pass
  · cases pass
  · split at pass
    · cases pass
    · rename_i headed whole
      cases pass
      by_cases zero : Bytes.u16At buffer s.processLen = 0
      · exact .inr ⟨by omega, zero⟩
      · left
        simp only [PacketHeader.at, sizeofPacketHeader] at whole headed ⊢
        omega

theorem onRecv_some_iff (buffer : Bytes) (len : Nat) (out : OnRecv) :
    onRecv buffer len = some out ↔
      WhileLoop.Leaves (onRecvBody buffer len) OnRecv.start out := by
  constructor
  · intro returned
    exact ⟨len + 1, returned⟩
  · intro left
    exact WhileLoop.leaves_within (onRecvBody buffer len) (fun s => len - s.processLen)
      (Halted buffer len) (halted_again buffer len) (body_progress buffer len)
      OnRecv.start out left

theorem onRecv_deframes (buffer : Bytes) (len : Nat) (long : len ≤ buffer.length)
    (frames : List Bytes) (rest : Bytes)
    (deframes : packetFraming.Deframes (buffer.take len) frames rest) :
    onRecv buffer len = some ⟨frames.flatten.length, slicesFrom 0 frames⟩ := by
  rw [onRecv_some_iff]
  have left := loop_deframes buffer len long frames rest OnRecv.start (by simpa [OnRecv.start])
  simpa [OnRecv.start] using left

theorem slices_bytes (front : Bytes) (frames : List Bytes) (back : Bytes) :
    (slicesFrom front.length frames).map (PacketSlice.bytes (front ++ frames.flatten ++ back)) =
      frames := by
  induction frames generalizing front with
  | nil => rfl
  | cons frame frames ih =>
      have later := ih (front ++ frame)
      simp only [List.length_append] at later
      simp only [slicesFrom, List.map_cons, List.flatten_cons]
      congr 1
      · simp [PacketSlice.bytes, Bytes.slice]
      · rw [← List.append_assoc front frame frames.flatten]
        exact later

/-- `BufferReader br(buffer, len)` with `Peek` of a header at its start: `none` when
`Peek` returns false and leaves the header uninitialised. -/
def peekHeader (buffer : Bytes) (pos len : Nat) : Option PacketHeader :=
  if len < sizeofPacketHeader then none else some (PacketHeader.at buffer pos)

/-- `header->size - sizeof(PacketHeader)` of `ParsePacket`, computed in `size_t`. -/
def payloadSize (header : PacketHeader) : Nat := (header.size + 2 ^ 64 - sizeofPacketHeader) % 2 ^ 64

/-- `HandlePacket` switches on an id that was read, and `ParsePacket` does not underflow. -/
def Handleable (buffer : Bytes) (p : PacketSlice) : Prop :=
  ∃ header, peekHeader buffer p.pos p.len = some header ∧
    payloadSize header + sizeofPacketHeader = header.size

/-- `OnRecv` returns, and what it hands on tiles what it reports as processed with
packets that have a header. -/
def OnRecvContract (buffer : Bytes) (len : Nat) : Prop :=
  ∃ out, WhileLoop.Leaves (onRecvBody buffer len) OnRecv.start out ∧
    out.processLen ≤ len ∧ Tiles 0 out.packets out.processLen ∧
    ∀ p ∈ out.packets, sizeofPacketHeader ≤ p.len ∧ Handleable buffer p

theorem tiles_slices (pos : Nat) (frames : List Bytes) :
    Tiles pos (slicesFrom pos frames) (pos + frames.flatten.length) := by
  induction frames generalizing pos with
  | nil => rfl
  | cons frame frames ih =>
      refine ⟨rfl, ?_⟩
      have later := ih (pos + frame.length)
      simpa [Nat.add_assoc] using later

theorem slices_headers (buffer : Bytes) (len pos : Nat) (long : len ≤ buffer.length)
    (frames : List Bytes) (rest : Bytes)
    (split : (buffer.take len).drop pos = frames.flatten ++ rest)
    (whole : ∀ frame ∈ frames, packetFraming.IsFrame frame) :
    ∀ p ∈ slicesFrom pos frames,
      sizeofPacketHeader ≤ p.len ∧ (PacketHeader.at buffer p.pos).size = p.len := by
  induction frames generalizing pos with
  | nil => intro p member; cases member
  | cons frame frames ih =>
      obtain ⟨headed, size⟩ := whole frame (by simp)
      have first : (buffer.take len).drop pos = frame ++ (frames.flatten ++ rest) := by
        simpa using split
      have reach : frame.length ≤ len - pos := by
        have total := congrArg List.length first
        rw [List.length_drop, List.length_take_of_le long, List.length_append] at total
        omega
      intro p member
      rcases List.mem_cons.mp member with rfl | later
      · refine ⟨headed, ?_⟩
        have read : Bytes.u16At ((buffer.take len).drop pos) 0 = frame.length := by
          rw [first]
          exact packetFraming.size_frame frame _ ⟨headed, size⟩
        have minimum : 4 ≤ frame.length := headed
        rw [Bytes.u16At_drop, Nat.add_zero, Bytes.u16At_take buffer len pos (by omega) long] at read
        exact read
      · refine ih (pos + frame.length) ?_ (fun other inside => whole other (by simp [inside])) p later
        rw [← List.drop_drop, first, List.drop_left]

theorem payloadSize_of_le (header : PacketHeader) (enough : sizeofPacketHeader ≤ header.size)
    (small : header.size < 65536) : payloadSize header + sizeofPacketHeader = header.size := by
  simp only [payloadSize, sizeofPacketHeader] at enough ⊢
  omega

theorem contract_of_deframes (buffer : Bytes) (len : Nat) (long : len ≤ buffer.length)
    (frames : List Bytes) (rest : Bytes)
    (deframes : packetFraming.Deframes (buffer.take len) frames rest) :
    OnRecvContract buffer len := by
  have returned := onRecv_deframes buffer len long frames rest deframes
  refine ⟨_, (onRecv_some_iff buffer len _).mp returned, ?_, ?_, ?_⟩
  · have total := congrArg List.length deframes.split
    rw [List.length_take_of_le long, List.length_append] at total
    simp only
    omega
  · simpa using tiles_slices 0 frames
  · intro p member
    obtain ⟨headed, size⟩ := slices_headers buffer len 0 long frames rest
      (by simpa using deframes.split) deframes.whole p member
    refine ⟨headed, PacketHeader.at buffer p.pos, if_neg (by omega), ?_⟩
    exact payloadSize_of_le _ (by omega) (Bytes.u16At_lt buffer p.pos)

theorem packets_kept (buffer : Bytes) (len : Nat) (s out : OnRecv)
    (left : WhileLoop.Leaves (onRecvBody buffer len) s out) : s.packets ⊆ out.packets := by
  refine WhileLoop.leaves_invariant (onRecvBody buffer len) (fun now => s.packets ⊆ now.packets)
    (fun final => s.packets ⊆ final.packets) ?_ ?_ s out (List.Subset.refl _) left
  · intro now next kept pass
    simp only [onRecvBody] at pass
    split at pass
    · cases pass
    · split at pass
      · cases pass
      · cases pass
        exact fun p member => List.mem_append_left _ (kept member)
  · intro now final kept pass
    simp only [onRecvBody] at pass
    split at pass
    · cases pass
      exact kept
    · split at pass
      · cases pass
        exact kept
      · cases pass

/-- Behind the whole frames of a broken stream the loop hands on a packet that is
shorter than a header, or never returns. -/
theorem loop_broken (buffer : Bytes) (len : Nat) (long : len ≤ buffer.length)
    (frames : List Bytes) (rest : Bytes) (s out : OnRecv)
    (split : (buffer.take len).drop s.processLen = frames.flatten ++ rest)
    (whole : ∀ frame ∈ frames, packetFraming.IsFrame frame)
    (headed : sizeofPacketHeader ≤ rest.length) (small : Bytes.u16At rest 0 < sizeofPacketHeader)
    (left : WhileLoop.Leaves (onRecvBody buffer len) s out) :
    ∃ p ∈ out.packets, p.len < sizeofPacketHeader := by
  induction frames generalizing s with
  | nil =>
      have ahead : (buffer.take len).drop s.processLen = rest := by simpa using split
      have pass := body_headed buffer len s long rest ahead headed (by omega)
      rw [WhileLoop.leaves_again _ s _ _ pass] at left
      refine ⟨⟨s.processLen, Bytes.u16At rest 0⟩, ?_, small⟩
      exact packets_kept buffer len _ out left (by simp)
  | cons frame frames ih =>
      obtain ⟨long_enough, size⟩ := whole frame (by simp)
      have first : (buffer.take len).drop s.processLen = frame ++ (frames.flatten ++ rest) := by
        simpa using split
      have read : Bytes.u16At (frame ++ (frames.flatten ++ rest)) 0 = frame.length :=
        packetFraming.size_frame frame _ ⟨long_enough, size⟩
      have pass := body_headed buffer len s long _ first
        (by simp only [packetFraming] at long_enough; rw [List.length_append]; omega)
        (by rw [read, List.length_append]; omega)
      rw [WhileLoop.leaves_again _ s _ _ pass, read] at left
      refine ih _ ?_ (fun other member => whole other (by simp [member])) left
      rw [← List.drop_drop, first, List.drop_left]

/-- `OnRecv` does what its callers rely on exactly when no run of whole frames is
followed by a header whose size field is below the size of a header. -/
theorem onRecv_contract_iff (buffer : Bytes) (len : Nat) (long : len ≤ buffer.length) :
    OnRecvContract buffer len ↔
      ∀ (frames : List Bytes) (rest : Bytes), buffer.take len = frames.flatten ++ rest →
        (∀ frame ∈ frames, sizeofPacketHeader ≤ frame.length ∧
          Bytes.u16At frame 0 = frame.length) →
        sizeofPacketHeader ≤ rest.length → sizeofPacketHeader ≤ Bytes.u16At rest 0 := by
  constructor
  · rintro ⟨out, left, -, -, headers⟩ frames rest split whole headed
    by_contra small
    obtain ⟨p, member, short⟩ := loop_broken buffer len long frames rest OnRecv.start out
      (by simpa [OnRecv.start] using split) whole headed (by omega) left
    have enough := (headers p member).1
    omega
  · intro sound
    rcases packetFraming.deframes_or_broken (buffer.take len) with ⟨frames, rest, deframes⟩ | broken
    · exact contract_of_deframes buffer len long frames rest deframes
    · obtain ⟨frames, rest, split, whole, headed, small⟩ := broken
      have enough := sound frames rest split whole headed
      simp only [packetFraming] at small
      omega

theorem onRecv_contract_frames :
    OnRecvContract [4, 0, 101, 0, 5, 0, 101, 0, 7, 9] 10 :=
  (onRecv_contract_iff [4, 0, 101, 0, 5, 0, 101, 0, 7, 9] 10 (by decide)).mpr
    (by
      intro frames rest split whole headed
      by_contra small
      refine packetFraming.deframes_not_broken [4, 0, 101, 0, 5, 0, 101, 0, 7, 9]
        [[4, 0, 101, 0], [5, 0, 101, 0, 7]] [9] ⟨rfl, ?_, .inl (by decide)⟩
        ⟨frames, rest, split, whole, headed, by simpa [packetFraming] using small⟩
      intro frame member
      simp only [List.mem_cons, List.not_mem_nil, or_false] at member
      rcases member with rfl | rfl
      · exact ⟨by decide, by decide⟩
      · exact ⟨by decide, by decide⟩)

/-- A header with a zero size field keeps `OnRecv` from ever returning. -/
theorem onRecv_zero_size : ¬ OnRecvContract [0, 0, 101, 0] 4 := by
  rintro ⟨out, left, -⟩
  exact WhileLoop.never_leaves (onRecvBody [0, 0, 101, 0] 4) (Halted [0, 0, 101, 0] 4)
    (halted_again _ _) OnRecv.start ⟨by decide, by decide⟩ out left

end ZeldaServer
