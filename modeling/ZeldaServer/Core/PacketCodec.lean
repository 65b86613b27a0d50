import ZeldaServer.Core.PacketSession

/-! `MakeSendBuffer` and `ParsePacket`, which the server's and the client's packet
handlers share word for word. -/

namespace ZeldaServer

/-- A message type as `MakeSendBuffer` uses it. -/
structure Serializer (μ : Type) where
  byteSizeLong : μ → Nat
  serialize : μ → Bytes
  length_serialize : ∀ m, (serialize m).length = byteSizeLong m

/-- A message type with its parser: the parser undoes the serializer, a zero tag ends
the message, and the message read from nothing takes no bytes. -/
structure MessageCodec (μ : Type) extends Serializer μ where
  parseFromArray : Bytes → μ
  parse_serialize : ∀ m, byteSizeLong m < 2 ^ 31 → parseFromArray (serialize m) = m
  parse_zero : ∀ rest, parseFromArray (0 :: rest) = parseFromArray []
  parse_nothing : byteSizeLong (parseFromArray []) = 0

structure SendBuffer where
  buffer : Bytes
  writeSize : Nat
  deriving DecidableEq

def SendBuffer.create (bufferSize : Nat) : SendBuffer := ⟨List.replicate bufferSize 0, 0⟩

def SendBuffer.close (b : SendBuffer) (writeSize : Nat) : SendBuffer := { b with writeSize }

inductive SendFault where
  /-- The header does not fit into the buffer it is written to. -/
  | outOfBounds
  | assertion
  deriving DecidableEq

/-- `SerializeToArray(&buffer[pos], size)`: its result, and the buffer after it. -/
def serializeToArray {μ : Type} (C : Serializer μ) (m : μ) (buffer : Bytes) (pos size : Nat) :
    Bool × Bytes :=
  if size < C.byteSizeLong m then (false, buffer)
  else (true, Bytes.overwrite buffer pos (C.serialize m))

/-- `assert(call)`. The call is part of the argument, so that NDEBUG drops it. -/
def assertCall (ndebug : Bool) (buffer : Bytes) (call : Bytes → Bool × Bytes) :
    Except SendFault Bytes :=
  if ndebug then .ok buffer
  else
    match call buffer with
    | (true, written) => .ok written
    | (false, _) => .error .assertion

def writeHeader (buffer : Bytes) (header : PacketHeader) : Bytes :=
  Bytes.overwrite (Bytes.overwrite buffer 0 (Bytes.u16Bytes header.size)) 2
    (Bytes.u16Bytes header.id)

/-- `MakeSendBuffer`, in the build that defines NDEBUG or not. -/
def makeSendBuffer {μ : Type} (C : Serializer μ) (ndebug : Bool) (pkt : μ) (pktId : Nat) :
    Except SendFault SendBuffer :=
  let dataSize := C.byteSizeLong pkt % 2 ^ 16
  let packetSize := (dataSize + sizeofPacketHeader) % 2 ^ 16
  let sendBuffer := SendBuffer.create packetSize
  if packetSize < sizeofPacketHeader then .error .outOfBounds
  else do
    let headed := writeHeader sendBuffer.buffer ⟨packetSize, pktId⟩
    let buffer ← assertCall ndebug headed fun b =>
      serializeToArray C pkt b sizeofPacketHeader dataSize
    return { sendBuffer with buffer }.close packetSize

/-- `ParsePacket`, for the `ParseFromArray` of its message type. -/
def parsePacket {μ : Type} (parseFromArray : Bytes → μ) (buffer : Bytes) : μ :=
  parseFromArray (Bytes.slice buffer sizeofPacketHeader (payloadSize (PacketHeader.at buffer 0)))

def packetBytes (pktId : Nat) (body : Bytes) : Bytes :=
  Bytes.u16Bytes (body.length + sizeofPacketHeader) ++ Bytes.u16Bytes pktId ++ body

theorem length_packetBytes (pktId : Nat) (body : Bytes) :
    (packetBytes pktId body).length = sizeofPacketHeader + body.length := by
  simp [packetBytes, Bytes.u16Bytes, sizeofPacketHeader]
  omega

theorem packetBytes_header (pktId : Nat) (body : Bytes) (small : body.length ≤ 65531)
    (id : pktId < 2 ^ 16) :
    PacketHeader.at (packetBytes pktId body) 0 = ⟨sizeofPacketHeader + body.length, pktId⟩ := by
  have size : body.length + sizeofPacketHeader < 65536 := by
    simp only [sizeofPacketHeader]
    omega
  have second : Bytes.u16At (packetBytes pktId body) 2 =
      Bytes.u16At (Bytes.u16Bytes pktId ++ body) 0 :=
    (Bytes.u16At_drop (packetBytes pktId body) 2 0).symm
  rw [PacketHeader.at, second, Bytes.u16At_u16Bytes _ _ id, packetBytes, List.append_assoc,
    Bytes.u16At_u16Bytes _ _ size, Nat.add_comm]

theorem parsePacket_packetBytes {μ : Type} (parseFromArray : Bytes → μ) (pktId : Nat)
    (body : Bytes) (small : body.length ≤ 65531) (id : pktId < 2 ^ 16) :
    parsePacket parseFromArray (packetBytes pktId body) = parseFromArray body := by
  have payload : payloadSize ⟨sizeofPacketHeader + body.length, pktId⟩ = body.length := by
    simp only [payloadSize, sizeofPacketHeader]
    omega
  have whole : Bytes.slice (packetBytes pktId body) sizeofPacketHeader body.length = body := by
    simp [Bytes.slice, packetBytes, Bytes.u16Bytes, sizeofPacketHeader]
  rw [parsePacket, packetBytes_header pktId body small id, payload, whole]

theorem writeHeader_zeros (count : Nat) (header : PacketHeader) :
    writeHeader (List.replicate (count + 4) 0) header =
      Bytes.u16Bytes header.size ++ Bytes.u16Bytes header.id ++ List.replicate count 0 := by
  have zeros : List.replicate (count + 4) (0 : UInt8) = 0 :: 0 :: 0 :: 0 :: List.replicate count 0 :=
    rfl
  simp [zeros, writeHeader, Bytes.overwrite, Bytes.u16Bytes]

theorem assertCall_ndebug (buffer : Bytes) (call : Bytes → Bool × Bytes) :
    assertCall true buffer call = .ok buffer := rfl

/-- The body of the buffer: what the assertion's argument wrote, if it was evaluated. -/
def sentBody {μ : Type} (C : Serializer μ) (ndebug : Bool) (pkt : μ) : Bytes :=
  if ndebug then List.replicate (C.byteSizeLong pkt) 0 else C.serialize pkt

theorem length_sentBody {μ : Type} (C : Serializer μ) (ndebug : Bool) (pkt : μ) :
    (sentBody C ndebug pkt).length = C.byteSizeLong pkt := by
  cases ndebug with
  | false => exact C.length_serialize pkt
  | true => exact List.length_replicate

theorem makeSendBuffer_small {μ : Type} (C : Serializer μ) (ndebug : Bool) (pkt : μ) (pktId : Nat)
    (small : C.byteSizeLong pkt ≤ 65531) :
    makeSendBuffer C ndebug pkt pktId =
      .ok ⟨packetBytes pktId (sentBody C ndebug pkt), sizeofPacketHeader + C.byteSizeLong pkt⟩ := by
  have data : C.byteSizeLong pkt % 2 ^ 16 = C.byteSizeLong pkt := by omega
  have packet : (C.byteSizeLong pkt + sizeofPacketHeader) % 2 ^ 16 =
      C.byteSizeLong pkt + sizeofPacketHeader := by
    simp only [sizeofPacketHeader]
    omega
  have roomy : ¬ C.byteSizeLong pkt + sizeofPacketHeader < sizeofPacketHeader := by omega
  simp only [makeSendBuffer, data, packet, if_neg roomy, SendBuffer.create, SendBuffer.close]
  rw [sizeofPacketHeader, writeHeader_zeros]
  cases ndebug with
  | true =>
      rw [assertCall_ndebug, packetBytes, length_sentBody, Nat.add_comm 4]
      rfl
  | false =>
      have written : Bytes.overwrite (Bytes.u16Bytes (C.byteSizeLong pkt + 4) ++
          Bytes.u16Bytes pktId ++ List.replicate (C.byteSizeLong pkt) 0) 4 (C.serialize pkt) =
            packetBytes pktId (C.serialize pkt) := by
        simp [Bytes.overwrite, packetBytes, Bytes.u16Bytes, sizeofPacketHeader,
          C.length_serialize pkt]
        omega
      simp only [assertCall, serializeToArray, Nat.lt_irrefl, if_false, written, Nat.add_comm 4]
      rfl

/-- What `MakeSendBuffer` owes its callers: a buffer of the message's size, its header,
and a body that `ParsePacket` reads back. -/
def RoundTrips {μ : Type} (C : MessageCodec μ) (ndebug : Bool) (m : μ) (pktId : Nat) : Prop :=
  ∃ sent, makeSendBuffer C.toSerializer ndebug m pktId = .ok sent ∧
    sent.writeSize = sizeofPacketHeader + C.byteSizeLong m ∧
    PacketHeader.at sent.buffer 0 = ⟨sent.writeSize, pktId⟩ ∧
    parsePacket C.parseFromArray sent.buffer = m

theorem parse_zeros {μ : Type} (C : MessageCodec μ) (count : Nat) :
    C.parseFromArray (List.replicate count 0) = C.parseFromArray [] := by
  cases count with
  | zero => rfl
  | succ count => exact C.parse_zero _

theorem roundTrips_iff_body {μ : Type} (C : MessageCodec μ) (ndebug : Bool) (m : μ) (pktId : Nat)
    (small : C.byteSizeLong m ≤ 65531) (id : pktId < 2 ^ 16) :
    RoundTrips C ndebug m pktId ↔ C.parseFromArray (sentBody C.toSerializer ndebug m) = m := by
  have fits : (sentBody C.toSerializer ndebug m).length ≤ 65531 := by
    rw [length_sentBody]
    exact small
  simp only [RoundTrips, makeSendBuffer_small C.toSerializer ndebug m pktId small,
    Except.ok.injEq, exists_eq_left', packetBytes_header _ _ fits id, length_sentBody,
    parsePacket_packetBytes C.parseFromArray _ _ fits id, true_and]

/-- The round trip holds exactly where the call in the assertion runs, or has nothing
to write. -/
theorem packet_round_trip_iff {μ : Type} (C : MessageCodec μ) (ndebug : Bool) (m : μ) (pktId : Nat)
    (small : C.byteSizeLong m ≤ 65531) (id : pktId < 2 ^ 16) :
    RoundTrips C ndebug m pktId ↔ ndebug = false ∨ C.byteSizeLong m = 0 := by
  rw [roundTrips_iff_body C ndebug m pktId small id]
  have read_back : C.parseFromArray (C.serialize m) = m := C.parse_serialize m (by omega)
  cases ndebug with
  | false => simpa [sentBody] using read_back
  | true =>
      simp only [sentBody, if_true, parse_zeros, Bool.true_eq_false, false_or]
      constructor
      · intro default
        rw [← default]
        exact C.parse_nothing
      · intro empty
        have nothing : C.serialize m = [] := List.eq_nil_of_length_eq_zero
          ((C.length_serialize m).trans empty)
        rwa [nothing] at read_back

end ZeldaServer
