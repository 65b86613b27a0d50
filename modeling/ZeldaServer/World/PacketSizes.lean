import ZeldaServer.World.PacketHandler

/-! The two packets whose size the server does not choose: the chat message it relays, and
the `S_AddObject` for a player that enters a room. -/

namespace ZeldaServer

/-- The buffer has the size of the packet, its size field says so, and neither the cast of
the size nor the sum in `MakeSendBuffer` loses a bit. -/
structure SizeExact (sent : Except SendFault SendBuffer) (trueSize : Nat) : Prop where
  cast : trueSize % 2 ^ 16 = trueSize
  sum : (trueSize % 2 ^ 16 + sizeofPacketHeader) % 2 ^ 16 = trueSize % 2 ^ 16 + sizeofPacketHeader
  built : ∃ b, sent = .ok b ∧ (PacketHeader.at b.buffer 0).size = 4 + trueSize ∧
    b.buffer.length = 4 + trueSize ∧ b.writeSize = 4 + trueSize

theorem makeSendBuffer_sizeExact {μ : Type} (C : Serializer μ) (ndebug : Bool) (pkt : μ)
    (pktId : Nat) :
    SizeExact (makeSendBuffer C ndebug pkt pktId) (C.byteSizeLong pkt) ↔
      C.byteSizeLong pkt ≤ 65531 := by
  constructor
  · rintro ⟨-, -, b, -, field, -⟩
    have word := Bytes.u16At_lt b.buffer 0
    rw [header_size] at field
    omega
  · intro small
    have length := length_sentBody C ndebug pkt
    have size : (PacketHeader.at (packetBytes pktId (sentBody C ndebug pkt)) 0).size =
        sizeofPacketHeader + C.byteSizeLong pkt := by
      rw [header_size, packetBytes, List.append_assoc, Bytes.u16At_u16Bytes _ _ ?_, length,
        Nat.add_comm]
      simp only [length, sizeofPacketHeader]
      omega
    refine ⟨by omega, by simp only [sizeofPacketHeader]; omega, _,
      makeSendBuffer_small C ndebug pkt pktId small, size, ?_, rfl⟩
    rw [length_packetBytes, length]
    rfl

/-- `Handle_C_Chat` has something to relay. -/
def Relayed (partyId : PartyId) (pkt : CChat) : Prop :=
  pkt.type = ChatType.global ∨ (pkt.type = ChatType.party ∧ partyId ≠ 0) ∨
    (pkt.type = ChatType.whisper ∧ pkt.target ≠ [])

/-- The sender's name and the text, and what the kind of chat adds: two bytes for the kind
itself, and the party's id or the target's name. -/
def relaySize (sender : Bytes) (partyId : PartyId) (pkt : CChat) : Nat :=
  stringSize sender + stringSize pkt.msg +
    if pkt.type = ChatType.party then 2 + scalarSize partyId
    else if pkt.type = ChatType.whisper then 2 + stringSize pkt.target
    else 0

def RelaySizeExact (parse : Bytes → CChat) (ndebug : Bool) (frame sender : Bytes)
    (partyId : PartyId) : Prop :=
  ∀ relay, chatRelay sender partyId (parsePacket parse frame) = some relay →
    SizeExact (makeSendBuffer SSRelayChat.serializer ndebug relay SSRelayChat.packetId)
      relay.byteSizeLong

theorem stringSize_nil : stringSize [] = 0 := rfl

theorem scalarSize_zero : scalarSize 0 = 0 := rfl

theorem chatRelay_size (sender : Bytes) (partyId : PartyId) (pkt : CChat) (relay : SSRelayChat)
    (built : chatRelay sender partyId pkt = some relay) :
    Relayed partyId pkt ∧ relay.byteSizeLong = relaySize sender partyId pkt := by
  have global : int32Size ChatType.global = 0 := by decide
  have party : int32Size ChatType.party = 2 := by decide
  have whisper : int32Size ChatType.whisper = 2 := by decide
  unfold chatRelay at built
  split at built
  case isTrue kind =>
    cases built
    have apart : ¬ ChatType.global = ChatType.party ∧ ¬ ChatType.global = ChatType.whisper := by
      decide
    refine ⟨.inl kind, ?_⟩
    simp [SSRelayChat.byteSizeLong, relaySize, kind, apart, stringSize_nil, scalarSize_zero, global]
  case isFalse =>
    split at built
    case isTrue kind =>
      split at built
      case isTrue => cases built
      case isFalse grouped =>
        cases built
        refine ⟨.inr (.inl ⟨kind, grouped⟩), ?_⟩
        simp only [SSRelayChat.byteSizeLong, relaySize, kind, if_true, stringSize_nil, party]
        omega
    case isFalse =>
      split at built
      case isTrue kind =>
        split at built
        case isTrue => cases built
        case isFalse named =>
          cases built
          have apart : ¬ ChatType.whisper = ChatType.party := by decide
          refine ⟨.inr (.inr ⟨kind, named⟩), ?_⟩
          simp only [SSRelayChat.byteSizeLong, relaySize, kind, if_true, if_neg apart,
            scalarSize_zero, whisper]
          omega
      case isFalse => cases built

theorem chatRelay_some (sender : Bytes) (partyId : PartyId) (pkt : CChat)
    (relayed : Relayed partyId pkt) : ∃ relay, chatRelay sender partyId pkt = some relay := by
  have party : ¬ ChatType.party = ChatType.global := by decide
  have whisper : ¬ ChatType.whisper = ChatType.global ∧ ¬ ChatType.whisper = ChatType.party := by
    decide
  unfold chatRelay
  rcases relayed with kind | ⟨kind, grouped⟩ | ⟨kind, named⟩
  · exact ⟨_, if_pos kind⟩
  · simp [kind, grouped, party]
  · simp [kind, named, whisper]

theorem relaySizeExact_iff (parse : Bytes → CChat) (ndebug : Bool) (frame sender : Bytes)
    (partyId : PartyId) :
    RelaySizeExact parse ndebug frame sender partyId ↔
      (Relayed partyId (parsePacket parse frame) →
        relaySize sender partyId (parsePacket parse frame) ≤ 65531) := by
  constructor
  · intro exact_size relayed
    obtain ⟨relay, built⟩ := chatRelay_some sender partyId _ relayed
    obtain ⟨-, size⟩ := chatRelay_size sender partyId _ relay built
    rw [← size]
    exact (makeSendBuffer_sizeExact SSRelayChat.serializer ndebug relay _).mp
      (exact_size relay built)
  · intro small relay built
    obtain ⟨relayed, size⟩ := chatRelay_size sender partyId _ relay built
    refine (makeSendBuffer_sizeExact SSRelayChat.serializer ndebug relay _).mpr ?_
    exact Nat.le_trans (Nat.le_of_eq size) (small relayed)

/-- One entry of `objects`: its tag, its length and the object. -/
def entrySize (info : ObjectInfo) : Nat := 1 + Wire.lenSize info.byteSizeLong

def populationSize (w : World) (r : RoomRef) : Nat :=
  ((playerIds w.routing r).map fun id => entrySize (w.scene.players id).info).sum +
    ((w.scene.fields r).monsters.map fun m => entrySize m.info).sum +
    ((w.scene.fields r).projectiles.map fun a => entrySize a.info).sum

theorem enterRoomObjects_size (w : World) (r : RoomRef) :
    (enterRoomObjects w r).byteSizeLong = populationSize w r := by
  simp only [SAddObject.byteSizeLong, enterRoomObjects, List.map_append, List.map_map,
    List.sum_append, populationSize]
  rfl

/-- Chat frames whose relay stays within 65531 bytes, and rooms whose objects do, are
exactly those that `MakeSendBuffer` encodes with their true size. -/
theorem packet_sizes_exact_iff (parse : Bytes → CChat) (ndebug : Bool) (frame sender : Bytes)
    (partyId : PartyId) (w : World) (r : RoomRef) :
    (RelaySizeExact parse ndebug frame sender partyId ∧
      SizeExact (makeSendBuffer SAddObject.serializer ndebug (enterRoomObjects w r)
        SAddObject.packetId) (enterRoomObjects w r).byteSizeLong) ↔
    ((Relayed partyId (parsePacket parse frame) →
        relaySize sender partyId (parsePacket parse frame) ≤ 65531) ∧
      populationSize w r ≤ 65531) := by
  have objects := makeSendBuffer_sizeExact SAddObject.serializer ndebug (enterRoomObjects w r)
    SAddObject.packetId
  have size : SAddObject.serializer.byteSizeLong (enterRoomObjects w r) = populationSize w r :=
    enterRoomObjects_size w r
  rw [size] at objects
  rw [relaySizeExact_iff, enterRoomObjects_size, objects]

/-- The frame of a global `C_Chat`. -/
def globalChat (msg : Bytes) : Bytes :=
  packetBytes CChat.packetId (Wire.encodeFields (Wire.bytesField 2 msg))

theorem length_globalBody (msg : Bytes) (spoken : msg ≠ []) (size : msg.length = 65527) :
    (Wire.encodeFields (Wire.bytesField 2 msg)).length = 65531 := by
  rw [length_string 2 _ (by decide), stringSize, if_neg spoken, Wire.lenSize, size]
  decide

theorem globalChat_parsed (msg : Bytes) (spoken : msg ≠ []) (size : msg.length = 65527) :
    parsePacket CChat.parseFromArray (globalChat msg) = ⟨ChatType.global, msg, []⟩ := by
  have field : Wire.bytesField 2 msg = [⟨2, .len msg⟩] := if_neg spoken
  have short : msg.length < 2 ^ 64 := by omega
  have bounded : ∀ f ∈ Wire.bytesField 2 msg, f.Bounded := by
    intro f member
    rw [field, List.mem_singleton] at member
    rw [member]
    exact ⟨Nat.le_succ 1, (by decide : 2 < 2 ^ 29), short⟩
  have body := Nat.le_of_eq (length_globalBody msg spoken size)
  have parsed := parsePacket_packetBytes CChat.parseFromArray CChat.packetId _ body (by decide)
  have decoded : Wire.decodeFields (Wire.encodeFields (Wire.bytesField 2 msg)) = [⟨2, .len msg⟩] :=
    (Wire.decodeFields_encodeFields _ bounded).trans field
  have kind : CChat.int32OfVarint 0 = ChatType.global := by decide
  refine parsed.trans ?_
  simp only [CChat.parseFromArray, decoded, CChat.mk.injEq]
  exact ⟨kind, rfl, rfl⟩

/-- A frame as long as a frame can be, relayed for a player with a name of one byte: the
message of 65534 bytes has a size field of 2. -/
theorem globalChat_wraps (msg : Bytes) (spoken : msg ≠ []) (size : msg.length = 65527)
    (ndebug : Bool) :
    packetFraming.IsFrame (globalChat msg) ∧ (globalChat msg).length = 65535 ∧
      ¬ RelaySizeExact CChat.parseFromArray ndebug (globalChat msg) [97] 0 := by
  have body := length_globalBody msg spoken size
  have length : (globalChat msg).length = 65535 := by
    rw [globalChat, length_packetBytes, body]
    rfl
  have header : (PacketHeader.at (globalChat msg) 0).size = 65535 := by
    rw [globalChat, packetBytes_header _ _ (Nat.le_of_eq body) (by decide), body]
    rfl
  refine ⟨⟨?_, ?_⟩, length, ?_⟩
  · rw [length]
    decide
  · rw [length]
    exact header
  · rw [relaySizeExact_iff, globalChat_parsed msg spoken size]
    intro small
    have sender : stringSize [97] = 3 := by decide
    have text : stringSize msg = 65531 := by
      rw [stringSize, if_neg spoken, size]
      decide
    have apart : ¬ ChatType.global = ChatType.party ∧ ¬ ChatType.global = ChatType.whisper := by
      decide
    have relay : relaySize [97] 0 ⟨ChatType.global, msg, []⟩ = 65534 := by
      simp only [relaySize, sender, text, if_neg apart.1, if_neg apart.2]
    have impossible := small (.inl rfl)
    omega

theorem longest_chat_wraps :
    packetFraming.IsFrame (globalChat (List.replicate 65527 97)) ∧
      (globalChat (List.replicate 65527 97)).length = 65535 ∧
      ¬ RelaySizeExact CChat.parseFromArray true (globalChat (List.replicate 65527 97)) [97] 0 :=
  globalChat_wraps (List.replicate 65527 97)
    (List.ne_nil_of_length_pos (by rw [List.length_replicate]; decide)) List.length_replicate true

end ZeldaServer
