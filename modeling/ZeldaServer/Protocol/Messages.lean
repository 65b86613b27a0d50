import ZeldaServer.Lib.Wire
import ZeldaServer.Core.PacketCodec

/-! The messages of `Protocol.proto`, `Struct.proto` and `Enum.proto`: their sizes as the
generated `ByteSizeLong` adds them up, and their encodings. -/

namespace ZeldaServer

/-- A field of a number below 16 whose default is left out (`UInt64SizePlusOne`,
`Int32SizePlusOne`, `1 + EnumSize`). -/
def scalarSize (n : Nat) : Nat := if n = 0 then 0 else 1 + Wire.varintSize n

def int32Size (n : Int) : Nat := scalarSize (Wire.signExtend n)

/-- `1 + StringSize` -/
def stringSize (text : Bytes) : Nat := if text = [] then 0 else 1 + Wire.lenSize text.length

theorem length_scalar (number n : Nat) (low : number < 16) :
    (Wire.encodeFields (Wire.uintField number n)).length = scalarSize n := by
  rw [Wire.length_uintField, Wire.varintSize_small _ (by omega), scalarSize]

theorem length_int32 (number : Nat) (n : Int) (low : number < 16) :
    (Wire.encodeFields (Wire.intField number n)).length = int32Size n :=
  length_scalar number _ low

theorem length_string (number : Nat) (text : Bytes) (low : number < 15) :
    (Wire.encodeFields (Wire.bytesField number text)).length = stringSize text := by
  rw [Wire.length_bytesField, Wire.varintSize_small _ (by omega), stringSize]

inductive ObjectType where
  | none
  | player
  | monster
  | projectile
  deriving DecidableEq

def ObjectType.toNat : ObjectType → Nat
  | .none => 0
  | .player => 1
  | .monster => 2
  | .projectile => 3

inductive ObjectState where
  | idle
  | move
  | skill
  deriving DecidableEq

def ObjectState.toNat : ObjectState → Nat
  | .idle => 0
  | .move => 1
  | .skill => 2

/-- proto3 enumerations are open: a `DIR_TYPE` field holds any 32-bit integer. -/
abbrev Dir := Int

namespace Dir

def up : Dir := 0
def down : Dir := 1
def left : Dir := 2
def right : Dir := 3

end Dir

abbrev ChatType := Int

namespace ChatType

def global : ChatType := 0
def party : ChatType := 1
def whisper : ChatType := 2

end ChatType

/-- `oneof extra` -/
inductive ObjectExtra where
  | player (level exp maxExp : Int)
  | monster (templateId : Int)
  deriving DecidableEq

structure ObjectInfo where
  objectId : Nat
  objectType : ObjectType
  state : ObjectState
  dir : Dir
  name : Bytes
  hp : Int
  maxHp : Int
  attack : Int
  defence : Int
  posX : Int
  posY : Int
  extra : Option ObjectExtra
  deriving DecidableEq

/-- A message as its constructor leaves it. -/
def ObjectInfo.default : ObjectInfo where
  objectId := 0
  objectType := .none
  state := .idle
  dir := Dir.up
  name := []
  hp := 0
  maxHp := 0
  attack := 0
  defence := 0
  posX := 0
  posY := 0
  extra := none

namespace ObjectExtra

def number : ObjectExtra → Nat
  | .player _ _ _ => 100
  | .monster _ => 101

def fields : ObjectExtra → List Wire.Field
  | .player level exp maxExp =>
      Wire.intField 1 level ++ Wire.intField 2 exp ++ Wire.intField 3 maxExp
  | .monster templateId => Wire.intField 1 templateId

def byteSizeLong : ObjectExtra → Nat
  | .player level exp maxExp => int32Size level + int32Size exp + int32Size maxExp
  | .monster templateId => int32Size templateId

theorem length_fields (extra : ObjectExtra) :
    (Wire.encodeFields extra.fields).length = extra.byteSizeLong := by
  cases extra <;> simp [fields, byteSizeLong, length_int32, Nat.add_assoc]

/-- The member of the `oneof` that is set, if one is. -/
def encodeSet : Option ObjectExtra → List Wire.Field
  | none => []
  | some extra => [⟨extra.number, .len (Wire.encodeFields extra.fields)⟩]

/-- `2 + MessageSize` for the tags from 16 on. -/
def sizeSet : Option ObjectExtra → Nat
  | none => 0
  | some extra => 2 + Wire.lenSize extra.byteSizeLong

theorem length_encodeSet (extra : Option ObjectExtra) :
    (Wire.encodeFields (encodeSet extra)).length = sizeSet extra := by
  cases extra with
  | none => rfl
  | some extra =>
      have tag : Wire.varintSize (8 * extra.number + 2) = 2 := by
        cases extra with
        | player => exact (by decide : Wire.varintSize 802 = 2)
        | monster => exact (by decide : Wire.varintSize 810 = 2)
      rw [encodeSet, Wire.length_lenField, length_fields, tag, sizeSet]

end ObjectExtra

namespace ObjectInfo

def fields (info : ObjectInfo) : List Wire.Field :=
  Wire.uintField 1 info.objectId ++ Wire.uintField 2 info.objectType.toNat ++
    Wire.uintField 3 info.state.toNat ++ Wire.intField 4 info.dir ++
    Wire.bytesField 5 info.name ++ Wire.intField 6 info.hp ++ Wire.intField 7 info.maxHp ++
    Wire.intField 8 info.attack ++ Wire.intField 9 info.defence ++ Wire.intField 10 info.posX ++
    Wire.intField 11 info.posY ++ ObjectExtra.encodeSet info.extra

/-- `ObjectInfo::ByteSizeLong` -/
def byteSizeLong (info : ObjectInfo) : Nat :=
  stringSize info.name + scalarSize info.objectId + scalarSize info.objectType.toNat +
    scalarSize info.state.toNat + int32Size info.dir + int32Size info.hp + int32Size info.maxHp +
    int32Size info.attack + int32Size info.defence + int32Size info.posX + int32Size info.posY +
    ObjectExtra.sizeSet info.extra

theorem length_fields (info : ObjectInfo) :
    (Wire.encodeFields info.fields).length = info.byteSizeLong := by
  simp only [fields, Wire.encodeFields_append, List.length_append, byteSizeLong,
    length_scalar _ _ (by decide : 1 < 16), length_scalar _ _ (by decide : 2 < 16),
    length_scalar _ _ (by decide : 3 < 16), length_int32 _ _ (by decide : 4 < 16),
    length_string _ _ (by decide : 5 < 15), length_int32 _ _ (by decide : 6 < 16),
    length_int32 _ _ (by decide : 7 < 16), length_int32 _ _ (by decide : 8 < 16),
    length_int32 _ _ (by decide : 9 < 16), length_int32 _ _ (by decide : 10 < 16),
    length_int32 _ _ (by decide : 11 < 16), ObjectExtra.length_encodeSet]
  omega

end ObjectInfo

structure SAddObject where
  objects : List ObjectInfo
  deriving DecidableEq

namespace SAddObject

def packetId : Nat := 204

def fields (pkt : SAddObject) : List Wire.Field :=
  pkt.objects.map fun info => ⟨1, .len (Wire.encodeFields info.fields)⟩

/-- `S_AddObject::ByteSizeLong`: a tag byte for each object, and its length. -/
def byteSizeLong (pkt : SAddObject) : Nat :=
  (pkt.objects.map fun info => 1 + Wire.lenSize info.byteSizeLong).sum

theorem length_fields (pkt : SAddObject) :
    (Wire.encodeFields pkt.fields).length = pkt.byteSizeLong := by
  obtain ⟨objects⟩ := pkt
  simp only [fields, byteSizeLong]
  induction objects with
  | nil => rfl
  | cons head tail ih =>
      have first := Wire.length_lenField 1 (Wire.encodeFields head.fields)
      rw [head.length_fields, Wire.varintSize_small _ (by decide)] at first
      let field : Wire.Field := ⟨1, .len (Wire.encodeFields head.fields)⟩
      let fields := tail.map fun info : ObjectInfo =>
        (⟨1, .len (Wire.encodeFields info.fields)⟩ : Wire.Field)
      calc
        (Wire.encodeFields (field :: fields)).length =
            (Wire.encodeFields [field] ++ Wire.encodeFields fields).length := by
          rw [← Wire.encodeFields_append, List.singleton_append]
        _ = 1 + Wire.lenSize head.byteSizeLong +
            (tail.map fun info => 1 + Wire.lenSize info.byteSizeLong).sum := by
          rw [List.length_append, first, ih]

def serializer : Serializer SAddObject where
  byteSizeLong := byteSizeLong
  serialize := fun pkt => Wire.encodeFields pkt.fields
  length_serialize := length_fields

end SAddObject

structure SEnterGame where
  success : Bool
  accountId : UInt64
  deriving DecidableEq

namespace SEnterGame

def packetId : Nat := 202

def fields (pkt : SEnterGame) : List Wire.Field :=
  Wire.uintField 1 pkt.success.toNat ++ Wire.uintField 2 pkt.accountId.toNat

def byteSizeLong (pkt : SEnterGame) : Nat :=
  scalarSize pkt.success.toNat + scalarSize pkt.accountId.toNat

def ofFields (fields : List Wire.Field) : SEnterGame where
  success := ((Wire.lastVarint 1 fields).getD 0) != 0
  accountId := UInt64.ofNat ((Wire.lastVarint 2 fields).getD 0)

theorem ofFields_fields (pkt : SEnterGame) : ofFields pkt.fields = pkt := by
  obtain ⟨success, accountId⟩ := pkt
  have id : accountId.toNat = 0 ↔ accountId = 0 := by
    rw [← UInt64.toNat_inj]
    rfl
  cases success <;> by_cases zero : accountId = 0 <;>
    simp [fields, ofFields, Wire.uintField, Wire.lastVarint, id, zero]

theorem fields_bounded (pkt : SEnterGame) : ∀ f ∈ pkt.fields, f.Bounded := by
  intro f member
  have small := pkt.accountId.toNat_lt
  have flag : pkt.success.toNat < 2 ^ 64 := by
    cases pkt.success <;> decide
  simp only [fields, Wire.uintField, List.mem_append, List.mem_ite_nil_left,
    List.mem_singleton] at member
  rcases member with ⟨_, rfl⟩ | ⟨_, rfl⟩
  · exact ⟨by simp, by simp, flag⟩
  · exact ⟨by simp, by simp, small⟩

def codec : MessageCodec SEnterGame where
  byteSizeLong := byteSizeLong
  serialize := fun pkt => Wire.encodeFields pkt.fields
  length_serialize := fun pkt => by
    simp [fields, byteSizeLong, length_scalar]
  parseFromArray := fun bytes => ofFields (Wire.decodeFields bytes)
  parse_serialize := fun pkt _ => by
    rw [Wire.decodeFields_encodeFields _ pkt.fields_bounded, ofFields_fields]
  parse_zero := fun rest => by
    rw [Wire.decodeFields_zero, Wire.decodeFields_nil]
  parse_nothing := by decide

theorem enterGame_read_in_debug : RoundTrips codec false ⟨true, 1⟩ packetId :=
  (packet_round_trip_iff codec false ⟨true, 1⟩ packetId (by decide) (by decide)).mpr (.inl rfl)

/-- In Release it reads a refusal for account 0. -/
theorem enterGame_lost_in_release : ¬ RoundTrips codec true ⟨true, 1⟩ packetId := by
  rw [roundTrips_iff_body codec true ⟨true, 1⟩ packetId (by decide) (by decide)]
  decide

end SEnterGame

end ZeldaServer
