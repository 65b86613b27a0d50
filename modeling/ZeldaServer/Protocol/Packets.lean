import ZeldaServer.Protocol.Messages

/-! The packets of the game server, after `ParsePacket` and before `MakeSendBuffer`, and
the chat message it relays to the chat server. -/

namespace ZeldaServer

abbrev ObjectId := Nat

abbrev SessionId := Nat

/-- `MAP_ID` -/
abbrev MapId := Int

namespace MapId

def town : MapId := 1
def dungeon : MapId := 2

end MapId

/-- `WEAPON_TYPE` -/
abbrev WeaponType := Int

namespace WeaponType

def sword : WeaponType := 0
def bow : WeaponType := 1
def staff : WeaponType := 2

end WeaponType

structure CMove where
  dir : Dir
  deriving DecidableEq

structure CTurn where
  dir : Dir
  deriving DecidableEq

structure CAttack where
  dir : Dir
  weaponType : WeaponType
  deriving DecidableEq

structure CChangeMap where
  mapId : MapId
  channel : Int
  deriving DecidableEq

structure CChat where
  type : ChatType
  msg : Bytes
  target : Bytes
  deriving DecidableEq

namespace CChat

def packetId : Nat := 112

/-- The low 32 bits of a varint, as the `int32` they stand for. -/
def int32OfVarint (n : Nat) : Int := Int.bmod n (2 ^ 32)

def parseFromArray (bytes : Bytes) : CChat :=
  let fields := Wire.decodeFields bytes
  { type := int32OfVarint ((Wire.lastVarint 1 fields).getD 0)
    msg := (Wire.lastLen 2 fields).getD []
    target := (Wire.lastLen 3 fields).getD [] }

end CChat

structure SSRelayChat where
  sender : Bytes
  type : ChatType
  msg : Bytes
  target : Bytes
  partyId : Nat
  deriving DecidableEq

namespace SSRelayChat

def packetId : Nat := 301

def fields (relay : SSRelayChat) : List Wire.Field :=
  Wire.bytesField 1 relay.sender ++ Wire.intField 2 relay.type ++ Wire.bytesField 3 relay.msg ++
    Wire.bytesField 4 relay.target ++ Wire.uintField 5 relay.partyId

/-- `SS_RelayChat::ByteSizeLong` -/
def byteSizeLong (relay : SSRelayChat) : Nat :=
  stringSize relay.sender + stringSize relay.msg + stringSize relay.target +
    scalarSize relay.partyId + int32Size relay.type

theorem length_fields (relay : SSRelayChat) :
    (Wire.encodeFields relay.fields).length = relay.byteSizeLong := by
  simp only [fields, Wire.encodeFields_append, List.length_append, byteSizeLong,
    length_string _ _ (by decide : 1 < 15), length_int32 _ _ (by decide : 2 < 16),
    length_string _ _ (by decide : 3 < 15), length_string _ _ (by decide : 4 < 15),
    length_scalar _ _ (by decide : 5 < 16)]
  omega

def serializer : Serializer SSRelayChat where
  byteSizeLong := byteSizeLong
  serialize := fun relay => Wire.encodeFields relay.fields
  length_serialize := length_fields

end SSRelayChat

inductive ClientPacket where
  | move (pkt : CMove)
  | attack (pkt : CAttack)
  | changeMap (pkt : CChangeMap)
  | turn (pkt : CTurn)
  | equipItem (slot : Int)
  | unequipItem (equipType : Int)
  | useItem (slot : Int)
  | partyInvite (targetId : ObjectId)
  | partyAnswer (inviterId : ObjectId) (accept : Bool)
  | partyLeave
  | login (username : Bytes)
  | chat (pkt : CChat)
  deriving DecidableEq

structure ItemInfo where
  itemId : Int
  count : Int
  slot : Int
  deriving DecidableEq

structure PartyMemberInfo where
  playerId : ObjectId
  name : Bytes
  level : Int
  hp : Int
  maxHp : Int
  isLeader : Bool
  deriving DecidableEq

inductive ServerPacket where
  | enterGame (success : Bool) (accountId : Nat)
  | myPlayer (info : ObjectInfo)
  | addObject (pkt : SAddObject)
  | removeObject (ids : List ObjectId)
  | move (info : ObjectInfo)
  | turn (info : ObjectInfo)
  | attack (attackerId : ObjectId) (dir : Dir) (weaponType : WeaponType)
  | damaged (attackerId targetId : ObjectId) (newHp damage : Int)
  | changeMap (success : Bool) (mapId : MapId) (channel : Int) (instanceId : Nat)
  | gainExp (playerId : ObjectId) (gainedExp currentExp maxExp : Int)
  | levelUp (playerId : ObjectId) (newLevel maxHp attack defence maxExp : Int)
  | inventoryData (items : List ItemInfo) (equippedWeapon equippedArmor equippedPotion : ItemInfo)
  | addItem (itemId slot count : Int)
  | equipItem (equipType storageSlot storageItemId storageItemCount equipItemId equipItemCount
      attack defence : Int)
  | unequipItem (equipType storageSlot attack defence : Int)
  | useItem (equipType remainCount newHp : Int)
  | partyInvite (inviterId : ObjectId) (inviterName : Bytes)
  | partyUpdate (members : List PartyMemberInfo)
  | partyLeave
  deriving DecidableEq

end ZeldaServer
