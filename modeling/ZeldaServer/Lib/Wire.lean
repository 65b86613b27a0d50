import ZeldaServer.Lib.Bytes

/-! Base-128 varints and tagged fields, the part of the protocol-buffers wire format
that integers, strings and nested messages use. -/

namespace Wire

/-- At most `digits` bytes of seven bits each, least significant first; every byte
but the last has its top bit set. -/
def varint : Nat → Nat → Bytes
  | 0, _ => []
  | digits + 1, n =>
      if n < 128 then [UInt8.ofNat n]
      else UInt8.ofNat (n % 128 + 128) :: varint digits (n / 128)

/-- A `uint64` takes ten bytes at most. -/
def encodeVarint (n : Nat) : Bytes := varint 10 n

def readVarint : Nat → Bytes → Option (Nat × Bytes)
  | 0, _ => none
  | _ + 1, [] => none
  | digits + 1, byte :: rest =>
      if byte.toNat < 128 then some (byte.toNat, rest)
      else (readVarint digits rest).map fun high => (byte.toNat - 128 + 128 * high.1, high.2)

def decodeVarint (bytes : Bytes) : Option (Nat × Bytes) := readVarint 10 bytes

inductive Value where
  | varint (n : Nat)
  | len (bytes : Bytes)
  deriving DecidableEq

structure Field where
  number : Nat
  value : Value
  deriving DecidableEq

def Value.wireType : Value → Nat
  | .varint _ => 0
  | .len _ => 2

def Value.encode : Value → Bytes
  | .varint n => encodeVarint n
  | .len bytes => encodeVarint bytes.length ++ bytes

def Field.encode (f : Field) : Bytes :=
  encodeVarint (8 * f.number + f.value.wireType) ++ f.value.encode

def encodeFields (fields : List Field) : Bytes := fields.flatMap Field.encode

def Value.decode (wireType : Nat) (bytes : Bytes) : Option (Value × Bytes) :=
  match wireType with
  | 0 => (decodeVarint bytes).map fun read => (.varint read.1, read.2)
  | 2 => (decodeVarint bytes).bind fun read =>
      if read.1 ≤ read.2.length then some (.len (read.2.take read.1), read.2.drop read.1) else none
  | _ => none

def Field.decode (bytes : Bytes) : Option (Field × Bytes) :=
  (decodeVarint bytes).bind fun tag =>
    if tag.1 / 8 = 0 then none
    else (Value.decode (tag.1 % 8) tag.2).map fun value => (⟨tag.1 / 8, value.1⟩, value.2)

/-- The fields up to the first one that cannot be read. Every field takes a byte, so
the length bounds their number. -/
def readFields : Nat → Bytes → List Field
  | 0, _ => []
  | count + 1, bytes =>
      match Field.decode bytes with
      | none => []
      | some (field, rest) => field :: readFields count rest

def decodeFields (bytes : Bytes) : List Field := readFields bytes.length bytes

/-! ### Fields of a message

A field that holds its default is left out. -/

def uintField (number n : Nat) : List Field := if n = 0 then [] else [⟨number, .varint n⟩]

/-- A signed integer goes out as the 64-bit two's complement word it extends to. -/
def signExtend (n : Int) : Nat := (n % 2 ^ 64).toNat

def intField (number : Nat) (n : Int) : List Field := uintField number (signExtend n)

def bytesField (number : Nat) (bytes : Bytes) : List Field :=
  if bytes = [] then [] else [⟨number, .len bytes⟩]

/-- The last field of that number counts; one of another wire type is not it. -/
def lastVarint (number : Nat) (fields : List Field) : Option Nat :=
  fields.foldl (fun last f => match f with
    | ⟨k, .varint n⟩ => if k = number then some n else last
    | ⟨_, .len _⟩ => last) none

def lastLen (number : Nat) (fields : List Field) : Option Bytes :=
  fields.foldl (fun last f => match f with
    | ⟨_, .varint _⟩ => last
    | ⟨k, .len bytes⟩ => if k = number then some bytes else last) none

def varintSizeFrom : Nat → Nat → Nat
  | 0, _ => 0
  | digits + 1, n => if n < 128 then 1 else 1 + varintSizeFrom digits (n / 128)

def varintSize (n : Nat) : Nat := varintSizeFrom 10 n

def lenSize (len : Nat) : Nat := varintSize len + len

@[simp] theorem encodeFields_append (front back : List Field) :
    encodeFields (front ++ back) = encodeFields front ++ encodeFields back := by
  simp [encodeFields]

theorem length_varint (digits n : Nat) :
    (varint digits n).length = varintSizeFrom digits n := by
  induction digits generalizing n with
  | zero => rfl
  | succ digits ih =>
      rw [varint, varintSizeFrom]
      split
      · rfl
      · rw [List.length_cons, ih, Nat.add_comm]

theorem length_encodeVarint (n : Nat) : (encodeVarint n).length = varintSize n :=
  length_varint 10 n

theorem length_uintField (number n : Nat) :
    (encodeFields (uintField number n)).length =
      if n = 0 then 0 else varintSize (8 * number) + varintSize n := by
  rw [uintField]
  split
  · rfl
  · simp [encodeFields, Field.encode, Value.encode, Value.wireType, length_encodeVarint]

theorem length_bytesField (number : Nat) (bytes : Bytes) :
    (encodeFields (bytesField number bytes)).length =
      if bytes = [] then 0 else varintSize (8 * number + 2) + lenSize bytes.length := by
  rw [bytesField]
  split
  · rfl
  · simp [encodeFields, Field.encode, Value.encode, Value.wireType, length_encodeVarint, lenSize]

theorem length_lenField (number : Nat) (bytes : Bytes) :
    (encodeFields [⟨number, .len bytes⟩]).length =
      varintSize (8 * number + 2) + lenSize bytes.length := by
  simp [encodeFields, Field.encode, Value.encode, Value.wireType, length_encodeVarint, lenSize]

theorem varintSize_small (n : Nat) (single : n < 128) : varintSize n = 1 := by
  simp [varintSize, varintSizeFrom, single]

theorem varint_positive (digits n : Nat) : 1 ≤ (varint (digits + 1) n).length := by
  rw [varint]
  split <;> simp

theorem readVarint_varint (digits n : Nat) (rest : Bytes) (small : n < 128 ^ (digits + 1)) :
    readVarint (digits + 1) (varint (digits + 1) n ++ rest) = some (n, rest) := by
  induction digits generalizing n with
  | zero =>
      have single : n < 128 := by simpa using small
      have fits : n % 256 = n := by omega
      simp [varint, readVarint, single, fits]
  | succ digits ih =>
      rw [varint]
      split
      case isTrue single =>
        have fits : n % 256 = n := by omega
        simp [readVarint, single, fits]
      case isFalse more =>
        have high : n / 128 < 128 ^ (digits + 1) := by
          rw [Nat.pow_succ] at small
          exact Nat.div_lt_of_lt_mul (by omega)
        have fits : (n % 128 + 128) % 256 = n % 128 + 128 := by omega
        have marked : ¬ n % 128 + 128 < 128 := by omega
        simp only [List.cons_append, readVarint, UInt8.toNat_ofNat', Nat.reducePow, fits,
          if_neg marked, ih _ high, Option.map_some]
        congr 2
        omega

theorem decodeVarint_encodeVarint (n : Nat) (rest : Bytes) (small : n < 2 ^ 64) :
    decodeVarint (encodeVarint n ++ rest) = some (n, rest) :=
  readVarint_varint 9 n rest (Nat.lt_trans small (by decide))

theorem encodeVarint_positive (n : Nat) : 1 ≤ (encodeVarint n).length := varint_positive 9 n

def Value.Bounded : Value → Prop
  | .varint n => n < 2 ^ 64
  | .len bytes => bytes.length < 2 ^ 64

structure Field.Bounded (f : Field) : Prop where
  named : 1 ≤ f.number
  tagged : f.number < 2 ^ 29
  carried : f.value.Bounded

theorem value_decode_encode (value : Value) (rest : Bytes) (bounded : value.Bounded) :
    Value.decode value.wireType (value.encode ++ rest) = some (value, rest) := by
  cases value with
  | varint n =>
      simp only [Value.wireType, Value.decode, Value.encode, decodeVarint_encodeVarint _ _ bounded,
        Option.map_some]
  | len bytes =>
      simp [Value.wireType, Value.decode, Value.encode, List.append_assoc,
        decodeVarint_encodeVarint _ _ bounded]

theorem wireType_lt (value : Value) : value.wireType < 8 := by
  cases value <;> simp [Value.wireType]

theorem field_decode_encode (f : Field) (rest : Bytes) (bounded : f.Bounded) :
    Field.decode (f.encode ++ rest) = some (f, rest) := by
  have wire := wireType_lt f.value
  have named := bounded.named
  have tagged := bounded.tagged
  have tag : 8 * f.number + f.value.wireType < 2 ^ 64 := by omega
  have number : (8 * f.number + f.value.wireType) / 8 = f.number := by omega
  have kind : (8 * f.number + f.value.wireType) % 8 = f.value.wireType := by omega
  simp only [Field.encode, List.append_assoc, Field.decode, decodeVarint_encodeVarint _ _ tag,
    Option.bind_some, number, kind, value_decode_encode _ _ bounded.carried, Option.map_some]
  rw [if_neg (by omega)]

theorem field_encode_positive (f : Field) : 1 ≤ f.encode.length := by
  have tag := encodeVarint_positive (8 * f.number + f.value.wireType)
  simp only [Field.encode, List.length_append]
  omega

theorem length_le_encodeFields (fields : List Field) :
    fields.length ≤ (encodeFields fields).length := by
  induction fields with
  | nil => simp
  | cons head tail ih =>
      have first := field_encode_positive head
      simp only [encodeFields, List.flatMap_cons, List.length_append, List.length_cons] at ih ⊢
      omega

theorem readFields_encodeFields (count : Nat) (fields : List Field) (enough : fields.length ≤ count)
    (bounded : ∀ f ∈ fields, f.Bounded) : readFields count (encodeFields fields) = fields := by
  induction fields generalizing count with
  | nil =>
      cases count with
      | zero => rfl
      | succ count => rfl
  | cons head tail ih =>
      obtain ⟨count, rfl⟩ : ∃ rest, count = rest + 1 := ⟨count - 1, by simp at enough; omega⟩
      have first := bounded head (by simp)
      have later := ih count (by simpa using enough) (fun f member => bounded f (by simp [member]))
      simp only [encodeFields, List.flatMap_cons, readFields, field_decode_encode _ _ first]
      simpa only [encodeFields, List.cons.injEq, true_and] using later

theorem decodeFields_encodeFields (fields : List Field) (bounded : ∀ f ∈ fields, f.Bounded) :
    decodeFields (encodeFields fields) = fields :=
  readFields_encodeFields _ fields (length_le_encodeFields fields) bounded

@[simp] theorem decodeFields_nil : decodeFields [] = [] := rfl

@[simp] theorem decodeFields_zero (rest : Bytes) : decodeFields (0 :: rest) = [] := by
  have ended : Field.decode (0 :: rest) = none := by
    simp [Field.decode, decodeVarint, readVarint]
  simp [decodeFields, readFields, ended]

end Wire
