import Mathlib.Logic.Function.Basic
import ZeldaServer.Lib.Scanning

/-! The loaders of `RoomDataManager`: how the data files are read. A `char` is a character. -/

namespace ZeldaServer

namespace RoomDataManager

open Program (loop throw attempt collect)
open Scanning (find substr skip close)
open WhileLoop (Pass)

abbrev Text := List Char

/-- What `stoi` throws, and the conversion of a path. -/
inductive Exn where
  | invalidArgument
  | outOfRange
  | path
  deriving DecidableEq

abbrev Code := Program Exn

def isSpace (c : Char) : Bool :=
  c = ' ' ∨ c = '\t' ∨ c = '\n' ∨ c = '\x0b' ∨ c = '\x0c' ∨ c = '\r'

def digitsValue (digits : Text) : Nat := digits.foldl (fun n c => 10 * n + (c.toNat - '0'.toNat)) 0

def signed : Text → Bool × Text
  | '-' :: rest => (true, rest)
  | '+' :: rest => (false, rest)
  | rest => (false, rest)

/-- What `stoi` makes of a text. -/
def parseInt (text : Text) : Except Exn Int32 :=
  let (negative, rest) := signed (text.dropWhile isSpace)
  let digits := rest.takeWhile Char.isDigit
  let value : Int := if negative then -digitsValue digits else digitsValue digits
  if digits = [] then .error .invalidArgument
  else if value < -2 ^ 31 ∨ 2 ^ 31 ≤ value then .error .outOfRange
  else .ok (Int32.ofInt value)

def stoi (text : Text) : Code Int32 := .ofExcept (parseInt text)

def findKey (json key : Text) (startPos : Nat) : Option Nat :=
  find ('"' :: key ++ ['"']) json startPos

def getStringValue (json key : Text) (startPos : Nat) : Text :=
  match findKey json key startPos with
  | none => []
  | some keyPos =>
      match find [':'] json keyPos with
      | none => []
      | some colonPos =>
          match find ['"'] json colonPos with
          | none => []
          | some quoteStart =>
              match find ['"'] json (quoteStart + 1) with
              | none => []
              | some quoteEnd => substr json (quoteStart + 1) (quoteEnd - quoteStart - 1)

def isBlank (c : Char) : Bool := c = ' ' ∨ c = '\t' ∨ c = '\n'

def isGap (c : Char) : Bool := isBlank c ∨ c = ','

def isNumeral (c : Char) : Bool := c.isDigit ∨ c = '-'

def getIntValue (json key : Text) (startPos : Nat) : Code Int32 :=
  match findKey json key startPos with
  | none => pure 0
  | some keyPos =>
      match find [':'] json keyPos with
      | none => pure 0
      | some colonPos => do
          let numStart ← skip isBlank json json.length (colonPos + 1)
          let numEnd ← skip isNumeral json json.length numStart
          if numStart < numEnd then stoi (substr json numStart (numEnd - numStart)) else pure 0

/-- A pass through the loop of `GetIntArray`. -/
def intArrayPass (json : Text) (arrayEnd : Nat) :
    Nat × List Int32 → Code (Pass (Nat × List Int32) (List Int32))
  | (pos, result) => do
      if pos < arrayEnd then
        let pos ← skip isGap json arrayEnd pos
        if arrayEnd ≤ pos then return .exit result
        let numEnd ← skip isNumeral json arrayEnd pos
        if pos < numEnd then
          let value ← stoi (substr json pos (numEnd - pos))
          return .again (numEnd, result ++ [value])
        return .again (pos + 1, result)
      return .exit result

def getIntArray (json key : Text) (startPos : Nat) : Code (List Int32) :=
  let keyPos := if key = [] then some startPos else findKey json key startPos
  match keyPos with
  | none => pure []
  | some keyPos =>
      let colonPos := if key = [] then some keyPos else find [':'] json keyPos
      match colonPos.bind (find ['['] json) with
      | none => pure []
      | some arrayStart =>
          match find [']'] json arrayStart with
          | none => pure []
          | some arrayEnd => loop (intArrayPass json arrayEnd) (arrayStart + 1, [])

/-- The block, which is empty where there is none, and `outEndPos`. -/
def getObjectBlock (json : Text) (startPos outEndPos : Nat) : Code (Text × Nat) :=
  match find ['{'] json startPos with
  | none => pure ([], outEndPos)
  | some objStart => do
      let (pos, braceCount) ← close '{' '}' json (objStart + 1)
      if braceCount = 0 then return (substr json objStart (pos - objStart), pos)
      return ([], outEndPos)

/-- A pass through the loop of `GetObjectsInArray`. -/
def objectsPass (json : Text) (arrayEnd : Nat) :
    Nat × List Text → Code (Pass (Nat × List Text) (List Text))
  | (pos, result) => do
      if pos < arrayEnd then
        let pos ← skip isGap json arrayEnd pos
        if arrayEnd ≤ pos ∨ json[pos]? = some ']' then return .exit result
        let (objBlock, endPos) ← getObjectBlock json pos 0
        if objBlock = [] then return .exit result
        return .again (endPos, result ++ [objBlock])
      return .exit result

def getObjectsInArray (json arrayKey : Text) (startPos : Nat) : Code (List Text) :=
  match findKey json arrayKey startPos with
  | none => pure []
  | some keyPos =>
      match find [':'] json keyPos with
      | none => pure []
      | some colonPos =>
          match find ['['] json colonPos with
          | none => pure []
          | some arrayStart => do
              let (arrayEnd, _) ← close '[' ']' json (arrayStart + 1)
              loop (objectsPass json arrayEnd) (arrayStart + 1, [])

/-- `VectorInt` -/
structure Vec2Int where
  x : Int32
  y : Int32
  deriving DecidableEq

structure MonsterInfo where
  templateId : Int32
  count : Int32
  level : Int32
  aggroRange : Int32
  leashRange : Int32
  deriving DecidableEq

structure MonsterSpawnData where
  groupId : Text
  anchor : Vec2Int
  offsets : List Vec2Int
  monsters : List MonsterInfo
  deriving DecidableEq

structure RoomSpawnConfig where
  roomId : Text
  spawns : List MonsterSpawnData
  deriving DecidableEq

def pairPass (groupJson : Text) (pairEnd : Nat) :
    Nat × List Int32 → Code (Pass (Nat × List Int32) (List Int32))
  | (numPos, pair) => do
      if numPos < pairEnd then
        let numPos ← skip isGap groupJson pairEnd numPos
        if pairEnd ≤ numPos then return .exit pair
        let isNegative := groupJson[numPos]? = some '-'
        let numPos := if isNegative then numPos + 1 else numPos
        let numEnd ← skip Char.isDigit groupJson pairEnd numPos
        if numPos < numEnd then
          let value ← stoi (substr groupJson numPos (numEnd - numPos))
          return .again (numEnd, pair ++ [if isNegative then -value else value])
        return .again (numEnd, pair)
      return .exit pair

def firstTwo : List Int32 → Option Vec2Int
  | x :: y :: _ => some ⟨x, y⟩
  | _ => none

def offsetsPass (groupJson : Text) (arrayEnd : Nat) :
    Nat × List Vec2Int → Code (Pass (Nat × List Vec2Int) (List Vec2Int))
  | (currentPos, offsets) =>
      if currentPos < arrayEnd then
        match find ['['] groupJson currentPos with
        | none => pure (.exit offsets)
        | some pairStart =>
            if arrayEnd - 1 ≤ pairStart then pure (.exit offsets)
            else
              match find [']'] groupJson pairStart with
              | none => pure (.exit offsets)
              | some pairEnd =>
                  if arrayEnd ≤ pairEnd then pure (.exit offsets)
                  else do
                    let pair ← loop (pairPass groupJson pairEnd) (pairStart + 1, [])
                    return .again (pairEnd + 1, offsets ++ (firstTwo pair).toList)
      else pure (.exit offsets)

def readOffsets (groupJson : Text) : Code (List Vec2Int) :=
  match findKey groupJson "offsets".toList 0 with
  | none => pure []
  | some offsetsPos =>
      match find ['['] groupJson offsetsPos with
      | none => pure []
      | some arrayStart => do
          let (arrayEnd, _) ← close '[' ']' groupJson (arrayStart + 1)
          loop (offsetsPass groupJson arrayEnd) (arrayStart + 1, [])

def readMonster (monsterJson : Text) : Code MonsterInfo := do
  let templateId ← getIntValue monsterJson "templateId".toList 0
  let count ← getIntValue monsterJson "count".toList 0
  let level ← getIntValue monsterJson "level".toList 0
  let aggroRange ← getIntValue monsterJson "aggroRange".toList 0
  let leashRange ← getIntValue monsterJson "leashRange".toList 0
  return { templateId, count, level, aggroRange, leashRange }

def readGroup (groupJson : Text) : Code MonsterSpawnData := do
  let groupId := getStringValue groupJson "groupId".toList 0
  let anchorArray ← getIntArray groupJson "anchor".toList 0
  let anchor := (firstTwo anchorArray).getD ⟨0, 0⟩
  let offsets ← readOffsets groupJson
  let monsterObjects ← getObjectsInArray groupJson "monsters".toList 0
  let monsters ← collect readMonster monsterObjects
  return { groupId, anchor, offsets, monsters }

def readRoom (json roomId : Text) (roomObjStart : Nat) : Code RoomSpawnConfig := do
  let spawnGroupObjects ← getObjectsInArray json "spawns".toList roomObjStart
  let spawns ← collect readGroup spawnGroupObjects
  return { roomId, spawns }

abbrev SpawnConfigs := Text → Option RoomSpawnConfig

inductive Quoted where
  | done
  /-- Not a room. -/
  | skipped (quoteEnd : Nat)
  | room (roomId : Text) (quoteEnd roomObjStart : Nat)

/-- A room has `"spawns"` before the next closing brace. -/
def nextQuoted (json : Text) (pos : Nat) : Quoted :=
  match find ['"'] json pos with
  | none => .done
  | some quoteStart =>
      if json.length - 1 ≤ quoteStart then .done
      else
        match find ['"'] json (quoteStart + 1) with
        | none => .done
        | some quoteEnd =>
            match find ['{'] json quoteEnd with
            | none => .done
            | some roomObjStart =>
                match findKey json "spawns".toList roomObjStart with
                | none => .skipped quoteEnd
                | some spawnsKeyPos =>
                    -- `npos` is greater than every position
                    if (find ['}'] json roomObjStart).any (· < spawnsKeyPos) then .skipped quoteEnd
                    else
                      .room (substr json (quoteStart + 1) (quoteEnd - quoteStart - 1)) quoteEnd
                        roomObjStart

/-- A pass through the scan for rooms. An exception ends it, the rooms so far stay. -/
def roomsPass (json : Text) :
    Nat × SpawnConfigs → Code (Pass (Nat × SpawnConfigs) (Bool × SpawnConfigs))
  | (pos, spawnConfigs) =>
      match nextQuoted json pos with
      | .done => pure (.exit (true, spawnConfigs))
      | .skipped quoteEnd => pure (.again (quoteEnd + 1, spawnConfigs))
      | .room roomId quoteEnd roomObjStart => do
          match ← attempt (readRoom json roomId roomObjStart) with
          | .error _ => return .exit (false, spawnConfigs)
          | .ok config =>
              return .again (quoteEnd + 1, Function.update spawnConfigs roomId (some config))

def parseMonsterSpawnJson (json : Text) (spawnConfigs : SpawnConfigs) :
    Code (Bool × SpawnConfigs) := loop (roomsPass json) (0, spawnConfigs)

end RoomDataManager

end ZeldaServer
