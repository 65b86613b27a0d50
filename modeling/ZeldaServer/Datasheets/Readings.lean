import Mathlib.Data.List.ReduceOption
import ZeldaServer.Datasheets.RoomDataManager

/-! What the loops of the JSON parser do to any text: which parts of it they read, in which order,
and what comes of reading them. Only the loop over the numbers of a pair may not end. -/

namespace ZeldaServer

namespace RoomDataManager

open Program (loop collect means_pure means_bind means_bind_gave means_bind_never means_loop means_loop_again
  means_loop_pass means_loop_exit means_loop_stuck means_ofExcept means_collect means_attempt)
open Scanning (find substr segment skipTo means_skip closing means_close runs find_spec
  segment_skip segment_run segment_nil segment_cons segment_empty runs_nil runs_others runs_other
  runs_takeWhile means_bind_skip skipTo_le closing_le)
open WhileLoop (Pass)

/-- `stoi` -/
def number (text : Text) : Outcome Exn Int32 := .ofExcept (parseInt text)

theorem means_stoi (text : Text) : (stoi text).Means (number text) := means_ofExcept _

def intText (json key : Text) (startPos : Nat) : Option Text :=
  (findKey json key startPos).bind fun keyPos =>
    (find [':'] json keyPos).bind fun colonPos =>
      let numStart := skipTo isBlank json json.length (colonPos + 1)
      let text := (segment json numStart json.length).takeWhile isNumeral
      if text = [] then none else some text

def intValue (json key : Text) (startPos : Nat) : Outcome Exn Int32 :=
  match intText json key startPos with
  | none => .gave 0
  | some text => number text

theorem means_getIntValue (json key : Text) (startPos : Nat) :
    (getIntValue json key startPos).Means (intValue json key startPos) := by
  unfold getIntValue intValue intText
  cases findKey json key startPos with
  | none => exact means_pure 0
  | some keyPos =>
      dsimp only [Option.bind_some]
      cases find [':'] json keyPos with
      | none => exact means_pure 0
      | some colonPos =>
          dsimp only [Option.bind_some]
          apply means_bind_gave (means_skip isBlank json _ _ (Nat.le_refl _))
          generalize skipTo isBlank json json.length (colonPos + 1) = numStart
          apply means_bind_skip (Nat.le_refl _)
          intro numEnd length run _
          cases digits : (segment json numStart json.length).takeWhile isNumeral with
          | nil =>
              rw [digits, List.length_nil] at length
              rw [if_neg (by omega)]
              exact means_pure 0
          | cons c tail =>
              rw [digits] at length run
              rw [List.length_cons] at length
              rw [if_pos (by omega), if_neg (by simp)]
              change (stoi (segment json numStart numEnd)).Means (number (c :: tail))
              rw [run]
              exact means_stoi _

def arrayText (json key : Text) (startPos : Nat) : Option Text :=
  (findKey json key startPos).bind fun keyPos =>
    (find [':'] json keyPos).bind fun colonPos =>
      (find ['['] json colonPos).bind fun arrayStart =>
        (find [']'] json arrayStart).map fun arrayEnd => segment json (arrayStart + 1) arrayEnd

def intArray (json key : Text) (startPos : Nat) : Outcome Exn (List Int32) :=
  .collect number (runs isNumeral ((arrayText json key startPos).getD []))

theorem collect_cons {α β : Type} (f : β → Outcome Exn α) (item : β) (items : List β)
    (front : List α) :
    (f item >>= fun value => Outcome.collect f items >>= fun values =>
        .gave ((front ++ [value]) ++ values)) =
      Outcome.collect f (item :: items) >>= fun values => .gave (front ++ values) := by
  rw [Outcome.collect, bind_assoc]
  congr 1
  funext value
  rw [bind_assoc]
  congr 1
  funext values
  rw [List.append_assoc]
  rfl

theorem gap_not_numeral (c : Char) (gap : isGap c = true) : isNumeral c = false := by
  simp only [isGap, isBlank, decide_eq_true_eq] at gap
  rcases gap with (rfl | rfl | rfl) | rfl <;> decide

theorem runs_dropGaps (kind : Char → Bool) (other : ∀ c, isGap c = true → kind c = false)
    (text : Text) : runs kind (text.dropWhile isGap) = runs kind text := by
  calc
    runs kind (text.dropWhile isGap) = runs kind (text.takeWhile isGap ++ text.dropWhile isGap) :=
      (runs_others _ _ fun c member =>
        other c (List.all_eq_true.mp List.all_takeWhile c member)).symm
    _ = runs kind text := by rw [List.takeWhile_append_dropWhile]

theorem means_intArrayLoop (json : Text) (arrayEnd : Nat) (inside : arrayEnd ≤ json.length)
    (pos : Nat) (result : List Int32) :
    (loop (intArrayPass json arrayEnd) (pos, result)).Means
      (Outcome.collect number (runs isNumeral (segment json pos arrayEnd)) >>= fun values =>
        .gave (result ++ values)) := by
  induction left : arrayEnd - pos using Nat.strongRecOn generalizing pos result with
  | ind left ih =>
      by_cases before : pos < arrayEnd
      case neg =>
        rw [segment_nil json pos arrayEnd (by omega)]
        simp only [runs_nil, Outcome.collect, Outcome.gave_bind, List.append_nil]
        apply means_loop_exit
        simp only [intArrayPass, if_neg before]
        exact means_pure _
      case pos =>
        rw [← runs_dropGaps isNumeral gap_not_numeral]
        apply means_loop_pass
        simp only [intArrayPass, if_pos before, bind_assoc]
        apply means_bind_skip inside
        intro start far _ behind
        cases rest : (segment json pos arrayEnd).dropWhile isGap with
        | nil =>
            rw [if_pos (segment_empty inside (behind.trans rest))]
            simp only [runs_nil, Outcome.collect, Outcome.gave_bind, List.append_nil]
            exact means_pure _
        | cons c tail =>
            rw [rest] at behind
            obtain ⟨within, -, later⟩ := segment_cons behind
            rw [if_neg (by omega), bind_assoc]
            apply means_bind_skip inside
            intro numEnd length run next
            rw [behind] at length run next
            by_cases numeral : isNumeral c = true
            case pos =>
              rw [List.takeWhile_cons_of_pos numeral, List.length_cons] at length
              rw [if_pos (by omega), bind_assoc, runs_takeWhile tail numeral, ← run, ← next,
                ← collect_cons]
              apply means_bind (means_stoi _)
              intro value _
              exact ih (arrayEnd - numEnd) (by omega) numEnd _ rfl
            case neg =>
              rw [List.takeWhile_cons_of_neg numeral, List.length_nil] at length
              rw [if_neg (by omega), runs_other (by simpa using numeral), ← later]
              exact ih (arrayEnd - (start + 1)) (by omega) (start + 1) result rfl

theorem means_getIntArray (json key : Text) (startPos : Nat) (named : key ≠ []) :
    (getIntArray json key startPos).Means (intArray json key startPos) := by
  unfold getIntArray intArray arrayText
  simp only [if_neg named]
  cases findKey json key startPos with
  | none => exact means_pure []
  | some keyPos =>
      dsimp only [Option.bind_some]
      cases find [':'] json keyPos with
      | none => exact means_pure []
      | some colonPos =>
          dsimp only [Option.bind_some]
          cases find ['['] json colonPos with
          | none => exact means_pure []
          | some arrayStart =>
              dsimp only [Option.bind_some]
              cases found : find [']'] json arrayStart with
              | none => exact means_pure []
              | some arrayEnd =>
                  have within := (find_spec found).2.2
                  have all := means_intArrayLoop json arrayEnd
                    (by simpa using Nat.le_of_succ_le within) (arrayStart + 1) []
                  simpa using all

def objectBlock (json : Text) (startPos : Nat) : Option (Text × Nat) :=
  (find ['{'] json startPos).bind fun objStart =>
    let (length, depth) := closing '{' '}' (json.drop (objStart + 1)) 1
    if depth = 0 then some (substr json objStart (length + 1), objStart + 1 + length) else none

theorem means_getObjectBlock (json : Text) (startPos outEndPos : Nat) :
    (getObjectBlock json startPos outEndPos).Means
      (.gave ((objectBlock json startPos).getD ([], outEndPos))) := by
  unfold getObjectBlock objectBlock
  cases find ['{'] json startPos with
  | none => exact means_pure _
  | some objStart =>
      dsimp only [Option.bind_some]
      apply means_bind_gave (means_close '{' '}' json (objStart + 1))
      generalize closing '{' '}' (json.drop (objStart + 1)) 1 = closed
      dsimp only
      split
      · have length : objStart + 1 + closed.1 - objStart = closed.1 + 1 := by omega
        rw [length]
        exact means_pure _
      · exact means_pure _

theorem objectBlock_spec {json block : Text} {startPos endPos : Nat}
    (found : objectBlock json startPos = some (block, endPos)) : startPos < endPos ∧ block ≠ [] := by
  obtain ⟨objStart, brace, closed⟩ := Option.bind_eq_some_iff.mp found
  obtain ⟨behind, -, inside⟩ := find_spec brace
  dsimp only at closed
  split at closed
  case isTrue =>
    obtain ⟨rfl, rfl⟩ := Prod.mk.inj (Option.some.inj closed)
    refine ⟨by omega, List.ne_nil_of_length_pos ?_⟩
    rw [List.length_singleton] at inside
    simp only [substr, List.length_take, List.length_drop]
    omega
  case isFalse => cases closed

def objectsFrom (json : Text) (arrayEnd : Nat) : Nat → Nat → List Text
  | 0, _ => []
  | fuel + 1, pos =>
      let start := skipTo isGap json arrayEnd pos
      if arrayEnd ≤ start ∨ json[start]? = some ']' then []
      else
        match objectBlock json start with
        | none => []
        | some (block, endPos) => block :: objectsFrom json arrayEnd fuel endPos

def objectsInArray (json key : Text) (startPos : Nat) : List Text :=
  match (findKey json key startPos).bind fun keyPos =>
    (find [':'] json keyPos).bind fun colonPos => find ['['] json colonPos with
  | none => []
  | some arrayStart =>
      objectsFrom json (arrayStart + 1 + (closing '[' ']' (json.drop (arrayStart + 1)) 1).1)
        json.length (arrayStart + 1)

theorem means_objectsLoop (json : Text) (arrayEnd : Nat) (inside : arrayEnd ≤ json.length)
    (fuel pos : Nat) (enough : arrayEnd - pos ≤ fuel) (result : List Text) :
    (loop (objectsPass json arrayEnd) (pos, result)).Means
      (.gave (result ++ objectsFrom json arrayEnd fuel pos)) := by
  induction fuel generalizing pos result with
  | zero =>
      rw [objectsFrom, List.append_nil]
      apply means_loop_exit
      simp only [objectsPass, if_neg (show ¬ pos < arrayEnd by omega)]
      exact means_pure _
  | succ fuel ih =>
      rw [objectsFrom]
      by_cases before : pos < arrayEnd
      case neg =>
        have start : skipTo isGap json arrayEnd pos = pos := by
          rw [skipTo, segment_nil json pos arrayEnd (by omega)]
          rfl
        rw [start, if_pos (.inl (by omega)), List.append_nil]
        apply means_loop_exit
        simp only [objectsPass, if_neg before]
        exact means_pure _
      case pos =>
        apply means_loop_pass
        simp only [objectsPass, if_pos before, bind_assoc]
        apply means_bind_gave (means_skip isGap json arrayEnd pos inside)
        have later := (skipTo_le isGap json arrayEnd pos (by omega)).1
        generalize skipTo isGap json arrayEnd pos = start at later
        split
        case isTrue ends =>
          rw [List.append_nil]
          exact means_pure _
        case isFalse goes =>
          rw [bind_assoc]
          apply means_bind_gave (means_getObjectBlock json start 0)
          cases found : objectBlock json start with
          | none =>
              rw [List.append_nil]
              exact means_pure _
          | some block =>
              obtain ⟨block, endPos⟩ := block
              obtain ⟨further, nonempty⟩ := objectBlock_spec found
              simp only [Option.getD_some, if_neg nonempty]
              have all := ih endPos (by omega) (result ++ [block])
              rw [List.append_assoc] at all
              exact all

theorem means_getObjectsInArray (json arrayKey : Text) (startPos : Nat) :
    (getObjectsInArray json arrayKey startPos).Means
      (.gave (objectsInArray json arrayKey startPos)) := by
  unfold getObjectsInArray objectsInArray
  cases findKey json arrayKey startPos with
  | none => exact means_pure []
  | some keyPos =>
      dsimp only [Option.bind_some]
      cases find [':'] json keyPos with
      | none => exact means_pure []
      | some colonPos =>
          dsimp only [Option.bind_some]
          cases found : find ['['] json colonPos with
          | none => exact means_pure []
          | some arrayStart =>
              apply means_bind_gave (means_close '[' ']' json (arrayStart + 1))
              have within := (find_spec found).2.2
              have closed := closing_le '[' ']' (json.drop (arrayStart + 1)) 1
              rw [List.length_singleton] at within
              rw [List.length_drop] at closed
              exact means_objectsLoop json _ (by omega) json.length _ (by omega) []

def pairNumbers : Nat → Text → Outcome Exn (List Int32)
  | 0, _ => .gave []
  | fuel + 1, text =>
      match text.dropWhile isGap with
      | [] => .gave []
      | c :: tail =>
          let rest := if c = '-' then tail else c :: tail
          if rest.takeWhile Char.isDigit = [] then
            if c = '-' then pairNumbers fuel rest else .never
          else do
            let value ← number (rest.takeWhile Char.isDigit)
            let values ← pairNumbers fuel (rest.dropWhile Char.isDigit)
            .gave ((if c = '-' then -value else value) :: values)

theorem means_pairLoop_stuck (groupJson : Text) (pairEnd : Nat) (inside : pairEnd ≤ groupJson.length)
    (start : Nat) (pair : List Int32) (c : Char) (tail : Text)
    (here : segment groupJson start pairEnd = c :: tail) (gap : isGap c = false)
    (digit : c.isDigit = false) (minus : c ≠ '-') :
    (loop (pairPass groupJson pairEnd) (start, pair)).Means .never := by
  obtain ⟨before, char, -⟩ := segment_cons here
  apply means_loop_stuck (fun state => state = (start, pair))
  · rintro state rfl
    refine ⟨(start, pair), ?_, rfl⟩
    simp only [pairPass, if_pos before]
    apply means_bind_skip inside
    intro next length _ _
    rw [here, List.takeWhile_cons_of_neg (by simp [gap])] at length
    obtain rfl : next = start := length
    have positive : ¬ groupJson[next]? = some '-' := by simp [char, minus]
    rw [if_neg (by omega)]
    simp only [if_neg positive]
    apply means_bind_skip inside
    intro numEnd length _ _
    rw [here, List.takeWhile_cons_of_neg (by simp [digit])] at length
    obtain rfl : numEnd = next := length
    rw [if_neg (by omega)]
    exact means_pure _
  · rfl

theorem means_pairLoop (groupJson : Text) (pairEnd : Nat) (inside : pairEnd ≤ groupJson.length)
    (fuel numPos : Nat) (enough : pairEnd - numPos ≤ fuel) (pair : List Int32) :
    (loop (pairPass groupJson pairEnd) (numPos, pair)).Means
      (pairNumbers fuel (segment groupJson numPos pairEnd) >>= fun values =>
        .gave (pair ++ values)) := by
  induction fuel generalizing numPos pair with
  | zero =>
      simp only [pairNumbers, Outcome.gave_bind, List.append_nil]
      apply means_loop_exit
      simp only [pairPass, if_neg (show ¬ numPos < pairEnd by omega)]
      exact means_pure _
  | succ fuel ih =>
      rw [pairNumbers]
      by_cases before : numPos < pairEnd
      case neg =>
        rw [segment_nil groupJson numPos pairEnd (by omega)]
        simp only [List.dropWhile_nil, Outcome.gave_bind, List.append_nil]
        apply means_loop_exit
        simp only [pairPass, if_neg before]
        exact means_pure _
      case pos =>
        apply means_loop_pass
        simp only [pairPass, if_pos before, bind_assoc]
        apply means_bind_skip inside
        intro start far _ behind
        cases rest : (segment groupJson numPos pairEnd).dropWhile isGap with
        | nil =>
            rw [if_pos (segment_empty inside (behind.trans rest))]
            simp only [Outcome.gave_bind, List.append_nil]
            exact means_pure _
        | cons c tail =>
            rw [rest] at behind
            obtain ⟨within, here, later⟩ := segment_cons behind
            rw [if_neg (by omega), bind_assoc]
            have negative : (groupJson[start]? = some '-') = (c = '-') := by simp [here]
            simp only [negative]
            have cut : segment groupJson (if c = '-' then start + 1 else start) pairEnd =
                if c = '-' then tail else c :: tail := by
              split
              · exact later
              · exact behind
            generalize digitsStart : (if c = '-' then start + 1 else start) = first at cut
            generalize text : (if c = '-' then tail else c :: tail) = signless at cut
            apply means_bind_skip inside
            intro numEnd length run next
            rw [cut] at length run next
            by_cases digits : signless.takeWhile Char.isDigit = []
            case neg =>
              have longer : 0 < (signless.takeWhile Char.isDigit).length :=
                List.length_pos_iff.mpr digits
              rw [if_neg digits, if_pos (by omega), bind_assoc, bind_assoc, ← run, ← next]
              apply means_bind (means_stoi _)
              intro value _
              rw [bind_assoc]
              have all := ih numEnd (by split at digitsStart <;> omega)
                (pair ++ [if c = '-' then -value else value])
              simp only [List.append_assoc] at all
              exact all
            case pos =>
              rw [digits] at length
              obtain rfl : numEnd = first := length
              rw [if_pos digits, if_neg (by omega)]
              split
              case isTrue minus =>
                rw [if_pos minus] at digitsStart
                rw [← cut]
                exact ih numEnd (by omega) pair
              case isFalse plus =>
                rw [if_neg plus] at digitsStart text
                subst digitsStart text
                have gap : isGap c = false := by
                  have other := List.head?_dropWhile_not isGap (segment groupJson numPos pairEnd)
                  rwa [rest] at other
                have digit : c.isDigit = false := by
                  by_contra digit
                  rw [List.takeWhile_cons_of_pos (by simpa using digit)] at digits
                  cases digits
                exact means_pairLoop_stuck groupJson pairEnd inside start pair c tail cut gap digit
                  plus

def pairTextsFrom (groupJson : Text) (arrayEnd : Nat) : Nat → Nat → List Text
  | 0, _ => []
  | fuel + 1, currentPos =>
      match find ['['] groupJson currentPos with
      | none => []
      | some pairStart =>
          if arrayEnd - 1 ≤ pairStart then []
          else
            match find [']'] groupJson pairStart with
            | none => []
            | some pairEnd =>
                if arrayEnd ≤ pairEnd then []
                else
                  segment groupJson (pairStart + 1) pairEnd ::
                    pairTextsFrom groupJson arrayEnd fuel (pairEnd + 1)

/-- The pairs of `"offsets"`. -/
def pairTexts (groupJson : Text) : List Text :=
  match (findKey groupJson "offsets".toList 0).bind (find ['['] groupJson) with
  | none => []
  | some arrayStart =>
      pairTextsFrom groupJson
        (arrayStart + 1 + (closing '[' ']' (groupJson.drop (arrayStart + 1)) 1).1)
        groupJson.length (arrayStart + 1)

def pair (text : Text) : Outcome Exn (Option Vec2Int) :=
  pairNumbers text.length text >>= fun numbers => .gave (firstTwo numbers)

def offsets (groupJson : Text) : Outcome Exn (List Vec2Int) :=
  .collect pair (pairTexts groupJson) >>= fun pairs => .gave pairs.reduceOption

theorem means_offsetsLoop (groupJson : Text) (arrayEnd : Nat)
    (inside : arrayEnd ≤ groupJson.length) (fuel currentPos : Nat)
    (enough : arrayEnd - currentPos ≤ fuel) (offsets : List Vec2Int) :
    (loop (offsetsPass groupJson arrayEnd) (currentPos, offsets)).Means
      (Outcome.collect pair (pairTextsFrom groupJson arrayEnd fuel currentPos) >>= fun pairs =>
        .gave (offsets ++ pairs.reduceOption)) := by
  have ended (offsets : List Vec2Int) (texts : List Text) (none_left : texts = []) :
      (pure offsets : Code (List Vec2Int)).Means (Outcome.collect pair texts >>= fun pairs =>
        .gave (offsets ++ pairs.reduceOption)) := by
    subst none_left
    simp only [Outcome.collect, Outcome.gave_bind, List.reduceOption_nil, List.append_nil]
    exact means_pure _
  induction fuel generalizing currentPos offsets with
  | zero =>
      apply means_loop_pass
      simp only [offsetsPass, if_neg (show ¬ currentPos < arrayEnd by omega)]
      exact ended _ _ rfl
  | succ fuel ih =>
      apply means_loop_pass
      rw [pairTextsFrom]
      simp only [offsetsPass]
      by_cases before : currentPos < arrayEnd
      case neg =>
        rw [if_neg before]
        apply ended
        cases bracket : find ['['] groupJson currentPos with
        | none => rfl
        | some pairStart =>
            have behind := (find_spec bracket).1
            simp only [if_pos (show arrayEnd - 1 ≤ pairStart by omega)]
      case pos =>
        rw [if_pos before]
        cases bracket : find ['['] groupJson currentPos with
        | none => exact ended _ _ rfl
        | some pairStart =>
            dsimp only
            split
            case isTrue => exact ended _ _ rfl
            case isFalse within =>
              cases closer : find [']'] groupJson pairStart with
              | none => exact ended _ _ rfl
              | some pairEnd =>
                  dsimp only
                  split
                  case isTrue => exact ended _ _ rfl
                  case isFalse goes =>
                    have behind := (find_spec bracket).1
                    have further := (find_spec closer).1
                    have length :
                        (segment groupJson (pairStart + 1) pairEnd).length =
                          pairEnd - (pairStart + 1) := by
                      simp only [Scanning.segment, substr, List.length_take, List.length_drop]
                      omega
                    have numbers := means_pairLoop groupJson pairEnd (by omega)
                      (segment groupJson (pairStart + 1) pairEnd).length (pairStart + 1)
                      (by omega) []
                    simp only [List.nil_append, Outcome.bind_gave] at numbers
                    simp only [Outcome.collect, pair, bind_assoc, Outcome.gave_bind]
                    apply means_bind numbers
                    intro values _
                    have all := ih (pairEnd + 1) (by omega)
                      (offsets ++ (firstTwo values).toList)
                    cases two : firstTwo values with
                    | none => simpa [two] using all
                    | some first => simpa [two] using all

def monster (monsterJson : Text) : Outcome Exn MonsterInfo := do
  let templateId ← intValue monsterJson "templateId".toList 0
  let count ← intValue monsterJson "count".toList 0
  let level ← intValue monsterJson "level".toList 0
  let aggroRange ← intValue monsterJson "aggroRange".toList 0
  let leashRange ← intValue monsterJson "leashRange".toList 0
  .gave { templateId, count, level, aggroRange, leashRange }

theorem means_readMonster (monsterJson : Text) :
    (readMonster monsterJson).Means (monster monsterJson) := by
  apply means_bind (means_getIntValue monsterJson _ 0)
  intro templateId _
  apply means_bind (means_getIntValue monsterJson _ 0)
  intro count _
  apply means_bind (means_getIntValue monsterJson _ 0)
  intro level _
  apply means_bind (means_getIntValue monsterJson _ 0)
  intro aggroRange _
  apply means_bind (means_getIntValue monsterJson _ 0)
  intro leashRange _
  exact means_pure _

def group (groupJson : Text) : Outcome Exn MonsterSpawnData := do
  let anchorArray ← intArray groupJson "anchor".toList 0
  let offsets ← offsets groupJson
  let monsters ← .collect monster (objectsInArray groupJson "monsters".toList 0)
  .gave
    { groupId := getStringValue groupJson "groupId".toList 0
      anchor := (firstTwo anchorArray).getD ⟨0, 0⟩
      offsets, monsters }

theorem means_readOffsets (groupJson : Text) :
    (readOffsets groupJson).Means (offsets groupJson) := by
  unfold readOffsets offsets pairTexts
  cases findKey groupJson "offsets".toList 0 with
  | none => exact means_pure []
  | some offsetsPos =>
      dsimp only [Option.bind_some]
      cases found : find ['['] groupJson offsetsPos with
      | none => exact means_pure []
      | some arrayStart =>
          apply means_bind_gave (means_close '[' ']' groupJson (arrayStart + 1))
          have within := (find_spec found).2.2
          have closed := closing_le '[' ']' (groupJson.drop (arrayStart + 1)) 1
          rw [List.length_singleton] at within
          rw [List.length_drop] at closed
          exact means_offsetsLoop groupJson _ (by omega) groupJson.length _ (by omega) []

theorem means_readGroup (groupJson : Text) :
    (readGroup groupJson).Means (group groupJson) := by
  apply means_bind (means_getIntArray groupJson _ 0 (by simp))
  intro anchorArray _
  apply means_bind (means_readOffsets groupJson)
  intro offsets _
  apply means_bind_gave (means_getObjectsInArray groupJson _ 0)
  apply means_bind (means_collect means_readMonster _)
  intro monsters _
  exact means_pure _

def room (json roomId : Text) (roomObjStart : Nat) : Outcome Exn RoomSpawnConfig :=
  .collect group (objectsInArray json "spawns".toList roomObjStart) >>= fun spawns =>
    .gave { roomId, spawns }

theorem means_readRoom (json roomId : Text) (roomObjStart : Nat) :
    (readRoom json roomId roomObjStart).Means (room json roomId roomObjStart) := by
  apply means_bind_gave (means_getObjectsInArray json _ roomObjStart)
  apply means_bind (means_collect means_readGroup _)
  intro spawns _
  exact means_pure _

/-- The texts in quotes that are taken for rooms, with the objects taken for theirs. -/
def roomsFrom (json : Text) : Nat → Nat → List (Text × Nat)
  | 0, _ => []
  | fuel + 1, pos =>
      match nextQuoted json pos with
      | .done => []
      | .skipped quoteEnd => roomsFrom json fuel (quoteEnd + 1)
      | .room roomId quoteEnd roomObjStart =>
          (roomId, roomObjStart) :: roomsFrom json fuel (quoteEnd + 1)

def rooms (json : Text) : List (Text × Nat) := roomsFrom json (json.length + 1) 0

def readRooms (json : Text) : List (Text × Nat) → SpawnConfigs → Outcome Exn (Bool × SpawnConfigs)
  | [], spawnConfigs => .gave (true, spawnConfigs)
  | (roomId, roomObjStart) :: rest, spawnConfigs =>
      match room json roomId roomObjStart with
      | .never => .never
      | .threw _ => .gave (false, spawnConfigs)
      | .gave config => readRooms json rest (Function.update spawnConfigs roomId (some config))

theorem nextQuoted_further {json : Text} {pos quoteEnd : Nat}
    (quoted : nextQuoted json pos = .skipped quoteEnd ∨
      ∃ roomId roomObjStart, nextQuoted json pos = .room roomId quoteEnd roomObjStart) :
    pos < quoteEnd ∧ quoteEnd < json.length := by
  unfold nextQuoted at quoted
  cases opens : find ['"'] json pos with
  | none => simp [opens] at quoted
  | some quoteStart =>
      rw [opens] at quoted
      dsimp only at quoted
      split at quoted
      case isTrue => simp at quoted
      case isFalse inside =>
        cases closes : find ['"'] json (quoteStart + 1) with
        | none => simp [closes] at quoted
        | some found =>
            have first := (find_spec opens).1
            obtain ⟨second, -, within⟩ := find_spec closes
            rw [List.length_singleton] at within
            rw [closes] at quoted
            dsimp only at quoted
            have same : found = quoteEnd := by
              split at quoted
              · simp at quoted
              · split at quoted
                · simpa using quoted
                · split at quoted <;> simpa using quoted
            omega

theorem means_roomsLoop (json : Text) (fuel pos : Nat) (enough : json.length + 1 - pos ≤ fuel)
    (spawnConfigs : SpawnConfigs) :
    (loop (roomsPass json) (pos, spawnConfigs)).Means
      (readRooms json (roomsFrom json fuel pos) spawnConfigs) := by
  induction fuel generalizing pos spawnConfigs with
  | zero =>
      have past : find ['"'] json pos = none := if_neg (by omega)
      have done : nextQuoted json pos = .done := by simp [nextQuoted, past]
      apply means_loop_exit
      simp only [roomsPass, done]
      exact means_pure _
  | succ fuel ih =>
      rw [roomsFrom]
      apply means_loop_pass
      simp only [roomsPass]
      cases quoted : nextQuoted json pos with
      | done => exact means_pure _
      | skipped quoteEnd =>
          obtain ⟨further, -⟩ := nextQuoted_further (.inl quoted)
          exact ih (quoteEnd + 1) (by omega) spawnConfigs
      | room roomId quoteEnd roomObjStart =>
          obtain ⟨further, -⟩ := nextQuoted_further (.inr ⟨roomId, roomObjStart, quoted⟩)
          dsimp only
          rw [readRooms, bind_assoc]
          have tried := means_attempt (means_readRoom json roomId roomObjStart)
          cases reads : room json roomId roomObjStart with
          | never =>
              rw [reads] at tried
              exact means_bind_never tried
          | threw e =>
              rw [reads] at tried
              apply means_bind_gave tried
              exact means_pure _
          | gave config =>
              rw [reads] at tried
              apply means_bind_gave tried
              exact ih (quoteEnd + 1) (by omega) _

theorem means_parseMonsterSpawnJson (json : Text) (spawnConfigs : SpawnConfigs) :
    (parseMonsterSpawnJson json spawnConfigs).Means (readRooms json (rooms json) spawnConfigs) :=
  means_roomsLoop json _ 0 (Nat.le_refl _) spawnConfigs

end RoomDataManager

end ZeldaServer
