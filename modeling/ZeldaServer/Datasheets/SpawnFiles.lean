import ZeldaServer.Datasheets.Extraction
import ZeldaServer.Datasheets.Numerals

/-! Spawn files in the layout of `MonsterSpawn.json`, and what the searches of the parser find in
a text that is spelt from their tokens. -/

namespace ZeldaServer

namespace RoomDataManager

open Scanning (Apart apart_single Balanced find find_single indexOf_apart indexOf_start)

inductive Mark where
  | openBrace
  | closeBrace
  | openBracket
  | closeBracket
  | colon
  | comma
  deriving DecidableEq

def Mark.char : Mark → Char
  | openBrace => '{'
  | closeBrace => '}'
  | openBracket => '['
  | closeBracket => ']'
  | colon => ':'
  | comma => ','

inductive Key where
  | spawns
  | groupId
  | anchor
  | offsets
  | monsters
  | templateId
  | count
  | level
  | aggroRange
  | leashRange
  deriving DecidableEq

def Key.text : Key → Text
  | spawns => "spawns".toList
  | groupId => "groupId".toList
  | anchor => "anchor".toList
  | offsets => "offsets".toList
  | monsters => "monsters".toList
  | templateId => "templateId".toList
  | count => "count".toList
  | level => "level".toList
  | aggroRange => "aggroRange".toList
  | leashRange => "leashRange".toList

def isSpecial (c : Char) : Bool := c ∈ ['"', '{', '}', '[', ']', ':']

structure Name where
  text : Text
  plain : ∀ c ∈ text, isSpecial c = false
  no_key : ∀ key : Key, text ≠ key.text
  deriving DecidableEq

inductive Token where
  | mark (m : Mark)
  | key (k : Key)
  | name (s : Name)
  | number (n : Int32)
  deriving DecidableEq

def quote (text : Text) : Text := '"' :: (text ++ ['"'])

def Token.text : Token → Text
  | mark m => [m.char]
  | key k => quote k.text
  | name s => quote s.text
  | number n => numberText n

def White (gap : Text) : Prop := ∀ c ∈ gap, c = ' ' ∨ c = '\n'

structure Blanks where
  text : Text
  blank : White text

def spell (gaps : Nat → Blanks) : List Token → Text
  | [] => (gaps 0).text
  | token :: tokens => (gaps 0).text ++ (token.text ++ spell (fun n => gaps (n + 1)) tokens)

structure SpawnGroup where
  groupId : Name
  anchor : Vec2Int
  offsets : List Vec2Int
  monsters : List MonsterInfo

structure SpawnRoom where
  roomId : Name
  spawns : List SpawnGroup

structure SpawnFile where
  rooms : List SpawnRoom
  distinct : (rooms.map fun room => room.roomId.text).Nodup

def commas : List (List Token) → List Token
  | [] => []
  | [item] => item
  | item :: items => item ++ .mark .comma :: commas items

def braces (inner : List Token) : List Token :=
  .mark .openBrace :: (inner ++ [.mark .closeBrace])

def brackets (inner : List Token) : List Token :=
  .mark .openBracket :: (inner ++ [.mark .closeBracket])

def entry (key : Key) (value : List Token) : List Token := .key key :: .mark .colon :: value

def fields (entries : List (Key × List Token)) : List Token :=
  commas (entries.map fun (key, value) => entry key value)

def pairTokens (v : Vec2Int) : List Token := [.number v.x, .mark .comma, .number v.y]

def offsetsTokens (offsets : List Vec2Int) : List Token :=
  brackets (commas (offsets.map fun v => brackets (pairTokens v)))

def monsterTokens (m : MonsterInfo) : List Token :=
  fields [(.templateId, [.number m.templateId]), (.count, [.number m.count]),
    (.level, [.number m.level]), (.aggroRange, [.number m.aggroRange]),
    (.leashRange, [.number m.leashRange])]

def monstersTokens (monsters : List MonsterInfo) : List Token :=
  brackets (commas ((monsters.map monsterTokens).map braces))

def groupTokens (g : SpawnGroup) : List Token :=
  fields [(.groupId, [.name g.groupId]), (.anchor, brackets (pairTokens g.anchor)),
    (.offsets, offsetsTokens g.offsets), (.monsters, monstersTokens g.monsters)]

def spawnsTokens (r : SpawnRoom) : List Token :=
  entry .spawns (brackets (commas ((r.spawns.map groupTokens).map braces)))

def roomTokens (r : SpawnRoom) : List Token :=
  .name r.roomId :: .mark .colon :: braces (spawnsTokens r)

def fileTokens (file : SpawnFile) : List Token := braces (commas (file.rooms.map roomTokens))

def noBlanks : Blanks := ⟨[], List.forall_mem_nil _⟩

def oneLetter : Name := ⟨['a'], List.all_iff_forall_prop.mp (by decide), by rintro ⟨⟩ <;> decide⟩

example :
    spell (fun _ => noBlanks) (fileTokens ⟨[⟨oneLetter, []⟩], by simp⟩) =
      "\x7b\"a\":\x7b\"spawns\":[]\x7d\x7d".toList := by decide

theorem White.nil : White [] := List.forall_mem_nil _

theorem White.append {front back : Text} (first : White front) (second : White back) :
    White (front ++ back) := List.forall_mem_append.mpr ⟨first, second⟩

inductive Spells : List Token → Text → Prop where
  | nil {gap : Text} (blank : White gap) : Spells [] gap
  | cons {gap text : Text} {token : Token} {tokens : List Token}
      (blank : White gap) (rest : Spells tokens text) :
      Spells (token :: tokens) (gap ++ (token.text ++ text))

theorem spells_spell (gaps : Nat → Blanks) (tokens : List Token) :
    Spells tokens (spell gaps tokens) := by
  induction tokens generalizing gaps with
  | nil => exact .nil (gaps 0).blank
  | cons token tokens ih => exact .cons (gaps 0).blank (ih _)

theorem Spells.head {token : Token} {tokens : List Token} {text : Text}
    (spells : Spells (token :: tokens) text) :
    ∃ gap rest, text = gap ++ (token.text ++ rest) ∧ White gap ∧
      Spells tokens rest := by
  cases spells with
  | cons blank rest => exact ⟨_, _, rfl, blank, rest⟩

theorem Spells.split {front back : List Token} {text : Text}
    (spells : Spells (front ++ back) text) :
    ∃ first second, text = first ++ second ∧ Spells front first ∧ Spells back second := by
  induction front generalizing text with
  | nil => exact ⟨[], text, rfl, .nil .nil, spells⟩
  | cons token front ih =>
      obtain ⟨gap, rest, rfl, blank, later⟩ := spells.head
      obtain ⟨first, second, rfl, spelt, behind⟩ := ih later
      exact ⟨gap ++ (token.text ++ first), second, by simp, .cons blank spelt, behind⟩

theorem Spells.append {front back : List Token} {first second : Text}
    (spells : Spells front first) (behind : Spells back second) :
    Spells (front ++ back) (first ++ second) := by
  induction spells with
  | nil before =>
      cases behind with
      | nil blank => exact .nil (before.append blank)
      | cons blank rest =>
          rw [← List.append_assoc]
          exact .cons (before.append blank) rest
  | cons before _ ih =>
      rw [List.append_assoc, List.append_assoc]
      exact .cons before ih

theorem Spells.append_blank {tokens : List Token} {text gap : Text} (spells : Spells tokens text)
    (blank : White gap) : Spells tokens (text ++ gap) := by
  have all := spells.append (.nil blank)
  rwa [List.append_nil] at all

theorem Spells.white {text : Text} (spells : Spells [] text) : White text := by
  cases spells with
  | nil blank => exact blank

theorem White.gaps {gap : Text} (white : White gap) : ∀ c ∈ gap, isGap c = true := by
  intro c listed
  rcases white c listed with rfl | rfl <;> decide

theorem White.blanks {gap : Text} (white : White gap) : ∀ c ∈ gap, isBlank c = true := by
  intro c listed
  rcases white c listed with rfl | rfl <;> decide

theorem White.plain {gap : Text} (white : White gap) :
    ∀ c ∈ gap, isSpecial c = false ∧ c.isAlpha = false := by
  intro c listed
  rcases white c listed with rfl | rfl <;> decide

theorem no_quote {text : Text} (plain : ∀ c ∈ text, isSpecial c = false) : '"' ∉ text :=
  fun listed => absurd (plain _ listed) (by decide)

theorem White.no_quote {gap : Text} (white : White gap) : '"' ∉ gap :=
  RoomDataManager.no_quote fun c listed => (white.plain c listed).1

theorem Spells.inside {opening closer : Mark} {inner behind : List Token} {text : Text}
    (spells : Spells (.mark opening :: (inner ++ .mark closer :: behind)) text) :
    ∃ gap within rest, text = gap ++ opening.char :: (within ++ closer.char :: rest) ∧
      White gap ∧ Spells inner within ∧ Spells behind rest := by
  obtain ⟨gap, later, rfl, blank, later_spells⟩ := spells.head
  obtain ⟨within, close, rfl, spelt, closes⟩ := later_spells.split
  obtain ⟨gap', rest, rfl, blank', rest_spells⟩ := closes.head
  exact ⟨gap, within ++ gap', rest, by simp [Token.text], blank, spelt.append_blank blank',
    rest_spells⟩

theorem Mark.char_injective : Function.Injective Mark.char := by
  intro first second same
  cases first <;> cases second <;> first | rfl | exact absurd same (by decide)

theorem Mark.special {m : Mark} (other : m ≠ .comma) : isSpecial m.char = true := by
  cases m <;> first | rfl | exact absurd rfl other

theorem Key.plain (k : Key) : ∀ c ∈ k.text, isSpecial c = false := by
  cases k <;> exact List.all_iff_forall_prop.mp (by decide)

theorem Key.text_injective : Function.Injective Key.text := by
  intro first second same
  cases first <;> cases second <;> first | rfl | exact absurd same (by decide)

theorem numeral_plain {c : Char} (numeral : isNumeral c = true) : isSpecial c = false := by
  have apart (other : Char) (kind : other.isDigit = false ∧ other ≠ '-') : c ≠ other :=
    numeral_ne numeral kind
  simp [isSpecial, apart '"' (by decide), apart '\x7b' (by decide), apart '\x7d' (by decide),
    apart '[' (by decide), apart ']' (by decide), apart ':' (by decide)]

def Token.quoted : Token → Option Text
  | key k => some k.text
  | name s => some s.text
  | mark _ | number _ => none

theorem quoted_text {token : Token} {text : Text} (quoted : token.quoted = some text) :
    token.text = quote text ∧ ∀ c ∈ text, isSpecial c = false := by
  cases token with
  | key k =>
      cases quoted
      exact ⟨rfl, k.plain⟩
  | name s =>
      cases quoted
      exact ⟨rfl, s.plain⟩
  | mark m => cases quoted
  | number n => cases quoted

theorem digit_not_alpha {c : Char} (digit : c.isDigit = true) : c.isAlpha = false := by
  have range := digit_range digit
  have upper : ¬ 65 ≤ c.toNat := by omega
  have lower : ¬ 97 ≤ c.toNat := by omega
  have no_upper : c.isUpper = false := decide_eq_false fun both => upper both.1
  have no_lower : c.isLower = false := Bool.and_eq_false_iff.mpr (.inl (decide_eq_false lower))
  exact Bool.or_eq_false_iff.mpr ⟨no_upper, no_lower⟩

theorem unquoted_text {token : Token} (unquoted : token.quoted = none) :
    '"' ∉ token.text ∧ ∀ c ∈ token.text, c.isAlpha = false := by
  cases token with
  | mark m => cases m <;> exact ⟨by decide, List.all_iff_forall_prop.mp (by decide)⟩
  | number n =>
      have numerals := (numberText_numeral n).2
      refine ⟨fun listed => absurd (numerals _ listed) (by decide), fun c listed => ?_⟩
      have numeral := numerals c listed
      simp only [isNumeral, decide_eq_true_eq] at numeral
      rcases numeral with digit | rfl
      · exact digit_not_alpha digit
      · decide
  | key k => cases unquoted
  | name s => cases unquoted

theorem Token.begins (token : Token) :
    ∃ c more, token.text = c :: more ∧ c.isAlpha = false := by
  cases quoted : token.quoted with
  | some inside => exact ⟨'"', inside ++ ['"'], (quoted_text quoted).1, by decide⟩
  | none =>
      have nonempty : token.text ≠ [] := by
        cases token with
        | mark m => simp [Token.text]
        | number n => exact (numberText_numeral n).1
        | key k => cases quoted
        | name s => cases quoted
      obtain ⟨c, more, shown⟩ := List.exists_cons_of_ne_nil nonempty
      exact ⟨c, more, shown, (unquoted_text quoted).2 c (by simp [shown])⟩

theorem mem_quote {c : Char} {text : Text} (other : c ≠ '"') : c ∈ quote text ↔ c ∈ text := by
  simp [quote, other]

theorem token_char {m : Mark} {token : Token} (other : m ≠ .comma) :
    m.char ∈ token.text ↔ token = .mark m := by
  constructor
  · intro listed
    have special := Mark.special other
    have unlike_quote : m.char ≠ '"' := by cases m <;> decide
    cases token with
    | mark m' =>
        have same : m.char = m'.char := by simpa [Token.text] using listed
        rw [Mark.char_injective same]
    | key k =>
        have plain := k.plain m.char ((mem_quote unlike_quote).mp listed)
        rw [special] at plain
        cases plain
    | name s =>
        have plain := s.plain m.char ((mem_quote unlike_quote).mp listed)
        rw [special] at plain
        cases plain
    | number n =>
        have plain := numeral_plain ((numberText_numeral n).2 m.char listed)
        rw [special] at plain
        cases plain
  · rintro rfl
    simp [Token.text]

theorem Spells.char_mem {m : Mark} {tokens : List Token} {text : Text} (spells : Spells tokens text)
    (other : m ≠ .comma) : m.char ∈ text ↔ .mark m ∈ tokens := by
  have unlike_white {gap : Text} (blank : White gap) : m.char ∉ gap := by
    intro listed
    have plain := (blank.plain _ listed).1
    rw [Mark.special other] at plain
    cases plain
  induction spells with
  | nil blank => simp [unlike_white blank]
  | cons blank _ ih =>
      simp only [List.mem_append, unlike_white blank, false_or, token_char other, ih,
        List.mem_cons, eq_comm]

theorem Spells.not_alpha {tokens : List Token} {text : Text} (spells : Spells tokens text) :
    ∀ c ∈ text.head?, c.isAlpha = false := by
  cases spells with
  | nil blank => exact fun c first => (blank.plain c (List.mem_of_mem_head? first)).2
  | @cons gap text token tokens blank rest =>
      obtain ⟨d, more, shown, other⟩ := token.begins
      intro c first
      cases gap with
      | cons e gap =>
          cases first
          exact (blank.plain c (List.mem_cons_self ..)).2
      | nil =>
          rw [shown] at first
          cases first
          exact other

theorem split_unique {c : Char} {first second rest rest' : Text} (absent : c ∉ first)
    (absent' : c ∉ second) (same : first ++ c :: rest = second ++ c :: rest') :
    first = second ∧ rest = rest' := by
  have one := indexOf_apart (apart_single absent (c :: rest))
  rw [same, indexOf_apart (apart_single absent' (c :: rest'))] at one
  have starts (rest : Text) : Scanning.indexOf [c] (c :: rest) = some 0 := indexOf_start [c] rest
  rw [starts, starts] at one
  have length : first.length = second.length := by simpa [eq_comm] using one
  obtain ⟨rfl, behind⟩ := List.append_inj same length
  exact ⟨rfl, (List.cons.inj behind).2⟩

theorem apart_of_no_quote (k : Key) {front : Text} (rest : Text) (absent : '"' ∉ front) :
    Apart (quote k.text) front rest := by
  intro i less begins
  apply apart_single absent rest i less
  exact (List.prefix_append ['"'] _).trans begins

theorem quoted_apart {k : Key} {text rest : Text} (plain : ∀ c ∈ text, isSpecial c = false)
    (other : text ≠ k.text) (ends : ∀ c ∈ rest.head?, c.isAlpha = false) :
    Apart (quote k.text) (quote text) rest := by
  apply Apart.cons
  · intro begins
    rw [quote, List.cons_prefix_cons] at begins
    obtain ⟨behind, same⟩ := begins.2
    simp only [List.append_assoc, List.singleton_append] at same
    exact other (split_unique (no_quote k.plain) (no_quote plain) same).1.symm
  · apply Apart.append (apart_of_no_quote k _ (no_quote plain))
    refine Apart.cons (fun begins => ?_) (.nil _ _)
    rw [quote, List.cons_prefix_cons] at begins
    obtain ⟨letter, more, spelt, alpha⟩ : ∃ letter more, k.text = letter :: more ∧
        letter.isAlpha = true := by
      cases k <;> exact ⟨_, _, rfl, by decide⟩
    rw [spelt, List.cons_append] at begins
    obtain ⟨behind, same⟩ := begins.2
    rw [List.nil_append] at same
    have first := ends letter (by simp [← same])
    rw [alpha] at first
    cases first

theorem Spells.key_apart {k : Key} {front back : List Token} {first second : Text}
    (spells : Spells front first) (behind : Spells back second) (absent : .key k ∉ front) :
    Apart (quote k.text) first second := by
  induction spells with
  | nil blank => exact apart_of_no_quote k second blank.no_quote
  | @cons gap text token front blank rest ih =>
      rw [List.mem_cons, not_or] at absent
      refine (apart_of_no_quote k _ blank.no_quote).append (Apart.append ?_ (ih absent.2))
      cases quoted : token.quoted with
      | none => exact apart_of_no_quote k _ (unquoted_text quoted).1
      | some inside =>
          obtain ⟨shown, plain⟩ := quoted_text quoted
          rw [shown]
          refine quoted_apart plain ?_ (rest.append behind).not_alpha
          intro same
          cases token with
          | key k' =>
              cases quoted
              exact absent.1 (by rw [Key.text_injective same])
          | name s =>
              cases quoted
              exact s.no_key k same
          | mark m => cases quoted
          | number n => cases quoted

theorem find_drop {needle : Text} (some_char : needle ≠ []) (json : Text) (pos : Nat) :
    find needle json pos = (Scanning.indexOf needle (json.drop pos)).map (pos + ·) := by
  unfold find
  split
  case isTrue => rfl
  case isFalse beyond =>
    rw [List.drop_eq_nil_of_le (by omega), Scanning.indexOf, if_neg some_char]
    rfl

theorem drop_behind {json first second : Text} {pos : Nat}
    (split : json.drop pos = first ++ second) : json.drop (pos + first.length) = second := by
  rw [← List.drop_drop, split, List.drop_left]

def Begins (token : Token) (tokens : List Token) (text : Text) : Prop :=
  ∃ rest, text = token.text ++ rest ∧ Spells tokens rest

theorem Begins.spells {token : Token} {tokens : List Token} {text : Text}
    (begins : Begins token tokens text) : Spells (token :: tokens) text := by
  obtain ⟨rest, rfl, spells⟩ := begins
  have before : Spells (token :: tokens) ([] ++ (token.text ++ rest)) := .cons .nil spells
  exact before

theorem Spells.at_token {token : Token} {front back : List Token} {text : Text}
    (spells : Spells (front ++ token :: back) text) :
    ∃ first rest, text = first ++ rest ∧ Spells front first ∧ Begins token back rest := by
  obtain ⟨first, second, rfl, spelt, behind⟩ := spells.split
  obtain ⟨gap, rest, rfl, blank, rest_spells⟩ := behind.head
  exact ⟨first ++ gap, token.text ++ rest, by simp, spelt.append_blank blank, rest, rfl,
    rest_spells⟩

theorem key_place {json : Text} {pos : Nat} {k : Key} {front back : List Token}
    (spells : Spells (front ++ .key k :: back) (json.drop pos)) (absent : .key k ∉ front) :
    ∃ first second, json.drop pos = first ++ second ∧ Spells front first ∧
      Begins (.key k) back second ∧ findKey json k.text pos = some (pos + first.length) := by
  obtain ⟨first, second, split, spelt, begins⟩ := spells.at_token
  refine ⟨first, second, split, spelt, begins, ?_⟩
  have apart := spelt.key_apart begins.spells absent
  obtain ⟨rest, rfl, -⟩ := begins
  have here : Scanning.indexOf (quote k.text) ((Token.key k).text ++ rest) = some 0 :=
    indexOf_start _ _
  rw [findKey, find_drop (by simp), split]
  change (Scanning.indexOf (quote k.text) _).map _ = _
  rw [indexOf_apart apart, here]
  rfl

theorem find_key {json : Text} {pos : Nat} {k : Key} {front back : List Token}
    (spells : Spells (front ++ .key k :: back) (json.drop pos)) (absent : .key k ∉ front) :
    ∃ n, findKey json k.text pos = some n ∧ Begins (.key k) back (json.drop n) := by
  obtain ⟨first, second, split, -, begins, found⟩ := key_place spells absent
  exact ⟨pos + first.length, found, by rwa [drop_behind split]⟩

theorem no_key {json : Text} {pos : Nat} {k : Key} {tokens : List Token}
    (spells : Spells tokens (json.drop pos)) (absent : .key k ∉ tokens) :
    findKey json k.text pos = none := by
  have nothing : Spells [] [] := .nil .nil
  have apart := spells.key_apart nothing absent
  rw [findKey, find_drop (by simp)]
  change (Scanning.indexOf (quote k.text) (json.drop pos)).map _ = _
  rw [Scanning.indexOf_none apart (by simp [quote])]
  rfl

theorem find_mark {json : Text} {pos : Nat} {m : Mark} {front back : List Token}
    (spells : Spells (front ++ .mark m :: back) (json.drop pos)) (absent : .mark m ∉ front)
    (other : m ≠ .comma) :
    ∃ n, find [m.char] json pos = some n ∧ pos ≤ n ∧ Begins (.mark m) back (json.drop n) := by
  obtain ⟨first, second, split, spelt, rest, rfl, rest_spells⟩ := spells.at_token
  refine ⟨pos + first.length, ?_, Nat.le_add_right _ _, rest, drop_behind split, rest_spells⟩
  exact find_single split ((spelt.char_mem other).not.mpr absent)

end RoomDataManager

end ZeldaServer
