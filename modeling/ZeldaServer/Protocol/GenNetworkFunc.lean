import Mathlib.Data.Char
import Mathlib.Data.List.DropRight
import Mathlib.Data.List.Lex
import Mathlib.Data.List.Sort
import ZeldaServer.Lib.Dict
import ZeldaServer.Lib.Lexemes
import ZeldaServer.Lib.Scanning

/-! `GenNetworkFunc.py`, which merges new packets into the handlers' headers and sources. A run
takes the new messages and their fields as it has read them from the `.proto` file. A text is what
`read_text` returns, a line end is a single character in it. -/

namespace ZeldaServer

namespace GenNetworkFunc

open Lexemes (Alphabet)
open Patterns (Text Pattern)
open Patterns.Pattern (literal plus)
open Scanning (segment)

/-- Where `splitlines` cuts. -/
def isLineBreak (c : Char) : Bool :=
  c.toNat ∈ [0x0a, 0x0b, 0x0c, 0x0d, 0x1c, 0x1d, 0x1e, 0x85, 0x2028, 0x2029]

/-- `\w`, `\s` and `\d`, and the value of a digit. -/
structure Unicode extends Alphabet where
  isDecimal : Char → Bool
  decimal : Char → Nat
  decimal_word : ∀ c, isDecimal c = true → isWord c = true
  break_space : ∀ c, isLineBreak c = true → isSpace c = true
  ascii_word : ∀ c, c.toNat < 128 → isWord c = (c.isAlphanum || c = '_')
  ascii_space : ∀ c, c.toNat < 128 →
    isSpace c = decide (c.toNat ∈ [9, 10, 11, 12, 13, 28, 29, 30, 31, 32])
  ascii_decimal : ∀ c, c.toNat < 128 → isDecimal c = c.isDigit
  ascii_value : ∀ c, c.isDigit = true → decimal c = c.toNat - '0'.toNat

structure Markers where
  begins : Text
  ends : Text
  deriving DecidableEq

def autoEnum : Markers :=
  ⟨"// [AUTO-GEN ENUM BEGIN]".toList, "// [AUTO-GEN ENUM END]".toList⟩

def autoDecl : Markers :=
  ⟨"// [AUTO-GEN DECLS BEGIN]".toList, "// [AUTO-GEN DECLS END]".toList⟩

def autoSwitch : Markers :=
  ⟨"// [AUTO-GEN SWITCH BEGIN]".toList, "// [AUTO-GEN SWITCH END]".toList⟩

def escape (marker : Text) : Text :=
  marker.flatMap fun c => if c = '[' ∨ c = ']' then ['\\', c] else [c]

structure RuntimeError where
  message : Text
  deriving DecidableEq

def markersNotFound (m : Markers) : RuntimeError :=
  ⟨"Markers not found or invalid: ".toList ++ escape m.begins ++ " ~ ".toList ++ escape m.ends⟩

section Expressions

variable (u : Unicode)

def isIdentStart (c : Char) : Bool := c.isAlpha || c = '_'

/-- `[A-Za-z_]\w*` -/
def ident : Pattern := .both (.one isIdentStart) (.many u.isWord)

def space : Pattern := .many u.isSpace

/-- `^\s*([A-Za-z_]\w*)\s*=\s*(\d+)\s*,?\s*$` -/
def enumEntryRe : Pattern :=
  .both .lineStart <| .both (space u) <| .both (.group (ident u)) <| .both (space u) <|
    .both (literal "=".toList) <| .both (space u) <| .both (.group (plus u.isDecimal)) <|
    .both (space u) <| .both (.optional (literal ",".toList)) <| .both (space u) .lineEnd

/-- `\bcase\s+([A-Za-z_]\w*)\s*:` -/
def caseRe : Pattern :=
  .both (.wordBoundary u.isWord) <| .both (literal "case".toList) <| .both (plus u.isSpace) <|
    .both (.group (ident u)) <| .both (space u) (literal ":".toList)

/-- `\b(?:static\s+)?(?:void|SendBufferRef)\s+(Handle_[A-Za-z_]\w*|Make_[A-Za-z_]\w*)\s*\(` -/
def declFnRe : Pattern :=
  .both (.wordBoundary u.isWord) <|
    .both (.both (.optional (.both (literal "static".toList) (plus u.isSpace)))
      (.either (literal "void".toList) (literal "SendBufferRef".toList))) <|
    .both (plus u.isSpace) <|
    .both (.group (.either (.both (literal "Handle_".toList) (ident u))
      (.both (literal "Make_".toList) (ident u)))) <|
    .both (space u) (literal "(".toList)

end Expressions

def newline : Text := ['\n']

/-- `sep.join(parts)` -/
def join (sep : Text) : List Text → Text
  | [] => []
  | [part] => part
  | part :: parts => part ++ (sep ++ join sep parts)

/-- `line` is the one that is under way. -/
def splitFrom (line : Text) : Text → List Text
  | [] => if line = [] then [] else [line]
  | '\r' :: '\n' :: text => line :: splitFrom [] text
  | c :: text => if isLineBreak c then line :: splitFrom [] text else splitFrom (line ++ [c]) text

def splitlines (text : Text) : List Text := splitFrom [] text

def startswith (text front : Text) : Bool := front.isPrefixOf text

def isBlank (c : Char) : Bool := c = ' ' || c = '\t'

/-- `text.rfind("\n", 0, pos) + 1` -/
def lineStart (text : Text) (pos : Nat) : Nat :=
  ((text.take pos).rdropWhile (· ≠ '\n')).length

def lineEnd (text : Text) (pos : Nat) : Nat := (Scanning.find newline text pos).getD text.length

def findBlockRange (m : Markers) (text : Text) : Except RuntimeError (Nat × Nat × Nat × Nat) :=
  match Scanning.indexOf m.begins text, Scanning.indexOf m.ends text with
  | some b, some e =>
      if e < b + m.begins.length then .error (markersNotFound m)
      else .ok (b, b + m.begins.length, e, e + m.ends.length)
  | _, _ => .error (markersNotFound m)

def getBlock (m : Markers) (text : Text) : Except RuntimeError Text := do
  let (_, bEnd, eStart, _) ← findBlockRange m text
  return segment text bEnd eStart

section Unicode

variable (u : Unicode)

def rstrip (text : Text) : Text := text.rdropWhile u.isSpace

/-- `text.strip() == ""` -/
def isEmpty (text : Text) : Bool := text.all u.isSpace

/-- The new block goes in front of what there was, and the end marker is indented like the begin
marker. -/
def replaceBlock (m : Markers) (text newBlock : Text) : Except RuntimeError Text := do
  let (bStart, bEnd, eStart, _) ← findBlockRange m text
  let beginIndent := (segment text (lineStart text bStart) bStart).takeWhile isBlank
  let endLineStart := lineStart text eStart
  let endLineEnd := lineEnd text eStart
  let endLine := segment text endLineStart endLineEnd
  let fixedEndLine := beginIndent ++ endLine.dropWhile isBlank
  return text.take bEnd ++ (newline ++ (rstrip u newBlock ++ (newline ++
    (segment text bEnd endLineStart ++ (fixedEndLine ++ text.drop endLineEnd)))))

def detectIndentFromBlock (block default : Text) : Text :=
  match (splitlines block).find? fun line => !isEmpty u line with
  | some line => line.takeWhile u.isSpace
  | none => default

/-- `int(digits)` -/
def intOf (digits : Text) : Nat := digits.foldl (fun n c => 10 * n + u.decimal c) 0

def enumEntries (text : Text) : List (Text × Nat) :=
  ((enumEntryRe u).finditer text).filterMap fun groups =>
    match groups with
    | [name, digits] => some (name, intOf u digits)
    | _ => none

def extractEnumIdsAnywhere (text : Text) : Dict Text Nat := Dict.empty.setAll (enumEntries u text)

end Unicode

def nextIdForPrefix (idMap : Dict Text Nat) (front : Text) (start : Nat) : Nat :=
  match ((idMap.items.filter fun item => startswith item.1 front).map Prod.snd).max? with
  | none => start
  | some greatest => max (greatest + 1) start

/-- `while nid in used: nid += 1`. One of the first `used.length + 1` ids is free. -/
def nextFree (used : List Nat) (nid : Nat) : Nat :=
  ((List.range' nid (used.length + 1)).find? (· ∉ used)).getD nid

structure Assigning where
  out : Dict Text Nat
  used : List Nat
  cNext : Nat
  sNext : Nat

def clientToServer : Text := "C_".toList

def serverToClient : Text := "S_".toList

def assignId (st : Assigning) (name : Text) : Assigning :=
  if name ∈ st.out.keys then st
  else if startswith name clientToServer then
    let nid := nextFree st.used st.cNext
    { st with out := st.out.set name nid, used := nid :: st.used, cNext := nid + 1 }
  else if startswith name serverToClient then
    let nid := nextFree st.used st.sNext
    { st with out := st.out.set name nid, used := nid :: st.used, sNext := nid + 1 }
  else st

def assignIdsForNewMessages (existingIds : Dict Text Nat) (newMsgs : List Text)
    (cStart sStart : Nat) : Dict Text Nat :=
  (newMsgs.foldl assignId
    { out := existingIds
      used := existingIds.items.map Prod.snd
      cNext := nextIdForPrefix existingIds clientToServer cStart
      sNext := nextIdForPrefix existingIds serverToClient sStart }).out

def SortsBefore (x y : Text) : Prop :=
  let key (name : Text) := if startswith name clientToServer then 0 else 1
  key x < key y ∨ key x = key y ∧ x ≤ y

instance : DecidableRel SortsBefore := fun _ _ => inferInstanceAs (Decidable (_ ∨ _ ∧ _))

def prefixOf (name : Text) : Text :=
  if startswith name clientToServer then clientToServer
  else if startswith name serverToClient then serverToClient
  else []

def enumLine (indent name : Text) (id : Nat) : Text :=
  indent ++ (name ++ (" = ".toList ++ (Nat.toDigits 10 id ++ " ,".toList)))

def enumLines (indent : Text) (ids : Text → Nat) (lastPrefix : Option Text) : List Text → List Text
  | [] => []
  | name :: ordered =>
      (if lastPrefix.any (· ≠ prefixOf name) then [[]] else []) ++
        enumLine indent name (ids name) :: enumLines indent ids (some (prefixOf name)) ordered

section Unicode

variable (u : Unicode)

def tab : Text := ['\t']

def mergeId (idMap blockIds : Dict Text Nat) (name : Text) : Dict Text Nat :=
  match idMap.get name with
  | some id => if name ∈ blockIds.keys then blockIds else blockIds.set name id
  | none => blockIds

/-- `block_ids` with the new messages that are not in the block yet. -/
def mergeIds (blockIds idMap : Dict Text Nat) (newMsgs : List Text) : Dict Text Nat :=
  newMsgs.foldl (mergeId idMap) blockIds

def mergeEnumBlock (existingBlock : Text) (idMap : Dict Text Nat) (newMsgs : List Text) : Text :=
  let blockIds := mergeIds (extractEnumIdsAnywhere u existingBlock) idMap newMsgs
  let ordered := blockIds.keys.insertionSort SortsBefore
  let indent := detectIndentFromBlock u existingBlock tab
  rstrip u (join newline (enumLines indent (fun name => (blockIds.get name).getD 0) none ordered))

end Unicode

def isIdent (u : Unicode) : Text → Bool
  | [] => false
  | c :: text => isIdentStart c && text.all u.isWord

/-- A field of a message, as `FIELD_LINE_RE` has matched it. -/
structure Field (u : Unicode) where
  isRepeated : Bool
  protoType : Text
  name : Text
  protoType_ident : isIdent u protoType = true
  name_ident : isIdent u name = true

def protoScalars : List (Text × Text) :=
  [("double", "double"), ("float", "float"), ("int32", "int32"), ("int64", "int64"),
    ("uint32", "uint32"), ("uint64", "uint64"), ("sint32", "int32"), ("sint64", "int64"),
    ("fixed32", "uint32"), ("fixed64", "uint64"), ("sfixed32", "int32"), ("sfixed64", "int64"),
    ("bool", "bool"), ("string", "string"), ("bytes", "string")].map
      fun (proto, cpp) => (proto.toList, cpp.toList)

def cppTypeForProto (protoType : Text) : Text :=
  (protoScalars.lookup protoType).getD ("Protocol::".toList ++ protoType)

section Declarations

variable {u : Unicode}

def isString (protoType : Text) : Bool :=
  protoType = "string".toList || protoType = "bytes".toList

def cppParamForField (field : Field u) : Text :=
  let baseCpp :=
    if isString field.protoType then "string".toList else cppTypeForProto field.protoType
  if field.isRepeated then
    "const vector<".toList ++ (baseCpp ++ (">& ".toList ++ field.name))
  else if (protoScalars.lookup field.protoType).isSome ∧ ¬ isString field.protoType then
    baseCpp ++ (" ".toList ++ field.name)
  else "const ".toList ++ (baseCpp ++ ("& ".toList ++ field.name))

def makeParamList (fields : List (Field u)) : Text :=
  join " , ".toList (fields.map cppParamForField)

def declaredFunctions (u : Unicode) (headerText : Text) : List Text :=
  ((declFnRe u).finditer headerText).flatten

def handleFn (msg : Text) : Text := "Handle_".toList ++ msg

def makeFn (msg : Text) : Text := "Make_".toList ++ msg

def handleDecl (session msg : Text) : Text :=
  "\tstatic void ".toList ++ (handleFn msg ++ (" ( ".toList ++ (session ++
    " session , BYTE* buffer , int32 len );".toList)))

def genClientHandleDecl (msg : Text) : Text := handleDecl "ServerSessionRef".toList msg

def genServerHandleDecl (msg : Text) : Text := handleDecl "GameSessionRef".toList msg

def makeDecl (msg : Text) (fields : List (Field u)) : Text :=
  let params := makeParamList fields
  "\tstatic SendBufferRef ".toList ++ (makeFn msg ++
    (if params = [] then " ( );".toList else " ( ".toList ++ (params ++ " );".toList)))

def genClientMakeDeclFieldBased (msg : Text) (fields : List (Field u)) : Text := makeDecl msg fields

def genServerMakeDeclFieldBased (msg : Text) (fields : List (Field u)) : Text := makeDecl msg fields

/-- The declarations of the functions that are not declared yet, and all that are then. -/
def addDecls (fn decl : Text → Text) (already : List Text) : List Text → List Text × List Text
  | [] => ([], already)
  | msg :: msgs =>
      if fn msg ∈ already then addDecls fn decl already msgs
      else
        let (toAdd, known) := addDecls fn decl (fn msg :: already) msgs
        (decl msg :: toAdd, known)

inductive Side where
  | client
  | server
  deriving DecidableEq

def Side.handles : Side → Text
  | client => serverToClient
  | server => clientToServer

def Side.makes : Side → Text
  | client => clientToServer
  | server => serverToClient

def withPrefix (front : Text) (msgs : List Text) : List Text := msgs.filter (startswith · front)

def declsToAdd (already newMsgs : List Text) (fieldsMap : Text → List (Field u)) (side : Side) :
    List Text :=
  let handleOf := match side with
    | .client => genClientHandleDecl
    | .server => genServerHandleDecl
  let makeOf := fun msg => match side with
    | .client => genClientMakeDeclFieldBased msg (fieldsMap msg)
    | .server => genServerMakeDeclFieldBased msg (fieldsMap msg)
  let (handled, known) := addDecls handleFn handleOf already (withPrefix side.handles newMsgs)
  handled ++ (addDecls makeFn makeOf known (withPrefix side.makes newMsgs)).1

def mergeDeclsBlock (existingBlock fullHeaderText : Text) (newMsgs : List Text)
    (fieldsMap : Text → List (Field u)) (side : Side) : Text :=
  let toAdd := declsToAdd (declaredFunctions u fullHeaderText) newMsgs fieldsMap side
  if toAdd = [] then rstrip u existingBlock
  else
    let lines := splitlines (existingBlock.rdropWhile (· = '\n'))
    let lines := if isEmpty u existingBlock then lines else lines ++ [[]]
    rstrip u (join newline (lines ++ toAdd))

end Declarations

section Switch

variable (u : Unicode)

def extractCases (block : Text) : List Text := ((caseRe u).finditer block).flatten

def genCaseLines (msg indentCase : Text) : List Text :=
  let indentInner := indentCase ++ tab
  [indentCase ++ ("case ".toList ++ (msg ++ ":".toList)),
    indentInner ++ (handleFn msg ++ " ( session , buffer , len );".toList),
    indentInner ++ "break;".toList]

/-- The lines of the cases that are not there, an empty one between two of them. -/
def caseLines (indent : Text) (existingCases : List Text) (lines : List Text) :
    List Text → List Text
  | [] => lines
  | msg :: targets =>
      if msg ∈ existingCases then caseLines indent existingCases lines targets
      else
        caseLines indent existingCases
          (lines ++ ((if lines = [] then [] else [[]]) ++ genCaseLines msg indent)) targets

def mergeSwitchBlock (existingBlock : Text) (newMsgs : List Text) (side : Side) : Text :=
  let existingCases := extractCases u existingBlock
  let indent := detectIndentFromBlock u existingBlock tab
  let addLines := caseLines indent existingCases [] (withPrefix side.handles newMsgs)
  if addLines = [] then rstrip u existingBlock
  else
    let out := existingBlock.rdropWhile (· = '\n')
    let out := if isEmpty u out then out else out ++ newline
    rstrip u (out ++ rstrip u (join newline addLines))

end Switch

structure Project where
  clientH : Text
  clientCpp : Text
  serverH : Text
  serverCpp : Text
  deriving DecidableEq

/-- What a run reads from `Protocol.proto`. -/
structure Run (u : Unicode) where
  newMsgs : List Text
  fieldsMap : Text → List (Field u)
  messages : ∀ msg ∈ newMsgs, isIdent u msg = true ∧
    (startswith msg clientToServer = true ∨ startswith msg serverToClient = true)

section Main

variable {u : Unicode}

def mergeHeader (run : Run u) (idMap : Dict Text Nat) (side : Side) (header : Text) :
    Except RuntimeError Text := do
  let oldEnumBlock ← getBlock autoEnum header
  let newEnumBlock := mergeEnumBlock u oldEnumBlock idMap run.newMsgs
  let header ← replaceBlock u autoEnum header newEnumBlock
  let oldDeclBlock ← getBlock autoDecl header
  let newDeclBlock := mergeDeclsBlock oldDeclBlock header run.newMsgs run.fieldsMap side
  replaceBlock u autoDecl header newDeclBlock

def mergeSource (run : Run u) (side : Side) (source : Text) : Except RuntimeError Text := do
  let oldSwitchBlock ← getBlock autoSwitch source
  let newSwitchBlock := mergeSwitchBlock u oldSwitchBlock run.newMsgs side
  replaceBlock u autoSwitch source newSwitchBlock

def main (run : Run u) : ExceptT RuntimeError (StateM Project) Unit := do
  if run.newMsgs = [] then return
  let files ← get
  let existingIds :=
    (extractEnumIdsAnywhere u files.clientH).update (extractEnumIdsAnywhere u files.serverH)
  let idMap := assignIdsForNewMessages existingIds run.newMsgs 101 201
  let clientH ← mergeHeader run idMap .client files.clientH
  modify ({ · with clientH })
  let clientCpp ← mergeSource run .client files.clientCpp
  modify ({ · with clientCpp })
  let serverH ← mergeHeader run idMap .server files.serverH
  modify ({ · with serverH })
  let serverCpp ← mergeSource run .server files.serverCpp
  modify ({ · with serverCpp })

end Main

end GenNetworkFunc

end ZeldaServer
