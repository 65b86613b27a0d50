import ZeldaServer.Client.MyPlayer
import ZeldaServer.Game.Inventory

/-! The keyboard, the mouse and the panels of the client, with what they ask the server for.
Panels and buttons stand at whole pixels. What the system has to say comes with the frame. -/

namespace ZeldaServer

/-- What the client sends: a packet the game server acts on, or `C_GetRanking`. -/
inductive ClientMessage where
  | game (pkt : ClientPacket)
  | getRanking
  deriving DecidableEq

inductive KeyState where
  | none
  | press
  | down
  | up
  deriving DecidableEq

/-- A virtual-key code, below `KEY_TYPE_COUNT`. -/
abbrev KeyCode := Nat

namespace KeyCode

def leftMouse : KeyCode := 1
def rightMouse : KeyCode := 2
def back : KeyCode := 8
def enter : KeyCode := 13
def escape : KeyCode := 27

def ofChar (c : Char) : KeyCode := c.toNat

/-- The keys that `MyPlayer` looks at. -/
def ofKeyType : KeyType → KeyCode
  | .w => ofChar 'W'
  | .a => ofChar 'A'
  | .s => ofChar 'S'
  | .d => ofChar 'D'
  | .key1 => ofChar '1'
  | .key2 => ofChar '2'
  | .key3 => ofChar '3'
  | .spaceBar => 32

end KeyCode

/-- What `GetKeyboardState` and `GetCursorPos` give. -/
structure Device where
  held : KeyCode → Bool
  mouse : Vec2Int

structure InputManager where
  states : KeyCode → KeyState
  mousePos : Vec2Int
  inputLocked : Bool

namespace InputManager

def init : InputManager := ⟨fun _ => .none, ⟨0, 0⟩, false⟩

/-- One key in `InputManager::Update` -/
def nextState (held : Bool) : KeyState → KeyState
  | .press | .down => if held then .press else .up
  | .none | .up => if held then .down else .none

/-- `InputManager::Update`; `GetKeyboardState` may fail. -/
def update (device : Option Device) (input : InputManager) : InputManager :=
  match device with
  | none => input
  | some device =>
      { input with
        states := fun key => nextState (device.held key) (input.states key)
        mousePos := device.mouse }

def getButton (input : InputManager) (key : KeyCode) : Bool := input.states key = .press

def getButtonDown (input : InputManager) (key : KeyCode) : Bool := input.states key = .down

def setInputLocked (locked : Bool) (input : InputManager) : InputManager :=
  { input with inputLocked := locked }

end InputManager

structure Rect where
  left : Int
  top : Int
  right : Int
  bottom : Int

/-- `PtInRect` -/
def Rect.contains (rect : Rect) (point : Vec2Int) : Bool :=
  rect.left ≤ point.x && point.x < rect.right && rect.top ≤ point.y && point.y < rect.bottom

/-- `UI::GetRect`, of a position and a size. -/
def Rect.around (pos size : Vec2Int) : Rect :=
  ⟨pos.x - size.x.tdiv 2, pos.y - size.y.tdiv 2, pos.x + size.x.tdiv 2, pos.y + size.y.tdiv 2⟩

inductive ButtonState where
  | default
  | pressed
  | clicked
  deriving DecidableEq

/-- `Button::Tick`, with whether it was clicked. `faded` is `_sumTime > 0.2f`. -/
def Button.tick (rect : Rect) (faded : Bool) (input : InputManager) (state : ButtonState) :
    ButtonState × Bool :=
  let state := if state = .clicked ∧ faded then .default else state
  if rect.contains input.mousePos then
    if input.getButton KeyCode.leftMouse then (.pressed, false)
    else if state = .pressed then (.clicked, true)
    else (state, false)
  else (.default, false)

structure Panel where
  pos : Vec2Int
  size : Vec2Int
  visible : Bool
  dragging : Bool
  dragOffset : Vec2Int

namespace Panel

def rect (panel : Panel) : Rect := .around panel.pos panel.size

/-- `Panel::Tick` of a panel that can be dragged by its upper edge. -/
def tick (dragHandleHeight : Int) (input : InputManager) (panel : Panel) : Panel :=
  let rect := panel.rect
  let mouse := input.mousePos
  if panel.dragging then
    if input.getButton KeyCode.leftMouse || input.getButtonDown KeyCode.leftMouse then
      { panel with
        pos :=
          ⟨mouse.x - panel.dragOffset.x + (rect.right - rect.left).tdiv 2,
            mouse.y - panel.dragOffset.y + (rect.bottom - rect.top).tdiv 2⟩ }
    else { panel with dragging := false }
  else if input.getButtonDown KeyCode.leftMouse then
    if { rect with bottom := min rect.bottom (rect.top + dragHandleHeight) : Rect }.contains mouse then
      { panel with dragging := true, dragOffset := ⟨mouse.x - rect.left, mouse.y - rect.top⟩ }
    else panel
  else panel

end Panel

namespace InventoryPanel

/-- `InventoryPanel::InventoryPanel`, where `UI` puts it. -/
def init : Panel := ⟨⟨400, 300⟩, ⟨150, 150⟩, false, false, ⟨0, 0⟩⟩

def square (x y : Int) (point : Vec2Int) : Bool :=
  x ≤ point.x && point.x < x + 32 && y ≤ point.y && point.y < y + 32

def slotSquare (i : Fin 27) (point : Vec2Int) : Bool :=
  square (16 + (i % 9 : Nat) * 36) (168 + (i / 9 : Nat) * 36) point

/-- `HandleInventoryClick`, from where the mouse is known to be over the panel. -/
def clickAt (items : MyPlayer) (point : Vec2Int) : List ClientPacket :=
  if square 98 38 point then
    if 0 < items.equipWeapon.itemId then [.unequipItem Player.EquipSlot.weapon.equipType] else []
  else if square 98 80 point then
    if 0 < items.equipArmor.itemId then [.unequipItem Player.EquipSlot.armor.equipType] else []
  else if square 290 68 point then
    if 0 < items.equipPotion.itemId then [.useItem (-1)] else []
  else
    match (List.finRange 27).find? (slotSquare · point) with
    | some i => if 0 < (items.storage i).itemId then [.equipItem (i : Nat)] else []
    | none => []

/-- `InventoryPanel::HandleInventoryClick` -/
def handleInventoryClick (input : InputManager) (items : Option MyPlayer) (panel : Panel) :
    List ClientPacket :=
  match items with
  | none => []
  | some items =>
      let rect := panel.rect
      let point : Vec2Int := ⟨input.mousePos.x - rect.left, input.mousePos.y - rect.top⟩
      if !input.getButtonDown KeyCode.rightMouse then []
      else if point.x < 0 ∨ point.y < 0 ∨ rect.right - rect.left ≤ point.x ∨
          rect.bottom - rect.top ≤ point.y then []
      else clickAt items point

/-- `InventoryPanel::Tick`; `sprite` is the size of the panel's picture. -/
def tick (sprite : Option Vec2Int) (input : InputManager) (items : Option MyPlayer) (panel : Panel) :
    Panel × List ClientPacket :=
  if !panel.visible then (panel, [])
  else
    match sprite with
    | none => (panel, [])
    | some size =>
        let panel := { panel with size }.tick 30 input
        (panel, handleInventoryClick input items panel)

end InventoryPanel

/-- A `wstring`, as its UTF-16 units. -/
abbrev WString := List UInt16

def utf8 (code : Nat) : Bytes :=
  if code < 0x80 then [.ofNat code]
  else if code < 0x800 then [.ofNat (0xC0 + code / 64), .ofNat (0x80 + code % 64)]
  else if code < 0x10000 then
    [.ofNat (0xE0 + code / 4096), .ofNat (0x80 + code / 64 % 64), .ofNat (0x80 + code % 64)]
  else
    [.ofNat (0xF0 + code / 262144), .ofNat (0x80 + code / 4096 % 64),
      .ofNat (0x80 + code / 64 % 64), .ofNat (0x80 + code % 64)]

/-- A unit that is no half of a surrogate pair; such a half becomes U+FFFD. -/
def loneUnit (unit : UInt16) : Bytes :=
  utf8 (if 0xD800 ≤ unit ∧ unit < 0xE000 then 0xFFFD else unit.toNat)

/-- `WideCharToMultiByte` to `CP_UTF8` -/
def wideCharToMultiByte : WString → Bytes
  | high :: low :: rest =>
      if 0xD800 ≤ high ∧ high < 0xDC00 ∧ 0xDC00 ≤ low ∧ low < 0xE000 then
        utf8 (0x10000 + (high.toNat - 0xD800) * 0x400 + (low.toNat - 0xDC00)) ++
          wideCharToMultiByte rest
      else loneUnit high ++ wideCharToMultiByte (low :: rest)
  | [unit] => loneUnit unit
  | [] => []

structure ChatPanel where
  visible : Bool
  justOpened : Bool

namespace ChatPanel

def setVisible (visible : Bool) (panel : ChatPanel) : ChatPanel :=
  { visible, justOpened := panel.justOpened || visible }

/-- `GetWindowText` into a buffer of 256, up to the first NUL. -/
def getWindowText (edit : WString) : WString := (edit.take 255).takeWhile (· ≠ 0)

/-- The packet of `ChatPanel::SendChat`, of the text in UTF-8. -/
def chatOf (msg : Bytes) : Option CChat :=
  if 3 < msg.length ∧ msg.take 3 = "/p ".toUTF8.toList then
    some ⟨ChatType.party, msg.drop 3, []⟩
  else if 3 < msg.length ∧ msg.take 3 = "/w ".toUTF8.toList then
    let words := msg.drop 3
    if 32 ∈ words then
      some ⟨ChatType.whisper, (words.dropWhile (· ≠ 32)).drop 1, words.takeWhile (· ≠ 32)⟩
    else none
  else some ⟨ChatType.global, msg, []⟩

/-- `ChatPanel::SendChat` -/
def sendChat (edit : WString) : List ClientPacket :=
  let text := getWindowText edit
  if text = [] then [] else (chatOf (wideCharToMultiByte text)).toList.map .chat

/-- `ChatPanel::Tick`; `focused` is `GetFocus() == _hEdit`. -/
def tick (input : InputManager) (focused : Bool) (edit : WString) (panel : ChatPanel) :
    ChatPanel × List ClientPacket :=
  if !panel.visible then (panel, [])
  else if panel.justOpened then ({ panel with justOpened := false }, [])
  else if input.getButtonDown KeyCode.enter && focused then (panel, sendChat edit)
  else (panel, [])

end ChatPanel

end ZeldaServer
