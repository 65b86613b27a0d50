import ZeldaServer.Client.Panels

/-! The client as a whole: its login screen, its player, its panels, frame by frame, and what the
packets of the server make of it. -/

namespace ZeldaServer

/-- What the panels use of `SceneManager::_myPlayer`. -/
structure OwnPlayer where
  objectId : ObjectId
  /-- 0 where nobody has invited. -/
  pendingInviteFrom : ObjectId
  partyMembers : List ObjectId
  items : MyPlayer

/-- `SpawnObject<MyPlayer>`, and `myPlayer->info = info`. -/
def OwnPlayer.spawn (info : ObjectInfo) : OwnPlayer where
  objectId := info.objectId
  pendingInviteFrom := 0
  partyMembers := []
  items :=
    { hp := info.hp
      attack := info.attack
      defence := info.defence
      storage := fun _ => .empty
      equipWeapon := .empty
      equipArmor := .empty
      equipPotion := .empty }

/-- What the handlers of `ClientPacketHandler` set of `_myPlayer`. -/
def OwnPlayer.hear (me : OwnPlayer) : ServerPacket → OwnPlayer
  | .partyInvite inviterId _ => { me with pendingInviteFrom := inviterId }
  | .partyUpdate members => { me with partyMembers := members.map (·.playerId) }
  | .partyLeave => { me with partyMembers := [], pendingInviteFrom := 0 }
  | pkt => { me with items := me.items.receive pkt }

/-- What a `MyPlayer` reads off the clock and the screen. -/
structure Senses where
  /-- `(_destPos - _pos).Length() <= 0.5f` -/
  arrived : Bool
  animationEnded : Bool
  coolingDown : Bool
  turnGrace : Bool
  attackTimedOut : Bool

/-- What the system tells a frame. Actors are named by their places in the layer. -/
structure SystemInput where
  device : Option Device
  /-- What is typed into the edit control, and `GetFocus() == _hEdit`. -/
  edit : WString
  editFocused : Bool
  /-- Which map buttons have `_sumTime > 0.2f`. -/
  faded : Nat → Bool
  inventorySprite : Option Vec2Int
  senses : Nat → Senses
  /-- Whether the mouse is within 50 pixels. -/
  near : Nat → Bool
  /-- How `Render` sorts the layer. -/
  order : List Nat

structure UIManager where
  inventoryPanel : Panel
  chatPanel : ChatPanel
  rankingVisible : Bool
  mapButtons : List ButtonState
  inputConsumed : Bool

structure UIState where
  input : InputManager
  ui : UIManager
  myPlayer : Option OwnPlayer

namespace UIManager

def init : UIManager where
  inventoryPanel := InventoryPanel.init
  chatPanel := ⟨false, false⟩
  rankingVisible := false
  mapButtons := [.default, .default, .default]
  inputConsumed := false

/-- `CreateMapButtons`: the rectangles, from the left. -/
def mapButtonRect (i : Nat) : Rect :=
  .around ⟨800 - 10 - (64 * 3 + 7 * 2) + (64 + 7) * i + 32, 10 + 20⟩ ⟨64, 40⟩

/-- `OnClickTown1`, `OnClickTown2` and `OnClickDungeon` -/
def onClick (i : Nat) : CChangeMap :=
  if i = 0 then ⟨MapId.town, 1⟩ else if i = 1 then ⟨MapId.town, 2⟩ else ⟨MapId.dungeon, 0⟩

/-- The first loop of `TickPanels` -/
def tickButtons (faded : Nat → Bool) (input : InputManager) :
    Nat → List ButtonState → List ButtonState × List ClientPacket
  | _, [] => ([], [])
  | i, state :: rest =>
      let ticked := Button.tick (mapButtonRect i) (faded i) input state
      let later := tickButtons faded input (i + 1) rest
      (ticked.1 :: later.1, (if ticked.2 then [.changeMap (onClick i)] else []) ++ later.2)

/-- `UIManager::TickPanels` -/
def tickPanels (sys : SystemInput) (state : UIState) : UIState × List ClientPacket :=
  let buttons := tickButtons sys.faded state.input 0 state.ui.mapButtons
  let inventory :=
    InventoryPanel.tick sys.inventorySprite state.input (state.myPlayer.map (·.items))
      state.ui.inventoryPanel
  let chat := state.ui.chatPanel.tick state.input sys.editFocused sys.edit
  ({ state with
      ui :=
        { state.ui with
          mapButtons := buttons.1
          inventoryPanel := inventory.1
          chatPanel := chat.1 } },
    buttons.2 ++ inventory.2 ++ chat.2)

/-- The keys I and R of `TickUIInput` -/
def tickToggles (state : UIState) : UIState × List ClientMessage :=
  let ui := state.ui
  let ui :=
    if state.input.getButtonDown (KeyCode.ofChar 'I') then
      { ui with inventoryPanel := { ui.inventoryPanel with visible := !ui.inventoryPanel.visible } }
    else ui
  if state.input.getButtonDown (KeyCode.ofChar 'R') then
    ({ state with ui := { ui with rankingVisible := !ui.rankingVisible } },
      if ui.rankingVisible then [] else [.getRanking])
  else ({ state with ui }, [])

/-- The key Enter of `TickUIInput` -/
def tickEnter (state : UIState) : UIState :=
  if state.input.getButtonDown KeyCode.enter && !state.ui.chatPanel.visible then
    { state with
      input := state.input.setInputLocked true
      ui := { state.ui with chatPanel := state.ui.chatPanel.setVisible true } }
  else state

/-- The keys Y, N and P of `TickUIInput` -/
def tickParty (state : UIState) : UIState × List ClientPacket :=
  let answer (me : OwnPlayer) (accept : Bool) : UIState × List ClientPacket :=
    ({ state with
        ui := { state.ui with inputConsumed := true }
        myPlayer := some { me with pendingInviteFrom := 0 } },
      [.partyAnswer me.pendingInviteFrom accept])
  match state.myPlayer with
  | none => (state, [])
  | some me =>
      if me.pendingInviteFrom ≠ 0 ∧ state.input.getButtonDown (KeyCode.ofChar 'Y') then answer me true
      else if me.pendingInviteFrom ≠ 0 ∧ state.input.getButtonDown (KeyCode.ofChar 'N') then
        answer me false
      else if state.input.getButtonDown (KeyCode.ofChar 'P') ∧ me.partyMembers ≠ [] then
        (state, [.partyLeave])
      else (state, [])

/-- `UIManager::TickUIInput` -/
def tickUIInput (state : UIState) : UIState × List ClientMessage :=
  let toggled := tickToggles state
  let answered := tickParty (tickEnter toggled.1)
  (answered.1, toggled.2 ++ answered.2.map .game)

/-- `UIManager::Tick` while the chat panel is open. -/
def tickChat (sys : SystemInput) (state : UIState) : UIState × List ClientPacket :=
  let chat := state.ui.chatPanel.tick state.input sys.editFocused sys.edit
  let ui := { state.ui with inputConsumed := true }
  if state.input.getButtonDown KeyCode.escape then
    ({ state with
        input := state.input.setInputLocked false
        ui := { ui with chatPanel := chat.1.setVisible false } },
      chat.2)
  else ({ state with ui := { ui with chatPanel := chat.1 } }, chat.2)

/-- `UIManager::Tick` -/
def tick (sys : SystemInput) (state : UIState) : UIState × List ClientMessage :=
  let state := { state with ui := { state.ui with inputConsumed := false } }
  if state.ui.chatPanel.visible then
    let chatted := tickChat sys state
    (chatted.1, chatted.2.map .game)
  else
    let keyed := tickUIInput state
    let ticked := tickPanels sys keyed.1
    (ticked.1, keyed.2 ++ ticked.2.map .game)

end UIManager

/-- An actor of `LAYER_OBJECT`. -/
structure SceneActor where
  objectId : ObjectId
  objectType : ObjectType
  /-- What only a `MyPlayer` has. -/
  walk : Option MyPlayerWalk
  /-- `SceneManager::_myPlayer` points to it. -/
  own : Bool

structure GameClient where
  input : InputManager
  ui : UIManager
  loggedIn : Bool
  loginText : Bytes
  /-- `_currentMapId`, as far as it is the town. -/
  inTown : Bool
  /-- `SceneManager::_myPlayer`; its actor may be out of the scene. -/
  myPlayer : Option OwnPlayer
  actors : List SceneActor

namespace GameClient

def start : GameClient where
  input := .init
  ui := .init
  loggedIn := false
  loginText := []
  inTown := true
  myPlayer := none
  actors := []

def maxUsernameLen : Nat := 12

/-- The characters A to Z, then 0 to 9, with the character they type. -/
def loginKeys : List (KeyCode × UInt8) :=
  (List.range 26).map (fun i => (65 + i, .ofNat (97 + i))) ++
    (List.range 10).map fun i => (48 + i, .ofNat (48 + i))

/-- The text of `UpdateLogin`, before Enter is looked at. -/
def typed (input : InputManager) (text : Bytes) : Bytes :=
  let text :=
    loginKeys.foldl
      (fun text key =>
        if input.getButtonDown key.1 ∧ text.length < maxUsernameLen then text ++ [key.2] else text)
      text
  if input.getButtonDown KeyCode.back then text.dropLast else text

/-- `DevScene::UpdateLogin` -/
def updateLogin (client : GameClient) : GameClient × List ClientMessage :=
  let text := typed client.input client.loginText
  ({ client with loginText := text },
    if client.input.getButtonDown KeyCode.enter ∧ text ≠ [] then [.game (.login text)] else [])

/-- What `MyPlayer::Tick` finds outside of it. -/
def frame (senses : Senses) (client : GameClient) : Frame where
  arrived := senses.arrived
  animationEnded := senses.animationEnded
  inputLocked := client.input.inputLocked
  getButton := fun key => client.input.getButton (KeyCode.ofKeyType key)
  getButtonDown := fun key => client.input.getButtonDown (KeyCode.ofKeyType key)
  coolingDown := senses.coolingDown
  fightingGround := !client.inTown
  turnGrace := senses.turnGrace
  attackTimedOut := senses.attackTimedOut

/-- `Make_C_Turn`, `Make_C_Move` and `Make_C_Attack` -/
def packetOf : Request → ClientPacket
  | .turn dir => .turn ⟨dir⟩
  | .move dir => .move ⟨dir⟩
  | .attack dir weaponType => .attack ⟨dir, weaponType⟩

/-- `Scene::Update`: each `MyPlayer` asks for something, the other actors ask for nothing. -/
def tickActors (frame : Nat → Frame) : Nat → List SceneActor → List SceneActor × List ClientPacket
  | _, [] => ([], [])
  | i, actor :: rest =>
      let ticked := actor.walk.map fun me => me.tick (frame i)
      let later := tickActors frame (i + 1) rest
      ({ actor with walk := ticked.map (·.1) } :: later.1,
        (ticked.toList.flatMap (·.2)).map packetOf ++ later.2)

/-- `GetMyPlayerId` -/
def myPlayerId (client : GameClient) : ObjectId :=
  match client.myPlayer with
  | none => 0
  | some me => me.objectId

/-- `DevScene::HandlePartyInviteClick` -/
def handlePartyInviteClick (sys : SystemInput) (client : GameClient) : List ClientPacket :=
  if client.input.getButtonDown KeyCode.leftMouse then
    let clicked := client.actors.zipIdx.find? fun entry =>
      entry.1.objectId ≠ client.myPlayerId && entry.1.objectType = .player && sys.near entry.2
    clicked.toList.map fun entry => .partyInvite entry.1.objectId
  else []

/-- `DevScene::Update` -/
def updateScene (sys : SystemInput) (client : GameClient) : GameClient × List ClientMessage :=
  if !client.loggedIn then client.updateLogin
  else
    let acted := tickActors (fun i => client.frame (sys.senses i)) 0 client.actors
    let ticked := UIManager.tick sys ⟨client.input, client.ui, client.myPlayer⟩
    let client :=
      { client with
        input := ticked.1.input
        ui := ticked.1.ui
        myPlayer := ticked.1.myPlayer
        actors := acted.1 }
    (client,
      acted.2.map .game ++ ticked.2 ++
        (if client.ui.inputConsumed then [] else client.handlePartyInviteClick sys).map .game)

/-- `Scene::Render` sorts the layer. -/
def sortActors (order : List Nat) (actors : List SceneActor) : List SceneActor :=
  if order.isPerm (List.range actors.length) then order.filterMap (actors[·]?) else actors

/-- `Game::Update` and `Game::Render`, the packets of the server apart. -/
def update (sys : SystemInput) (client : GameClient) : GameClient × List ClientMessage :=
  let updated := updateScene sys { client with input := client.input.update sys.device }
  ({ updated.1 with actors := sortActors sys.order updated.1.actors }, updated.2)

/-- `Handle_S_Chat`: the chat panel opens. -/
def hearChat (client : GameClient) : GameClient :=
  { client with ui := { client.ui with chatPanel := client.ui.chatPanel.setVisible true } }

/-- `DevScene::GetObject`, and a setter where there is an object. -/
def changeActor (id : ObjectId) (f : SceneActor → SceneActor) : List SceneActor → List SceneActor
  | [] => []
  | actor :: rest => if actor.objectId = id then f actor :: rest else actor :: changeActor id f rest

/-- `DevScene::Handle_S_AddObject` -/
def addActors (own : ObjectId) (objects : List ObjectInfo) : List SceneActor :=
  (objects.filter fun info => info.objectId ≠ own && info.objectType ≠ .none).map fun info =>
    { objectId := info.objectId, objectType := info.objectType, walk := none, own := false }

/-- `DevScene::Handle_S_RemoveObject`; an id is an `int32`. -/
def removeActors (ids : List ObjectId) (actors : List SceneActor) : List SceneActor :=
  ids.foldl (fun actors id => actors.eraseP fun actor => Screen.narrow id = actor.objectId) actors

/-- What the handlers of `ClientPacketHandler` do to the actors of the scene. -/
def hearActors (own : ObjectId) (actors : List SceneActor) : ServerPacket → List SceneActor
  | .myPlayer info =>
      actors.map (fun actor => { actor with own := false }) ++
        [{ objectId := info.objectId
           objectType := info.objectType
           walk := some (.spawn info)
           own := true }]
  | .addObject pkt => actors ++ addActors own pkt.objects
  | .removeObject ids => removeActors ids actors
  | .move info =>
      changeActor info.objectId
        (fun actor =>
          { actor with
            walk := actor.walk.map fun me =>
              let me := if info.objectId = own then me.onServerMoveResult info else me
              { me with footing := info.footing } })
        actors
  | .turn info =>
      changeActor info.objectId
        (fun actor =>
          { actor with
            walk := actor.walk.map fun me =>
              { me with
                movePending := me.movePending && info.objectId ≠ own
                footing := { me.footing with dir := info.dir, state := info.state } } })
        actors
  | .attack attackerId dir weaponType =>
      let struck :=
        changeActor attackerId
          (fun actor =>
            { actor with
              walk := actor.walk.map fun me =>
                { me with
                  footing := { me.footing with dir }
                  weaponType := MyPlayerWalk.protoWeapon weaponType } })
          actors
      struck.map fun actor =>
        { actor with
          walk := actor.walk.map fun me =>
            { me with attackPending := me.attackPending && !(actor.own && attackerId = own) } }
  | _ => actors

/-- `ClientPacketHandler::HandlePacket` -/
def hear (client : GameClient) : ServerPacket → GameClient
  | .enterGame success _ => if success then { client with loggedIn := true } else client
  | .changeMap success mapId _ _ =>
      if success then { client with inTown := mapId = MapId.town, myPlayer := none, actors := [] }
      else client
  | .myPlayer info =>
      { client with
        myPlayer := some (.spawn info)
        actors := hearActors client.myPlayerId client.actors (.myPlayer info) }
  | pkt =>
      { client with
        myPlayer := client.myPlayer.map (·.hear pkt)
        actors := hearActors client.myPlayerId client.actors pkt }

end GameClient

end ZeldaServer
