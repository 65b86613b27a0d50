import ZeldaServer.World.GameRoom

/-! `ServerPacketHandler` and `GameSession`: what a packet and a disconnect do at once, and
the jobs they leave in the queue of a room. -/

namespace ZeldaServer

variable (data : GameData)

/-- `c_str()`: the text up to its first NUL. -/
def cString (text : Bytes) : Bytes := text.takeWhile (· ≠ 0)

namespace Store

/-- `DBManager::FindOrCreateAccount` -/
def findOrCreateAccount (store : Store) (username : Bytes) : AccountId × Store :=
  match store.accounts.find? (·.1 = cString username) with
  | some account => (account.2, store)
  | none =>
      (store.accountIdGen,
        { store with
          accounts := (cString username, store.accountIdGen) :: store.accounts
          accountIdGen := store.accountIdGen + 1 })

def slotRow (slot : InventorySlot) : InventorySlot := if slot.itemId = 0 then .empty else slot

/-- The rows that `SavePlayerData` writes, as `LoadPlayerData` reads them. -/
def rowsOf (saved : SaveData) : SaveData :=
  { saved with
    name := cString saved.name
    storage := fun i => slotRow (saved.storage i)
    equipWeapon := slotRow saved.equipWeapon
    equipArmor := slotRow saved.equipArmor
    equipPotion := slotRow saved.equipPotion }

def savePlayerData (store : Store) (account : AccountId) (player : ObjectId) (saved : SaveData) :
    Store :=
  { store with
    rows := Function.update store.rows account (some (rowsOf saved))
    saves := ⟨account, player, saved⟩ :: store.saves }

end Store

def Routing.onStore (routing : Routing) (f : Store → Store) : Routing :=
  { routing with store := f routing.store }

def Routing.onParties (routing : Routing) (f : PartyManager → PartyManager) : Routing :=
  { routing with parties := f routing.parties }

/-- `Handle_C_Login` up to the player it creates, from the account on: loaded from its
rows, or initialised and saved. -/
def loginPlayer (store : Store) (account : AccountId) (id : ObjectId) (username : Bytes) :
    Player × Store :=
  let player := Player.create data id
  match store.rows account with
  | some saved => (Player.applyFromSaveData data saved player, store)
  | none =>
      let player := { player with info := { player.info with name := username } }
      (player, store.savePlayerData account id player.toSaveData)

def Routing.recordLogin (routing : Routing) (s : SessionId) (account : AccountId)
    (player : ObjectId) (store : Store) : Routing :=
  { routing.setSession s { routing.sessions s with accountId := account } with
    store
    logins := ⟨s, account, player⟩ :: routing.logins }

/-- The `EnterRoom` job for the first town. -/
def Routing.enterTown (routing : Routing) (s : SessionId) (player : ObjectId) : Routing :=
  match routing.staticRoom .town 1 with
  | some r => routing.pushJob r (.enterRoom s player)
  | none => routing

def handleCLogin (w : World) (s : SessionId) (username : Bytes) : World :=
  if username = [] then w
  else
    let (account, store) := w.routing.store.findOrCreateAccount username
    if account = 0 then { w with routing := w.routing.onStore fun _ => store }
    else
      let id := w.idGen
      let (player, store) := loginPlayer data store account id username
      let routing := (w.routing.recordLogin s account id store).enterTown s id
      let scene := (w.scene.setPlayer id player).send s (.enterGame true account)
      let scene :=
        if scene.redisConnected then
          (scene.redisCommand (.setLocation username)).redisCommand
            (.rankLevel username player.level)
        else scene
      { routing, scene, idGen := id + 1 }

/-- The message `Handle_C_Chat` builds for a player's name and party id. -/
def chatRelay (sender : Bytes) (partyId : PartyId) (pkt : CChat) : Option SSRelayChat :=
  if pkt.type = ChatType.global then
    some { sender, type := ChatType.global, msg := pkt.msg, target := [], partyId := 0 }
  else if pkt.type = ChatType.party then
    if partyId = 0 then none
    else some { sender, type := ChatType.party, msg := pkt.msg, target := [], partyId }
  else if pkt.type = ChatType.whisper then
    if pkt.target = [] then none
    else
      some { sender, type := ChatType.whisper, msg := pkt.msg, target := pkt.target, partyId := 0 }
  else none

def handleCChat (w : World) (s : SessionId) (pkt : CChat) : World :=
  match lockPlayer w.routing w.scene [] s with
  | none => w
  | some id =>
      match chatRelay (w.scene.players id).info.name (w.routing.parties.partyIdByPlayer id) pkt with
      | none => w
      | some relay => w.onScene fun scene => { scene with relayed := scene.relayed ++ [relay] }

def findPlayer (w : World) (r : RoomRef) (id : ObjectId) : Option ObjectId :=
  if id ∈ playerIds w.routing r then some id else none

def sendPartyUpdateFromRoom (w : World) (r : RoomRef) (partyId : PartyId) : World :=
  match w.routing.parties.parties partyId with
  | none => w
  | some party => sendToMembers r party.memberIds (partyUpdate w r party) w

def partyFull (parties : PartyManager) (inviter : ObjectId) : Bool :=
  match parties.parties (parties.partyIdByPlayer inviter) with
  | none => false
  | some party => PartyManager.maxPartySize ≤ party.memberIds.length

/-- The job of `Handle_C_PartyInvite` -/
def partyInvite (w : World) (r : RoomRef) (s : SessionId) (targetId : ObjectId) : World :=
  match lockPlayer w.routing w.scene [] s with
  | none => w
  | some inviter =>
      let parties := w.routing.parties
      if inviter = targetId then w
      else if parties.isInParty inviter && !parties.isLeader inviter then w
      else if parties.isInParty targetId then w
      else if parties.isInParty inviter && partyFull parties inviter then w
      else
        match findPlayer w r targetId with
        | none => w
        | some target =>
            w.onScene (sendToPlayer w.routing target
              (.partyInvite inviter (w.scene.players inviter).info.name))

/-- The party of the inviter; where there is none it is created, and the inviter's name
kept if the room has an object of that id. -/
def inviterParty (w : World) (r : RoomRef) (inviterId : ObjectId) : PartyId × World :=
  let partyId := w.routing.parties.partyIdByPlayer inviterId
  if partyId ≠ 0 then (partyId, w)
  else
    let (partyId, parties) := w.routing.parties.createParty inviterId
    let parties :=
      match findObject w.routing w.scene r inviterId with
      | some inviter => parties.setMemberName partyId inviterId (inviter.info w.scene).name
      | none => parties
    (partyId, { w with routing := w.routing.onParties fun _ => parties })

/-- The job of `Handle_C_PartyAnswer` -/
def partyAnswer (w : World) (r : RoomRef) (s : SessionId) (inviterId : ObjectId) (accept : Bool) :
    World :=
  match lockPlayer w.routing w.scene [] s with
  | none => w
  | some acceptor =>
      if !accept then w
      else if w.routing.parties.isInParty acceptor then w
      else
        let (partyId, w) := inviterParty w r inviterId
        if partyId = 0 then w
        else
          let (joined, parties) := w.routing.parties.addMember partyId acceptor
          if !joined then w
          else
            let name := (w.scene.players acceptor).info.name
            let parties := parties.setMemberName partyId acceptor name
            let w := { w with routing := w.routing.onParties fun _ => parties }
            sendPartyUpdateFromRoom w r partyId

/-- The job of `Handle_C_PartyLeave` -/
def partyLeave (w : World) (r : RoomRef) (s : SessionId) : World :=
  match lockPlayer w.routing w.scene [] s with
  | none => w
  | some player =>
      let partyId := w.routing.parties.partyIdByPlayer player
      if partyId = 0 then w
      else
        match w.routing.parties.parties partyId with
        | none => w
        | some party =>
            let w := { w with routing := w.routing.onParties (·.removeMember partyId player) }
            let w := w.sendTo s .partyLeave
            match w.routing.parties.parties partyId with
            | some _ => sendPartyUpdateFromRoom w r partyId
            | none => sendToMembers r (party.memberIds.filter (· ≠ player)) .partyLeave w

def itemJob (method : Player → Player × List Emission) (w : World) (s : SessionId) : World :=
  match lockPlayer w.routing w.scene [] s with
  | none => w
  | some id => w.onScene (actPlayer w.routing id method)

/-- A lambda out of the queue of room `r`. -/
def runJob (w : World) (r : RoomRef) : Job → World
  | .move s pkt => w.onScene (handleCMove w.routing r s pkt)
  | .turn s pkt => w.onScene (handleCTurn w.routing r s pkt)
  | .attack s pkt => handleCAttack data w r s pkt
  | .changeMap s pkt => handleCChangeMap data w r s pkt
  | .equipItem s slot => itemJob (Player.equipItem data slot) w s
  | .unequipItem s equipType => itemJob (Player.unequipItem data equipType) w s
  | .useItem s slot => itemJob (Player.useItem data slot) w s
  | .partyInvite s targetId => partyInvite w r s targetId
  | .partyAnswer s inviterId accept => partyAnswer w r s inviterId accept
  | .partyLeave s => partyLeave w r s
  | .enterRoom s player => w.enterRoom r s player
  | .leaveRoom s => w.leaveRoom [] r s

/-- The job a packet handler pushes; `Handle_C_Login` and `Handle_C_Chat` push none. -/
def ClientPacket.job (s : SessionId) : ClientPacket → Option Job
  | .move pkt => some (.move s pkt)
  | .attack pkt => some (.attack s pkt)
  | .changeMap pkt => some (.changeMap s pkt)
  | .turn pkt => some (.turn s pkt)
  | .equipItem slot => some (.equipItem s slot)
  | .unequipItem equipType => some (.unequipItem s equipType)
  | .useItem slot => some (.useItem s slot)
  | .partyInvite targetId => some (.partyInvite s targetId)
  | .partyAnswer inviterId accept => some (.partyAnswer s inviterId accept)
  | .partyLeave => some (.partyLeave s)
  | .login _ => none
  | .chat _ => none

/-- `ServerPacketHandler::HandlePacket`: a job goes to the room `session->gameRoom` names
when the packet arrives. -/
def handlePacket (w : World) (s : SessionId) (pkt : ClientPacket) : World :=
  match pkt with
  | .login username => handleCLogin data w s username
  | .chat chat => handleCChat w s chat
  | _ =>
      match pkt.job s, lockRoom w.routing w.scene s with
      | some job, some r => { w with routing := w.routing.pushJob r job }
      | _, _ => w

def onConnected (w : World) (s : SessionId) : World :=
  { w with
    routing := w.routing.setSession s { w.routing.sessions s with connection := .connected } }

/-- The save at the start of `OnDisconnected`. -/
def saveOnDisconnect (w : World) (s : SessionId) (player : ObjectId) : World :=
  let account := (w.routing.sessions s).accountId
  if 0 < account then
    { w with
      routing := w.routing.onStore fun store =>
        store.savePlayerData account player (w.scene.players player).toSaveData }
  else w

/-- The party's clean-up in `OnDisconnected`. The update names ids and the leader only,
and goes once to each member in the room. -/
def leavePartyOnDisconnect (w : World) (s : SessionId) (player : ObjectId) : World :=
  let partyId := w.routing.parties.partyIdByPlayer player
  if partyId = 0 then w
  else
    let w := { w with routing := w.routing.onParties (·.removeMember partyId player) }
    match w.routing.parties.parties partyId, lockRoom w.routing w.scene s with
    | some remaining, some r =>
        let member (mid : ObjectId) : PartyMemberInfo :=
          ⟨mid, [], 0, 0, 0, mid = remaining.leaderId⟩
        sendToMembers r remaining.memberIds (.partyUpdate (remaining.memberIds.map member)) w
    | _, _ => w

def forgetOnDisconnect (w : World) (player : ObjectId) : World :=
  if w.scene.redisConnected then
    w.onScene (·.redisCommand (.delLocation (w.scene.players player).info.name))
  else w

/-- What `OnDisconnected` does with the player, where there still is one. -/
def partWithPlayer (w : World) (s : SessionId) (player : ObjectId) : World :=
  forgetOnDisconnect (leavePartyOnDisconnect (saveOnDisconnect w s player) s player) player

/-- `GameSession::OnDisconnected` -/
def onDisconnected (w : World) (s : SessionId) : World :=
  let w :=
    { w with
      routing := w.routing.setSession s { w.routing.sessions s with connection := .disconnected } }
  let w :=
    match lockPlayer w.routing w.scene [] s with
    | none => w
    | some player => partWithPlayer w s player
  match lockRoom w.routing w.scene s with
  | none => w
  | some r => { w with routing := w.routing.pushJob r (.leaveRoom s) }

end ZeldaServer
