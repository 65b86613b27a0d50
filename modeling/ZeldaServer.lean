import ZeldaServer.Core.Reassembly
import ZeldaServer.Game.PartyRaces
import ZeldaServer.World.Accounts
import ZeldaServer.World.OneRoom
import ZeldaServer.World.Invitations
import ZeldaServer.World.Ghosts
import ZeldaServer.World.Confinement
import ZeldaServer.World.Lifecycle
import ZeldaServer.World.Progress
import ZeldaServer.World.PacketSizes
import ZeldaServer.World.Order
import ZeldaServer.Core.Silence
import ZeldaServer.World.LockOrder
import ZeldaServer.World.Occupancy
import ZeldaServer.World.Pace
import ZeldaServer.World.SafeRooms
import ZeldaServer.World.Targets
import ZeldaServer.World.Kills
import ZeldaServer.World.Presence
import ZeldaServer.World.PartyMirror
import ZeldaServer.World.ChatRelay
import ZeldaServer.Game.Inventory
import ZeldaServer.Database.RoundTrip
import ZeldaServer.Database.LoginRaces
import ZeldaServer.World.WithoutRedis
import ZeldaServer.World.Clients
import ZeldaServer.Core.Reconnect
import ZeldaServer.World.Paths
import ZeldaServer.Game.Stats
import ZeldaServer.Database.Holdings
import ZeldaServer.Core.RecvSpace
import ZeldaServer.World.Ticks
import ZeldaServer.World.Shortest
import ZeldaServer.World.Capacity
import ZeldaServer.World.Departures
import ZeldaServer.Lib.Lives
import ZeldaServer.World.Conduct
import ZeldaServer.World.Updates
import ZeldaServer.World.Directions
import ZeldaServer.World.Flights
import ZeldaServer.World.Hunters
import ZeldaServer.World.Collisions
import ZeldaServer.World.Rosters
import ZeldaServer.World.Strides
import ZeldaServer.Lib.Iterators
import ZeldaServer.World.Iterations
import ZeldaServer.World.Passes
import ZeldaServer.Lib.Programs
import ZeldaServer.Lib.Scanning
import ZeldaServer.Datasheets.RoomDataManager
import ZeldaServer.Datasheets.Readings
import ZeldaServer.Datasheets.Endings
import ZeldaServer.Client.DevScene
import ZeldaServer.Core.Service
import ZeldaServer.Lib.Balance
import ZeldaServer.Datasheets.Extraction
import ZeldaServer.World.FreeCells
import ZeldaServer.Datasheets.Tilemap
import ZeldaServer.Datasheets.DataTables
import ZeldaServer.Datasheets.Loading
import ZeldaServer.Lib.Patterns
import ZeldaServer.Lib.Lexemes
import ZeldaServer.Lib.Dict
import ZeldaServer.Protocol.GenNetworkFunc
import ZeldaServer.Protocol.Scans
import ZeldaServer.Protocol.Blocks
import ZeldaServer.Protocol.MergedBlocks
import ZeldaServer.Protocol.Layouts
import ZeldaServer.Protocol.Generation
import ZeldaServer.Datasheets.Numerals
import ZeldaServer.Datasheets.TableFiles
import ZeldaServer.Client.MapEditor
import ZeldaServer.World.Standstill
import ZeldaServer.World.Paces
import ZeldaServer.World.Hosted
import ZeldaServer.Datasheets.SpawnScan
