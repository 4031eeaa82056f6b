import Adventure.Main
import Adventure.Plugin.Recipe
import Adventure.Registry.Shape
import Adventure.Room.Shape
import Adventure.Session.Call
import Adventure.Session.View
import Adventure.Proofs.Room.Codec
import Adventure.Proofs.NameTable
import Adventure.Proofs.Room.RoundTrip
import Adventure.Proofs.Arena
import Adventure.Proofs.InPlace
import Adventure.Proofs.Capped
import Adventure.Proofs.Registry.Coherent
import Adventure.Proofs.Registry.Lifecycle
import Adventure.Proofs.MessagePack.RoundTrip
import Adventure.Proofs.MessagePack.Shape
import Adventure.Proofs.Registry.Image
import Adventure.Proofs.Registry.Snapshot
import Adventure.Proofs.Registry.Symbols
import Adventure.Proofs.Session.Room
import Adventure.Proofs.Session.Start
import Adventure.Proofs.Session.Call
import Adventure.Proofs.Registry.Overflow
import Adventure.Proofs.Session.Reached
import Adventure.Proofs.Session.Transition
import Adventure.Proofs.Registry.Restored
import Adventure.Proofs.Property
import Adventure.Proofs.Session.Properties
import Adventure.Proofs.Room.Reader
import Adventure.Proofs.Room.Rewrite
import Adventure.Proofs.Room.Upgrade
import Adventure.Proofs.Room.Truncation
import Adventure.Proofs.Bitmap
import Adventure.Proofs.Room.Area
import Adventure.Proofs.Room.Accepted
import Adventure.Proofs.Registry.Listing
import Adventure.Proofs.Session.Roll
import Adventure.Proofs.Session.Census
import Adventure.Proofs.Session.Readied
import Adventure.Proofs.Session.Registered
import Adventure.Proofs.Script.LinkOrder
import Adventure.Proofs.Registry.Issued
import Adventure.Proofs.Registry.Rewind
import Adventure.Proofs.Session.Demands
import Adventure.Proofs.Session.Portable
import Adventure.Proofs.Session.Wrappers
import Adventure.Proofs.Registry.Damaged
import Adventure.Proofs.Session.Damaged
import Adventure.Proofs.World.Record
import Adventure.Proofs.World.Memory
import Adventure.Proofs.Session.Stock
import Adventure.Proofs.Session.Fields
import Adventure.Proofs.Session.Standing
import Adventure.Proofs.Session.Operations
import Adventure.Proofs.Session.Messages
import Adventure.Proofs.Script.Hooks
import Adventure.Proofs.Room.Normalised
import Adventure.Proofs.Session.Normalised
import Adventure.Proofs.Room.Readable
import Adventure.Proofs.Room.Legacy
import Adventure.Proofs.Run
import Adventure.Proofs.Bitmap.Resample
import Adventure.Proofs.Room.Doubling
import Adventure.Proofs.Registry.Sharing
import Adventure.Proofs.Json.Shape
import Adventure.Proofs.Game.Shape
import Adventure.Proofs.Game.Bundle
import Adventure.Proofs.Bitmap.Grid
import Adventure.Proofs.Arena.History
import Adventure.Proofs.NameTable.Spelling
import Adventure.Proofs.Game.DrawOrder
import Adventure.Proofs.Session.Items
import Adventure.Proofs.Session.Drawing
import Adventure.Proofs.Property.Numeral
import Adventure.Proofs.Text.Boundary
import Adventure.Proofs.Session.Buffer
