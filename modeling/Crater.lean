import Crater.Block.Handler
import Crater.Block.Palette
import Crater.Block.PaletteFile
import Crater.Block.Registry
import Crater.Block.State
import Crater.Commit
import Crater.Config
import Crater.Decimal.Binary
import Crater.Decimal.Layout
import Crater.Decimal.Read
import Crater.Decimal.Shortest
import Crater.Demo.Arena
import Crater.Demo.Notice
import Crater.Demo.Options
import Crater.Demo.Run
import Crater.Detonation
import Crater.Drops
import Crater.Entity
import Crater.Event
import Crater.Explosion
import Crater.Exposure
import Crater.Failure
import Crater.Geometry.Box
import Crater.Geometry.Position
import Crater.Geometry.Vec3
import Crater.Impact
import Crater.Item
import Crater.Log.Filter
import Crater.Log.Pattern.Atom
import Crater.Log.Pattern.Members
import Crater.Log.Pattern.Reader
import Crater.Log.Record
import Crater.Main
import Crater.Number.Double
import Crater.Number.Single
import Crater.Random.Generator
import Crater.Random.Stream
import Crater.Ray.Affected
import Crater.Ray.Fan
import Crater.Ray.March
import Crater.Resistance
import Crater.Segment
import Crater.Text.Character
import Crater.Text.Script
import Crater.Toml.Document
import Crater.Toml.Lexeme
import Crater.Toml.Moment
import Crater.Toml.Value
import Crater.World.Basic
import Crater.World.Chunk
import Crater.World.Grid
import Crater.World.Population
import Crater.World.WriteFlags
import Crater.Proofs.Storage
import Crater.Proofs.Affected
import Crater.Proofs.Conversion
import Crater.Proofs.Burning
import Crater.Proofs.CommitExact
import Crater.Proofs.Tracing
import Crater.Proofs.Builtin
import Crater.Proofs.Calls
import Crater.Proofs.Clearing
import Crater.Proofs.Sites
import Crater.Proofs.Strikes
import Crater.Proofs.LifeCycle
import Crater.Proofs.Rounding
import Crater.Proofs.Floating
import Crater.Proofs.PlainMap
import Crater.Proofs.Packing
import Crater.Proofs.Numbers
import Crater.Proofs.Doubles
import Crater.Proofs.FanUnion
import Crater.Proofs.Ranks
import Crater.Proofs.Endings
import Crater.Proofs.Reach
import Crater.Proofs.Switches
import Crater.Proofs.Notices
import Crater.Proofs.CallLists
import Crater.Proofs.Observers
import Crater.Proofs.Rising
import Crater.Proofs.Path
import Crater.Proofs.Crossing
import Crater.Proofs.Sight
import Crater.Proofs.Cover
import Crater.Proofs.Radii
import Crater.Proofs.Bookkeeping
import Crater.Proofs.Registrations
import Crater.Proofs.PaletteLoading
import Crater.Proofs.Arena
import Crater.Proofs.Replay
import Crater.Proofs.Report
import Crater.Proofs.Merging
import Crater.Proofs.FullStacks
import Crater.Proofs.Weakening
import Crater.Proofs.Indestructible
import Crater.Proofs.Nearness
import Crater.Proofs.Spacing
import Crater.Proofs.Samples
import Crater.Proofs.SampleCounts
import Crater.Proofs.Decay
import Crater.Proofs.Ignition
import Crater.Proofs.Delivery
import Crater.Proofs.Insertions
import Crater.Proofs.Shell
import Crater.Proofs.NumberTexts
import Crater.Proofs.Arguments
import Crater.Proofs.StackLimits
