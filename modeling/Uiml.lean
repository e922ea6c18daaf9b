import Uiml.Markup.Document
import Uiml.Number.Decimal
import Uiml.Number.Digits
import Uiml.Geometry
import Uiml.Color
import Uiml.Clock
import Uiml.Log
import Uiml.Table
import Uiml.Scene.Outline
import Uiml.Widget.Canvas
import Uiml.Registry
import Uiml.Attribute.Resolver
import Uiml.Animation.Animator
import Uiml.Session.Load
import Uiml.Session.Operations
import Uiml.Slot.Binding
import Uiml.Slot.Content
import Uiml.Command.Execute
import Uiml.Command.Event
import Uiml.Asset.Fetch
import Uiml.Script.Reader
import Uiml.Main
import Uiml.Config.File
import Uiml.Proofs.Scene.Component
import Uiml.Proofs.Scene.Face
import Uiml.Proofs.Command.Execution
import Uiml.Proofs.Canvas.Change
import Uiml.Proofs.Build.Visit
import Uiml.Proofs.Session.Reach
import Uiml.Proofs.Canvas.Growth
import Uiml.Proofs.Canvas.Widget
import Uiml.Proofs.Canvas.Mirror
import Uiml.Proofs.Build.Fit
import Uiml.Proofs.Canvas.Faithful
import Uiml.Proofs.Slot.Binding
import Uiml.Proofs.Slot.Consistent
import Uiml.Proofs.Session.Linked
import Uiml.Proofs.Number.Order
import Uiml.Proofs.Build.Breakdown
import Uiml.Proofs.Animation.Queue
import Uiml.Proofs.Animation.Tidy
import Uiml.Proofs.Session.History
import Uiml.Proofs.Animation.Bounce
import Uiml.Proofs.Scene.Branch
import Uiml.Proofs.Attribute.Settled
import Uiml.Proofs.Build.Fate
import Uiml.Proofs.Build.Walk
import Uiml.Proofs.Build.Sprout
import Uiml.Proofs.Scene.Closed
import Uiml.Proofs.Canvas.Orderly
import Uiml.Proofs.Build.Structure
import Uiml.Proofs.Canvas.Built
import Uiml.Proofs.Session.Structure
import Uiml.Proofs.Scene.Alike
import Uiml.Proofs.Canvas.Alike
import Uiml.Proofs.Slot.Stock
import Uiml.Proofs.Slot.Apply
import Uiml.Proofs.Slot.Alike
import Uiml.Proofs.Build.SideBySide
import Uiml.Proofs.Session.Standing
import Uiml.Proofs.Session.Trim
import Uiml.Proofs.Session.Reload
import Uiml.Proofs.Canvas.References
import Uiml.Proofs.Animation.Addressed
import Uiml.Proofs.Session.References
import Uiml.Proofs.Animation.Shift
import Uiml.Proofs.Session.Clearing
import Uiml.Proofs.Session.Failure
import Uiml.Proofs.Markup.Grammar
import Uiml.Proofs.Markup.Reference
import Uiml.Proofs.Markup.Decoding
import Uiml.Proofs.Markup.Scan
import Uiml.Proofs.Markup.Item
import Uiml.Proofs.Markup.Order
import Uiml.Proofs.Markup.Place
import Uiml.Proofs.Markup.Truncation
import Uiml.Proofs.Markup.Written
import Uiml.Proofs.Canvas.Property
import Uiml.Proofs.Animation.Heading
import Uiml.Proofs.Animation.Target
import Uiml.Proofs.Session.Past
import Uiml.Proofs.Session.Latest
import Uiml.Proofs.Animation.LastTarget
import Uiml.Proofs.Animation.LastScale
import Uiml.Proofs.Attribute.Question
import Uiml.Proofs.Attribute.Capacity
import Uiml.Proofs.Slot.Account
import Uiml.Proofs.Slot.InStep
import Uiml.Proofs.Session.Turn
import Uiml.Proofs.Session.Ledger
import Uiml.Proofs.Session.InStep
import Uiml.Proofs.Animation.Unseen
import Uiml.Proofs.Canvas.Patch
import Uiml.Proofs.Number.Unsigned
import Uiml.Proofs.Animation.Punctual
import Uiml.Proofs.Animation.Sweep
import Uiml.Proofs.Animation.Delivery
import Uiml.Proofs.Session.Unordered
import Uiml.Proofs.Scene.Uproot
import Uiml.Proofs.Scene.WellFormed
import Uiml.Proofs.Scene.Outline
import Uiml.Proofs.Session.Footprint
import Uiml.Proofs.Animation.Continuous
import Uiml.Proofs.Animation.Report
import Uiml.Proofs.Session.Additive
import Uiml.Proofs.Session.Restoration
import Uiml.Proofs.Text.Parts
import Uiml.Proofs.Asset.Path
import Uiml.Proofs.Asset.Spot
import Uiml.Proofs.Asset.Probing
import Uiml.Proofs.Asset.Root
import Uiml.Proofs.Registry.Insertion
import Uiml.Proofs.Script.Call
import Uiml.Proofs.Script.HandlerList
import Uiml.Proofs.Script.Grammar
import Uiml.Proofs.Script.Comment
import Uiml.Proofs.Number.Line
import Uiml.Proofs.Number.Rounding
import Uiml.Proofs.Number.Arithmetic
import Uiml.Proofs.Number.Nearest
import Uiml.Proofs.Number.Share
import Uiml.Proofs.Number.Monotone
import Uiml.Proofs.Canvas.Bar
import Uiml.Proofs.Canvas.Fill
import Uiml.Proofs.Animation.Moderate
import Uiml.Proofs.Session.Progress
import Uiml.Proofs.Command.Event
import Uiml.Proofs.Session.Forwarding
import Uiml.Proofs.Attribute.HexColor
import Uiml.Proofs.Scene.Path
