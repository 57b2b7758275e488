import HtmlStream.Codec.Basic
import HtmlStream.Codec.Encoding
import HtmlStream.Component.Inspection
import HtmlStream.Component.Library
import HtmlStream.Component.Signature
import HtmlStream.Context.Registry
import HtmlStream.Context.RenderContext
import HtmlStream.Context.Storage
import HtmlStream.Decimal.Binary
import HtmlStream.Decimal.Digits
import HtmlStream.Decimal.Layout
import HtmlStream.Decimal.Numeral
import HtmlStream.Element.Children
import HtmlStream.Element.Effects
import HtmlStream.Element.Page
import HtmlStream.Element.Traversal
import HtmlStream.EventLoop.Await
import HtmlStream.EventLoop.Basic
import HtmlStream.Failure.Basic
import HtmlStream.Failure.Fault
import HtmlStream.Failure.Kind
import HtmlStream.Failure.Message
import HtmlStream.Format.Layout
import HtmlStream.Format.Specification
import HtmlStream.Proofs.Codec.RoundTrip
import HtmlStream.Proofs.Component.Binding
import HtmlStream.Proofs.Component.Inspection
import HtmlStream.Proofs.Component.PassThrough
import HtmlStream.Proofs.Component.Renumbering
import HtmlStream.Proofs.Context.Graph
import HtmlStream.Proofs.Context.History
import HtmlStream.Proofs.Context.Storage
import HtmlStream.Proofs.Element.Account
import HtmlStream.Proofs.Element.Flattening
import HtmlStream.Proofs.Element.Page
import HtmlStream.Proofs.Element.Rendering
import HtmlStream.Proofs.Element.Renumbering
import HtmlStream.Proofs.Element.Repetition
import HtmlStream.Proofs.Element.Tag
import HtmlStream.Proofs.Element.Traversal
import HtmlStream.Proofs.Element.Wrapping
import HtmlStream.Proofs.Failure.Coloring
import HtmlStream.Proofs.Failure.Renumbering
import HtmlStream.Proofs.Failure.Snippet
import HtmlStream.Proofs.Renderer.Agreement
import HtmlStream.Proofs.Renderer.Blindness
import HtmlStream.Proofs.Renderer.Cancellation
import HtmlStream.Proofs.Renderer.Chaining
import HtmlStream.Proofs.Renderer.Circularity
import HtmlStream.Proofs.Renderer.Cleanup
import HtmlStream.Proofs.Renderer.Completion
import HtmlStream.Proofs.Renderer.Continuation
import HtmlStream.Proofs.Renderer.Course
import HtmlStream.Proofs.Renderer.Cycles
import HtmlStream.Proofs.Renderer.Demand
import HtmlStream.Proofs.Renderer.Depth
import HtmlStream.Proofs.Renderer.Driving
import HtmlStream.Proofs.Renderer.Fitting
import HtmlStream.Proofs.Renderer.Interchange
import HtmlStream.Proofs.Renderer.Iteration
import HtmlStream.Proofs.Renderer.Lockstep
import HtmlStream.Proofs.Renderer.Nesting
import HtmlStream.Proofs.Renderer.Reporting
import HtmlStream.Proofs.Renderer.Returning
import HtmlStream.Proofs.Renderer.Room
import HtmlStream.Proofs.Renderer.Shadowing
import HtmlStream.Proofs.Renderer.Standing
import HtmlStream.Proofs.Renderer.Stranding
import HtmlStream.Proofs.Renderer.Streaming
import HtmlStream.Proofs.Renderer.Styles
import HtmlStream.Proofs.Renderer.Termination
import HtmlStream.Proofs.Renderer.Trampoline
import HtmlStream.Proofs.Renderer.Transparency
import HtmlStream.Proofs.Renderer.Unlimited
import HtmlStream.Proofs.Renderer.Wrapping
import HtmlStream.Proofs.Route.Buffering
import HtmlStream.Proofs.Route.Candor
import HtmlStream.Proofs.Route.Circularity
import HtmlStream.Proofs.Route.Encoding
import HtmlStream.Proofs.Route.Entering
import HtmlStream.Proofs.Route.FrontEnds
import HtmlStream.Proofs.Route.Keeping
import HtmlStream.Proofs.Route.Overlap
import HtmlStream.Proofs.Route.Reaching
import HtmlStream.Proofs.Route.Receiving
import HtmlStream.Proofs.Route.Reporting
import HtmlStream.Proofs.Route.Shadowing
import HtmlStream.Proofs.Route.Stages
import HtmlStream.Proofs.Routine.Blindness
import HtmlStream.Proofs.Routine.Candor
import HtmlStream.Proofs.Routine.Congruence
import HtmlStream.Proofs.Routine.Correspondence
import HtmlStream.Proofs.Routine.Delegation
import HtmlStream.Proofs.Routine.Descent
import HtmlStream.Proofs.Routine.Evolution
import HtmlStream.Proofs.Routine.Mirroring
import HtmlStream.Proofs.Routine.Reading
import HtmlStream.Proofs.Routine.Remaining
import HtmlStream.Proofs.Routine.Renumbering
import HtmlStream.Proofs.Routine.Requesting
import HtmlStream.Proofs.Routine.Shadowing
import HtmlStream.Proofs.Routine.Solitude
import HtmlStream.Proofs.Routine.Yielding
import HtmlStream.Proofs.Script.Blindness
import HtmlStream.Proofs.Script.Evaluation
import HtmlStream.Proofs.Script.Renumbering
import HtmlStream.Proofs.Template.Attributes
import HtmlStream.Proofs.Template.Comments
import HtmlStream.Proofs.Template.Completion
import HtmlStream.Proofs.Template.Content
import HtmlStream.Proofs.Template.Drafts
import HtmlStream.Proofs.Template.Filling
import HtmlStream.Proofs.Template.Holes
import HtmlStream.Proofs.Template.Legibility
import HtmlStream.Proofs.Template.Location
import HtmlStream.Proofs.Template.Machine
import HtmlStream.Proofs.Template.Mentions
import HtmlStream.Proofs.Template.Nesting
import HtmlStream.Proofs.Template.Normalization
import HtmlStream.Proofs.Template.Openers
import HtmlStream.Proofs.Template.Parsing
import HtmlStream.Proofs.Template.Passing
import HtmlStream.Proofs.Template.Progress
import HtmlStream.Proofs.Template.Reading
import HtmlStream.Proofs.Template.Renumbering
import HtmlStream.Proofs.Template.Rereading
import HtmlStream.Proofs.Template.RoundTrip
import HtmlStream.Proofs.Template.Runs
import HtmlStream.Proofs.Template.Safety
import HtmlStream.Proofs.Template.Source
import HtmlStream.Proofs.Template.TagHoles
import HtmlStream.Proofs.Template.TagReading
import HtmlStream.Proofs.Template.WrittenTags
import HtmlStream.Proofs.Text.Coloring
import HtmlStream.Proofs.Text.Edges
import HtmlStream.Proofs.Text.Lines
import HtmlStream.Proofs.Value.Mention
import HtmlStream.Renderer.Basic
import HtmlStream.Renderer.Calm
import HtmlStream.Renderer.Interpretation
import HtmlStream.Renderer.Run
import HtmlStream.Renderer.TextStream
import HtmlStream.Renderer.Transcript
import HtmlStream.Renderer.Turn
import HtmlStream.Route.Basic
import HtmlStream.Route.Buffer
import HtmlStream.Route.Reception
import HtmlStream.Route.Render
import HtmlStream.Route.Stream
import HtmlStream.Routine.Basic
import HtmlStream.Routine.Calm
import HtmlStream.Routine.Delegation
import HtmlStream.Routine.Resume
import HtmlStream.Routine.Work
import HtmlStream.Script.Declaration
import HtmlStream.Script.Diagnostic
import HtmlStream.Script.Document
import HtmlStream.Script.ErrorRequest
import HtmlStream.Script.Expression
import HtmlStream.Script.Iteration
import HtmlStream.Script.Notation
import HtmlStream.Script.Statement
import HtmlStream.Serializer
import HtmlStream.Session
import HtmlStream.Settings
import HtmlStream.Template.Basic
import HtmlStream.Template.Event
import HtmlStream.Template.Fill
import HtmlStream.Template.Forest
import HtmlStream.Template.Holes
import HtmlStream.Template.Machine
import HtmlStream.Template.Mention
import HtmlStream.Template.Nesting
import HtmlStream.Template.Node
import HtmlStream.Template.Progress
import HtmlStream.Template.Tree
import HtmlStream.Terminal
import HtmlStream.Text.Blank
import HtmlStream.Text.Digit
import HtmlStream.Text.Lines
import HtmlStream.Text.Lowercase
import HtmlStream.Text.Pattern
import HtmlStream.Text.Printable
import HtmlStream.Text.Quoted
import HtmlStream.Text.Whitespace
import HtmlStream.Value.Basic
import HtmlStream.Value.Equality
import HtmlStream.Value.Holding
import HtmlStream.Value.Inspection
import HtmlStream.Value.Mention
