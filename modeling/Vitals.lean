import Vitals.Talkers
import Vitals.Record.Writing
import Vitals.Record.Reading
import Vitals.Window.Aggregator
import Vitals.Log.Rotating
import Vitals.Duration.Text
import Vitals.FanOut
import Vitals.Subscribers.Registry
import Vitals.Simulation.World
import Vitals.Settings.Loading
import Vitals.Settings.Writing
import Vitals.Collector
import Vitals.Streaming.Service
import Vitals.Main
import Vitals.Proofs.Course
import Vitals.Proofs.Window.Aggregation
import Vitals.Proofs.Window.Accounting
import Vitals.Proofs.Log.Collision
import Vitals.Proofs.Subscribers.Delivery
import Vitals.Proofs.FanOut.Lane
import Vitals.Proofs.FanOut.Replication
import Vitals.Proofs.Pipeline.Consumer
import Vitals.Proofs.Pipeline.Exporter
import Vitals.Proofs.Pipeline.Passage
import Vitals.Proofs.Pipeline.Outcome
import Vitals.Proofs.Log.Torn
import Vitals.Proofs.Subscribers.Registration
import Vitals.Proofs.Window.Partition
import Vitals.Proofs.Subscribers.Senders
import Vitals.Proofs.Subscribers.Lifetime
import Vitals.Proofs.Subscribers.Stream
import Vitals.Proofs.Pipeline.Ends
import Vitals.Proofs.Pipeline.Release
import Vitals.Proofs.Pipeline.Warnings
import Vitals.Proofs.Pipeline.Lifecycle
import Vitals.Proofs.Pipeline.Backlog
import Vitals.Proofs.Pipeline.Feeding
import Vitals.Proofs.Pipeline.Scraping
import Vitals.Proofs.Log.Removal
import Vitals.Proofs.Decimal.Rounding
import Vitals.Proofs.Decimal.Shortest
import Vitals.Proofs.Json.Number
import Vitals.Proofs.Json.RoundTrip
import Vitals.Proofs.Record.RoundTrip
import Vitals.Proofs.Log.Exits
import Vitals.Proofs.Log.Sizes
import Vitals.Proofs.Subscribers.Cancellation
import Vitals.Proofs.Window.Schedule
import Vitals.Proofs.Window.Averages
import Vitals.Proofs.Record.Lines
import Vitals.Proofs.Json.Leaves
import Vitals.Proofs.Json.Grammar
import Vitals.Proofs.Record.Shapes
import Vitals.Proofs.Record.MemberOrder
import Vitals.Proofs.Streaming.Step
import Vitals.Proofs.Streaming.Requests
import Vitals.Proofs.Streaming.Writing
import Vitals.Proofs.Streaming.Peers
import Vitals.Proofs.Talkers
import Vitals.Proofs.Settings.Durations
import Vitals.Proofs.Pipeline.Limits
