import TrackerGateway.Invariants.Attribution
import TrackerGateway.Invariants.Ghosts
import TrackerGateway.Invariants.OneImei
import TrackerGateway.Invariants.Reconnect
import TrackerGateway.Invariants.Slots
import TrackerGateway.Packets.AlarmEvents
import TrackerGateway.Packets.LongFrames
import TrackerGateway.Packets.Trailer
import TrackerGateway.Delivery.Counts
import TrackerGateway.Delivery.Device
import TrackerGateway.Delivery.Consignments
import TrackerGateway.Delivery.EndToEnd
import TrackerGateway.Delivery.LivePosition
import TrackerGateway.Foundation.Stream.Framing
import TrackerGateway.Framing.V5
import TrackerGateway.Framing.Intake
import TrackerGateway.Framing.Teltonika
import TrackerGateway.Commands.Honesty
import TrackerGateway.Commands.Language
import TrackerGateway.Commands.Lifetime
import TrackerGateway.Fixtures.Teltonika
import TrackerGateway.Foundation.Stream.Reading
import TrackerGateway.Framing.Bounds
import TrackerGateway.Packets.Records
import TrackerGateway.Packets.Grammar
import TrackerGateway.Packets.Corruption
import TrackerGateway.Packets.Identity
import TrackerGateway.Packets.Timestamps
import TrackerGateway.Packets.Fixes
import TrackerGateway.Delivery.Reports
import TrackerGateway.Invariants.Positions
import TrackerGateway.Invariants.IgnitionCache
import TrackerGateway.Polling.Marks
import TrackerGateway.Invariants.Inverse
import TrackerGateway.Invariants.Statuses
import TrackerGateway.Packets.Acknowledgements
import TrackerGateway.Packets.GpsBlock
import TrackerGateway.Packets.Coordinates
import TrackerGateway.Commands.Frames
import TrackerGateway.Invariants.FirstLogins
import TrackerGateway.Invariants.ObjectIds
import TrackerGateway.Invariants.Silence
import TrackerGateway.Packets.Replies
import TrackerGateway.Packets.Configuration
import TrackerGateway.Commands.Answers
import TrackerGateway.Commands.Injection
import TrackerGateway.Packets.LogLines
import TrackerGateway.Repositories.Connections
import TrackerGateway.Services.HealthChecks
import TrackerGateway.Commands.Authority
import TrackerGateway.Server.Sessions
import TrackerGateway.Invariants.Drain
import TrackerGateway.Framing.Isolation
import TrackerGateway.Delivery.OneStatement
import TrackerGateway.Invariants.Workload
import TrackerGateway.Invariants.Admission
import TrackerGateway.Polling.Passes
import TrackerGateway.Invariants.Startup
