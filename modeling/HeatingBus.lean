import HeatingBus.Main
import HeatingBus.Queue.Caller
import HeatingBus.Value.Json
import HeatingBus.Proofs.Calendar.Texts
import HeatingBus.Proofs.Decimal.Digits
import HeatingBus.Proofs.Engine.BitWrites
import HeatingBus.Proofs.Engine.Course
import HeatingBus.Proofs.Engine.Failures
import HeatingBus.Proofs.Engine.FollowUps
import HeatingBus.Proofs.Engine.Independence
import HeatingBus.Proofs.Engine.Knowledge
import HeatingBus.Proofs.Engine.LifeCycle
import HeatingBus.Proofs.Engine.Presence
import HeatingBus.Proofs.Engine.Replay
import HeatingBus.Proofs.Engine.WriteGuard
import HeatingBus.Proofs.Field.Acceptance
import HeatingBus.Proofs.Field.Bits
import HeatingBus.Proofs.Field.Dates
import HeatingBus.Proofs.Field.Decoding
import HeatingBus.Proofs.Field.Numbers
import HeatingBus.Proofs.Field.RoundTrip
import HeatingBus.Proofs.Field.Rules
import HeatingBus.Proofs.Json.Documents
import HeatingBus.Proofs.Json.Texts
import HeatingBus.Proofs.Message.Apart
import HeatingBus.Proofs.Message.BitGroups
import HeatingBus.Proofs.Message.Freshness
import HeatingBus.Proofs.Message.LastBytes
import HeatingBus.Proofs.Message.Layouts
import HeatingBus.Proofs.Message.Ownership
import HeatingBus.Proofs.Message.Reports
import HeatingBus.Proofs.Message.RoundTrip
import HeatingBus.Proofs.Message.Splitting
import HeatingBus.Proofs.Message.WriteBack
import HeatingBus.Proofs.Message.Writes
import HeatingBus.Proofs.OnlineBitmap.Algebra
import HeatingBus.Proofs.OnlineBitmap.Order
import HeatingBus.Proofs.Queue.Room
import HeatingBus.Proofs.Queue.Traffic
import HeatingBus.Proofs.Registry.Locality
import HeatingBus.Proofs.Registry.Tickets
import HeatingBus.Proofs.Telegram.Codec
import HeatingBus.Proofs.Telegram.Corruption
import HeatingBus.Proofs.Telegram.Frames
import HeatingBus.Proofs.Transport.Connecting
import HeatingBus.Proofs.Transport.Connection
import HeatingBus.Proofs.Transport.Deeds
import HeatingBus.Proofs.Transport.Receiving
import HeatingBus.Proofs.Transport.Room
import HeatingBus.Proofs.Transport.Sending
import HeatingBus.Proofs.Value.Json
