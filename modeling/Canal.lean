import Canal.Authentication
import Canal.BatchIds
import Canal.AckOrder
import Canal.Redelivery
import Canal.Filtering
import Canal.Codec
import Canal.Chunking
import Canal.Lib.Protobuf
import Canal.Wire
import Canal.Client
import Canal.Answers
import Canal.FrameSize
import Canal.Release
import Canal.Ingest
import Canal.Groups
import Canal.Dialogue
import Canal.Isolation
import Canal.PollAcks
import Canal.Wakeup
import Canal.Attribution
import Canal.CommitDiscipline
import Canal.Connector
import Canal.Dispatch
import Canal.DispatchOrder
import Canal.SinkDrop
import Canal.GetBatch
import Canal.Paging
import Canal.PutOrder
import Canal.Reconnect
import Canal.ConstantTime
import Canal.DdlText
import Canal.IdlePoll
import Canal.PositionOrder
import Canal.Recovery
import Canal.RowDecoding
import Canal.ChangeDetection
import Canal.Requests
import Canal.Bytes
import Canal.Uplink
import Canal.LoopFrames
import Canal.Shutdown
import Canal.Handshake
import Canal.StoredStream
import Canal.Daemon
import Canal.Kafka
import Canal.ReadOrder
import Canal.ConsumerOrder
import Canal.KafkaReturns
import Canal.KafkaOrder
import Canal.AdminAnswers
import Canal.Undisturbed
