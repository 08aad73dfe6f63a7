import PublishPool.Number.Binary
import PublishPool.Number.Shortest
import PublishPool.Number.Notation
import PublishPool.Number.Reading
import PublishPool.Text.Printable
import PublishPool.Text.Blank
import PublishPool.Value
import PublishPool.Value.Literal
import PublishPool.Value.Key
import PublishPool.Json.Write
import PublishPool.Json.Read
import PublishPool.Json.Tagged
import PublishPool.Schema.Issue
import PublishPool.Schema.Coerce
import PublishPool.Fault
import PublishPool.Log
import PublishPool.Num
import PublishPool.Value.Access
import PublishPool.Value.Compare
import PublishPool.Retry
import PublishPool.Settings.Basic
import PublishPool.Settings.Load
import PublishPool.Payload
import PublishPool.Message
import PublishPool.WorkQueue
import PublishPool.Client.Event
import PublishPool.Client.Settings
import PublishPool.Client.Producer
import PublishPool.Client.Publish
import PublishPool.Worker.Metrics
import PublishPool.World
import PublishPool.Worker.Run
import PublishPool.Metadata.Cluster
import PublishPool.Metadata.Details
import PublishPool.Metadata.Query
import PublishPool.Publisher
import PublishPool.Session
import PublishPool.Pool
import PublishPool.Proofs.QueueOrder
import PublishPool.Proofs.WorkerSteps
import PublishPool.Proofs.Encoding
import PublishPool.Proofs.Conservation
import PublishPool.Proofs.OneShutdown
import PublishPool.Proofs.Fates
import PublishPool.Proofs.GracefulShutdown
import PublishPool.Proofs.Containment
import PublishPool.Proofs.WireForm
import PublishPool.Proofs.SensitivePayloads
import PublishPool.Proofs.RetryLaw
import PublishPool.Proofs.DeliveryStatus
import PublishPool.Proofs.CommaLists
import PublishPool.Proofs.MetadataCounts
import PublishPool.Proofs.DoubleOrder
import PublishPool.Proofs.NearestRounding
import PublishPool.Proofs.ExactRounding
import PublishPool.Proofs.RealLibrary
import PublishPool.Proofs.CappedBackoff
