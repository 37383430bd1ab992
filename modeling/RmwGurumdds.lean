import RmwGurumdds.Model.Ledger
import RmwGurumdds.Model.Types
import RmwGurumdds.Model.SequenceNumber
import RmwGurumdds.Model.Create
import RmwGurumdds.Model.Take
import RmwGurumdds.Model.Send
import RmwGurumdds.Model.ActualQos
import RmwGurumdds.Model.Notification
import RmwGurumdds.Model.Interleaving
import RmwGurumdds.Model.Destroy
import RmwGurumdds.Model.Endpoint
import RmwGurumdds.Proofs.CreateRollback
import RmwGurumdds.Proofs.TakeSend
import RmwGurumdds.Proofs.GateMask
import RmwGurumdds.Proofs.NoLostNotification
import RmwGurumdds.Proofs.DestroyRetry
import RmwGurumdds.Proofs.EndpointLifecycle
