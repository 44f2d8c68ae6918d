import SqlxCloudflare.Core.Access
import SqlxCloudflare.Core.Arguments
import SqlxCloudflare.Core.ErrorKind
import SqlxCloudflare.Core.Rewritten
import SqlxCloudflare.Core.RoundTrip
import SqlxCloudflare.Core.Stored
import SqlxCloudflare.Core.Total
import SqlxCloudflare.Do.Counts
import SqlxCloudflare.Do.Changes
import SqlxCloudflare.Do.Batch
import SqlxCloudflare.Do.Drained
import SqlxCloudflare.Do.Reading
import SqlxCloudflare.Do.Batched
import SqlxCloudflare.Do.Handles
import SqlxCloudflare.Do.Interleaving
import SqlxCloudflare.Do.Errors
import SqlxCloudflare.D1.Table
import SqlxCloudflare.D1.Rowid
import SqlxCloudflare.D1.Errors
import SqlxCloudflare.Drivers.Agree
import SqlxCloudflare.Drivers.Limit
import SqlxCloudflare.Drivers.Portable
