import DocaCpp.Session.Closing
import DocaCpp.Storage.History
import DocaCpp.Storage.Interleaving
import DocaCpp.Net.RoundTrip
import DocaCpp.Net.Frames
import DocaCpp.Net.Writes
import DocaCpp.Net.Exclusive
import DocaCpp.Net.Filled
import DocaCpp.Executor.Operations
import DocaCpp.Executor.Connections
import DocaCpp.Executor.Execute
import DocaCpp.Executor.Lifetime
import DocaCpp.Server.Failures
import DocaCpp.Server.Clients
import DocaCpp.Storage.Registration
import DocaCpp.Storage.Lookup
import DocaCpp.Server.Shutdown
import DocaCpp.Server.Coordination
import DocaCpp.Server.Readiness
import DocaCpp.Executor.Lifecycle
import DocaCpp.Executor.Teardown
import DocaCpp.Executor.Stopping
import DocaCpp.Client
import DocaCpp.Storage.Independence
import DocaCpp.Session.Responses
import DocaCpp.Session.Acknowledges
import DocaCpp.Server.Mapping
import DocaCpp.Executor.Completion
import DocaCpp.Net.AckRace
import DocaCpp.Requesting
import DocaCpp.Executor.TaskBuffers
import DocaCpp.Core.Devices
import DocaCpp.Net.Delivery
import DocaCpp.Session.Holding
import DocaCpp.Net.Recovery
import DocaCpp.Net.Serving
import DocaCpp.Net.Isolation
import DocaCpp.Net.Executors
import DocaCpp.Sample.Endpoints
import DocaCpp.Sample.Exchange
import DocaCpp.Net.Atomic
import DocaCpp.Net.ByteOrders
