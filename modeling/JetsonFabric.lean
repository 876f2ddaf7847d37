import JetsonFabric.Protocol.Rfc3629
import JetsonFabric.Deployment.Cleanup
import JetsonFabric.Speculative.PromptLookup
import JetsonFabric.Generation.Sessions
import JetsonFabric.Generation.Streaming
import JetsonFabric.Runtime.Generate
import JetsonFabric.Stagewire.Responses
import JetsonFabric.Plan.Feasible
import JetsonFabric.Membership.Leadership
import JetsonFabric.Discovery.Records
import JetsonFabric.Discovery.OwnRecord
import JetsonFabric.Coordinator.Accounting
import JetsonFabric.Coordinator.Phase
import JetsonFabric.Coordinator.Switch
import JetsonFabric.Coordinator.Reconcile
import JetsonFabric.Adapters.Counters
import JetsonFabric.Adapters.Isolation
import JetsonFabric.Adapters.NativeBooks
import JetsonFabric.Engines.ValueCache
import JetsonFabric.Adapters.Verification
import JetsonFabric.Discovery.Dns
import JetsonFabric.Engines.Canonical
import JetsonFabric.Discovery.Signature
import JetsonFabric.Protocol.Integers
import JetsonFabric.Generation.Telemetry
import JetsonFabric.Transport.StageCalls
import JetsonFabric.PipelineParallel.Returning
