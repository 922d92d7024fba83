import SecureBinding.IdentityPolicy.ReplayConcurrent
import SecureBinding.IdentityPolicy.ReplayBackends
import SecureBinding.GatewayRoute.ReplayKey
import SecureBinding.Agtp.GatewayAgreement
import SecureBinding.Verifiers.Ambiguity
import SecureBinding.Verifiers.KeySeparation
import SecureBinding.EA.Effects
import SecureBinding.EA.Spontaneous
import SecureBinding.Transport.Exporter
import SecureBinding.Transport.ConnContext
import SecureBinding.Transport.Listener
import SecureBinding.Manager.AttestationPolicy
import SecureBinding.Atls.MeasuredReport
import SecureBinding.Runtime.PlaintextTarget
import SecureBinding.Clients.Downgrade
import SecureBinding.Agent.StateMachineSound
import SecureBinding.Agent.PendingMessages
import SecureBinding.Agent.Isolation
import SecureBinding.Agent.Restart
import SecureBinding.Agent.Approved
import SecureBinding.Agent.Runner
import SecureBinding.Agent.IngressRuns
import SecureBinding.Agent.RunRequests
import SecureBinding.Agent.OutgoingQueue
import SecureBinding.Agent.MessageStore
import SecureBinding.Agtp.Envelope
import SecureBinding.Manager.CreateVM
import SecureBinding.Manager.Expiry
import SecureBinding.Manager.Ports
import SecureBinding.Manager.Records
import SecureBinding.Oci.Containment
import SecureBinding.Progressbar.Receive
import SecureBinding.Cli.ImaMeasurements
import SecureBinding.Sdk.Metadata
import SecureBinding.Egress.Proxy
import SecureBinding.Logger.ProtoHandler
