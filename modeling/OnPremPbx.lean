import OnPremPbx.Framing.Link
import OnPremPbx.Tunnel.Queues
import OnPremPbx.Tunnel.Receivers
import OnPremPbx.Tunnel.Heartbeats
import OnPremPbx.Cloud.Streams
import OnPremPbx.Agent.Streams
import OnPremPbx.System.Isolation
import OnPremPbx.System.Sizes
import OnPremPbx.System.Orphans
import OnPremPbx.Agent.DispatchTask
import OnPremPbx.System.CloseAgreement
import OnPremPbx.Cloud.Replacement
import OnPremPbx.Cloud.StreamIds
import OnPremPbx.Calls.EndOfCall
import OnPremPbx.Calls.Redelivery
import OnPremPbx.Calls.CallTypes
import OnPremPbx.Calls.Presence
import OnPremPbx.Provisioning.Convergence
import OnPremPbx.Provisioning.StatusChange
import OnPremPbx.Provisioning.Resume
import OnPremPbx.Provisioning.Rows
import OnPremPbx.Database.Encryption
import OnPremPbx.Database.Records
import OnPremPbx.Database.DropIn
import OnPremPbx.WebSocket.AriWsClient
import OnPremPbx.WebSocket.Relay
import OnPremPbx.Http.Framing
import OnPremPbx.Http.Total
import OnPremPbx.Web.Order
import OnPremPbx.Pbx.Filters
import OnPremPbx.Pbx.Secrets
import OnPremPbx.Pbx.Isolation
import OnPremPbx.Softphone.SipCallController
import OnPremPbx.Softphone.SipService
import OnPremPbx.Softphone.SipTunnel
import OnPremPbx.Softphone.CloudClient
import OnPremPbx.Softphone.BusyGate
import OnPremPbx.Softphone.InboundCalls
import OnPremPbx.Email.Mails
import OnPremPbx.Pbx.Lifetime
import OnPremPbx.WebSocket.RecvFrame
import OnPremPbx.WebSocket.InnerTlsBridge
import OnPremPbx.Agent.Backoff
import OnPremPbx.Accounts.AccountRows
import OnPremPbx.Http.Chunks
import OnPremPbx.Http.LengthField
import OnPremPbx.Sip.Serialise
import OnPremPbx.Sip.MessageLength
import OnPremPbx.Ari.Requests
import OnPremPbx.Pbx.PushCrypto
import OnPremPbx.Pbx.FanOut
import OnPremPbx.Pbx.UriReaders
import OnPremPbx.Pbx.ImportReport
import OnPremPbx.Accounts.LogRedaction
import OnPremPbx.Accounts.Migration
import OnPremPbx.Web.StaticFiles
import OnPremPbx.Pbx.HttpsClient
import OnPremPbx.Pbx.ImportResults
import OnPremPbx.WebSocket.Handshake
import OnPremPbx.WebSocket.TunnelStreams
import OnPremPbx.Email.MimeMessage
import OnPremPbx.Email.InStep
import OnPremPbx.Softphone.IncomingCallController
import OnPremPbx.Softphone.MediaSession
import OnPremPbx.Softphone.KeepaliveService
import OnPremPbx.Softphone.MetricsManager
import OnPremPbx.Softphone.Sdp
import OnPremPbx.Pbx.Base64Url
import OnPremPbx.Pbx.Credentials
import OnPremPbx.Pbx.Revocation
import OnPremPbx.Agent.AriPipeline
import OnPremPbx.Agent.StopWaits
import OnPremPbx.Web.AwbNumbers
import OnPremPbx.Framing.Turns
import OnPremPbx.System.Accounts
import OnPremPbx.Text.Strings
