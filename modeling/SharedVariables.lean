import SharedVariables.Client.Script
import SharedVariables.Client.Store
import SharedVariables.Config.Client
import SharedVariables.Config.Local
import SharedVariables.Config.Server
import SharedVariables.Json.Entities
import SharedVariables.Local.Host
import SharedVariables.Local.Listener
import SharedVariables.Local.Network
import SharedVariables.Local.Process
import SharedVariables.Local.Segment
import SharedVariables.Proofs.Client.Dialogue
import SharedVariables.Proofs.Client.Discipline
import SharedVariables.Proofs.Client.Equivalence
import SharedVariables.Proofs.Client.Exchange
import SharedVariables.Proofs.Client.FailStop
import SharedVariables.Proofs.Client.Likeness
import SharedVariables.Proofs.Client.Oversized
import SharedVariables.Proofs.Client.Record
import SharedVariables.Proofs.Client.Transfer
import SharedVariables.Proofs.Endpoint
import SharedVariables.Proofs.Local.Listening
import SharedVariables.Proofs.Name.FirstDifference
import SharedVariables.Proofs.Name.Text
import SharedVariables.Proofs.Name.Wildcard
import SharedVariables.Proofs.Registry.Accepting
import SharedVariables.Proofs.Registry.Addressing
import SharedVariables.Proofs.Registry.Advertising
import SharedVariables.Proofs.Registry.Announcing
import SharedVariables.Proofs.Registry.Commuting
import SharedVariables.Proofs.Registry.Convergence
import SharedVariables.Proofs.Registry.Draining
import SharedVariables.Proofs.Registry.Firing
import SharedVariables.Proofs.Registry.Gating
import SharedVariables.Proofs.Registry.Holders
import SharedVariables.Proofs.Registry.KeyReuse
import SharedVariables.Proofs.Registry.Leaving
import SharedVariables.Proofs.Registry.OwnControl
import SharedVariables.Proofs.Registry.Pairing
import SharedVariables.Proofs.Registry.Pending
import SharedVariables.Proofs.Registry.Reclaiming
import SharedVariables.Proofs.Registry.Report
import SharedVariables.Proofs.Registry.Returning
import SharedVariables.Proofs.Registry.Sharing
import SharedVariables.Proofs.Registry.Sparing
import SharedVariables.Proofs.Registry.Sweeping
import SharedVariables.Proofs.Registry.Symmetry
import SharedVariables.Proofs.Registry.Tables
import SharedVariables.Proofs.Registry.Telling
import SharedVariables.Proofs.Registry.UnusedId
import SharedVariables.Proofs.Registry.Waiting
import SharedVariables.Proofs.Server.Answers
import SharedVariables.Proofs.Server.Confinement
import SharedVariables.Proofs.Server.Dispatch
import SharedVariables.Proofs.Server.LiveServer
import SharedVariables.Proofs.Server.Reconnection
import SharedVariables.Proofs.Server.Replies
import SharedVariables.Proofs.Server.Sendable
import SharedVariables.Proofs.Server.Tenure
import SharedVariables.Proofs.Server.Unregistering
import SharedVariables.Proofs.Server.Values
import SharedVariables.Proofs.Server.WakeUps
import SharedVariables.Proofs.Signal.Codec
import SharedVariables.Proofs.Signal.Spelling
import SharedVariables.Proofs.Stream.Agreement
import SharedVariables.Proofs.Stream.Chunks
import SharedVariables.Proofs.Stream.Frame
import SharedVariables.Proofs.Stream.Taking
import SharedVariables.Proofs.Text.Size
import SharedVariables.Proofs.Text.Utf8
import SharedVariables.Proofs.Wire.Exact
import SharedVariables.Proofs.Wire.Field
import SharedVariables.Proofs.Wire.Form
import SharedVariables.Proofs.Wire.Item
import SharedVariables.Server.Link
import SharedVariables.Server.Listen
import SharedVariables.Version
