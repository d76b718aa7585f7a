import ArtifactSync.Artifact.Content
import ArtifactSync.Artifact.Sha256
import ArtifactSync.Config
import ArtifactSync.Crd.Schema
import ArtifactSync.Crd.Wait
import ArtifactSync.Desired.Resource
import ArtifactSync.Desired.SecretRef
import ArtifactSync.Desired.Spec
import ArtifactSync.Dict
import ArtifactSync.Duration
import ArtifactSync.Error
import ArtifactSync.Http.Challenge
import ArtifactSync.Http.Exchange
import ArtifactSync.Http.StatusCode
import ArtifactSync.Instances
import ArtifactSync.Interaction
import ArtifactSync.Json.Fault
import ArtifactSync.Json.Lexeme
import ArtifactSync.Json.Number
import ArtifactSync.Json.Reader
import ArtifactSync.Json.Record
import ArtifactSync.Json.Value
import ArtifactSync.Kubernetes.ApiFailure
import ArtifactSync.Kubernetes.Client
import ArtifactSync.Kubernetes.Discovery
import ArtifactSync.Kubernetes.Exchange
import ArtifactSync.Kubernetes.Meta
import ArtifactSync.Kubernetes.Secret
import ArtifactSync.Kubernetes.SecretAccess
import ArtifactSync.Kubernetes.Server
import ArtifactSync.Kubernetes.Time
import ArtifactSync.Kubernetes.Version
import ArtifactSync.Operator.Controller
import ArtifactSync.Operator.Pass
import ArtifactSync.Proofs.Artifact.Selection
import ArtifactSync.Proofs.Config
import ArtifactSync.Proofs.Crd.Polling
import ArtifactSync.Proofs.Crd.Served
import ArtifactSync.Proofs.Desired.Wire
import ArtifactSync.Proofs.Duration
import ArtifactSync.Proofs.Fallible
import ArtifactSync.Proofs.Interaction.Reaches
import ArtifactSync.Proofs.Json.Alike
import ArtifactSync.Proofs.Json.Canonical
import ArtifactSync.Proofs.Json.Layout
import ArtifactSync.Proofs.Json.Passed
import ArtifactSync.Proofs.Json.Skip
import ArtifactSync.Proofs.Json.Spelt
import ArtifactSync.Proofs.Json.Understands
import ArtifactSync.Proofs.Json.Unordered
import ArtifactSync.Proofs.Json.Written
import ArtifactSync.Proofs.Kubernetes.Catalogue
import ArtifactSync.Proofs.Kubernetes.Client
import ArtifactSync.Proofs.Kubernetes.Discovery
import ArtifactSync.Proofs.Kubernetes.Refinement
import ArtifactSync.Proofs.Kubernetes.Roundtrip
import ArtifactSync.Proofs.Kubernetes.Server
import ArtifactSync.Proofs.Kubernetes.Time
import ArtifactSync.Proofs.Kubernetes.Version
import ArtifactSync.Proofs.Operator.Genuine
import ArtifactSync.Proofs.Operator.Retryable
import ArtifactSync.Proofs.Registry.Address
import ArtifactSync.Proofs.Registry.Agreement
import ArtifactSync.Proofs.Registry.Attempt
import ArtifactSync.Proofs.Registry.Backoff
import ArtifactSync.Proofs.Registry.Credentials
import ArtifactSync.Proofs.Registry.Discipline
import ArtifactSync.Proofs.Registry.Disclosure
import ArtifactSync.Proofs.Registry.Failing
import ArtifactSync.Proofs.Registry.Files
import ArtifactSync.Proofs.Registry.Gives
import ArtifactSync.Proofs.Registry.Integrity
import ArtifactSync.Proofs.Registry.Loading
import ArtifactSync.Proofs.Registry.Login
import ArtifactSync.Proofs.Registry.Notation
import ArtifactSync.Proofs.Registry.Parts
import ArtifactSync.Proofs.Registry.Passing
import ArtifactSync.Proofs.Registry.Pinned
import ArtifactSync.Proofs.Registry.Reference
import ArtifactSync.Proofs.Registry.Refinement
import ArtifactSync.Proofs.Registry.Requests
import ArtifactSync.Proofs.Registry.Retry
import ArtifactSync.Proofs.Registry.Sign
import ArtifactSync.Proofs.Registry.Spelling
import ArtifactSync.Proofs.Registry.Surroundings
import ArtifactSync.Proofs.Registry.Timetable
import ArtifactSync.Proofs.Registry.Usable
import ArtifactSync.Proofs.Registry.Written
import ArtifactSync.Proofs.Staging.Area
import ArtifactSync.Proofs.Staging.Components
import ArtifactSync.Proofs.Staging.Title
import ArtifactSync.Proofs.Staging.Writes
import ArtifactSync.Proofs.Sync.AllowList
import ArtifactSync.Proofs.Sync.Atomicity
import ArtifactSync.Proofs.Sync.Convergence
import ArtifactSync.Proofs.Sync.Creation
import ArtifactSync.Proofs.Sync.Credential
import ArtifactSync.Proofs.Sync.Deadline
import ArtifactSync.Proofs.Sync.History
import ArtifactSync.Proofs.Sync.Idempotence
import ArtifactSync.Proofs.Sync.Interference
import ArtifactSync.Proofs.Sync.LostUpdate
import ArtifactSync.Proofs.Sync.Outcome
import ArtifactSync.Proofs.Sync.Provenance
import ArtifactSync.Proofs.Sync.Schedule
import ArtifactSync.Proofs.Sync.Stage
import ArtifactSync.Proofs.Sync.Target
import ArtifactSync.Proofs.Sync.Twin
import ArtifactSync.Proofs.Sync.Versions
import ArtifactSync.Proofs.Sync.World
import ArtifactSync.Proofs.Text.Ascii
import ArtifactSync.Proofs.Text.Base64
import ArtifactSync.Proofs.Text.Blank
import ArtifactSync.Proofs.Text.Decimal
import ArtifactSync.Proofs.Text.Utf8
import ArtifactSync.Proofs.Timed
import ArtifactSync.Proofs.Url.Authority
import ArtifactSync.Proofs.Url.Name
import ArtifactSync.Registry.Address
import ArtifactSync.Registry.Client
import ArtifactSync.Registry.Credentials
import ArtifactSync.Registry.Envelope
import ArtifactSync.Registry.Exchange
import ArtifactSync.Registry.Failure
import ArtifactSync.Registry.Fetch
import ArtifactSync.Registry.Manifest
import ArtifactSync.Registry.PullCredential
import ArtifactSync.Registry.Reference
import ArtifactSync.Registry.Retrieval
import ArtifactSync.Registry.Retry
import ArtifactSync.Registry.Token
import ArtifactSync.Staging.Area
import ArtifactSync.Staging.Title
import ArtifactSync.Sync.Call
import ArtifactSync.Sync.Pass
import ArtifactSync.Sync.Store
import ArtifactSync.Sync.Target
import ArtifactSync.Text.Base64
import ArtifactSync.Text.Blank
import ArtifactSync.Text.CaseTable
import ArtifactSync.Text.CodePoints
import ArtifactSync.Text.Decimal
import ArtifactSync.Text.Hexadecimal
import ArtifactSync.Text.HiddenTable
import ArtifactSync.Text.Lowercase
import ArtifactSync.Text.Quoted
import ArtifactSync.Text.Shortest
import ArtifactSync.Text.Split
import ArtifactSync.Text.Utf8
import ArtifactSync.Text.Word
import ArtifactSync.Text.WordTable
import ArtifactSync.Url.Basic
import ArtifactSync.Url.Host
import ArtifactSync.Url.Idna.Composition
import ArtifactSync.Url.Idna.CompositionTable
import ArtifactSync.Url.Idna.Domain
import ArtifactSync.Url.Idna.MappingTable
import ArtifactSync.Url.Idna.Script
import ArtifactSync.Url.Idna.ScriptTable
import ArtifactSync.Url.Ipv4
import ArtifactSync.Url.Ipv6
import ArtifactSync.Url.Percent
import ArtifactSync.Url.Punycode
