import SessionVault.Base64
import SessionVault.Bench
import SessionVault.Bytes
import SessionVault.Cipher.Aes
import SessionVault.Cipher.ChaCha20
import SessionVault.Cipher.Gcm
import SessionVault.Cipher.Poly1305
import SessionVault.Cipher.Sealing
import SessionVault.Cookie
import SessionVault.Digest.Hmac
import SessionVault.Digest.Sha1
import SessionVault.Digest.Sha256
import SessionVault.Entropy
import SessionVault.Envelope
import SessionVault.Failure
import SessionVault.Floating.Binary
import SessionVault.Floating.Shortest
import SessionVault.Floating.Spelling
import SessionVault.Identifier
import SessionVault.Json.Decoder
import SessionVault.Json.Literal
import SessionVault.Json.Numeral
import SessionVault.Json.Payload
import SessionVault.Json.Tree
import SessionVault.Json.Value
import SessionVault.Keyspace
import SessionVault.Note
import SessionVault.Policy
import SessionVault.Program
import SessionVault.Proofs.Envelope
import SessionVault.Proofs.Envelope.Canonical
import SessionVault.Proofs.Envelope.RoundTrip
import SessionVault.Proofs.Errand.Basic
import SessionVault.Proofs.Errand.Safety
import SessionVault.Proofs.Hall.Basic
import SessionVault.Proofs.Hall.Cleanup
import SessionVault.Proofs.Hall.Identifier
import SessionVault.Proofs.Hall.Tenant
import SessionVault.Proofs.Identifier
import SessionVault.Proofs.Json.Decoder
import SessionVault.Proofs.Json.Literal
import SessionVault.Proofs.Json.Number
import SessionVault.Proofs.Json.Numeral
import SessionVault.Proofs.Json.Structure
import SessionVault.Proofs.Json.Tree
import SessionVault.Proofs.Json.Whole
import SessionVault.Proofs.Keyspace
import SessionVault.Proofs.Keyspace.Archive
import SessionVault.Proofs.Keyspace.Sweep
import SessionVault.Proofs.Outpost.Authentic
import SessionVault.Proofs.Outpost.Basic
import SessionVault.Proofs.Outpost.Session
import SessionVault.Proofs.Outpost.Upkeep
import SessionVault.Proofs.Redis.Agreement
import SessionVault.Proofs.Redis.Codec
import SessionVault.Proofs.Redis.Config
import SessionVault.Proofs.Redis.Lifetime
import SessionVault.Proofs.Redis.Replace
import SessionVault.Proofs.Redis.Stored
import SessionVault.Proofs.Roster.Basic
import SessionVault.Proofs.Roster.Faithful
import SessionVault.Proofs.Roster.Readable
import SessionVault.Proofs.Roster.Refinement
import SessionVault.Proofs.Run
import SessionVault.Proofs.Session.Codec
import SessionVault.Proofs.Session.History
import SessionVault.Proofs.Session.Record
import SessionVault.Proofs.Table
import SessionVault.Proofs.Text.Digits
import SessionVault.Proofs.Text.Octets
import SessionVault.Proofs.Time.Calendar
import SessionVault.Proofs.Time.Instant
import SessionVault.Proofs.Time.Rfc3339
import SessionVault.Proofs.Vault.Atomic
import SessionVault.Proofs.Vault.Calls
import SessionVault.Proofs.Vault.Cookies
import SessionVault.Proofs.Vault.Expiry
import SessionVault.Proofs.Vault.Fresh
import SessionVault.Proofs.Vault.Keys
import SessionVault.Proofs.Vault.Resolve
import SessionVault.Proofs.Vault.Sums
import SessionVault.Redis.Answer
import SessionVault.Redis.Command
import SessionVault.Redis.Config
import SessionVault.Redis.Connection
import SessionVault.Redis.Exchange
import SessionVault.Redis.Fault
import SessionVault.Redis.Script
import SessionVault.Redis.Server
import SessionVault.Redis.Store
import SessionVault.Redis.Target
import SessionVault.Session.Basic
import SessionVault.Session.Record
import SessionVault.Session.Shape
import SessionVault.Table
import SessionVault.Tampering
import SessionVault.Text.Natural
import SessionVault.Text.Quoted
import SessionVault.Time.Calendar
import SessionVault.Time.Instant
import SessionVault.Time.Rfc3339
import SessionVault.Unicode.Composition
import SessionVault.Unicode.Direction
import SessionVault.Unicode.Folding
import SessionVault.Unicode.FoldingTable
import SessionVault.Unicode.Joining
import SessionVault.Unicode.Mark
import SessionVault.Unicode.Ranges
import SessionVault.Url.Address
import SessionVault.Url.Basic
import SessionVault.Url.Domain
import SessionVault.Url.Host
import SessionVault.Url.Label
import SessionVault.Url.Percent
import SessionVault.Url.Punycode
import SessionVault.Url.Query
import SessionVault.Url.Reader
import SessionVault.Vault
