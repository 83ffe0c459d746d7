/-!
# Failures: what session operations and the store behind them can refuse

A failure is one cause with one wording (`Failure.message`).  Two classes decide what becomes of it: a failure
of content says that there is no usable session under an identifier (`Failure.isContent`), one of
infrastructure that the store could not be asked (`Failure.isInfrastructure`).

What the client of a remote server reports is a `ClientFault`: trouble on the connection, trouble inside the
client, or an error that the server answered with.
-/

namespace SessionVault

/-! ### Faults of the client of a server -/

/-- Trouble on a connection, as far as it is told apart. -/
inductive IoTrouble where
  | brokenPipe
  | connectionAborted
  | connectionRefused
  | connectionReset
  | notConnected
  | notFound
  | timedOut
  | unexpectedEnd
  | wouldBlock
  | other
deriving DecidableEq

/-- The errors of a server that have a meaning of their own. -/
inductive ServerTrouble where
  | response
  | execAbort
  | busyLoading
  | noScript
  | moved
  | ask
  | tryAgain
  | clusterDown
  | crossSlot
  | masterDown
  | readOnly
  | notBusy
  | noSub
  | noPerm
deriving DecidableEq

/-- The code a server sends in front of an error. -/
def ServerTrouble.code : ServerTrouble → String
  | response => "ERR"
  | execAbort => "EXECABORT"
  | busyLoading => "LOADING"
  | noScript => "NOSCRIPT"
  | moved => "MOVED"
  | ask => "ASK"
  | tryAgain => "TRYAGAIN"
  | clusterDown => "CLUSTERDOWN"
  | crossSlot => "CROSSSLOT"
  | masterDown => "MASTERDOWN"
  | readOnly => "READONLY"
  | notBusy => "NOTBUSY"
  | noSub => "NOSUB"
  | noPerm => "NOPERM"

def ServerTrouble.name : ServerTrouble → String
  | response => "ResponseError"
  | execAbort => "ExecAbort"
  | busyLoading => "BusyLoading"
  | noScript => "NoScript"
  | moved => "Moved"
  | ask => "Ask"
  | tryAgain => "TryAgain"
  | clusterDown => "ClusterDown"
  | crossSlot => "CrossSlot"
  | masterDown => "MasterDown"
  | readOnly => "ReadOnly"
  | notBusy => "NotBusy"
  | noSub => "NoSub"
  | noPerm => "NoPerm"

def ServerTrouble.all : List ServerTrouble :=
  [response, execAbort, busyLoading, noScript, moved, ask, tryAgain, clusterDown, crossSlot, masterDown,
    readOnly, notBusy, noSub, noPerm]

/-- The kinds of trouble a client of a server tells apart. -/
inductive ClientTrouble where
  | parse
  | authenticationFailed
  | unexpectedReturnType
  | invalidClientConfig
  | io
  | client
  | extension
  | clusterConnectionNotFound
  | masterNameNotFound
  | noValidReplicasFound
  | emptySentinelList
  | newerProtocolNotSupported
  | server (trouble : ServerTrouble)
deriving DecidableEq

def ClientTrouble.name : ClientTrouble → String
  | parse => "Parse"
  | authenticationFailed => "AuthenticationFailed"
  | unexpectedReturnType => "UnexpectedReturnType"
  | invalidClientConfig => "InvalidClientConfig"
  | io => "Io"
  | client => "Client"
  | extension => "Extension"
  | clusterConnectionNotFound => "ClusterConnectionNotFound"
  | masterNameNotFound => "MasterNameNotFoundBySentinel"
  | noValidReplicasFound => "NoValidReplicasFoundBySentinel"
  | emptySentinelList => "EmptySentinelList"
  | newerProtocolNotSupported => "RESP3NotSupported"
  | server t => "Server(" ++ t.name ++ ")"

def ClientTrouble.all : List ClientTrouble :=
  [parse, authenticationFailed, unexpectedReturnType, invalidClientConfig, io, client, extension,
    clusterConnectionNotFound, masterNameNotFound, noValidReplicasFound, emptySentinelList,
    newerProtocolNotSupported] ++ ServerTrouble.all.map server

/-- What the client of a server reports. -/
inductive ClientFault where
  /-- Trouble on the connection, with its text. -/
  | connection (trouble : IoTrouble) (text : String)
  /-- Trouble with a description and perhaps a detail. -/
  | reported (trouble : ClientTrouble) (description : String) (detail : Option String)
  /-- An error of the server without a meaning of its own: its code and perhaps a detail. -/
  | answered (code : String) (detail : Option String)
deriving DecidableEq

namespace ClientFault

/-- A detail behind a colon. -/
def withDetail (text : String) : Option String → String
  | none => text
  | some detail => text ++ ": " ++ detail

def message : ClientFault → String
  | connection _ text => text
  | reported trouble description detail => withDetail (description ++ " - " ++ trouble.name) detail
  | answered code detail => withDetail code detail

/-- The code of the error that a server answered with. -/
def code? : ClientFault → Option String
  | reported (.server trouble) _ _ => some trouble.code
  | answered code _ => some code
  | _ => none

/-- Whether time ran out on the connection. -/
def isTimeout : ClientFault → Bool
  | connection t _ => t = .timedOut ∨ t = .wouldBlock
  | _ => false

/-- Whether the connection is lost. -/
def isDropped : ClientFault → Bool
  | connection t _ =>
    [IoTrouble.brokenPipe, .connectionReset, .connectionRefused, .connectionAborted, .unexpectedEnd,
      .notConnected, .notFound].contains t
  | reported t _ _ => t = .io
  | _ => false

/-- Whether nobody listens at the other end. -/
def isRefused : ClientFault → Bool
  | connection t _ => t = .connectionRefused ∨ t = .notFound
  | _ => false

/-- Whether the fault is one of the connection. -/
def isIo : ClientFault → Bool
  | connection _ _ => true
  | reported t _ _ => t = .io
  | _ => false

end ClientFault

/-! ### Failures -/

/-- Why a session operation failed. -/
inductive Failure where
  /-- What the client of a remote server reports. -/
  | client (fault : ClientFault)
  /-- No entry under the key. -/
  | notFound
  /-- An entry past its expiry, or a session without a lifetime worth writing. -/
  | expired
  /-- A text that is no envelope, or one that belongs to another key. -/
  | invalidData
  | signatureInvalid
  /-- A sealed text that does not open. -/
  | encryptionFailed
  /-- An identifier that is not shaped like one that is issued. -/
  | invalidSessionId
  | serialization (text : String)
  /-- An opened text that does not decode. -/
  | deserialization (text : String)
  | config (text : String)
  | connection (text : String)
  | timeout
deriving DecidableEq

namespace Failure

def message : Failure → String
  | client fault => "Redis error: " ++ fault.message
  | notFound => "Session not found"
  | expired => "Session expired"
  | invalidData => "Invalid session data"
  | signatureInvalid => "Signature verification failed"
  | encryptionFailed => "Encryption/decryption failed"
  | invalidSessionId => "Invalid session ID"
  | serialization text => "Serialization error: " ++ text
  | deserialization text => "Deserialization error: " ++ text
  | config text => "Configuration error: " ++ text
  | connection text => "Connection error: " ++ text
  | timeout => "Operation timeout"

/-- Whether a failure says that there is no usable session under an identifier. -/
def isContent : Failure → Bool
  | notFound | expired | invalidData | signatureInvalid | encryptionFailed | invalidSessionId => true
  | deserialization _ => true
  | _ => false

/-- Whether a failure is one of the store or of the way to it. -/
def isInfrastructure : Failure → Bool
  | client _ | connection _ | timeout => true
  | _ => false

end Failure

/-! ### Misconfigurations -/

/-- Why a cipher, an envelope or a policy is refused. -/
inductive Misconfiguration where
  /-- A key of another length than the one the algorithm has. -/
  | keyLength (algorithm : String) (expected : Nat)
  /-- A key that fits no algorithm of its family. -/
  | gcmKeyLength (actual : Nat)
  | signingKeyLength (least : Nat)
  | zeroTtl
  | defaultBeyondMaximum
deriving DecidableEq

def Misconfiguration.message : Misconfiguration → String
  | keyLength algorithm expected => algorithm ++ " key must be " ++ toString expected ++ " bytes"
  | gcmKeyLength actual => "AES-GCM key must be 16 or 32 bytes, got " ++ toString actual
  | signingKeyLength least => "signing key must be at least " ++ toString least ++ " bytes"
  | zeroTtl => "session TTLs must be non-zero"
  | defaultBeyondMaximum => "default TTL exceeds maximum TTL"

def Misconfiguration.failure (m : Misconfiguration) : Failure := .config m.message

end SessionVault
