import SessionVault.Failure

/-!
# Faults of a Redis connection

Making a connection fails for a reason of its own or with what the client reports.  A fault says whether it is
worth another try and whether the connection is gone; nothing here tries again.  To a session it is the failure
of the same kind (`Fault.failure`).
-/

namespace SessionVault.Redis

/-- Why a connection could not be made. -/
inductive Fault where
  | connection (text : String)
  | config (text : String)
  | timeout
  /-- What the client reports. -/
  | client (fault : ClientFault)
deriving DecidableEq

namespace Fault

def message : Fault → String
  | connection text => "Connection error: " ++ text
  | config text => "Configuration error: " ++ text
  | timeout => "Operation timed out"
  | client fault => "Redis error: " ++ fault.message

/-- Whether another try could do better. -/
def isRetryable : Fault → Bool
  | connection _ | timeout => true
  | client fault => fault.isTimeout || fault.isDropped || fault.isIo
  | config _ => false

/-- Whether the connection is gone. -/
def isConnection : Fault → Bool
  | connection _ => true
  | client fault => fault.isDropped || fault.isRefused
  | _ => false

/-- The failure of a session that a fault means. -/
def failure : Fault → Failure
  | connection text => .connection text
  | config text => .config text
  | timeout => .timeout
  | client fault => .client fault

end Fault

end SessionVault.Redis
