import SessionVault.Redis.Exchange

/-!
# Services: commands one after the other

A service answers a command in a state, and is in another state behind it.  There are two ways to run commands on one:
each for itself, as they come over a connection or in a transaction (`Service.all`), or up to the first that fails, as a
script does (`Service.calls`).
-/

namespace SessionVault.Redis

/-- The answer to a command, and the state behind it. -/
abbrev Service (σ : Type) := Command → σ → Answer × σ

namespace Service

variable {σ : Type}

/-- Runs commands, each for itself. -/
def all (serve : Service σ) : List Command → σ → List Answer × σ
  | [], s => ([], s)
  | c :: cs, s =>
    let (a, s) := serve c s
    let (as, s) := all serve cs s
    (a :: as, s)

/-- Runs commands up to the first that fails; its error, if there is one. -/
def calls (serve : Service σ) : List Command → σ → Option Answer × σ
  | [], s => (none, s)
  | c :: cs, s =>
    match serve c s with
    | (.error code detail, s) => (some (.error code detail), s)
    | (_, s) => calls serve cs s

def runScript (serve : Service σ) (script : Script) (keys arguments : List String) (s : σ) : Answer × σ :=
  match serve.calls (script.commands keys arguments) s with
  | (some e, s) => (e, s)
  | (none, s) => (.number script.result, s)

/-- A service as a peer that always answers in time. -/
def peer (serve : Service σ) : Peer σ := fun cs s =>
  let (as, s) := serve.all cs s
  (.answers as, s)

end Service

end SessionVault.Redis
