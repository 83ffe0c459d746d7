import SessionVault.Redis.Answer
import SessionVault.Redis.Command
import SessionVault.Redis.Fault

/-!
# Exchanges: conversations with a server as data

An exchange sends commands and goes on with their answers, or is over.  Who answers is left open: a peer is
any rule for what comes back, an answer for each command, silence or the end of the connection
(`Exchange.run`).

* `Exchange.ask` — one command;
* `Exchange.script` — runs a script by its digest, and makes it known where the server does not know it;
* `Exchange.transaction` — commands that are sent together and run in one step.
-/

namespace SessionVault.Redis

/-! ### Peers -/

/-- What comes back for commands. -/
inductive Arrival where
  /-- An answer for each command. -/
  | answers (as : List Answer)
  /-- Nothing before time is up. -/
  | silence
  /-- The connection ends. -/
  | hangup

/-- The other end of a connection, with a state of its own. -/
abbrev Peer (σ : Type) := List Command → σ → Arrival × σ

/-! ### Exchanges -/

/-- A conversation with a server. -/
inductive Exchange (α : Type) where
  | done (a : α)
  | fail (f : ClientFault)
  | send (commands : List Command) (next : List Answer → Exchange α)

namespace Exchange

variable {σ α β : Type}

def bind : Exchange α → (α → Exchange β) → Exchange β
  | done a, f => f a
  | fail e, _ => fail e
  | send cs next, f => send cs fun as => bind (next as) f

instance : Monad Exchange where
  pure := done
  bind := bind

def ofExcept : Except ClientFault α → Exchange α
  | .ok a => done a
  | .error f => fail f

def hungUp : ClientFault := .connection .unexpectedEnd "unexpected end of file"

/-- What an exchange with a peer gives. -/
def run (peer : Peer σ) : Exchange α → σ → Except Fault α × σ
  | done a, s => (.ok a, s)
  | fail f, s => (.error (.client f), s)
  | send cs next, s =>
    match peer cs s with
    | (.answers as, s) => run peer (next as) s
    | (.silence, s) => (.error .timeout, s)
    | (.hangup, s) => (.error (.client hungUp), s)

/-! ### One command -/

def ask (c : Command) (meaning : Answer → Except ClientFault α) : Exchange α :=
  send [c] fun
    | a :: _ => ofExcept (meaning a)
    | [] => fail hungUp

/-! ### Scripts -/

/-- Whether an answer says that a script is not known. -/
def isUnknownScript : Answer → Bool
  | .error code _ => code == ServerTrouble.noScript.code
  | _ => false

/-- Runs a script, whose answer has a meaning.  A script that is not known is made known and run again. -/
def script (s : Script) (keys arguments : List String) (meaning : Answer → Except ClientFault α) : Exchange α :=
  let run := Command.runScript s keys arguments
  send [run] fun
    | a :: _ =>
      if isUnknownScript a then do
        ask (Command.loadScript s) Answer.accepted
        ask run meaning
      else ofExcept (meaning a)
    | [] => fail hungUp

/-! ### Transactions -/

/-- What the answers of a transaction mean: those to its start and to its commands in `queued`, and the one to
its end.  The first error counts.  A refusal to run it is an error of the server where a command was refused
before, and else an answer that cannot be read. -/
def outcome (queued : List Answer) (commit : Answer) : Except ClientFault Unit :=
  match Answer.firstFaultOf? queued, commit with
  | refused, .error code detail =>
    if code = ServerTrouble.execAbort.code then
      .error (if refused.isSome then Answer.fault code detail
        else Answer.unexpected "Invalid response when parsing multi response")
    else .error (refused.getD (Answer.fault code detail))
  | some f, _ => .error f
  | none, .nothing => .ok ()
  | none, .list items => (Answer.list items).accepted
  | none, _ => .error (Answer.unexpected "Invalid response when parsing multi response")

/-- Sends commands together, to be run in one step. -/
def transaction (commands : List Command) : Exchange Unit :=
  send (Command.start :: commands ++ [Command.commit]) fun as =>
    match as.getLast? with
    | some commit => ofExcept (outcome as.dropLast commit)
    | none => fail hungUp

end Exchange

end SessionVault.Redis
