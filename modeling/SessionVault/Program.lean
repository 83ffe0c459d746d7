import SessionVault.Failure
import SessionVault.Note
import SessionVault.Session.Record

/-!
# Programs: session calls as data

A call on sessions is a program: a tree of the single things it does, each with what follows once the answer
is known.  Nothing is said about who answers, so the same program runs at once over a store in memory, or is
stopped in front of a request, kept, and taken up again between the requests of others.

* `Request` — what is asked of a store; `Reply` — what it answers;
* `Program` — ends with a value or a failure, or goes on after one thing done;
* `Program.attempt` — a program whose failure is a value;
* `Program.call` — asks the store, and fails when the store does.
-/

namespace SessionVault

/-! ### Requests -/

/-- What is asked of a store of texts under keys. -/
inductive Request where
  | get (key : String)
  /-- Writes a text that expires after a time. -/
  | put (key text : String) (ttl : Duration)
  | delete (key : String)
  /-- Writes a text under a new key and takes the old key out, in one step. -/
  | replace (old new text : String) (ttl : Duration)
deriving DecidableEq

/-- The answer of a store: the text of a `get`, nothing otherwise, or a failure. -/
abbrev Reply := Except Failure (Option String)

/-! ### Programs -/

/-- A call on sessions. -/
inductive Program (α : Type) where
  | done (a : α)
  | fail (f : Failure)
  /-- Asks the store. -/
  | ask (r : Request) (next : Reply → Program α)
  /-- Reads the clock. -/
  | clock (next : Instant → Program α)
  /-- Draws random octets. -/
  | draw (n : Nat) (next : Bytes → Program α)
  /-- Writes a line of the log. -/
  | note (line : Note) (next : Program α)
  /-- Reads the record of the session that the call is made on. -/
  | snapshot (next : Record → Program α)
  /-- Gives that session another identifier. -/
  | assign (id : String) (next : Program α)

namespace Program

variable {α β : Type}

def bind : Program α → (α → Program β) → Program β
  | done a, f => f a
  | fail e, _ => fail e
  | ask r next, f => ask r fun x => bind (next x) f
  | clock next, f => clock fun t => bind (next t) f
  | draw n next, f => draw n fun bs => bind (next bs) f
  | note line next, f => note line (bind next f)
  | snapshot next, f => snapshot fun r => bind (next r) f
  | assign id next, f => assign id (bind next f)

instance : Monad Program where
  pure := done
  bind := bind

/-- A program whose failure is a value. -/
def attempt : Program α → Program (Except Failure α)
  | done a => done (.ok a)
  | fail e => done (.error e)
  | ask r next => ask r fun x => attempt (next x)
  | clock next => clock fun t => attempt (next t)
  | draw n next => draw n fun bs => attempt (next bs)
  | note line next => note line (attempt next)
  | snapshot next => snapshot fun r => attempt (next r)
  | assign id next => assign id (attempt next)

/-- What a computation without effects gives. -/
def ofExcept : Except Failure α → Program α
  | .ok a => done a
  | .error e => fail e

/-! ### Single things -/

/-- Asks the store, and fails when the store does. -/
def call (r : Request) : Program (Option String) := ask r ofExcept

def now : Program Instant := clock done

def random (n : Nat) : Program Bytes := draw n done

def log (line : Note) : Program Unit := note line (done ())

def record : Program Record := snapshot done

/-- Another identifier for the session. -/
def rename (id : String) : Program Unit := assign id (done ())

end Program

end SessionVault
