import SessionVault.Keyspace
import SessionVault.Tampering
import SessionVault.Vault

/-!
# Benches: vaults at work, one step after the other

A bench runs the calls of a vault over a keyspace and shows what happens on the way: every request that is
made is listed, requests can be made to fail, and a gate can hold them back.  While the gate is closed a
request takes a permit or waits.

* `Bench.run` — runs a program until it ends or waits at the gate;
* `Bench.perform` — runs a call at once; one that has to wait is given up;
* `Bench.spawn`, `Bench.settle`, `Bench.cancel` — calls that may wait, and what becomes of them.

Calls on one session run one at a time, in the order they were started: a call does nothing before all earlier
ones on its session are over.
-/

namespace SessionVault

/-- What holds requests back. -/
inductive Gate where
  | opened
  /-- Lets so many requests pass. -/
  | closed (permits : Nat)

/-- How far a program has got: it has ended, or a request of it waits. -/
inductive Progress (α : Type) where
  | ended (result : Except Failure α)
  | waiting (r : Request) (next : Reply → Program α)

/-- What became of a call that could not wait. -/
inductive Outcome (α : Type) where
  | ended (result : Except Failure α)
  | givenUp

/-- A call that waits: in front of its session, or with a request in front of the gate. -/
inductive TaskState where
  | queued (p : Program Unit)
  | asking (r : Request) (next : Reply → Program Unit)

/-- A call that may wait. -/
structure Task where
  name : String
  /-- The session it is made on. -/
  session : Nat
  state : TaskState

structure Bench where
  vault : Vault
  clock : Instant
  entropy : Entropy
  keyspace : Keyspace := {}
  gate : Gate := .opened
  /-- What becomes of the next requests: a failure, or nothing special. -/
  faults : List (Option Failure) := []
  sessions : Array Session := #[]
  slots : Table Nat := []
  saved : Table String := []
  tasks : List Task := []
  /-- The requests made, the latest first. -/
  calls : List Request := []
  /-- The notes taken, the latest first. -/
  notes : List Note := []

def Request.line : Request → String
  | .get key => "get " ++ key
  | .put key text ttl => "set " ++ key ++ " len=" ++ toString text.utf8ByteSize ++ " ttl=" ++ ttl.text
  | .delete key => "delete " ++ key
  | .replace old new text ttl =>
    "replace " ++ old ++ " " ++ new ++ " len=" ++ toString text.utf8ByteSize ++ " ttl=" ++ ttl.text

namespace Bench

variable {α : Type}

/-! ### Time, notes and sessions -/

def tick (b : Bench) (d : Duration) : Bench := { b with clock := b.clock.add d }

/-- The bench with no request and no note shown. -/
def quiet (b : Bench) : Bench := { b with calls := [], notes := [] }

def take (b : Bench) (ns : List Note) : Bench := { b with notes := ns.reverse ++ b.notes }

def slot? (b : Bench) (slot : String) : Option Nat := b.slots.get? slot

def session? (b : Bench) (slot : String) : Option Session := do b.sessions[← b.slot? slot]?

/-- Puts a session of its own into a slot. -/
def place (b : Bench) (slot : String) (s : Session) : Bench :=
  { b with sessions := b.sessions.push s, slots := b.slots.insert slot b.sessions.size }

def modify (b : Bench) (n : Nat) (f : Session → Session) : Bench := { b with sessions := b.sessions.modify n f }

/-- Puts the session of a slot into another slot too. -/
def share (b : Bench) (slot other : String) : Bench :=
  match b.slot? slot with
  | some n => { b with slots := b.slots.insert other n }
  | none => b

/-- Remembers the identifier of the session in a slot. -/
def save (b : Bench) (slot name : String) : Bench :=
  match b.session? slot with
  | some s => { b with saved := b.saved.insert name s.id }
  | none => b

/-! ### Requests -/

/-- Appends to the failures to come: first some requests that pass, then some that fail. -/
def failNext (b : Bench) (f : Failure) (after times : Nat) : Bench :=
  { b with faults := b.faults ++ List.replicate after none ++ List.replicate times (some f) }

/-- The answer to a request that has passed the gate. -/
def answer (b : Bench) (r : Request) : Reply × Bench :=
  match b.faults with
  | some f :: rest => (.error f, { b with faults := rest })
  | faults =>
    let (reply, keyspace, ns) := b.keyspace.answer b.clock r
    (reply, { b with faults := faults.drop 1, keyspace := keyspace }.take ns)

/-- Passes the gate, if it is open or a permit is left. -/
def pass? (b : Bench) : Option Bench :=
  match b.gate with
  | .opened => some b
  | .closed 0 => none
  | .closed (n + 1) => some { b with gate := .closed n }

/-- Runs a program, made on the session with a number, until it ends or waits at the gate. -/
def run (n : Nat) : Program α → Bench → Progress α × Bench
  | .done a, b => (.ended (.ok a), b)
  | .fail f, b => (.ended (.error f), b)
  | .clock next, b => run n (next b.clock) b
  | .draw k next, b =>
    let (bs, entropy) := b.entropy.draw k
    run n (next bs) { b with entropy := entropy }
  | .note line next, b => run n next (b.take [line])
  | .snapshot next, b =>
    match b.sessions[n]? with
    | some s => run n (next s.record) b
    | none => (.ended (.error .notFound), b)
  | .assign id next, b => run n next (b.modify n (·.withId id))
  | .ask r next, b =>
    let b := { b with calls := r :: b.calls }
    match b.pass? with
    | none => (.waiting r next, b)
    | some b =>
      let (reply, b) := b.answer r
      run n (next reply) b

/-- Runs a call; one that has to wait is given up. -/
def perform (b : Bench) (n : Nat) (p : Program α) : Outcome α × Bench :=
  match run n p b with
  | (.ended result, b) => (.ended result, b)
  | (.waiting _ _, b) => (.givenUp, b)

def isBusy (b : Bench) (n : Nat) : Bool := b.tasks.any (·.session == n)

/-- Runs a call on a session, if no other call on it waits. -/
def performOn (b : Bench) (n : Nat) (p : Program α) : Outcome α × Bench :=
  if b.isBusy n then (.givenUp, b) else b.perform n p

/-! ### Tasks -/

/-- Starts a call on a session: its result, or none if it waits. -/
def spawn (b : Bench) (name : String) (n : Nat) (p : Program Unit) : Option (Except Failure Unit) × Bench :=
  if b.isBusy n then (none, { b with tasks := b.tasks ++ [⟨name, n, .queued p⟩] })
  else
    match run n p b with
    | (.ended result, b) => (some result, b)
    | (.waiting r next, b) => (none, { b with tasks := b.tasks ++ [⟨name, n, .asking r next⟩] })

/-- Lets a task go on as far as it can, if no task before it is made on its session. -/
def advance (b : Bench) (earlier : List Task) (t : Task) : Option (Progress Unit × Bench) :=
  if earlier.any (·.session == t.session) then none
  else
    match t.state with
    | .queued p => some (run t.session p b)
    | .asking r next =>
      b.pass?.map fun b =>
        let (reply, b) := b.answer r
        run t.session (next reply) b

/-- What a round of tasks leaves: the bench, the tasks that still wait and the results of those that ended, the
latest first in both lists, and whether any task moved. -/
structure Round where
  bench : Bench
  waiting : List Task
  ended : List (String × Except Failure Unit)
  moved : Bool

def Round.step (r : Round) (t : Task) : Round :=
  match r.bench.advance r.waiting t with
  | none => { r with waiting := t :: r.waiting }
  | some (.ended result, b) => ⟨b, r.waiting, (t.name, result) :: r.ended, true⟩
  | some (.waiting q next, b) => ⟨b, { t with state := .asking q next } :: r.waiting, r.ended, true⟩

/-- Lets every task go on, in the order they were started, in so many rounds or until none moves. -/
def rounds : Nat → Bench → List (String × Except Failure Unit) → List (String × Except Failure Unit) × Bench
  | 0, b, ended => (ended.reverse, b)
  | fuel + 1, b, ended =>
    let r := b.tasks.foldl Round.step ⟨b, [], ended, false⟩
    let b := { r.bench with tasks := r.waiting.reverse }
    if r.moved then rounds fuel b r.ended else (r.ended.reverse, b)

/-- Lets the tasks go on until none moves: the results of those that ended, in that order.  A task moves twice
at most, from the queue to the gate and past the gate. -/
def settle (b : Bench) : List (String × Except Failure Unit) × Bench := rounds (2 * b.tasks.length + 1) b []

def hold (b : Bench) : Bench := { b with gate := .closed 0 }

/-- Opens the gate, and lets the tasks go on. -/
def release (b : Bench) : List (String × Except Failure Unit) × Bench := { b with gate := .opened }.settle

/-- Sets the permits of a gate that is closed, and lets the tasks go on. -/
def permit (b : Bench) (n : Nat) : List (String × Except Failure Unit) × Bench :=
  match b.gate with
  | .opened => b.settle
  | .closed _ => { b with gate := .closed n }.settle

/-- Gives a task up, and lets the others go on. -/
def cancel (b : Bench) (name : String) : List (String × Except Failure Unit) × Bench :=
  { b with tasks := b.tasks.filter (·.name ≠ name) }.settle

/-! ### The store behind the gate -/

/-- Changes the text under a key as its owner could; whether there is one. -/
def tamper (b : Bench) (key : String) (e : Edit) : Bool × Bench :=
  match b.keyspace.raw? key with
  | none => (false, b)
  | some text =>
    let (found, keyspace) := b.keyspace.overwrite key (Edit.apply text e)
    (found, { b with keyspace := keyspace })

/-- Writes the entries `stem` with each number from `first` on, up to `last` without it. -/
def fill (k : Keyspace) (now : Instant) (stem text : String) (first last : Nat) (ttl : Duration) :
    Keyspace × List Note :=
  (List.range' first (last - first)).foldl
    (fun (k, ns) i =>
      let (_, k, more) := k.answer now (.put (stem ++ toString i) text ttl)
      (k, ns ++ more))
    (k, [])

end Bench

end SessionVault
