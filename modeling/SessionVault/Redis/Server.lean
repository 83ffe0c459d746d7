import SessionVault.Keyspace
import SessionVault.Redis.Service

/-!
# Servers: what commands do to a keyspace

A server keeps texts that expire, the scripts it was told of, and the commands of a transaction that is not run
yet.  This is one way for a server to work, in as much of it as stores need:

* a lifetime has to be positive and has to fit 63 bits, or the command fails when it runs;
* a script runs in one step and ends with its first command that fails;
* the commands of a transaction run in one step as well, and one that fails does not stop those behind it.

What a command that failed would have done is not done, and nothing that was done before it is taken back.

Servers differ beyond that, and nothing else of them is here: no other commands and scripts, no limit to the memory, no
replicas, and no failures that are not the command's own.  It always answers, and in time.  What holds of all servers
that treat commands like this one does not mention it.
-/

namespace SessionVault.Redis

/-- A server: its entries, the scripts that it knows by their digests, and the commands of an open transaction,
the latest first. -/
structure Server where
  entries : Table Entry := []
  known : List Script := []
  queued : Option (List Command) := none

namespace Server

/-! ### Single commands -/

def okay : Answer := .status "OK"

/-- An error without a meaning of its own. -/
def refusal (detail : String) : Answer := .error ServerTrouble.response.code (some detail)

def lifetime? (millis : String) : Option Duration :=
  ((Natural.read? 63 millis).filter (0 < ·)).map .ofMillis

/-- Writes a text under a key, if the lifetime is one. -/
def write (now : Instant) (key text millis : String) (entries : Table Entry) : Answer × Table Entry :=
  match lifetime? millis with
  | some ttl => (okay, entries.insert key ⟨text, now.add ttl⟩)
  | none => (refusal "invalid expire time", entries)

def read (now : Instant) (key : String) (entries : Table Entry) : Answer :=
  match (entries.get? key).filter (·.isLive now) with
  | some e => .octets (Bytes.ofString e.text)
  | none => .nothing

/-- Deletes a key; the answer is the number of keys that were there. -/
def delete (now : Instant) (key : String) (entries : Table Entry) : Answer × Table Entry :=
  (.number (if ((entries.get? key).filter (·.isLive now)).isSome then 1 else 0), entries.erase key)

/-- Runs a command on texts under keys. -/
def single (now : Instant) : Service (Table Entry) := fun c entries =>
  match c with
  | ["GET", key] => (read now key entries, entries)
  | ["SET", key, text, "PX", millis] => write now key text millis entries
  | ["PSETEX", key, millis, text] => write now key text millis entries
  | ["DEL", key] => delete now key entries
  | ["PING"] => (.status "PONG", entries)
  | _ => (refusal "unknown command", entries)

/-! ### Connections -/

/-- The scripts that a server is able to read. -/
def readable : List Script := [Script.rotation]

/-- Runs a command outside a transaction. -/
def perform (now : Instant) (s : Server) (c : Command) : Answer × Server :=
  match c with
  | ["MULTI"] => (okay, { s with queued := some [] })
  | ["EXEC"] => (refusal "EXEC without MULTI", s)
  | ["SCRIPT", "LOAD", text] =>
    match readable.find? fun script => script.text == text with
    | some script => (.octets (Bytes.ofString script.digest), { s with known := script :: s.known })
    | none => (refusal "Error compiling script", s)
  | "EVALSHA" :: digest :: count :: words =>
    match s.known.find? fun script => script.digest == digest with
    | some script =>
      let n := (Natural.read? 63 count).getD 0
      let (a, entries) := (single now).runScript script (words.take n) (words.drop n) s.entries
      (a, { s with entries := entries })
    | none => (.error ServerTrouble.noScript.code (some "No matching script. Please use EVAL."), s)
  | c =>
    let (a, entries) := single now c s.entries
    (a, { s with entries := entries })

/-- Takes a command: in a transaction it is kept until the transaction ends. -/
def receive (now : Instant) (s : Server) (c : Command) : Answer × Server :=
  match s.queued with
  | none => s.perform now c
  | some cs =>
    if c = Command.commit then
      let (as, entries) := (single now).all cs.reverse s.entries
      (.list as, { s with entries := entries, queued := none })
    else (.status "QUEUED", { s with queued := some (c :: cs) })

def service (now : Instant) : Service Server := fun c s => s.receive now c

/-- A server as a peer that always answers in time. -/
def peer (now : Instant) : Peer Server := (service now).peer

/-! ### Writes -/

/-- A lifetime is taken if it is positive and fits 63 bits. -/
theorem lifetime?_toString (n : Nat) :
    lifetime? (toString n) = if 0 < n ∧ n < 0x8000000000000000 then some (.ofMillis n) else none := by
  rw [lifetime?, Natural.read?_toString, show Nat.pow 2 63 = 0x8000000000000000 from rfl]
  by_cases h : n < 0x8000000000000000
  · rw [if_pos h]
    by_cases h' : 0 < n
    · rw [if_pos ⟨h', h⟩, Option.filter_some_pos (by simpa using h'), Option.map_some]
    · rw [if_neg fun hn => h' hn.1, Option.filter_some_neg (by simpa using h'), Option.map_none]
  · rw [if_neg h, if_neg fun hn => h hn.2, Option.filter_none, Option.map_none]

/-- A write with a lifetime that is taken puts the text under the key. -/
theorem write_of_lt {now : Instant} {key text : String} {n : Nat} (entries : Table Entry)
    (h : 0 < n) (h' : n < 0x8000000000000000) :
    write now key text (toString n) entries = (okay, entries.insert key ⟨text, now.add (.ofMillis n)⟩) := by
  rw [write, lifetime?_toString, if_pos ⟨h, h'⟩]

/-- A write with any other lifetime changes nothing. -/
theorem write_of_not {now : Instant} {key text : String} {n : Nat} (entries : Table Entry)
    (h : ¬(0 < n ∧ n < 0x8000000000000000)) :
    write now key text (toString n) entries = (refusal "invalid expire time", entries) := by
  rw [write, lifetime?_toString, if_neg h]

end Server

end SessionVault.Redis
