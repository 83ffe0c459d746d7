import SessionVault.Proofs.Roster.Refinement

/-!
# Halls: calls that take turns

In a hall any number of calls are under way at once.  A move lets one of them take its first step, and between any
two steps time may pass, sessions may change, and strangers may ask the store for anything.  Calls on one session
are made one at a time; a search for a session waits for nobody.  The requests are written down.

* `Hall.move`, `Hall.run` — a move, and a list of them;
* `left` — what a list of requests leaves under a key;
* `Recorded` — a key shows what the requests have left under it, as far as that is not past its expiry;
* `Sound` — so it is in a hall, behind every run (`sound_run`).
-/

namespace SessionVault

/-! ### Journals -/

/-- Who makes a request. -/
inductive Actor where
  /-- A call on the session with a number. -/
  | keeper (n : Nat)
  /-- A search, which is the call with a number. -/
  | finder (i : Nat)
  | stranger
deriving DecidableEq

/-- A request that was made. -/
structure Event where
  actor : Actor
  instant : Instant
  request : Request

/-- A keyspace and the requests that were made of it, the latest first. -/
structure Journal where
  keyspace : Keyspace
  events : List Event := []

def Journal.answers (actor : Actor) : Answers Journal := fun j now r =>
  ((j.keyspace.answer now r).1, ⟨(j.keyspace.answer now r).2.1, ⟨actor, now, r⟩ :: j.events⟩)

/-- What a list of events leaves under a key, if one of them touches it. -/
def left : List Event → String → Option (Option Entry)
  | [], _ => none
  | e :: es, key =>
    match e.request.leaves e.instant key with
    | some entry => some entry
    | none => left es key

/-! ### Halls -/

def Program.isOver {α : Type} : Program α → Bool
  | .done _ | .fail _ => true
  | _ => false

/-- A call under way, with what is left of its program. -/
inductive Call where
  | find (name id : String) (rest : Program Session)
  | keep (n : Nat) (rest : Program Unit)

/-- Whether a call on the session with a number is not over. -/
def Call.holds (n : Nat) : Call → Bool
  | .find _ _ _ => false
  | .keep m rest => m == n && !rest.isOver

/-- Sessions, the store behind them and the calls under way, the first ones first. -/
structure Hall where
  clock : Instant
  entropy : Entropy
  journal : Journal
  sessions : Array Session
  calls : List Call

/-- What happens in a hall. -/
inductive Move where
  | tick (d : Duration)
  | change (n : Nat) (c : Change)
  /-- Somebody comes with a session. -/
  | join (s : Session)
  /-- Somebody else makes a request. -/
  | ask (r : Request)
  | find (name id : String)
  | call (n : Nat) (c : Lifecycle)
  /-- The call with a number takes a step. -/
  | step (i : Nat)

namespace Hall

/-- What a call takes a step in. -/
def world (h : Hall) (s : Option Session) : World Journal := ⟨h.clock, h.entropy, h.journal, s⟩

/-- Whether a call on the session with a number is under way. -/
def isBusy (h : Hall) (n : Nat) : Bool := h.calls.any (·.holds n)

def stepFind (h : Hall) (i : Nat) (name id : String) (rest : Program Session) : Hall :=
  let out := rest.step (Journal.answers (.finder i)) (h.world none)
  { h with entropy := out.2.entropy, journal := out.2.store, calls := h.calls.set i (.find name id out.1) }

def stepKeep (h : Hall) (i n : Nat) (rest : Program Unit) : Hall :=
  let out := rest.step (Journal.answers (.keeper n)) (h.world h.sessions[n]?)
  { h with
    entropy := out.2.entropy
    journal := out.2.store
    sessions := h.sessions.modify n fun s => out.2.session.getD s
    calls := h.calls.set i (.keep n out.1) }

/-- A move.  A call on a session does not begin while another one is under way. -/
def move (v : Vault) (h : Hall) : Move → Hall
  | .tick d => { h with clock := h.clock.add d }
  | .change n c => { h with sessions := h.sessions.modify n fun s => s.changed h.clock c }
  | .join s => { h with sessions := h.sessions.push s }
  | .ask r => { h with journal := (Journal.answers .stranger h.journal h.clock r).2 }
  | .find name id => { h with calls := h.calls ++ [.find name id (v.load name id)] }
  | .call n c => if h.isBusy n then h else { h with calls := h.calls ++ [.keep n (v.lifecycle c)] }
  | .step i =>
    match h.calls[i]? with
    | none => h
    | some (.find name id rest) => h.stepFind i name id rest
    | some (.keep n rest) => h.stepKeep i n rest

def run (v : Vault) (h : Hall) (moves : List Move) : Hall := moves.foldl (move v) h

end Hall

/-- The hall of a bench, before any call is under way. -/
def Bench.hall (b : Bench) : Hall := ⟨b.clock, b.entropy, ⟨b.keyspace, []⟩, b.sessions, []⟩

/-- What a bench shows under a key at the start of a hall. -/
def Bench.base (b : Bench) (key : String) : Option Entry := b.keyspace.shown key b.clock

/-! ### What is left -/

theorem left_cons_of_leaves {e : Event} {key : String} {entry : Option Entry}
    (h : e.request.leaves e.instant key = some entry) (es : List Event) : left (e :: es) key = some entry := by
  rw [left, h]

theorem left_append (es es' : List Event) (key : String) :
    left (es ++ es') key = match left es key with
      | some entry => some entry
      | none => left es' key := by
  induction es with
  | nil => rfl
  | cons e es ih =>
    rw [List.cons_append, left, left, ih]
    cases e.request.leaves e.instant key <;> rfl

theorem left_eq_none {es : List Event} {key : String}
    (h : ∀ e ∈ es, e.request.leaves e.instant key = none) : left es key = none := by
  induction es with
  | nil => rfl
  | cons e es ih =>
    obtain ⟨he, hrest⟩ := List.forall_mem_cons.mp h
    rw [left, he]
    exact ih hrest

/-! ### Calls under way -/

/-- A call behind a new one is an old one or the new one. -/
theorem getElem?_concat_iff {α : Type} {calls : List α} {call c : α} {i : Nat} :
    (calls ++ [c])[i]? = some call ↔ calls[i]? = some call ∨ i = calls.length ∧ c = call := by
  rcases Nat.lt_or_ge i calls.length with hi | hi
  · rw [List.getElem?_append_left hi]
    constructor
    · exact Or.inl
    · rintro (hold | ⟨heq, -⟩)
      · exact hold
      · exact absurd heq (Nat.ne_of_lt hi)
  · rw [List.getElem?_append_right hi, List.getElem?_eq_none hi]
    constructor
    · intro hget
      have hlt := (List.getElem?_eq_some_iff.mp hget).1
      rw [List.length_singleton] at hlt
      exact Or.inr ⟨by omega, (List.mem_singleton.mp (List.mem_of_getElem? hget)).symm⟩
    · rintro (hnone | ⟨rfl, rfl⟩)
      · cases hnone
      · rw [Nat.sub_self]
        rfl

/-- A call behind a step is the one that took it, or what it was before. -/
theorem getElem?_set_iff {α : Type} {calls : List α} {old call c : α} {i j : Nat} (hi : calls[i]? = some old) :
    (calls.set i c)[j]? = some call ↔ j = i ∧ c = call ∨ j ≠ i ∧ calls[j]? = some call := by
  by_cases hj : j = i
  · rw [hj, List.getElem?_set_self (List.getElem?_eq_some_iff.mp hi).1]
    constructor
    · intro hnew
      exact Or.inl ⟨rfl, Option.some.inj hnew⟩
    · rintro (⟨-, rfl⟩ | ⟨hne, -⟩)
      · rfl
      · exact absurd rfl hne
  · rw [List.getElem?_set_ne (Ne.symm hj)]
    constructor
    · intro hold
      exact Or.inr ⟨hj, hold⟩
    · rintro (⟨heq, -⟩ | ⟨-, hold⟩)
      · exact absurd heq hj
      · exact hold

/-! ### Soundness -/

/-- A key of a keyspace shows what events have left under it, or what it showed before them, as far as that is not past
its expiry. -/
structure Recorded (base : String → Option Entry) (now : Instant) (k : Keyspace) (es : List Event) : Prop where
  plain : now.Plain
  ascending : k.Ascending
  shown : ∀ key, k.shown key now = ((left es key).getD (base key)).filter fun e => e.isLive now

section Recorded

variable {base : String → Option Entry} {now : Instant} {k : Keyspace} {es : List Event}

/-- Before the first event a key shows what it shows. -/
theorem recorded_start (hplain : now.Plain) (hk : k.Ascending) : Recorded (fun key => k.shown key now) now k [] := by
  refine ⟨hplain, hk, ?_⟩
  intro key
  show k.shown key now = (k.shown key now).filter _
  rw [Keyspace.shown, Option.filter_filter]
  congr 1
  funext e
  exact (Bool.and_self _).symm

theorem Recorded.answer (h : Recorded base now k es) (actor : Actor) (r : Request) :
    Recorded base now (k.answer now r).2.1 (⟨actor, now, r⟩ :: es) := by
  refine ⟨h.plain, Keyspace.ascending_answer h.ascending now r, ?_⟩
  intro key
  rw [Keyspace.shown_answer h.ascending, left, h.shown]
  cases r.leaves now key <;> rfl

theorem Recorded.tick (h : Recorded base now k es) (d : Duration) : Recorded base (now.add d) k es := by
  have hlater := Instant.not_before_add h.plain d
  refine ⟨Instant.plain_add h.plain d, h.ascending, ?_⟩
  intro key
  rw [Keyspace.shown_later hlater, h.shown, Option.filter_filter]
  congr 1
  funext e
  cases hlive : e.isLive (now.add d) with
  | false => exact Bool.and_false _
  | true =>
    rw [Entry.isLive] at hlive ⊢
    rw [Instant.before_of_not_before_of_before hlater hlive]
    rfl

end Recorded

/-- What is written down in a hall is what its keyspace shows. -/
abbrev Sound (base : String → Option Entry) (h : Hall) : Prop :=
  Recorded base h.clock h.journal.keyspace h.journal.events

variable {base : String → Option Entry} {h h' : Hall}

theorem Sound.of_eq (hs : Sound base h) (hclock : h'.clock = h.clock) (hjournal : h'.journal = h.journal) :
    Sound base h' := by
  rw [Sound, hclock, hjournal]
  exact hs

/-- A request that is written down keeps a hall sound. -/
theorem Sound.answer (hs : Sound base h) (hclock : h'.clock = h.clock) {actor : Actor} {r : Request}
    (hjournal : h'.journal = (Journal.answers actor h.journal h.clock r).2) : Sound base h' := by
  rw [Sound, hclock, hjournal]
  exact Recorded.answer hs actor r

theorem Sound.tick (hs : Sound base h) (d : Duration) : Sound base { h with clock := h.clock.add d } :=
  Recorded.tick hs d

/-- A move lets time pass, or makes one request, or leaves both the clock and the journal. -/
theorem Hall.move_shared (v : Vault) (h : Hall) (m : Move) :
    (∃ d, m = .tick d) ∨ (h.move v m).clock = h.clock ∧
      ((h.move v m).journal = h.journal ∨
        ∃ actor r, (∀ i, actor = .finder i → m = .step i) ∧
          (h.move v m).journal = (Journal.answers actor h.journal h.clock r).2) := by
  cases m with
  | tick d => exact Or.inl ⟨d, rfl⟩
  | change n c => exact Or.inr ⟨rfl, Or.inl rfl⟩
  | join s => exact Or.inr ⟨rfl, Or.inl rfl⟩
  | ask r => exact Or.inr ⟨rfl, Or.inr ⟨.stranger, r, fun i hi => (by cases hi), rfl⟩⟩
  | find name id => exact Or.inr ⟨rfl, Or.inl rfl⟩
  | call n c =>
    rw [move]
    split <;> exact Or.inr ⟨rfl, Or.inl rfl⟩
  | step i =>
    rw [move]
    split
    · exact Or.inr ⟨rfl, Or.inl rfl⟩
    · rename_i rest _
      refine Or.inr ⟨rfl, ?_⟩
      rcases Program.store_step (Journal.answers (.finder i)) rest (h.world none) with hstore | ⟨r, next, -, hstore⟩
      · exact Or.inl hstore
      · exact Or.inr ⟨_, r, fun j hj => (by cases hj; rfl), hstore⟩
    · rename_i n rest _
      refine Or.inr ⟨rfl, ?_⟩
      rcases Program.store_step (Journal.answers (.keeper n)) rest (h.world h.sessions[n]?) with
        hstore | ⟨r, next, -, hstore⟩
      · exact Or.inl hstore
      · exact Or.inr ⟨_, r, fun j hj => (by cases hj), hstore⟩

theorem Sound.move (hs : Sound base h) (v : Vault) (m : Move) : Sound base (h.move v m) := by
  rcases h.move_shared v m with ⟨d, rfl⟩ | ⟨hclock, hjournal | ⟨actor, r, -, hjournal⟩⟩
  · exact hs.tick d
  · exact hs.of_eq hclock hjournal
  · exact hs.answer hclock hjournal

theorem sound_run (hs : Sound base h) (v : Vault) (moves : List Move) : Sound base (h.run v moves) := by
  induction moves generalizing h with
  | nil => exact hs
  | cons m moves ih => exact ih (hs.move v m)

open Roster in
theorem sound_hall {v : Vault} {b : Bench} {a : Roster} (h : Agree v b a) : Sound b.base b.hall := by
  have hplain : b.clock.Plain := by
    rw [h.clock]
    exact h.plain
  exact recorded_start hplain h.ascending

end SessionVault
