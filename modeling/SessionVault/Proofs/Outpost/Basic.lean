import SessionVault.Proofs.Hall.Basic

/-!
# Outposts: vaults in front of a store that belongs to somebody else

An outpost keeps its sessions in a store that it does not trust.  The store answers by any function, and its owner may
put it into any state at any moment.  Jobs take turns, one step each: a job makes a session, or looks for one, or it is
a call on a session that clients hold.  Calls on one session are made one at a time.  What was said to the store and
what it answered is written down.

* `Outpost.turn`, `Outpost.run` — a turn, and a list of them;
* `Vault.Seals` — a request that writes a sealed record under its own key;
* `Outpost.turn_cases` — a turn is a step of one job, or it leaves the transcript and all jobs;
* `Outpost.turn_transcript` — what a turn makes of the store, if its owner leaves it alone.
-/

namespace SessionVault

/-! ### Transcripts -/

/-- The job that speaks to the store: one with a number that looks for a session, or that is a call on one. -/
inductive Caller where
  | finder (i : Nat) (name id : String)
  | keeper (i n : Nat)

/-- A request, and what it was answered. -/
structure Exchange where
  caller : Caller
  instant : Instant
  request : Request
  reply : Reply

/-- A store and what was said to it, the latest first. -/
structure Transcript (σ : Type) where
  store : σ
  exchanges : List Exchange := []

/-- How a transcript answers a caller. -/
def Transcript.answers {σ : Type} (answers : Answers σ) (caller : Caller) : Answers (Transcript σ) := fun t now r =>
  ((answers t.store now r).1, ⟨(answers t.store now r).2, ⟨caller, now, r, (answers t.store now r).1⟩ :: t.exchanges⟩)

/-- A request writes a record, sealed as a text, under the key of its own name and identifier. -/
inductive Vault.Seals (v : Vault) (r : Record) : String → Request → Prop where
  | put {nonce : Bytes} (h : nonce.length = v.envelope.cipher.algorithm.nonceSize) (ttl : Duration) :
    Seals v r (v.wrap nonce r) (.put (v.key r.name r.id) (v.wrap nonce r) ttl)
  | replace {nonce : Bytes} (h : nonce.length = v.envelope.cipher.algorithm.nonceSize) (old : String) (ttl : Duration) :
    Seals v r (v.wrap nonce r) (.replace old (v.key r.name r.id) (v.wrap nonce r) ttl)

/-! ### Outposts -/

/-- A job, with what is left of its program. -/
inductive Job where
  /-- Looks for the session under a name and an identifier; `anew` says whether it may make a new one. -/
  | search (anew : Bool) (name id : String) (rest : Program Session)
  /-- A call on the session with a number. -/
  | upkeep (n : Nat) (c : Lifecycle) (rest : Program Unit)

/-- Whether a call on the session with a number is not over. -/
def Job.holds (n : Nat) : Job → Bool
  | .search _ _ _ _ => false
  | .upkeep m _ rest => m == n && !rest.isOver

/-- The sessions that clients hold, the store, and the jobs, the first ones first. -/
structure Outpost (σ : Type) where
  clock : Instant
  entropy : Entropy
  transcript : Transcript σ
  sessions : Array Session
  jobs : List Job

inductive Turn (σ : Type) where
  | tick (d : Duration)
  | change (n : Nat) (c : Change)
  | create (name : String) (ttl : Option Duration)
  | load (name id : String)
  | resolve (incoming : Option String) (name : String)
  /-- A client takes the session that a job has made or found. -/
  | take (i : Nat)
  | call (n : Nat) (c : Lifecycle)
  /-- The job with a number takes a step. -/
  | step (i : Nat)
  /-- The owner of the store puts it into a state. -/
  | seize (store : σ)

variable {σ : Type}

namespace Outpost

/-- An outpost before its first job. -/
def start (clock : Instant) (entropy : Entropy) (store : σ) (sessions : Array Session) : Outpost σ :=
  ⟨clock, entropy, ⟨store, []⟩, sessions, []⟩

def exchanges (o : Outpost σ) : List Exchange := o.transcript.exchanges

/-- What a job takes a step in. -/
def world (o : Outpost σ) (s : Option Session) : World (Transcript σ) := ⟨o.clock, o.entropy, o.transcript, s⟩

/-- Whether a call on the session with a number is under way. -/
def isBusy (o : Outpost σ) (n : Nat) : Bool := o.jobs.any (·.holds n)

def begin (o : Outpost σ) (job : Job) : Outpost σ := { o with jobs := o.jobs ++ [job] }

def stepSearch (answers : Answers σ) (o : Outpost σ) (i : Nat) (anew : Bool) (name id : String)
    (rest : Program Session) : Outpost σ :=
  let out := rest.step (Transcript.answers answers (.finder i name id)) (o.world none)
  { o with entropy := out.2.entropy, transcript := out.2.store, jobs := o.jobs.set i (.search anew name id out.1) }

def stepUpkeep (answers : Answers σ) (o : Outpost σ) (i n : Nat) (c : Lifecycle) (rest : Program Unit) : Outpost σ :=
  let out := rest.step (Transcript.answers answers (.keeper i n)) (o.world o.sessions[n]?)
  { o with
    entropy := out.2.entropy
    transcript := out.2.store
    sessions := o.sessions.modify n fun s => out.2.session.getD s
    jobs := o.jobs.set i (.upkeep n c out.1) }

/-- A turn.  A call on a session does not begin while another one is under way. -/
def turn (v : Vault) (answers : Answers σ) (o : Outpost σ) : Turn σ → Outpost σ
  | .tick d => { o with clock := o.clock.add d }
  | .change n c => { o with sessions := o.sessions.modify n fun s => s.changed o.clock c }
  | .create name ttl => o.begin (.search true name "" (v.create name ttl))
  | .load name id => o.begin (.search false name id (v.load name id))
  | .resolve incoming name => o.begin (.search true name (incoming.getD "") (v.resolve incoming name))
  | .take i =>
    match o.jobs[i]? with
    | some (.search _ _ _ (.done s)) => { o with sessions := o.sessions.push s }
    | _ => o
  | .call n c => if o.isBusy n then o else o.begin (.upkeep n c (v.lifecycle c))
  | .step i =>
    match o.jobs[i]? with
    | none => o
    | some (.search anew name id rest) => o.stepSearch answers i anew name id rest
    | some (.upkeep n c rest) => o.stepUpkeep answers i n c rest
  | .seize store => { o with transcript := { o.transcript with store := store } }

def begun (v : Vault) (o : Outpost σ) : Turn σ → Option Job
  | .create name ttl => some (.search true name "" (v.create name ttl))
  | .load name id => some (.search false name id (v.load name id))
  | .resolve incoming name => some (.search true name (incoming.getD "") (v.resolve incoming name))
  | .call n c => if o.isBusy n then none else some (.upkeep n c (v.lifecycle c))
  | _ => none

def run (v : Vault) (answers : Answers σ) (o : Outpost σ) (turns : List (Turn σ)) : Outpost σ :=
  turns.foldl (turn v answers) o

theorem run_cons (v : Vault) (answers : Answers σ) (o : Outpost σ) (t : Turn σ) (turns : List (Turn σ)) :
    o.run v answers (t :: turns) = (o.turn v answers t).run v answers turns := rfl

theorem run_append (v : Vault) (answers : Answers σ) (o : Outpost σ) (before after : List (Turn σ)) :
    o.run v answers (before ++ after) = (o.run v answers before).run v answers after := List.foldl_append ..

/-! ### Steps -/

/-- A step says one thing to the store at most, and writes down what it said. -/
theorem exchanges_step {α : Type} (answers : Answers σ) (p : Program α) (caller : Caller) (w : World (Transcript σ)) :
    (p.step (Transcript.answers answers caller) w).2.store = w.store ∨
      ∃ r next, p = .ask r next ∧ (p.step (Transcript.answers answers caller) w).2.store.exchanges =
        ⟨caller, w.clock, r, (answers w.store.store w.clock r).1⟩ :: w.store.exchanges := by
  rcases Program.store_step (Transcript.answers answers caller) p w with hstore | ⟨r, next, hp, hstore⟩
  · exact Or.inl hstore
  · exact Or.inr ⟨r, next, hp, congrArg Transcript.exchanges hstore⟩

/-- What was said before a step stays written down. -/
theorem subset_step {α : Type} (answers : Answers σ) (p : Program α) (caller : Caller) (w : World (Transcript σ)) :
    w.store.exchanges ⊆ (p.step (Transcript.answers answers caller) w).2.store.exchanges := by
  intro e he
  rcases exchanges_step answers p caller w with hstore | ⟨r, next, -, hexchanges⟩
  · rw [hstore]
    exact he
  · rw [hexchanges]
    exact List.mem_cons_of_mem _ he

/-- A turn is a step of a search, or a step of a call on a session, or it leaves all jobs as they are, but for one that
it may begin.  Only a step says anything to the store. -/
theorem turn_cases (o : Outpost σ) (v : Vault) (answers : Answers σ) (t : Turn σ) :
    (∃ i anew name id rest, t = .step i ∧ o.jobs[i]? = some (.search anew name id rest) ∧
        o.turn v answers t = o.stepSearch answers i anew name id rest) ∨
      (∃ i n c rest, t = .step i ∧ o.jobs[i]? = some (.upkeep n c rest) ∧
        o.turn v answers t = o.stepUpkeep answers i n c rest) ∨
      (∀ i, t = .step i → o.jobs[i]? = none) ∧ (o.turn v answers t).exchanges = o.exchanges ∧
        (o.turn v answers t).jobs = o.jobs ++ (o.begun v t).toList := by
  have hstay : o.jobs = o.jobs ++ [] := (List.append_nil _).symm
  cases t with
  | tick d => exact Or.inr (Or.inr ⟨by simp, rfl, hstay⟩)
  | change n c => exact Or.inr (Or.inr ⟨by simp, rfl, hstay⟩)
  | create name ttl => exact Or.inr (Or.inr ⟨by simp, rfl, rfl⟩)
  | load name id => exact Or.inr (Or.inr ⟨by simp, rfl, rfl⟩)
  | resolve incoming name => exact Or.inr (Or.inr ⟨by simp, rfl, rfl⟩)
  | take i =>
    refine Or.inr (Or.inr ⟨by simp, ?_, ?_⟩)
    · rw [turn]
      split <;> rfl
    · rw [turn]
      split <;> exact hstay
  | call n c =>
    refine Or.inr (Or.inr ⟨by simp, ?_, ?_⟩)
    · rw [turn]
      split <;> rfl
    · rw [turn, begun]
      split
      · exact hstay
      · rfl
  | step i =>
    cases hi : o.jobs[i]? with
    | none =>
      have hturn : o.turn v answers (.step i) = o := by rw [turn, hi]
      refine Or.inr (Or.inr ⟨?_, by rw [hturn], by rw [hturn]; exact hstay⟩)
      rintro j ⟨rfl⟩
      exact hi
    | some job =>
      cases job with
      | search anew name id rest => exact Or.inl ⟨i, anew, name, id, rest, rfl, hi, by rw [turn, hi]⟩
      | upkeep n c rest => exact Or.inr (Or.inl ⟨i, n, c, rest, rfl, hi, by rw [turn, hi]⟩)
  | seize store => exact Or.inr (Or.inr ⟨by simp, rfl, hstay⟩)

/-- A turn of anybody but the owner of the store leaves the store, or asks it for one thing and writes that down. -/
theorem turn_transcript {t : Turn σ} (ht : ∀ store, t ≠ .seize store) (o : Outpost σ) (v : Vault)
    (answers : Answers σ) :
    (o.turn v answers t).transcript = o.transcript ∨
      ∃ caller r, (o.turn v answers t).transcript = (Transcript.answers answers caller o.transcript o.clock r).2 := by
  cases t with
  | take i =>
    rw [turn]
    split <;> exact Or.inl rfl
  | call n c =>
    rw [turn]
    split <;> exact Or.inl rfl
  | step i =>
    rw [turn]
    split
    · exact Or.inl rfl
    · rename_i name id rest _
      rcases Program.store_step (Transcript.answers answers (.finder i name id)) rest (o.world none) with
        hstore | ⟨r, next, -, hstore⟩
      · exact Or.inl hstore
      · exact Or.inr ⟨_, r, hstore⟩
    · rename_i n c rest _
      rcases Program.store_step (Transcript.answers answers (.keeper i n)) rest (o.world o.sessions[n]?) with
        hstore | ⟨r, next, -, hstore⟩
      · exact Or.inl hstore
      · exact Or.inr ⟨_, r, hstore⟩
  | seize store => exact absurd rfl (ht store)
  | _ => exact Or.inl rfl

theorem subset_turn (o : Outpost σ) (v : Vault) (answers : Answers σ) (t : Turn σ) :
    o.exchanges ⊆ (o.turn v answers t).exchanges := by
  rcases o.turn_cases v answers t with ⟨i, anew, name, id, rest, -, -, hturn⟩ | ⟨i, n, c, rest, -, -, hturn⟩ |
      ⟨-, hes, -⟩
  · rw [hturn]
    exact subset_step answers rest (.finder i name id) (o.world none)
  · rw [hturn]
    exact subset_step answers rest (.keeper i n) (o.world o.sessions[n]?)
  · rw [hes]
    exact List.Subset.refl _

end Outpost

end SessionVault
