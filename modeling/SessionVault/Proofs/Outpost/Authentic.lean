import SessionVault.Proofs.Outpost.Basic

/-!
# Sessions that were written where they are found

The owner of the store may show a search anything.  If nobody else can make a text that opens, then a search finds a
session only where the session was written: its text was sealed before, by a call on a session of the same name and
with the same identifier, and the record in it is not past its expiry.  The record that is found is what its text says,
and that is the sealed record exactly if this record is settled.

* `Unforged` — every text that opened for a search was sealed before;
* `Seeks`, `Finds` — what is left of a search before and behind its request;
* `searched_run` — in every run every search is before its request, or has been answered;
* `found_was_sealed` — the law of a search;
* `drifted_not_sealed` — a run that finds a record that nobody has sealed, for a real that its text does not say.
-/

namespace SessionVault

open Program

/-! ### Texts that nobody has forged -/

/-- A call on a session seals a record as a text. -/
def Exchange.Seals (v : Vault) (e : Exchange) (r : Record) (text : String) : Prop :=
  (∃ i n, e.caller = .keeper i n) ∧ v.Seals r text e.request

/-- Every text that a search was shown and that opens under its name was sealed before for a session of this name. -/
def Unforged (v : Vault) : List Exchange → Prop
  | [] => True
  | e :: es =>
    (∀ i name id key text plain, e.caller = .finder i name id → e.request = .get key → e.reply = .ok (some text) →
      v.envelope.unwrap text (Vault.associated name) = .ok plain →
        ∃ e' ∈ es, ∃ r, e'.Seals v r text ∧ r.name = name) ∧ Unforged v es

theorem Unforged.sealed {v : Vault} {es : List Exchange} (h : Unforged v es) {e : Exchange} (he : e ∈ es) {i : Nat}
    {name id key text : String} {plain : Bytes} (hcaller : e.caller = .finder i name id) (hget : e.request = .get key)
    (hreply : e.reply = .ok (some text)) (hopen : v.envelope.unwrap text (Vault.associated name) = .ok plain) :
    ∃ e' ∈ es, ∃ r, e'.Seals v r text ∧ r.name = name := by
  induction es with
  | nil => cases he
  | cons x es ih =>
    rcases List.mem_cons.mp he with rfl | he
    · obtain ⟨e', he', hseals⟩ := h.1 i name id key text plain hcaller hget hreply hopen
      exact ⟨e', List.mem_cons_of_mem _ he', hseals⟩
    · obtain ⟨e', he', hseals⟩ := ih h.2 he
      exact ⟨e', List.mem_cons_of_mem _ he', hseals⟩

theorem Vault.Seals.eq_wrap {v : Vault} {r : Record} {text : String} {q : Request} (h : v.Seals r text q) :
    ∃ nonce : Bytes, nonce.length = v.envelope.cipher.algorithm.nonceSize ∧ text = v.wrap nonce r := by
  cases h with
  | put hn ttl => exact ⟨_, hn, rfl⟩
  | replace hn old ttl => exact ⟨_, hn, rfl⟩

/-- A text that is put is the one that it is sealed as. -/
theorem Vault.Seals.eq_text {v : Vault} {r : Record} {text key put : String} {ttl : Duration}
    (h : v.Seals r text (.put key put ttl)) : put = text := by
  generalize hq : Request.put key put ttl = q at h
  cases h with
  | put hn ttl' => exact (Request.put.inj hq).2.1
  | replace hn old ttl' => cases hq

/-- Records of one name that are sealed as one text are written alike. -/
theorem Vault.render_eq_of_wrap_eq (v : Vault) {nonce nonce' : Bytes}
    (hn : nonce.length = v.envelope.cipher.algorithm.nonceSize)
    (hn' : nonce'.length = v.envelope.cipher.algorithm.nonceSize) {r r' : Record} (hname : r.name = r'.name)
    (h : v.wrap nonce r = v.wrap nonce' r') : r.render = r'.render := by
  have hopen := v.envelope.unwrap_wrap (Vault.associated r.name) hn r.render_ne_nil
  have hopen' := v.envelope.unwrap_wrap (Vault.associated r'.name) hn' r'.render_ne_nil
  rw [← hname] at hopen'
  rw [Vault.wrap, Vault.wrap, ← hname] at h
  rw [h, hopen'] at hopen
  exact (Except.ok.inj hopen).symm

/-! ### What is left of a search -/

/-- The text that a store has answered with. -/
def answered : Reply → Option String
  | .ok text => text
  | .error _ => none

/-- A session is the record in a text, belongs under a name and an identifier, and is not past its expiry. -/
def Vault.Reads (v : Vault) (name id text : String) (now : Instant) (s : Session) : Prop :=
  ∃ r, v.envelope.read Record.decoder text (Vault.associated name) = .ok r ∧ r.id = id ∧ r.name = name ∧
    now.before r.expiresAt = true ∧ s = Session.ofRecord r

section Searches

variable (v : Vault) (anew : Bool) (name id : String)

/-- What is left of a search that has been answered.  It ends with the session in the text right behind a look at the
clock, or with a new one. -/
def Finds (text : Option String) : Option Instant → Program Session → Prop
  | now, .done s => anew = true ∧ s.isNew = true ∨ ∃ t w, now = some t ∧ text = some w ∧ v.Reads name id w t s
  | _, .fail _ => True
  | _, .ask _ next => ∀ reply, Finds text none (next reply)
  | _, .clock next => ∀ t, Finds text (some t) (next t)
  | _, .draw _ next => ∀ bs, Finds text none (next bs)
  | _, .note _ next => Finds text none next
  | _, .snapshot _ => False
  | _, .assign _ _ => False

/-- What is left of a search that has asked for nothing yet. -/
def Seeks : Program Session → Prop
  | .done s => anew = true ∧ s.isNew = true
  | .fail _ => True
  | .ask r next => r = .get (v.key name id) ∧ ∀ reply, Finds v anew name id (answered reply) none (next reply)
  | .clock next => ∀ t, Seeks (next t)
  | .draw _ next => ∀ bs, Seeks (next bs)
  | .note _ next => Seeks next
  | .snapshot _ | .assign _ _ => False

end Searches

variable {v : Vault} {anew : Bool} {name id : String}

theorem finds_create (v : Vault) (name id : String) (text : Option String) (now : Option Instant) (name' : String)
    (ttl : Option Duration) : Finds v true name id text now (v.create name' ttl) :=
  fun _ _ => Or.inl ⟨rfl, rfl⟩

theorem seeks_create (v : Vault) (name id name' : String) (ttl : Option Duration) :
    Seeks v true name id (v.create name' ttl) := fun _ _ => ⟨rfl, rfl⟩

theorem finds_receive (v : Vault) (anew : Bool) (name id : String) (reply : Reply) :
    Finds v anew name id (answered reply) none (v.receive name id reply) := by
  cases reply with
  | error f => trivial
  | ok text =>
    cases text with
    | none => trivial
    | some text =>
      rw [Vault.receive, ofExcept_ok]
      dsimp only
      cases hread : v.envelope.read Record.decoder text (Vault.associated name) with
      | error f => trivial
      | ok r =>
        rw [ofExcept_ok]
        split
        · trivial
        · rename_i hbelongs
          obtain ⟨hid, hname⟩ := not_or.mp hbelongs
          rw [not_not] at hid hname
          intro now
          dsimp only
          split
          · rename_i hlive
            exact Or.inr ⟨now, text, rfl, rfl, r, hread, hid, hname, hlive, rfl⟩
          · intro reply
            cases reply <;> trivial

theorem seeks_load (v : Vault) (anew : Bool) (name id : String) : Seeks v anew name id (v.load name id) := by
  rw [Vault.load_eq]
  split
  · trivial
  · exact ⟨rfl, finds_receive v anew name id⟩

/-- What makes a new session in the place of one that was not found finds nothing else. -/
theorem Finds.settle {text : Option String} {now : Option Instant} {p : Program Session}
    (h : Finds v true name id text now p) :
    Finds v true name id text now (p.attempt.bind (v.settle name id)) := by
  induction p generalizing now with
  | done s => exact h
  | fail f =>
    show Finds v true name id text now (v.settle name id (.error f))
    rw [Vault.settle]
    split
    · exact finds_create v name id text none name none
    · trivial
  | ask r next ih => exact fun reply => ih reply (h reply)
  | clock next ih => exact fun t => ih t (h t)
  | draw n next ih => exact fun bs => ih bs (h bs)
  | note line next ih => exact ih h
  | snapshot next ih => exact h.elim
  | assign id next ih => exact h.elim

theorem Seeks.settle {p : Program Session} (h : Seeks v true name id p) :
    Seeks v true name id (p.attempt.bind (v.settle name id)) := by
  induction p with
  | done s => exact h
  | fail f =>
    show Seeks v true name id (v.settle name id (.error f))
    rw [Vault.settle]
    split
    · exact seeks_create v name id name none
    · trivial
  | ask r next ih => exact ⟨h.1, fun reply => (h.2 reply).settle⟩
  | clock next ih => exact fun t => ih t (h t)
  | draw n next ih => exact fun bs => ih bs (h bs)
  | note line next ih => exact ih h
  | snapshot next ih => exact h.elim
  | assign id next ih => exact h.elim

theorem seeks_resolve (v : Vault) (incoming : Option String) (name : String) :
    Seeks v true name (incoming.getD "") (v.resolve incoming name) := by
  rw [Vault.resolve_eq]
  cases hid : incoming.filter (· ≠ "") with
  | none => exact seeks_create v name _ name none
  | some id =>
    obtain ⟨rfl, -⟩ := Option.filter_eq_some_iff.mp hid
    exact (seeks_load v true name id).settle

theorem seeks_begun {σ : Type} {o : Outpost σ} {t : Turn σ} {rest : Program Session}
    (h : o.begun v t = some (.search anew name id rest)) : Seeks v anew name id rest := by
  cases t with
  | create name' ttl =>
    cases h
    exact seeks_create v _ _ _ ttl
  | load name' id' =>
    cases h
    exact seeks_load v _ _ _
  | resolve incoming name' =>
    cases h
    exact seeks_resolve v incoming _
  | call n c =>
    rw [Outpost.begun] at h
    split at h <;> cases h
  | _ => cases h

/-! ### Searches under way -/

/-- How far the search with a number has got, and what it was answered. -/
inductive Searching (v : Vault) (es : List Exchange) (i : Nat) (anew : Bool) (name id : String) :
    Program Session → Prop where
  | seeking {rest : Program Session} (h : Seeks v anew name id rest) : Searching v es i anew name id rest
  | finding {rest : Program Session} {e : Exchange} {now : Option Instant} (he : e ∈ es)
    (hcaller : e.caller = .finder i name id) (hget : e.request = .get (v.key name id))
    (h : Finds v anew name id (answered e.reply) now rest) : Searching v es i anew name id rest

variable {σ : Type} {answers : Answers σ} {o : Outpost σ} {es es' : List Exchange} {i : Nat} {rest : Program Session}

theorem Searching.later (h : Searching v es i anew name id rest) (hes : es ⊆ es') :
    Searching v es' i anew name id rest := by
  cases h with
  | seeking h => exact .seeking h
  | finding he hcaller hget h => exact .finding (hes he) hcaller hget h

theorem Finds.step {text : Option String} {now : Option Instant} {p : Program Session}
    (h : Finds v anew name id text now p) {τ : Type} (answers : Answers τ) (w : World τ) :
    ∃ now', Finds v anew name id text now' (p.step answers w).1 := by
  cases p with
  | done s => exact ⟨now, h⟩
  | fail f => exact ⟨none, trivial⟩
  | ask r next => exact ⟨none, h _⟩
  | clock next => exact ⟨some w.clock, h _⟩
  | draw n next => exact ⟨none, h _⟩
  | note line next => exact ⟨none, h⟩
  | snapshot next => exact h.elim
  | assign id next => exact h.elim

/-- A step of a search leads to a request that is answered, or to what is left behind it. -/
theorem Searching.step (h : Searching v o.exchanges i anew name id rest) (answers : Answers σ) :
    Searching v (o.stepSearch answers i anew name id rest).exchanges i anew name id
      (rest.step (Transcript.answers answers (.finder i name id)) (o.world none)).1 := by
  have hsubset : o.exchanges ⊆ (o.stepSearch answers i anew name id rest).exchanges :=
    Outpost.subset_step answers rest (.finder i name id) (o.world none)
  cases h with
  | seeking h =>
    cases rest with
    | done s => exact .seeking h
    | fail f => exact .seeking h
    | ask r next =>
      obtain ⟨rfl, hfinds⟩ := h
      exact .finding List.mem_cons_self rfl rfl (hfinds _)
    | clock next => exact .seeking (h _)
    | draw n next => exact .seeking (h _)
    | note line next => exact .seeking h
    | snapshot next => exact h.elim
    | assign id next => exact h.elim
  | finding he hcaller hget h =>
    obtain ⟨now, hnow⟩ := h.step (Transcript.answers answers (.finder i name id)) (o.world none)
    exact .finding (hsubset he) hcaller hget hnow

/-- Every search of an outpost has asked for nothing yet, or it has been answered. -/
def Outpost.Searched (v : Vault) (o : Outpost σ) : Prop :=
  ∀ i anew name id rest, o.jobs[i]? = some (.search anew name id rest) → Searching v o.exchanges i anew name id rest

theorem searched_turn (h : o.Searched v) (answers : Answers σ) (t : Turn σ) : (o.turn v answers t).Searched v := by
  have hsubset := o.subset_turn v answers t
  intro i anew name id rest hjob
  rcases o.turn_cases v answers t with ⟨j, anew', name', id', rest', -, hj, hturn⟩ | ⟨j, n, c, rest', -, hj, hturn⟩ |
      ⟨-, -, hjobs⟩
  · rw [hturn] at hjob hsubset ⊢
    rcases (getElem?_set_iff hj).mp hjob with ⟨rfl, hnew⟩ | ⟨-, hold⟩
    · cases hnew
      exact (h i anew name id rest' hj).step answers
    · exact (h i anew name id rest hold).later hsubset
  · rw [hturn] at hjob hsubset ⊢
    rcases (getElem?_set_iff hj).mp hjob with ⟨-, hnew⟩ | ⟨-, hold⟩
    · cases hnew
    · exact (h i anew name id rest hold).later hsubset
  · rw [hjobs] at hjob
    cases hbegun : o.begun v t with
    | none =>
      rw [hbegun, Option.toList_none, List.append_nil] at hjob
      exact (h i anew name id rest hjob).later hsubset
    | some job =>
      rw [hbegun, Option.toList_some] at hjob
      rcases getElem?_concat_iff.mp hjob with hold | ⟨-, hnew⟩
      · exact (h i anew name id rest hold).later hsubset
      · rw [hnew] at hbegun
        exact .seeking (seeks_begun hbegun)

theorem searched_run (h : o.Searched v) (answers : Answers σ) (turns : List (Turn σ)) :
    (o.run v answers turns).Searched v := by
  induction turns generalizing o with
  | nil => exact h
  | cons t turns ih => exact ih (searched_turn h answers t)

/-! ### The law of a search -/

theorem eq_of_answered {reply : Reply} {text : String} (h : answered reply = some text) : reply = .ok (some text) := by
  cases reply with
  | ok t => exact congrArg Except.ok h
  | error f => cases h

/-- A search that ends with a session it has not made has read it, and looked at the clock last. -/
theorem Searching.ended (h : Searching v o.exchanges i anew name id rest) (hover : rest.isOver = false) {s : Session}
    (hend : (rest.step (Transcript.answers answers (.finder i name id)) (o.world none)).1 = .done s)
    (hfound : anew = false ∨ s.isNew = false) :
    ∃ e ∈ o.exchanges, e.caller = .finder i name id ∧ e.request = .get (v.key name id) ∧
      ∃ text, e.reply = .ok (some text) ∧ v.Reads name id text o.clock s := by
  have hold : ¬(anew = true ∧ s.isNew = true) := by
    rintro ⟨hanew, hnew⟩
    rw [hanew, hnew] at hfound
    simp at hfound
  have hnone : ∀ text, ¬Finds v anew name id text none (.done s) := by
    rintro text (hnew | ⟨t, w, ht, -⟩)
    · exact hold hnew
    · cases ht
  -- What is left of the search tells how it can end; a step is the instance of that at what the step was given.
  cases h with
  | seeking h =>
    cases rest with
    | done s' => cases hover
    | fail f => cases hend
    | ask r next =>
      have hnext := h.2 (answers o.transcript.store o.clock r).1
      exact absurd ((congrArg (Finds v anew name id _ none) hend).mp hnext) (hnone _)
    | clock next => exact absurd ((congrArg (Seeks v anew name id) hend).mp (h _)) hold
    | draw n next => exact absurd ((congrArg (Seeks v anew name id) hend).mp (h _)) hold
    | note line next => exact absurd ((congrArg (Seeks v anew name id) hend).mp h) hold
    | snapshot next => exact h.elim
    | assign id next => exact h.elim
  | @finding e now he hcaller hget h =>
    cases rest with
    | done s' => cases hover
    | fail f => cases hend
    | ask r next => exact absurd ((congrArg (Finds v anew name id _ none) hend).mp (h _)) (hnone _)
    | clock next =>
      rcases (congrArg (Finds v anew name id _ (some o.clock)) hend).mp (h o.clock) with hnew | ⟨t, w, ht, hw, hreads⟩
      · exact absurd hnew hold
      · cases ht
        exact ⟨e, he, hcaller, hget, w, eq_of_answered hw, hreads⟩
    | draw n next => exact absurd ((congrArg (Finds v anew name id _ none) hend).mp (h _)) (hnone _)
    | note line next => exact absurd ((congrArg (Finds v anew name id _ none) hend).mp h) (hnone _)
    | snapshot next => exact h.elim
    | assign id next => exact h.elim

/-- What a sealed text is read as. -/
theorem Vault.Reads.sealed {text : String} {now : Instant} {s : Session} (h : v.Reads name id text now s) {r : Record}
    {q : Request} (hseals : v.Seals r text q) (hname : r.name = name) :
    r.id = id ∧ r.reread = .ok s.record ∧ now.before s.record.expiresAt = true := by
  obtain ⟨nonce, hn, rfl⟩ := hseals.eq_wrap
  obtain ⟨r', hread, hid, -, hlive, rfl⟩ := h
  rw [← hname, Vault.read_wrap v hn] at hread
  obtain ⟨values, rfl⟩ := Record.reread_eq_ok hread
  exact ⟨hid, hread, hlive⟩

theorem Vault.Reads.opens {text : String} {now : Instant} {s : Session} (h : v.Reads name id text now s) :
    ∃ plain, v.envelope.unwrap text (Vault.associated name) = .ok plain := by
  obtain ⟨r, hread, -⟩ := h
  rw [Envelope.read] at hread
  cases hopen : v.envelope.unwrap text (Vault.associated name) with
  | ok plain => exact ⟨plain, rfl⟩
  | error f =>
    rw [hopen] at hread
    cases hread

/-- Whatever happens at an outpost, and whatever its store answers: if no text that opens for a search was forged, then
a search that ends with a session, unless this is one that it has made itself, ends with what the text of a record says
that a call has sealed before, for exactly the name and the identifier of the search.  The expiry in it lies ahead.
The session is the sealed record itself exactly if that record is settled. -/
theorem found_was_sealed (v : Vault) (answers : Answers σ) (clock : Instant) (entropy : Entropy) (store : σ)
    (sessions : Array Session) (turns : List (Turn σ))
    (hgenuine : Unforged v ((Outpost.start clock entropy store sessions).run v answers turns).exchanges) :
    let o := (Outpost.start clock entropy store sessions).run v answers turns
    ∀ i anew name id rest s, o.jobs[i]? = some (.search anew name id rest) → rest.isOver = false →
      (o.turn v answers (.step i)).jobs[i]? = some (.search anew name id (.done s)) →
      (anew = false ∨ s.isNew = false) →
        ∃ e ∈ o.exchanges, ∃ r text, e.Seals v r text ∧ r.name = name ∧ r.id = id ∧
          r.reread = .ok s.record ∧ (s.record = r ↔ r.Settled) ∧
          (o.turn v answers (.step i)).clock.before s.record.expiresAt = true := by
  intro o i anew name id rest s hjob hover hdone hfound
  have hsearched : o.Searched v := searched_run (fun i anew name id rest h => by cases h) answers turns
  have hturn : o.turn v answers (.step i) = o.stepSearch answers i anew name id rest := by rw [Outpost.turn, hjob]
  have hend : (rest.step (Transcript.answers answers (.finder i name id)) (o.world none)).1 = .done s := by
    rw [hturn] at hdone
    rcases (getElem?_set_iff hjob).mp hdone with ⟨-, hnew⟩ | ⟨hne, -⟩
    · exact (Job.search.inj hnew).2.2.2
    · exact absurd rfl hne
  obtain ⟨e, he, hcaller, hget, text, hreply, hreads⟩ := (hsearched i anew name id rest hjob).ended hover hend hfound
  obtain ⟨plain, hopen⟩ := hreads.opens
  obtain ⟨e', he', r, hseals, hname⟩ := hgenuine.sealed he hcaller hget hreply hopen
  obtain ⟨hid, hreread, hlive⟩ := hreads.sealed hseals.2 hname
  refine ⟨e', he', r, text, hseals, hname, hid, hreread, ?_, ?_⟩
  · rw [← Record.reread_eq_self_iff, hreread, Except.ok.injEq]
  · rw [hturn]
    exact hlive

/-! ### Runs of one session -/

/-- A search that is shown a sealed record ends with what its text says, if this is not past its expiry. -/
theorem turn_shown {nonce : Bytes} (hn : nonce.length = v.envelope.cipher.algorithm.nonceSize) {r r' : Record}
    (hr : r.reread = .ok r') (hlive : o.clock.before r'.expiresAt = true)
    (hjob : o.jobs[i]? = some (.search anew r.name r.id (.ask (.get (v.key r.name r.id)) (v.receive r.name r.id))))
    (hreply : (answers o.transcript.store o.clock (.get (v.key r.name r.id))).1 = .ok (some (v.wrap nonce r))) :
    (o.turn v answers (.step i)).exchanges =
        ⟨.finder i r.name r.id, o.clock, .get (v.key r.name r.id), .ok (some (v.wrap nonce r))⟩ :: o.exchanges ∧
      ∃ rest, (o.turn v answers (.step i)).jobs[i]? = some (.search anew r.name r.id rest) ∧ rest.isOver = false ∧
        ((o.turn v answers (.step i)).turn v answers (.step i)).jobs[i]? =
          some (.search anew r.name r.id (.done (Session.ofRecord r'))) := by
  obtain ⟨hi, -⟩ := List.getElem?_eq_some_iff.mp hjob
  have hturn : o.turn v answers (.step i) = o.stepSearch answers i anew r.name r.id
      (.ask (.get (v.key r.name r.id)) (v.receive r.name r.id)) := by rw [Outpost.turn, hjob]
  have hasked : (o.turn v answers (.step i)).jobs[i]? =
      some (.search anew r.name r.id (v.check r.name r.id r')) := by
    rw [← Vault.receive_wrap v hn hr, ← hreply, hturn]
    exact List.getElem?_set_self hi
  refine ⟨?_, _, hasked, rfl, ?_⟩
  · rw [← hreply, hturn]
    rfl
  · have hclock : (o.turn v answers (.step i)).clock = o.clock := by
      rw [hturn]
      rfl
    rw [← hclock] at hlive
    generalize o.turn v answers (.step i) = o' at hasked hlive
    rw [Outpost.turn, hasked]
    show (o'.jobs.set i (.search anew r.name r.id (if o'.clock.before r'.expiresAt then _ else _)))[i]? = _
    rw [if_pos hlive]
    exact List.getElem?_set_self (List.getElem?_eq_some_iff.mp hasked).1

/-- A search that was shown what a call has written before has been shown no forgery. -/
theorem unforged_of_put (v : Vault) {nonce : Bytes} (hn : nonce.length = v.envelope.cipher.algorithm.nonceSize)
    (r : Record) (i j n : Nat) (now before : Instant) (ttl : Duration) (reply : Reply) :
    Unforged v [⟨.finder i r.name r.id, now, .get (v.key r.name r.id), .ok (some (v.wrap nonce r))⟩,
      ⟨.keeper j n, before, .put (v.key r.name r.id) (v.wrap nonce r) ttl, reply⟩] := by
  refine ⟨?_, ?_, trivial⟩
  · intro i' name id key text plain hcaller _ hreply _
    cases hcaller
    cases hreply
    exact ⟨_, List.mem_cons_self, r, ⟨⟨j, n, rfl⟩, .put hn ttl⟩, rfl⟩
  · intro i' name id key text plain hcaller
    cases hcaller

def minuteRecord (values : Table Json) : Record :=
  ⟨Vault.sampleId, "sid", values, Instant.epoch, Instant.epoch, Instant.epoch.add (.ofSeconds 60)⟩

def minuteNonce : Bytes :=
  ((Vault.sampleEntropy.draw Identifier.entropySize).2.draw Algorithm.aes256Gcm.nonceSize).1

/-- A session is made, gets a value, and is written.  The owner of the store meddles with it.  Then a search begins. -/
def minuteTurns (x : Json) (meddling : List (Turn Keyspace)) : List (Turn Keyspace) :=
  [.create "sid" (some (.ofSeconds 60)), .step 0, .step 0, .take 0, .change 0 (.set "k" (.json x)), .call 0 .persist,
    .step 1, .step 1, .step 1, .step 1, .step 1] ++ meddling ++ [.load "sid" Vault.sampleId]

def minuteOutpost (x : Json) (meddling : List (Turn Keyspace)) : Outpost Keyspace :=
  (Outpost.start Instant.epoch Vault.sampleEntropy {} #[]).run Vault.sample Keyspace.reply (minuteTurns x meddling)

/-- The owner empties the store, and later writes the sealed text back under its key, to stay for longer. -/
def replay : List (Turn Keyspace) :=
  [.seize {}, .tick (.ofSeconds 5), .seize (({} : Keyspace).answer Instant.epoch (.put
    (Vault.sample.key "sid" Vault.sampleId) (Vault.sample.wrap minuteNonce (minuteRecord [("k", .bool true)]))
    (.ofSeconds 90))).2.1]

/-- What the search is about to be shown, and what the call has written. -/
theorem replay_eq : (minuteOutpost (.bool true) replay).jobs[2]? = some (.search false "sid" Vault.sampleId
      (.ask (.get (Vault.sample.key "sid" Vault.sampleId)) (Vault.sample.receive "sid" Vault.sampleId))) ∧
    ∃ r r', (Keyspace.reply (minuteOutpost (.bool true) replay).transcript.store
        (minuteOutpost (.bool true) replay).clock
        (.get (Vault.sample.key "sid" Vault.sampleId))).1 = .ok (some (Vault.sample.wrap minuteNonce r)) ∧
      (minuteOutpost (.bool true) replay).exchanges = [⟨.keeper 1 0, Instant.epoch, .put (Vault.sample.key "sid"
        Vault.sampleId) (Vault.sample.wrap minuteNonce r') (.ofSeconds 60), .ok none⟩] ∧
      r = minuteRecord [("k", .bool true)] ∧ r' = minuteRecord [("k", .bool true)] :=
  ⟨rfl, _, _, rfl, rfl, rfl, rfl⟩

theorem length_minuteNonce : minuteNonce.length = Vault.sample.envelope.cipher.algorithm.nonceSize :=
  Entropy.length_draw _ _

/-- The outpost behind the request of the search. -/
def minuteShown (x : Json) (meddling : List (Turn Keyspace)) : Outpost Keyspace :=
  (minuteOutpost x meddling).turn Vault.sample Keyspace.reply (.step 2)

theorem minuteShown_eq (x : Json) (meddling : List (Turn Keyspace)) :
    minuteShown x meddling = (Outpost.start Instant.epoch Vault.sampleEntropy {} #[]).run Vault.sample Keyspace.reply
      (minuteTurns x meddling ++ [.step 2]) := by
  rw [Outpost.run_append]
  rfl

/-- The text that was written back opens for the search, and it was sealed before. -/
theorem found_was_sealed_sample :
    Unforged Vault.sample (minuteShown (.bool true) replay).exchanges ∧
      ∃ e ∈ (minuteShown (.bool true) replay).exchanges, ∃ r text, e.Seals Vault.sample r text ∧ r.name = "sid" ∧
        r.id = Vault.sampleId ∧ r.reread = .ok (minuteRecord [("k", .bool true)]) := by
  obtain ⟨hjob, r, r', hreply, hexchanges, hr, hr'⟩ := replay_eq
  have hsettled : (minuteRecord [("k", .bool true)]).reread = .ok (minuteRecord [("k", .bool true)]) :=
    (Record.reread_eq_self_iff _).mpr ⟨by decide, ⟨trivial, trivial⟩, List.pairwise_singleton _ _⟩
  rw [hr] at hreply
  obtain ⟨hshown, rest, hrest, hover, hdone⟩ := turn_shown length_minuteNonce hsettled (by decide) hjob hreply
  have hgenuine : Unforged Vault.sample (minuteShown (.bool true) replay).exchanges := by
    rw [minuteShown, hshown, hexchanges, hr']
    exact unforged_of_put Vault.sample length_minuteNonce _ _ _ _ _ _ _ _
  have hrun := minuteShown_eq (.bool true) replay
  rw [minuteShown] at hrun
  rw [hrun] at hrest hdone
  refine ⟨hgenuine, ?_⟩
  rw [minuteShown_eq] at hgenuine ⊢
  obtain ⟨e, he, r, text, hseals, hname, hid, hreread, -⟩ := found_was_sealed Vault.sample Keyspace.reply Instant.epoch
    Vault.sampleEntropy {} #[] _ hgenuine 2 false _ _ rest _ hrest hover hdone (Or.inl rfl)
  exact ⟨e, he, r, text, hseals, hname, hid, hreread⟩

/-! ### A record that nobody has sealed -/

/-- Five septillions, and the real that the text of this is read as. -/
def septillions : Number := .real ⟨false, 4656612873077393, 30⟩

def drifted : Number := .real ⟨false, 4656612873077392, 30⟩

theorem again_septillions : septillions.again = some drifted := by decide +kernel

/-- The two are not written alike, so no text says both records. -/
theorem render_drifted :
    (minuteRecord [("k", .number drifted)]).render ≠ (minuteRecord [("k", .number septillions)]).render := by
  intro h
  have hlength := congrArg List.length h
  have hdrifted : (Bytes.ofString drifted.text).length = 21 := by decide +kernel
  have hseptillions : (Bytes.ofString septillions.text).length = 5 := by decide +kernel
  simp [Record.render, Record.toJson, minuteRecord, Json.render, Json.renderMembers, hdrifted, hseptillions] at hlength

theorem reread_septillions :
    (minuteRecord [("k", .number septillions)]).reread = .ok (minuteRecord [("k", .number drifted)]) := by
  have hagain : Json.againMembers [("k", .number septillions)] = some [("k", .number drifted)] := by
    rw [Json.againMembers, Json.again, again_septillions]
    rfl
  rw [Decoder.eq_ok_iff, Record.toOption_reread, Record.toOption_decode_render]
  show (if Json.membersDepth [("k", .number septillions)] ≤ _ then
    (Json.againMembers [("k", .number septillions)]).map _ else none) = _
  rw [hagain, if_pos (by decide)]
  rfl

theorem drift_eq : (minuteOutpost (.number septillions) []).jobs[2]? = some (.search false "sid" Vault.sampleId
      (.ask (.get (Vault.sample.key "sid" Vault.sampleId)) (Vault.sample.receive "sid" Vault.sampleId))) ∧
    ∃ r r', (Keyspace.reply (minuteOutpost (.number septillions) []).transcript.store
        (minuteOutpost (.number septillions) []).clock
        (.get (Vault.sample.key "sid" Vault.sampleId))).1 = .ok (some (Vault.sample.wrap minuteNonce r)) ∧
      (minuteOutpost (.number septillions) []).exchanges = [⟨.keeper 1 0, Instant.epoch, .put (Vault.sample.key "sid"
        Vault.sampleId) (Vault.sample.wrap minuteNonce r') (.ofSeconds 60), .ok none⟩] ∧
      r = minuteRecord [("k", .number septillions)] ∧ r' = minuteRecord [("k", .number septillions)] :=
  ⟨rfl, _, _, rfl, rfl, rfl, rfl⟩

/-- Nobody meddles with the session, and no text is forged.  The search ends with a session, but no call has ever sealed
its record. -/
theorem drifted_not_sealed :
    Unforged Vault.sample (minuteShown (.number septillions) []).exchanges ∧
      ∃ rest s, (minuteShown (.number septillions) []).jobs[2]? = some (.search false "sid" Vault.sampleId rest) ∧
        rest.isOver = false ∧
        ((minuteShown (.number septillions) []).turn Vault.sample Keyspace.reply (.step 2)).jobs[2]? =
          some (.search false "sid" Vault.sampleId (.done s)) ∧
        ∀ e ∈ (minuteShown (.number septillions) []).exchanges, ∀ r text,
          e.Seals Vault.sample r text → s.record ≠ r := by
  obtain ⟨hjob, r, r', hreply, hexchanges, hr, hr'⟩ := drift_eq
  rw [hr] at hreply
  obtain ⟨hshown, rest, hrest, hover, hdone⟩ := turn_shown length_minuteNonce reread_septillions (by decide) hjob hreply
  rw [hexchanges, hr'] at hshown
  refine ⟨?_, rest, _, hrest, hover, hdone, ?_⟩
  · rw [minuteShown, hshown]
    exact unforged_of_put Vault.sample length_minuteNonce _ _ _ _ _ _ _ _
  · rw [minuteShown, hshown]
    rintro e he _ text ⟨⟨i, n, hcaller⟩, hseals⟩ rfl
    -- Only the call has sealed anything, and what it has sealed is the other record.
    rcases List.mem_cons.mp he with rfl | he
    · cases hcaller
    · rw [List.mem_singleton] at he
      subst he
      obtain ⟨nonce, hn, htext⟩ := hseals.eq_wrap
      rw [← hseals.eq_text] at htext
      exact render_drifted (Vault.sample.render_eq_of_wrap_eq hn length_minuteNonce rfl htext.symm)

end SessionVault
