import SessionVault.Proofs.Redis.Agreement
import SessionVault.Proofs.Redis.Stored
import SessionVault.Proofs.Vault.Atomic

/-!
# Lifetimes on a server, to the millisecond

A server is given a lifetime in whole milliseconds, in the words of a command.  What a call that writes a session sends
there is what is left of the session, cut off to the millisecond below: the entry ends within the last millisecond of
its record, and not behind it.  The two limits of a lifetime are never met on the way.

* `lifetime_mono`, `lifetime_clamped` — lifetimes of spans of any length;
* `Vault.lifetime_of_writable`, `Vault.lifetime_between` — the lifetime of what is worth writing;
* `Exchange.sent` — the commands of an exchange, and `Exchange.Spells` — all of them that write give one lifetime;
* `Vault.asked_of_plan` — what a call that writes asks of a server, by a script as by a transaction, and what it leaves;
* `Vault.written_to_the_millisecond` — the law of lifetimes.
-/

namespace SessionVault

namespace Redis

/-! ### Spans of any length -/

/-- A longer span has no shorter lifetime. -/
theorem lifetime_mono {d d' : Duration} (h : d.nanos ≤ d'.nanos) : lifetime d ≤ lifetime d' := by
  have hmillis : d.millis ≤ d'.millis := Nat.div_le_div_right h
  unfold lifetime
  omega

/-- A lifetime is its span, up to 64 bits of milliseconds and from one millisecond on. -/
theorem lifetime_clamped (d : Duration) :
    min d.millis 0xFFFFFFFFFFFFFFFF ≤ lifetime d ∧ lifetime d ≤ max 1 d.millis := by
  unfold lifetime
  omega

end Redis

/-! ### What is worth writing -/

namespace Vault

open Redis

variable {expiresAt now : Instant} {ttl : Duration}

/-- What is worth writing is what is left, from a whole millisecond on. -/
theorem writableTtl_eq_ok_iff :
    writableTtl expiresAt now = .ok ttl ↔
      1000000 ≤ expiresAt.since now ∧ (ttl.nanos : Int) = expiresAt.since now := by
  obtain ⟨nanos⟩ := ttl
  rcases writableTtl_cases expiresAt now with ⟨hshort, httl⟩ | ⟨hlong, httl⟩
  · rw [httl]
    simp only [reduceCtorEq, false_iff]
    omega
  · rw [httl]
    simp only [Except.ok.injEq, Duration.mk.injEq]
    omega

/-- What is worth writing is a number of milliseconds that a server takes, and meets no limit of lifetimes. -/
theorem lifetime_of_writable (h : writableTtl expiresAt now = .ok ttl) :
    0 < ttl.millis ∧ ttl.millis ≤ 0x7FFFFFFFFFFFFFFF ∧ lifetime ttl = ttl.millis := by
  obtain ⟨hlong, hnanos⟩ := writableTtl_eq_ok_iff.mp h
  have hbound := expiresAt.since_le now
  have hmillis : ttl.millis = ttl.nanos / 1000000 := rfl
  have hpos : 0 < ttl.millis := by omega
  have hle : ttl.millis ≤ 0x7FFFFFFFFFFFFFFF := by omega
  exact ⟨hpos, hle, lifetime_eq_millis hpos (by omega)⟩

/-- The lifetime of what is worth writing ends within the last millisecond before the expiry. -/
theorem lifetime_between (he : expiresAt.Plain) (hn : now.Plain) (h : writableTtl expiresAt now = .ok ttl) :
    now.total + lifetime ttl * 1000000 ≤ expiresAt.total ∧
      expiresAt.total < now.total + (lifetime ttl + 1) * 1000000 := by
  obtain ⟨-, hnanos⟩ := writableTtl_eq_ok_iff.mp h
  obtain ⟨-, -, hlifetime⟩ := lifetime_of_writable h
  have hmillis : ttl.millis = ttl.nanos / 1000000 := rfl
  rw [Instant.since_eq he hn] at hnanos
  omega

/-- Nothing is cut off where such a lifetime is added to the clock. -/
theorem total_add_lifetime (he : expiresAt.Plain) (hn : now.Plain) (h : writableTtl expiresAt now = .ok ttl) :
    (now.add (.ofMillis (lifetime ttl))).total = now.total + lifetime ttl * 1000000 := by
  have hnanos : (Duration.ofMillis (lifetime ttl)).nanos = lifetime ttl * 1000000 := rfl
  have hend := (lifetime_between he hn h).1
  have hlast := Instant.total_le_latest he
  rw [Instant.total_add hn, hnanos]
  omega

end Vault

namespace Redis

/-! ### Commands that are sent -/

def Command.millis? : Command → Option String
  | ["PSETEX", _, millis, _] => some millis
  | ["SET", _, _, "PX", millis] => some millis
  | ["EVALSHA", _, _, _, _, _, millis] => some millis
  | _ => none

theorem Command.millis?_put (key text : String) (n : Nat) : (put key text n).millis? = some (toString n) := rfl

theorem Command.millis?_runScript (s : Script) (old new text : String) (n : Nat) :
    (runScript s [old, new] [text, toString n]).millis? = some (toString n) := rfl

namespace Exchange

variable {σ α β : Type} {peer : Peer σ}

def sent (peer : Peer σ) : Exchange α → σ → List Command
  | done _, _ => []
  | fail _, _ => []
  | send cs next, s =>
    cs ++ match peer cs s with
      | (.answers as, s) => sent peer (next as) s
      | _ => []

theorem sent_ofExcept (x : Except ClientFault α) (s : σ) : (ofExcept x).sent peer s = [] := by
  cases x <;> rfl

/-- What follows an exchange is sent behind it, unless it failed. -/
theorem sent_bind (x : Exchange α) (f : α → Exchange β) (s : σ) :
    (x.bind f).sent peer s = x.sent peer s ++
      match x.run peer s with
      | (.ok a, s') => (f a).sent peer s'
      | (.error _, _) => [] := by
  induction x generalizing s with
  | done a => rfl
  | fail e => rfl
  | send cs next ih =>
    rw [bind, sent, sent, run, List.append_assoc]
    cases peer cs s with
    | mk arrival s' =>
      cases arrival with
      | answers as => exact congrArg (cs ++ ·) (ih as s')
      | silence => rfl
      | hangup => rfl

/-- A value behind an exchange sends nothing. -/
theorem sent_bind_done (x : Exchange α) (b : β) (s : σ) :
    (x.bind fun _ => .done b).sent peer s = x.sent peer s := by
  rw [sent_bind]
  cases x.run peer s with
  | mk result s' => cases result <;> exact List.append_nil _

theorem sent_ask (c : Command) (meaning : Answer → Except ClientFault α) (s : σ) :
    (ask c meaning).sent peer s = [c] := by
  rw [ask, sent]
  cases peer [c] s with
  | mk arrival s' =>
    cases arrival with
    | answers as =>
      cases as with
      | nil => rfl
      | cons a as => exact congrArg ([c] ++ ·) (sent_ofExcept (meaning a) s')
    | silence => rfl
    | hangup => rfl

/-- What is sent by two exchanges is sent by one of them. -/
theorem of_mem_sent_bind {x : Exchange α} {f : α → Exchange β} {s : σ} {c : Command}
    (h : c ∈ (x.bind f).sent peer s) : c ∈ x.sent peer s ∨ ∃ a s', c ∈ (f a).sent peer s' := by
  rw [sent_bind] at h
  rcases List.mem_append.mp h with hx | hf
  · exact Or.inl hx
  · cases hrun : x.run peer s with
    | mk result s' =>
      rw [hrun] at hf
      cases result with
      | ok a => exact Or.inr ⟨a, s', hf⟩
      | error e => cases hf

/-- A script that is not known is made known and run again. -/
def retry (script : Script) (keys arguments : List String) (meaning : Answer → Except ClientFault α) : Exchange α :=
  (ask (Command.loadScript script) Answer.accepted).bind fun _ => ask (Command.runScript script keys arguments) meaning

theorem of_mem_sent_retry {script : Script} {keys arguments : List String} {meaning : Answer → Except ClientFault α}
    {s : σ} {c : Command} (h : c ∈ (retry script keys arguments meaning).sent peer s) :
    c = Command.loadScript script ∨ c = Command.runScript script keys arguments := by
  rcases of_mem_sent_bind h with hload | ⟨a, s', hrun⟩
  · rw [sent_ask] at hload
    exact Or.inl (List.mem_singleton.mp hload)
  · rw [sent_ask] at hrun
    exact Or.inr (List.mem_singleton.mp hrun)

/-- A script is run, and behind that it is made known and run again at most. -/
theorem sent_script (peer : Peer σ) (script : Script) (keys arguments : List String)
    (meaning : Answer → Except ClientFault α) (s : σ) :
    ∃ rest, (Exchange.script script keys arguments meaning).sent peer s =
        Command.runScript script keys arguments :: rest ∧
      ∀ c ∈ rest, c = Command.loadScript script ∨ c = Command.runScript script keys arguments := by
  rw [Exchange.script, sent]
  refine ⟨_, rfl, ?_⟩
  cases peer [Command.runScript script keys arguments] s with
  | mk arrival s' =>
    cases arrival with
    | answers as =>
      cases as with
      | nil => simp [sent]
      | cons a as =>
        show ∀ c ∈ (if isUnknownScript a = true then retry script keys arguments meaning
          else ofExcept (meaning a)).sent peer s', _
        split
        · intro c hc
          exact of_mem_sent_retry hc
        · rw [sent_ofExcept]
          simp
    | silence => simp
    | hangup => simp

/-- The commands of a transaction are sent together. -/
theorem sent_transaction (cs : List Command) (s : σ) :
    (transaction cs).sent peer s = Command.start :: cs ++ [Command.commit] := by
  rw [transaction, sent]
  cases peer (Command.start :: cs ++ [Command.commit]) s with
  | mk arrival s' =>
    cases arrival with
    | answers as =>
      cases hlast : as.getLast? with
      | none =>
        simp only [hlast]
        exact List.append_nil _
      | some commit =>
        simp only [hlast, sent_ofExcept]
        exact List.append_nil _
    | silence => exact List.append_nil _
    | hangup => exact List.append_nil _

/-- Whoever is at the other end: some command gives a lifetime, and each that does gives this one. -/
def Spells (x : Exchange α) (n : Nat) : Prop :=
  ∀ {σ : Type} (peer : Peer σ) (s : σ), (x.sent peer s).filterMap Command.millis? ≠ [] ∧
    ∀ text ∈ (x.sent peer s).filterMap Command.millis?, text = toString n

theorem spells_of_sent {x : Exchange α} {n : Nat}
    (h : ∀ {σ : Type} (peer : Peer σ) (s : σ), (∃ c ∈ x.sent peer s, c.millis? = some (toString n)) ∧
      ∀ c ∈ x.sent peer s, c.millis? = none ∨ c.millis? = some (toString n)) : x.Spells n := by
  intro σ peer s
  obtain ⟨⟨c, hc, hmillis⟩, hall⟩ := h peer s
  refine ⟨List.ne_nil_of_mem (List.mem_filterMap.mpr ⟨c, hc, hmillis⟩), ?_⟩
  intro text htext
  obtain ⟨c', hc', hmillis'⟩ := List.mem_filterMap.mp htext
  rcases hall c' hc' with hnone | hsome
  · rw [hnone] at hmillis'
    cases hmillis'
  · exact Option.some.inj (hmillis'.symm.trans hsome)

end Exchange

namespace Server

variable {s : Server} {now : Instant}

theorem perform_put (s : Server) (now : Instant) (key text : String) (n : Nat) :
    s.perform now (Command.put key text n) =
      ((write now key text (toString n) s.entries).1,
        { s with entries := (write now key text (toString n) s.entries).2 }) := by
  cases s with
  | mk entries known queued => rfl

theorem eq_of_idle {entries : Table Entry} (hidle : s.queued = none) (h : s.entries = entries) :
    s = ⟨entries, s.known, none⟩ := by
  cases s with
  | mk entries known queued =>
    cases hidle
    cases h
    rfl

end Server

namespace Store

/-- A write gives its lifetime once. -/
theorem spells_put (store : Store) (key text : String) (ttl : Duration) :
    (store.exchange (.put key text ttl)).Spells (lifetime ttl) := by
  apply Exchange.spells_of_sent
  intro σ peer s
  have hsent : (store.exchange (.put key text ttl)).sent peer s = [Command.put key text (lifetime ttl)] :=
    (Exchange.sent_bind_done _ none s).trans (Exchange.sent_ask _ _ s)
  have hmillis := Command.millis?_put key text (lifetime ttl)
  rw [hsent]
  simp [hmillis]

/-- A replacement gives its lifetime in each run of the script, or once in a transaction. -/
theorem spells_replace (store : Store) (old new text : String) (ttl : Duration) :
    (store.exchange (.replace old new text ttl)).Spells (lifetime ttl) := by
  apply Exchange.spells_of_sent
  intro σ peer s
  rw [exchange_replace, Exchange.sent_bind_done]
  cases hrotation : store.rotation with
  | script =>
    obtain ⟨rest, hsent, hrest⟩ := Exchange.sent_script peer Script.rotation [old, new]
      [text, toString (lifetime ttl)] Answer.number? s
    have hrun := Command.millis?_runScript Script.rotation old new text (lifetime ttl)
    rw [replace_eq_script hrotation, Exchange.sent_bind_done, hsent]
    refine ⟨⟨_, List.mem_cons_self, hrun⟩, ?_⟩
    intro c hc
    rcases List.mem_cons.mp hc with rfl | hc
    · exact Or.inr hrun
    · rcases hrest c hc with rfl | rfl
      · exact Or.inl rfl
      · exact Or.inr hrun
  | transaction =>
    have hput := Command.millis?_put new text (lifetime ttl)
    rw [replace_eq_transaction hrotation, Exchange.sent_transaction]
    refine ⟨⟨_, List.mem_cons_of_mem _ List.mem_cons_self, hput⟩, ?_⟩
    intro c hc
    simp only [List.cons_append, List.nil_append, List.mem_cons, List.not_mem_nil, or_false] at hc
    rcases hc with rfl | rfl | rfl | rfl
    · exact Or.inl rfl
    · exact Or.inr hput
    · exact Or.inl rfl
    · exact Or.inl rfl

/-! ### Writes on a server -/

variable {server : Server} {now : Instant} {ttl : Duration}

/-- A write that is taken is answered with nothing, and leaves an entry under its key. -/
theorem reply_put_of_taken (store : Store) (key text : String) (h : server.Ready)
    (hfits : lifetime ttl < 0x8000000000000000) :
    ∃ known, store.reply (Server.peer now) server now (.put key text ttl) =
      (.ok none, ⟨server.entries.insert key ⟨text, now.add (.ofMillis (lifetime ttl))⟩, known, none⟩) := by
  have hrun : (store.exchange (.put key text ttl)).run (Server.peer now) server =
      (.ok none, ⟨server.entries.insert key ⟨text, now.add (.ofMillis (lifetime ttl))⟩, server.known,
        server.queued⟩) := by
    show ((Exchange.ask (Command.put key text (lifetime ttl)) Answer.accepted).bind fun _ => .done none).run _ _ = _
    rw [Exchange.run_bind, Server.peer, Exchange.run_ask, Server.service, Server.receive_of_idle h.idle,
      Server.perform_put, Server.write_of_lt server.entries (lifetime_pos ttl) hfits]
    rfl
  refine ⟨server.known, ?_⟩
  rw [reply, answer, hrun, h.idle]
  rfl

/-- A replacement that is taken does the same, and deletes the old key behind it. -/
theorem reply_replace_of_taken (store : Store) (old new text : String) (h : server.Ready)
    (hfits : lifetime ttl < 0x8000000000000000) :
    ∃ known, store.reply (Server.peer now) server now (.replace old new text ttl) =
      (.ok none, ⟨Table.erase old (server.entries.insert new ⟨text, now.add (.ofMillis (lifetime ttl))⟩), known,
        none⟩) := by
  have hsettles := settles_of_taken (Server.lawful_host now) (Server.standard_single now) h store old new text
    (lifetime_pos ttl) hfits
  obtain ⟨hanswer, hview, hready, -⟩ := answer_of_settles hsettles
  have hentries := hview.trans (Server.moved_of_taken now store.rotation old new text server.entries (lifetime_pos ttl)
    hfits)
  exact ⟨_, Prod.ext hanswer (Server.eq_of_idle hready.idle hentries)⟩

end Store

end Redis

/-! ### The law of lifetimes -/

namespace Vault

open Redis

variable {v : Vault} {s : Session} {c : Lifecycle} {now : Instant} {entropy : Entropy} {p : Plan} {ttl : Duration}

/-- What a call that writes asks of a server gives the lifetime of what is worth writing.  It is granted, and leaves an
entry under the key of the session behind it for that time; a move takes out the key of before behind that. -/
theorem asked_of_plan (store : Redis.Store) (hc : c ≠ .destroy) (hplan : v.plan now entropy s c = .ok p)
    (httl : writableTtl s.record.expiresAt now = .ok ttl) :
    (store.exchange p.request).Spells (lifetime ttl) ∧
      ∀ server : Server, server.Ready → ∃ text entries known,
        store.reply (Server.peer now) server now p.request = (.ok none, ⟨entries, known, none⟩) ∧
        let written := server.entries.insert (v.key p.session.name p.session.id)
          ⟨text, now.add (.ofMillis (lifetime ttl))⟩
        (c = .persist → entries = written) ∧ (c = .rotate → entries = Table.erase (v.key s.name s.id) written) := by
  obtain ⟨-, hle, hlifetime⟩ := lifetime_of_writable httl
  have hfits : lifetime ttl < 0x8000000000000000 := by omega
  obtain ⟨text, ⟨rfl, hrequest⟩ | ⟨rfl, hrequest⟩⟩ := request_of_plan hc hplan httl
  · rw [hrequest]
    refine ⟨store.spells_put _ _ ttl, ?_⟩
    intro server hready
    obtain ⟨known, hreply⟩ := store.reply_put_of_taken _ text hready hfits
    exact ⟨text, _, known, hreply, fun _ => rfl, fun h => by cases h⟩
  · rw [hrequest]
    refine ⟨store.spells_replace _ _ _ ttl, ?_⟩
    intro server hready
    obtain ⟨known, hreply⟩ := store.reply_replace_of_taken _ _ text hready hfits
    exact ⟨text, _, known, hreply, fun h => (by cases h), fun _ => rfl⟩

/-- For a call that writes a session, whenever the session is worth writing:

Its lifetime is what is left of it in whole milliseconds, one at least and 63 bits of them at most, so that it meets
neither limit of lifetimes.  The call makes one request.  Whoever is at the other end, all commands of the request that
write give this lifetime, be it by a script or in a transaction.  Where the clock and the session count no leap seconds,
the lifetime ends within the last millisecond of the session and not behind it.  Then a server grants the call, and the
entry that it leaves under the key of the session ends just so.

For spans of any length, a longer one has no shorter lifetime, and each lifetime is a millisecond at least and fits 64
bits.  Up to there it is no shorter than its span, and from a millisecond on no longer. -/
theorem written_to_the_millisecond (v : Vault) {c : Lifecycle} (hc : c ≠ .destroy) (store : Redis.Store) {s : Session}
    {now : Instant} (entropy : Entropy) {ttl : Duration} (httl : writableTtl s.record.expiresAt now = .ok ttl) :
    (1 ≤ lifetime ttl ∧ lifetime ttl ≤ 0x7FFFFFFFFFFFFFFF ∧ lifetime ttl = ttl.millis) ∧
      (∃ r, (∀ {σ : Type} (answers : Answers σ) (state : σ),
          (v.lifecycle c).requests answers ⟨now, entropy, state, some s⟩ = [r]) ∧
        (store.exchange r).Spells (lifetime ttl)) ∧
      (s.record.expiresAt.Plain → now.Plain →
        (now.total + lifetime ttl * 1000000 ≤ s.record.expiresAt.total ∧
          s.record.expiresAt.total < now.total + (lifetime ttl + 1) * 1000000) ∧
        ∀ server : Server, server.Ready →
          ∃ (s' : Session) (e : Entry) (entries : Table Entry) (known : List Script) (drawn : Entropy),
          (v.lifecycle c).run (store.reply (Server.peer now)) ⟨now, entropy, server, some s⟩ =
            (.ok (), ⟨now, drawn, ⟨entries, known, none⟩, some s'⟩) ∧
          (c = .persist → entries = server.entries.insert (v.key s'.name s'.id) e) ∧
          (c = .rotate →
            entries = Table.erase (v.key s.name s.id) (server.entries.insert (v.key s'.name s'.id) e)) ∧
          e.expiresAt.total = now.total + lifetime ttl * 1000000) ∧
      (∀ d d' : Duration, d.nanos ≤ d'.nanos → lifetime d ≤ lifetime d') ∧
      ∀ d : Duration, (1 ≤ lifetime d ∧ lifetime d ≤ 0xFFFFFFFFFFFFFFFF) ∧
        min d.millis 0xFFFFFFFFFFFFFFFF ≤ lifetime d ∧ lifetime d ≤ max 1 d.millis := by
  obtain ⟨-, hle, hlifetime⟩ := lifetime_of_writable httl
  obtain ⟨p, hplan⟩ := exists_plan v c entropy httl
  obtain ⟨hspells, hasked⟩ := asked_of_plan store hc hplan httl
  refine ⟨⟨lifetime_pos ttl, by omega, hlifetime⟩, ⟨p.request, ?_, hspells⟩, ?_, ?_, ?_⟩
  · intro σ answers state
    exact requests_of_plan rfl hplan
  · intro he hn
    refine ⟨lifetime_between he hn httl, ?_⟩
    intro server hready
    obtain ⟨text, entries, known, hreply, hpersist, hrotate⟩ := hasked server hready
    have hrun : (v.lifecycle c).run (store.reply (Server.peer now)) ⟨now, entropy, server, some s⟩ = _ :=
      run_of_plan rfl hplan
    simp only [hreply] at hrun
    exact ⟨p.session, _, entries, known, p.entropy, hrun, hpersist, hrotate, total_add_lifetime he hn httl⟩
  · intro d d' h
    exact lifetime_mono h
  · intro d
    exact ⟨⟨lifetime_pos d, lifetime_le d⟩, lifetime_clamped d⟩

/-- A session that lasts until the end of time. -/
def lastingSession : Session := .ofRecord ⟨sampleId, "sid", [], .epoch, .epoch, .latest⟩

/-- Counted from the start of 1970 it is moved for all milliseconds but the last, which is short of a nanosecond. -/
theorem written_to_the_millisecond_sample :
    Lifecycle.rotate ≠ .destroy ∧
      writableTtl lastingSession.record.expiresAt .epoch = .ok ⟨8210266876799999999999⟩ ∧
      (∃ r, (sample.lifecycle .rotate).requests Keyspace.reply ⟨.epoch, sampleEntropy, {}, some lastingSession⟩ = [r] ∧
        ∀ text ∈ ((({ rotation := .transaction } : Redis.Store).exchange r).sent (Server.peer .epoch)
          Store.sampleServer).filterMap Command.millis?, text = toString 8210266876799999) ∧
      Store.sampleServer.Ready ∧
      ∃ (s' : Session) (e : Entry) (entries : Table Entry) (known : List Script) (drawn : Entropy),
        (sample.lifecycle .rotate).run (({ rotation := .transaction } : Redis.Store).reply (Server.peer .epoch))
          ⟨.epoch, sampleEntropy, Store.sampleServer, some lastingSession⟩ =
            (.ok (), ⟨.epoch, drawn, ⟨entries, known, none⟩, some s'⟩) ∧
        e.expiresAt.total = 8210266876799999000000 := by
  have hdestroy : Lifecycle.rotate ≠ .destroy := by
    intro h
    cases h
  have httl : writableTtl lastingSession.record.expiresAt .epoch = .ok ⟨8210266876799999999999⟩ := rfl
  obtain ⟨⟨-, -, hlifetime⟩, ⟨r, hrequests, hspells⟩, hserver, -, -⟩ :=
    written_to_the_millisecond sample hdestroy { rotation := .transaction } sampleEntropy httl
  obtain ⟨-, hentries⟩ := hserver Instant.plain_latest Instant.plain_epoch
  obtain ⟨s', e, entries, known, drawn, hrun, -, -, hend⟩ := hentries Store.sampleServer Store.ready_sample
  rw [hlifetime] at hspells hend
  exact ⟨hdestroy, httl, ⟨r, hrequests _ _, (hspells _ _).2⟩, Store.ready_sample, s', e, entries, known, drawn, hrun,
    hend⟩

end Vault

end SessionVault
