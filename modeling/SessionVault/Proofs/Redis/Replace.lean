import SessionVault.Proofs.Redis.Host
import SessionVault.Proofs.Table
import SessionVault.Redis.Server

/-!
# Replacements on a server

A store replaces a key by a script or by a transaction.  They differ in what a write that fails leaves: a script ends
with it, and a transaction goes on to take the old key out.  This is so on every server that keeps the laws of hosts and
whose single commands do what is usual (`Standard`).  `Server` is one of them.

* `settles_of_rejected`, `settles_of_taken` — what a replacement comes to where its write is rejected, or taken;
* `kept_iff_of_rejected` — on any such server, a write that is rejected leaves everything under its key exactly by a
  script, or where there was no old key;
* `Server.lawful_host`, `Server.standard_single` — a server with a table of entries is such a server;
* `Server.rejects_iff` — it rejects a write exactly if its lifetime does not fit 63 bits;
* `rejected_keeps_iff` — what becomes of its table then.
-/

namespace SessionVault

namespace Redis

/-! ### What a replacement asks for -/

def Rotation.writing (r : Rotation) (key text : String) (n : Nat) : Command :=
  match r with
  | script => ["SET", key, text, "PX", toString n]
  | transaction => Command.put key text n

namespace Store

theorem replace_eq_script {store : Store} (h : store.rotation = .script) (old new text : String) (n : Nat) :
    store.replace old new text n =
      (Exchange.script Script.rotation [old, new] [text, toString n] Answer.number?).bind fun _ => .done () := by
  rw [replace, h]
  rfl

theorem replace_eq_transaction {store : Store} (h : store.rotation = .transaction) (old new text : String) (n : Nat) :
    store.replace old new text n = .transaction [Command.put new text n, Command.delete old] := by
  rw [replace, h]

theorem put_delete_ne_commit (old new text : String) (n : Nat) :
    ∀ c ∈ [Command.put new text n, Command.delete old], c ≠ Command.commit := by
  simp [Command.put, Command.delete, Command.commit]

/-- A replacement is asked by its exchange, and nothing is asked behind it. -/
theorem exchange_replace (store : Store) (old new text : String) (ttl : Duration) :
    store.exchange (.replace old new text ttl) =
      (store.replace old new text (lifetime ttl)).bind fun _ => .done none := rfl

end Store

/-! ### Single commands -/

section Standard

variable {σ τ : Type} {single : Service τ} {held : τ → String → Option Entry} {now : Instant} {t : τ}
variable {old new text : String} {n : Nat} {code : String} {detail : Option String}

/-- What is expected of single commands, if `held` is the entry under a key.  A write takes a lifetime that is positive
and fits 63 bits; otherwise it fails, and has no effect.  A deletion takes a key out. -/
structure Standard (single : Service τ) (held : τ → String → Option Entry) (now : Instant) : Prop where
  taken : ∀ (r : Rotation) (key text : String) {n : Nat} (t : τ), 0 < n → n < 0x8000000000000000 →
    (single (r.writing key text n) t).1.firstFault? = none ∧
      ∀ k, held (single (r.writing key text n) t).2 k =
        if key = k then some ⟨text, now.add (.ofMillis n)⟩ else held t k
  rejected : ∀ (r : Rotation) (key text : String) {n : Nat} (t : τ), ¬(0 < n ∧ n < 0x8000000000000000) →
    ∃ code detail, single (r.writing key text n) t = (.error code detail, t) ∧ code ≠ ServerTrouble.noScript.code
  deleted : ∀ (key : String) (t : τ), (single (Command.delete key) t).1.firstFault? = none ∧
    ∀ k, held (single (Command.delete key) t).2 k = if key = k then none else held t k

/-- A write that fails has no effect. -/
theorem Standard.of_error (hstandard : Standard single held now) {r : Rotation}
    (h : (single (r.writing new text n) t).1 = .error code detail) :
    single (r.writing new text n) t = (.error code detail, t) ∧ code ≠ ServerTrouble.noScript.code := by
  by_cases hn : 0 < n ∧ n < 0x8000000000000000
  · have hnone := (hstandard.taken r new text t hn.1 hn.2).1
    rw [h] at hnone
    cases hnone
  · obtain ⟨code', detail', hsingle, hcode⟩ := hstandard.rejected r new text t hn
    rw [hsingle] at h
    cases h
    exact ⟨hsingle, hcode⟩

/-- A script goes on behind a command that has not failed. -/
theorem calls_of_accepted {c : Command} (cs : List Command) (h : (single c t).1.firstFault? = none) :
    single.calls (c :: cs) t = single.calls cs (single c t).2 := by
  rw [Service.calls]
  cases hsingle : single c t with
  | mk a t' =>
    rw [hsingle] at h
    cases a with
    | error code detail => cases h
    | status text => rfl
    | number n => rfl
    | octets bs => rfl
    | nothing => rfl
    | list items => rfl

/-- The script ends with the write that is rejected. -/
theorem runScript_of_rejected (old : String)
    (h : single (Rotation.script.writing new text n) t = (.error code detail, t)) :
    single.runScript Script.rotation [old, new] [text, toString n] t = (.error code detail, t) := by
  have hwrite : single ["SET", new, text, "PX", toString n] t = (.error code detail, t) := h
  rw [Service.runScript, Script.commands_rotation, Service.calls, hwrite]

/-- The script deletes the old key behind the write that is taken. -/
theorem runScript_of_taken
    (hwrite : (single (Rotation.script.writing new text n) t).1.firstFault? = none)
    (hdelete : (single (Command.delete old) (single (Rotation.script.writing new text n) t).2).1.firstFault? = none) :
    single.runScript Script.rotation [old, new] [text, toString n] t =
      (.number 1, (single (Command.delete old) (single (Rotation.script.writing new text n) t).2).2) := by
  have hcalls : single.calls [["SET", new, text, "PX", toString n], ["DEL", old]] t =
      (none, (single (Command.delete old) (single (Rotation.script.writing new text n) t).2).2) :=
    (calls_of_accepted _ hwrite).trans (calls_of_accepted [] hdelete)
  rw [Service.runScript, Script.commands_rotation, hcalls]
  rfl

/-! ### What a replacement comes to -/

variable {h : Host σ τ} {s : σ}

/-- A replacement whose write is rejected fails as the write does.  A script leaves everything, and a transaction takes
the old key out. -/
theorem settles_of_rejected (hlawful : h.Lawful) (hstandard : Standard h.single held now) (hready : h.ready s)
    (store : Store) (old : String)
    (hrejected : (h.single (store.rotation.writing new text n) (h.view s)).1 = .error code detail) :
    h.Settles (store.replace old new text n) s (.error (.client (Answer.fault code detail)))
      (match store.rotation with
        | .script => h.view s
        | .transaction => (h.single (Command.delete old) (h.view s)).2) := by
  obtain ⟨hwrite, hcode⟩ := hstandard.of_error hrejected
  cases hrotation : store.rotation with
  | script =>
    rw [hrotation] at hwrite
    rw [Store.replace_eq_script hrotation]
    have hscript := runScript_of_rejected old hwrite
    exact (Host.settles_rotation hlawful hready hscript (beq_false_of_ne hcode)).bind_done ()
  | transaction =>
    have hput : h.single (Command.put new text n) (h.view s) = (.error code detail, h.view s) := by
      rwa [hrotation] at hwrite
    have hsettles := Host.settles_transaction hlawful hready (Store.put_delete_ne_commit old new text n)
    rw [Service.all, hput] at hsettles
    rw [Store.replace_eq_transaction hrotation]
    exact hsettles

/-- A replacement whose write is taken succeeds, and deletes the old key behind it. -/
theorem settles_of_taken (hlawful : h.Lawful) (hstandard : Standard h.single held now) (hready : h.ready s)
    (store : Store) (old new text : String) (hpos : 0 < n) (hfits : n < 0x8000000000000000) :
    h.Settles (store.replace old new text n) s (.ok ())
      (h.single (Command.delete old) (h.single (store.rotation.writing new text n) (h.view s)).2).2 := by
  have hwrite := (hstandard.taken store.rotation new text (h.view s) hpos hfits).1
  have hdelete := (hstandard.deleted old (h.single (store.rotation.writing new text n) (h.view s)).2).1
  cases hrotation : store.rotation with
  | script =>
    rw [hrotation] at hwrite hdelete
    rw [Store.replace_eq_script hrotation]
    exact (Host.settles_rotation hlawful hready (runScript_of_taken hwrite hdelete) rfl).bind_done ()
  | transaction =>
    rw [hrotation] at hwrite hdelete
    have haccepted : Answer.accepted (.list (h.single.all [Command.put new text n, Command.delete old]
        (h.view s)).1) = .ok () := by
      show Answer.accepted (.list [(h.single (Rotation.transaction.writing new text n) (h.view s)).1,
        (h.single (Command.delete old) (h.single (Rotation.transaction.writing new text n) (h.view s)).2).1]) = _
      rw [Answer.accepted, Answer.firstFault?, Answer.firstFaultOf?, hwrite, Answer.firstFaultOf?, hdelete]
      rfl
    have hsettles := Host.settles_transaction hlawful hready (Store.put_delete_ne_commit old new text n)
    rw [haccepted] at hsettles
    rw [Store.replace_eq_transaction hrotation]
    exact hsettles

/-- A replacement is answered with what it comes to. -/
theorem answer_of_settles {store : Store} {ttl : Duration} {result : Except Fault Unit} {t : τ}
    (hsettles : h.Settles (store.replace old new text (lifetime ttl)) s result t) :
    let out := store.answer h.serve.peer s (.replace old new text ttl)
    out.1 = (result.map fun _ => none).mapError Fault.failure ∧ h.view out.2.1 = t ∧ h.ready out.2.1 ∧
      InOneStep h.view (h.view s) ((store.exchange (.replace old new text ttl)).trail h.serve s) out.2.1 := by
  obtain ⟨hresult, hview, hready, hstep⟩ := hsettles.bind_done (none : Option String)
  exact ⟨congrArg (Except.mapError Fault.failure) hresult, hview, hready, hstep⟩

/-- On any server, a replacement whose write is rejected fails as the write does.  A script leaves everything as it was;
a transaction takes the old key out all the same, so it leaves everything only if there was none. -/
theorem kept_iff_of_rejected (hlawful : h.Lawful) (hstandard : Standard h.single held now) (hready : h.ready s)
    (store : Store) (old : String) {ttl : Duration}
    (hrejected : (h.single (store.rotation.writing new text (lifetime ttl)) (h.view s)).1 = .error code detail) :
    let out := store.answer h.serve.peer s (.replace old new text ttl)
    out.1 = .error (.client (Answer.fault code detail)) ∧ h.ready out.2.1 ∧
      (store.rotation = .script → h.view out.2.1 = h.view s) ∧
      (store.rotation = .transaction → h.view out.2.1 = (h.single (Command.delete old) (h.view s)).2) ∧
      ((∀ key, held (h.view out.2.1) key = held (h.view s) key) ↔
        store.rotation = .script ∨ held (h.view s) old = none) := by
  intro out
  have hsettles := settles_of_rejected hlawful hstandard hready store old hrejected
  obtain ⟨hanswer, hview, hready', -⟩ := answer_of_settles hsettles
  have hscript : store.rotation = .script → h.view out.2.1 = h.view s := by
    intro hrotation
    rw [show h.view out.2.1 = _ from hview, hrotation]
  have htransaction : store.rotation = .transaction →
      h.view out.2.1 = (h.single (Command.delete old) (h.view s)).2 := by
    intro hrotation
    rw [show h.view out.2.1 = _ from hview, hrotation]
  refine ⟨hanswer, hready', hscript, htransaction, ?_⟩
  cases hrotation : store.rotation with
  | script =>
    rw [hscript hrotation]
    exact iff_of_true (fun key => rfl) (Or.inl rfl)
  | transaction =>
    rw [htransaction hrotation, or_iff_right (by decide)]
    have hheld := (hstandard.deleted old (h.view s)).2
    constructor
    · intro hall
      rw [← hall old, hheld, if_pos rfl]
    · intro hnone key
      rw [hheld]
      split
      · rename_i hkey
        rw [← hkey, hnone]
      · rfl

end Standard

/-! ### A server with a table of entries -/

namespace Server

variable {s : Server} {now : Instant} {n : Nat}

/-- A server between two transactions that knows no other script by the digest of the rotation. -/
structure Ready (s : Server) : Prop where
  idle : s.queued = none
  known : ∀ script ∈ s.known, script.digest = Script.rotation.digest → script = Script.rotation

/-- The script that a server finds for the digest of the rotation is the rotation. -/
theorem Ready.eq_rotation (h : s.Ready) {found : Script}
    (hfind : s.known.find? (fun other => other.digest == Script.rotation.digest) = some found) :
    found = Script.rotation := by
  have hdigest := List.find?_some hfind
  exact h.known found (List.mem_of_find?_eq_some hfind) (eq_of_beq hdigest)

theorem Ready.find?_of_mem (h : s.Ready) (hmem : Script.rotation ∈ s.known) :
    s.known.find? (fun other => other.digest == Script.rotation.digest) = some Script.rotation := by
  have hfound : (s.known.find? fun other => other.digest == Script.rotation.digest).isSome :=
    List.find?_isSome.mpr ⟨_, hmem, beq_self_eq_true _⟩
  obtain ⟨found, hfind⟩ := Option.isSome_iff_exists.mp hfound
  rw [hfind, h.eq_rotation hfind]

theorem Ready.find?_of_not_mem (h : s.Ready) (hmem : Script.rotation ∉ s.known) :
    s.known.find? (fun other => other.digest == Script.rotation.digest) = none := by
  rw [Option.eq_none_iff_forall_ne_some]
  intro found hfind
  have hin := List.mem_of_find?_eq_some hfind
  rw [h.eq_rotation hfind] at hin
  exact hmem hin

theorem receive_of_idle (h : s.queued = none) (c : Command) : s.receive now c = s.perform now c := by
  rw [receive, h]

/-- A server that is given the digest of a script that it knows runs it on the keys and the arguments behind it. -/
theorem perform_runScript {script found : Script}
    (h : s.known.find? (fun other => other.digest == script.digest) = some found) (now : Instant)
    (old new text millis : String) :
    s.perform now (Command.runScript script [old, new] [text, millis]) =
      (((single now).runScript found [old, new] [text, millis] s.entries).1,
        { s with entries := ((single now).runScript found [old, new] [text, millis] s.entries).2 }) := by
  have hcount : (Natural.read? 63 (toString 2)).getD 0 = 2 := by
    rw [Natural.read?_toString]
    rfl
  show s.perform now ("EVALSHA" :: script.digest :: toString 2 :: [old, new, text, millis]) = _
  rw [perform]
  simp only [h, hcount]
  rfl

/-- What a server says of a digest that it does not know. -/
def unknownScript : Answer := .error ServerTrouble.noScript.code (some "No matching script. Please use EVAL.")

theorem perform_unknown {script : Script}
    (h : s.known.find? (fun other => other.digest == script.digest) = none) (now : Instant)
    (keys arguments : List String) :
    s.perform now (Command.runScript script keys arguments) = (unknownScript, s) := by
  show s.perform now ("EVALSHA" :: script.digest :: toString keys.length :: (keys ++ arguments)) = _
  rw [perform]
  simp only [h]
  rfl

/-- A server that was told of the rotation. -/
def told (s : Server) : Server := { s with known := Script.rotation :: s.known }

theorem perform_loadScript (s : Server) (now : Instant) :
    s.perform now (Command.loadScript Script.rotation) =
      (.octets (Bytes.ofString Script.rotation.digest), s.told) := by
  have hfind : readable.find? (fun script => script.text == Script.rotation.text) = some Script.rotation :=
    List.find?_cons_of_pos (beq_self_eq_true _)
  rw [Command.loadScript, perform]
  simp only [hfind]
  rfl

theorem Ready.told (h : s.Ready) : s.told.Ready :=
  ⟨h.idle, List.forall_mem_cons.mpr ⟨fun _ => rfl, h.known⟩⟩

/-- A command is kept while a transaction is open. -/
theorem receive_of_queued {queued : List Command} (hq : s.queued = some queued) {c : Command}
    (hc : c ≠ Command.commit) :
    s.receive now c = (.status "QUEUED", { s with queued := some (c :: queued) }) := by
  rw [receive, hq]
  exact if_neg hc

def host (now : Instant) : Host Server (Table Entry) where
  serve := service now
  single := single now
  view := entries
  ready := Ready
  opened s cs := s.queued = some cs.reverse ∧
    ∀ script ∈ s.known, script.digest = Script.rotation.digest → script = Script.rotation
  knows s := Script.rotation ∈ s.known

theorem serve_of_idle (h : s.queued = none) (c : Command) : (host now).serve c s = s.perform now c :=
  receive_of_idle h c

/-- A server runs a script and a transaction in one step. -/
theorem lawful_host (now : Instant) : (host now).Lawful where
  unknown := by
    intro s hready hknows old new text millis
    rw [serve_of_idle hready.idle, perform_unknown (hready.find?_of_not_mem hknows)]
    exact ⟨beq_self_eq_true _, rfl, hready⟩
  load := by
    intro s hready
    have hout : (host now).serve (Command.loadScript Script.rotation) s = _ :=
      (serve_of_idle hready.idle _).trans (s.perform_loadScript now)
    refine ⟨Host.Quiet.of_serve hout rfl rfl, ?_⟩
    rw [hout]
    exact ⟨hready.told, List.mem_cons_self⟩
  run := by
    intro s hready hknows old new text millis
    rw [serve_of_idle hready.idle, perform_runScript (hready.find?_of_mem hknows)]
    exact ⟨rfl, hready.idle, hready.known⟩
  start := by
    intro s hready
    have hout : (host now).serve Command.start s = (okay, { s with queued := some [] }) := serve_of_idle hready.idle _
    refine ⟨Host.Quiet.of_serve hout rfl rfl, ?_⟩
    rw [hout]
    exact ⟨rfl, hready.known⟩
  keep := by
    rintro s cs c ⟨hqueued, hknown⟩ hc
    have hout : (host now).serve c s = _ := receive_of_queued hqueued hc
    refine ⟨Host.Quiet.of_serve hout rfl rfl, ?_⟩
    rw [hout]
    exact ⟨congrArg some List.reverse_concat.symm, hknown⟩
  commit := by
    rintro s cs ⟨hqueued, hknown⟩
    have hout : (host now).serve Command.commit s =
        (.list ((single now).all cs s.entries).1, ⟨((single now).all cs s.entries).2, s.known, none⟩) := by
      show s.receive now Command.commit = _
      rw [receive, hqueued]
      dsimp only
      rw [if_pos rfl, List.reverse_reverse]
    rw [hout]
    exact ⟨rfl, rfl, rfl, hknown⟩

/-! ### Writes that are rejected -/

/-- The answer to a write, alone or in a script, is an error. -/
def Rejects (now : Instant) (key text : String) (millis : Nat) (entries : Table Entry) : Prop :=
  ∃ code detail, (write now key text (toString millis) entries).1 = .error code detail

theorem rejects_iff {key text : String} {entries : Table Entry} (h : 0 < n) :
    Rejects now key text n entries ↔ 0x8000000000000000 ≤ n := by
  rw [Rejects]
  by_cases hn : n < 0x8000000000000000
  · rw [write_of_lt entries h hn]
    refine iff_of_false ?_ (Nat.not_le.mpr hn)
    rintro ⟨code, detail, herror⟩
    cases herror
  · rw [write_of_not entries fun hfits => hn hfits.2]
    exact iff_of_true ⟨_, _, rfl⟩ (Nat.not_lt.mp hn)

/-- By a script as in a transaction, a replacement writes as a write does. -/
theorem single_writing (now : Instant) (r : Rotation) (key text : String) (n : Nat) (entries : Table Entry) :
    single now (r.writing key text n) entries = write now key text (toString n) entries := by
  cases r <;> rfl

theorem single_writing_of_rejects {r : Rotation} {key text : String} {entries : Table Entry} (hpos : 0 < n)
    (h : Rejects now key text n entries) :
    single now (r.writing key text n) entries = (refusal "invalid expire time", entries) := by
  have hlong := (rejects_iff hpos).mp h
  rw [single_writing, write_of_not entries fun hfits => Nat.not_lt.mpr hlong hfits.2]

/-- The single commands of a server do what is usual. -/
theorem standard_single (now : Instant) : Standard (single now) (fun entries key => entries.get? key) now where
  taken := by
    intro r key text n entries hpos hfits
    rw [single_writing, write_of_lt entries hpos hfits]
    exact ⟨rfl, fun k => Table.get?_insert key k _ entries⟩
  rejected := by
    intro r key text n entries hn
    rw [single_writing, write_of_not entries hn]
    exact ⟨_, _, rfl, by decide⟩
  deleted := by
    intro key entries
    exact ⟨rfl, fun k => Table.get?_erase key k entries⟩

end Server

namespace Store

/-! ### Replacements whose write is rejected by such a server -/

/-- A replacement whose write is rejected fails with the error of the server.  All entries are left as they were by a
script; a transaction takes the old key out all the same, so it leaves them only if there was none. -/
theorem rejected_keeps_iff (store : Store) (server : Server) (now : Instant) (old new text : String) (ttl : Duration)
    (hready : server.Ready) (hrejects : Server.Rejects now new text (lifetime ttl) server.entries) :
    let out := store.answer (Server.peer now) server (.replace old new text ttl)
    (∃ f, out.1 = .error (.client f) ∧ f.code? = some "ERR") ∧
      (store.rotation = .script → out.2.1.entries = server.entries) ∧
      (store.rotation = .transaction → out.2.1.entries = Table.erase old server.entries) ∧
      (out.2.1.entries = server.entries ↔ store.rotation = .script ∨ server.entries.get? old = none) := by
  intro out
  have hwrite := congrArg Prod.fst (Server.single_writing_of_rejects (r := store.rotation) (lifetime_pos ttl) hrejects)
  obtain ⟨hanswer, -, hscript, htransaction, -⟩ := kept_iff_of_rejected (Server.lawful_host now)
    (Server.standard_single now) hready store old hwrite
  refine ⟨⟨_, hanswer, Answer.code?_fault _ _⟩, hscript, htransaction, ?_⟩
  cases hrotation : store.rotation with
  | script => exact iff_of_true (hscript hrotation) (Or.inl rfl)
  | transaction =>
    rw [or_iff_right (by decide), show out.2.1.entries = Table.erase old server.entries from htransaction hrotation]
    exact Table.erase_eq_self_iff

/-! ### A session that is lost by a rotation -/

def sampleServer : Server := { entries := [("old", ⟨"text", Instant.latest⟩)] }

theorem ready_sample : sampleServer.Ready := ⟨rfl, fun script hscript => by cases hscript⟩

/-- The longest lifetime does not fit 63 bits of milliseconds. -/
theorem rejects_longest : Server.Rejects .epoch "new" "next" (lifetime .longest) sampleServer.entries :=
  (Server.rejects_iff (lifetime_pos _)).mpr (by decide)

theorem rejected_keeps_sample :
    sampleServer.Ready ∧ Server.Rejects .epoch "new" "next" (lifetime .longest) sampleServer.entries ∧
      (({ rotation := .script } : Store).answer (Server.peer .epoch) sampleServer
        (.replace "old" "new" "next" .longest)).2.1.entries = sampleServer.entries :=
  ⟨ready_sample, rejects_longest, (rejected_keeps_iff { rotation := .script } sampleServer .epoch "old" "new" "next"
    .longest ready_sample rejects_longest).2.1 rfl⟩

/-- A transaction whose write is rejected reports the error and leaves neither the old key nor the new one. -/
theorem transaction_rejected_loses :
    (∃ text, (sampleServer.entries.get? "old").map Entry.text = some text) ∧
      Server.Rejects .epoch "new" "next" (lifetime .longest) sampleServer.entries ∧
      ∃ f server, ({ rotation := .transaction } : Store).answer (Server.peer .epoch) sampleServer
          (.replace "old" "new" "next" .longest) =
        (.error (.client f), server, [⟨.debug, "Rotating session key", [("strategy", "Transaction")]⟩]) ∧
        server.entries.get? "old" = none ∧ server.entries.get? "new" = none := by
  have hwrite := congrArg Prod.fst (Server.single_writing_of_rejects (r := .transaction) (lifetime_pos _)
    rejects_longest)
  obtain ⟨hanswer, -, -, htransaction, -⟩ := kept_iff_of_rejected (Server.lawful_host .epoch)
    (Server.standard_single .epoch) ready_sample { rotation := .transaction } "old" hwrite
  have hentries := htransaction rfl
  refine ⟨⟨_, rfl⟩, rejects_longest, _, _, Prod.ext hanswer rfl, ?_, ?_⟩
  · exact (congrArg (Table.get? "old") hentries).trans rfl
  · exact (congrArg (Table.get? "new") hentries).trans rfl

end Store

end Redis

end SessionVault
