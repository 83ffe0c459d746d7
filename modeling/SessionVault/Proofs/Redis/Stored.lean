import SessionVault.Proofs.Redis.Replace
import SessionVault.Proofs.Vault.Resolve

/-!
# Octets stored on a server

A server keeps any octets under a key, and a store on it reads them as a text.  A vault over such a store makes a
session of the text, or none, and a resolve goes on with a new session wherever there is none.  Octets that are no
text do not come as far as that: the client refuses them, and what the client refuses counts as trouble with the
server.

* `Store.reply_get`, `Store.reply_delete` — the replies of a store on a server that answers;
* `Vault.sessionOf?` — the session that a text under a key stands for, and `run_receive_text`, what a search does
  with the text;
* `Vault.resolve_stored` — when a resolve gives a session, and what it comes to for any octets.
-/

namespace SessionVault

/-! ### Replies of a store on a server -/

namespace Redis

variable {σ : Type} {peer : Peer σ} {state state' : σ}

/-- A peer in a state answers the next command, whatever it is, and with no error. -/
def Obliging (peer : Peer σ) (state : σ) : Prop :=
  ∀ c, ∃ a state', peer [c] state = (.answers [a], state') ∧ a.firstFault? = none

/-- A peer that recites answers, and agrees to all commands behind the last of them. -/
def recital : Peer (List Answer) := fun cs as =>
  (.answers ((List.range cs.length).map fun i => as.getD i Server.okay), as.drop cs.length)

theorem obliging_recital : Obliging recital [] := fun _ => ⟨Server.okay, [], rfl, rfl⟩

/-- What the client makes of octets that are no text. -/
def Answer.noText : ClientFault := .reported .parse "Invalid UTF-8" none

theorem Answer.text?_of_text {bs : Bytes} {text : String} (h : Bytes.toString? bs = some text) :
    text? (octets bs) = .ok (some text) := by
  rw [text?, textOf, h]
  rfl

theorem Answer.text?_of_no_text {bs : Bytes} (h : Bytes.toString? bs = none) : text? (octets bs) = .error noText := by
  rw [text?, textOf, h]
  rfl

/-- A command that is answered means what its answer means. -/
theorem Exchange.run_ask_of_answer {α : Type} {c : Command} {a : Answer} (h : peer [c] state = (.answers [a], state'))
    (meaning : Answer → Except ClientFault α) :
    (ask c meaning).run peer state = ((meaning a).mapError Fault.client, state') := by
  rw [ask, run, h]
  exact run_ofExcept _ _ _

namespace Store

/-- How a store on a server replies. -/
def reply (s : Store) (peer : Peer σ) : Answers σ := fun state _ r =>
  ((s.answer peer state r).1, (s.answer peer state r).2.1)

variable (s : Store) (now : Instant) {key : String} {a : Answer}

theorem reply_get (h : peer [Command.get key] state = (.answers [a], state')) :
    s.reply peer state now (.get key) = (a.text?.mapError .client, state') := by
  rw [reply, answer, exchange, Exchange.run_ask_of_answer h]
  cases a.text? <;> rfl

theorem reply_delete (h : peer [Command.delete key] state = (.answers [a], state')) (ha : a.firstFault? = none) :
    s.reply peer state now (.delete key) = (.ok none, state') := by
  have hmeaning : a.accepted = .ok () := by rw [Answer.accepted, ha]
  have hrun : (s.exchange (.delete key)).run peer state = (.ok none, state') := by
    show ((Exchange.ask (Command.delete key) Answer.accepted).bind fun _ => .done none).run peer state = _
    rw [Exchange.run_bind, Exchange.run_ask_of_answer h, hmeaning]
    rfl
  rw [reply, answer, hrun]
  rfl

end Store

end Redis

namespace Vault

open Program Redis

variable {σ : Type}

/-! ### Texts under a key -/

/-- The session that a text under the key of a name and an identifier stands for: its envelope opens to a record of
that name and identifier that is not past its expiry. -/
def sessionOf? (v : Vault) (name id text : String) (now : Instant) : Option Session :=
  match v.envelope.read Record.decoder text (associated name) with
  | .error _ => none
  | .ok r => if r.id = id ∧ r.name = name ∧ now.before r.expiresAt = true then some (Session.ofRecord r) else none

/-- A search that is answered with a text ends with the session that the text stands for.  Where there is none, it
fails in a way that says so, if the store takes the text out where it is asked to. -/
theorem run_receive_text {answers : Answers σ} (v : Vault) (name id text : String) (w : World σ)
    (hdelete : (answers w.store w.clock (.delete (v.key name id))).1 = .ok none) :
    match v.sessionOf? name id text w.clock with
    | some session => ((v.receive name id (.ok (some text))).run answers w).1 = .ok session
    | none => ∃ f, f.isContent = true ∧ ((v.receive name id (.ok (some text))).run answers w).1 = .error f := by
  rw [sessionOf?, receive, ofExcept_ok]
  dsimp only
  cases hread : v.envelope.read Record.decoder text (associated name) with
  | error f => exact ⟨f, Envelope.isContent_of_read hread, rfl⟩
  | ok r =>
    rw [ofExcept_ok]
    dsimp only
    by_cases hbelongs : r.id = id ∧ r.name = name
    · have hnot : ¬(r.id ≠ id ∨ r.name ≠ name) := by rwa [not_or, not_not, not_not]
      rw [if_neg hnot, check, run]
      by_cases hlive : w.clock.before r.expiresAt = true
      · rw [if_pos ⟨hbelongs.1, hbelongs.2, hlive⟩, if_pos hlive]
        rfl
      · rw [if_neg fun h => hlive h.2.2, if_neg hlive, run, cleanup, run, hdelete]
        exact ⟨.expired, rfl, rfl⟩
    · have hforeign : r.id ≠ id ∨ r.name ≠ name := by rwa [not_and_or] at hbelongs
      rw [if_neg fun h => hbelongs ⟨h.1, h.2.1⟩, if_pos hforeign]
      exact ⟨.invalidData, rfl, rfl⟩

/-! ### Octets under a key -/

section Octets

variable {peer : Peer σ} {v : Vault} {s : Store} {name id : String} {octets : Bytes} {w : World σ} {state : σ}

/-- A search that is answered with octets that are no text fails as the client does. -/
theorem found?_of_no_text (hvalid : Identifier.isValid id = true)
    (hstored : peer [Command.get (v.key name id)] w.store = (.answers [.octets octets], state))
    (htext : Bytes.toString? octets = none) :
    v.found? (s.reply peer) (some id) name w = some (.error (.client Redis.Answer.noText)) := by
  refine (Troubled.get ?_).found? hvalid
  rw [s.reply_get w.clock hstored, Redis.Answer.text?_of_no_text htext]
  rfl

/-- A search that is answered with the octets of a text goes on with the text. -/
theorem run_load_of_text (hvalid : Identifier.isValid id = true)
    (hstored : peer [Command.get (v.key name id)] w.store = (.answers [.octets octets], state))
    (hlater : Obliging peer state) {text : String} (htext : Bytes.toString? octets = some text) :
    match v.sessionOf? name id text w.clock with
    | some session => ((v.load name id).run (s.reply peer) w).1 = .ok session
    | none => ∃ f, f.isContent = true ∧ ((v.load name id).run (s.reply peer) w).1 = .error f := by
  obtain ⟨a, state', hdelete, ha⟩ := hlater (Command.delete (v.key name id))
  have hreply : (s.reply peer state w.clock (.delete (v.key name id))).1 = .ok none := by
    rw [s.reply_delete w.clock hdelete ha]
  rw [run_load_of_valid hvalid, s.reply_get w.clock hstored, Redis.Answer.text?_of_text htext]
  exact run_receive_text v name id text { w with store := state } hreply

theorem unusable_of_not_valid {answers : Answers σ} (hvalid : ¬Identifier.isValid id = true) :
    Unusable (v.found? answers (some id) name w) := by
  rw [found?]
  by_cases hne : id = ""
  · rw [Option.filter_some_neg (by simpa using hne)]
    trivial
  · rw [incoming_of_ne hne, Option.map_some, run_load_of_not_valid (Bool.eq_false_iff.mpr hvalid)]
    rfl

theorem resolve_of_unusable {answers : Answers σ} {incoming : Option String}
    (h : Unusable (v.found? answers incoming name w)) :
    ((v.resolve incoming name).run answers w).1 = ((v.create name none).run answers w).1 := by
  rw [run_create]
  exact resolve_eq_ok_iff.mpr (Or.inr ⟨h, congrArg Prod.fst (run_create v name none w)⟩)

/-- What a resolve comes to where a server answers with octets and agrees to all that follows: the session that they
stand for, or else a new one, if they are a text; a failure of the client if they are not. -/
theorem resolve_stored (v : Vault) (s : Store) (peer : Peer σ) (name id : String) (octets : Bytes) (w : World σ)
    (state : σ) (hstored : peer [Command.get (v.key name id)] w.store = (.answers [.octets octets], state))
    (hlater : Obliging peer state) :
    let out := ((v.resolve (some id) name).run (s.reply peer) w).1
    ((∃ session, out = .ok session) ↔ (Identifier.isValid id = true → (Bytes.toString? octets).isSome = true)) ∧
      (Identifier.isValid id = true → Bytes.toString? octets = none → out = .error (.client Redis.Answer.noText)) ∧
      (∀ text session, Identifier.isValid id = true → Bytes.toString? octets = some text →
        v.sessionOf? name id text w.clock = some session → out = .ok session) ∧
      ((Identifier.isValid id = true →
          ∃ text, Bytes.toString? octets = some text ∧ v.sessionOf? name id text w.clock = none) →
        out = ((v.create name none).run (s.reply peer) w).1) := by
  intro out
  have hcreated : ∃ session, ((v.create name none).run (s.reply peer) w).1 = .ok session :=
    ⟨_, congrArg Prod.fst (run_create v name none w)⟩
  have hrefused : Identifier.isValid id = true → Bytes.toString? octets = none →
      out = .error (.client Redis.Answer.noText) := by
    intro hvalid htext
    exact resolve_eq_error_iff.mpr ⟨found?_of_no_text hvalid hstored htext, rfl⟩
  have hloaded : ∀ text session, Identifier.isValid id = true → Bytes.toString? octets = some text →
      v.sessionOf? name id text w.clock = some session → out = .ok session := by
    intro text session hvalid htext hsession
    have hload := run_load_of_text (s := s) hvalid hstored hlater htext
    rw [hsession] at hload
    exact resolve_eq_ok_iff.mpr (Or.inl (by rw [found?_of_valid hvalid, hload]))
  have hfresh : (Identifier.isValid id = true →
      ∃ text, Bytes.toString? octets = some text ∧ v.sessionOf? name id text w.clock = none) →
        out = ((v.create name none).run (s.reply peer) w).1 := by
    intro hnone
    by_cases hvalid : Identifier.isValid id = true
    · obtain ⟨text, htext, hsession⟩ := hnone hvalid
      have hload := run_load_of_text (s := s) hvalid hstored hlater htext
      rw [hsession] at hload
      obtain ⟨f, hf, hload⟩ := hload
      refine resolve_of_unusable ?_
      rw [found?_of_valid hvalid, hload]
      exact hf
    · exact resolve_of_unusable (unusable_of_not_valid hvalid)
  refine ⟨⟨?_, ?_⟩, hrefused, hloaded, hfresh⟩
  · rintro ⟨session, hok⟩ hvalid
    cases htext : Bytes.toString? octets with
    | some text => rfl
    | none =>
      rw [hrefused hvalid htext] at hok
      cases hok
  · intro htext
    -- The session that is found is the one that the text stands for, if it stands for one, and a new one otherwise.
    by_cases hsession : ∃ text session, Identifier.isValid id = true ∧ Bytes.toString? octets = some text ∧
        v.sessionOf? name id text w.clock = some session
    · obtain ⟨text, session, hvalid, htext, hsession⟩ := hsession
      exact ⟨session, hloaded text session hvalid htext hsession⟩
    · rw [hfresh]
      · exact hcreated
      · intro hvalid
        obtain ⟨text, htext⟩ := Option.isSome_iff_exists.mp (htext hvalid)
        refine ⟨text, htext, Option.eq_none_iff_forall_ne_some.mpr ?_⟩
        intro session hs
        exact hsession ⟨text, session, hvalid, htext, hs⟩

end Octets

/-! ### A session that is there, and octets that are no text -/

def storedRecord : Record := ⟨sampleId, "sid", [], .epoch, .epoch, Instant.epoch.add (.ofSeconds 60)⟩

def storedOctets : Bytes := Bytes.ofString (sample.wrap (List.replicate 12 0) storedRecord)

/-- A world in which a server recites what it is asked for. -/
def recitalWorld (octets : Bytes) : World (List Redis.Answer) := ⟨.epoch, sampleEntropy, [.octets octets], none⟩

theorem recital_get (key : String) (octets : Bytes) :
    recital [Command.get key] (recitalWorld octets).store = (.answers [.octets octets], []) := rfl

theorem isValid_sampleId : Identifier.isValid sampleId = true := Identifier.isValid_ofOctets (by decide)

theorem resolve_stored_sample :
    recital [Command.get (sample.key "sid" sampleId)] (recitalWorld storedOctets).store =
        (.answers [.octets storedOctets], []) ∧ Obliging recital [] ∧
      ((sample.resolve (some sampleId) "sid").run (({} : Store).reply recital) (recitalWorld storedOctets)).1 =
        .ok (Session.ofRecord storedRecord) := by
  have hread : sample.envelope.read Record.decoder (sample.wrap (List.replicate 12 0) storedRecord)
      (associated "sid") = .ok storedRecord := read_wrap_of_nil (r := storedRecord) sample (by decide) rfl
  have hsession : sample.sessionOf? "sid" sampleId (sample.wrap (List.replicate 12 0) storedRecord)
      (recitalWorld storedOctets).clock = some (Session.ofRecord storedRecord) := by
    rw [sessionOf?, hread]
    exact if_pos ⟨rfl, rfl, by decide⟩
  exact ⟨rfl, obliging_recital, (resolve_stored sample {} recital "sid" sampleId storedOctets
    (recitalWorld storedOctets) [] rfl obliging_recital).2.2.1 _ _ isValid_sampleId (Bytes.toString?_ofString _)
    hsession⟩

/-- An octet that begins no character. -/
def strayOctets : Bytes := [0xff]

/-- A resolve over a server that keeps a stray octet fails, and not as one does where there is no session. -/
theorem stray_not_resolved :
    recital [Command.get (sample.key "sid" sampleId)] (recitalWorld strayOctets).store =
        (.answers [.octets strayOctets], []) ∧ Obliging recital [] ∧
      ((sample.resolve (some sampleId) "sid").run (({} : Store).reply recital) (recitalWorld strayOctets)).1 =
        .error (.client Redis.Answer.noText) ∧ (Failure.client Redis.Answer.noText).isContent = false := by
  have hstray : Bytes.toString? strayOctets = none := by decide
  have hfound := found?_of_no_text (v := sample) (s := {}) isValid_sampleId (recital_get (sample.key "sid" sampleId)
    strayOctets) hstray
  exact ⟨rfl, obliging_recital, resolve_eq_error_iff.mpr ⟨hfound, rfl⟩, rfl⟩

end Vault

end SessionVault
