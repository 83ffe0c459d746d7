import SessionVault.Proofs.Url.Part

/-!
# URLs with a host are read back

A URL whose scheme is not one for the web, and that has a host, is read back from its text: each part of the text
ends where the next one begins, and nothing in it is hidden twice.

* `Hosted` — what such a URL is once it has been read;
* `hosted_of_read` — every such URL that is read is one;
* `Hosted.read_text` — and is read back from its text;
* `Hosted.withUsername?`, `Hosted.withPassword?`, `Hosted.withNumber` — and stays one with another user or path.
-/

namespace SessionVault.Url

/-! ### URLs with a host -/

/-- A URL as it is written, with a host and a scheme that is not one for the web. -/
structure Hosted (u : Url) : Prop where
  scheme : IsScheme u.scheme
  web : isSpecial u.scheme = false
  username : Written inUserinfo u.username
  password : Written inUserinfo u.password
  host : ∃ host, u.host = some host ∧ host ≠ "" ∧ ∃ name, readName name = .ok host
  port : ∀ n ∈ u.port, n ≤ 65535
  apart : u.apart = false
  path : ∃ parts, u.path = .segments parts ∧ AreSegments parts
  query : ∀ q ∈ u.query, Written inQuery q
  fragment : ∀ f ∈ u.fragment, Written inFragment f

def behindUser (scheme : String) (user : String × String) (cs : List Char) : Except UrlFault Url := do
  let (host, port, rest) ← readHost scheme cs
  if host = "" ∧ user ≠ ("", "") then .error .emptyHost
  else
    let (path, tail) := breakAt endsPath rest
    let (query, fragment) := readTail scheme tail
    return ⟨scheme, user.1, user.2, some host, port, false, readPath scheme path, query, fragment⟩

/-- A URL is read behind its user, if there is one. -/
theorem readAuthority_eq (scheme : String) (cs : List Char) :
    readAuthority scheme cs =
      match breakLastAt (breakAt (endsAuthority (isSpecial scheme)) cs).1 with
      | none => behindUser scheme ("", "") cs
      | some ([], host) =>
        if host = [] ∧ (breakAt (endsAuthority (isSpecial scheme)) cs).2 ≠ [] then .error .emptyHost
        else behindUser scheme ("", "") (host ++ (breakAt (endsAuthority (isSpecial scheme)) cs).2)
      | some (user, host) =>
        behindUser scheme (readUser user) (host ++ (breakAt (endsAuthority (isSpecial scheme)) cs).2) := rfl

/-- What is read behind a user. -/
theorem hosted_of_behindUser {scheme : String} (hscheme : IsScheme scheme) (hweb : isSpecial scheme = false)
    {user : String × String} (huser : Written inUserinfo user.1 ∧ Written inUserinfo user.2) {cs : List Char} {u : Url}
    (h : behindUser scheme user cs = .ok u) (hhost : u.host?.isSome) : Hosted u := by
  obtain ⟨⟨host, port, rest⟩, hread, h⟩ := exists_of_bind_eq_ok h
  obtain ⟨hname, hport⟩ := of_readHost hweb hread
  simp only at h
  split at h
  · cases h
  · rw [← Except.ok.inj h] at hhost ⊢
    obtain ⟨hquery, hfragment⟩ := written_readTail hweb (breakAt endsPath rest).2
    have hne : host ≠ "" := fun hempty => by simp [host?, hempty] at hhost
    exact ⟨hscheme, hweb, huser.1, huser.2, ⟨host, rfl, hne, hname⟩, hport, rfl, exists_readPath hweb _, hquery,
      hfragment⟩

theorem scheme_of_behindUser {scheme : String} {user : String × String} {cs : List Char} {u : Url}
    (h : behindUser scheme user cs = .ok u) : u.scheme = scheme := by
  obtain ⟨⟨host, port, rest⟩, -, h⟩ := exists_of_bind_eq_ok h
  simp only at h
  split at h
  · cases h
  · rw [← Except.ok.inj h]

theorem hosted_of_readAuthority {scheme : String} (hscheme : IsScheme scheme) (hweb : isSpecial scheme = false)
    {cs : List Char} {u : Url} (h : readAuthority scheme cs = .ok u) (hhost : u.host?.isSome) : Hosted u := by
  have hnone : Written inUserinfo "" ∧ Written inUserinfo "" := by constructor <;> exact fun c hc => absurd hc (by simp)
  rw [readAuthority_eq] at h
  split at h
  · exact hosted_of_behindUser hscheme hweb hnone h hhost
  · split at h
    · cases h
    · exact hosted_of_behindUser hscheme hweb hnone h hhost
  · exact hosted_of_behindUser hscheme hweb (written_readUser _) h hhost

theorem scheme_of_readAuthority {scheme : String} {cs : List Char} {u : Url}
    (h : readAuthority scheme cs = .ok u) : u.scheme = scheme := by
  rw [readAuthority_eq] at h
  split at h
  · exact scheme_of_behindUser h
  · split at h
    · cases h
    · exact scheme_of_behindUser h
  · exact scheme_of_behindUser h

theorem scheme_of_readFile {cs : List Char} {u : Url} (h : readFile cs = .ok u) : u.scheme = "file" := by
  unfold readFile at h
  simp only at h
  split at h
  · split at h
    · obtain ⟨found, -, h⟩ := exists_of_bind_eq_ok h
      rw [← Except.ok.inj h]
    · rw [← Except.ok.inj h]
  · rw [← Except.ok.inj h]

def behindScheme (scheme : String) : List Char → Except UrlFault Url
  | '/' :: '/' :: rest => readAuthority scheme rest
  | rest => .ok (readHostless scheme rest)

theorem scheme_of_behindScheme {scheme : String} {cs : List Char} {u : Url} (h : behindScheme scheme cs = .ok u) :
    u.scheme = scheme := by
  unfold behindScheme at h
  split at h
  · exact scheme_of_readAuthority h
  · rw [← Except.ok.inj h]
    rfl

/-- A URL is read behind its scheme. -/
theorem read_of_scheme? {text : String} {s : String} {rest : List Char}
    (h : scheme? (clean text.toList) = some (s, rest)) (hweb : isSpecial s = false) :
    read text = behindScheme s rest := by
  have hfile : s ≠ "file" := fun heq => by
    rw [heq] at hweb
    exact absurd hweb (by decide)
  unfold read
  rw [h]
  split
  · next hsome => cases hsome
  · next hsome => exact absurd (Prod.mk.inj (Option.some.inj hsome)).1 hfile
  · next hsome =>
    obtain ⟨rfl, rfl⟩ := Prod.mk.inj (Option.some.inj hsome)
    rw [hweb]
    rfl

/-- The scheme of a URL is the one that its text starts with. -/
theorem scheme?_of_read {text : String} {u : Url} (h : read text = .ok u) :
    ∃ rest, scheme? (clean text.toList) = some (u.scheme, rest) := by
  unfold read at h
  split at h
  · cases h
  · next rest hscheme => exact ⟨rest, by rw [hscheme, scheme_of_readFile h]⟩
  · next scheme rest _ hscheme =>
    split at h
    · exact ⟨rest, by rw [hscheme, scheme_of_readAuthority h]⟩
    · exact ⟨rest, by rw [hscheme, scheme_of_behindScheme h]⟩

/-- Every URL that is read is as it is written, where it has a host and its scheme is not one for the web. -/
theorem hosted_of_read {text : String} {u : Url} (h : read text = .ok u) (hweb : isSpecial u.scheme = false)
    (hhost : u.host?.isSome) : Hosted u := by
  obtain ⟨rest, hscheme⟩ := scheme?_of_read h
  rw [read_of_scheme? hscheme hweb] at h
  unfold behindScheme at h
  split at h
  · exact hosted_of_readAuthority (isScheme_of_scheme? hscheme) hweb h hhost
  · rw [← Except.ok.inj h] at hhost
    simp [readHostless, host?] at hhost

/-! ### Texts -/

/-- The text of a URL from its host on. -/
def hostOnText (u : Url) (host : String) : List Char :=
  host.toList ++ (portText u.port ++ ((pathText u.path).toList ++ tailText u.query u.fragment))

/-- The text of a URL with a host, part by part. -/
theorem toList_text {u : Url} {host : String} (h : u.host = some host) :
    u.text.toList = u.scheme.toList ++ ':' :: '/' :: '/' :: (u.userinfo.toList ++ u.hostOnText host) := by
  rw [text, authority, h, hostOnText, tailText, ← toList_portText]
  simp only [String.toList_append, List.append_assoc]
  rfl

/-! ### Reading a text again -/

/-- A text that starts with a scheme and a colon is read with that scheme. -/
theorem scheme_of_read {s : String} (hs : IsScheme s) {text : String} {rest : List Char}
    (htext : text.toList = s.toList ++ ':' :: rest) {u : Url} (h : read text = .ok u) : u.scheme = s := by
  obtain ⟨found, hfound⟩ := scheme?_of_read h
  have hvisible : ∀ c ∈ s.toList ++ [':'], 0x20 < c.toNat := fun c hc => by
    rcases List.mem_append.1 hc with hc | hc
    · exact (toLower_of_isSchemeChar (hs.chars c hc).1).2.2
    · rw [List.mem_singleton.1 hc]
      decide
  obtain ⟨tail, htail⟩ := clean_append hvisible (by simp) rest
  rw [List.append_assoc, List.singleton_append, ← htext, List.append_assoc, List.singleton_append] at htail
  rw [htail, scheme?_append hs] at hfound
  exact (Prod.mk.inj (Option.some.inj hfound)).1.symm

/-- What stands in front of a path, a query or a fragment ends there. -/
theorem endsAuthority_of_pathText {parts : List String} {query fragment : Option String} {c : Char}
    (hc : c ∈ ((pathText (.segments parts)).toList ++ tailText query fragment).head?) :
    endsAuthority false c = true := by
  cases parts with
  | nil =>
    have hnil : (pathText (.segments [])).toList = [] := String.toList_empty
    rw [hnil, List.nil_append] at hc
    have hends := endsPath_of_tailText hc
    simp only [endsPath, Bool.or_eq_true, beq_iff_eq] at hends
    rcases hends with rfl | rfl <;> decide
  | cons part parts =>
    rw [toList_pathText] at hc
    rw [← Option.some.inj hc]
    decide

theorem behindUser_of_readHost {scheme : String} {user : String × String} {cs rest : List Char} {host : String}
    {port : Option Nat} (h : readHost scheme cs = .ok (host, port, rest)) (hne : host ≠ "") :
    behindUser scheme user cs = .ok ⟨scheme, user.1, user.2, some host, port, false,
      readPath scheme (breakAt endsPath rest).1, (readTail scheme (breakAt endsPath rest).2).1,
      (readTail scheme (breakAt endsPath rest).2).2⟩ := by
  rw [behindUser, h]
  show (if host = "" ∧ _ then _ else _) = _
  rw [if_neg fun hempty => hne hempty.1]
  rfl

namespace Hosted

variable {u : Url} {host : String}

/-- What stands behind the user is read back. -/
theorem behindUser_text (h : Hosted u) (hhost : u.host = some host) :
    behindUser u.scheme (u.username, u.password) (u.hostOnText host) = .ok u := by
  obtain ⟨_, hsome, hne, name, hname⟩ := h.host
  obtain rfl := Option.some.inj (hhost.symm.trans hsome)
  obtain ⟨parts, hpath, hparts⟩ := h.path
  have hread := readHost_append h.web hname hne h.port
    fun c (hc : c ∈ ((pathText (.segments parts)).toList ++ tailText u.query u.fragment).head?) =>
      endsAuthority_of_pathText hc
  have hbreak := breakAt_append endsPath (pathText (.segments parts)).toList (tailText u.query u.fragment)
    (fun c hc => (quiet_of_mem_pathText hparts hc).1) fun c hc => endsPath_of_tailText hc
  rw [hostOnText, hpath, behindUser_of_readHost hread hne, hbreak, readTail_tailText h.web h.query h.fragment,
    readPath_pathText h.web hparts, ← hhost, ← hpath, ← h.apart]

/-- No character in front of the path ends what stands there. -/
theorem quiet_front (h : Hosted u) (hhost : u.host = some host) {c : Char}
    (hc : c ∈ host.toList ++ portText u.port) : endsAuthority false c = false ∧ c ≠ '@' ∧ 0x20 < c.toNat := by
  obtain ⟨_, hsome, -, name, hname⟩ := h.host
  obtain rfl := Option.some.inj (hhost.symm.trans hsome)
  rcases List.mem_append.1 hc with hc | hc
  · exact quiet_of_readName hname hc
  · exact quiet_of_mem_portText hc

theorem quiet_userText (h : Hosted u) {c : Char} (hc : c ∈ userText u.username u.password) :
    endsAuthority false c = false ∧ 0x20 < c.toNat := by
  rcases List.mem_append.1 hc with hc | hc
  · obtain ⟨-, hends, -, hvisible⟩ := quiet_of_inUserinfo (h.username c hc)
    exact ⟨hends, hvisible⟩
  · split at hc
    · exact absurd hc List.not_mem_nil
    · rcases List.mem_cons.1 hc with rfl | hc
      · decide
      · obtain ⟨-, hends, -, hvisible⟩ := quiet_of_inUserinfo (h.password c hc)
        exact ⟨hends, hvisible⟩

theorem quiet_userinfo (h : Hosted u) {c : Char} (hc : c ∈ u.userinfo.toList) :
    endsAuthority false c = false ∧ 0x20 < c.toNat := by
  rw [toList_userinfo] at hc
  split at hc
  · exact absurd hc List.not_mem_nil
  · rcases List.mem_append.1 hc with hc | hc
    · exact h.quiet_userText hc
    · rw [List.mem_singleton.1 hc]
      decide

/-- What stands behind the two slashes is read back. -/
theorem readAuthority_text (h : Hosted u) (hhost : u.host = some host) :
    readAuthority u.scheme (u.userinfo.toList ++ u.hostOnText host) = .ok u := by
  have hbehind := h.behindUser_text hhost
  obtain ⟨parts, hpath, -⟩ := h.path
  have hbreak := breakAt_append (endsAuthority false) (u.userinfo.toList ++ (host.toList ++ portText u.port))
    ((pathText u.path).toList ++ tailText u.query u.fragment)
    (fun c hc => (List.mem_append.1 hc).elim (fun hc => (h.quiet_userinfo hc).1)
      fun hc => (h.quiet_front hhost hc).1)
    (fun c hc => endsAuthority_of_pathText (hpath ▸ hc))
  rw [List.append_assoc, List.append_assoc, ← hostOnText] at hbreak
  have hat : '@' ∉ host.toList ++ portText u.port := fun hmem => (h.quiet_front hhost hmem).2.1 rfl
  rw [readAuthority_eq, h.web, hbreak, toList_userinfo]
  by_cases huser : u.username = "" ∧ u.password = ""
  · rw [if_pos huser, List.nil_append, List.nil_append, breakLastAt_eq_none hat]
    rw [huser.1, huser.2] at hbehind
    exact hbehind
  · have hne : userText u.username u.password ≠ [] := fun hnil => huser <| by
      obtain ⟨hname, hpassword⟩ := List.append_eq_nil_iff.1 hnil
      refine ⟨String.toList_eq_nil_iff.1 hname, Classical.byContradiction fun hsome => ?_⟩
      rw [if_neg hsome] at hpassword
      cases hpassword
    rw [if_neg huser, List.append_assoc, List.singleton_append, breakLastAt_append hat]
    split
    · next hnone => cases hnone
    · next hsome => exact absurd (Prod.mk.inj (Option.some.inj hsome)).1 hne
    · next hsome =>
      obtain ⟨rfl, rfl⟩ := Prod.mk.inj (Option.some.inj hsome)
      rw [readUser_userText h.username h.password, List.append_assoc, ← hostOnText]
      exact hbehind

theorem visible_text (h : Hosted u) {c : Char} (hc : c ∈ u.text.toList) : 0x20 < c.toNat := by
  obtain ⟨host, hhost, -⟩ := h.host
  obtain ⟨parts, hpath, hparts⟩ := h.path
  rw [toList_text hhost] at hc
  rcases List.mem_append.1 hc with hc | hc
  · exact (toLower_of_isSchemeChar (h.scheme.chars c hc).1).2.2
  · simp only [List.mem_cons] at hc
    rcases hc with rfl | rfl | rfl | hc
    · decide
    · decide
    · decide
    · rcases List.mem_append.1 hc with hc | hc
      · exact (h.quiet_userinfo hc).2
      · rw [hostOnText, ← List.append_assoc] at hc
        rcases List.mem_append.1 hc with hc | hc
        · exact (h.quiet_front hhost hc).2.2
        · rcases List.mem_append.1 hc with hc | hc
          · exact (quiet_of_mem_pathText hparts (hpath ▸ hc)).2
          · exact visible_of_mem_tailText h.query h.fragment hc

/-- A URL with a host is read back from its text. -/
theorem read_text (h : Hosted u) : Url.read u.text = .ok u := by
  obtain ⟨host, hhost, -⟩ := h.host
  have hscheme : scheme? (clean u.text.toList) =
      some (u.scheme, '/' :: '/' :: (u.userinfo.toList ++ u.hostOnText host)) := by
    rw [clean_of_visible fun c hc => h.visible_text hc, toList_text hhost]
    exact scheme?_append h.scheme _
  rw [read_of_scheme? hscheme h.web]
  exact h.readAuthority_text hhost

/-! ### Changes -/

theorem admitsUser (h : Hosted u) : u.admitsUser = true := by
  obtain ⟨host, hhost, hne, -⟩ := h.host
  have hfile : u.scheme ≠ "file" := fun heq => absurd (heq ▸ h.web) (by decide)
  simp [Url.admitsUser, host?, hhost, hne, hfile]

/-- A name can be set, and the URL is as it is written. -/
theorem withUsername? (h : Hosted u) (name : String) :
    u.withUsername? name = some { u with username := hideUser name } ∧
      Hosted { u with username := hideUser name } :=
  ⟨if_pos h.admitsUser, { h with username := written_hideUser name }⟩

/-- A password can be set, and the URL is as it is written. -/
theorem withPassword? (h : Hosted u) (password : String) :
    u.withPassword? password = some { u with password := hideUser password } ∧
      Hosted { u with password := hideUser password } :=
  ⟨if_pos h.admitsUser, { h with password := written_hideUser password }⟩

/-- A number is a segment of its own. -/
theorem withNumber (h : Hosted u) (n : Nat) :
    u.withNumber n = { u with path := .segments [toString n] } ∧ Hosted { u with path := .segments [toString n] } := by
  obtain ⟨parts, hpath, -⟩ := h.path
  refine ⟨by rw [Url.withNumber, hpath], { h with path := ⟨[toString n], rfl, fun part hpart => ?_⟩ }⟩
  rw [List.mem_singleton.1 hpart, Nat.toString_eq_repr, Nat.toList_repr]
  exact isSegment_of_digits fun c hc => Natural.isDigit_of_mem_toDigits hc

end Hosted

end SessionVault.Url
