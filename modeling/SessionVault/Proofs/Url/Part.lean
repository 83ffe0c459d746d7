import SessionVault.Proofs.Text.Digits
import SessionVault.Proofs.Url.Host
import SessionVault.Proofs.Url.Path

/-!
# The parts of a URL are read back

Each part is read back from its text, whatever of a URL follows it.

* `IsScheme`, `scheme?_append` — a scheme, up to its colon;
* `userText`, `readUser_userText`, `breakLastAt_append` — a user, up to the last `@`;
* `portText`, `readHost_append` — a host and a port;
* `tailText`, `readTail_tailText` — a query and a fragment.

Beside each of them stands what the part is once it has been read.
-/

namespace SessionVault.Url

/-- A step behind another succeeds where both do. -/
theorem exists_of_bind_eq_ok {ε α β : Type} {x : Except ε α} {f : α → Except ε β} {b : β}
    (h : x >>= f = .ok b) : ∃ a, x = .ok a ∧ f a = .ok b := by
  cases x with
  | error e => cases h
  | ok a => exact ⟨a, rfl, h⟩

/-! ### Blanks -/

theorem dropWhile_padding {cs : List Char} (h : ∀ c ∈ cs, 0x20 < c.toNat) (rest : List Char) (hne : cs ≠ []) :
    (cs ++ rest).dropWhile isPadding = cs ++ rest := by
  obtain ⟨c, cs, rfl⟩ := List.exists_cons_of_ne_nil hne
  have hc : isPadding c = false := decide_eq_false (Nat.not_le.2 (h c List.mem_cons_self))
  rw [List.cons_append, List.dropWhile_cons, hc]
  rfl

theorem filter_of_visible {cs : List Char} (h : ∀ c ∈ cs, 0x20 < c.toNat) :
    cs.filter (fun c => c ≠ '\t' ∧ c ≠ '\n' ∧ c ≠ '\r') = cs := by
  refine List.filter_eq_self.2 fun c hc => decide_eq_true ?_
  have hvisible := h c hc
  refine ⟨?_, ?_, ?_⟩ <;> rintro rfl <;> revert hvisible <;> decide

/-- What is no blank and no control character stays in front of a text. -/
theorem clean_append {front : List Char} (h : ∀ c ∈ front, 0x20 < c.toNat) (hne : front ≠ []) (rest : List Char) :
    ∃ tail, clean (front ++ rest) = front ++ tail := by
  have hback : ∃ ds, ((front ++ rest).reverse.dropWhile isPadding).reverse = front ++ ds := by
    have hfront := dropWhile_padding (fun c hc => h c (List.mem_reverse.1 hc)) []
      fun hnil => hne (List.reverse_eq_nil_iff.1 hnil)
    rw [List.append_nil] at hfront
    rw [List.reverse_append, List.dropWhile_append, hfront]
    split
    · exact ⟨[], by rw [List.reverse_reverse, List.append_nil]⟩
    · exact ⟨(rest.reverse.dropWhile isPadding).reverse, by rw [List.reverse_append, List.reverse_reverse]⟩
  obtain ⟨ds, hds⟩ := hback
  rw [clean, dropWhile_padding h rest hne, hds, List.filter_append, filter_of_visible h]
  exact ⟨_, rfl⟩

theorem clean_of_visible {cs : List Char} (h : ∀ c ∈ cs, 0x20 < c.toNat) : clean cs = cs := by
  by_cases hne : cs = []
  · rw [hne]
    rfl
  · have hreverse : cs.reverse ≠ [] := fun hnil => hne (List.reverse_eq_nil_iff.1 hnil)
    have hfront := dropWhile_padding h [] hne
    have hback := dropWhile_padding (fun c hc => h c (List.mem_reverse.1 hc)) [] hreverse
    rw [List.append_nil] at hfront hback
    rw [clean, hfront, hback, List.reverse_reverse, filter_of_visible h]

/-! ### Schemes -/

/-- A scheme as it is written: in lower case, with a letter in front. -/
structure IsScheme (s : String) : Prop where
  letter : ∃ c ∈ s.toList.head?, c.isAlpha = true
  chars : ∀ c ∈ s.toList, isSchemeChar c = true ∧ c.toLower = c

theorem lt_of_isSchemeChar {c : Char} (h : isSchemeChar c = true) : c.toNat < 128 := by
  change ((((decide (c.val ≥ 'A'.val ∧ c.val ≤ 'Z'.val) || (decide (c.val ≥ 'a'.val) && decide (c.val ≤ 'z'.val)) ||
    (decide (c.val ≥ '0'.val) && decide (c.val ≤ '9'.val))) || c == '+') || c == '-') || c == '.') = true at h
  simp only [Bool.or_eq_true, Bool.and_eq_true, decide_eq_true_eq, beq_iff_eq, ge_iff_le,
    UInt32.le_iff_toNat_le] at h
  change ((((65 ≤ c.toNat ∧ c.toNat ≤ 90 ∨ 97 ≤ c.toNat ∧ c.toNat ≤ 122) ∨ 48 ≤ c.toNat ∧ c.toNat ≤ 57) ∨
    c = '+') ∨ c = '-') ∨ c = '.' at h
  rcases h with ((((h | h) | h) | rfl) | rfl) | rfl
  · omega
  · omega
  · omega
  · decide
  · decide
  · decide

/-- What may stand in a scheme, and what it is in lower case. -/
theorem toLower_of_isSchemeChar {c : Char} (h : isSchemeChar c = true) :
    (isSchemeChar c.toLower = true ∧ c.toLower.toLower = c.toLower) ∧ c.toLower.isAlpha = c.isAlpha ∧
      0x20 < c.toNat :=
  Bytes.forall_of_ascii (p := fun c => isSchemeChar c = true →
    (isSchemeChar c.toLower = true ∧ c.toLower.toLower = c.toLower) ∧ c.toLower.isAlpha = c.isAlpha ∧
      0x20 < c.toNat) (by decide +kernel) (lt_of_isSchemeChar h) h

/-- A scheme is read up to its colon. -/
theorem scheme?_append {s : String} (h : IsScheme s) (rest : List Char) :
    scheme? (s.toList ++ ':' :: rest) = some (s, rest) := by
  obtain ⟨c, hc, halpha⟩ := h.letter
  have hbreak : breakAt (fun c => !isSchemeChar c) (s.toList ++ ':' :: rest) = (s.toList, ':' :: rest) := by
    refine breakAt_append _ _ _ (fun d hd => ?_) fun d hd => ?_
    · rw [(h.chars d hd).1]
      rfl
    · rw [← Option.some.inj hd]
      decide
  have hlower : s.toList.map Char.toLower = s.toList :=
    (List.map_congr_left fun d hd => (h.chars d hd).2).trans (List.map_id' s.toList)
  have hs : s.toList ++ ':' :: rest = c :: (s.toList.tail ++ ':' :: rest) := by
    rw [← List.cons_append, ← List.cons_head?_tail hc]
    rfl
  unfold scheme?
  rw [hbreak, hs]
  simp only [halpha, hlower, String.ofList_toList]
  rfl

/-- What is read in front of a colon is a scheme. -/
theorem isScheme_of_scheme? {cs rest : List Char} {s : String} (h : scheme? cs = some (s, rest)) : IsScheme s := by
  unfold scheme? at h
  split at h
  · cases h
  · next c tail =>
    split at h
    · cases h
    · next halpha =>
      split at h
      · next name _ hbreak =>
        have hspec := breakAt_spec (fun c => !isSchemeChar c) (c :: tail)
        rw [hbreak] at hspec
        have hchars : ∀ d ∈ name, isSchemeChar d = true := fun d hd => by simpa using hspec.2 d hd
        have hhead : c ∈ name.head? := by
          cases name with
          | nil =>
            obtain ⟨rfl, -⟩ := List.cons.inj hspec.1
            exact absurd rfl halpha
          | cons d name =>
            obtain ⟨rfl, -⟩ := List.cons.inj hspec.1
            rfl
        have hletter := (toLower_of_isSchemeChar (hchars c (List.mem_of_mem_head? hhead))).2.1
        rw [← (Prod.mk.inj (Option.some.inj h)).1]
        refine ⟨⟨c.toLower, ?_, ?_⟩, fun d hd => ?_⟩
        · rw [String.toList_ofList, List.head?_map]
          exact Option.mem_map_of_mem Char.toLower hhead
        · rw [hletter]
          simpa using halpha
        · rw [String.toList_ofList] at hd
          obtain ⟨e, he, rfl⟩ := List.mem_map.1 hd
          exact (toLower_of_isSchemeChar (hchars e he)).1
      · cases h

/-! ### Users -/

/-- What may stand in a name or a password. -/
theorem quiet_of_inUserinfo {c : Char} (h : isShown inUserinfo c = true) :
    c ≠ ':' ∧ endsAuthority false c = false ∧ c ≠ '@' ∧ 0x20 < c.toNat :=
  forall_of_isShown (p := fun c => c ≠ ':' ∧ endsAuthority false c = false ∧ c ≠ '@' ∧ 0x20 < c.toNat)
    (by decide +kernel) h

theorem written_hideUser (s : String) : Written inUserinfo (hideUser s) := written_percentEncode sound_inUserinfo _

theorem hideUser_of_written {s : String} (h : Written inUserinfo s) : hideUser s = s := percentEncode_of_written h

/-- The name and the password that are read. -/
theorem written_readUser (cs : List Char) :
    Written inUserinfo (readUser cs).1 ∧ Written inUserinfo (readUser cs).2 :=
  ⟨written_hideUser _, written_hideUser _⟩

def userText (name password : String) : List Char :=
  name.toList ++ (if password = "" then [] else ':' :: password.toList)

theorem readUser_userText {name password : String} (hn : Written inUserinfo name)
    (hp : Written inUserinfo password) :
    readUser (userText name password) = (name, password) := by
  have hname : ∀ c ∈ name.toList, (c == ':') = false := fun c hc =>
    beq_eq_false_iff_ne.2 (quiet_of_inUserinfo (hn c hc)).1
  by_cases hempty : password = ""
  · have hbreak := breakAt_append (· == ':') name.toList [] hname fun c hc => by cases hc
    rw [userText, if_pos hempty, readUser, hbreak, hempty]
    simp only [String.ofList_toList, hideUser_of_written hn]
    rfl
  · have hbreak := breakAt_append (· == ':') name.toList (':' :: password.toList) hname
      fun c hc => Option.some.inj hc ▸ rfl
    rw [userText, if_neg hempty, readUser, hbreak]
    simp only [List.drop_one, List.tail_cons, String.ofList_toList, hideUser_of_written hn,
      hideUser_of_written hp]

/-- The text in front of a host ends at the last `@`. -/
theorem breakLastAt_append {back : List Char} (h : '@' ∉ back) (front : List Char) :
    breakLastAt (front ++ '@' :: back) = some (front, back) := by
  have hback : ∀ c ∈ back.reverse, (c == '@') = false := fun c hc =>
    beq_eq_false_iff_ne.2 fun heq => h (heq ▸ List.mem_reverse.1 hc)
  have hbreak := breakAt_append (· == '@') back.reverse ('@' :: front.reverse) hback
    fun c hc => Option.some.inj hc ▸ rfl
  have hreverse : (front ++ '@' :: back).reverse = back.reverse ++ '@' :: front.reverse := by simp
  rw [breakLastAt, hreverse, hbreak]
  simp only [List.reverse_reverse]

theorem breakLastAt_eq_none {cs : List Char} (h : '@' ∉ cs) : breakLastAt cs = none := by
  have hbreak := breakAt_append (· == '@') cs.reverse []
    (fun c hc => beq_eq_false_iff_ne.2 fun heq => h (heq ▸ List.mem_reverse.1 hc)) fun c hc => by cases hc
  rw [List.append_nil] at hbreak
  rw [breakLastAt, hbreak]

theorem toList_userinfo (u : Url) : u.userinfo.toList =
    if u.username = "" ∧ u.password = "" then [] else userText u.username u.password ++ ['@'] := by
  rw [userinfo]
  split
  · rfl
  · rw [String.toList_append, String.toList_append, userText]
    split <;> simp

/-! ### Ports -/

theorem defaultPort?_of_web {scheme : String} (hweb : isSpecial scheme = false) : defaultPort? scheme = none :=
  Option.not_isSome_iff_eq_none.1 (Bool.eq_false_iff.1 (Bool.or_eq_false_iff.1 hweb).2)

/-- A port in front of a path, a query or a fragment is read back. -/
theorem readPort_append {scheme : String} (hweb : isSpecial scheme = false) {n : Nat} (hn : n ≤ 65535)
    {rest : List Char} (hrest : ∀ c ∈ rest.head?, endsAuthority false c = true) :
    readPort scheme (Nat.toDigits 10 n ++ rest) = .ok (some n, rest) := by
  have hdigits : ∀ c ∈ Nat.toDigits 10 n, c.isDigit = true := fun c hc =>
    Nat.isDigit_of_mem_toDigits (by decide) (by decide) hc
  have hstop : ∀ c ∈ rest.head?, c.isDigit = false ∧ endsAuthority true c = true := fun c hc => by
    have hends := hrest c hc
    simp only [endsAuthority, Bool.false_and, Bool.or_false, Bool.or_eq_true, beq_iff_eq] at hends
    rcases hends with (rfl | rfl) | rfl <;> decide
  have htake : (Nat.toDigits 10 n ++ rest).takeWhile Char.isDigit = Nat.toDigits 10 n := by
    rw [List.takeWhile_append_of_pos hdigits]
    cases rest with
    | nil => rw [List.takeWhile_nil, List.append_nil]
    | cons c rest =>
      rw [List.takeWhile_cons, (hstop c rfl).1]
      simp
  have hvalue : (Nat.toDigits 10 n).foldl (fun n c => n * 10 + (c.toNat - 48)) 0 = n :=
    Natural.ofDigits_toDigits n
  have hempty : ¬ (Nat.toDigits 10 n).isEmpty = true := fun h => Nat.toDigits_ne_nil (List.isEmpty_iff.1 h)
  rw [readPort, htake, hvalue, if_neg (Nat.not_lt.2 hn), List.drop_left, defaultPort?_of_web hweb]
  simp only [hempty, reduceCtorEq, or_self, if_false]
  cases rest with
  | nil => rfl
  | cons c rest =>
    show (if endsAuthority true c = true then _ else _) = _
    rw [if_pos (hstop c rfl).2]

/-- A port that is read fits sixteen bits. -/
theorem le_of_readPort {scheme : String} {cs rest : List Char} {port : Option Nat}
    (h : readPort scheme cs = .ok (port, rest)) : ∀ n ∈ port, n ≤ 65535 := by
  rw [readPort] at h
  split at h
  · cases h
  · next hle =>
    intro n hn
    have hport : port = none ∨
        port = some ((cs.takeWhile Char.isDigit).foldl (fun n c => n * 10 + (c.toNat - 48)) 0) := by
      simp only at h
      split at h
      · rw [← (Prod.mk.inj (Except.ok.inj h)).1]
        split <;> simp
      · split at h
        · rw [← (Prod.mk.inj (Except.ok.inj h)).1]
          split <;> simp
        · cases h
    rcases hport with rfl | rfl
    · cases hn
    · rw [← Option.some.inj hn]
      exact Nat.not_lt.1 hle

/-! ### Hosts and ports -/

def portText : Option Nat → List Char
  | some n => ':' :: Nat.toDigits 10 n
  | none => []

theorem toList_portText (port : Option Nat) :
    (match port with
      | some port => ":" ++ toString port
      | none => "").toList = portText port := by
  cases port with
  | none => rfl
  | some n =>
    show (":" ++ Nat.repr n).toList = _
    rw [String.toList_append, Nat.toList_repr]
    rfl

theorem quiet_of_mem_portText {port : Option Nat} {c : Char} (h : c ∈ portText port) :
    endsAuthority false c = false ∧ c ≠ '@' ∧ 0x20 < c.toNat := by
  cases port with
  | none => exact absurd h List.not_mem_nil
  | some n =>
    rcases List.mem_cons.1 h with rfl | h
    · decide
    · have hdigit := Numeral.toNat_of_isDigit (Natural.isDigit_of_mem_toDigits h)
      refine ⟨?_, ?_, by omega⟩
      · simp only [endsAuthority, Bool.false_and, Bool.or_false, Bool.or_eq_false_iff, beq_eq_false_iff_ne]
        refine ⟨⟨?_, ?_⟩, ?_⟩ <;> rintro rfl <;> revert hdigit <;> decide
      · rintro rfl
        revert hdigit
        decide

/-- What is read of a host, where the scheme is not one for the web. -/
theorem readHost_eq {scheme : String} (hweb : isSpecial scheme = false) (cs : List Char) :
    readHost scheme cs = do
      let host ← readName (hostText false false cs).1
      match (hostText false false cs).2 with
      | ':' :: rest =>
        if host = "" then .error .emptyHost
        else do
          let (port, rest) ← readPort scheme rest
          return (host, port, rest)
      | rest => return (host, none, rest) := by
  rw [readHost, hweb]
  simp only [Bool.false_eq_true, false_and, if_false]
  rfl

/-- A host and a port are read back, where the text goes on with a path, a query or a fragment. -/
theorem readHost_append {scheme : String} (hweb : isSpecial scheme = false) {cs : List Char} {host : String}
    (hhost : readName cs = .ok host) (hne : host ≠ "") {port : Option Nat} (hport : ∀ n ∈ port, n ≤ 65535)
    {rest : List Char} (hrest : ∀ c ∈ rest.head?, endsAuthority false c = true) :
    readHost scheme (host.toList ++ (portText port ++ rest)) = .ok (host, port, rest) := by
  have hends : ∀ c ∈ (portText port ++ rest).head?, endsHost false c = true := by
    cases port with
    | none => exact fun c hc => Bool.or_eq_true_iff.2 (.inr (hrest c hc))
    | some n => exact fun c hc => Option.some.inj hc ▸ rfl
  rw [readHost_eq hweb, hostText_append hhost hends]
  simp only [readName_readName hhost]
  cases port with
  | none =>
    have hcolon : ∀ tail, rest ≠ ':' :: tail := fun tail htail => by
      have := hrest ':' (by rw [htail]; rfl)
      exact absurd this (by decide)
    show (match rest with
      | ':' :: rest => _
      | rest => _) = _
    split
    · next tail => exact absurd rfl (hcolon tail)
    · rfl
  | some n =>
    have hread : readPort scheme ((Nat.toDigits 10 n).append rest) = .ok (some n, rest) :=
      readPort_append hweb (hport n rfl) hrest
    show (if host = "" then _ else _) = _
    rw [if_neg hne, hread]
    rfl

/-- What is read of a host and a port. -/
theorem of_readHost {scheme : String} (hweb : isSpecial scheme = false) {cs rest : List Char} {host : String}
    {port : Option Nat} (h : readHost scheme cs = .ok (host, port, rest)) :
    (∃ name, readName name = .ok host) ∧ ∀ n ∈ port, n ≤ 65535 := by
  rw [readHost_eq hweb] at h
  obtain ⟨name, hname, h⟩ := exists_of_bind_eq_ok h
  split at h
  · split at h
    · cases h
    · obtain ⟨⟨p, tail⟩, hport, h⟩ := exists_of_bind_eq_ok h
      obtain ⟨rfl, hrest⟩ := Prod.mk.inj (Except.ok.inj h)
      obtain ⟨rfl, -⟩ := Prod.mk.inj hrest
      exact ⟨⟨_, hname⟩, le_of_readPort hport⟩
  · obtain ⟨rfl, hrest⟩ := Prod.mk.inj (Except.ok.inj h)
    obtain ⟨rfl, -⟩ := Prod.mk.inj hrest
    exact ⟨⟨_, hname⟩, fun n hn => by cases hn⟩

/-! ### Queries and fragments -/

/-- What may stand in a query. -/
theorem quiet_of_inQuery {c : Char} (h : isShown inQuery c = true) : c ≠ '#' ∧ 0x20 < c.toNat :=
  forall_of_isShown (p := fun c => c ≠ '#' ∧ 0x20 < c.toNat) (by decide +kernel) h

def tailText (query fragment : Option String) : List Char :=
  (marked "?" query).toList ++ (marked "#" fragment).toList

theorem toList_marked (mark part : String) : (marked mark (some part)).toList = mark.toList ++ part.toList :=
  String.toList_append

theorem mem_marked {mark : String} {part : Option String} {c : Char} (h : c ∈ (marked mark part).toList) :
    c ∈ mark.toList ∨ ∃ s ∈ part, c ∈ s.toList := by
  cases part with
  | none => exact absurd h (by simp [marked])
  | some s =>
    rw [toList_marked, List.mem_append] at h
    exact h.imp_right fun hc => ⟨s, rfl, hc⟩

/-- A query and a fragment are read back. -/
theorem readTail_tailText {scheme : String} (hweb : isSpecial scheme = false) {query fragment : Option String}
    (hq : ∀ q ∈ query, Written inQuery q) (hf : ∀ f ∈ fragment, Written inFragment f) :
    readTail scheme (tailText query fragment) = (query, fragment) := by
  have hfront : ∀ c ∈ (marked "?" query).toList, (c == '#') = false := fun c hc => by
    rcases mem_marked hc with hc | ⟨q, hsome, hc⟩
    · rw [List.mem_singleton.1 hc]
      rfl
    · exact beq_eq_false_iff_ne.2 (quiet_of_inQuery (hq q hsome c hc)).1
  have hback : ∀ c ∈ (marked "#" fragment).toList.head?, (c == '#') = true := by
    cases fragment with
    | none => exact fun c hc => absurd hc (by simp [marked])
    | some f =>
      intro c hc
      rw [toList_marked] at hc
      rw [← Option.some.inj hc]
      rfl
  rw [readTail, tailText, breakAt_append _ _ _ hfront hback, hweb]
  refine Prod.ext ?_ ?_
  · cases query with
    | none => simp [marked]
    | some q =>
      rw [toList_marked]
      exact congrArg some (percentEncode_of_written (hq q rfl))
  · cases fragment with
    | none => simp [marked]
    | some f =>
      rw [toList_marked]
      exact congrArg some (percentEncode_of_written (hf f rfl))

/-- The query and the fragment that are read. -/
theorem written_readTail {scheme : String} (hweb : isSpecial scheme = false) (cs : List Char) :
    (∀ q ∈ (readTail scheme cs).1, Written inQuery q) ∧ ∀ f ∈ (readTail scheme cs).2, Written inFragment f := by
  rw [readTail, hweb]
  refine ⟨fun q hq => ?_, fun f hf => ?_⟩
  · simp only at hq
    split at hq
    · cases hq
    · exact Option.some.inj hq ▸ written_percentEncode sound_inQuery _
  · simp only at hf
    split at hf
    · cases hf
    · exact Option.some.inj hf ▸ written_percentEncode sound_inFragment _

theorem visible_of_mem_tailText {query fragment : Option String} (hq : ∀ q ∈ query, Written inQuery q)
    (hf : ∀ f ∈ fragment, Written inFragment f) {c : Char} (hc : c ∈ tailText query fragment) : 0x20 < c.toNat := by
  have hfragment {c : Char} (h : isShown inFragment c = true) : 0x20 < c.toNat :=
    forall_of_isShown (p := fun c => 0x20 < c.toNat) (by decide +kernel) h
  rcases List.mem_append.1 hc with hc | hc
  · rcases mem_marked hc with hc | ⟨q, hsome, hc⟩
    · rw [List.mem_singleton.1 hc]
      decide
    · exact (quiet_of_inQuery (hq q hsome c hc)).2
  · rcases mem_marked hc with hc | ⟨f, hsome, hc⟩
    · rw [List.mem_singleton.1 hc]
      decide
    · exact hfragment (hf f hsome c hc)

/-- A path ends where a query or a fragment begins. -/
theorem endsPath_of_tailText {query fragment : Option String} {c : Char}
    (hc : c ∈ (tailText query fragment).head?) : endsPath c = true := by
  cases query with
  | some q =>
    rw [tailText, toList_marked] at hc
    rw [← Option.some.inj hc]
    rfl
  | none =>
    cases fragment with
    | some f =>
      rw [tailText, toList_marked] at hc
      rw [← Option.some.inj hc]
      rfl
    | none => cases hc

end SessionVault.Url
