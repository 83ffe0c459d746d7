import SessionVault.Proofs.Url.Address
import SessionVault.Proofs.Url.Percent
import SessionVault.Url.Reader

/-!
# Hosts are read back

The host of a scheme that is not for the web is an address in brackets or a name.  Either is written so that it
ends where the text goes on with a port, a path, a query or a fragment, and so that reading it again changes
nothing.

* `breakAt_append` — a text is broken at the first character of a kind;
* `readName_cases` — what a host is;
* `readName_readName` — a host is read as itself;
* `hostText_append` — a host ends where the text in front of the path goes on;
* `quiet_of_readName` — no character of a host ends it or belongs to a user.
-/

namespace SessionVault.Url

/-! ### Breaking -/

theorem breakAt_append (stop : Char → Bool) (front rest : List Char) (h : ∀ c ∈ front, stop c = false)
    (hrest : ∀ c ∈ rest.head?, stop c = true) : breakAt stop (front ++ rest) = (front, rest) := by
  have hpos : ∀ c ∈ front, (!stop c) = true := fun c hc => by rw [h c hc]; rfl
  rw [breakAt, List.takeWhile_append_of_pos hpos, List.dropWhile_append_of_pos hpos]
  cases rest with
  | nil => rw [List.takeWhile_nil, List.append_nil, List.dropWhile_nil]
  | cons c rest =>
    have hc : stop c = true := hrest c rfl
    rw [List.takeWhile_cons, List.dropWhile_cons, hc]
    simp

/-- Nothing is lost where a text is broken, and the first part goes as far as it can. -/
theorem breakAt_spec (stop : Char → Bool) (cs : List Char) :
    cs = (breakAt stop cs).1 ++ (breakAt stop cs).2 ∧ ∀ c ∈ (breakAt stop cs).1, stop c = false := by
  refine ⟨List.takeWhile_append_dropWhile.symm, fun c hc => ?_⟩
  have hall := List.all_eq_true.1 List.all_takeWhile c hc
  exact Bool.not_eq_eq_eq_not.1 hall

/-! ### What a host is -/

/-- The characters of an address are colons and digits. -/
theorem mem_piecesText {ps : List Nat} {c : Char} (h : c ∈ (piecesText ps).toList) :
    c = ':' ∨ ∃ d < 16, c = Nat.digitChar d := by
  rw [toList_piecesText] at h
  induction ps with
  | nil => exact absurd h List.not_mem_nil
  | cons p ps ih =>
    cases ps with
    | nil =>
      rw [List.map_singleton, List.intercalate, List.intersperse_singleton, List.flatten_singleton] at h
      exact .inr (exists_of_mem_toDigits h)
    | cons q ps =>
      rw [List.map_cons, List.map_cons, List.intercalate_cons_cons, List.append_assoc, List.mem_append,
        List.singleton_append, List.mem_cons] at h
      rcases h with h | h | h
      · exact .inr (exists_of_mem_toDigits h)
      · exact .inl h
      · exact ih h

theorem mem_ipv6Text {ps : List Nat} {c : Char} (h : c ∈ (ipv6Text ps).toList) :
    c = ':' ∨ ∃ d < 16, c = Nat.digitChar d := by
  rw [ipv6Text] at h
  cases hgap : longestGap ps with
  | mk start n =>
    rw [hgap] at h
    by_cases hn : n < 2
    · exact mem_piecesText (by simpa only [hn, if_true] using h)
    · simp only [hn, if_false, String.toList_append, List.mem_append] at h
      rcases h with (h | h) | h
      · exact mem_piecesText h
      · left
        simpa using h
      · exact mem_piecesText h

/-- A host is an address in brackets, or a name of characters that are shown and not forbidden. -/
theorem readName_cases {cs : List Char} {host : String} (h : readName cs = .ok host) :
    (∃ ps : List Nat, ps.length = 8 ∧ (∀ p ∈ ps, p < 65536) ∧ host = "[" ++ ipv6Text ps ++ "]") ∨
      ∀ c ∈ host.toList, isShown isControl c = true ∧ isForbidden c = false := by
  unfold readName at h
  split at h
  · next rest =>
    left
    rw [bracketed] at h
    split at h
    · split at h
      · next ps hps =>
        obtain ⟨hlen, hlt⟩ := readIpv6_spec hps
        exact ⟨ps, hlen, hlt, (Except.ok.inj h).symm⟩
      · cases h
    · cases h
  · right
    split at h
    · cases h
    · next hforbidden =>
      rw [← Except.ok.inj h, String.toList_ofList]
      refine fun c hc => ⟨isShown_of_mem_percentEncode sound_isControl hc, ?_⟩
      rcases mem_percentEncode hc with hmem | rfl | ⟨n, hn, rfl⟩
      · exact Bool.eq_false_iff.2 fun hbad => hforbidden (List.any_eq_true.2 ⟨c, hmem, hbad⟩)
      · rfl
      · exact (by decide : ∀ n < 16, isForbidden (upperDigit n) = false) n hn

/-- A name without a bracket in front is a host of its own. -/
theorem readName_of_shown {host : String}
    (h : ∀ c ∈ host.toList, isShown isControl c = true ∧ isForbidden c = false) :
    readName host.toList = .ok host := by
  have hany : ¬ host.toList.any isForbidden = true := fun hany => by
    obtain ⟨c, hc, hbad⟩ := List.any_eq_true.1 hany
    exact Bool.false_ne_true ((h c hc).2.symm.trans hbad)
  unfold readName
  split
  · next rest hhost =>
    exact absurd (h '[' (hhost ▸ List.mem_cons_self)).2 (by decide)
  · rw [if_neg hany, percentEncode_of_shown fun c hc => (h c hc).1, String.ofList_toList]

theorem toList_bracketed (text : String) : ("[" ++ text ++ "]").toList = '[' :: (text.toList ++ [']']) := by
  simp

theorem readName_bracketed {ps : List Nat} (hlen : ps.length = 8) (h : ∀ p ∈ ps, p < 65536) :
    readName ("[" ++ ipv6Text ps ++ "]").toList = .ok ("[" ++ ipv6Text ps ++ "]") := by
  have hlast : ('[' :: ((ipv6Text ps).toList ++ [']'])).getLast? = some ']' := by
    rw [← List.cons_append, List.getLast?_append]
    rfl
  have hinner : (('[' :: ((ipv6Text ps).toList ++ [']'])).drop 1).dropLast = (ipv6Text ps).toList := by
    rw [List.drop_one, List.tail_cons, List.dropLast_concat]
  rw [toList_bracketed, readName, bracketed, if_pos hlast, hinner, readIpv6_ipv6Text hlen h]

/-- Reading a host again changes nothing. -/
theorem readName_readName {cs : List Char} {host : String} (h : readName cs = .ok host) :
    readName host.toList = .ok host := by
  rcases readName_cases h with ⟨ps, hlen, hlt, rfl⟩ | hshown
  · exact readName_bracketed hlen hlt
  · exact readName_of_shown hshown

/-! ### Where a host ends -/

theorem hostText_of_stop {special : Bool} {rest : List Char} (h : ∀ c ∈ rest.head?, endsHost special c = true) :
    hostText special false rest = ([], rest) := by
  cases rest with
  | nil => rfl
  | cons c rest =>
    have hc : endsHost special c = true := h c rfl
    rw [endsHost] at hc
    rw [hostText, Bool.not_false, Bool.and_true, if_pos hc]

/-- A character outside brackets that does not end the host belongs to it. -/
theorem hostText_cons {special : Bool} {c : Char} (h : endsHost special c = false) (hbracket : c ≠ '[')
    (rest : List Char) : hostText special false (c :: rest) =
      (c :: (hostText special false rest).1, (hostText special false rest).2) := by
  rw [endsHost] at h
  have hinside : (if (c == '[') = true then true else if (c == ']') = true then false else false) = false := by
    simp [hbracket]
  rw [hostText, Bool.not_false, Bool.and_true, h, hinside]
  rfl

theorem hostText_name {special : Bool} {cs : List Char}
    (h : ∀ c ∈ cs, endsHost special c = false ∧ c ≠ '[') {rest : List Char}
    (hrest : ∀ c ∈ rest.head?, endsHost special c = true) :
    hostText special false (cs ++ rest) = (cs, rest) := by
  induction cs with
  | nil => exact hostText_of_stop hrest
  | cons c cs ih =>
    have hc := h c List.mem_cons_self
    rw [List.cons_append, hostText_cons hc.1 hc.2, ih fun d hd => h d (List.mem_cons_of_mem c hd)]

/-- Inside brackets a colon belongs to the host. -/
theorem hostText_inside {special : Bool} {cs : List Char}
    (h : ∀ c ∈ cs, endsAuthority special c = false ∧ c ≠ ']') (rest : List Char) :
    hostText special true (cs ++ ']' :: rest) =
      (cs ++ ']' :: (hostText special false rest).1, (hostText special false rest).2) := by
  induction cs with
  | nil => cases special <;> rfl
  | cons c cs ih =>
    obtain ⟨hends, hbracket⟩ := h c List.mem_cons_self
    have hinside : (if (c == '[') = true then true else if (c == ']') = true then false else true) = true := by
      simp [hbracket]
    rw [List.cons_append, hostText, Bool.not_true, Bool.and_false, hends, hinside,
      ih fun d hd => h d (List.mem_cons_of_mem c hd)]
    rfl

/-- What may not stand in a host outside brackets. -/
theorem ends_of_shown {c : Char} (h : isShown isControl c = true) (hforbidden : isForbidden c = false) :
    endsHost false c = false ∧ c ≠ '[' ∧ c ≠ '@' ∧ 0x20 < c.toNat := by
  exact forall_of_isShown (p := fun c => isForbidden c = false →
    endsHost false c = false ∧ c ≠ '[' ∧ c ≠ '@' ∧ 0x20 < c.toNat) (by decide +kernel) h hforbidden

/-- What may stand in an address. -/
theorem ends_of_address {c : Char} (h : c = ':' ∨ ∃ d < 16, c = Nat.digitChar d) :
    endsAuthority false c = false ∧ c ≠ ']' ∧ c ≠ '@' ∧ 0x20 < c.toNat := by
  rcases h with rfl | ⟨d, hd, rfl⟩
  · decide
  · exact (by decide : ∀ d < 16, endsAuthority false (Nat.digitChar d) = false ∧ Nat.digitChar d ≠ ']' ∧
      Nat.digitChar d ≠ '@' ∧ 0x20 < (Nat.digitChar d).toNat) d hd

/-- A host ends where the text goes on with a port, a path, a query or a fragment. -/
theorem hostText_append {cs : List Char} {host : String} (h : readName cs = .ok host) {rest : List Char}
    (hrest : ∀ c ∈ rest.head?, endsHost false c = true) :
    hostText false false (host.toList ++ rest) = (host.toList, rest) := by
  rcases readName_cases h with ⟨ps, -, -, rfl⟩ | hshown
  · have haddress : ∀ c ∈ (ipv6Text ps).toList, endsAuthority false c = false ∧ c ≠ ']' := fun c hc =>
      ⟨(ends_of_address (mem_ipv6Text hc)).1, (ends_of_address (mem_ipv6Text hc)).2.1⟩
    have hinside := hostText_inside haddress rest
    rw [hostText_of_stop hrest] at hinside
    rw [toList_bracketed, List.cons_append, List.append_assoc, List.singleton_append]
    show ('[' :: (hostText false true _).1, (hostText false true _).2) = _
    rw [hinside]
  · refine hostText_name (fun c hc => ?_) hrest
    obtain ⟨hends, hbracket, -, -⟩ := ends_of_shown (hshown c hc).1 (hshown c hc).2
    exact ⟨hends, hbracket⟩

/-- No character of a host ends the part in front of the path or a user, or is a blank. -/
theorem quiet_of_readName {cs : List Char} {host : String} (h : readName cs = .ok host) {c : Char}
    (hc : c ∈ host.toList) : endsAuthority false c = false ∧ c ≠ '@' ∧ 0x20 < c.toNat := by
  rcases readName_cases h with ⟨ps, -, -, rfl⟩ | hshown
  · rw [toList_bracketed, List.mem_cons, List.mem_append, List.mem_singleton] at hc
    rcases hc with rfl | hc | rfl
    · decide
    · obtain ⟨hends, -, huser, hblank⟩ := ends_of_address (mem_ipv6Text hc)
      exact ⟨hends, huser, hblank⟩
    · decide
  · obtain ⟨hends, -, huser, hblank⟩ := ends_of_shown (hshown c hc).1 (hshown c hc).2
    exact ⟨(Bool.or_eq_false_iff.1 hends).2, huser, hblank⟩

end SessionVault.Url
