import SessionVault.Json.Tree
import SessionVault.Proofs.Json.Literal
import SessionVault.Proofs.Json.Number

/-!
# The tree of a written value

`Json.render` writes a value without blanks.  `Tree.written` is the tree that its text has in front of a rest, with
every node in its place, and `value?_render` says that this is the tree that is read.  The induction is on the value,
its items and its members at once; the fuel has to be twice the length of the text, which leaves one call for each
bracket and one for each comma.
-/

namespace SessionVault.Tree

open Json Numeral

/-! ### Written trees -/

/-- What follows an item: the end of the array, or a comma and the items behind it. -/
def behindItem (items : List Json) (rest : Bytes) : Bytes :=
  match items with
  | [] => rest
  | v :: vs => 0x2c :: (renderItems (v :: vs) ++ rest)

def behindMember (members : List (String × Json)) (rest : Bytes) : Bytes :=
  match members with
  | [] => rest
  | m :: ms => 0x2c :: (renderMembers (m :: ms) ++ rest)

theorem renderItems_cons (v : Json) (vs : List Json) (rest : Bytes) :
    renderItems (v :: vs) ++ rest = render v ++ behindItem vs rest := by
  cases vs with
  | nil => rfl
  | cons w vs => rw [renderItems.eq_def]; simp [behindItem]

theorem renderMembers_cons (k : String) (v : Json) (ms : List (String × Json)) (rest : Bytes) :
    renderMembers ((k, v) :: ms) ++ rest = quote k ++ 0x3a :: (render v ++ behindMember ms rest) := by
  cases ms with
  | nil => rw [renderMembers.eq_def]; simp [behindMember]
  | cons m ms => rw [renderMembers.eq_def]; simp [behindMember]

mutual

/-- The tree of the text of a value in front of a rest. -/
def written : Json → Bytes → Tree
  | .null, rest => .null ⟨render .null ++ rest, rest⟩
  | .bool b, rest => .bool ⟨render (.bool b) ++ rest, rest⟩ b
  | .number n, rest => .number ⟨render (.number n) ++ rest, rest⟩ n.again
  | .string s, rest => .string ⟨render (.string s) ++ rest, rest⟩ (Literal.written s)
  | .array items, rest => .array ⟨render (.array items) ++ rest, rest⟩ (writtenItems items (0x5d :: rest))
  | .object members, rest => .object ⟨render (.object members) ++ rest, rest⟩ (writtenMembers members (0x7d :: rest))

def writtenItems : List Json → Bytes → List Tree
  | [], _ => []
  | v :: vs, rest => written v (behindItem vs rest) :: writtenItems vs rest

def writtenMembers : List (String × Json) → Bytes → List (Key × Tree)
  | [], _ => []
  | (k, v) :: ms, rest =>
    (⟨⟨quote k ++ 0x3a :: (render v ++ behindMember ms rest), 0x3a :: (render v ++ behindMember ms rest)⟩,
      Literal.written k⟩, written v (behindMember ms rest)) :: writtenMembers ms rest

end

/-! ### The front of a text -/

/-- An octet that a value may start with. -/
def Starts (b : UInt8) : Prop := isBlank b = false ∧ b ≠ 0x5d ∧ b ≠ 0x7d

theorem starts_of_numeral {b : UInt8} (h : b = 0x2d ∨ Numeral.isDigit b = true) :
    Starts b ∧ b ≠ 0x5b ∧ b ≠ 0x7b ∧ b ≠ 0x22 ∧ b ≠ 0x6e ∧ b ≠ 0x74 ∧ b ≠ 0x66 := by
  rcases h with rfl | h
  · exact ⟨⟨rfl, by decide, by decide⟩, by decide, by decide, by decide, by decide, by decide, by decide⟩
  · simp only [Numeral.isDigit, Bool.and_eq_true, decide_eq_true_eq, UInt8.le_iff_toNat_le] at h
    have hlow : 48 ≤ b.toNat := h.1
    have hhigh : b.toNat ≤ 57 := h.2
    have hne : ∀ c : UInt8, c.toNat < 48 ∨ 57 < c.toNat → b ≠ c := by
      rintro c hc rfl
      omega
    refine ⟨⟨?_, hne _ (by decide), hne _ (by decide)⟩, hne _ (by decide), hne _ (by decide), hne _ (by decide),
      hne _ (by decide), hne _ (by decide), hne _ (by decide)⟩
    simp only [isBlank, Bool.or_eq_false_iff, beq_eq_false_iff_ne]
    exact ⟨⟨⟨hne _ (by decide), hne _ (by decide)⟩, hne _ (by decide)⟩, hne _ (by decide)⟩

/-- A numeral starts with a digit or a minus sign. -/
theorem front_of_scan? {b : UInt8} {bs : Bytes} (h : (Numeral.scan? (b :: bs)).isSome = true) :
    b = 0x2d ∨ Numeral.isDigit b = true := by
  by_cases hminus : b = 0x2d
  · exact Or.inl hminus
  · right
    cases hdigit : Numeral.isDigit b with
    | true => rfl
    | false =>
      have hfront : Numeral.whole? (b :: bs) = none := by
        rw [Numeral.whole?]
        split
        · rename_i h0
          rw [h0] at hdigit
          cases hdigit
        · rw [Numeral.digits?, Numeral.digits, List.takeWhile_cons, hdigit]
          rfl
      rw [Numeral.scan?] at h
      simp only [if_neg hminus, hfront] at h
      cases h

theorem render_number_front (n : Number) : ∃ b bs, render (.number n) = b :: bs ∧
    (b = 0x2d ∨ Numeral.isDigit b = true) := by
  obtain ⟨numeral, -, hscan⟩ := n.scan?_text
  have h := hscan [] (fun b hb => by cases hb)
  rw [List.append_nil] at h
  rw [render]
  cases ht : Bytes.ofString n.text with
  | nil =>
    rw [ht] at h
    cases h
  | cons b bs =>
    rw [ht] at h
    exact ⟨b, bs, rfl, front_of_scan? (by rw [h]; rfl)⟩

theorem render_front (v : Json) : ∃ b bs, render v = b :: bs ∧ Starts b := by
  cases v with
  | null => exact ⟨0x6e, Bytes.ofString "ull", by decide, rfl, by decide, by decide⟩
  | bool b =>
    cases b with
    | true => exact ⟨0x74, Bytes.ofString "rue", by decide, rfl, by decide, by decide⟩
    | false => exact ⟨0x66, Bytes.ofString "alse", by decide, rfl, by decide, by decide⟩
  | number n =>
    obtain ⟨b, bs, h, hb⟩ := render_number_front n
    exact ⟨b, bs, h, (starts_of_numeral hb).1⟩
  | string s => exact ⟨0x22, _, rfl, rfl, by decide, by decide⟩
  | array items => exact ⟨0x5b, _, rfl, rfl, by decide, by decide⟩
  | object members => exact ⟨0x7b, _, rfl, rfl, by decide, by decide⟩

theorem skip_cons {b : UInt8} {bs : Bytes} (h : isBlank b = false) : skip (b :: bs) = b :: bs := by
  rw [skip, List.dropWhile_cons, h]
  rfl

/-- No blank stands in front of a value. -/
theorem skip_render (v : Json) (rest : Bytes) : skip (render v ++ rest) = render v ++ rest := by
  obtain ⟨b, bs, h, hb, -, -⟩ := render_front v
  rw [h]
  exact skip_cons hb

/-- What follows an item or a member cannot belong to a number. -/
theorem ends_cons {b : UInt8} (h : b = 0x2c ∨ b = 0x5d ∨ b = 0x7d) (rest : Bytes) : Ends (b :: rest) := by
  intro c hc
  cases hc
  rcases h with rfl | rfl | rfl
  · exact ⟨rfl, by decide, by decide, by decide⟩
  · exact ⟨rfl, by decide, by decide, by decide⟩
  · exact ⟨rfl, by decide, by decide, by decide⟩

theorem ends_behindItem (vs : List Json) (rest : Bytes) : Ends (behindItem vs (0x5d :: rest)) := by
  cases vs with
  | nil => exact ends_cons (Or.inr (Or.inl rfl)) rest
  | cons v vs => exact ends_cons (Or.inl rfl) _

theorem ends_behindMember (ms : List (String × Json)) (rest : Bytes) : Ends (behindMember ms (0x7d :: rest)) := by
  cases ms with
  | nil => exact ends_cons (Or.inr (Or.inr rfl)) rest
  | cons m ms => exact ends_cons (Or.inl rfl) _

/-! ### Reading one part -/

theorem value?_number {b : UInt8} {bs : Bytes} (hb : b = 0x2d ∨ Numeral.isDigit b = true) (fuel : Nat) :
    value? (fuel + 1) (b :: bs) =
      (Numeral.scan? (b :: bs)).map fun (n, rest) => (.number ⟨b :: bs, rest⟩ n.value?, rest) := by
  obtain ⟨-, h5b, h7b, h22, h6e, h74, h66⟩ := starts_of_numeral hb
  rw [value?, if_neg h5b, if_neg h7b, if_neg h22, if_neg h6e, if_neg h74, if_neg h66]
  cases Numeral.scan? (b :: bs) <;> rfl

theorem quote_append (s : String) (rest : Bytes) :
    quote s ++ rest = 0x22 :: ((Bytes.ofString s).flatMap escapeByte ++ 0x22 :: rest) := by
  simp [quote]

theorem value?_string (fuel : Nat) (s : String) (rest : Bytes) :
    value? (fuel + 1) (quote s ++ rest) = some (.string ⟨quote s ++ rest, rest⟩ (Literal.written s), rest) := by
  have hscan := Literal.scan?_quoted (Bytes.ofString s) rest
  rw [quote_append, value?]
  show (Literal.scan? ((Bytes.ofString s).flatMap escapeByte ++ 0x22 :: rest)).bind _ = _
  rw [hscan]
  rfl

/-- An array that does not end at once is read item by item. -/
theorem value?_array {fuel : Nat} {bs rest : Bytes} {items : List Tree} (hw : word? [0x5d] (skip bs) = none)
    (h : items? fuel bs = some (items, rest)) :
    value? (fuel + 1) (0x5b :: bs) = some (.array ⟨0x5b :: bs, rest⟩ items, rest) := by
  rw [value?, if_pos rfl, hw, h]
  rfl

theorem value?_object {fuel : Nat} {bs rest : Bytes} {members : List (Key × Tree)}
    (hw : word? [0x7d] (skip bs) = none) (h : members? fuel bs = some (members, rest)) :
    value? (fuel + 1) (0x7b :: bs) = some (.object ⟨0x7b :: bs, rest⟩ members, rest) := by
  rw [value?, if_neg (by decide), if_pos rfl, hw, h]
  rfl

/-- The last item, and an item before others. -/
theorem items?_last {fuel : Nat} {bs rest : Bytes} {t : Tree} (h : value? fuel (skip bs) = some (t, 0x5d :: rest)) :
    items? (fuel + 1) bs = some ([t], rest) := by
  rw [items?, h]
  rfl

theorem items?_more {fuel : Nat} {bs more rest : Bytes} {t : Tree} {ts : List Tree}
    (h : value? fuel (skip bs) = some (t, 0x2c :: more)) (hmore : items? fuel more = some (ts, rest)) :
    items? (fuel + 1) bs = some (t :: ts, rest) := by
  rw [items?, h]
  show (items? fuel more).bind _ = _
  rw [hmore]
  rfl

/-- A member is read from its key to the octet that follows its value. -/
theorem members?_quote (fuel : Nat) (k : String) (bs : Bytes) :
    members? (fuel + 1) (quote k ++ 0x3a :: bs) = (do
      let (t, rest) ← value? fuel (skip bs)
      let member : Key × Tree := (⟨⟨quote k ++ 0x3a :: bs, 0x3a :: bs⟩, Literal.written k⟩, t)
      match skip rest with
      | [] => none
      | b :: rest =>
        if b = 0x2c then
          let (ms, rest) ← members? fuel rest
          return (member :: ms, rest)
        else if b = 0x7d then return ([member], rest)
        else none) := by
  have hscan := Literal.scan?_quoted (Bytes.ofString k) (0x3a :: bs)
  have hskip : skip (quote k ++ 0x3a :: bs) = quote k ++ 0x3a :: bs := by
    rw [quote_append]
    exact skip_cons rfl
  rw [members?, hskip]
  simp only [quote_append]
  show (Literal.scan? ((Bytes.ofString k).flatMap escapeByte ++ 0x22 :: 0x3a :: bs)).bind _ = _
  rw [hscan]
  rfl

theorem members?_last {fuel : Nat} {k : String} {bs rest : Bytes} {t : Tree}
    (h : value? fuel (skip bs) = some (t, 0x7d :: rest)) :
    members? (fuel + 1) (quote k ++ 0x3a :: bs) =
      some ([(⟨⟨quote k ++ 0x3a :: bs, 0x3a :: bs⟩, Literal.written k⟩, t)], rest) := by
  rw [members?_quote, h]
  rfl

theorem members?_more {fuel : Nat} {k : String} {bs more rest : Bytes} {t : Tree} {ms : List (Key × Tree)}
    (h : value? fuel (skip bs) = some (t, 0x2c :: more)) (hmore : members? fuel more = some (ms, rest)) :
    members? (fuel + 1) (quote k ++ 0x3a :: bs) =
      some ((⟨⟨quote k ++ 0x3a :: bs, 0x3a :: bs⟩, Literal.written k⟩, t) :: ms, rest) := by
  rw [members?_quote, h]
  show (members? fuel more).bind _ = _
  rw [hmore]
  rfl

/-! ### Reading a written value -/

theorem length_render_pos (v : Json) : 0 < (render v).length := by
  obtain ⟨b, bs, h, -⟩ := render_front v
  rw [h]
  exact Nat.succ_pos _

/-- Neither bracket ends an array or an object in front of its first part. -/
theorem word?_renderItems (v : Json) (vs : List Json) (rest : Bytes) :
    word? [0x5d] (skip (renderItems (v :: vs) ++ rest)) = none := by
  obtain ⟨b, bs, h, hb, hne, -⟩ := render_front v
  rw [renderItems_cons, skip_render, h]
  exact if_neg hne.symm

theorem word?_renderMembers (k : String) (v : Json) (ms : List (String × Json)) (rest : Bytes) :
    word? [0x7d] (skip (renderMembers ((k, v) :: ms) ++ rest)) = none := by
  rw [renderMembers_cons, quote_append, skip_cons rfl]
  rfl

mutual

/-- The text of a value is read as its tree, in front of whatever cannot belong to a number. -/
theorem value?_render : ∀ (v : Json) (fuel : Nat) (rest : Bytes), 2 * (render v).length ≤ fuel → Ends rest →
    value? fuel (render v ++ rest) = some (written v rest, rest)
  | v, 0, _, hf, _ => absurd (length_render_pos v) (by omega)
  | .null, fuel + 1, rest, _, _ => rfl
  | .bool true, fuel + 1, rest, _, _ => rfl
  | .bool false, fuel + 1, rest, _, _ => rfl
  | .number n, fuel + 1, rest, _, hr => by
    obtain ⟨b, bs, hb, hstart⟩ := render_number_front n
    obtain ⟨numeral, hvalue, hscan⟩ := n.scan?_text
    have h := hscan rest hr
    rw [written, ← hvalue]
    rw [← render, hb, List.cons_append] at h
    rw [hb, List.cons_append, value?_number hstart, h]
    rfl
  | .string s, fuel + 1, rest, _, _ => value?_string fuel s rest
  | .array [], fuel + 1, rest, _, _ => rfl
  | .array (v :: vs), fuel + 1, rest, hf, _ => by
    have hlen : 2 * (renderItems (v :: vs)).length + 1 ≤ fuel := by
      simp only [render, List.length_append, List.length_cons, List.length_nil] at hf
      omega
    have hitems := items?_render v vs fuel rest hlen
    rw [written]
    simp only [render, List.cons_append, List.append_assoc, List.nil_append] at hitems ⊢
    exact value?_array (word?_renderItems v vs _) hitems
  | .object [], fuel + 1, rest, _, _ => rfl
  | .object ((k, v) :: ms), fuel + 1, rest, hf, _ => by
    have hlen : 2 * (renderMembers ((k, v) :: ms)).length + 1 ≤ fuel := by
      simp only [render, List.length_append, List.length_cons, List.length_nil] at hf
      omega
    have hmembers := members?_render k v ms fuel rest hlen
    rw [written]
    simp only [render, List.cons_append, List.append_assoc, List.nil_append] at hmembers ⊢
    exact value?_object (word?_renderMembers k v ms _) hmembers

theorem items?_render : ∀ (v : Json) (vs : List Json) (fuel : Nat) (rest : Bytes),
    2 * (renderItems (v :: vs)).length + 1 ≤ fuel →
    items? fuel (renderItems (v :: vs) ++ 0x5d :: rest) = some (writtenItems (v :: vs) (0x5d :: rest), rest)
  | _, _, 0, _, hf => absurd hf (by omega)
  | v, [], fuel + 1, rest, hf => by
    have hv := value?_render v fuel (0x5d :: rest) (by simp only [renderItems] at hf; omega)
      (ends_behindItem [] rest)
    rw [renderItems_cons]
    exact items?_last (by rw [skip_render]; exact hv)
  | v, w :: vs, fuel + 1, rest, hf => by
    have hlen : 2 * ((render v).length + (renderItems (w :: vs)).length) + 3 ≤ fuel + 1 := by
      rw [renderItems.eq_def] at hf
      simp only [List.length_append, List.length_cons] at hf
      omega
    have hv := value?_render v fuel (behindItem (w :: vs) (0x5d :: rest)) (by omega) (ends_behindItem _ rest)
    have hvs := items?_render w vs fuel rest (by omega)
    rw [renderItems_cons]
    exact items?_more (by rw [skip_render]; exact hv) hvs

theorem members?_render : ∀ (k : String) (v : Json) (ms : List (String × Json)) (fuel : Nat) (rest : Bytes),
    2 * (renderMembers ((k, v) :: ms)).length + 1 ≤ fuel →
    members? fuel (renderMembers ((k, v) :: ms) ++ 0x7d :: rest) =
      some (writtenMembers ((k, v) :: ms) (0x7d :: rest), rest)
  | _, _, _, 0, _, hf => absurd hf (by omega)
  | k, v, [], fuel + 1, rest, hf => by
    have hlen : 2 * (render v).length ≤ fuel := by
      simp only [renderMembers, List.length_append, List.length_cons] at hf
      omega
    have hv := value?_render v fuel (0x7d :: rest) hlen (ends_behindMember [] rest)
    rw [renderMembers_cons]
    exact members?_last (by rw [skip_render]; exact hv)
  | k, v, (k', w) :: ms, fuel + 1, rest, hf => by
    have hlen : 2 * ((render v).length + (renderMembers ((k', w) :: ms)).length) + 3 ≤ fuel + 1 := by
      rw [renderMembers.eq_def] at hf
      simp only [List.length_append, List.length_cons] at hf
      omega
    have hv := value?_render v fuel (behindMember ((k', w) :: ms) (0x7d :: rest)) (by omega) (ends_behindMember _ rest)
    have hms := members?_render k' w ms fuel rest (by omega)
    rw [renderMembers_cons]
    exact members?_more (by rw [skip_render]; exact hv) hms

end

/-- The text of a value is read as its tree. -/
theorem read?_render (v : Json) : read? (render v) = some (written v []) := by
  have hvalue := value?_render v (2 * (render v).length + 2) [] (by omega) (fun b hb => by cases hb)
  have hskip := skip_render v []
  rw [List.append_nil] at hvalue hskip
  rw [read?, hskip, hvalue]
  rfl

end SessionVault.Tree
