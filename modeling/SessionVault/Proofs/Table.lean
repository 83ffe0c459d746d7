import Mathlib.Data.String.Basic
import SessionVault.Table

/-!
# Ascending tables

Tables are made by `Table.insert`, so their keys ascend and no key comes twice.  `Table.get?` of a table like that
does not depend on what else is in it:

* `ascending_insert`, `ascending_filter`, `ascending_erase`, `ascending_ofList` — every change keeps the order;
* `get?_filter` — what is under a key after entries were filtered out;
* `ofList_eq` — a table put together again from its own entries is the same table;
* `ofList_of_perm` — the entries of a table, in whatever order they come, make that table;
* `eq_of_get?` — two tables that say the same under every key are one table;
* `mem_keys_iff` — the keys are those under which something is found.
-/

namespace SessionVault.Table

variable {α : Type}

def Ascending (t : Table α) : Prop := t.Pairwise fun a b => a.1 < b.1

@[simp] theorem ascending_nil : Ascending ([] : Table α) := List.Pairwise.nil

theorem ascending_cons {e : String × α} {t : Table α} :
    Ascending (e :: t) ↔ (∀ e' ∈ t, e.1 < e'.1) ∧ Ascending t := List.pairwise_cons

/-! ### Changes that keep the order -/

/-- The keys of a table with a value put into it: the new key and the old ones. -/
theorem mem_insert {k : String} {v : α} {e : String × α} {t : Table α} (h : e ∈ t.insert k v) :
    e = (k, v) ∨ e ∈ t := by
  induction t with
  | nil => exact Or.inl (List.mem_singleton.mp h)
  | cons a t ih =>
    obtain ⟨k', v'⟩ := a
    simp only [insert] at h
    split at h
    · exact List.mem_cons.mp h
    · split at h
      · rcases List.mem_cons.mp h with h | h
        · exact Or.inl h
        · exact Or.inr (List.mem_cons_of_mem _ h)
      · rcases List.mem_cons.mp h with h | h
        · exact Or.inr (h ▸ List.mem_cons_self)
        · rcases ih h with h | h
          · exact Or.inl h
          · exact Or.inr (List.mem_cons_of_mem _ h)

theorem ascending_insert (k : String) (v : α) {t : Table α} (h : Ascending t) : Ascending (t.insert k v) := by
  induction t with
  | nil => exact List.pairwise_singleton _ _
  | cons a t ih =>
    obtain ⟨k', v'⟩ := a
    obtain ⟨hlt, ht⟩ := ascending_cons.mp h
    simp only [insert]
    split
    · rename_i hk
      refine ascending_cons.mpr ⟨?_, h⟩
      intro e he
      rcases List.mem_cons.mp he with rfl | he
      · exact hk
      · exact lt_trans hk (hlt e he)
    · rename_i hk
      split
      · rename_i hk'
        subst hk'
        exact ascending_cons.mpr ⟨hlt, ht⟩
      · rename_i hk'
        refine ascending_cons.mpr ⟨?_, ih ht⟩
        intro e he
        rcases mem_insert he with rfl | he
        · exact lt_of_le_of_ne (not_lt.mp hk) hk'
        · exact hlt e he

theorem ascending_filter (p : String × α → Bool) {t : Table α} (h : Ascending t) : Ascending (t.filter p) :=
  List.Pairwise.filter p h

theorem ascending_erase (k : String) {t : Table α} (h : Ascending t) : Ascending (t.erase k) :=
  ascending_filter _ h

theorem ascending_ofList (es : List (String × α)) : Ascending (ofList es) := by
  have go : ∀ (es : List (String × α)) (t : Table α), Ascending t →
      Ascending (es.foldl (fun t e => t.insert e.1 e.2) t) := by
    intro es
    induction es with
    | nil => exact fun t h => h
    | cons e es ih => exact fun t h => ih _ (ascending_insert e.1 e.2 h)
  exact go es [] ascending_nil

/-! ### Look-ups -/

theorem get?_cons (k k' : String) (v : α) (t : Table α) :
    get? k ((k', v) :: t) = if k' = k then some v else get? k t := rfl

/-- A key below all keys of a table has no value. -/
theorem get?_eq_none {k : String} {t : Table α} (h : ∀ e ∈ t, k < e.1) : t.get? k = none := by
  induction t with
  | nil => rfl
  | cons e t ih =>
    obtain ⟨k', v⟩ := e
    have hne : k' ≠ k := (h _ List.mem_cons_self).ne'
    rw [get?_cons, if_neg hne, ih fun e he => h e (List.mem_cons_of_mem _ he)]

/-- Filtering drops the value under a key exactly if it drops its entry. -/
theorem get?_filter (p : String × α → Bool) (k : String) {t : Table α} (h : Ascending t) :
    get? k (t.filter p) = (t.get? k).filter fun v => p (k, v) := by
  induction t with
  | nil => rfl
  | cons e t ih =>
    obtain ⟨k', v⟩ := e
    obtain ⟨hlt, ht⟩ := ascending_cons.mp h
    rw [List.filter_cons, get?_cons]
    by_cases hk : k' = k
    · subst hk
      rw [if_pos rfl]
      by_cases hp : p (k', v) = true
      · rw [if_pos hp, get?_cons, if_pos rfl, Option.filter_some_pos (by simpa using hp)]
      · rw [if_neg hp, Option.filter_some_neg (by simpa using hp)]
        exact get?_eq_none fun e he => hlt e (List.mem_filter.mp he).1
    · rw [if_neg hk]
      split
      · rw [get?_cons, if_neg hk, ih ht]
      · exact ih ht

/-- Taking a key out changes a table exactly if there is a value under it. -/
theorem erase_eq_self_iff {key : String} {t : Table α} : erase key t = t ↔ get? key t = none := by
  induction t with
  | nil => simp [erase]
  | cons e t ih =>
    obtain ⟨k, v⟩ := e
    rw [get?_cons]
    by_cases hk : k = key
    · rw [if_pos hk]
      refine iff_of_false ?_ (Option.some_ne_none v)
      intro h
      exact of_decide_eq_true (List.filter_eq_self.mp h (k, v) List.mem_cons_self) hk
    · have hcons : erase key ((k, v) :: t) = (k, v) :: erase key t :=
        List.filter_cons_of_pos (decide_eq_true hk)
      rw [if_neg hk, hcons, List.cons_inj_right]
      exact ih

/-! ### Tables put together again -/

/-- A key above all keys of a table goes to its end. -/
theorem insert_eq_append {k : String} {v : α} {t : Table α} (h : ∀ e ∈ t, e.1 < k) :
    t.insert k v = t ++ [(k, v)] := by
  induction t with
  | nil => rfl
  | cons e t ih =>
    obtain ⟨k', v'⟩ := e
    have hk : k' < k := h _ List.mem_cons_self
    rw [insert, if_neg (lt_asymm hk), if_neg hk.ne, ih fun e he => h e (List.mem_cons_of_mem _ he)]
    rfl

/-- Putting the entries of an ascending table behind lower ones, one after the other, appends them. -/
theorem foldl_insert_eq {t acc : Table α} (h : Ascending (acc ++ t)) :
    t.foldl (fun t e => t.insert e.1 e.2) acc = acc ++ t := by
  induction t generalizing acc with
  | nil => exact (List.append_nil acc).symm
  | cons e t ih =>
    have hacc : acc.insert e.1 e.2 = acc ++ [e] := by
      refine insert_eq_append ?_
      intro a ha
      exact (List.pairwise_append.mp h).2.2 a ha e List.mem_cons_self
    rw [List.foldl_cons, hacc, ih (by rwa [List.append_assoc]), List.append_assoc, List.singleton_append]

theorem ofList_eq {t : Table α} (h : Ascending t) : ofList t = t :=
  show List.foldl _ [] t = [] ++ t from foldl_insert_eq h

/-- The entries of a table put together are among those that it was put together from. -/
theorem mem_ofList {e : String × α} {es : List (String × α)} (h : e ∈ ofList es) : e ∈ es := by
  have go : ∀ (es : List (String × α)) (t : Table α),
      e ∈ es.foldl (fun t e => t.insert e.1 e.2) t → e ∈ t ∨ e ∈ es := by
    intro es
    induction es with
    | nil => exact fun t h => Or.inl h
    | cons a es ih =>
      intro t h
      rcases ih _ h with h | h
      · rcases mem_insert h with rfl | h
        · exact Or.inr List.mem_cons_self
        · exact Or.inl h
      · exact Or.inr (List.mem_cons_of_mem _ h)
  exact (go es [] h).resolve_left List.not_mem_nil

/-! ### One table in every order -/

theorem ne_of_ascending {t : Table α} (h : Ascending t) : t.Pairwise fun a b => a.1 ≠ b.1 := h.imp fun hlt => hlt.ne

/-- A table is told by its entries, in whatever order they are given. -/
theorem eq_of_perm {t t' : Table α} (h : Ascending t) (h' : Ascending t') (hperm : t.Perm t') : t = t' :=
  hperm.eq_of_pairwise (fun _ _ _ _ hab hba => absurd hba (lt_asymm hab)) h h'

/-- Putting in a value under a new key adds its entry. -/
theorem insert_perm {k : String} {v : α} {t : Table α} (h : ∀ e ∈ t, e.1 ≠ k) : (t.insert k v).Perm ((k, v) :: t) := by
  induction t with
  | nil => exact List.Perm.refl _
  | cons e t ih =>
    obtain ⟨k', v'⟩ := e
    rw [insert]
    split
    · exact List.Perm.refl _
    · rw [if_neg (h _ List.mem_cons_self)]
      exact ((ih fun e he => h e (List.mem_cons_of_mem _ he)).cons _).trans (List.Perm.swap _ _ _)

/-- Entries under different keys are all kept, in whatever order they are put in. -/
theorem foldl_insert_perm {es : List (String × α)} {acc : Table α}
    (h : (acc ++ es).Pairwise fun a b => a.1 ≠ b.1) :
    (es.foldl (fun t e => t.insert e.1 e.2) acc).Perm (acc ++ es) := by
  induction es generalizing acc with
  | nil => exact (List.append_nil acc).symm ▸ List.Perm.refl acc
  | cons e es ih =>
    have hnew : (acc.insert e.1 e.2).Perm (e :: acc) :=
      insert_perm fun a ha => (List.pairwise_append.mp h).2.2 a ha e List.mem_cons_self
    have hmove : (acc.insert e.1 e.2 ++ es).Perm (acc ++ e :: es) :=
      (hnew.append_right es).trans List.perm_middle.symm
    exact (ih ((hmove.pairwise_iff fun hab => hab.symm).mpr h)).trans hmove

/-- The entries of a table are put together to that table in every order. -/
theorem ofList_of_perm {t : Table α} {es : List (String × α)} (h : Ascending t) (hperm : es.Perm t) :
    ofList es = t := by
  have hne : es.Pairwise fun a b => a.1 ≠ b.1 :=
    (hperm.pairwise_iff fun hab => hab.symm).mpr (ne_of_ascending h)
  have hkept : (ofList es).Perm ([] ++ es) := foldl_insert_perm hne
  exact eq_of_perm (ascending_ofList es) h (hkept.trans hperm)

/-- What is in a table is what is found in it. -/
theorem mem_iff_get? {k : String} {v : α} {t : Table α} (h : Ascending t) : (k, v) ∈ t ↔ t.get? k = some v := by
  induction t with
  | nil => simp
  | cons e t ih =>
    obtain ⟨k', v'⟩ := e
    obtain ⟨hlt, ht⟩ := ascending_cons.mp h
    rw [List.mem_cons, get?_cons, ih ht]
    by_cases hk : k' = k
    · subst hk
      have hnone := get?_eq_none hlt
      simp [hnone, eq_comm]
    · simp [hk, Ne.symm hk]

/-- A table is told by what is found in it. -/
theorem eq_of_get? {t t' : Table α} (h : Ascending t) (h' : Ascending t') (hget : ∀ k, t.get? k = t'.get? k) :
    t = t' := by
  have hnodup : ∀ {t : Table α}, Ascending t → t.Nodup :=
    fun ht => (ne_of_ascending ht).imp fun hne heq => hne (congrArg Prod.fst heq)
  refine eq_of_perm h h' ((List.perm_ext_iff_of_nodup (hnodup h) (hnodup h')).mpr ?_)
  rintro ⟨k, v⟩
  rw [mem_iff_get? h, mem_iff_get? h', hget]

/-! ### Keys -/

theorem nodup_keys {t : Table α} (h : Ascending t) : t.keys.Nodup := List.pairwise_map.mpr (ne_of_ascending h)

theorem mem_keys_iff {k : String} {t : Table α} (h : Ascending t) : k ∈ t.keys ↔ (t.get? k).isSome := by
  rw [keys, List.mem_map, Option.isSome_iff_exists]
  constructor
  · rintro ⟨⟨k', v⟩, he, rfl⟩
    exact ⟨v, (mem_iff_get? h).mp he⟩
  · rintro ⟨v, hv⟩
    exact ⟨(k, v), (mem_iff_get? h).mpr hv, rfl⟩

end SessionVault.Table
