/-!
# Tables: values under text keys, in the order of the keys

A table is a list of pairs kept in ascending order of the keys, each key once.  `Table.insert` puts a pair in
its place and `Table.erase` takes a key out; what they do to `Table.get?` is said by `get?_insert` and
`get?_erase`, which hold of every list of pairs.
-/

namespace SessionVault

/-- Values under text keys. -/
abbrev Table (α : Type) := List (String × α)

namespace Table

variable {α : Type}

def get? (k : String) : Table α → Option α
  | [] => none
  | (k', v) :: t => if k' = k then some v else get? k t

/-- The table with a value put under a key, in the place of the value that was there. -/
def insert (k : String) (v : α) : Table α → Table α
  | [] => [(k, v)]
  | (k', v') :: t =>
    if k < k' then (k, v) :: (k', v') :: t
    else if k' = k then (k, v) :: t
    else (k', v') :: insert k v t

def erase (k : String) (t : Table α) : Table α := t.filter fun e => e.1 ≠ k

def has (k : String) (t : Table α) : Bool := (t.get? k).isSome

/-- The table of a list of pairs; the last value of a repeated key stays. -/
def ofList (es : List (String × α)) : Table α := es.foldl (fun t e => t.insert e.1 e.2) []

def keys (t : Table α) : List String := t.map (·.1)

@[simp] theorem get?_nil (k : String) : get? k ([] : Table α) = none := rfl

/-- A value put under a key is found there, and nothing changes under another key. -/
theorem get?_insert (k k' : String) (v : α) (t : Table α) :
    (t.insert k v).get? k' = if k = k' then some v else t.get? k' := by
  induction t with
  | nil => simp [insert, get?]
  | cons e t ih =>
    obtain ⟨a, w⟩ := e
    simp only [insert]
    split
    · simp [get?]
    · split
      · subst a
        by_cases h : k = k' <;> simp [get?, h]
      · simp only [get?, ih]
        grind

/-- A key taken out is not found, and nothing changes under another key. -/
theorem get?_erase (k k' : String) (t : Table α) :
    (t.erase k).get? k' = if k = k' then none else t.get? k' := by
  induction t with
  | nil => simp [erase]
  | cons e t ih =>
    obtain ⟨a, w⟩ := e
    simp only [erase, List.filter_cons] at ih ⊢
    by_cases h : a = k
    · subst h
      simp only [ne_eq, not_true_eq_false, decide_false, Bool.false_eq_true, if_false, ih, get?]
      by_cases h' : a = k' <;> simp [h']
    · simp only [ne_eq, h, not_false_eq_true, decide_true, if_true, get?, ih]
      grind

end Table

end SessionVault
