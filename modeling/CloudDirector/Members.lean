/-!
# Ordered members

Objects, maps and records list their members in order.  Setting a member that is there keeps its
place; a new one goes to the end.  These are the operations on such lists, read through `get?` and
the list of keys.
-/

namespace CloudDirector.Members

variable {α β : Type}

/-- The value of a member. -/
def get? : List (String × α) → String → Option α
  | [], _ => none
  | (k, v) :: rest, key => if k = key then some v else get? rest key

/-- Whether there is a member of that key. -/
def contains (ms : List (String × α)) (key : String) : Bool := (get? ms key).isSome

/-- The keys in order. -/
def keys (ms : List (String × α)) : List String := ms.map Prod.fst

/-- Sets a member, in its place if it is there and at the end if it is not. -/
def insert : List (String × α) → String → α → List (String × α)
  | [], key, value => [(key, value)]
  | (k, v) :: rest, key, value =>
    if k = key then (k, value) :: rest else (k, v) :: insert rest key value

/-- Removes a member. -/
def erase : List (String × α) → String → List (String × α)
  | [], _ => []
  | (k, v) :: rest, key => if k = key then rest else (k, v) :: erase rest key

/-- Sets the members of the second list one after another. -/
def update (ms : List (String × α)) (news : List (String × α)) : List (String × α) :=
  news.foldl (fun acc (k, v) => insert acc k v) ms

/-- The members that are left when the pairs are set one after another. -/
def ofPairs (pairs : List (String × α)) : List (String × α) := update [] pairs

@[simp] theorem get?_nil (key : String) : get? ([] : List (String × α)) key = none := rfl

@[simp] theorem get?_cons_self (key : String) (v : α) (rest : List (String × α)) :
    get? ((key, v) :: rest) key = some v := by simp [get?]

theorem get?_cons_of_ne {k key : String} (h : k ≠ key) (v : α) (rest : List (String × α)) :
    get? ((k, v) :: rest) key = get? rest key := by simp [get?, h]

@[simp] theorem get?_insert_self (ms : List (String × α)) (key : String) (v : α) :
    get? (insert ms key v) key = some v := by
  induction ms with
  | nil => simp [insert]
  | cons m rest ih =>
    obtain ⟨k, w⟩ := m
    by_cases h : k = key <;> simp [insert, get?, h, ih]

theorem get?_insert_of_ne {key other : String} (h : other ≠ key) (ms : List (String × α)) (v : α) :
    get? (insert ms key v) other = get? ms other := by
  induction ms with
  | nil => simp [insert, get?, Ne.symm h]
  | cons m rest ih =>
    obtain ⟨k, w⟩ := m
    by_cases hk : k = key
    · subst hk
      simp [insert, get?, Ne.symm h]
    · by_cases ho : k = other
      · subst ho
        simp [insert, get?, h]
      · simp [insert, get?, hk, ho, ih]

/-- Setting a member keeps the keys, or adds the new one at the end. -/
theorem keys_insert (ms : List (String × α)) (key : String) (v : α) :
    keys (insert ms key v) = if key ∈ keys ms then keys ms else keys ms ++ [key] := by
  induction ms with
  | nil => simp [insert, keys]
  | cons m rest ih =>
    obtain ⟨k, w⟩ := m
    by_cases hk : k = key
    · simp [insert, keys, hk]
    · have hk' : key ≠ k := fun h => hk h.symm
      simp only [keys] at ih
      by_cases hm : key ∈ rest.map Prod.fst <;> simp [insert, hk, keys, ih, hk', hm]

theorem get?_eq_none_iff {ms : List (String × α)} {key : String} :
    get? ms key = none ↔ key ∉ keys ms := by
  induction ms with
  | nil => simp [keys]
  | cons m rest ih =>
    obtain ⟨k, w⟩ := m
    by_cases hk : k = key
    · simp [get?, keys, hk]
    · have hk' : key ≠ k := fun h => hk h.symm
      simpa [get?, keys, hk, hk'] using ih

end CloudDirector.Members
