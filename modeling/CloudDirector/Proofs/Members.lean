import CloudDirector.Members
import Mathlib.Data.List.Nodup

/-!
# Laws of ordered members

A list of members whose keys are different from each other behaves as a finite map that remembers
an order: a member is found exactly where it stands, and setting members one after another gives
the list back.  The last section is about lists of members that are put together from the items of
another list, each of which contributes at most one member under a key of its own; records are
encoded that way.
-/

namespace CloudDirector.Members

variable {α β : Type}

@[simp] lemma keys_nil : keys ([] : List (String × α)) = [] := rfl

@[simp] lemma keys_cons (m : String × α) (ms : List (String × α)) :
    keys (m :: ms) = m.1 :: keys ms := rfl

@[simp] lemma keys_append (ms news : List (String × α)) :
    keys (ms ++ news) = keys ms ++ keys news := List.map_append

lemma mem_keys_of_mem {ms : List (String × α)} {m : String × α} (h : m ∈ ms) : m.1 ∈ keys ms :=
  List.mem_map_of_mem h

lemma mem_keys_iff {ms : List (String × α)} {key : String} :
    key ∈ keys ms ↔ ∃ v, (key, v) ∈ ms := by
  simp [keys]

lemma contains_iff {ms : List (String × α)} {key : String} :
    contains ms key = true ↔ key ∈ keys ms := by
  rw [contains, Option.isSome_iff_ne_none, ne_eq, get?_eq_none_iff, not_not]

/-! ## Finding members -/

lemma mem_of_get?_eq_some {ms : List (String × α)} {key : String} {v : α}
    (h : get? ms key = some v) : (key, v) ∈ ms := by
  induction ms with
  | nil => simp at h
  | cons m rest ih =>
    obtain ⟨k, w⟩ := m
    by_cases hk : k = key
    · subst hk
      rw [get?_cons_self, Option.some.injEq] at h
      subst h
      exact List.mem_cons_self
    · rw [get?_cons_of_ne hk] at h
      exact List.mem_cons_of_mem _ (ih h)

lemma get?_eq_some_of_mem {ms : List (String × α)} (hms : (keys ms).Nodup) {key : String} {v : α}
    (h : (key, v) ∈ ms) : get? ms key = some v := by
  induction ms with
  | nil => simp at h
  | cons m rest ih =>
    obtain ⟨k, w⟩ := m
    rw [keys_cons, List.nodup_cons] at hms
    rcases List.mem_cons.1 h with heq | hmem
    · obtain ⟨rfl, rfl⟩ := Prod.mk.inj heq
      exact get?_cons_self ..
    · have hne : k ≠ key := by
        rintro rfl
        exact hms.1 (mem_keys_iff.2 ⟨v, hmem⟩)
      rw [get?_cons_of_ne hne, ih hms.2 hmem]

lemma get?_eq_some_iff_mem {ms : List (String × α)} (hms : (keys ms).Nodup) {key : String} {v : α} :
    get? ms key = some v ↔ (key, v) ∈ ms :=
  ⟨mem_of_get?_eq_some, get?_eq_some_of_mem hms⟩

/-- Where keys are different, finding a member does not depend on the order. -/
lemma get?_perm {ms ns : List (String × α)} (h : ms.Perm ns) (hms : (keys ms).Nodup)
    (key : String) : get? ms key = get? ns key := by
  have hns : (keys ns).Nodup := (h.map Prod.fst).nodup_iff.1 hms
  ext v
  rw [get?_eq_some_iff_mem hms, get?_eq_some_iff_mem hns, h.mem_iff]

lemma get?_append (ms news : List (String × α)) (key : String) :
    get? (ms ++ news) key = (get? ms key).or (get? news key) := by
  induction ms with
  | nil => simp
  | cons m rest ih =>
    obtain ⟨k, w⟩ := m
    by_cases hk : k = key
    · subst hk
      simp
    · rw [List.cons_append, get?_cons_of_ne hk, get?_cons_of_ne hk, ih]

/-- A member in between is not seen under other keys. -/
lemma get?_append_cons_of_ne {key other : String} (h : key ≠ other) (before after : List (String × α))
    (v : α) : get? (before ++ (key, v) :: after) other = get? (before ++ after) other := by
  rw [get?_append, get?_append, get?_cons_of_ne h]

/-- A member in between is seen under its key unless an earlier one has that key. -/
lemma get?_append_cons_self (before after : List (String × α)) (key : String) (v : α) :
    get? (before ++ (key, v) :: after) key = some ((get? before key).getD v) := by
  rw [get?_append, get?_cons_self, Option.or_some]

/-! ## Setting members -/

lemma insert_of_not_mem {ms : List (String × α)} {key : String} (h : key ∉ keys ms) (v : α) :
    insert ms key v = ms ++ [(key, v)] := by
  induction ms with
  | nil => rfl
  | cons m rest ih =>
    obtain ⟨k, w⟩ := m
    rw [keys_cons, List.mem_cons, not_or] at h
    rw [insert, if_neg (Ne.symm h.1), ih h.2, List.cons_append]

lemma nodup_keys_insert {ms : List (String × α)} (hms : (keys ms).Nodup) (key : String) (v : α) :
    (keys (insert ms key v)).Nodup := by
  rw [keys_insert]
  split
  · exact hms
  · next h => exact List.nodup_append.2 ⟨hms, List.nodup_singleton key, by
      rintro k hk _ hkey rfl
      exact h (List.mem_singleton.1 hkey ▸ hk)⟩

@[simp] lemma update_nil (ms : List (String × α)) : update ms [] = ms := rfl

@[simp] lemma update_cons (ms : List (String × α)) (m : String × α) (news : List (String × α)) :
    update ms (m :: news) = update (insert ms m.1 m.2) news := rfl

lemma nodup_keys_update {ms : List (String × α)} (hms : (keys ms).Nodup)
    (news : List (String × α)) : (keys (update ms news)).Nodup := by
  induction news generalizing ms with
  | nil => exact hms
  | cons m news ih => exact ih (nodup_keys_insert hms m.1 m.2)

lemma update_eq_append {ms news : List (String × α)} (h : (keys (ms ++ news)).Nodup) :
    update ms news = ms ++ news := by
  induction news generalizing ms with
  | nil => simp
  | cons m news ih =>
    have hm : m.1 ∉ keys ms := by
      intro hmem
      rw [keys_append, List.nodup_append] at h
      exact h.2.2 _ hmem _ List.mem_cons_self rfl
    rw [update_cons, insert_of_not_mem hm, ih (by simpa using h)]
    simp

lemma mem_or_eq_of_mem_insert {ms : List (String × α)} {key : String} {v : α} {m : String × α}
    (h : m ∈ insert ms key v) : m ∈ ms ∨ m = (key, v) := by
  induction ms with
  | nil => exact Or.inr (List.mem_singleton.1 h)
  | cons n rest ih =>
    rw [insert] at h
    split at h
    · rcases List.mem_cons.1 h with rfl | hmem
      · next hkey => exact Or.inr (by rw [hkey])
      · exact Or.inl (List.mem_cons_of_mem _ hmem)
    · rcases List.mem_cons.1 h with rfl | hmem
      · exact Or.inl List.mem_cons_self
      · exact (ih hmem).imp_left (List.mem_cons_of_mem _)

lemma mem_or_mem_of_mem_update {ms news : List (String × α)} {m : String × α}
    (h : m ∈ update ms news) : m ∈ ms ∨ m ∈ news := by
  induction news generalizing ms with
  | nil => exact Or.inl h
  | cons n news ih =>
    rcases ih h with hmem | hmem
    · rcases mem_or_eq_of_mem_insert hmem with hold | rfl
      · exact Or.inl hold
      · exact Or.inr List.mem_cons_self
    · exact Or.inr (List.mem_cons_of_mem _ hmem)

/-- Of the new members with one key, the last one counts. -/
lemma get?_update (ms news : List (String × α)) (key : String) :
    get? (update ms news) key = (get? news.reverse key).or (get? ms key) := by
  induction news generalizing ms with
  | nil => rfl
  | cons m news ih =>
    rw [update_cons, ih, List.reverse_cons, get?_append, Option.or_assoc]
    congr 1
    by_cases hkey : m.1 = key
    · subst hkey
      rw [get?_insert_self, get?_cons_self, Option.some_or]
    · rw [get?_insert_of_ne (Ne.symm hkey), get?_cons_of_ne hkey, get?_nil, Option.none_or]

lemma get?_update_of_mem {ms news : List (String × α)} (hnews : (keys news).Nodup) {key : String}
    {v : α} (h : (key, v) ∈ news) : get? (update ms news) key = some v := by
  have hreverse : (keys news.reverse).Nodup := by
    rwa [keys, List.map_reverse, List.nodup_reverse]
  rw [get?_update, get?_eq_some_of_mem hreverse (List.mem_reverse.2 h), Option.some_or]

/-- Members with different keys, set one after another, are the list that they were. -/
lemma ofPairs_eq_self {pairs : List (String × α)} (h : (keys pairs).Nodup) :
    ofPairs pairs = pairs := update_eq_append h

lemma get?_ofPairs (pairs : List (String × α)) (key : String) :
    get? (ofPairs pairs) key = get? pairs.reverse key := by
  rw [ofPairs, get?_update, get?_nil, Option.or_none]

/-- The members that pairs make have the keys of the pairs. -/
lemma mem_keys_ofPairs {pairs : List (String × α)} {key : String} :
    key ∈ keys (ofPairs pairs) ↔ key ∈ keys pairs := by
  rw [← not_iff_not, ← get?_eq_none_iff, get?_ofPairs, get?_eq_none_iff, keys, List.map_reverse,
    List.mem_reverse, keys]

/-- A pair that no later one has the key of is found. -/
lemma get?_ofPairs_append {before after : List (String × α)} {m : String × α}
    (h : m.1 ∉ keys after) : get? (ofPairs (before ++ m :: after)) m.1 = some m.2 := by
  have hafter : get? after.reverse m.1 = none := by
    rwa [get?_eq_none_iff, keys, List.map_reverse, List.mem_reverse]
  rw [get?_ofPairs, List.reverse_append, List.reverse_cons, List.append_assoc, get?_append, hafter,
    Option.none_or, List.singleton_append, get?_cons_self]

/-- What the later pairs have a member for does not depend on the earlier ones. -/
lemma get?_ofPairs_append_of_mem (before : List (String × α)) {after : List (String × α)}
    {key : String} (h : key ∈ keys after) :
    get? (ofPairs (before ++ after)) key = get? (ofPairs after) key := by
  have hfound : (get? after.reverse key).isSome = true := by
    rw [Option.isSome_iff_ne_none, ne_eq, get?_eq_none_iff, keys, List.map_reverse,
      List.mem_reverse]
    exact not_not.2 h
  obtain ⟨v, hv⟩ := Option.isSome_iff_exists.1 hfound
  rw [get?_ofPairs, get?_ofPairs, List.reverse_append, get?_append, hv, Option.some_or]

/-! ## Taking members out -/

lemma get?_erase_of_ne {key other : String} (h : other ≠ key) (ms : List (String × α)) :
    get? (erase ms key) other = get? ms other := by
  induction ms with
  | nil => rfl
  | cons m rest ih =>
    obtain ⟨k, v⟩ := m
    rw [erase]
    split
    · next hk => exact (get?_cons_of_ne (hk ▸ h.symm) v rest).symm
    · by_cases hother : k = other
      · subst hother
        rw [get?_cons_self, get?_cons_self]
      · rw [get?_cons_of_ne hother, get?_cons_of_ne hother, ih]

lemma get?_erase_self {ms : List (String × α)} (hms : (keys ms).Nodup) (key : String) :
    get? (erase ms key) key = none := by
  induction ms with
  | nil => rfl
  | cons m rest ih =>
    obtain ⟨k, v⟩ := m
    rw [keys_cons, List.nodup_cons] at hms
    rw [erase]
    split
    · next hk => exact get?_eq_none_iff.2 (hk ▸ hms.1)
    · next hk => rw [get?_cons_of_ne hk, ih hms.2]

/-! ## Members that items contribute

Each item of a list has a key, and contributes a member of that key or nothing. -/

section Contributed

variable {key : β → String} {member : β → Option (String × α)} {items : List β}

lemma keys_filterMap_sublist (hkey : ∀ x ∈ items, ∀ m, member x = some m → m.1 = key x) :
    (keys (items.filterMap member)).Sublist (items.map key) := by
  induction items with
  | nil => simp
  | cons x rest ih =>
    have hrest := ih fun y hy => hkey y (List.mem_cons_of_mem _ hy)
    cases hx : member x with
    | none =>
      rw [List.filterMap_cons_none hx, List.map_cons]
      exact hrest.cons _
    | some m =>
      rw [List.filterMap_cons_some hx, keys_cons, hkey x List.mem_cons_self m hx, List.map_cons]
      exact hrest.cons_cons _

lemma nodup_keys_filterMap (hkey : ∀ x ∈ items, ∀ m, member x = some m → m.1 = key x)
    (hnodup : (items.map key).Nodup) : (keys (items.filterMap member)).Nodup :=
  hnodup.sublist (keys_filterMap_sublist hkey)

/-- Where the keys of the items are different, the member of an item's key is its own. -/
lemma get?_filterMap (hkey : ∀ x ∈ items, ∀ m, member x = some m → m.1 = key x)
    (hnodup : (items.map key).Nodup) {x : β} (hx : x ∈ items) :
    get? (items.filterMap member) (key x) = (member x).map Prod.snd := by
  have hkeys := nodup_keys_filterMap hkey hnodup
  cases hm : member x with
  | some m =>
    have hmem : (m.1, m.2) ∈ items.filterMap member := List.mem_filterMap.2 ⟨x, hx, hm⟩
    rw [← hkey x hx m hm, get?_eq_some_of_mem hkeys hmem, Option.map_some]
  | none =>
    rw [Option.map_none, get?_eq_none_iff, mem_keys_iff]
    rintro ⟨v, hv⟩
    obtain ⟨y, hy, hym⟩ := List.mem_filterMap.1 hv
    have hxy : y = x := List.inj_on_of_nodup_map hnodup hy hx (hkey y hy _ hym).symm
    subst hxy
    rw [hm] at hym
    cases hym

end Contributed

/-- Where keys are different, the member of a key is what its value is turned into. -/
lemma get?_filterMap_snd {f : α → Option β} {ms : List (String × α)} (hms : (keys ms).Nodup)
    (key : String) :
    get? (ms.filterMap fun m => (f m.2).map fun b => (m.1, b)) key = (get? ms key).bind f := by
  have hfst : ∀ m ∈ ms, ∀ n, ((f m.2).map fun b => (m.1, b)) = some n → n.1 = m.1 := by
    intro m _ n hn
    obtain ⟨b, -, rfl⟩ := Option.map_eq_some_iff.1 hn
    rfl
  by_cases hmem : key ∈ keys ms
  · obtain ⟨m, hm, rfl⟩ := List.mem_map.1 hmem
    rw [get?_filterMap hfst hms hm, get?_eq_some_of_mem hms hm, Option.map_map]
    exact Option.map_id'
  · rw [get?_eq_none_iff.2 hmem, Option.bind_none, get?_eq_none_iff]
    exact fun h => hmem ((keys_filterMap_sublist hfst).subset h)

section Restricted

variable {ms : List (String × α)} {items : List (String × β)}

/-- The members that the keys of other members select, in the order of these. -/
def restrict (ms : List (String × α)) (items : List (String × β)) : List (String × α) :=
  items.filterMap fun x => (get? ms x.1).map fun v => (x.1, v)

/-- Of the members, those are seen that the keys select. -/
lemma get?_restrict_eq (hnodup : (keys items).Nodup) (key : String) :
    get? (restrict ms items) key = if key ∈ keys items then get? ms key else none := by
  have hfst : ∀ x ∈ items, ∀ m, ((get? ms x.1).map fun v => (x.1, v)) = some m → m.1 = x.1 := by
    intro x _ m hm
    obtain ⟨v, -, rfl⟩ := Option.map_eq_some_iff.1 hm
    rfl
  by_cases hmem : key ∈ keys items
  · obtain ⟨x, hx, rfl⟩ := List.mem_map.1 hmem
    rw [if_pos hmem, restrict, get?_filterMap hfst hnodup hx, Option.map_map]
    exact Option.map_id'
  · rw [if_neg hmem, get?_eq_none_iff]
    exact fun h => hmem ((keys_filterMap_sublist hfst).subset h)

lemma get?_restrict (hnodup : (keys items).Nodup) (hkeys : ∀ m ∈ ms, m.1 ∈ keys items)
    (key : String) : get? (restrict ms items) key = get? ms key := by
  rw [get?_restrict_eq hnodup]
  split
  · rfl
  · next hmem =>
    refine (get?_eq_none_iff.2 fun h => hmem ?_).symm
    obtain ⟨v, hv⟩ := mem_keys_iff.1 h
    exact hkeys _ hv

/-- Members in the order of a list of keys are all that these keys select. -/
lemma restrict_eq_self (horder : (keys ms).Sublist (keys items)) (hnodup : (keys items).Nodup) :
    restrict ms items = ms := by
  rw [restrict]
  induction items generalizing ms with
  | nil =>
    rw [keys_nil, List.sublist_nil] at horder
    exact (List.map_eq_nil_iff.1 horder).symm
  | cons x rest ih =>
    rw [keys_cons, List.nodup_cons] at hnodup
    rw [keys_cons, List.sublist_cons_iff] at horder
    -- the key of the first item is skipped, or it is that of the first member
    rcases horder with horder | ⟨tail, htail, horder⟩
    · have hnone : get? ms x.1 = none :=
        get?_eq_none_iff.2 fun hmem => hnodup.1 (horder.subset hmem)
      rw [List.filterMap_cons_none (by rw [hnone, Option.map_none]), ih horder hnodup.2]
    · cases ms with
      | nil => cases htail
      | cons m ms =>
        obtain ⟨hm, rfl⟩ := List.cons.inj htail
        obtain ⟨key, v⟩ := m
        obtain rfl : key = x.1 := hm
        have hrest : ∀ y ∈ rest, get? ((x.1, v) :: ms) y.1 = get? ms y.1 := by
          intro y hy
          refine get?_cons_of_ne ?_ v ms
          intro heq
          exact hnodup.1 (heq ▸ mem_keys_of_mem hy)
        rw [List.filterMap_cons_some (by rw [get?_cons_self, Option.map_some]),
          List.filterMap_congr fun y hy => by rw [hrest y hy], ih horder hnodup.2]

end Restricted

end CloudDirector.Members
