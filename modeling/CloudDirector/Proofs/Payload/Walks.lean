import CloudDirector.Payload.Encode
import CloudDirector.Proofs.Members
import Mathlib.Data.List.Forall2

/-!
# Walks over payloads

Encoding and decoding walk over lists, maps and the fields of records, and stop at the first
failure.  A walk that succeeds has succeeded on every part: lists and maps part by part and in
order, and records field by field, each field looking up one member only.
-/

namespace CloudDirector

variable {α β : Type}

lemma Result.map_eq_ok {r : Result α} {f : α → β} {b : β} :
    r.map f = .ok b ↔ ∃ a, r = .ok a ∧ f a = b := by
  cases r with
  | error e => simp [Except.map]
  | ok a => simp [Except.map]

@[simp] lemma Result.map_ok (a : α) (f : α → β) : (Except.ok a : Result α).map f = .ok (f a) := rfl

@[simp] lemma Result.passing_ok (a : α) (place : Place) :
    Result.passing place (.ok a) = .ok a := rfl

lemma Result.passing_eq_ok {r : Result α} {place : Place} {a : α} :
    r.passing place = .ok a ↔ r = .ok a := by
  cases r with
  | error e => simp [Result.passing]
  | ok b => simp

lemma Result.bind_eq_ok {r : Result α} {f : α → Result β} {b : β} :
    r >>= f = .ok b ↔ ∃ a, r = .ok a ∧ f a = .ok b := by
  cases r with
  | error e => simp [bind, Except.bind]
  | ok a => simp [bind, Except.bind]

lemma Result.exists_of_any_toOption {r : Result α} {p : α → Bool} (h : r.toOption.any p = true) :
    ∃ a, r = .ok a ∧ p a = true := by
  cases r with
  | error e => cases h
  | ok a => exact ⟨a, rfl, h⟩

lemma gather_eq_filterMap {f : α → Result (Option β)} {g : α → Option β} {xs : List α}
    (h : ∀ x ∈ xs, f x = .ok (g x)) : gather f xs = .ok (xs.filterMap g) := by
  induction xs with
  | nil => rfl
  | cons x xs ih =>
    rw [gather, h x List.mem_cons_self, ih fun y hy => h y (List.mem_cons_of_mem _ hy)]
    cases hx : g x with
    | none => rw [List.filterMap_cons_none hx]; rfl
    | some b => rw [List.filterMap_cons_some hx]; rfl

/-- What is gathered are the results on the items that have one. -/
lemma exists_of_gather_eq_ok {f : α → Result (Option β)} {xs : List α} {ys : List β}
    (h : gather f xs = .ok ys) :
    ∃ g : α → Option β, (∀ x ∈ xs, f x = .ok (g x)) ∧ ys = xs.filterMap g := by
  have hall : ∀ x ∈ xs, f x = .ok ((f x).toOption.join) := by
    induction xs generalizing ys with
    | nil => simp
    | cons x xs ih =>
      rw [gather] at h
      split at h
      · cases h
      · next found hx =>
        split at h
        · cases h
        · next rest hrest =>
          intro y hy
          rcases List.mem_cons.1 hy with rfl | hmem
          · rw [hx]
            rfl
          · exact ih hrest y hmem
  refine ⟨_, hall, ?_⟩
  rw [gather_eq_filterMap hall] at h
  exact (Except.ok.inj h).symm

lemma exists_forall₂ {R : α → β → Prop} {xs : List α} (h : ∀ x ∈ xs, ∃ y, R x y) :
    ∃ ys, List.Forall₂ R xs ys := by
  induction xs with
  | nil => exact ⟨[], .nil⟩
  | cons x xs ih =>
    obtain ⟨y, hy⟩ := h x List.mem_cons_self
    obtain ⟨ys, hys⟩ := ih fun z hz => h z (List.mem_cons_of_mem _ hz)
    exact ⟨y :: ys, .cons hy hys⟩

lemma exists_of_forall₂_of_mem {R : α → β → Prop} {xs : List α} {ys : List β}
    (h : List.Forall₂ R xs ys) {y : β} (hy : y ∈ ys) : ∃ x ∈ xs, R x y := by
  induction h with
  | nil => cases hy
  | cons hhead _ ih =>
    rcases List.mem_cons.1 hy with rfl | hy
    · exact ⟨_, List.mem_cons_self, hhead⟩
    · obtain ⟨x, hx, hR⟩ := ih hy
      exact ⟨x, List.mem_cons_of_mem _ hx, hR⟩

/-- The items that are selected match the results that there are on the items of the other list. -/
lemma forall₂_filter_filterMap_of_forall₂ {γ : Type} {R : α → γ → Prop} {p : α → Bool}
    {g : β → Option γ} {xs : List α} {ys : List β}
    (h : List.Forall₂ (fun x y => (p x = false ∧ g y = none) ∨
      (p x = true ∧ ∃ z, g y = some z ∧ R x z)) xs ys) :
    List.Forall₂ R (xs.filter p) (ys.filterMap g) := by
  induction h with
  | nil => exact .nil
  | cons hhead _ ih =>
    rcases hhead with ⟨hp, hg⟩ | ⟨hp, z, hg, hR⟩
    · rwa [List.filter_cons_of_neg (Bool.eq_false_iff.1 hp), List.filterMap_cons_none hg]
    · rw [List.filter_cons_of_pos hp, List.filterMap_cons_some hg]
      exact .cons hR ih

/-- The items that are selected match the results that there are. -/
lemma forall₂_filter_filterMap {R : α → β → Prop} {p : α → Bool} {g : α → Option β} {xs : List α}
    (h : ∀ x ∈ xs, (p x = false ∧ g x = none) ∨ (p x = true ∧ ∃ y, g x = some y ∧ R x y)) :
    List.Forall₂ R (xs.filter p) (xs.filterMap g) :=
  forall₂_filter_filterMap_of_forall₂ (List.forall₂_same.2 h)

/-- Two lists that match one list match each other. -/
lemma forall₂_of_common {γ : Type} {R : α → β → Prop} {S : α → γ → Prop} {T : β → γ → Prop}
    {xs : List α} {ys : List β} {zs : List γ} (hR : List.Forall₂ R xs ys)
    (hS : List.Forall₂ S xs zs) (h : ∀ x y z, R x y → S x z → T y z) : List.Forall₂ T ys zs := by
  induction hR generalizing zs with
  | nil =>
    cases hS
    exact .nil
  | cons hhead _ ih =>
    cases hS with
    | cons hhead' htail => exact .cons (h _ _ _ hhead hhead') (ih htail)

lemma head?_of_forall₂ {R : α → β → Prop} {xs : List α} {ys : List β} (h : List.Forall₂ R xs ys) :
    (xs.head? = none ∧ ys.head? = none) ∨ ∃ x y, xs.head? = some x ∧ ys.head? = some y ∧ R x y := by
  cases h with
  | nil => exact Or.inl ⟨rfl, rfl⟩
  | cons hhead _ => exact Or.inr ⟨_, _, rfl, rfl, hhead⟩

lemma getElem?_of_forall₂ {R : α → β → Prop} {xs : List α} {ys : List β} (h : List.Forall₂ R xs ys)
    {i : Nat} {x : α} {y : β} (hx : xs[i]? = some x) (hy : ys[i]? = some y) : R x y := by
  obtain ⟨hi, rfl⟩ := List.getElem?_eq_some_iff.1 hx
  obtain ⟨hi', rfl⟩ := List.getElem?_eq_some_iff.1 hy
  exact h.get hi hi'

lemma keys_eq_of_forall₂ {ms : List (String × α)} {ns : List (String × β)}
    (h : List.Forall₂ (fun m n => n.1 = m.1) ms ns) : Members.keys ns = Members.keys ms := by
  induction h with
  | nil => rfl
  | cons hhead _ ih => rw [Members.keys_cons, Members.keys_cons, hhead, ih]

/-! ## Parts of values -/

/-- The first value is an item, an entry or a field of the second one. -/
inductive Value.IsPart : Value → Value → Prop
  | item {v : Value} {items : List Value} (h : v ∈ items) : IsPart v (.list items)
  | entry {key : String} {v : Value} {entries : List (String × Value)} (h : (key, v) ∈ entries) :
      IsPart v (.map entries)
  | field {typeName name : String} {v : Value} {fields : List (String × Value)}
      (h : (name, v) ∈ fields) : IsPart v (.record typeName fields)

lemma Value.IsPart.sizeOf_lt {v w : Value} (h : w.IsPart v) : sizeOf w < sizeOf v := by
  cases h with
  | item h =>
    have hlt := List.sizeOf_lt_of_mem h
    simp only [Value.list.sizeOf_spec]
    omega
  | entry h =>
    have hlt := List.sizeOf_lt_of_mem h
    simp only [Value.map.sizeOf_spec, Prod.mk.sizeOf_spec] at hlt ⊢
    omega
  | field h =>
    have hlt := List.sizeOf_lt_of_mem h
    simp only [Value.record.sizeOf_spec, Prod.mk.sizeOf_spec] at hlt ⊢
    omega

/-- What holds of a value as soon as it holds of its parts holds of every value. -/
lemma Value.induction {P : Value → Prop} (step : ∀ v, (∀ w, w.IsPart v → P w) → P v) (v : Value) :
    P v :=
  step v fun w _ => Value.induction step w
termination_by sizeOf v
decreasing_by exact Value.IsPart.sizeOf_lt ‹_›

namespace Payload

variable {reg : Registry} {element : Descriptor}

/-! ## Lists -/

lemma encodeItems_eq_ok_iff {i : Nat} {values : List Value} {items : List Json} :
    encodeItems reg element i values = .ok items ↔
      List.Forall₂ (fun v j => encode reg v element = .ok j) values items := by
  induction values generalizing i items with
  | nil =>
    rw [encodeItems, List.forall₂_nil_left_iff]
    simp [eq_comm]
  | cons v values ih =>
    rw [encodeItems, List.forall₂_cons_left_iff]
    constructor
    · intro h
      split at h
      · cases h
      · next j hj =>
        obtain ⟨rest, hrest, rfl⟩ := Result.map_eq_ok.1 h
        exact ⟨j, rest, Result.passing_eq_ok.1 hj, ih.1 hrest, rfl⟩
    · rintro ⟨j, rest, hj, hrest, rfl⟩
      rw [hj, Result.passing_ok]
      simp only [ih.2 hrest, Result.map_ok]

lemma decodeItems_eq_ok_iff {i : Nat} {items : List Json} {values : List Value} :
    decodeItems reg element i items = .ok values ↔
      List.Forall₂ (fun j v => ∃ found, decode reg j element = .ok found ∧ found.getD .null = v)
        items values := by
  induction items generalizing i values with
  | nil =>
    rw [decodeItems, List.forall₂_nil_left_iff]
    simp [eq_comm]
  | cons j items ih =>
    rw [decodeItems, List.forall₂_cons_left_iff]
    constructor
    · intro h
      split at h
      · cases h
      · next found hfound =>
        obtain ⟨rest, hrest, rfl⟩ := Result.map_eq_ok.1 h
        exact ⟨_, rest, ⟨found, Result.passing_eq_ok.1 hfound, rfl⟩, ih.1 hrest, rfl⟩
    · rintro ⟨v, rest, ⟨found, hfound, rfl⟩, hrest, rfl⟩
      rw [hfound, Result.passing_ok]
      simp only [ih.2 hrest, Result.map_ok]

/-! ## Maps -/

lemma encodeEntries_eq_ok_iff {entries : List (String × Value)} {members : List (String × Json)} :
    encodeEntries reg element entries = .ok members ↔
      List.Forall₂ (fun entry member => member.1 = entry.1 ∧
        encode reg entry.2 element = .ok member.2) entries members := by
  induction entries generalizing members with
  | nil =>
    rw [encodeEntries, List.forall₂_nil_left_iff]
    simp [eq_comm]
  | cons entry entries ih =>
    obtain ⟨key, v⟩ := entry
    rw [encodeEntries, List.forall₂_cons_left_iff]
    constructor
    · intro h
      split at h
      · cases h
      · next j hj =>
        obtain ⟨rest, hrest, rfl⟩ := Result.map_eq_ok.1 h
        exact ⟨(key, j), rest, ⟨rfl, Result.passing_eq_ok.1 hj⟩, ih.1 hrest, rfl⟩
    · rintro ⟨⟨key', j⟩, rest, ⟨rfl, hj⟩, hrest, rfl⟩
      rw [hj, Result.passing_ok]
      simp only [ih.2 hrest, Result.map_ok]

lemma decodeEntries_eq_ok_iff {members : List (String × Json)} {entries : List (String × Value)} :
    decodeEntries reg element members = .ok entries ↔
      List.Forall₂ (fun member entry => entry.1 = member.1 ∧
        ∃ found, decode reg member.2 element = .ok found ∧ found.getD .null = entry.2)
        members entries := by
  induction members generalizing entries with
  | nil =>
    rw [decodeEntries, List.forall₂_nil_left_iff]
    simp [eq_comm]
  | cons member members ih =>
    obtain ⟨key, j⟩ := member
    rw [decodeEntries, List.forall₂_cons_left_iff]
    constructor
    · intro h
      split at h
      · cases h
      · next found hfound =>
        obtain ⟨rest, hrest, rfl⟩ := Result.map_eq_ok.1 h
        exact ⟨_, rest, ⟨rfl, found, Result.passing_eq_ok.1 hfound, rfl⟩, ih.1 hrest, rfl⟩
    · rintro ⟨⟨key', v⟩, rest, ⟨rfl, found, hfound, rfl⟩, hrest, rfl⟩
      rw [hfound, Result.passing_ok]
      simp only [ih.2 hrest, Result.map_ok]

/-! ## Fields of records -/

section Field

variable {typeName : String} {field : String × FieldSpec}

lemma encodeMember_of_get?_eq_none {fields : List (String × Value)}
    (h : Members.get? fields field.1 = none) :
    encodeMember reg typeName field fields = .ok none := by
  induction fields with
  | nil => rw [encodeMember]
  | cons m rest ih =>
    obtain ⟨name, v⟩ := m
    by_cases hname : name = field.1
    · rw [hname, Members.get?_cons_self] at h
      cases h
    · rw [Members.get?_cons_of_ne hname] at h
      rw [encodeMember, if_neg hname, ih h]

lemma encodeMember_of_get?_eq_some {fields : List (String × Value)} {v : Value}
    (h : Members.get? fields field.1 = some v) :
    encodeMember reg typeName field fields =
      if v.isNull then .ok (if field.2.nullable then some (field.2.wireKey, .null) else none)
      else ((encode reg v field.2.shape).passing (.field typeName field.1)).map fun j =>
        some (field.2.wireKey, j) := by
  induction fields with
  | nil => cases h
  | cons m rest ih =>
    obtain ⟨name, w⟩ := m
    by_cases hname : name = field.1
    · subst hname
      rw [Members.get?_cons_self, Option.some.injEq] at h
      subst h
      rw [encodeMember, if_pos rfl]
    · rw [Members.get?_cons_of_ne hname] at h
      rw [encodeMember, if_neg hname, ih h]

lemma decodeMember_of_get?_eq_none {members : List (String × Json)}
    (h : Members.get? members field.2.wireKey = none) :
    decodeMember reg typeName field members = .ok none := by
  induction members with
  | nil => rw [decodeMember]
  | cons m rest ih =>
    obtain ⟨key, j⟩ := m
    by_cases hkey : key = field.2.wireKey
    · rw [hkey, Members.get?_cons_self] at h
      cases h
    · rw [Members.get?_cons_of_ne hkey] at h
      rw [decodeMember, if_neg hkey, ih h]

lemma decodeMember_of_get?_eq_some {members : List (String × Json)} {j : Json}
    (h : Members.get? members field.2.wireKey = some j) :
    decodeMember reg typeName field members =
      if j.isNull then .ok (if field.2.nullable then some (field.1, .null) else none)
      else ((decode reg j field.2.shape).passing
        (.wireField typeName field.1 field.2.wireKey)).map fun v => v.map fun v => (field.1, v) := by
  induction members with
  | nil => cases h
  | cons m rest ih =>
    obtain ⟨key, k⟩ := m
    by_cases hkey : key = field.2.wireKey
    · subst hkey
      rw [Members.get?_cons_self, Option.some.injEq] at h
      subst h
      rw [decodeMember, if_pos rfl]
    · rw [Members.get?_cons_of_ne hkey] at h
      rw [decodeMember, if_neg hkey, ih h]

end Field

end Payload

end CloudDirector
