import CloudDirector.Proofs.Binary64
import CloudDirector.Proofs.Payload.Faults

/-!
# JSON that passes through

JSON without a declared shape becomes a value of lists, maps and scalars, and the value is written
by its own kinds again.  All of it is kept on this way but for the integers above the signed range:
a value holds integers with a sign only, and so a larger one becomes a floating point number, the
nearest there is.
-/

namespace CloudDirector

namespace Json

/-- The largest integer that values hold. -/
def largestInteger : Int := 9223372036854775807

/-- The second payload is the first one, but that each integer which is too large for a value has
become the floating point number nearest to it. -/
inductive RoundsTo : Json → Json → Prop
  | null : RoundsTo .null .null
  | bool (b : Bool) : RoundsTo (.bool b) (.bool b)
  | string (s : String) : RoundsTo (.string s) (.string s)
  | integer {i : WireInteger} (small : i.val ≤ largestInteger) :
      RoundsTo (.number (.integer i)) (.number (.integer i))
  | large {i : WireInteger} {m : Magnitude} (large : largestInteger < i.val)
      (nearest : m.IsNearest (i.val.toNat * Magnitude.unit) 1) :
      RoundsTo (.number (.integer i)) (.number (.float false m))
  | float (negative : Bool) (m : Magnitude) :
      RoundsTo (.number (.float negative m)) (.number (.float negative m))
  | array {items items' : List Json} (parts : List.Forall₂ RoundsTo items items') :
      RoundsTo (.array items) (.array items')
  | object {members members' : List (String × Json)}
      (keys : Members.keys members' = Members.keys members)
      (parts : List.Forall₂ RoundsTo (members.map Prod.snd) (members'.map Prod.snd)) :
      RoundsTo (.object members) (.object members')

/-- No integer in the payload, at any depth, is too large for a value. -/
def HasSmallIntegers (j : Json) : Prop :=
  ∀ i : WireInteger, (number (.integer i)).Within j → i.val ≤ largestInteger

variable {j k : Json}

lemma hasSmallIntegers_iff :
    j.HasSmallIntegers ↔
      (∀ i, j = number (.integer i) → i.val ≤ largestInteger) ∧
        ∀ k : Json, k.IsPart j → k.HasSmallIntegers := by
  constructor
  · intro h
    refine ⟨?_, fun k hk i hi => h i (hi.tail hk)⟩
    rintro i rfl
    exact h i .refl
  · rintro ⟨hself, hparts⟩ i hi
    rcases hi.cases_tail with rfl | ⟨k, hk, hpart⟩
    · exact hself i rfl
    · exact hparts k hpart i hk

/-- Where related parts are the same, so are the lists of them. -/
lemma eq_of_forall₂ {α : Type} {R : α → α → Prop} {xs ys : List α} (h : List.Forall₂ R xs ys)
    (heq : ∀ x ∈ xs, ∀ y, R x y → y = x) : ys = xs := by
  induction h with
  | nil => rfl
  | cons hhead _ ih =>
    rw [heq _ List.mem_cons_self _ hhead, ih fun x hx => heq x (List.mem_cons_of_mem _ hx)]

/-- Rounding leaves exactly the payloads without large integers as they are. -/
lemma RoundsTo.eq_iff (h : j.RoundsTo k) : k = j ↔ j.HasSmallIntegers := by
  induction j using Json.induction generalizing k with
  | step j ih =>
    rw [hasSmallIntegers_iff]
    cases h with
    | null | bool | string | float =>
      refine iff_of_true rfl ⟨?_, ?_⟩
      · rintro i ⟨⟩
      · rintro l ⟨⟩
    | integer small =>
      refine iff_of_true rfl ⟨?_, ?_⟩
      · rintro i ⟨⟩
        exact small
      · rintro l ⟨⟩
    | large large nearest =>
      refine iff_of_false ?_ fun h => absurd (h.1 _ rfl) (Int.not_le.2 large)
      rintro ⟨⟩
    | array parts =>
      constructor
      · rintro ⟨⟩
        refine ⟨by rintro i ⟨⟩, fun l hl => ?_⟩
        cases hl with
        | item hmem => exact (ih l (.item hmem) (List.forall₂_same.1 parts l hmem)).1 rfl
      · rintro ⟨-, hparts⟩
        refine congrArg Json.array (eq_of_forall₂ parts fun l hl l' hround => ?_)
        exact (ih l (.item hl) hround).2 (hparts l (.item hl))
    | @object members members' keys parts =>
      constructor
      · rintro ⟨⟩
        refine ⟨by rintro i ⟨⟩, fun l hl => ?_⟩
        cases hl with
        | member hmem =>
          have hround := List.forall₂_same.1 parts l (List.mem_map_of_mem hmem)
          exact (ih l (.member hmem) hround).1 rfl
      · rintro ⟨-, hparts⟩
        have hvalues : members'.map Prod.snd = members.map Prod.snd := by
          refine eq_of_forall₂ parts fun l hl l' hround => ?_
          obtain ⟨⟨key, l⟩, hmem, rfl⟩ := List.mem_map.1 hl
          exact (ih l (.member hmem) hround).2 (hparts l (.member hmem))
        refine congrArg Json.object ?_
        rw [List.zip_of_prod keys hvalues]
        exact (List.zip_of_prod rfl rfl).symm

end Json

namespace Payload

variable {reg : Registry}

lemma ofItems_eq_map (items : List Json) : Value.ofItems items = items.map Value.ofJson := by
  induction items with
  | nil => rfl
  | cons j items ih => rw [Value.ofItems, List.map_cons, ih]

lemma ofMembers_eq_map (members : List (String × Json)) :
    Value.ofMembers members = members.map fun m => (m.1, Value.ofJson m.2) := by
  induction members with
  | nil => rfl
  | cons m members ih => rw [Value.ofMembers, List.map_cons, ih]

lemma encodeValue_list {values : List Value} {items : List Json}
    (h : List.Forall₂ (fun v j => encodeValue reg v = .ok j) values items) :
    encodeValue reg (.list values) = .ok (.array items) := by
  have hitems : encodeItems reg (.scalar .json) 0 values = .ok items := encodeItems_eq_ok_iff.2 h
  rw [encodeValue, encode]
  simp only [Value.isNull, hitems]
  rfl

lemma encodeValue_map {entries : List (String × Value)} {members : List (String × Json)}
    (h : List.Forall₂ (fun entry member => member.1 = entry.1 ∧
      encodeValue reg entry.2 = .ok member.2) entries members) :
    encodeValue reg (.map entries) = .ok (.object members) := by
  have hentries : encodeEntries reg (.scalar .json) entries = .ok members :=
    encodeEntries_eq_ok_iff.2 h
  rw [encodeValue, encode]
  simp only [Value.isNull, hentries]
  rfl

/-- An integer is written as it is, or as the floating point number nearest to it if it is too
large for a value. -/
lemma exists_encodeValue_integer (i : WireInteger) :
    ∃ k, encodeValue reg (.ofJson (.number (.integer i))) = .ok k ∧
      (Json.number (.integer i)).RoundsTo k := by
  by_cases hsmall : i.val ≤ Json.largestInteger
  · refine ⟨.number (.integer i), ?_, .integer hsmall⟩
    have hlt : i.val < 9223372036854775808 := Int.lt_add_one_of_le hsmall
    have hback : WireInteger.ofInt64 (Int64.ofInt i.val) = i := by
      rw [WireInteger.ofInt64, WireInteger.mk.injEq]
      exact Int64.toInt_ofInt_of_le i.lower hlt
    rw [Value.ofJson, WireInteger.toInt64?, if_pos hlt]
    exact congrArg (fun i => Except.ok (Json.number (.integer i))) hback
  · have hlarge : Json.largestInteger < i.val := Int.not_le.1 hsmall
    have hpos : 0 ≤ i.val := by
      rw [Json.largestInteger] at hlarge
      omega
    obtain ⟨m, hm, hnearest⟩ := i.exists_isNearest
    rw [decide_eq_false (Int.not_lt.2 hpos)] at hm
    rw [← Int.toNat_of_nonneg hpos, Int.natAbs_natCast] at hnearest
    refine ⟨.number (.float false m), ?_, .large hlarge hnearest⟩
    have hnone : i.toInt64? = none := if_neg (Int.not_lt.2 hlarge)
    rw [Value.ofJson, hnone, hm]
    rfl

/-- What JSON comes back as. -/
lemma exists_encodeValue_ofJson (reg : Registry) (j : Json) :
    ∃ k, encodeValue reg (.ofJson j) = .ok k ∧ j.RoundsTo k := by
  induction j using Json.induction with
  | step j ih =>
    cases j with
    | null => exact ⟨.null, rfl, .null⟩
    | bool b => exact ⟨.bool b, rfl, .bool b⟩
    | string s => exact ⟨.string s, rfl, .string s⟩
    | number n =>
      cases n with
      | integer i => exact exists_encodeValue_integer i
      | float negative m => exact ⟨.number (.float negative m), rfl, .float negative m⟩
    | array items =>
      obtain ⟨items', hitems⟩ := exists_forall₂ fun item hitem => ih item (.item hitem)
      refine ⟨.array items', encodeValue_list ?_, .array (hitems.imp fun _ _ h => h.2)⟩
      rw [ofItems_eq_map, List.forall₂_map_left_iff]
      exact hitems.imp fun _ _ h => h.1
    | object members =>
      have hparts : ∀ m ∈ members, ∃ m' : String × Json, m'.1 = m.1 ∧
          encodeValue reg (.ofJson m.2) = .ok m'.2 ∧ m.2.RoundsTo m'.2 := by
        intro m hm
        obtain ⟨k, hk⟩ := ih m.2 (.member hm)
        exact ⟨(m.1, k), rfl, hk⟩
      obtain ⟨members', hmembers⟩ := exists_forall₂ hparts
      refine ⟨.object members', encodeValue_map ?_, .object ?_ ?_⟩
      · rw [ofMembers_eq_map, List.forall₂_map_left_iff]
        exact hmembers.imp fun _ _ h => ⟨h.1, h.2.1⟩
      · exact keys_eq_of_forall₂ (hmembers.imp fun _ _ h => h.1)
      · rw [List.forall₂_map_left_iff, List.forall₂_map_right_iff]
        exact hmembers.imp fun _ _ h => h.2.2

/-- JSON without a declared shape is always written again, with the floating point number nearest to
it for each integer that is too large for a value, and all else as it was.  So it comes back as it
was exactly if no integer in it is too large. -/
theorem encodeValue_ofJson (reg : Registry) (j : Json) :
    (∃ k, encodeValue reg (.ofJson j) = .ok k ∧ j.RoundsTo k) ∧
      (encodeValue reg (.ofJson j) = .ok j ↔ j.HasSmallIntegers) := by
  obtain ⟨k, hk, hround⟩ := exists_encodeValue_ofJson reg j
  refine ⟨⟨k, hk, hround⟩, ?_⟩
  rw [hk, Except.ok.injEq]
  exact hround.eq_iff

end Payload

end CloudDirector
