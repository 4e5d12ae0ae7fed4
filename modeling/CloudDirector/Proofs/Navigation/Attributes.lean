import CloudDirector.Navigation.Link
import CloudDirector.Proofs.Members

/-!
# Attributes set one after another

A part of a link that depends on one attribute only is made from the last value that the attribute
is set to, and is left as it was if there is none.  For each part, no attribute but its own counts.
-/

namespace CloudDirector.Link

/-- What depends on one attribute only is made from the last value of that attribute. -/
lemma get_setAttributes {β : Type} (get : Link → β) (key : String) (read : String → β)
    (hself : ∀ (l : Link) value, get (l.setAttribute key value) = read value)
    (hother : ∀ (l : Link) other value, other ≠ key → get (l.setAttribute other value) = get l)
    (l : Link) (pairs : List (String × String)) :
    get (setAttributes l pairs) = ((Members.get? pairs.reverse key).map read).getD (get l) := by
  induction pairs generalizing l with
  | nil => rfl
  | cons pair pairs ih =>
    obtain ⟨k, value⟩ := pair
    have hstep :
        setAttributes l ((k, value) :: pairs) = setAttributes (l.setAttribute k value) pairs := rfl
    rw [hstep, ih, List.reverse_cons, Members.get?_append]
    -- a later value of the attribute counts, whatever this one is
    cases Members.get? pairs.reverse key with
    | some last => rfl
    | none =>
      by_cases hk : k = key
      · subst hk
        rw [hself, Members.get?_cons_self]
        rfl
      · rw [hother l k value hk, Members.get?_cons_of_ne hk]
        rfl

lemma get?_setAttributes (get : Link → Option String) (key : String)
    (hself : ∀ (l : Link) value, get (l.setAttribute key value) = some value)
    (hother : ∀ (l : Link) other value, other ≠ key → get (l.setAttribute other value) = get l)
    (l : Link) (pairs : List (String × String)) :
    get (setAttributes l pairs) = (Members.get? pairs.reverse key).or (get l) := by
  rw [get_setAttributes get key some hself hother]
  cases Members.get? pairs.reverse key <;> rfl

section Other

variable (l : Link) (key value : String)

lemma href_setAttribute_of_ne (h : key ≠ "href") : (l.setAttribute key value).href = l.href := by
  unfold setAttribute
  split <;> simp_all

lemma rel_setAttribute_of_ne (h : key ≠ "rel") : (l.setAttribute key value).rel = l.rel := by
  unfold setAttribute
  split <;> simp_all

lemma mediaType_setAttribute_of_ne (h : key ≠ "type") :
    (l.setAttribute key value).mediaType = l.mediaType := by
  unfold setAttribute
  split <;> simp_all

lemma name_setAttribute_of_ne (h : key ≠ "name") : (l.setAttribute key value).name = l.name := by
  unfold setAttribute
  split <;> simp_all

lemma attributes_setAttribute_of_ne {other : String} (h : key ≠ other) :
    Members.get? (l.setAttribute key value).attributes other = Members.get? l.attributes other := by
  unfold setAttribute
  split
  · rfl
  · rfl
  · rfl
  · rfl
  · exact Members.get?_insert_of_ne (Ne.symm h) ..

end Other

end CloudDirector.Link
