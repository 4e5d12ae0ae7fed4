import CloudDirector.Json.Parser
import CloudDirector.Proofs.Members

/-!
# Keys of objects that are read

The text of an object may repeat a key, but the object that is read from it has each key once, and
so has every object inside of it.  While tokens are read, this holds of everything that is open;
each token keeps it, and so does a whole text.
-/

namespace CloudDirector.Json

/-- No object in the value, at any depth, has two members with one key. -/
inductive DistinctKeys : Json → Prop
  | null : DistinctKeys .null
  | bool (b : Bool) : DistinctKeys (.bool b)
  | number (n : Number) : DistinctKeys (.number n)
  | string (s : String) : DistinctKeys (.string s)
  | array {items : List Json} (deep : ∀ j ∈ items, DistinctKeys j) : DistinctKeys (.array items)
  | object {members : List (String × Json)} (nodup : (Members.keys members).Nodup)
      (deep : ∀ m ∈ members, DistinctKeys m.2) : DistinctKeys (.object members)

lemma DistinctKeys.member {j k : Json} {key : String} (h : j.DistinctKeys)
    (hmember : j.member? key = some k) : k.DistinctKeys := by
  cases h with
  | object _ deep => exact deep _ (Members.mem_of_get?_eq_some hmember)
  | _ => cases hmember

lemma DistinctKeys.item {j k : Json} {items : List Json} (h : j.DistinctKeys)
    (hitems : j.items? = some items) (hmem : k ∈ items) : k.DistinctKeys := by
  cases h with
  | array deep =>
    cases hitems
    exact deep k hmem
  | _ => cases hitems

/-- What has been read of an array or object that is open has distinct keys. -/
def Open.DistinctKeys : Open → Prop
  | .array items => ∀ j ∈ items, j.DistinctKeys
  | .object members _ => (Members.keys members).Nodup ∧ ∀ m ∈ members, m.2.DistinctKeys

namespace Reading

/-- All that has been read has distinct keys. -/
structure DistinctKeys (r : Reading) : Prop where
  stack : ∀ o ∈ r.stack, o.DistinctKeys
  result : r.result.DistinctKeys

variable {r r' : Reading} {stack : List Open} {token : Token}

lemma distinctKeys_start : start.DistinctKeys where
  stack := by simp [start]
  result := .null

/-! ## One token -/

lemma distinctKeys_complete {j : Json} (hstack : ∀ o ∈ stack, o.DistinctKeys)
    (hj : j.DistinctKeys) : (complete stack j).DistinctKeys := by
  match stack with
  | [] => exact ⟨hstack, hj⟩
  | .array items :: outer =>
    rw [List.forall_mem_cons] at hstack
    refine ⟨List.forall_mem_cons.2 ⟨?_, hstack.2⟩, .null⟩
    exact List.forall_mem_cons.2 ⟨hj, hstack.1⟩
  | .object members key :: outer =>
    rw [List.forall_mem_cons] at hstack
    obtain ⟨⟨hnodup, hdeep⟩, houter⟩ := hstack
    refine ⟨List.forall_mem_cons.2 ⟨⟨Members.nodup_keys_insert hnodup key j, ?_⟩, houter⟩, .null⟩
    intro m hm
    rcases Members.mem_or_eq_of_mem_insert hm with hold | rfl
    · exact hdeep m hold
    · exact hj

lemma distinctKeys_enter {inner : Open} {expect : Expect} (hstack : ∀ o ∈ stack, o.DistinctKeys)
    (hinner : inner.DistinctKeys) (h : enter stack inner expect = some r') : r'.DistinctKeys := by
  rw [enter] at h
  split at h
  · cases h
    exact ⟨List.forall_mem_cons.2 ⟨hinner, hstack⟩, .null⟩
  · cases h

lemma distinctKeys_beginValue (hstack : ∀ o ∈ stack, o.DistinctKeys)
    (h : beginValue stack token = some r') : r'.DistinctKeys := by
  have harray : (Open.array []).DistinctKeys := List.forall_mem_nil _
  have hobject : (Open.object [] "").DistinctKeys := ⟨List.nodup_nil, List.forall_mem_nil _⟩
  cases token with
  | null => cases h; exact distinctKeys_complete hstack .null
  | bool b => cases h; exact distinctKeys_complete hstack (.bool b)
  | number n => cases h; exact distinctKeys_complete hstack (.number n)
  | string s => cases h; exact distinctKeys_complete hstack (.string s)
  | leftBracket => exact distinctKeys_enter hstack harray h
  | leftBrace => exact distinctKeys_enter hstack hobject h
  | _ => cases h

lemma distinctKeys_close (hstack : ∀ o ∈ stack, o.DistinctKeys)
    (h : close stack token = some r') : r'.DistinctKeys := by
  unfold close at h
  split at h
  · cases h
    rw [List.forall_mem_cons] at hstack
    refine distinctKeys_complete hstack.2 (.array fun j hj => ?_)
    exact hstack.1 j (List.mem_reverse.1 hj)
  · cases h
    rw [List.forall_mem_cons] at hstack
    exact distinctKeys_complete hstack.2 (.object hstack.1.1 hstack.1.2)
  · cases h

lemma distinctKeys_setKey {key : String} (hstack : ∀ o ∈ stack, o.DistinctKeys)
    (h : setKey stack key = some r') : r'.DistinctKeys := by
  unfold setKey at h
  split at h
  · cases h
    rw [List.forall_mem_cons] at hstack
    exact ⟨List.forall_mem_cons.2 hstack, .null⟩
  · cases h

lemma DistinctKeys.step (hr : r.DistinctKeys) (h : r.step token = some r') : r'.DistinctKeys := by
  obtain ⟨hstack, hresult⟩ := hr
  unfold Reading.step at h
  split at h
  · exact distinctKeys_beginValue hstack h
  · exact distinctKeys_close hstack h
  · exact distinctKeys_beginValue hstack h
  · exact distinctKeys_close hstack h
  · exact distinctKeys_setKey hstack h
  · exact distinctKeys_setKey hstack h
  · cases h
    exact ⟨hstack, hresult⟩
  · -- a comma leaves what is open as it is
    split at h
    · cases h
      exact ⟨hstack, hresult⟩
    · cases h
      exact ⟨hstack, hresult⟩
    · cases h
  · exact distinctKeys_close hstack h
  · cases h

/-! ## All tokens of a text -/

lemma DistinctKeys.foldlM {tokens : List Token} (hr : r.DistinctKeys)
    (h : tokens.foldlM Reading.step r = some r') : r'.DistinctKeys := by
  induction tokens generalizing r with
  | nil =>
    cases h
    exact hr
  | cons token tokens ih =>
    rw [List.foldlM_cons] at h
    obtain ⟨next, hnext, h⟩ := Option.bind_eq_some_iff.1 h
    exact ih (hr.step hnext) h

end Reading

/-- What a text spells has distinct keys. -/
lemma distinctKeys_of_ofString? {s : String} {j : Json} (h : ofString? s = some j) :
    j.DistinctKeys := by
  obtain ⟨tokens, -, h⟩ := Option.bind_eq_some_iff.1 h
  obtain ⟨r, hr, h⟩ := Option.bind_eq_some_iff.1 h
  have hread := Reading.distinctKeys_start.foldlM hr
  rw [Reading.result?] at h
  split at h
  · cases h
    exact hread.result
  · cases h

end CloudDirector.Json
