import CloudDirector.Proofs.Navigation.Attributes
import CloudDirector.Proofs.Navigation.HeaderRendering

/-!
# Targets of link headers

The address in brackets says where a link of a header leads.  But the parameters behind it are set
like the members of an entry in a body, where `href` is the attribute that says so.  Hence the last
parameter of that name, in whatever case it is written, takes the place of the address in brackets.
The number of links is right all the same.
-/

namespace CloudDirector.LinkHeader

open Text

/-- The address in brackets, without the blanks around it. -/
def Item.bracketed (i : Item) : String := .ofList (trim i.target)

/-- What the parameters set, from left to right. -/
def Item.pairs (i : Item) : List (String × String) :=
  i.parameters.map fun (key, value) => (asciiLower (.ofList key), .ofList value)

/-- The value of the last parameter that is named `href` in any case. -/
def Item.hrefParameter? (i : Item) : Option String := Members.get? i.pairs.reverse "href"

lemma href_link (i : Item) : i.link.href = i.hrefParameter?.getD i.bracketed := by
  have hlast := Link.get_setAttributes Link.href "href" id (fun _ _ => rfl)
    Link.href_setAttribute_of_ne { href := i.bracketed } i.pairs
  rw [Option.map_id, id] at hlast
  exact hlast

/-- If the header is accepted, its links are as many as its items, and each leads to the address in
the brackets of its item. -/
def KeepsTargets (header : String) : Prop :=
  ∀ links, parse header = .ok links →
    ∃ is, Derives header.toList is ∧ links.map Link.href = is.map Item.bracketed

/-- An accepted header has one link for each of its items, which leads to the address in brackets
or, if there are parameters `href`, to what the last of them says.  So the targets are kept exactly
if no such parameter says anything else. -/
theorem keepsTargets_iff (header : String) :
    (∀ links, parse header = .ok links →
      ∃ is, Derives header.toList is ∧ (∀ is', Derives header.toList is' → is' = is) ∧
        links.map Link.href = is.map fun i => i.hrefParameter?.getD i.bracketed) ∧
    (KeepsTargets header ↔ ∀ is, Derives header.toList is →
      ∀ i ∈ is, ∀ href ∈ i.hrefParameter?, href = i.bracketed) := by
  have hrefs (is : List Item) :
      (is.map Item.link).map Link.href = is.map fun i => i.hrefParameter?.getD i.bracketed := by
    rw [List.map_map]
    exact List.map_congr_left fun i _ => href_link i
  refine ⟨?_, ?_, ?_⟩
  · intro links hlinks
    obtain ⟨is, his, rfl⟩ := parse_eq_ok_iff.1 hlinks
    exact ⟨is, his, fun is' his' => his'.unique his, hrefs is⟩
  · intro hkeeps is his i hi href hhref
    -- the items that the targets are kept for are these ones, as there are no others
    obtain ⟨is', his', heq⟩ := hkeeps _ (parse_eq_ok_iff.2 ⟨is, his, rfl⟩)
    rw [his'.unique his, hrefs] at heq
    have hi' := List.map_inj_left.1 heq i hi
    rwa [Option.mem_def.1 hhref, Option.getD_some] at hi'
  · intro hsame links hlinks
    obtain ⟨is, his, rfl⟩ := parse_eq_ok_iff.1 hlinks
    refine ⟨is, his, ?_⟩
    rw [hrefs]
    refine List.map_congr_left fun i hi => ?_
    cases hparameter : i.hrefParameter? with
    | none => rfl
    | some href => exact hsame is his i hi href hparameter

namespace Redirected

def entry : Entry where
  href := "https://h/a".toList
  parameters := [
    { key := "href".toList
      value := .bare "https://h/b".toList (by decide) (by decide) (List.all_eq_true.1 rfl)
        (by decide)
      key_ne_nil := by decide
      isKeyChar_of_mem := List.all_eq_true.1 rfl }]
  close_not_mem := by decide

def header : String := "<https://h/a>; href=https://h/b"

lemma writes_header : Writes [entry] header.toList := by
  have hmark : Separates ';' "; ".toList := ⟨[], [' '], by decide, by decide, by decide⟩
  have hparameters : WritesParameters entry.parameters _ :=
    .cons hmark (.bare (separates_self '=')) .nil
  have hnone : AreGaps [] := nofun
  have hwritten := Writes.cons hnone ⟨_, hparameters, rfl⟩ .nil hnone
  convert hwritten using 1
  decide

/-- A parameter takes the place of the address in brackets. -/
theorem not_keepsTargets_header : ¬ KeepsTargets header := by
  intro hkeeps
  have hderives : Derives header.toList [entry.item] := writes_header.derives
  obtain ⟨is, his, heq⟩ := hkeeps _ (parse_eq_ok_iff.2 ⟨_, hderives, rfl⟩)
  rw [his.unique hderives] at heq
  revert heq
  decide +kernel

end Redirected

end CloudDirector.LinkHeader
