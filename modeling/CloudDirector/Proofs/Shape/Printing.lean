import CloudDirector.Proofs.Shape.Grammar

/-!
# Descriptors as expressions

The printed form of a descriptor is one of its expressions, provided that an expression can say the
descriptor at all: it has no way to ask for a polymorphic reference, and a name that it can hold is
a run of characters of names that is not taken for a scalar.  Conversely all that is ever read is
of this kind.  So exactly these descriptors come back from their printed form, apart from the one
name that asks for a file where it stands alone.
-/

namespace CloudDirector

open Text Expression

/-! ## What an expression can say -/

/-- A text that is read as the name of a registered type. -/
structure IsTypeName (name : String) : Prop where
  ne_nil : name.toList ≠ []
  isRun : IsRun name.toList
  ofString?_eq_none : Kind.ofString? name = none

instance : DecidablePred IsTypeName := fun name =>
  decidable_of_iff (name.toList ≠ [] ∧ IsRun name.toList ∧ Kind.ofString? name = none)
    ⟨fun ⟨hne, hrun, hkind⟩ => ⟨hne, hrun, hkind⟩, fun ⟨hne, hrun, hkind⟩ => ⟨hne, hrun, hkind⟩⟩

/-- No reference is polymorphic, and a type is referred to by a name that is read as one. -/
def Descriptor.IsExpressible : Descriptor → Prop
  | scalar _ => True
  | list element => element.IsExpressible
  | map element => element.IsExpressible
  | named name => IsTypeName name
  | polymorphic _ => False

/-- The descriptor is the name that stands for a file. -/
def Descriptor.IsFileName : Descriptor → Prop
  | named name => sameLetters name "file" = true
  | _ => False

namespace Expression

variable {d : Descriptor} {name : String}

lemma ofName_of_isTypeName (h : IsTypeName name) : ofName name = .named name := by
  rw [ofName, h.ofString?_eq_none]

lemma isExpressible_ofName {run : List Char} (hne : run ≠ []) (hrun : IsRun run) :
    (ofName (.ofList run)).IsExpressible := by
  rw [ofName]
  cases hkind : Kind.ofString? (.ofList run) with
  | some kind => trivial
  | none => exact ⟨by simpa using hne, by simpa using hrun, hkind⟩

mutual

/-- Whatever is read is a descriptor that an expression can say. -/
lemma Derives.isExpressible {cs : List Char} {d : Descriptor} : Derives cs d → d.IsExpressible
  | .padded _ h _ => h.isExpressible

lemma DerivesCore.isExpressible {cs : List Char} {d : Descriptor} :
    DerivesCore cs d → d.IsExpressible
  | .list _ _ h => h.isExpressible
  | .map _ _ _ h => h.isExpressible
  | .name hne hrun => isExpressible_ofName hne hrun

end

/-! ## The printed form is an expression -/

lemma isGaps_nil : IsGaps [] := nofun

lemma DerivesCore.derives {core : List Char} (h : DerivesCore core d) : Derives core d := by
  have hpadded := Derives.padded isGaps_nil h isGaps_nil
  rwa [List.nil_append, List.append_nil] at hpadded

lemma derivesCore_name (hname : IsTypeName name) :
    DerivesCore name.toList (.named name) := by
  have hderives := DerivesCore.name hname.ne_nil hname.isRun
  rwa [String.ofList_toList, ofName_of_isTypeName hname] at hderives

lemma isRun_kindName (kind : Kind) : IsRun kind.name.toList := by cases kind <;> decide +kernel

lemma derivesCore_kind (kind : Kind) : DerivesCore kind.name.toList (.scalar kind) := by
  have hne : kind.name.toList ≠ [] := by cases kind <;> decide
  have hderives := DerivesCore.name hne (isRun_kindName kind)
  rwa [String.ofList_toList, ofName, Kind.ofString?_name] at hderives

/-- A descriptor that an expression can say is said by its printed form. -/
lemma derivesCore_renderChars (h : d.IsExpressible) : DerivesCore d.renderChars d := by
  induction d with
  | scalar kind => exact derivesCore_kind kind
  | list element ih =>
    have hword : IsWord "list" "list".toList := rfl
    exact .list hword isGaps_nil (ih h).derives
  | map element ih =>
    have hword : IsWord "map" "map".toList := rfl
    -- the blank in front of the element belongs to its expression
    have htext : Derives ([' '] ++ element.renderChars ++ []) element :=
      .padded (by simp [IsGaps, isGap]) (ih h) isGaps_nil
    rw [List.append_nil] at htext
    exact .map (.inl hword) isGaps_nil (derivesCore_kind .string).derives htext
  | named name => exact derivesCore_name h
  | polymorphic name => cases h

/-! ## The whole text -/

/-- The scalar values of the blanks. -/
def blankCodes : List Nat :=
  List.range' 0x09 5 ++ List.range' 0x2000 11 ++
    [0x20, 0x85, 0xA0, 0x1680, 0x2028, 0x2029, 0x202F, 0x205F, 0x3000]

lemma mem_blankCodes {c : Char} (h : isBlank c = true) : c.toNat ∈ blankCodes := by
  simp only [isBlank, Bool.or_eq_true, Bool.and_eq_true, beq_iff_eq, decide_eq_true_iff] at h
  simp only [blankCodes, List.mem_append, List.mem_range'_1, List.mem_cons, List.not_mem_nil]
  omega

/-- No blank is a letter or a digit of any script. -/
lemma isBlank_of_isNameChar {c : Char} (h : isNameChar c = true) : isBlank c = false := by
  have hcodes : ∀ n ∈ blankCodes, isNameChar (Char.ofNat n) = false := by decide +kernel
  by_contra hblank
  have hname := hcodes c.toNat (mem_blankCodes (by simpa using hblank))
  rw [Char.ofNat_toNat, h] at hname
  cases hname

/-- The printed form of a list or a map starts with its word and ends with a bracket. -/
lemma exists_renderChars {element : Descriptor} (h : d = .list element ∨ d = .map element) :
    ∃ first last inside, d.renderChars = first :: (inside ++ [last]) ∧
      (first = 'l' ∨ first = 'm') ∧ (last = ']' ∨ last = ')') := by
  rcases h with rfl | rfl
  · have hword : "list[".toList = 'l' :: "ist[".toList := rfl
    refine ⟨'l', ']', "ist[".toList ++ element.renderChars, ?_, .inl rfl, .inl rfl⟩
    rw [← List.cons_append, ← List.cons_append, ← hword]
    rfl
  · have hword : "map(string, ".toList = 'm' :: "ap(string, ".toList := rfl
    refine ⟨'m', ')', "ap(string, ".toList ++ element.renderChars, ?_, .inr rfl, .inr rfl⟩
    rw [← List.cons_append, ← List.cons_append, ← hword]
    rfl

/-- A descriptor that an expression can say is printed without blanks around it. -/
lemma trim_renderChars (h : d.IsExpressible) : trim d.renderChars = d.renderChars := by
  have hname : ∀ {run : List Char}, IsRun run → trim run = run := fun hrun =>
    trim_eq_self_of_forall fun c hc => isBlank_of_isNameChar (hrun c hc)
  have hbrackets : ∀ {element}, d = .list element ∨ d = .map element →
      trim d.renderChars = d.renderChars := by
    intro element hd
    obtain ⟨first, last, inside, hshape, hfirst, hlast⟩ := exists_renderChars hd
    rw [hshape]
    refine trim_eq_self (stops_cons ?_) ?_
    · rcases hfirst with rfl | rfl <;> rfl
    · rw [← List.cons_append, List.reverse_append]
      exact stops_cons (by rcases hlast with rfl | rfl <;> rfl)
  cases d with
  | scalar kind => exact hname (isRun_kindName kind)
  | list element => exact hbrackets (.inl rfl)
  | map element => exact hbrackets (.inr rfl)
  | named name => exact hname h.isRun
  | polymorphic name => cases h

/-- Of the descriptors that an expression can say only a name is printed as the word that asks for a
file. -/
lemma sameLetters_render (h : d.IsExpressible) :
    sameLetters d.render "file" = true ↔ d.IsFileName := by
  have hbrackets : ∀ {element}, d = .list element ∨ d = .map element →
      sameLetters d.render "file" = false := by
    intro element hd
    obtain ⟨first, last, inside, hshape, hfirst, -⟩ := exists_renderChars hd
    rw [sameLetters, beq_eq_false_iff_ne]
    intro hsame
    have hchars := congrArg String.toList hsame
    rw [asciiLower, Descriptor.render, hshape, String.toList_ofList, String.toList_ofList,
      List.map_cons, show (asciiLower "file").toList = ['f', 'i', 'l', 'e'] from rfl] at hchars
    rcases hfirst with rfl | rfl <;> cases hchars
  cases d with
  | scalar kind =>
    refine iff_of_false ?_ not_false
    cases kind <;> decide +kernel
  | list element => simp [hbrackets (.inl rfl), Descriptor.IsFileName]
  | map element => simp [hbrackets (.inr rfl), Descriptor.IsFileName]
  | named name =>
    have hrender : (Descriptor.named name).render = name := String.ofList_toList
    rw [hrender]
    rfl
  | polymorphic name => cases h

/-! ## Printed and read -/

lemma parse_eq_decode_iff {expression : String} :
    parse expression = .ok (.decode d) ↔
      sameLetters (trimmed expression) "file" = false ∧ Derives (trimmed expression).toList d := by
  rcases parse_cases expression with ⟨hfile, hparse⟩ |
    ⟨hfile, ⟨d', hd', hparse⟩ | ⟨hnone, fault, hparse⟩⟩
  · simp [hparse, hfile]
  · simp only [hparse, hfile, Except.ok.injEq, Target.decode.injEq, true_and]
    exact ⟨fun heq => heq ▸ hd', fun hd => hd'.unique hd⟩
  · rw [hparse]
    exact iff_of_false nofun fun h => hnone d h.2

lemma parse_render (d : Descriptor) :
    parse d.render = .ok (.decode d) ↔ d.IsExpressible ∧ ¬ d.IsFileName := by
  have htrimmed : d.IsExpressible → trimmed d.render = d.render := by
    intro h
    rw [trimmed, Descriptor.render, String.toList_ofList, trim_renderChars h]
  rw [parse_eq_decode_iff]
  constructor
  · rintro ⟨hfile, hderives⟩
    have hexpressible := hderives.isExpressible
    rw [htrimmed hexpressible] at hfile
    refine ⟨hexpressible, fun hname => ?_⟩
    rw [(sameLetters_render hexpressible).2 hname] at hfile
    cases hfile
  · rintro ⟨hexpressible, hname⟩
    rw [htrimmed hexpressible]
    refine ⟨?_, ?_⟩
    · rw [← Bool.not_eq_true, sameLetters_render hexpressible]
      exact hname
    · rw [Descriptor.render, String.toList_ofList]
      exact (derivesCore_renderChars hexpressible).derives

lemma isExpressible_withLeaf {leaf : Descriptor} (h : leaf.IsExpressible) (d : Descriptor) :
    (Descriptor.withLeaf leaf d).IsExpressible := by
  induction d with
  | list element ih => exact ih
  | map element ih => exact ih
  | scalar | named | polymorphic => exact h

lemma not_isFileName_withLeaf {leaf : Descriptor} (h : ¬ leaf.IsFileName) (d : Descriptor) :
    ¬ (Descriptor.withLeaf leaf d).IsFileName := by
  cases d with
  | list | map => exact not_false
  | scalar | named | polymorphic => exact h

/-- The printed form of a descriptor is read as the descriptor exactly if an expression can say it
and it is not the one name that asks for a file.  In particular the words of lists and maps, and
names that start with them, are read as names wherever they are referred to. -/
theorem parse_render_iff :
    (∀ d : Descriptor, parse d.render = .ok (.decode d) ↔ d.IsExpressible ∧ ¬ d.IsFileName) ∧
    ∀ name ∈ ["list", "map", "Dict", "listing"], ∀ d : Descriptor,
      parse (Descriptor.withLeaf (.named name) d).render =
        .ok (.decode (Descriptor.withLeaf (.named name) d)) := by
  refine ⟨parse_render, fun name hmem d => ?_⟩
  have hwords : ∀ name ∈ ["list", "map", "Dict", "listing"],
      IsTypeName name ∧ sameLetters name "file" = false := by decide +kernel
  obtain ⟨hname, hfile⟩ := hwords name hmem
  have hleaf : (Descriptor.named name).IsExpressible := hname
  have hleaf' : ¬ (Descriptor.named name).IsFileName := by simp [Descriptor.IsFileName, hfile]
  exact (parse_render _).2 ⟨isExpressible_withLeaf hleaf d, not_isFileName_withLeaf hleaf' d⟩

/-- A name of any script, and the word of a map in the place of a name. -/
theorem parse_render_names :
    ((Descriptor.map (.named "vcloud::Größe-2")).IsExpressible ∧
      ¬ (Descriptor.map (.named "vcloud::Größe-2")).IsFileName ∧
      parse (Descriptor.map (.named "vcloud::Größe-2")).render =
        .ok (.decode (.map (.named "vcloud::Größe-2")))) ∧
    "Dict" ∈ ["list", "map", "Dict", "listing"] ∧
      parse (Descriptor.list (.map (.named "Dict"))).render =
        .ok (.decode (.list (.map (.named "Dict")))) := by
  have hname : (Descriptor.map (.named "vcloud::Größe-2")).IsExpressible :=
    show IsTypeName "vcloud::Größe-2" by decide +kernel
  have hfile : ¬ (Descriptor.map (.named "vcloud::Größe-2")).IsFileName := not_false
  have hword : "Dict" ∈ ["list", "map", "Dict", "listing"] := by decide
  exact ⟨⟨hname, hfile, (parse_render_iff.1 _).2 ⟨hname, hfile⟩⟩, hword,
    parse_render_iff.2 "Dict" hword (.list (.map (.scalar .int)))⟩

/-- The word that asks for a file is a name like others inside of brackets. -/
example : parse (Descriptor.list (.map (.named "file"))).render =
    .ok (.decode (.list (.map (.named "file")))) := by
  decide +kernel

end Expression

end CloudDirector
