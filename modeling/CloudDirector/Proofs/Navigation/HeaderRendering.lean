import CloudDirector.Proofs.Navigation.HeaderGrammar

/-!
# Written headers are read back

Whoever writes a link header chooses for each parameter whether its value stands in quotes, stands
as it is or is left out, and how many gaps go around each separator.  The entries say the former,
and a relation between entries and texts allows for the latter.  Whatever was chosen, the text is a
derivation of the entries, so reading gives one link for each of them: marks inside of brackets or
quotes separate nothing.
-/

namespace CloudDirector.LinkHeader

open Text

/-! ## Entries and their texts -/

/-- A value together with the way in which it is written. -/
inductive Written where
  | quoted (text : List Char) (htext : '"' ∉ text)
  | bare (text : List Char) (hne : text ≠ []) (htrim : trim text = text)
      (htext : ∀ c ∈ text, isBareChar c = true) (hquote : text.head? ≠ some '"')
  | leftOut

/-- The value, which is empty if it is left out. -/
def Written.text : Written → List Char
  | quoted text _ => text
  | bare text _ _ _ _ => text
  | leftOut => []

/-- A parameter that can be written. -/
structure Parameter where
  key : List Char
  value : Written
  key_ne_nil : key ≠ []
  isKeyChar_of_mem : ∀ c ∈ key, isKeyChar c = true

/-- A link that can be written. -/
structure Entry where
  href : List Char
  parameters : List Parameter
  close_not_mem : '>' ∉ href

/-- The link that an entry says: the parameters set its attributes from left to right. -/
def Entry.link (e : Entry) : Link :=
  e.parameters.foldl (fun l p => l.setAttribute (asciiLower (.ofList p.key)) (.ofList p.value.text))
    { href := .ofList (trim e.href) }

/-- The characters behind a key write its value. -/
inductive Written.Writes : Written → List Char → Prop
  | quoted {sep text : List Char} {htext : '"' ∉ text} (hsep : Separates '=' sep) :
      Writes (.quoted text htext) (sep ++ '"' :: text ++ ['"'])
  | bare {sep text : List Char} {hne : text ≠ []} {htrim : trim text = text}
      {htext : ∀ c ∈ text, isBareChar c = true} {hquote : text.head? ≠ some '"'}
      (hsep : Separates '=' sep) : Writes (.bare text hne htrim htext hquote) (sep ++ text)
  | leftOut : Writes .leftOut []

/-- The characters write parameters, each of them behind a semicolon. -/
inductive WritesParameters : List Parameter → List Char → Prop
  | nil : WritesParameters [] []
  | cons {p : Parameter} {ps : List Parameter} {sep cs rest : List Char} (hsep : Separates ';' sep)
      (hvalue : p.value.Writes cs) (hrest : WritesParameters ps rest) :
      WritesParameters (p :: ps) (sep ++ p.key ++ cs ++ rest)

/-- The characters write an entry. -/
def Entry.Writes (e : Entry) (cs : List Char) : Prop :=
  ∃ text, WritesParameters e.parameters text ∧ cs = '<' :: e.href ++ '>' :: text

/-- The characters write entries, each of them behind a comma. -/
inductive WritesMore : List Entry → List Char → Prop
  | nil : WritesMore [] []
  | cons {e : Entry} {es : List Entry} {sep cs rest : List Char} (hsep : Separates ',' sep)
      (h : e.Writes cs) (hrest : WritesMore es rest) : WritesMore (e :: es) (sep ++ cs ++ rest)

/-- The characters write entries, with commas between them and gaps around the whole. -/
inductive Writes : List Entry → List Char → Prop
  | nil {gaps : List Char} (hgaps : AreGaps gaps) : Writes [] gaps
  | cons {e : Entry} {es : List Entry} {before cs rest after : List Char} (hbefore : AreGaps before)
      (h : e.Writes cs) (hrest : WritesMore es rest) (hafter : AreGaps after) :
      Writes (e :: es) (before ++ cs ++ rest ++ after)

variable {after cs : List Char} {e : Entry} {es : List Entry}

/-! ## What is written can be derived -/

/-- The item that an entry is read as. -/
def Entry.item (e : Entry) : Item := ⟨e.href, e.parameters.map fun p => (p.key, p.value.text)⟩

lemma link_item (e : Entry) : e.item.link = e.link := by
  rw [Item.link, Link.setAttributes, Entry.item, List.map_map, List.foldl_map]
  rfl

lemma Written.Writes.isValue {w : Written} (h : w.Writes cs) (after : List Char) :
    IsValue after cs w.text := by
  cases h with
  | @quoted sep text htext hsep => exact .quoted hsep htext
  | @bare sep text hne htrim htext hquote hsep =>
    -- gaps in front would belong to the separator, but all gaps are blanks
    have hstart : Stops isGap text := by
      intro c hc
      by_contra hgap
      rw [Bool.not_eq_false] at hgap
      have hblank := stops_isBlank_of_trim_eq_self htrim c hc
      rw [isBlank_of_isGap hgap] at hblank
      cases hblank
    have hvalue : IsValue after (sep ++ text) (trim text) :=
      .bare hsep hstart htext fun hhead => absurd hhead hquote
    rwa [htrim] at hvalue
  | leftOut => exact .leftOut

lemma WritesParameters.areParameters {ps : List Parameter} (h : WritesParameters ps cs)
    (after : List Char) : AreParameters after cs (ps.map fun p => (p.key, p.value.text)) := by
  induction h with
  | nil => exact .nil
  | @cons p ps sep cs rest hsep hvalue _ ih =>
    exact .cons (.intro hsep p.key_ne_nil p.isKeyChar_of_mem (hvalue.isValue (rest ++ after))) ih

lemma Entry.Writes.isItem (h : e.Writes cs) (after : List Char) : IsItem after cs e.item := by
  obtain ⟨text, htext, rfl⟩ := h
  exact .intro e.close_not_mem (htext.areParameters after)

lemma WritesMore.areItems (h : WritesMore es cs) (after : List Char) :
    AreItems after cs (es.map Entry.item) := by
  induction h with
  | nil => exact .nil
  | @cons e es sep cs rest hsep he _ ih => exact .cons hsep (he.isItem (rest ++ after)) ih

lemma Writes.derives (h : Writes es cs) : Derives cs (es.map Entry.item) := by
  cases h with
  | nil hgaps => exact .nil hgaps
  | @cons e es before cs rest after hbefore he hrest hafter =>
    exact .cons hbefore (he.isItem (rest ++ after)) (hrest.areItems after) hafter

/-! ## Every list of entries can be written -/

lemma separates_self (m : Char) : Separates m [m] := ⟨[], [], nofun, nofun, rfl⟩

lemma Written.exists_writes (w : Written) : ∃ cs, w.Writes cs := by
  cases w with
  | quoted text htext => exact ⟨_, .quoted (separates_self '=')⟩
  | bare text hne htrim htext hquote => exact ⟨_, .bare (separates_self '=')⟩
  | leftOut => exact ⟨_, .leftOut⟩

lemma exists_writesParameters (ps : List Parameter) : ∃ cs, WritesParameters ps cs := by
  induction ps with
  | nil => exact ⟨_, .nil⟩
  | cons p ps ih =>
    obtain ⟨rest, hrest⟩ := ih
    obtain ⟨cs, hvalue⟩ := p.value.exists_writes
    exact ⟨_, .cons (separates_self ';') hvalue hrest⟩

lemma Entry.exists_writes (e : Entry) : ∃ cs, e.Writes cs := by
  obtain ⟨text, htext⟩ := exists_writesParameters e.parameters
  exact ⟨_, text, htext, rfl⟩

lemma exists_writesMore (es : List Entry) : ∃ cs, WritesMore es cs := by
  induction es with
  | nil => exact ⟨_, .nil⟩
  | cons e es ih =>
    obtain ⟨rest, hrest⟩ := ih
    obtain ⟨cs, he⟩ := e.exists_writes
    exact ⟨_, .cons (separates_self ',') he hrest⟩

lemma exists_writes (es : List Entry) : ∃ cs, Writes es cs := by
  cases es with
  | nil => exact ⟨[], .nil nofun⟩
  | cons e es =>
    obtain ⟨cs, he⟩ := e.exists_writes
    obtain ⟨rest, hrest⟩ := exists_writesMore es
    exact ⟨[] ++ cs ++ rest ++ [], .cons nofun he hrest nofun⟩

/-! ## Written, then read -/

/-- Every list of entries has headers that write it, and each of them is read as one link for each
entry, in order: the trimmed target with the parameters applied from left to right. -/
theorem parse_of_writes (es : List Entry) :
    (∃ header : String, Writes es header.toList) ∧
    ∀ header : String, Writes es header.toList → parse header = .ok (es.map Entry.link) := by
  constructor
  · obtain ⟨cs, hcs⟩ := exists_writes es
    refine ⟨.ofList cs, ?_⟩
    rwa [String.toList_ofList]
  · intro header hheader
    refine parse_eq_ok_iff.2 ⟨es.map Entry.item, hheader.derives, ?_⟩
    rw [List.map_map]
    exact List.map_congr_left fun e _ => (link_item e).symm

namespace Sample

def next : Entry where
  href := "/page?ids=1,2;of=<3".toList
  parameters := [
    { key := "rel".toList
      value := .bare "next".toList (by decide) (by decide) (List.all_eq_true.1 rfl) (by decide)
      key_ne_nil := by decide
      isKeyChar_of_mem := List.all_eq_true.1 rfl },
    { key := "Title".toList
      value := .quoted "two, of 3; <all>".toList (by decide)
      key_ne_nil := by decide
      isKeyChar_of_mem := List.all_eq_true.1 rfl },
    { key := "hidden".toList
      value := .leftOut
      key_ne_nil := by decide
      isKeyChar_of_mem := List.all_eq_true.1 rfl }]
  close_not_mem := by decide

def up : Entry where
  href := " /up ".toList
  parameters := [
    { key := "REL".toList
      value := .bare "up \"too\"".toList (by decide) (by decide) (List.all_eq_true.1 rfl)
        (by decide)
      key_ne_nil := by decide
      isKeyChar_of_mem := List.all_eq_true.1 rfl }]
  close_not_mem := by decide

/-- A header of two links with marks inside of brackets and quotes. -/
def header : String :=
  " </page?ids=1,2;of=<3>;rel =next ;Title=\"two, of 3; <all>\"; hidden\t,< /up >;REL= up \"too\""

lemma writes_header : Writes [next, up] header.toList := by
  have hmark : Separates ';' [';'] := separates_self ';'
  have hrel : Separates '=' " =".toList := ⟨[' '], [], by decide, by decide, by decide⟩
  have htitle : Separates ';' " ;".toList := ⟨[' '], [], by decide, by decide, by decide⟩
  have hhidden : Separates ';' "; ".toList := ⟨[], [' '], by decide, by decide, by decide⟩
  have hcomma : Separates ',' "\t,".toList := ⟨['\t'], [], by decide, by decide, by decide⟩
  have hup : Separates '=' "= ".toList := ⟨[], [' '], by decide, by decide, by decide⟩
  have hparameters : WritesParameters next.parameters _ :=
    .cons hmark (.bare hrel) (.cons htitle (.quoted (separates_self '='))
      (.cons hhidden .leftOut .nil))
  have hparameters' : WritesParameters up.parameters _ := .cons hmark (.bare hup) .nil
  have hbefore : AreGaps " ".toList := by decide
  have hwritten := Writes.cons hbefore ⟨_, hparameters, rfl⟩
    (.cons hcomma ⟨_, hparameters', rfl⟩ .nil) (show AreGaps [] by decide)
  convert hwritten using 1
  decide

/-- Marks inside of brackets and quotes separate nothing, and keys count in lower case. -/
theorem parse_header :
    Writes [next, up] header.toList ∧
      parse header = .ok [
        { href := "/page?ids=1,2;of=<3", rel := ["next"]
          attributes := [("title", "two, of 3; <all>"), ("hidden", "")] },
        { href := "/up", rel := ["up", "\"too\""] }] := by
  refine ⟨writes_header, ?_⟩
  rw [(parse_of_writes _).2 _ writes_header]
  decide +kernel

end Sample

end CloudDirector.LinkHeader
