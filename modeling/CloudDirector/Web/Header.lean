import CloudDirector.Text.Blank

/-!
# Headers

The headers of a message are pairs of a name in lower case and a value, in the order in which they
were added; a name may come more than once.  A value is any text without control characters other
than tab.  Values with characters outside ASCII are carried along, but none is read as text.
-/

namespace CloudDirector.Web

/-- The headers of a message. -/
abbrev Headers := List (String × String)

/-- Whether a text may be the value of a header. -/
def isHeaderValue (s : String) : Bool :=
  s.toList.all fun c => (0x20 ≤ c.toNat && c.toNat != 0x7F) || c == '\t'

/-- Whether the value of a header is plain text. -/
def isPlainValue (s : String) : Bool :=
  s.toList.all fun c => (0x20 ≤ c.toNat && c.toNat < 0x7F) || c == '\t'

namespace Headers

/-- The headers of pairs whose names are in any case of letters. -/
def ofPairs (pairs : List (String × String)) : Headers :=
  pairs.map fun (name, value) => (Text.asciiLower name, value)

/-- The values of a name, given in lower case. -/
def values (hs : Headers) (name : String) : List String :=
  (hs.filter fun (n, _) => n == name).map Prod.snd

/-- The first value of a name in any case of letters. -/
def first? (hs : Headers) (name : String) : Option String :=
  (hs.values (Text.asciiLower name)).head?

/-- The first value of a name, if it is plain text. -/
def text? (hs : Headers) (name : String) : Option String := (hs.first? name).filter isPlainValue

/-- Sets the only value of a name, given in lower case. -/
def set (hs : Headers) (name value : String) : Headers :=
  (hs.filter fun (n, _) => n != name) ++ [(name, value)]

/-- The headers in the order of their names; the values of one name keep their order. -/
def sorted (hs : Headers) : Headers := hs.mergeSort fun h k => decide (h.1 ≤ k.1)

end Headers

end CloudDirector.Web
