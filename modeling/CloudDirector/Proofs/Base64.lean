import CloudDirector.Base64
import Mathlib.Data.List.Basic

/-!
# Bytes are read back from base 64

A text in base 64 is one of ASCII, so its bytes are the numbers of its characters.  Decoding walks
over the groups of four symbols that encoding has made of groups of three bytes; only the last
group may be padded.
-/

namespace CloudDirector

/-! ## Texts of ASCII as bytes -/

namespace Text

lemma toList_loop_eq (bytes : ByteArray) (i : Nat) (acc : List UInt8) :
    ByteArray.toList.loop bytes i acc = acc.reverse ++ bytes.data.toList.drop i := by
  induction i, acc using ByteArray.toList.loop.induct bytes with
  | case1 i acc hlt ih =>
    have hi : i < bytes.data.toList.length := by simpa using hlt
    have hget : bytes.get! i = bytes.data.toList[i] := by
      rw [Array.getElem_toList]
      exact getElem!_pos bytes.data i hlt
    rw [ByteArray.toList.loop, if_pos hlt, ih, List.drop_eq_getElem_cons hi, hget,
      List.reverse_cons, List.append_assoc, List.singleton_append]
  | case2 i acc hge =>
    have hle : bytes.data.toList.length ≤ i := by simpa using hge
    rw [ByteArray.toList.loop, if_neg hge, List.drop_eq_nil_of_le hle, List.append_nil]

lemma toList_utf8Encode {cs : List Char} (h : ∀ c ∈ cs, c.toNat < 128) :
    cs.utf8Encode.data.toList = cs.map Char.toUInt8 := by
  induction cs with
  | nil => simp
  | cons c cs ih =>
    have hsize : c.utf8Size = 1 := by
      rw [Char.utf8Size_eq_one_iff]
      exact Nat.le_of_lt_succ (h c List.mem_cons_self)
    rw [List.utf8Encode_cons, ByteArray.toList_data_append, List.utf8Encode_singleton,
      String.utf8EncodeChar_eq_singleton hsize, List.toList_data_toByteArray,
      ih fun d hd => h d (List.mem_cons_of_mem _ hd)]
    rfl

/-- A text of ASCII has one byte for each character. -/
lemma toUTF8_ofList {cs : List Char} (h : ∀ c ∈ cs, c.toNat < 128) :
    (String.ofList cs).toUTF8.toList = cs.map Char.toUInt8 := by
  rw [ByteArray.toList, toList_loop_eq, String.toUTF8_eq_toByteArray, String.toByteArray_ofList,
    List.reverse_nil, List.nil_append, List.drop_zero, toList_utf8Encode h]

end Text

namespace Base64

open Text

/-! ## Symbols -/

lemma sixBits?_symbol : ∀ n < 64, sixBits? (symbol n).toUInt8 = some n := by decide +kernel

lemma symbol_ne_pad : ∀ n < 64, (symbol n).toUInt8 ≠ pad := by decide +kernel

lemma symbol_lt : ∀ n < 64, (symbol n).toNat < 128 := by decide +kernel

lemma toNat_lt_of_mem_encode {bytes : List UInt8} {c : Char} (h : c ∈ encode bytes) :
    c.toNat < 128 := by
  induction bytes using encode.induct with
  | case1 => cases h
  | case2 a =>
    have ha := a.toNat_lt
    simp only [encode, List.mem_cons, List.not_mem_nil, or_false] at h
    rcases h with rfl | rfl | rfl | rfl
    · exact symbol_lt _ (by omega)
    · exact symbol_lt _ (by omega)
    · decide
    · decide
  | case3 a b =>
    have ha := a.toNat_lt
    have hb := b.toNat_lt
    simp only [encode, List.mem_cons, List.not_mem_nil, or_false] at h
    rcases h with rfl | rfl | rfl | rfl
    · exact symbol_lt _ (by omega)
    · exact symbol_lt _ (by omega)
    · exact symbol_lt _ (by omega)
    · decide
  | case4 a b c rest ih =>
    have ha := a.toNat_lt
    have hb := b.toNat_lt
    have hc := c.toNat_lt
    simp only [encode, List.mem_cons] at h
    rcases h with rfl | rfl | rfl | rfl | h
    · exact symbol_lt _ (by omega)
    · exact symbol_lt _ (by omega)
    · exact symbol_lt _ (by omega)
    · exact symbol_lt _ (by omega)
    · exact ih h

/-! ## Groups -/

/-- Symbols that are no padding are collected one by one. -/
lemma readLast_symbol {n : Nat} (hn : n < 64) (offset : Nat) (values : List (UInt8 × Nat))
    (rest : List UInt8) :
    readLast offset values 0 ((symbol n).toUInt8 :: rest) =
      readLast offset (values ++ [((symbol n).toUInt8, n)]) 0 rest := by
  rw [readLast, if_neg (symbol_ne_pad n hn), if_neg (Nat.lt_irrefl 0), sixBits?_symbol n hn]

lemma readLast_nil (offset : Nat) (values : List (UInt8 × Nat)) (pads : Nat) :
    readLast offset values pads [] = .ok (values, pads) := rfl

lemma readLast_pad (offset : Nat) {values : List (UInt8 × Nat)} (hvalues : 2 ≤ values.length)
    (pads : Nat) (rest : List UInt8) :
    readLast offset values pads (pad :: rest) = readLast offset values (pads + 1) rest := by
  rw [readLast, if_pos rfl, if_neg (by omega)]

/-! The six bits of the symbols make up the bytes again. -/

lemma ofNat_first (a : UInt8) {r : Nat} (hr : r < 16) :
    UInt8.ofNat (a.toNat / 4 * 4 + (a.toNat % 4 * 16 + r) / 16) = a := by
  rw [show a.toNat / 4 * 4 + (a.toNat % 4 * 16 + r) / 16 = a.toNat by omega, UInt8.ofNat_toNat]

lemma ofNat_second (p : Nat) (b : UInt8) {r : Nat} (hr : r < 4) :
    UInt8.ofNat ((p * 16 + b.toNat / 16) % 16 * 16 + (b.toNat % 16 * 4 + r) / 4) = b := by
  have hb := b.toNat_lt
  rw [show (p * 16 + b.toNat / 16) % 16 * 16 + (b.toNat % 16 * 4 + r) / 4 = b.toNat by omega,
    UInt8.ofNat_toNat]

lemma ofNat_third (p : Nat) (c : UInt8) :
    UInt8.ofNat ((p * 4 + c.toNat / 64) % 4 * 64 + c.toNat % 64) = c := by
  have hc := c.toNat_lt
  rw [show (p * 4 + c.toNat / 64) % 4 * 64 + c.toNat % 64 = c.toNat by omega, UInt8.ofNat_toNat]

lemma map_encode_one (a : UInt8) : (encode [a]).map Char.toUInt8 =
    [(symbol (a.toNat / 4)).toUInt8, (symbol (a.toNat % 4 * 16)).toUInt8, pad, pad] := rfl

lemma decodeLast_one (offset : Nat) (a : UInt8) :
    decodeLast offset ((encode [a]).map Char.toUInt8) = .ok [a] := by
  have ha := a.toNat_lt
  have hfirst := ofNat_first a (show 0 < 16 by decide)
  have hlow : a.toNat % 4 * 16 % 16 = 0 := by omega
  rw [Nat.add_zero] at hfirst
  rw [map_encode_one, decodeLast, readLast_symbol (by omega), readLast_symbol (by omega),
    readLast_pad _ (by simp), readLast_pad _ (by simp), readLast_nil]
  simp only [bind, Except.bind, pure, Except.pure, List.nil_append, List.cons_append, hlow, hfirst]
  simp

lemma map_encode_two (a b : UInt8) : (encode [a, b]).map Char.toUInt8 =
    [(symbol (a.toNat / 4)).toUInt8, (symbol (a.toNat % 4 * 16 + b.toNat / 16)).toUInt8,
      (symbol (b.toNat % 16 * 4)).toUInt8, pad] := rfl

lemma decodeLast_two (offset : Nat) (a b : UInt8) :
    decodeLast offset ((encode [a, b]).map Char.toUInt8) = .ok [a, b] := by
  have ha := a.toNat_lt
  have hb := b.toNat_lt
  have hfirst := ofNat_first a (show b.toNat / 16 < 16 by omega)
  have hsecond := ofNat_second (a.toNat % 4) b (show 0 < 4 by decide)
  have hlow : b.toNat % 16 * 4 % 4 = 0 := by omega
  rw [Nat.add_zero] at hsecond
  rw [map_encode_two, decodeLast, readLast_symbol (by omega), readLast_symbol (by omega),
    readLast_symbol (by omega), readLast_pad _ (by simp), readLast_nil]
  simp only [bind, Except.bind, pure, Except.pure, List.nil_append, List.cons_append, hlow, hfirst,
    hsecond]
  simp

section Whole

variable (a b c : UInt8)

/-- The symbols of three bytes. -/
def whole : List UInt8 := (encode [a, b, c]).map Char.toUInt8

lemma whole_eq : whole a b c =
    [(symbol (a.toNat / 4)).toUInt8, (symbol (a.toNat % 4 * 16 + b.toNat / 16)).toUInt8,
      (symbol (b.toNat % 16 * 4 + c.toNat / 64)).toUInt8, (symbol (c.toNat % 64)).toUInt8] := rfl

lemma decodeLast_whole (offset : Nat) : decodeLast offset (whole a b c) = .ok [a, b, c] := by
  have ha := a.toNat_lt
  have hb := b.toNat_lt
  have hc := c.toNat_lt
  have hfirst := ofNat_first a (show b.toNat / 16 < 16 by omega)
  have hsecond := ofNat_second (a.toNat % 4) b (show c.toNat / 64 < 4 by omega)
  have hthird := ofNat_third (b.toNat % 16) c
  rw [whole_eq, decodeLast, readLast_symbol (by omega), readLast_symbol (by omega),
    readLast_symbol (by omega), readLast_symbol (by omega), readLast_nil]
  simp only [bind, Except.bind, pure, Except.pure, List.nil_append, List.cons_append, hfirst,
    hsecond, hthird]
  simp

lemma decodeGroup_whole (offset : Nat) {p q r s : UInt8} (h : whole a b c = [p, q, r, s]) :
    decodeGroup offset p q r s = .ok [a, b, c] := by
  have ha := a.toNat_lt
  have hb := b.toNat_lt
  have hc := c.toNat_lt
  simp only [whole_eq, List.cons.injEq, and_true] at h
  obtain ⟨rfl, rfl, rfl, rfl⟩ := h
  simp only [decodeGroup, bind, Except.bind, pure, Except.pure,
    sixBits?_symbol (a.toNat / 4) (by omega),
    sixBits?_symbol (a.toNat % 4 * 16 + b.toNat / 16) (by omega),
    sixBits?_symbol (b.toNat % 16 * 4 + c.toNat / 64) (by omega),
    sixBits?_symbol (c.toNat % 64) (by omega),
    ofNat_first a (show b.toNat / 16 < 16 by omega),
    ofNat_second (a.toNat % 4) b (show c.toNat / 64 < 4 by omega), ofNat_third (b.toNat % 16) c]

end Whole

/-! ## Texts -/

lemma encode_eq_cons_of_ne_nil {bytes : List UInt8} (h : bytes ≠ []) :
    ∃ c cs, encode bytes = c :: cs := by
  induction bytes using encode.induct with
  | case1 => exact absurd rfl h
  | case2 a => exact ⟨_, _, rfl⟩
  | case3 a b => exact ⟨_, _, rfl⟩
  | case4 a b c rest ih => exact ⟨_, _, rfl⟩

lemma four_dvd_length_encode (bytes : List UInt8) : 4 ∣ (encode bytes).length := by
  induction bytes using encode.induct with
  | case1 => simp [encode]
  | case2 a => simp [encode]
  | case3 a b => simp [encode]
  | case4 a b c rest ih =>
    simp only [encode, List.length_cons]
    omega

lemma decodeFrom_encode (bytes : List UInt8) (offset : Nat) :
    decodeFrom offset ((encode bytes).map Char.toUInt8) = .ok bytes := by
  induction bytes using encode.induct generalizing offset with
  | case1 => rfl
  | case2 a => exact decodeLast_one offset a
  | case3 a b => exact decodeLast_two offset a b
  | case4 a b c rest ih =>
    -- a last group may be padded, so it has a reader of its own even when it is whole
    cases rest with
    | nil => exact decodeLast_whole a b c offset
    | cons d rest =>
      obtain ⟨x, xs, hx⟩ := encode_eq_cons_of_ne_nil (List.cons_ne_nil d rest)
      have hrest := ih (offset + 4)
      rw [hx, List.map_cons] at hrest
      rw [encode, hx]
      simp only [List.map_cons]
      rw [decodeFrom, decodeGroup_whole a b c offset rfl, hrest]
      rfl

/-- The bytes of a text are those that it was made of. -/
lemma decode_encode (bytes : List UInt8) :
    decode (String.ofList (encode bytes)).toUTF8.toList = .ok bytes := by
  rw [toUTF8_ofList fun c hc => toNat_lt_of_mem_encode hc, decode]
  split
  · next x _ =>
    have hlength := four_dvd_length_encode bytes
    rw [if_neg (by rw [List.length_map]; omega)]
    exact decodeFrom_encode bytes 0
  · next hnone =>
    rw [List.getLast?_eq_none_iff, List.map_eq_nil_iff] at hnone
    by_contra hne
    have hbytes : bytes ≠ [] := by
      rintro rfl
      exact hne rfl
    obtain ⟨x, xs, hx⟩ := encode_eq_cons_of_ne_nil hbytes
    rw [hx] at hnone
    cases hnone

end Base64

end CloudDirector
