import FleetWatch.Http.Url
import Mathlib.Tactic.IntervalCases
import Mathlib.Tactic.SplitIfs

/-! # Every text can be asked for

Decoding UTF-8 gives back the characters that were encoded, and a segment in which every byte is
percent-encoded stands for the text with these bytes. So every id is named by some segment.
-/

namespace FleetWatch

namespace Text

/-! ## UTF-8 -/

theorem byteArray_toList (bytes : ByteArray) : bytes.toList = bytes.data.toList := by
  -- The loop reads the bytes from a position on and has collected those before it in reverse.
  have hloop : ∀ (i : Nat) (read : List UInt8),
      ByteArray.toList.loop bytes i read = read.reverse ++ bytes.data.toList.drop i := by
    intro i read
    fun_induction ByteArray.toList.loop bytes i read with
    | case1 i read hlt ih =>
        have hlt' : i < bytes.data.toList.length := by simpa using hlt
        rw [ih, List.drop_eq_getElem_cons hlt']
        simp [ByteArray.get!, hlt]
    | case2 i read hnot =>
        have hend : bytes.data.toList.length ≤ i := by simpa using hnot
        rw [List.drop_eq_nil_of_le hend, List.append_nil]
  rw [ByteArray.toList, hloop]
  rfl

theorem utf8Bytes_ofList (cs : List Char) :
    utf8Bytes (String.ofList cs) = cs.flatMap String.utf8EncodeChar := by
  rw [utf8Bytes, byteArray_toList]
  exact List.toList_data_toByteArray

theorem utf8Units_lead {n : Nat} (hlow : 128 ≤ n) (hhigh : n < 256) {needed : Nat}
    {low high : UInt8} (hshape : utf8Shape? (UInt8.ofNat n) = some (needed, low, high))
    (rest : List UInt8) :
    utf8Units none (UInt8.ofNat n :: rest) =
      utf8Units (some (utf8Lead needed (UInt8.ofNat n), needed, low, high)) rest := by
  have hnot : ¬ UInt8.ofNat n < 0x80 := by
    rw [UInt8.lt_iff_toNat_lt, UInt8.toNat_ofNat_of_lt' hhigh]
    exact Nat.not_lt.mpr hlow
  rw [utf8Units, if_neg hnot, hshape]

theorem utf8Units_two {n : Nat} (hlow : 194 ≤ n) (hhigh : n ≤ 223) (rest : List UInt8) :
    utf8Units none (UInt8.ofNat n :: rest) =
      utf8Units (some (n % 32, 1, 0x80, 0xBF)) rest := by
  have hshape : utf8Shape? (UInt8.ofNat n) = some (1, 0x80, 0xBF) := by
    interval_cases n <;> rfl
  have hbyte : n < 256 := by omega
  have hlead : utf8Lead 1 (UInt8.ofNat n) = n % 32 :=
    congrArg (· % 32) (UInt8.toNat_ofNat_of_lt' hbyte)
  rw [utf8Units_lead (by omega) hbyte hshape, hlead]

/-- Longer forms of shorter characters and surrogates are excluded. -/
theorem utf8Units_three {n : Nat} (hlow : 224 ≤ n) (hhigh : n ≤ 239) (rest : List UInt8) :
    utf8Units none (UInt8.ofNat n :: rest) =
      utf8Units
        (some (n % 16, 2, if n = 224 then 0xA0 else 0x80, if n = 237 then 0x9F else 0xBF))
        rest := by
  have hshape : utf8Shape? (UInt8.ofNat n) =
      some (2, if n = 224 then 0xA0 else 0x80, if n = 237 then 0x9F else 0xBF) := by
    interval_cases n <;> rfl
  have hbyte : n < 256 := by omega
  have hlead : utf8Lead 2 (UInt8.ofNat n) = n % 16 :=
    congrArg (· % 16) (UInt8.toNat_ofNat_of_lt' hbyte)
  rw [utf8Units_lead (by omega) hbyte hshape, hlead]

/-- Longer forms of shorter characters and what is beyond the last character are excluded. -/
theorem utf8Units_four {n : Nat} (hlow : 240 ≤ n) (hhigh : n ≤ 244) (rest : List UInt8) :
    utf8Units none (UInt8.ofNat n :: rest) =
      utf8Units
        (some (n % 8, 3, if n = 240 then 0x90 else 0x80, if n = 244 then 0x8F else 0xBF))
        rest := by
  have hshape : utf8Shape? (UInt8.ofNat n) =
      some (3, if n = 240 then 0x90 else 0x80, if n = 244 then 0x8F else 0xBF) := by
    interval_cases n <;> rfl
  have hbyte : n < 256 := by omega
  have hlead : utf8Lead 3 (UInt8.ofNat n) = n % 8 :=
    congrArg (· % 8) (UInt8.toNat_ofNat_of_lt' hbyte)
  rw [utf8Units_lead (by omega) hbyte hshape, hlead]

/-- A byte of a pending character, the last one or not. -/
theorem utf8Units_next {n : Nat} {low high : UInt8} (hlow : low.toNat ≤ n)
    (hhigh : n ≤ high.toNat) (value needed : Nat) (rest : List UInt8) :
    utf8Units (some (value, needed, low, high)) (UInt8.ofNat n :: rest) =
      if needed ≤ 1 then .char (Char.ofNat (value * 64 + n % 64)) :: utf8Units none rest
      else utf8Units (some (value * 64 + n % 64, needed - 1, 0x80, 0xBF)) rest := by
  have hn : (UInt8.ofNat n).toNat = n := UInt8.toNat_ofNat_of_lt' (hhigh.trans_lt high.toNat_lt)
  have hin : (decide (low ≤ UInt8.ofNat n) && decide (UInt8.ofNat n ≤ high)) = true := by
    rw [Bool.and_eq_true, decide_eq_true_eq, decide_eq_true_eq, UInt8.le_iff_toNat_le,
      UInt8.le_iff_toNat_le, hn]
    exact ⟨hlow, hhigh⟩
  rw [utf8Units, if_pos hin, hn]

/-- An encoded character is read back, whatever follows it. -/
theorem utf8Units_utf8EncodeChar (c : Char) (rest : List UInt8) :
    utf8Units none (String.utf8EncodeChar c ++ rest) = .char c :: utf8Units none rest := by
  obtain ⟨v, hv⟩ : ∃ v, v = c.val.toNat := ⟨_, rfl⟩
  have hc : Char.ofNat v = c := by rw [hv]; exact Char.ofNat_toNat c
  have hvalid : v < 0xD800 ∨ 0xDFFF < v ∧ v < 0x110000 := hv ▸ c.valid
  simp only [String.utf8EncodeChar, ← hv]
  split_ifs with hone htwo hthree
  · have hbyte : (UInt8.ofNat v).toNat = v := UInt8.toNat_ofNat_of_lt' (hone.trans_lt (by decide))
    have hsmall : UInt8.ofNat v < 0x80 := by
      rw [UInt8.lt_iff_toNat_lt, hbyte]
      exact Nat.lt_succ_of_le hone
    rw [List.singleton_append, utf8Units, if_pos hsmall, hbyte, hc]
  · have hvalue : (v / 64 % 32 + 192) % 32 * 64 + (v % 64 + 128) % 64 = v := by omega
    rw [List.cons_append, List.singleton_append, utf8Units_two (by omega) (by omega),
      utf8Units_next (by simp) (by simp; omega), if_pos (by omega), hvalue, hc]
  · have hvalue : ((v / 4096 % 16 + 224) % 16 * 64 + (v / 64 % 64 + 128) % 64) * 64 +
        (v % 64 + 128) % 64 = v := by omega
    rw [List.cons_append, List.cons_append, List.singleton_append,
      utf8Units_three (by omega) (by omega),
      utf8Units_next (by split <;> simp; omega) (by split <;> simp <;> omega), if_neg (by omega),
      utf8Units_next (by simp) (by simp; omega), if_pos (by omega), hvalue, hc]
  · have hvalue : (((v / 262144 % 8 + 240) % 8 * 64 + (v / 4096 % 64 + 128) % 64) * 64 +
        (v / 64 % 64 + 128) % 64) * 64 + (v % 64 + 128) % 64 = v := by omega
    rw [List.cons_append, List.cons_append, List.cons_append, List.singleton_append,
      utf8Units_four (by omega) (by omega),
      utf8Units_next (by split <;> simp; omega) (by split <;> simp <;> omega), if_neg (by omega),
      utf8Units_next (by simp) (by simp; omega), if_neg (by omega),
      utf8Units_next (by simp) (by simp; omega), if_pos (by omega), hvalue, hc]

/-- What was encoded is read back. -/
theorem decodeUtf8?_utf8Bytes (s : String) : decodeUtf8? (utf8Bytes s) = some s.toList := by
  have hunits : ∀ cs : List Char,
      utf8Units none (cs.flatMap String.utf8EncodeChar) = cs.map Utf8Unit.char := by
    intro cs
    induction cs with
    | nil => rfl
    | cons c rest ih => rw [List.flatMap_cons, utf8Units_utf8EncodeChar, ih, List.map_cons]
  rw [← String.ofList_toList (s := s), utf8Bytes_ofList, decodeUtf8?, hunits, List.mapM_map]
  exact (List.mapM_pure (f := id)).trans (by simp)

end Text

namespace Http

/-! ## Percent encoding -/

/-- A hexadecimal digit as it stands in an encoded byte. -/
def hexDigit (n : Nat) : Char := if n < 10 then Char.ofNat (48 + n) else Char.ofNat (55 + n)

theorem percentByte_eq (b : UInt8) :
    percentByte b = ['%', hexDigit (b.toNat / 16), hexDigit (b.toNat % 16)] := rfl

theorem utf8EncodeChar_hexDigit {n : Nat} (h : n < 16) :
    String.utf8EncodeChar (hexDigit n) = [UInt8.ofNat (hexDigit n).toNat] := by
  interval_cases n <;> rfl

theorem ofNat_hexDigit {n : Nat} (h : n < 16) :
    Char.ofNat (UInt8.ofNat (hexDigit n).toNat).toNat = hexDigit n := by
  interval_cases n <;> rfl

theorem natOfDigits?_hexDigit {m n : Nat} (hm : m < 16) (hn : n < 16) :
    natOfDigits? 16 [hexDigit m, hexDigit n] = some (m * 16 + n) := by
  interval_cases m <;> interval_cases n <;> rfl

/-- An encoded byte is read back. -/
theorem percentDecoded_percentByte (b : UInt8) (rest : List UInt8) :
    percentDecoded ((percentByte b).flatMap String.utf8EncodeChar ++ rest) =
      b :: percentDecoded rest := by
  have hhigh : b.toNat / 16 < 16 := Nat.div_lt_of_lt_mul b.toNat_lt
  have hlow : b.toNat % 16 < 16 := Nat.mod_lt _ (by decide)
  have hbytes : (percentByte b).flatMap String.utf8EncodeChar =
      [0x25, UInt8.ofNat (hexDigit (b.toNat / 16)).toNat,
        UInt8.ofNat (hexDigit (b.toNat % 16)).toNat] := by
    rw [percentByte_eq]
    simp only [List.flatMap_cons, List.flatMap_nil, utf8EncodeChar_hexDigit hhigh,
      utf8EncodeChar_hexDigit hlow]
    rfl
  have hdigits := natOfDigits?_hexDigit hhigh hlow
  rw [hbytes, List.cons_append, List.cons_append, List.singleton_append, percentDecoded,
    ofNat_hexDigit hhigh, ofNat_hexDigit hlow, hdigits, Nat.div_add_mod']
  simp

theorem segmentText?_eq (segment : List Char) :
    segmentText? segment =
      (Text.decodeUtf8? (percentDecoded (segment.flatMap String.utf8EncodeChar))).map
        String.ofList := by
  rw [segmentText?, Text.utf8Bytes_ofList]

/-- Every text is named by a segment. -/
theorem segmentText?_percentByte (s : String) :
    segmentText? ((Text.utf8Bytes s).flatMap percentByte) = some s := by
  have hdecoded : ∀ bytes : List UInt8,
      percentDecoded ((bytes.flatMap percentByte).flatMap String.utf8EncodeChar) = bytes := by
    intro bytes
    induction bytes with
    | nil => rfl
    | cons b rest ih =>
        rw [List.flatMap_cons, List.flatMap_append, percentDecoded_percentByte, ih]
  rw [segmentText?_eq, hdecoded, Text.decodeUtf8?_utf8Bytes, Option.map_some,
    String.ofList_toList]

end Http

end FleetWatch
