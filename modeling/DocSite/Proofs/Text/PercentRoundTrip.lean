import DocSite.Text.Percent
import Mathlib.Order.Basic

/-! Percent encoding loses nothing. The bytes of a character are read back as that
character: the lead byte fixes the number of bytes and the range of the second one,
and that range holds it because the character is no surrogate and is not written
with fewer bytes. Each percent sign with two digits is read back as its byte, and
what stays as it is, is one byte of ASCII. Hence decoding undoes encoding, different
texts have different encodings, and an encoding holds a hash only where the text
holds one. -/

namespace DocSite.Text

/-! ### Characters and their bytes -/

theorem utf8PiecesFrom_append {skipped : ℕ} {done : Bytes} (h : done.length = skipped)
    (rest : Bytes) : utf8PiecesFrom skipped (done ++ rest) = utf8PiecesFrom 0 rest := by
  induction done generalizing skipped with
  | nil => subst h; rfl
  | cons b bs ih =>
    subst h
    simpa [utf8PiecesFrom] using ih rfl

theorem toNat_ofNat_of_lt {n : ℕ} (h : n < 256) : (UInt8.ofNat n).toNat = n := by
  simpa using h

namespace Utf8Piece

/-- A byte in the expected range adds six bits to the character. -/
theorem continued_ofNat {least greatest : UInt8} {n : ℕ} (hLeast : least.toNat ≤ n)
    (hGreatest : n ≤ greatest.toNat) (code length owed : ℕ) (bs : Bytes) :
    continued code length least greatest (owed + 1) (UInt8.ofNat n :: bs) =
      continued (code * 64 + (n - 0x80)) (length + 1) 0x80 0xBF owed bs := by
  have hVal := toNat_ofNat_of_lt (n := n) (by have := greatest.toNat_lt; omega)
  have hRange : least ≤ UInt8.ofNat n ∧ UInt8.ofNat n ≤ greatest := by
    simp only [UInt8.le_iff_toNat_le, hVal]
    exact ⟨hLeast, hGreatest⟩
  simp [continued, hRange, hVal]

/-- What a lead byte asks for, by its value. -/
theorem lead?_ofNat {n : ℕ} (hn : n < 256) :
    lead? (UInt8.ofNat n) =
      if 0xC2 ≤ n ∧ n ≤ 0xDF then some (1, 0x80, 0xBF)
      else if n = 0xE0 then some (2, 0xA0, 0xBF)
      else if n = 0xED then some (2, 0x80, 0x9F)
      else if 0xE1 ≤ n ∧ n ≤ 0xEF then some (2, 0x80, 0xBF)
      else if n = 0xF0 then some (3, 0x90, 0xBF)
      else if 0xF1 ≤ n ∧ n ≤ 0xF3 then some (3, 0x80, 0xBF)
      else if n = 0xF4 then some (3, 0x80, 0x8F)
      else none := by
  simp [lead?, UInt8.le_iff_toNat_le, ← UInt8.toNat_inj, toNat_ofNat_of_lt hn]

theorem read_of_lead {n owed : ℕ} {least greatest : UInt8} (hLow : 0x80 ≤ n) (hn : n < 256)
    (hLead : lead? (UInt8.ofNat n) = some (owed, least, greatest)) (bs : Bytes) :
    read (UInt8.ofNat n) bs = continued (n % (0x40 >>> owed)) 1 least greatest owed bs := by
  have hVal := toNat_ofNat_of_lt hn
  have hNot : ¬ UInt8.ofNat n < 0x80 := by
    rw [UInt8.lt_iff_toNat_lt, hVal]
    exact Nat.not_lt.2 hLow
  simp [read, hNot, hLead, hVal]

theorem read_one {v : ℕ} (h : v ≤ 0x7F) (bs : Bytes) :
    read (UInt8.ofNat v) bs = .char (Char.ofNat v) := by
  have hVal := toNat_ofNat_of_lt (n := v) (by omega)
  have hLow : UInt8.ofNat v < 0x80 := by
    rw [UInt8.lt_iff_toNat_lt, hVal]
    exact Nat.lt_succ_of_le h
  simp [read, hLow, hVal]

theorem read_two {v : ℕ} (hLow : 0x7F < v) (hHigh : v ≤ 0x7FF) (bs : Bytes) :
    read (UInt8.ofNat (v / 64 % 0x20 + 0xC0)) (UInt8.ofNat (v % 0x40 + 0x80) :: bs) =
      .char (Char.ofNat v) := by
  have hLead : lead? (UInt8.ofNat (v / 64 % 0x20 + 0xC0)) = some (1, 0x80, 0xBF) := by
    rw [lead?_ofNat (by omega), if_pos (by omega)]
  have hCode : (v / 64 % 0x20 + 0xC0) % (0x40 >>> 1) * 64 + (v % 0x40 + 0x80 - 0x80) = v := by
    simp only [Nat.shiftRight_eq_div_pow]
    omega
  rw [read_of_lead (by omega) (by omega) hLead,
    continued_ofNat (by simp) (by simp; omega), continued, hCode]

theorem read_three {v : ℕ} (hLow : 0x7FF < v) (hHigh : v ≤ 0xFFFF)
    (hScalar : v < 0xD800 ∨ 0xDFFF < v) (bs : Bytes) :
    read (UInt8.ofNat (v / 4096 % 0x10 + 0xE0)) (UInt8.ofNat (v / 64 % 0x40 + 0x80) ::
      UInt8.ofNat (v % 0x40 + 0x80) :: bs) = .char (Char.ofNat v) := by
  -- the range of the second byte keeps out short forms and surrogates
  obtain ⟨least, greatest, hLead, hLeast, hGreatest⟩ : ∃ least greatest : UInt8,
      lead? (UInt8.ofNat (v / 4096 % 0x10 + 0xE0)) = some (2, least, greatest) ∧
      least.toNat ≤ v / 64 % 0x40 + 0x80 ∧ v / 64 % 0x40 + 0x80 ≤ greatest.toNat := by
    rw [lead?_ofNat (by omega), if_neg (by omega)]
    by_cases hE0 : v / 4096 % 0x10 + 0xE0 = 0xE0
    · exact ⟨0xA0, 0xBF, by rw [if_pos hE0], by simp; omega, by simp; omega⟩
    by_cases hED : v / 4096 % 0x10 + 0xE0 = 0xED
    · exact ⟨0x80, 0x9F, by rw [if_neg hE0, if_pos hED], by simp, by simp; omega⟩
    · exact ⟨0x80, 0xBF, by rw [if_neg hE0, if_neg hED, if_pos (by omega)], by simp,
        by simp; omega⟩
  have hCode : ((v / 4096 % 0x10 + 0xE0) % (0x40 >>> 2) * 64 + (v / 64 % 0x40 + 0x80 - 0x80)) * 64 +
      (v % 0x40 + 0x80 - 0x80) = v := by
    simp only [Nat.shiftRight_eq_div_pow]
    omega
  rw [read_of_lead (by omega) (by omega) hLead, continued_ofNat hLeast hGreatest,
    continued_ofNat (by simp) (by simp; omega), continued, hCode]

theorem read_four {v : ℕ} (hLow : 0xFFFF < v) (hHigh : v < 0x110000) (bs : Bytes) :
    read (UInt8.ofNat (v / 262144 % 0x08 + 0xF0)) (UInt8.ofNat (v / 4096 % 0x40 + 0x80) ::
      UInt8.ofNat (v / 64 % 0x40 + 0x80) :: UInt8.ofNat (v % 0x40 + 0x80) :: bs) =
      .char (Char.ofNat v) := by
  obtain ⟨least, greatest, hLead, hLeast, hGreatest⟩ : ∃ least greatest : UInt8,
      lead? (UInt8.ofNat (v / 262144 % 0x08 + 0xF0)) = some (3, least, greatest) ∧
      least.toNat ≤ v / 4096 % 0x40 + 0x80 ∧ v / 4096 % 0x40 + 0x80 ≤ greatest.toNat := by
    rw [lead?_ofNat (by omega), if_neg (by omega), if_neg (by omega), if_neg (by omega),
      if_neg (by omega)]
    by_cases hF0 : v / 262144 % 0x08 + 0xF0 = 0xF0
    · exact ⟨0x90, 0xBF, by rw [if_pos hF0], by simp; omega, by simp; omega⟩
    by_cases hF4 : v / 262144 % 0x08 + 0xF0 = 0xF4
    · exact ⟨0x80, 0x8F, by rw [if_neg hF0, if_neg (by omega), if_pos hF4], by simp,
        by simp; omega⟩
    · exact ⟨0x80, 0xBF, by rw [if_neg hF0, if_pos (by omega)], by simp, by simp; omega⟩
  have hCode : (((v / 262144 % 0x08 + 0xF0) % (0x40 >>> 3) * 64 +
      (v / 4096 % 0x40 + 0x80 - 0x80)) * 64 + (v / 64 % 0x40 + 0x80 - 0x80)) * 64 +
      (v % 0x40 + 0x80 - 0x80) = v := by
    simp only [Nat.shiftRight_eq_div_pow]
    omega
  rw [read_of_lead (by omega) (by omega) hLead, continued_ofNat hLeast hGreatest,
    continued_ofNat (by simp) (by simp; omega), continued_ofNat (by simp) (by simp; omega),
    continued, hCode]

/-- The bytes of a character begin with that character as a piece. -/
theorem read_encodeChar (c : Char) (rest : Bytes) :
    ∃ b bs, String.utf8EncodeChar c = b :: bs ∧ read b (bs ++ rest) = .char c := by
  have hScalar : c.toNat < 0xD800 ∨ 0xDFFF < c.toNat ∧ c.toNat < 0x110000 := c.valid
  have hChar : Char.ofNat c.val.toNat = c := Char.ofNat_toNat c
  change c.val.toNat < 0xD800 ∨ 0xDFFF < c.val.toNat ∧ c.val.toNat < 0x110000 at hScalar
  simp only [String.utf8EncodeChar]
  split_ifs with h1 h2 h3
  · exact ⟨_, _, rfl, (read_one h1 _).trans (congrArg char hChar)⟩
  · exact ⟨_, _, rfl, (read_two (by omega) h2 rest).trans (congrArg char hChar)⟩
  · exact ⟨_, _, rfl, (read_three (by omega) h3 (by omega) rest).trans (congrArg char hChar)⟩
  · exact ⟨_, _, rfl, (read_four (by omega) (by omega) rest).trans (congrArg char hChar)⟩

end Utf8Piece

/-- The bytes of a character are one piece. -/
theorem utf8PiecesFrom_encodeChar (c : Char) (rest : Bytes) :
    utf8PiecesFrom 0 (String.utf8EncodeChar c ++ rest) = .char c :: utf8PiecesFrom 0 rest := by
  obtain ⟨b, bs, hBytes, hRead⟩ := Utf8Piece.read_encodeChar c rest
  have hLength : bs.length = c.utf8Size - 1 := by
    rw [← String.length_utf8EncodeChar, hBytes, List.length_cons, Nat.add_sub_cancel]
  rw [hBytes, List.cons_append, utf8PiecesFrom]
  simp only [hRead, Utf8Piece.size]
  rw [utf8PiecesFrom_append hLength]

theorem utf8Pieces_encodeUtf8 (cs : List Char) :
    utf8Pieces (encodeUtf8 cs) = cs.map Utf8Piece.char := by
  induction cs with
  | nil => rfl
  | cons c cs ih =>
    rw [utf8Pieces, encodeUtf8_cons, utf8PiecesFrom_encodeChar, List.map_cons, ← ih, utf8Pieces]

/-- The bytes of a text are read back as the text. -/
theorem decodeUtf8Lossy_encodeUtf8 (cs : List Char) : decodeUtf8Lossy (encodeUtf8 cs) = cs := by
  simp [decodeUtf8Lossy, utf8Pieces_encodeUtf8, Function.comp_def]

/-! ### Bytes and their signs -/

theorem digitValue?_capital : ∀ n < 16, digitValue? 16 (hexDigit n).toUpper = some n := by
  decide

theorem capital_isAscii : ∀ n < 16, (hexDigit n).toUpper.toNat < 0x80 := by
  decide

theorem percentByte_eq (b : UInt8) :
    percentByte b =
      ['%', (hexDigit (b.toNat / 16)).toUpper, (hexDigit (b.toNat % 16)).toUpper] := by
  have hHigh : b.toNat / 16 % 16 = b.toNat / 16 := by have := b.toNat_lt; omega
  simp [percentByte, hexCapitals, hexDigits, hHigh]

/-- A percent sign with two digits is read as its byte. -/
theorem percentBytes_percentByte (b : UInt8) (rest : List Char) :
    percentBytes 0 (percentByte b ++ rest) = b :: percentBytes 0 rest := by
  have hb := b.toNat_lt
  have hValue : b.toNat / 16 * 16 + b.toNat % 16 = b.toNat := by omega
  rw [percentByte_eq]
  simp [percentBytes, digitValue?_capital _ (show b.toNat / 16 < 16 by omega),
    digitValue?_capital _ (show b.toNat % 16 < 16 by omega), hValue]

theorem percentBytes_flatMap_percentByte (bs : Bytes) (rest : List Char) :
    percentBytes 0 (bs.flatMap percentByte ++ rest) = bs ++ percentBytes 0 rest := by
  induction bs with
  | nil => rfl
  | cons b bs ih => rw [List.flatMap_cons, List.append_assoc, percentBytes_percentByte, ih]; rfl

theorem percentBytes_cons_of_ne {c : Char} (h : c ≠ '%') (rest : List Char) :
    percentBytes 0 (c :: rest) = UInt8.ofNat c.toNat :: percentBytes 0 rest := by
  rw [percentBytes]
  exact fun _ _ _ hc _ => h hc

/-! ### Texts and their encodings -/

theorem toNat_lt_of_isAlphanum {c : Char} (h : c.isAlphanum = true) : c.toNat < 0x80 := by
  have hLast : ∀ d : Char, d.toNat < 0x80 → c.val ≤ d.val → c.toNat < 0x80 :=
    fun d hd hc => Nat.lt_of_le_of_lt (UInt32.le_iff_toNat_le.1 hc) hd
  rcases Bool.or_eq_true_iff.1 h with hAlpha | hDigit
  · rcases Bool.or_eq_true_iff.1 hAlpha with hUpper | hLower
    · exact hLast 'Z' (by decide) (of_decide_eq_true hUpper).2
    · exact hLast 'z' (by decide) (of_decide_eq_true (Bool.and_eq_true_iff.1 hLower).2)
  · exact hLast '9' (by decide) (of_decide_eq_true (Bool.and_eq_true_iff.1 hDigit).2)

/-- What stays as it is, is ASCII and not the sign of an encoded byte. -/
theorem ascii_of_isAddressChar {c : Char} (h : isAddressChar c = true) :
    c.toNat < 0x80 ∧ c ≠ '%' := by
  simp only [isAddressChar, Bool.or_eq_true] at h
  rcases h with hLetter | hSign
  · refine ⟨toNat_lt_of_isAlphanum hLetter, ?_⟩
    rintro rfl
    simp at hLetter
  · have hAll : ∀ d ∈ ";,/?:@&=+$-_.!~*'()#".toList, d.toNat < 0x80 ∧ d ≠ '%' := by
      simp
    exact hAll c (by simpa using hSign)

theorem utf8EncodeChar_of_ascii {c : Char} (h : c.toNat < 0x80) :
    String.utf8EncodeChar c = [UInt8.ofNat c.toNat] := by
  simp only [String.utf8EncodeChar]
  exact if_pos (Nat.le_of_lt_succ h)

theorem ascii_percentByte (b : UInt8) : ∀ d ∈ percentByte b, d.toNat < 0x80 := by
  have hb := b.toNat_lt
  rw [percentByte_eq]
  intro d hd
  simp only [List.mem_cons, List.not_mem_nil, or_false] at hd
  rcases hd with rfl | rfl | rfl
  · decide
  · exact capital_isAscii _ (by omega)
  · exact capital_isAscii _ (by omega)

theorem ascii_percentChar (c : Char) : ∀ d ∈ percentChar c, d.toNat < 0x80 := by
  intro d hd
  rw [percentChar] at hd
  split at hd
  next h =>
    obtain rfl := List.mem_singleton.1 hd
    exact (ascii_of_isAddressChar h).1
  next =>
    obtain ⟨b, -, hd⟩ := List.mem_flatMap.1 hd
    exact ascii_percentByte b d hd

/-- A character is read as its bytes, whether it was encoded or not. -/
theorem percentBytes_percentChar (c : Char) (rest : List Char) :
    percentBytes 0 (percentChar c ++ rest) = String.utf8EncodeChar c ++ percentBytes 0 rest := by
  rw [percentChar]
  split
  next h =>
    obtain ⟨hLow, hPercent⟩ := ascii_of_isAddressChar h
    rw [List.singleton_append, percentBytes_cons_of_ne hPercent, utf8EncodeChar_of_ascii hLow,
      List.singleton_append]
  next => rw [percentBytes_flatMap_percentByte]

theorem percentBytes_flatMap_percentChar (cs : List Char) :
    percentBytes 0 (cs.flatMap percentChar) = encodeUtf8 cs := by
  induction cs with
  | nil => rfl
  | cons c cs ih => rw [List.flatMap_cons, percentBytes_percentChar, ih, encodeUtf8_cons]

/-- An ASCII text is one stretch of bytes. -/
theorem percentDecodeFrom_of_ascii {cs : List Char} (h : ∀ c ∈ cs, c.toNat < 0x80)
    (held : List Char) :
    percentDecodeFrom held cs = decodeUtf8Lossy (percentBytes 0 (held.reverse ++ cs)) := by
  induction cs generalizing held with
  | nil => simp [percentDecodeFrom]
  | cons c cs ih =>
    rw [percentDecodeFrom, if_pos (h c List.mem_cons_self),
      ih (fun d hd => h d (List.mem_cons_of_mem c hd))]
    simp

/-- An encoded text is read back as it was. -/
theorem percentDecode_percentEncode (s : String) : percentDecode (percentEncode s) = s := by
  have hAscii : ∀ c ∈ s.toList.flatMap percentChar, c.toNat < 0x80 := by
    intro c hc
    obtain ⟨d, -, hd⟩ := List.mem_flatMap.1 hc
    exact ascii_percentChar d c hd
  rw [percentDecode, percentEncode, String.toList_ofList, percentDecodeFrom_of_ascii hAscii,
    List.reverse_nil, List.nil_append, percentBytes_flatMap_percentChar,
    decodeUtf8Lossy_encodeUtf8, String.ofList_toList]

theorem percentEncode_injective : Function.Injective percentEncode :=
  Function.LeftInverse.injective percentDecode_percentEncode

theorem percentEncode_ne_empty {s : String} (h : s ≠ "") : percentEncode s ≠ "" :=
  fun hEmpty => h (percentEncode_injective (hEmpty.trans percentEncode_empty.symm))

theorem hash_not_mem_percentByte (b : UInt8) : '#' ∉ percentByte b := by
  have hDigit : ∀ n < 16, (hexDigit n).toUpper ≠ '#' := by decide
  have hb := b.toNat_lt
  rw [percentByte_eq]
  simp [(hDigit _ (show b.toNat / 16 < 16 by omega)).symm,
    (hDigit _ (show b.toNat % 16 < 16 by omega)).symm]

/-- A hash in an encoded text stands for a hash. -/
theorem hash_mem_percentEncode_iff (s : String) :
    '#' ∈ (percentEncode s).toList ↔ '#' ∈ s.toList := by
  have hHash : isAddressChar '#' = true := by decide
  simp only [percentEncode, String.toList_ofList, List.mem_flatMap]
  constructor
  · rintro ⟨c, hc, hMem⟩
    rw [percentChar] at hMem
    split at hMem
    next => rwa [List.mem_singleton.1 hMem]
    next =>
      obtain ⟨b, -, hb⟩ := List.mem_flatMap.1 hMem
      exact absurd hb (hash_not_mem_percentByte b)
  · exact fun h => ⟨'#', h, by simp [percentChar_of_isAddressChar hHash]⟩

end DocSite.Text
