import DocSite.Proofs.Text.PercentRoundTrip
import DocSite.Text.Encoding

/-! Bytes that are UTF-8. A character is read only from the bytes that it is written by: the lead
byte and the range that it sets for the second one leave out short forms, surrogates and codes
beyond the last character. Hence bytes can be decoded exactly if they are those of a text,
and then they are decoded to that text. -/

namespace DocSite.Text

namespace Utf8Piece

theorem utf8EncodeChar_ofNat {v : ℕ} (h : v.isValidChar) : String.utf8EncodeChar (Char.ofNat v) =
    if v ≤ 0x7F then [UInt8.ofNat v]
    else if v ≤ 0x7FF then [UInt8.ofNat (v / 64 % 0x20 + 0xC0), UInt8.ofNat (v % 0x40 + 0x80)]
    else if v ≤ 0xFFFF then [UInt8.ofNat (v / 4096 % 0x10 + 0xE0),
      UInt8.ofNat (v / 64 % 0x40 + 0x80), UInt8.ofNat (v % 0x40 + 0x80)]
    else [UInt8.ofNat (v / 262144 % 0x08 + 0xF0), UInt8.ofNat (v / 4096 % 0x40 + 0x80),
      UInt8.ofNat (v / 64 % 0x40 + 0x80), UInt8.ofNat (v % 0x40 + 0x80)] := by
  have hVal : (Char.ofNat v).val.toNat = v := by
    change (Char.ofNat v).toNat = v
    rw [Char.ofNat, dif_pos h]
    rfl
  simp only [String.utf8EncodeChar, hVal]

theorem utf8EncodeChar_two {n n₁ : ℕ} (hLow : 0xC2 ≤ n) (hHigh : n ≤ 0xDF) (h₁ : 0x80 ≤ n₁)
    (h₁' : n₁ ≤ 0xBF) : String.utf8EncodeChar (Char.ofNat ((n - 0xC0) * 64 + (n₁ - 0x80))) =
      [UInt8.ofNat n, UInt8.ofNat n₁] := by
  generalize hv : (n - 0xC0) * 64 + (n₁ - 0x80) = v
  have hLead : v / 64 % 0x20 + 0xC0 = n := by omega
  have hLast : v % 0x40 + 0x80 = n₁ := by omega
  rw [utf8EncodeChar_ofNat (.inl (by omega)), if_neg (by omega), if_pos (by omega), hLead, hLast]

theorem utf8EncodeChar_three {n n₁ n₂ : ℕ} (hLow : 0xE0 ≤ n) (hHigh : n ≤ 0xEF) (h₁ : 0x80 ≤ n₁)
    (h₁' : n₁ ≤ 0xBF) (h₂ : 0x80 ≤ n₂) (h₂' : n₂ ≤ 0xBF) (hShort : n = 0xE0 → 0xA0 ≤ n₁)
    (hSurrogate : n = 0xED → n₁ ≤ 0x9F) :
    String.utf8EncodeChar
        (Char.ofNat (((n - 0xE0) * 64 + (n₁ - 0x80)) * 64 + (n₂ - 0x80))) =
      [UInt8.ofNat n, UInt8.ofNat n₁, UInt8.ofNat n₂] := by
  generalize hv : ((n - 0xE0) * 64 + (n₁ - 0x80)) * 64 + (n₂ - 0x80) = v
  have hValid : v.isValidChar := by
    rw [Nat.isValidChar]
    omega
  have hLead : v / 4096 % 0x10 + 0xE0 = n := by omega
  have hSecond : v / 64 % 0x40 + 0x80 = n₁ := by omega
  have hLast : v % 0x40 + 0x80 = n₂ := by omega
  rw [utf8EncodeChar_ofNat hValid, if_neg (by omega), if_neg (by omega), if_pos (by omega), hLead,
    hSecond, hLast]

theorem utf8EncodeChar_four {n n₁ n₂ n₃ : ℕ} (hLow : 0xF0 ≤ n) (hHigh : n ≤ 0xF4)
    (h₁ : 0x80 ≤ n₁) (h₁' : n₁ ≤ 0xBF) (h₂ : 0x80 ≤ n₂) (h₂' : n₂ ≤ 0xBF) (h₃ : 0x80 ≤ n₃)
    (h₃' : n₃ ≤ 0xBF) (hShort : n = 0xF0 → 0x90 ≤ n₁) (hEnd : n = 0xF4 → n₁ ≤ 0x8F) :
    String.utf8EncodeChar (Char.ofNat
        ((((n - 0xF0) * 64 + (n₁ - 0x80)) * 64 + (n₂ - 0x80)) * 64 + (n₃ - 0x80))) =
      [UInt8.ofNat n, UInt8.ofNat n₁, UInt8.ofNat n₂, UInt8.ofNat n₃] := by
  generalize hv : (((n - 0xF0) * 64 + (n₁ - 0x80)) * 64 + (n₂ - 0x80)) * 64 + (n₃ - 0x80) = v
  have hValid : v.isValidChar := .inr ⟨by omega, by omega⟩
  have hLead : v / 262144 % 0x08 + 0xF0 = n := by omega
  have hSecond : v / 4096 % 0x40 + 0x80 = n₁ := by omega
  have hThird : v / 64 % 0x40 + 0x80 = n₂ := by omega
  have hLast : v % 0x40 + 0x80 = n₃ := by omega
  rw [utf8EncodeChar_ofNat hValid, if_neg (by omega), if_neg (by omega), if_neg (by omega), hLead,
    hSecond, hThird, hLast]

/-- A character that is not complete yet goes on with a byte in the expected range. -/
theorem exists_of_continued_succ {code length owed : ℕ} {least greatest : UInt8} {bs : Bytes}
    {c : Char} (h : continued code length least greatest (owed + 1) bs = .char c) :
    ∃ n rest, bs = UInt8.ofNat n :: rest ∧ least.toNat ≤ n ∧ n ≤ greatest.toNat ∧
      continued (code * 64 + (n - 0x80)) (length + 1) 0x80 0xBF owed rest = .char c := by
  cases bs with
  | nil => simp [continued] at h
  | cons b rest =>
    rw [continued] at h
    split at h
    next hRange =>
      obtain ⟨hLeast, hGreatest⟩ := by simpa [UInt8.le_iff_toNat_le] using hRange
      exact ⟨b.toNat, rest, by simp, hLeast, hGreatest, h⟩
    next => simp at h

/-- What a lead byte asks for: the second byte of a longer form is neither that of a short form
nor that of a surrogate, and no code goes beyond the last one. -/
theorem lead?_cases {n owed : ℕ} {least greatest : UInt8} (hn : n < 256)
    (h : lead? (UInt8.ofNat n) = some (owed, least, greatest)) :
    (owed = 1 ∧ 0xC2 ≤ n ∧ n ≤ 0xDF ∧ least.toNat = 0x80 ∧ greatest.toNat = 0xBF) ∨
    (owed = 2 ∧ 0xE0 ≤ n ∧ n ≤ 0xEF ∧ 0x80 ≤ least.toNat ∧ greatest.toNat ≤ 0xBF ∧
      (n = 0xE0 → 0xA0 ≤ least.toNat) ∧ (n = 0xED → greatest.toNat ≤ 0x9F)) ∨
    (owed = 3 ∧ 0xF0 ≤ n ∧ n ≤ 0xF4 ∧ 0x80 ≤ least.toNat ∧ greatest.toNat ≤ 0xBF ∧
      (n = 0xF0 → 0x90 ≤ least.toNat) ∧ (n = 0xF4 → greatest.toNat ≤ 0x8F)) := by
  rw [lead?_ofNat hn] at h
  split_ifs at h <;> simp only [Option.some.injEq, Prod.mk.injEq] at h <;>
    obtain ⟨rfl, rfl, rfl⟩ := h <;> simp <;> omega

/-- A character is read from the bytes that it is written by. -/
theorem exists_of_read_eq_char {b : UInt8} {bs : Bytes} {c : Char} (h : read b bs = .char c) :
    ∃ rest, b :: bs = String.utf8EncodeChar c ++ rest := by
  obtain ⟨n, hn, rfl⟩ : ∃ n < 256, b = UInt8.ofNat n := ⟨b.toNat, b.toNat_lt, by simp⟩
  have hVal := toNat_ofNat_of_lt hn
  by_cases hAscii : n < 0x80
  · rw [read_one (by omega)] at h
    obtain rfl := Utf8Piece.char.inj h
    refine ⟨bs, ?_⟩
    rw [utf8EncodeChar_ofNat (.inl (by omega)), if_pos (by omega)]
    rfl
  · cases hLead : lead? (UInt8.ofNat n) with
    | none =>
      have hNot : ¬ UInt8.ofNat n < 0x80 := by
        rw [UInt8.lt_iff_toNat_lt, hVal]
        exact hAscii
      simp [read, hNot, hLead] at h
    | some asked =>
      obtain ⟨owed, least, greatest⟩ := asked
      rw [read_of_lead (by omega) hn hLead] at h
      rcases lead?_cases hn hLead with ⟨rfl, hLow, hHigh, hLeast, hGreatest⟩ |
        ⟨rfl, hLow, hHigh, hLeast, hGreatest, hShort, hSurrogate⟩ |
        ⟨rfl, hLow, hHigh, hLeast, hGreatest, hShort, hLast⟩
      · obtain ⟨n₁, rest, rfl, h₁, h₁', h⟩ := exists_of_continued_succ h
        obtain rfl := Utf8Piece.char.inj h
        have hCode : n % (0x40 >>> 1) = n - 0xC0 := by
          simp only [Nat.shiftRight_eq_div_pow]
          omega
        refine ⟨rest, ?_⟩
        rw [hCode, utf8EncodeChar_two hLow hHigh (by omega) (by omega)]
        rfl
      · obtain ⟨n₁, bs₁, rfl, h₁, h₁', h⟩ := exists_of_continued_succ h
        obtain ⟨n₂, rest, rfl, h₂, h₂', h⟩ := exists_of_continued_succ h
        obtain rfl := Utf8Piece.char.inj h
        have hCode : n % (0x40 >>> 2) = n - 0xE0 := by
          simp only [Nat.shiftRight_eq_div_pow]
          omega
        simp only [UInt8.reduceToNat] at h₂ h₂'
        refine ⟨rest, ?_⟩
        rw [hCode, utf8EncodeChar_three hLow hHigh (by omega) (by omega) h₂ h₂'
          (fun hFirst => Nat.le_trans (hShort hFirst) h₁)
          (fun hFirst => Nat.le_trans h₁' (hSurrogate hFirst))]
        rfl
      · obtain ⟨n₁, bs₁, rfl, h₁, h₁', h⟩ := exists_of_continued_succ h
        obtain ⟨n₂, bs₂, rfl, h₂, h₂', h⟩ := exists_of_continued_succ h
        obtain ⟨n₃, rest, rfl, h₃, h₃', h⟩ := exists_of_continued_succ h
        obtain rfl := Utf8Piece.char.inj h
        have hCode : n % (0x40 >>> 3) = n - 0xF0 := by
          simp only [Nat.shiftRight_eq_div_pow]
          omega
        simp only [UInt8.reduceToNat] at h₂ h₂' h₃ h₃'
        refine ⟨rest, ?_⟩
        rw [hCode, utf8EncodeChar_four hLow hHigh (by omega) (by omega) h₂ h₂' h₃ h₃'
          (fun hFirst => Nat.le_trans (hShort hFirst) h₁)
          (fun hFirst => Nat.le_trans h₁' (hLast hFirst))]
        rfl

end Utf8Piece

/-- Bytes are cut into characters only if they are those of a text. -/
theorem utf8Pieces_eq_map_char_iff (bytes : Bytes) (cs : List Char) :
    utf8Pieces bytes = cs.map .char ↔ bytes = encodeUtf8 cs := by
  constructor
  · intro h
    induction cs generalizing bytes with
    | nil =>
      cases bytes with
      | nil => rfl
      | cons b bs => simp [utf8Pieces, utf8PiecesFrom] at h
    | cons c cs ih =>
      cases bytes with
      | nil => simp at h
      | cons b bs =>
        have hRead : Utf8Piece.read b bs = .char c := (List.cons.inj h).1
        obtain ⟨rest, hBytes⟩ := Utf8Piece.exists_of_read_eq_char hRead
        rw [hBytes, utf8Pieces, utf8PiecesFrom_encodeChar] at h
        rw [hBytes, encodeUtf8_cons, ih rest (List.cons.inj h).2]
  · rintro rfl
    exact utf8Pieces_encodeUtf8 cs

theorem decodePieces_eq_ok_iff {start : ℕ} {bytes : Bytes} {pieces : List Utf8Piece}
    {cs : List Char} : decodePieces start bytes pieces = .ok cs ↔ pieces = cs.map .char := by
  induction pieces generalizing start bytes cs with
  | nil => cases cs <;> simp [decodePieces]
  | cons piece pieces ih =>
    cases piece with
    | bad fault length => cases cs <;> simp [decodePieces]
    | char c =>
      rw [decodePieces]
      cases hRest : decodePieces (start + c.utf8Size) (bytes.drop c.utf8Size) pieces with
      | error e =>
        refine iff_of_false (by simp [Except.map]) fun hEq => ?_
        cases cs with
        | nil => simp at hEq
        | cons c' cs =>
          have hTail : decodePieces (start + c.utf8Size) (bytes.drop c.utf8Size) pieces = .ok cs :=
            ih.2 (List.cons.inj hEq).2
          rw [hRest] at hTail
          cases hTail
      | ok rest =>
        have hTail := ih.1 hRest
        rw [hTail]
        cases cs with
        | nil => simp [Except.map]
        | cons c' cs =>
          have hSame : rest.map Utf8Piece.char = cs.map Utf8Piece.char ↔ rest = cs :=
            List.map_inj_right fun _ _ => Utf8Piece.char.inj
          simp [Except.map, hSame]

/-- Bytes can be decoded from UTF-8 exactly if they are those of a text, which they are then
decoded to. -/
theorem decode_utf8_eq_ok_iff (bytes : Bytes) (cs : List Char) :
    Encoding.decode .utf8 bytes = .ok cs ↔ bytes = encodeUtf8 cs :=
  decodePieces_eq_ok_iff.trans (utf8Pieces_eq_map_char_iff bytes cs)

end DocSite.Text
