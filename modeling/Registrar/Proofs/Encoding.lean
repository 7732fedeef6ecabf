import Registrar.Proofs.Outcomes
import Registrar.Text.Utf8

namespace Registrar.Text

def encodeUtf8 (text : String) : List UInt8 := text.toList.flatMap String.utf8EncodeChar

section Lead

variable (byte : UInt8)

theorem lead?_one (h : byte.toNat < 0x80) : lead? byte = some (byte.toNat, 0, 0, 0) := by
  simp [lead?, h]

theorem lead?_two (h : 0xC2 ≤ byte.toNat) (h' : byte.toNat < 0xE0) :
    lead? byte = some (byte.toNat - 0xC0, 1, 0x80, 0xBF) := by
  have h₁ : ¬byte.toNat < 0x80 := by omega
  have h₂ : ¬byte.toNat < 0xC2 := by omega
  simp [lead?, h₁, h₂, h']

/-- The byte after the first one of three may not spell a shorter form, nor a surrogate. -/
theorem lead?_three (h : 0xE0 ≤ byte.toNat) (h' : byte.toNat < 0xF0) :
    ∃ low high, lead? byte = some (byte.toNat - 0xE0, 2, low, high) ∧
      (byte.toNat = 0xE0 ∧ low.toNat = 0xA0 ∨ byte.toNat ≠ 0xE0 ∧ low.toNat = 0x80) ∧
        (byte.toNat = 0xED ∧ high.toNat = 0x9F ∨ byte.toNat ≠ 0xED ∧ high.toNat = 0xBF) := by
  have h₁ : ¬byte.toNat < 0x80 := by omega
  have h₂ : ¬byte.toNat < 0xC2 := by omega
  have h₃ : ¬byte.toNat < 0xE0 := by omega
  by_cases he : byte.toNat = 0xE0
  · exact ⟨0xA0, 0xBF, by simp [lead?, he], by simp [he]⟩
  · by_cases hd : byte.toNat = 0xED
    · exact ⟨0x80, 0x9F, by simp [lead?, hd], by simp [hd]⟩
    · exact ⟨0x80, 0xBF, by simp [lead?, h₁, h₂, h₃, he, hd, h'], by simp [he, hd]⟩

theorem lead?_four (h : 0xF0 ≤ byte.toNat) (h' : byte.toNat < 0xF5) :
    ∃ low high, lead? byte = some (byte.toNat - 0xF0, 3, low, high) ∧
      (byte.toNat = 0xF0 ∧ low.toNat = 0x90 ∨ byte.toNat ≠ 0xF0 ∧ low.toNat = 0x80) ∧
        (byte.toNat = 0xF4 ∧ high.toNat = 0x8F ∨ byte.toNat ≠ 0xF4 ∧ high.toNat = 0xBF) := by
  have h₁ : ¬byte.toNat < 0x80 := by omega
  have h₂ : ¬byte.toNat < 0xC2 := by omega
  have h₃ : ¬byte.toNat < 0xE0 := by omega
  have h₄ : ¬byte.toNat < 0xF0 := by omega
  have h₅ : byte.toNat ≠ 0xE0 ∧ byte.toNat ≠ 0xED := by omega
  by_cases he : byte.toNat = 0xF0
  · exact ⟨0x90, 0xBF, by simp [lead?, he], by simp [he]⟩
  · by_cases hd : byte.toNat = 0xF4
    · exact ⟨0x80, 0x8F, by simp [lead?, hd], by simp [hd]⟩
    · have h₆ : byte.toNat < 0xF4 := by omega
      exact ⟨0x80, 0xBF, by simp [lead?, h₁, h₂, h₃, h₄, h₅, h₆, he], by simp [he, hd]⟩

theorem lead?_none (h : 0x80 ≤ byte.toNat ∧ byte.toNat < 0xC2 ∨ 0xF5 ≤ byte.toNat) :
    lead? byte = none := by
  have h₁ : ¬byte.toNat < 0x80 := by omega
  rcases h with h | h
  · simp [lead?, h₁, h.2]
  · have h₂ : ¬byte.toNat < 0xC2 := by omega
    have h₃ : ¬byte.toNat < 0xE0 := by omega
    have h₄ : ¬byte.toNat < 0xF0 := by omega
    have h₅ : ¬byte.toNat < 0xF4 := by omega
    have h₆ : byte.toNat ≠ 0xE0 ∧ byte.toNat ≠ 0xED ∧ byte.toNat ≠ 0xF0 ∧ byte.toNat ≠ 0xF4 := by
      omega
    simp [lead?, h₁, h₂, h₃, h₄, h₅, h₆]

end Lead

theorem takeTails_succ_eq_ok_iff {value taken tails : Nat} {low high : UInt8}
    {bytes : List UInt8} {result : Nat × List UInt8} :
    takeTails value taken (tails + 1) low high bytes = .ok result ↔
      ∃ byte rest, bytes = byte :: rest ∧ low.toNat ≤ byte.toNat ∧ byte.toNat ≤ high.toNat ∧
        takeTails (value * 64 + (byte.toNat - 0x80)) (taken + 1) tails 0x80 0xBF rest =
          .ok result := by
  cases bytes with
  | nil => simp [takeTails]
  | cons byte rest =>
    rw [takeTails]
    simp only [UInt8.le_iff_toNat_le]
    split
    · rename_i h
      constructor
      · intro hrest
        exact ⟨byte, rest, rfl, h.1, h.2, hrest⟩
      · rintro ⟨other, more, heq, -, -, hrest⟩
        obtain ⟨rfl, rfl⟩ := List.cons.inj heq
        exact hrest
    · rename_i h
      refine iff_of_false (fun hrest ↦ by cases hrest) ?_
      rintro ⟨other, more, heq, hl, hh, -⟩
      obtain ⟨rfl, rfl⟩ := List.cons.inj heq
      exact h ⟨hl, hh⟩

theorem takeTails_zero_eq_ok_iff {value taken code : Nat} {low high : UInt8}
    {bytes rest : List UInt8} :
    takeTails value taken 0 low high bytes = .ok (code, rest) ↔ code = value ∧ rest = bytes := by
  rw [takeTails, Except.ok.injEq, Prod.mk.injEq]
  exact and_congr eq_comm eq_comm

section Encode

variable {code : Nat}

theorem toNat_ofNat (h : code.isValidChar) : (Char.ofNat code).val.toNat = code := by
  rw [Char.ofNat, dif_pos h]
  rfl

theorem encode_one (h : code < 0x80) :
    String.utf8EncodeChar (Char.ofNat code) = [UInt8.ofNat code] := by
  have hnat : (Char.ofNat code).val.toNat = code := toNat_ofNat (.inl (by omega))
  rw [String.utf8EncodeChar, hnat, if_pos (by omega)]

theorem encode_two (h : 0x80 ≤ code) (h' : code < 0x800) :
    String.utf8EncodeChar (Char.ofNat code) =
      [UInt8.ofNat (code / 64 + 0xC0), UInt8.ofNat (code % 64 + 0x80)] := by
  have hnat : (Char.ofNat code).val.toNat = code := toNat_ofNat (.inl (by omega))
  have hlead : code / 64 % 32 = code / 64 := by omega
  rw [String.utf8EncodeChar, hnat, if_neg (by omega), if_pos (by omega), hlead]

theorem encode_three (hvalid : code.isValidChar) (h : 0x800 ≤ code) (h' : code < 0x10000) :
    String.utf8EncodeChar (Char.ofNat code) =
      [UInt8.ofNat (code / 4096 + 0xE0), UInt8.ofNat (code / 64 % 64 + 0x80),
        UInt8.ofNat (code % 64 + 0x80)] := by
  have hlead : code / 4096 % 16 = code / 4096 := by omega
  rw [String.utf8EncodeChar, toNat_ofNat hvalid, if_neg (by omega), if_neg (by omega),
    if_pos (by omega), hlead]

theorem encode_four (hvalid : code.isValidChar) (h : 0x10000 ≤ code) :
    String.utf8EncodeChar (Char.ofNat code) =
      [UInt8.ofNat (code / 262144 + 0xF0), UInt8.ofNat (code / 4096 % 64 + 0x80),
        UInt8.ofNat (code / 64 % 64 + 0x80), UInt8.ofNat (code % 64 + 0x80)] := by
  have hlead : code / 262144 % 8 = code / 262144 := by
    rcases hvalid with hv | ⟨-, hv⟩ <;> omega
  rw [String.utf8EncodeChar, toNat_ofNat hvalid, if_neg (by omega), if_neg (by omega),
    if_neg (by omega), hlead]

theorem toNat_byte {n : Nat} (h : n < 256) : (UInt8.ofNat n).toNat = n := by
  rw [UInt8.toNat_ofNat', Nat.mod_eq_of_lt h]

theorem ofNat_eq_byte (byte : UInt8) {n : Nat} (h : n = byte.toNat) : UInt8.ofNat n = byte := by
  rw [h, UInt8.ofNat_toNat]

end Encode

/-- A first byte and what follows it are read as a code point with a rest. -/
def Reads (byte : UInt8) (bytes : List UInt8) (code : Nat) (rest : List UInt8) : Prop :=
  ∃ value tails low high, lead? byte = some (value, tails, low, high) ∧
    takeTails value 1 tails low high bytes = .ok (code, rest)

theorem Reads.eq_encode {byte : UInt8} {bytes rest : List UInt8} {code : Nat}
    (h : Reads byte bytes code rest) :
    byte :: bytes = String.utf8EncodeChar (Char.ofNat code) ++ rest := by
  obtain ⟨value, tails, low, high, hlead, htails⟩ := h
  have hcases : byte.toNat < 0x80 ∨ (0xC2 ≤ byte.toNat ∧ byte.toNat < 0xE0) ∨
      (0xE0 ≤ byte.toNat ∧ byte.toNat < 0xF0) ∨ (0xF0 ≤ byte.toNat ∧ byte.toNat < 0xF5) ∨
        (0x80 ≤ byte.toNat ∧ byte.toNat < 0xC2 ∨ 0xF5 ≤ byte.toNat) := by omega
  rcases hcases with hb | ⟨hb, hb'⟩ | ⟨hb, hb'⟩ | ⟨hb, hb'⟩ | hb
  · simp only [lead?_one byte hb, Option.some.injEq, Prod.mk.injEq] at hlead
    obtain ⟨rfl, rfl, -, -⟩ := hlead
    obtain ⟨rfl, rfl⟩ := takeTails_zero_eq_ok_iff.1 htails
    rw [encode_one hb, ofNat_eq_byte byte rfl]
    rfl
  · simp only [lead?_two byte hb hb', Option.some.injEq, Prod.mk.injEq] at hlead
    obtain ⟨rfl, rfl, rfl, rfl⟩ := hlead
    obtain ⟨b₁, rest₁, rfl, hl, hh, htails⟩ := takeTails_succ_eq_ok_iff.1 htails
    obtain ⟨hcode, rfl⟩ := takeTails_zero_eq_ok_iff.1 htails
    simp only [UInt8.reduceToNat] at hl hh
    rw [encode_two (by omega) (by omega), ofNat_eq_byte byte (by omega),
      ofNat_eq_byte b₁ (by omega)]
    rfl
  · obtain ⟨_, _, hcase, hlow, hhigh⟩ := lead?_three byte hb hb'
    simp only [hcase, Option.some.injEq, Prod.mk.injEq] at hlead
    obtain ⟨rfl, rfl, rfl, rfl⟩ := hlead
    obtain ⟨b₁, rest₁, rfl, hl, hh, htails⟩ := takeTails_succ_eq_ok_iff.1 htails
    obtain ⟨b₂, rest₂, rfl, hl₂, hh₂, htails⟩ := takeTails_succ_eq_ok_iff.1 htails
    obtain ⟨hcode, rfl⟩ := takeTails_zero_eq_ok_iff.1 htails
    simp only [UInt8.reduceToNat] at hl₂ hh₂
    have hvalid : code.isValidChar := by
      simp only [Nat.isValidChar]
      omega
    rw [encode_three hvalid (by omega) (by omega), ofNat_eq_byte byte (by omega),
      ofNat_eq_byte b₁ (by omega), ofNat_eq_byte b₂ (by omega)]
    rfl
  · obtain ⟨_, _, hcase, hlow, hhigh⟩ := lead?_four byte hb hb'
    simp only [hcase, Option.some.injEq, Prod.mk.injEq] at hlead
    obtain ⟨rfl, rfl, rfl, rfl⟩ := hlead
    obtain ⟨b₁, rest₁, rfl, hl, hh, htails⟩ := takeTails_succ_eq_ok_iff.1 htails
    obtain ⟨b₂, rest₂, rfl, hl₂, hh₂, htails⟩ := takeTails_succ_eq_ok_iff.1 htails
    obtain ⟨b₃, rest₃, rfl, hl₃, hh₃, htails⟩ := takeTails_succ_eq_ok_iff.1 htails
    obtain ⟨hcode, rfl⟩ := takeTails_zero_eq_ok_iff.1 htails
    simp only [UInt8.reduceToNat] at hl₂ hh₂ hl₃ hh₃
    have hvalid : code.isValidChar := by
      simp only [Nat.isValidChar]
      omega
    rw [encode_four hvalid (by omega), ofNat_eq_byte byte (by omega),
      ofNat_eq_byte b₁ (by omega), ofNat_eq_byte b₂ (by omega),
      ofNat_eq_byte b₃ (by omega)]
    rfl
  · rw [lead?_none byte hb] at hlead
    cases hlead

theorem reads_encode {code : Nat} (hvalid : code.isValidChar) (rest : List UInt8) :
    ∃ byte bytes, String.utf8EncodeChar (Char.ofNat code) ++ rest = byte :: bytes ∧
      Reads byte bytes code rest := by
  have hbound : code < 0xD800 ∨ 0xDFFF < code ∧ code < 0x110000 := hvalid
  have htail (n : Nat) : (UInt8.ofNat (n % 64 + 0x80)).toNat = n % 64 + 0x80 :=
    toNat_byte (by omega)
  have hcases : code < 0x80 ∨ (0x80 ≤ code ∧ code < 0x800) ∨ (0x800 ≤ code ∧ code < 0x10000) ∨
      0x10000 ≤ code := by omega
  rcases hcases with hc | ⟨hc, hc'⟩ | ⟨hc, hc'⟩ | hc
  · have hbyte : (UInt8.ofNat code).toNat = code := toNat_byte (by omega)
    have hlead := lead?_one (UInt8.ofNat code) (by omega)
    rw [hbyte] at hlead
    rw [encode_one hc]
    exact ⟨_, _, rfl, _, _, _, _, hlead, takeTails_zero_eq_ok_iff.2 ⟨rfl, rfl⟩⟩
  · have hbyte : (UInt8.ofNat (code / 64 + 0xC0)).toNat = code / 64 + 0xC0 :=
      toNat_byte (by omega)
    have hlead := lead?_two (UInt8.ofNat (code / 64 + 0xC0)) (by omega) (by omega)
    rw [encode_two hc hc']
    refine ⟨_, _, rfl, _, _, _, _, hlead, ?_⟩
    refine takeTails_succ_eq_ok_iff.2 ⟨_, _, rfl, ?_, ?_, takeTails_zero_eq_ok_iff.2 ⟨?_, rfl⟩⟩
    all_goals
      simp only [htail, hbyte, UInt8.reduceToNat]
      omega
  · have hbyte : (UInt8.ofNat (code / 4096 + 0xE0)).toNat = code / 4096 + 0xE0 :=
      toNat_byte (by omega)
    obtain ⟨low, high, hlead, hlow, hhigh⟩ :=
      lead?_three (UInt8.ofNat (code / 4096 + 0xE0)) (by omega) (by omega)
    rw [encode_three hvalid hc hc']
    refine ⟨_, _, rfl, _, _, _, _, hlead, ?_⟩
    refine takeTails_succ_eq_ok_iff.2 ⟨_, _, rfl, ?_, ?_, ?_⟩
    · rw [htail]
      omega
    · rw [htail]
      omega
    · refine takeTails_succ_eq_ok_iff.2 ⟨_, _, rfl, ?_, ?_, takeTails_zero_eq_ok_iff.2 ⟨?_, rfl⟩⟩
      all_goals
        simp only [htail, hbyte, UInt8.reduceToNat]
        omega
  · have hbyte : (UInt8.ofNat (code / 262144 + 0xF0)).toNat = code / 262144 + 0xF0 :=
      toNat_byte (by omega)
    obtain ⟨low, high, hlead, hlow, hhigh⟩ :=
      lead?_four (UInt8.ofNat (code / 262144 + 0xF0)) (by omega) (by omega)
    rw [encode_four hvalid hc]
    refine ⟨_, _, rfl, _, _, _, _, hlead, ?_⟩
    refine takeTails_succ_eq_ok_iff.2 ⟨_, _, rfl, ?_, ?_, ?_⟩
    · rw [htail]
      omega
    · rw [htail]
      omega
    · refine takeTails_succ_eq_ok_iff.2 ⟨_, _, rfl, ?_, ?_,
        takeTails_succ_eq_ok_iff.2 ⟨_, _, rfl, ?_, ?_, takeTails_zero_eq_ok_iff.2 ⟨?_, rfl⟩⟩⟩
      all_goals
        simp only [htail, hbyte, UInt8.reduceToNat]
        omega

theorem decodeFrom_of_reads {byte : UInt8} {bytes rest : List UInt8} {code : Nat}
    (h : Reads byte bytes code rest) (position : Nat) :
    ∃ next, decodeFrom position (byte :: bytes) =
      (decodeFrom next rest).map (Char.ofNat code :: ·) := by
  obtain ⟨value, tails, low, high, hlead, htails⟩ := h
  refine ⟨position + tails + 1, ?_⟩
  rw [decodeFrom]
  split
  · rename_i hnone
    rw [hlead] at hnone
    cases hnone
  · rename_i hsome
    rw [hlead] at hsome
    simp only [Option.some.injEq, Prod.mk.injEq] at hsome
    obtain ⟨rfl, rfl, rfl, rfl⟩ := hsome
    split
    · rename_i herror
      rw [htails] at herror
      cases herror
    · rename_i hok
      rw [htails] at hok
      obtain ⟨rfl, rfl⟩ := Prod.mk.inj (Except.ok.inj hok)
      cases decodeFrom (position + tails + 1) rest <;> rfl

/-- Bytes decode to characters exactly if they are what these are encoded as. -/
theorem decodeFrom_eq_ok_iff {position : Nat} {bytes : List UInt8} {chars : List Char} :
    decodeFrom position bytes = .ok chars ↔ bytes = chars.flatMap String.utf8EncodeChar := by
  constructor
  · intro h
    -- The position is carried for the errors only, so it is left as the recursion has it.
    fun_induction decodeFrom position bytes generalizing chars with
    | case1 =>
      cases h
      rfl
    | case2 => cases h
    | case3 => cases h
    | case4 position byte bytes value tails low high hlead code rest htails ih =>
      obtain ⟨more, hmore, h⟩ := bind_eq_ok_iff.1 h
      cases h
      have hreads : Reads byte bytes code rest := ⟨value, tails, low, high, hlead, htails⟩
      rw [hreads.eq_encode, List.flatMap_cons, ih hmore]
  · rintro rfl
    induction chars generalizing position with
    | nil => rw [List.flatMap_nil, decodeFrom]
    | cons c more ih =>
      obtain ⟨byte, bytes, hbytes, hreads⟩ :=
        reads_encode c.valid (more.flatMap String.utf8EncodeChar)
      obtain ⟨next, hnext⟩ := decodeFrom_of_reads hreads position
      have hc : Char.ofNat c.val.toNat = c := Char.ofNat_toNat c
      rw [hc] at hbytes hnext
      rw [List.flatMap_cons, hbytes, hnext, ih]
      rfl

theorem decodeUtf8_eq_ok_iff {bytes : List UInt8} {text : String} :
    decodeUtf8 bytes = .ok text ↔ bytes = encodeUtf8 text := by
  rw [decodeUtf8, encodeUtf8]
  constructor
  · intro h
    cases hchars : decodeFrom 0 bytes with
    | error e =>
      rw [hchars] at h
      cases h
    | ok chars =>
      rw [hchars] at h
      obtain rfl := Except.ok.inj h
      rw [String.toList_ofList]
      exact decodeFrom_eq_ok_iff.1 hchars
  · intro h
    rw [decodeFrom_eq_ok_iff.2 h]
    exact congrArg Except.ok String.ofList_toList

theorem exists_decodeUtf8_eq_error_iff {bytes : List UInt8} :
    (∃ e, decodeUtf8 bytes = .error e) ↔ ∀ text, bytes ≠ encodeUtf8 text := by
  constructor
  · rintro ⟨e, he⟩ text htext
    rw [decodeUtf8_eq_ok_iff.2 htext] at he
    cases he
  · intro h
    cases hresult : decodeUtf8 bytes with
    | error e => exact ⟨e, rfl⟩
    | ok text => exact absurd (decodeUtf8_eq_ok_iff.1 hresult) (h text)

end Registrar.Text
