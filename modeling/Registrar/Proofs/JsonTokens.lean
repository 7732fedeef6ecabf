import Mathlib.Algebra.Group.Nat.Defs
import Mathlib.Data.List.TakeWhile
import Registrar.Json.Basic
import Registrar.Proofs.JsonReading

namespace Registrar

namespace Text

theorem hexValue?_hexDigit {value : Nat} (h : value < 16) :
    hexValue? (hexDigit value) = some value := by
  have hall : ∀ value : Fin 16, hexValue? (hexDigit value) = some value.val := by decide
  exact hall ⟨value, h⟩

theorem numberOfDigits_append (base : Nat) (front : List Nat) (digit : Nat) :
    numberOfDigits base (front ++ [digit]) = base * numberOfDigits base front + digit := by
  rw [numberOfDigits, List.foldl_append]
  rfl

theorem mapM_hexadecimal (width n : Nat) :
    ∃ digits, (hexadecimal width n).mapM hexValue? = some digits ∧ digits.length = width ∧
      numberOfDigits 16 digits = n % 16 ^ width := by
  induction width generalizing n with
  | zero => exact ⟨[], rfl, rfl, (Nat.mod_one n).symm⟩
  | succ width ih =>
    obtain ⟨digits, hdigits, hlength, hnumber⟩ := ih (n / 16)
    refine ⟨digits ++ [n % 16], ?_, ?_, ?_⟩
    · have hlast := hexValue?_hexDigit (Nat.mod_lt n (by decide : 16 > 0))
      simp [hexadecimal, hdigits, hlast]
    · rw [List.length_append, hlength, List.length_singleton]
    · rw [numberOfDigits_append, hnumber, Nat.pow_succ', Nat.mod_mul, Nat.add_comm]

end Text

namespace Json

/-- A step reads the front of a text as a value and leaves the rest, wherever the text stands. -/
def Passes {α : Type} (step : Reading α) (text : List Char) (a : α) (rest : List Char) : Prop :=
  ∀ position, ∃ position', step ⟨text, position⟩ = .ok (a, ⟨rest, position'⟩)

namespace Passes

variable {α β : Type} {step : Reading α} {f : α → Reading β} {text rest rest' : List Char}
  {a : α} {b : β} {c : Char}

theorem pure (a : α) (text : List Char) : Passes (pure a) text a text :=
  fun position ↦ ⟨position, rfl⟩

theorem bind (h : Passes step text a rest) (hf : Passes (f a) rest b rest') :
    Passes (step >>= f) text b rest' := by
  intro position
  obtain ⟨between, hstep⟩ := h position
  obtain ⟨position', hnext⟩ := hf between
  exact ⟨position', (bind_of_ok hstep).trans hnext⟩

theorem get_bind {f : Cursor → Reading β}
    (h : ∀ position, Passes (f ⟨text, position⟩) text b rest) : Passes (get >>= f) text b rest :=
  fun position ↦ h position position

theorem peek (text : List Char) : Passes peek text text.head? text :=
  fun position ↦ ⟨position, rfl⟩

theorem advance (count : Nat) (text : List Char) :
    Passes (advance count) text () (text.drop count) :=
  fun position ↦ ⟨position + count, rfl⟩

theorem skip (c : Char) (rest : List Char) : Passes (skip c) (c :: rest) true rest := by
  refine .bind (.peek _) ?_
  rw [List.head?_cons, if_pos rfl]
  exact .bind (.advance 1 _) (.pure true rest)

theorem skip_of_ne (h : text.head? ≠ some c) : Passes (Json.skip c) text false text := by
  refine .bind (.peek _) ?_
  rw [if_neg h]
  exact .pure false text

theorem takeWhile {p : Char → Bool} {taken : List Char} (hall : ∀ c ∈ taken, p c = true)
    (hstop : ∀ c ∈ rest.head?, p c = false) :
    Passes (takeWhile p) (taken ++ rest) taken rest := by
  have hrest : rest.takeWhile p = [] := by
    cases rest with
    | nil => rfl
    | cons c rest => exact List.takeWhile_cons_of_neg (by simp [hstop c rfl])
  have htaken : (taken ++ rest).takeWhile p = taken := by
    rw [List.takeWhile_append_of_pos hall, hrest, List.append_nil]
  intro position
  refine ⟨position + taken.length, ?_⟩
  rw [takeWhile_eq]
  dsimp only
  rw [htaken, List.drop_left]

theorem skipBlanks {blanks : List Char} (hall : ∀ c ∈ blanks, isBlank c = true)
    (hstop : ∀ c ∈ rest.head?, isBlank c = false) : Passes skipBlanks (blanks ++ rest) () rest :=
  .bind (.takeWhile hall hstop) (.pure () rest)

theorem skipNoBlanks (hstop : ∀ c ∈ rest.head?, isBlank c = false) :
    Passes Json.skipBlanks rest () rest :=
  skipBlanks (List.forall_mem_nil _) hstop

end Passes

section Strings

variable {n fuel start : Nat} {rest rest' read : List Char} {c : Char} {s : String}

theorem fourDigits?_hexadecimal (hn : n < 0x10000) (rest : List Char) :
    fourDigits? (Text.hexadecimal 4 n ++ rest) = some n := by
  obtain ⟨digits, hdigits, hlength, hnumber⟩ := Text.mapM_hexadecimal 4 n
  have htake : (Text.hexadecimal 4 n ++ rest).take 4 = Text.hexadecimal 4 n :=
    List.take_left' (Text.length_hexadecimal 4 n)
  have hvalue : Text.numberOfDigits 16 digits = n := hnumber.trans (Nat.mod_eq_of_lt hn)
  rw [fourDigits?, htake, hdigits]
  simp only [Option.bind_eq_bind, Option.bind_some, hlength, hvalue, Nat.lt_irrefl, if_false]

theorem drop_hexadecimal (n : Nat) (rest : List Char) :
    (Text.hexadecimal 4 n ++ rest).drop 4 = rest :=
  List.drop_left' (Text.length_hexadecimal 4 n)

theorem lt_length_hexadecimal_append (hrest : rest ≠ []) (n : Nat) :
    4 < (Text.hexadecimal 4 n ++ rest).length := by
  rw [List.length_append, Text.length_hexadecimal]
  have hlength := List.length_pos_iff.2 hrest
  omega

theorem passes_readFourDigits (hn : n < 0x10000) (hrest : rest ≠ []) :
    Passes readFourDigits (Text.hexadecimal 4 n ++ rest) n rest := by
  refine .get_bind fun position ↦ ?_
  dsimp only
  rw [fourDigits?_hexadecimal hn]
  dsimp only
  rw [if_neg (Nat.not_le.2 (lt_length_hexadecimal_append hrest n))]
  refine .bind (.advance 4 _) ?_
  rw [drop_hexadecimal]
  exact .pure n rest

theorem passes_readUnicodeEscape_unit [Host] (hc : c.toNat < 0x10000) (hrest : rest ≠ []) :
    Passes readUnicodeEscape (Text.hexadecimal 4 c.toNat ++ rest) c rest := by
  have hvalid : c.toNat < 0xD800 ∨ 0xDFFF < c.toNat := by
    rcases c.valid with h | h
    · exact .inl h
    · exact .inr h.1
  refine .bind (passes_readFourDigits hc hrest) ?_
  rw [if_neg (by omega), if_neg (by omega), Char.ofNat_toNat]
  exact .pure c rest

theorem passes_readLowSurrogate? {low high : Nat} (hlow : 0xDC00 ≤ low ∧ low ≤ 0xDFFF)
    (hrest : rest ≠ []) :
    Passes (readLowSurrogate? high) (unitEscape low ++ rest)
      (some (0x10000 + (high - 0xD800) * 0x400 + (low - 0xDC00))) rest := by
  have hlength := lt_length_hexadecimal_append hrest low
  have hdigits := fourDigits?_hexadecimal (by omega : low < 0x10000) rest
  have hdrop := drop_hexadecimal low rest
  rw [unitEscape, List.cons_append, List.cons_append]
  generalize Text.hexadecimal 4 low ++ rest = text at hlength hdigits hdrop
  refine .get_bind fun position ↦ ?_
  change Passes (if text.length ≤ 4 then _ else _) _ _ _
  rw [if_neg (Nat.not_le.2 hlength), hdigits]
  dsimp only
  rw [if_pos hlow]
  exact .bind (.advance 6 _) (hdrop ▸ .pure _ (text.drop 4))

theorem passes_readUnicodeEscape_pair [Host] (hc : 0x10000 ≤ c.toNat) (hrest : rest ≠ []) :
    Passes readUnicodeEscape
      (Text.hexadecimal 4 (0xD800 + (c.toNat - 0x10000) / 0x400) ++
        (unitEscape (0xDC00 + (c.toNat - 0x10000) % 0x400) ++ rest)) c rest := by
  have hmax : c.toNat < 0x110000 := by
    rcases c.valid with h | h
    · exact h.trans (by decide)
    · exact h.2
  refine .bind (passes_readFourDigits (by omega) (by simp [unitEscape])) ?_
  rw [if_pos (by omega)]
  refine .bind (passes_readLowSurrogate? (by omega) hrest) ?_
  have hcode : 0x10000 + (0xD800 + (c.toNat - 0x10000) / 0x400 - 0xD800) * 0x400 +
      (0xDC00 + (c.toNat - 0x10000) % 0x400 - 0xDC00) = c.toNat := by
    omega
  rw [hcode]
  dsimp only
  rw [Char.ofNat_toNat]
  exact .pure c rest

theorem passes_readStringRest_plain [Host] (hquote : c ≠ '"') (hslash : c ≠ '\\')
    (hc : 0x20 ≤ c.toNat)
    (h : Passes (readStringRest start (c :: read) fuel) rest s rest') :
    Passes (readStringRest start read (fuel + 1)) (c :: rest) s rest' := by
  rw [readStringRest]
  refine .bind (.peek _) ?_
  rw [List.head?_cons]
  dsimp only
  rw [if_neg hquote, if_neg hslash, if_neg (by omega)]
  exact .bind (.advance 1 _) h

theorem passes_readStringRest_escape [Host] {e : Char} (he : e ≠ 'u')
    (hc : controlEscape? e = some c)
    (h : Passes (readStringRest start (c :: read) fuel) rest s rest') :
    Passes (readStringRest start read (fuel + 1)) ('\\' :: e :: rest) s rest' := by
  rw [readStringRest]
  refine .bind (.peek _) ?_
  rw [List.head?_cons]
  dsimp only
  rw [if_neg (by decide), if_pos rfl]
  refine .bind (.advance 1 _) (.bind (.peek _) ?_)
  rw [List.drop_succ_cons, List.drop_zero, List.head?_cons]
  split
  · rename_i hnone
    cases hnone
  · rename_i hu
    exact absurd (Option.some.inj hu) he
  · rename_i other hsome
    obtain rfl := Option.some.inj hsome
    rw [hc]
    exact .bind (.advance 1 _) h

theorem passes_readStringRest_unicode [Host] {text : List Char}
    (hc : Passes readUnicodeEscape text c rest)
    (h : Passes (readStringRest start (c :: read) fuel) rest s rest') :
    Passes (readStringRest start read (fuel + 1)) ('\\' :: 'u' :: text) s rest' := by
  rw [readStringRest]
  refine .bind (.peek _) ?_
  rw [List.head?_cons]
  dsimp only
  rw [if_neg (by decide), if_pos rfl]
  exact .bind (.advance 1 _) (.bind (.peek _) (.bind (.advance 1 _) (.bind hc h)))

theorem passes_readStringRest_char [Host] (c : Char) (hrest : rest ≠ [])
    (h : Passes (readStringRest start (c :: read) fuel) rest s rest') :
    Passes (readStringRest start read (fuel + 1)) (stringChar c ++ rest) s rest' := by
  by_cases hquote : c = '"'
  · subst hquote
    exact passes_readStringRest_escape (by decide) rfl h
  by_cases hslash : c = '\\'
  · subst hslash
    exact passes_readStringRest_escape (by decide) rfl h
  by_cases hnewline : c = '\n'
  · subst hnewline
    exact passes_readStringRest_escape (by decide) rfl h
  by_cases hreturn : c = '\r'
  · subst hreturn
    exact passes_readStringRest_escape (by decide) rfl h
  by_cases htab : c = '\t'
  · subst htab
    exact passes_readStringRest_escape (by decide) rfl h
  by_cases hback : c = '\x08'
  · subst hback
    exact passes_readStringRest_escape (by decide) rfl h
  by_cases hfeed : c = '\x0c'
  · subst hfeed
    exact passes_readStringRest_escape (by decide) rfl h
  rw [stringChar, if_neg hquote, if_neg hslash, if_neg hnewline, if_neg hreturn, if_neg htab,
    if_neg hback, if_neg hfeed]
  split
  · rename_i hplain
    exact passes_readStringRest_plain hquote hslash hplain.1 h
  · split
    · rename_i hunit
      exact passes_readStringRest_unicode (passes_readUnicodeEscape_unit hunit hrest) h
    · rename_i hunit
      rw [List.append_assoc]
      exact passes_readStringRest_unicode
        (passes_readUnicodeEscape_pair (Nat.le_of_not_lt hunit) hrest) h

theorem passes_readStringRest [Host] (start : Nat) (read : List Char) {text : List Char}
    (hfuel : text.length < fuel) (rest : List Char) :
    Passes (readStringRest start read fuel) (text.flatMap stringChar ++ '"' :: rest)
      (String.ofList (read.reverse ++ text)) rest := by
  induction text generalizing read fuel with
  | nil =>
    cases fuel with
    | zero => cases hfuel
    | succ fuel =>
      rw [readStringRest, List.append_nil]
      exact .bind (.peek _) (.bind (.advance 1 _) (.pure _ rest))
  | cons c text ih =>
    cases fuel with
    | zero => cases hfuel
    | succ fuel =>
      have hmore := ih (c :: read) (Nat.lt_of_succ_lt_succ hfuel)
      rw [List.reverse_cons, List.append_assoc, List.singleton_append] at hmore
      rw [List.flatMap_cons, List.append_assoc]
      exact passes_readStringRest_char c (by simp) hmore

theorem length_pos_stringChar (c : Char) : 0 < (stringChar c).length := by
  have hite {p : Prop} [Decidable p] {front back : List Char} (hfront : 0 < front.length)
      (hback : 0 < back.length) : 0 < (if p then front else back).length := by
    split
    · exact hfront
    · exact hback
  unfold stringChar
  repeat' refine hite (Nat.succ_pos _) ?_
  exact Nat.succ_pos _

theorem length_le_flatMap_stringChar (text : List Char) :
    text.length ≤ (text.flatMap stringChar).length := by
  induction text with
  | nil => exact Nat.le_refl 0
  | cons c text ih =>
    rw [List.flatMap_cons, List.length_append, List.length_cons]
    have hc := length_pos_stringChar c
    omega

theorem passes_readString [Host] (s : String) (rest : List Char) :
    Passes readString (s.toList.flatMap stringChar ++ '"' :: rest) s rest := by
  refine .get_bind fun position ↦ ?_
  have hfuel : s.toList.length < (s.toList.flatMap stringChar ++ '"' :: rest).length + 1 := by
    have hle := length_le_flatMap_stringChar s.toList
    rw [List.length_append]
    omega
  have hread := passes_readStringRest (position - 1) [] hfuel rest
  rwa [List.reverse_nil, List.nil_append, String.ofList_toList] at hread

end Strings

section Integers

/-- A text that does not go on with anything that could belong to a number. -/
def Delimited (rest : List Char) : Prop :=
  ∀ c ∈ rest.head?, isDigit c = false ∧ c ≠ '.' ∧ c ≠ 'e' ∧ c ≠ 'E'

variable {rest : List Char}

theorem delimited_cons {c : Char} (h : isDigit c = false ∧ c ≠ '.' ∧ c ≠ 'e' ∧ c ≠ 'E')
    (rest : List Char) : Delimited (c :: rest) := by
  intro d hd
  obtain rfl := Option.some.inj hd
  exact h

theorem isDigit_iff {c : Char} : isDigit c = true ↔ c.isDigit = true := by
  simp [isDigit, Char.isDigit, Char.le_def]

theorem ne_of_isDigit {c d : Char} (hc : isDigit c = true) (hd : isDigit d = false) : c ≠ d := by
  rintro rfl
  rw [hc] at hd
  cases hd

theorem isBlank_of_isDigit {c : Char} (hc : isDigit c = true) : isBlank c = false := by
  cases hblank : isBlank c with
  | false => rfl
  | true =>
    simp only [isBlank, Bool.or_eq_true, decide_eq_true_eq] at hblank
    rcases hblank with ((rfl | rfl) | rfl) | rfl <;> cases hc

theorem numberOfDigits_digitValues (digits : List Char) :
    Text.numberOfDigits 10 (digitValues digits) = Nat.ofDigitChars 10 digits 0 := by
  rw [Text.numberOfDigits, digitValues, List.foldl_map, Nat.ofDigitChars_eq_foldl]

theorem exists_toDigits_eq_cons (n : Nat) :
    ∃ c more, Nat.toDigits 10 n = c :: more ∧ isDigit c = true := by
  have hdigit (c : Char) (hc : c ∈ Nat.toDigits 10 n) : isDigit c = true :=
    isDigit_iff.2 (Nat.isDigit_of_mem_toDigits (by decide) (by decide) hc)
  obtain ⟨c, more, heq⟩ := List.exists_cons_of_ne_nil (Nat.toDigits_ne_nil (n := n) (b := 10))
  exact ⟨c, more, heq, hdigit c (heq ▸ List.mem_cons_self)⟩

theorem head?_toDigits {n : Nat} (hn : 0 < n) : (Nat.toDigits 10 n).head? ≠ some '0' := by
  induction n using Nat.strongRecOn with
  | ind n ih =>
    rw [Nat.toDigits_eq_if (by decide)]
    split
    · rename_i hlt
      have hall : ∀ d : Fin 10, 0 < d.val → d.val.digitChar ≠ '0' := by decide
      simpa using hall ⟨n, hlt⟩ hn
    · have hfront := ih (n / 10) (by omega) (by omega)
      obtain ⟨c, more, hc, -⟩ := exists_toDigits_eq_cons (n / 10)
      rw [hc] at hfront ⊢
      exact hfront

theorem passes_readWhole (n : Nat) (hrest : Delimited rest) :
    Passes readWhole (Nat.toDigits 10 n ++ rest) (Nat.toDigits 10 n) rest := by
  rcases Nat.eq_zero_or_pos n with rfl | hn
  · exact .bind (.skip '0' rest) (.pure ['0'] rest)
  · -- The reader takes a zero in front for the whole number, so there must be none.
    have hzero : (Nat.toDigits 10 n ++ rest).head? ≠ some '0' := by
      have hhead := head?_toDigits hn
      obtain ⟨c, more, hc, -⟩ := exists_toDigits_eq_cons n
      rw [hc] at hhead ⊢
      exact hhead
    refine .bind (.skip_of_ne hzero) (.takeWhile ?_ fun c hc ↦ (hrest c hc).1)
    exact fun c hc ↦ isDigit_iff.2 (Nat.isDigit_of_mem_toDigits (by decide) (by decide) hc)

theorem passes_readFraction? (hrest : Delimited rest) : Passes readFraction? rest none rest := by
  refine .get_bind fun position ↦ ?_
  split
  · rename_i c more heq
    have hpoint := (hrest '.' (by simp [show rest = _ from heq])).2.1
    exact absurd rfl hpoint
  · exact .pure none rest

theorem passes_readExponent? (hrest : Delimited rest) : Passes readExponent? rest none rest := by
  refine .get_bind fun position ↦ ?_
  have hletter : ¬(decide (rest.head? = some 'e') || decide (rest.head? = some 'E')) = true := by
    simp only [Bool.or_eq_true, decide_eq_true_eq]
    rintro (h | h)
    · exact (hrest _ h).2.2.1 rfl
    · exact (hrest _ h).2.2.2 rfl
  dsimp only
  rw [if_neg hletter]
  exact .pure none rest

def ShortInteger (n : Int) : Prop := (Nat.toDigits 10 n.natAbs).length ≤ Text.integerDigitLimit

theorem passes_readNumber_of_sign {text : List Char} {negative : Bool} {m : Nat}
    (hm : (Nat.toDigits 10 m).length ≤ Text.integerDigitLimit) (hrest : Delimited rest)
    (hsign : Passes (skip '-') text negative (Nat.toDigits 10 m ++ rest)) :
    Passes readNumber text (.integer (if negative then -m else m)) rest := by
  have hnumber : Text.numberOfDigits 10 (digitValues (Nat.toDigits 10 m)) = m := by
    rw [numberOfDigits_digitValues, Nat.ofDigitChars_ten_toDigits]
  have hsome : ¬(Nat.toDigits 10 m).isEmpty = true := by
    rw [List.isEmpty_iff]
    exact Nat.toDigits_ne_nil
  refine .get_bind fun position ↦ .bind hsign (.bind (passes_readWhole m hrest) ?_)
  rw [if_neg hsome]
  refine .bind (passes_readFraction? hrest) (.bind (passes_readExponent? hrest) ?_)
  dsimp only
  rw [if_neg (Nat.not_lt.2 hm), hnumber]
  exact .pure _ rest

theorem toList_toString_ofNat (m : Nat) : (toString (Int.ofNat m)).toList = Nat.toDigits 10 m :=
  Nat.toList_repr

theorem toList_toString_negSucc (m : Nat) :
    (toString (Int.negSucc m)).toList = '-' :: Nat.toDigits 10 (m + 1) := by
  change ("-" ++ Nat.repr (m + 1)).toList = _
  rw [String.toList_append, Nat.toList_repr]
  rfl

theorem toList_toString_cases (n : Int) :
    ∃ c more, (toString n).toList = c :: more ∧
      (isDigit c = true ∨ c = '-' ∧ ∃ d digits, more = d :: digits ∧ isDigit d = true) := by
  cases n with
  | ofNat m =>
    obtain ⟨c, more, heq, hc⟩ := exists_toDigits_eq_cons m
    exact ⟨c, more, (toList_toString_ofNat m).trans heq, .inl hc⟩
  | negSucc m =>
    obtain ⟨d, digits, heq, hd⟩ := exists_toDigits_eq_cons (m + 1)
    exact ⟨'-', _, toList_toString_negSucc m, .inr ⟨rfl, d, digits, heq, hd⟩⟩

theorem passes_readNumber {n : Int} (hn : ShortInteger n) (hrest : Delimited rest) :
    Passes readNumber ((toString n).toList ++ rest) (.integer n) rest := by
  cases n with
  | ofNat m =>
    have hsign : (Nat.toDigits 10 m ++ rest).head? ≠ some '-' := by
      obtain ⟨c, more, heq, hc⟩ := exists_toDigits_eq_cons m
      rw [heq]
      exact fun h ↦ ne_of_isDigit hc rfl (Option.some.inj h)
    rw [toList_toString_ofNat]
    exact passes_readNumber_of_sign hn hrest (.skip_of_ne hsign)
  | negSucc m =>
    rw [toList_toString_negSucc]
    exact passes_readNumber_of_sign hn hrest (.skip '-' _)

end Integers

end Json

end Registrar
