import Mathlib.Data.List.TakeWhile
import Registrar.Json.Reader
import Registrar.Proofs.Outcomes

namespace Registrar.Json

/-- So many digits stand in a row in a text, and they are too many to be read as an integer. -/
def HoldsDigits (count : Nat) (text : List Char) : Prop :=
  Text.integerDigitLimit < count ∧
    ∃ digits, digits.length = count ∧ (∀ c ∈ digits, isDigit c = true) ∧ digits <:+: text

/-- A step of the reader stays inside a text and gives a value with a property; if it stops at an
integer of too many digits, these stand in the text. -/
structure Within (text : List Char) {α : Type} (step : Reading α) (post : α → Prop) : Prop where
  ok : ∀ cursor next a, cursor.rest <:+ text → step cursor = .ok (a, next) →
    next.rest <:+ text ∧ post a
  tooLong : ∀ cursor count, cursor.rest <:+ text → step cursor = .error (.integerTooLong count) →
    HoldsDigits count text

namespace Within

variable {text : List Char} {α β : Type} {post : α → Prop} {step : Reading α}

theorem pure {a : α} (h : post a) : Within text (pure a) post := by
  refine ⟨fun cursor next b hc hs ↦ ?_, nofun⟩
  cases hs
  exact ⟨hc, h⟩

theorem bind {post' : β → Prop} {f : α → Reading β} (h : Within text step post)
    (hf : ∀ a, post a → Within text (f a) post') : Within text (step >>= f) post' := by
  refine ⟨fun cursor next b hc hs ↦ ?_, fun cursor count hc hs ↦ ?_⟩
  · obtain ⟨⟨a, between⟩, ha, hb⟩ := bind_eq_ok_iff.1 hs
    obtain ⟨hbetween, hpost⟩ := h.ok cursor between a hc ha
    exact (hf a hpost).ok between next b hbetween hb
  · rcases bind_eq_error_iff.1 hs with ha | ⟨⟨a, between⟩, ha, hb⟩
    · exact h.tooLong cursor count hc ha
    · obtain ⟨hbetween, hpost⟩ := h.ok cursor between a hc ha
      exact (hf a hpost).tooLong between count hbetween hb

theorem mono {post' : α → Prop} (h : Within text step post) (hpost : ∀ a, post a → post' a) :
    Within text step post' :=
  ⟨fun cursor next a hc hs ↦ (h.ok cursor next a hc hs).imp_right (hpost a), h.tooLong⟩

theorem get : Within text (get : Reading Cursor) fun cursor ↦ cursor.rest <:+ text := by
  refine ⟨fun cursor next b hc hs ↦ ?_, nofun⟩
  cases hs
  exact ⟨hc, hc⟩

theorem set {cursor : Cursor} (h : cursor.rest <:+ text) :
    Within text (set cursor : Reading Unit) fun _ ↦ True := by
  refine ⟨fun before next b hc hs ↦ ?_, nofun⟩
  cases hs
  exact ⟨h, trivial⟩

theorem failAt {problem : Problem} {position : Nat} :
    Within text (failAt problem position : Reading α) post :=
  ⟨nofun, nofun⟩

theorem tooManyDigits {count : Nat} (h : HoldsDigits count text) :
    Within text (throw (.integerTooLong count) : Reading α) post := by
  refine ⟨nofun, fun cursor other hc hs ↦ ?_⟩
  cases hs
  exact h

theorem failHere {problem : Problem} {back : Nat} :
    Within text (failHere problem back : Reading α) post :=
  .bind .get fun _ _ ↦ .failAt

theorem stops {post' : β → Prop} {f : α → Reading β} (h : Within text step fun _ ↦ False) :
    Within text (step >>= f) post' :=
  h.bind fun _ hfalse ↦ hfalse.elim

theorem peek : Within text peek fun _ ↦ True :=
  .bind .get fun _ _ ↦ .pure trivial

theorem advance {count : Nat} : Within text (advance count) fun _ ↦ True := by
  refine ⟨fun cursor next b hc hs ↦ ?_, nofun⟩
  cases hs
  exact ⟨(List.drop_suffix count cursor.rest).trans hc, trivial⟩

theorem takeWhile {p : Char → Bool} :
    Within text (takeWhile p) fun taken ↦ (∀ c ∈ taken, p c = true) ∧ taken <:+: text := by
  refine .bind .get fun cursor hcursor ↦ .bind .advance fun _ _ ↦ .pure ⟨?_, ?_⟩
  · exact List.all_eq_true.1 List.all_takeWhile
  · exact (List.takeWhile_prefix p).isInfix.trans hcursor.isInfix

theorem skipBlanks : Within text skipBlanks fun _ ↦ True :=
  .bind .takeWhile fun _ _ ↦ .pure trivial

theorem skip {c : Char} : Within text (skip c) fun _ ↦ True := by
  refine .bind .peek fun next _ ↦ ?_
  split
  · exact .bind .advance fun _ _ ↦ .pure trivial
  · exact .pure trivial

end Within

section Readers

variable {text : List Char}

theorem within_readFourDigits : Within text readFourDigits fun _ ↦ True := by
  refine .bind .get fun cursor _ ↦ ?_
  split
  · dsimp only
    split
    · exact .stops .failHere
    · exact .bind .advance fun _ _ ↦ .pure trivial
  · exact .failHere

theorem within_readLowSurrogate? (high : Nat) :
    Within text (readLowSurrogate? high) fun _ ↦ True := by
  refine .bind .get fun cursor _ ↦ ?_
  split
  · split
    · exact .pure trivial
    · split
      · exact .failAt
      · split
        · exact .bind .advance fun _ _ ↦ .pure trivial
        · exact .pure trivial
  · exact .pure trivial

theorem within_readUnicodeEscape [Host] : Within text readUnicodeEscape fun _ ↦ True := by
  refine .bind within_readFourDigits fun code _ ↦ ?_
  split
  · refine .bind (within_readLowSurrogate? code) fun low _ ↦ ?_
    split <;> exact .pure trivial
  · split <;> exact .pure trivial

theorem within_readStringRest [Host] (start : Nat) (read : List Char) (fuel : Nat) :
    Within text (readStringRest start read fuel) fun _ ↦ True := by
  induction fuel generalizing read with
  | zero => exact .failAt
  | succ fuel ih =>
    refine .bind .peek fun next _ ↦ ?_
    split
    · exact .failAt
    · split
      · exact .bind .advance fun _ _ ↦ .pure trivial
      · split
        · refine .bind .advance fun _ _ ↦ .bind .peek fun escaped _ ↦ ?_
          split
          · exact .failAt
          · exact .bind .advance fun _ _ ↦ .bind within_readUnicodeEscape fun c _ ↦ ih (c :: read)
          · split
            · exact .failHere
            · exact .bind .advance fun _ _ ↦ ih _
        · split
          · exact .failHere
          · exact .bind .advance fun _ _ ↦ ih _

theorem within_readString [Host] : Within text readString fun _ ↦ True :=
  .bind .get fun _ _ ↦ within_readStringRest _ _ _

theorem within_readWhole :
    Within text readWhole fun whole ↦ whole.length ≤ 1 ∨
      (∀ c ∈ whole, isDigit c = true) ∧ whole <:+: text := by
  refine .bind .skip fun zero _ ↦ ?_
  split
  · exact .pure (.inl (Nat.le_refl 1))
  · exact Within.takeWhile.mono fun whole h ↦ .inr h

theorem within_readFraction? : Within text readFraction? fun _ ↦ True := by
  refine .bind .get fun cursor _ ↦ ?_
  split
  · split
    · exact .bind .advance fun _ _ ↦ .bind .takeWhile fun _ _ ↦ .pure trivial
    · exact .pure trivial
  · exact .pure trivial

theorem within_readExponent? : Within text readExponent? fun _ ↦ True := by
  refine .bind .get fun before hbefore ↦ ?_
  dsimp only
  -- Without digits the cursor goes back to where the exponent was looked for.
  split
  · refine .bind .advance fun _ _ ↦ .bind .skip fun negative _ ↦ ?_
    split
    · refine .bind .takeWhile fun digits _ ↦ ?_
      split
      · exact .bind (.set hbefore) fun _ _ ↦ .pure trivial
      · exact .pure trivial
    · refine .bind .skip fun _ _ ↦ .bind .takeWhile fun digits _ ↦ ?_
      split
      · exact .bind (.set hbefore) fun _ _ ↦ .pure trivial
      · exact .pure trivial
  · exact .pure trivial

theorem within_readNumber : Within text readNumber fun _ ↦ True := by
  refine .bind .get fun start _ ↦ .bind .skip fun negative _ ↦
    .bind within_readWhole fun whole hwhole ↦ ?_
  dsimp only
  split
  · exact .stops .failAt
  · refine .bind within_readFraction? fun fraction _ ↦
      .bind within_readExponent? fun exponent _ ↦ ?_
    split
    · split
      · rename_i hlimit
        refine .stops (.tooManyDigits ⟨hlimit, whole, rfl, ?_⟩)
        refine hwhole.resolve_left fun h ↦ ?_
        have hone : whole.length ≤ 1 := h
        have hmany : 4300 < whole.length := hlimit
        omega
      · exact .pure trivial
    · exact .pure trivial

variable {value : Reading Value} (hvalue : Within text value fun _ ↦ True)

include hvalue in
theorem within_readItems (items : List Value) (fuel : Nat) :
    Within text (readItems value items fuel) fun _ ↦ True := by
  induction fuel generalizing items with
  | zero => exact .failHere
  | succ fuel ih =>
    refine .bind hvalue fun item _ ↦ .bind .skipBlanks fun _ _ ↦ .bind .skip fun closed _ ↦ ?_
    split
    · exact .pure trivial
    · refine .bind .skip fun comma _ ↦ ?_
      dsimp only
      split
      · exact .bind .skipBlanks fun _ _ ↦ ih _
      · exact .stops .failHere

include hvalue in
theorem within_readMembers [Host] (members : List (String × Value)) (fuel : Nat) :
    Within text (readMembers value members fuel) fun _ ↦ True := by
  induction fuel generalizing members with
  | zero => exact .failHere
  | succ fuel ih =>
    refine .bind .skip fun quote _ ↦ ?_
    dsimp only
    split
    · refine .bind within_readString fun name _ ↦ .bind .skipBlanks fun _ _ ↦
        .bind .skip fun colon _ ↦ ?_
      split
      · refine .bind .skipBlanks fun _ _ ↦ .bind hvalue fun item _ ↦
          .bind .skipBlanks fun _ _ ↦ .bind .skip fun closed _ ↦ ?_
        split
        · exact .pure trivial
        · refine .bind .skip fun comma _ ↦ ?_
          split
          · exact .bind .skipBlanks fun _ _ ↦ ih _
          · exact .stops .failHere
      · exact .stops .failHere
    · exact .stops .failHere

theorem within_readValue [Host] (depth : Nat) : Within text
    (readValue depth) fun _ ↦ True := by
  induction depth with
  | zero => exact .failHere
  | succ depth ih =>
    refine .bind .get fun cursor _ ↦ ?_
    split
    · exact .failHere
    · exact .bind .advance fun _ _ ↦ .bind within_readString fun _ _ ↦ .pure trivial
    · refine .bind .advance fun _ _ ↦ .bind .skipBlanks fun _ _ ↦ .bind .skip fun closed _ ↦ ?_
      split
      · exact .pure trivial
      · exact within_readItems ih _ _
    · refine .bind .advance fun _ _ ↦ .bind .skipBlanks fun _ _ ↦ .bind .skip fun closed _ ↦ ?_
      split
      · exact .pure trivial
      · exact within_readMembers ih _ _
    · split
      · exact .bind .advance fun _ _ ↦ .pure trivial
      · exact within_readNumber

theorem within_readWholeText [Host] : Within text readWholeText fun _ ↦ True := by
  refine .bind .get fun start _ ↦ ?_
  have hbody : Within text (do
      skipBlanks
      let value ← readValue (start.rest.length + 1)
      skipBlanks
      unless (← get).rest.isEmpty do failHere .extraData 0
      return value) fun _ ↦ True := by
    refine .bind .skipBlanks fun _ _ ↦ .bind (within_readValue _) fun value _ ↦
      .bind .skipBlanks fun _ _ ↦ .bind .get fun cursor _ ↦ ?_
    dsimp only
    split
    · exact .pure trivial
    · exact .stops .failHere
  dsimp only
  split
  · exact .stops .failHere
  · exact hbody

end Readers

/-- Reading stops at an integer of too many digits only in a text in which they stand. -/
theorem holdsDigits_of_read [Host] {text : String} {count : Nat}
    (h : read text = .error (.integerTooLong count)) : HoldsDigits count text.toList := by
  unfold read at h
  dsimp only at h
  split at h
  · cases h
  · cases h
  · rename_i other hstop
    cases h
    exact within_readWholeText.tooLong ⟨text.toList, 0⟩ count List.suffix_rfl hstop

section Digits

variable {α β : Type} {step : Reading α} {f : α → Reading β} {cursor next : Cursor}

theorem bind_of_ok {a : α} (h : step cursor = .ok (a, next)) : (step >>= f) cursor = f a next := by
  change (step cursor >>= fun result ↦ f result.1 result.2) = _
  rw [h]
  rfl

theorem bind_of_error {stop : Stop} (h : step cursor = .error stop) :
    (step >>= f) cursor = .error stop := by
  change (step cursor >>= fun result ↦ f result.1 result.2) = _
  rw [h]
  rfl

theorem get_eq (cursor : Cursor) : (get : Reading Cursor) cursor = .ok (cursor, cursor) := rfl

theorem takeWhile_eq (p : Char → Bool) (cursor : Cursor) :
    takeWhile p cursor = .ok (cursor.rest.takeWhile p,
      ⟨cursor.rest.drop (cursor.rest.takeWhile p).length,
        cursor.position + (cursor.rest.takeWhile p).length⟩) := rfl

variable {rest : List Char}

theorem readNumber_digits (hdigits : ∀ c ∈ rest, isDigit c = true)
    (hlimit : Text.integerDigitLimit ≤ rest.length) (position : Nat) :
    readNumber ⟨'1' :: rest, position⟩ = .error (.integerTooLong (rest.length + 1)) := by
  have hwhole : ('1' :: rest).takeWhile isDigit = '1' :: rest :=
    List.takeWhile_eq_self_iff.2 (List.forall_mem_cons.2 ⟨rfl, hdigits⟩)
  have hread : readWhole ⟨'1' :: rest, position⟩ =
      .ok ('1' :: rest, ⟨[], position + (rest.length + 1)⟩) := by
    change takeWhile isDigit ⟨'1' :: rest, position⟩ = _
    rw [takeWhile_eq]
    dsimp only
    rw [hwhole, List.drop_length]
    rfl
  have hlong : rest.length + 1 > Text.integerDigitLimit := Nat.lt_succ_of_le hlimit
  have hsign : skip '-' ⟨'1' :: rest, position⟩ = .ok (false, ⟨'1' :: rest, position⟩) := rfl
  unfold readNumber
  rw [bind_of_ok (get_eq _), bind_of_ok hsign, bind_of_ok hread]
  change (if rest.length + 1 > Text.integerDigitLimit then _ else _ : Reading _) _ = _
  rw [if_pos hlong]
  rfl

theorem readValue_digits [Host] (hdigits : ∀ c ∈ rest, isDigit c = true)
    (hlimit : Text.integerDigitLimit ≤ rest.length) (position depth : Nat) :
    readValue (depth + 1) ⟨'1' :: rest, position⟩ = .error (.integerTooLong (rest.length + 1)) := by
  rw [readValue, bind_of_ok (get_eq _)]
  exact readNumber_digits hdigits hlimit position

theorem read_digits [Host] (hdigits : ∀ c ∈ rest, isDigit c = true)
    (hlimit : Text.integerDigitLimit ≤ rest.length) :
    read (String.ofList ('1' :: rest)) = .error (.integerTooLong (rest.length + 1)) := by
  have hstop : readWholeText ⟨'1' :: rest, 0⟩ = .error (.integerTooLong (rest.length + 1)) := by
    rw [readWholeText, bind_of_ok (get_eq _)]
    have hblanks : skipBlanks ⟨'1' :: rest, 0⟩ = .ok ((), ⟨'1' :: rest, 0⟩) := rfl
    change (skipBlanks >>= _) _ = _
    rw [bind_of_ok hblanks]
    exact bind_of_error (readValue_digits hdigits hlimit 0 _)
  rw [read, String.toList_ofList, hstop]

end Digits

end Registrar.Json
