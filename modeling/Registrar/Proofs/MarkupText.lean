import Mathlib.Data.List.Flatten
import Registrar.Proofs.Consoles
import Registrar.Proofs.Outcomes

namespace Registrar.Console.Markup

section Literals

variable {c : Char} {chars before after body text : List Char}

theorem literal_of_notMem (h : '[' ∉ chars) : Literal chars := by
  rintro before after rfl
  exact absurd (List.mem_append_right before List.mem_cons_self) h

theorem literal_append_cons_iff (hbefore : '[' ∉ before) (hc : c ≠ slash) :
    Literal (before ++ c :: after) ↔
      (c = '[' → before.getLast? ≠ some slash ∧ ¬OpensTag after) ∧ Literal after := by
  constructor
  · intro h
    refine ⟨fun heq ↦ h before after (heq ▸ rfl), fun before' after' hafter ↦ ?_⟩
    have hwhole := h (before ++ c :: before') after' (by simp [hafter])
    refine ⟨fun hlast ↦ hwhole.1 ?_, hwhole.2⟩
    rw [List.getLast?_append, List.getLast?_cons, hlast]
    rfl
  · rintro ⟨hbracket, hrest⟩ before' after' heq
    rcases List.append_eq_append_iff.1 heq with ⟨middle, rfl, hmiddle⟩ | ⟨middle, rfl, hmiddle⟩
    · cases middle with
      | nil =>
        obtain ⟨rfl, rfl⟩ := List.cons.inj hmiddle
        rw [List.append_nil]
        exact hbracket rfl
      | cons d middle =>
        obtain ⟨rfl, hafter⟩ := List.cons.inj hmiddle
        obtain ⟨hlast, htag⟩ := hrest middle after' hafter
        refine ⟨?_, htag⟩
        rw [List.getLast?_append, List.getLast?_cons]
        cases hd : middle.getLast? with
        | none => simpa [hd] using hc
        | some d =>
          rw [hd] at hlast
          simpa using hlast
    · cases middle with
      | nil =>
        obtain ⟨rfl, rfl⟩ := List.cons.inj hmiddle
        simpa using hbracket rfl
      | cons d middle =>
        obtain ⟨rfl, -⟩ := List.cons.inj hmiddle
        exact absurd (List.mem_append_right before' List.mem_cons_self) hbefore

theorem body?_eq_some_iff : body? text = some body ↔
    ∃ rest, text = body ++ ']' :: rest ∧ (∀ c ∈ body, c ≠ '[' ∧ c ≠ ']') ∧
      ∃ c ∈ body.head?, startsTag c = true := by
  constructor
  · intro h
    refine ⟨_, eq_of_body?_eq_some h, ?_⟩
    unfold body? at h
    dsimp only at h
    split at h
    · rename_i hc
      cases h
      rw [Bool.and_eq_true, Option.any_eq_true] at hc
      refine ⟨fun c hmem ↦ ?_, hc.1⟩
      simpa using List.all_eq_true.1 List.all_takeWhile c hmem
    · cases h
  · rintro ⟨rest, rfl, hbody, c, hc, hstart⟩
    have htake : (body ++ ']' :: rest).takeWhile (fun c ↦ c ≠ '[' && c ≠ ']') = body := by
      rw [List.takeWhile_append_of_pos (by simpa using hbody)]
      simp
    unfold body?
    dsimp only
    rw [htake]
    simp [Option.mem_def.1 hc, hstart]

theorem opensTag_iff : OpensTag text ↔ ∃ body, body? text = some body := by
  simp only [body?_eq_some_iff]
  rfl

end Literals

namespace Segment

def shown : Segment → List Char
  | char c => [c]
  | bracket slashes => List.replicate (slashes - 1) slash ++ ['[']
  | tag slashes body =>
    List.replicate (slashes / 2) slash ++ if slashes % 2 = 1 then '[' :: body ++ [']'] else []

def isPlain : Segment → Bool
  | char _ => true
  | bracket slashes => slashes = 0
  | tag .. => false

@[simp] theorem isPlain_char (c : Char) : (char c).isPlain = true := rfl

@[simp] theorem isPlain_bracket (slashes : Nat) :
    (bracket slashes).isPlain = decide (slashes = 0) := rfl

theorem shown_sublist (segment : Segment) : segment.shown.Sublist segment.written := by
  cases segment with
  | char c => exact .refl _
  | bracket slashes =>
    exact (List.replicate_sublist_replicate slash |>.2 (Nat.sub_le _ _)).append (.refl _)
  | tag slashes body =>
    rw [shown, written, List.append_assoc]
    refine (List.replicate_sublist_replicate slash |>.2 (Nat.div_le_self _ _)).append ?_
    split
    · exact .refl _
    · exact List.nil_sublist _

theorem shown_eq_written_iff {segment : Segment} :
    segment.shown = segment.written ↔ segment.isPlain = true := by
  constructor
  · intro h
    have hlength := congrArg List.length h
    cases segment with
    | char c => rfl
    | bracket slashes =>
      simp only [shown, written, List.length_append, List.length_replicate] at hlength
      exact decide_eq_true (by omega)
    | tag slashes body =>
      simp only [shown, written, List.length_append, List.length_replicate, List.length_cons]
        at hlength
      split at hlength
      · simp only [List.length_cons, List.length_append] at hlength
        omega
      · simp only [List.length_nil] at hlength
        omega
  · intro h
    cases segment with
    | char c => rfl
    | bracket slashes => rw [shown, written, of_decide_eq_true h]
    | tag slashes body => cases h

end Segment

section Segments

variable {chars : List Char} {segments : List Segment}

theorem shown_flatMap_sublist (segments : List Segment) :
    (segments.flatMap Segment.shown).Sublist (segments.flatMap Segment.written) :=
  .flatMap_right segments fun segment _ ↦ segment.shown_sublist

theorem shown_flatMap_eq_iff : segments.flatMap Segment.shown = segments.flatMap Segment.written ↔
    ∀ segment ∈ segments, segment.isPlain = true := by
  induction segments with
  | nil => simp
  | cons segment rest ih =>
    rw [List.flatMap_cons, List.flatMap_cons, List.forall_mem_cons, ← ih,
      ← Segment.shown_eq_written_iff]
    refine ⟨fun h ↦ ?_, fun h ↦ by rw [h.1, h.2]⟩
    have hlength := congrArg List.length h
    rw [List.length_append, List.length_append] at hlength
    have hfirst := segment.shown_sublist.length_le
    have hmore := (shown_flatMap_sublist rest).length_le
    exact List.append_inj h (by omega)

theorem isPlain_segmentsFrom_iff (slashes : Nat) (text : List Char) :
    (∀ segment ∈ segmentsFrom slashes text, segment.isPlain = true) ↔
      Literal (List.replicate slashes slash ++ text) := by
  have hslashes (n : Nat) : '[' ∉ List.replicate n slash := by
    simp only [List.mem_replicate, not_and]
    exact fun _ h ↦ absurd h (by decide)
  have hbracket : '[' ≠ slash := by decide
  fun_induction segmentsFrom slashes text with
  | case1 slashes =>
    rw [List.append_nil]
    refine iff_of_true (fun segment hmem ↦ ?_) (literal_of_notMem (hslashes slashes))
    rw [(List.mem_replicate.1 hmem).2]
    rfl
  | case2 slashes rest ih =>
    rwa [List.replicate_succ', List.append_assoc, List.singleton_append] at ih
  | case3 slashes rest body found _ ih =>
    rw [List.forall_mem_cons, literal_append_cons_iff (hslashes slashes) hbracket]
    refine iff_of_false (fun h ↦ Bool.false_ne_true h.1) fun h ↦ ?_
    exact (h.1 rfl).2 (opensTag_iff.2 ⟨body, found⟩)
  | case4 slashes rest found _ ih =>
    rw [List.forall_mem_cons, literal_append_cons_iff (hslashes slashes) hbracket]
    rw [List.replicate_zero, List.nil_append] at ih
    have hopens : ¬OpensTag rest := by
      rw [opensTag_iff, found]
      rintro ⟨_, h⟩
      cases h
    have hlast : (List.replicate slashes slash).getLast? ≠ some slash ↔ slashes = 0 := by
      rw [List.getLast?_replicate]
      split <;> simp [*]
    simp [hopens, hlast, ih]
  | case5 slashes c rest hslash hopen ih =>
    rw [literal_append_cons_iff (hslashes slashes) hslash, List.forall_mem_append,
      List.forall_mem_cons]
    rw [List.replicate_zero, List.nil_append] at ih
    simp [hopen, ih]

instance : DecidablePred Literal := fun chars ↦
  decidable_of_iff (∀ segment ∈ segmentsFrom 0 chars, segment.isPlain = true)
    (isPlain_segmentsFrom_iff 0 chars)

end Segments

section Reading

def Token.text : Token → List Char
  | shown text => text
  | _ => []

theorem text_tagToken (body : List Char) (position : Nat) : (tagToken body position).text = [] := by
  unfold tagToken
  split <;> rfl

theorem text_tokensFrom (position : Nat) (segments : List Segment) :
    (tokensFrom position segments).flatMap Token.text = segments.flatMap Segment.shown := by
  induction segments generalizing position with
  | nil => rfl
  | cons segment rest ih =>
    have ih := ih (position + segment.written.length)
    cases segment with
    | char c => rw [tokensFrom, List.flatMap_cons, List.flatMap_cons, ih]; rfl
    | bracket slashes => rw [tokensFrom, List.flatMap_cons, List.flatMap_cons, ih]; rfl
    | tag slashes body =>
      rw [tokensFrom, List.flatMap_cons, List.flatMap_cons, List.flatMap_cons, ih, Segment.shown,
        List.append_assoc]
      split
      · rfl
      · rw [text_tagToken]
        rfl

variable {text : String}

def Steady (text : String) : Prop := ∀ c ∈ text.toList, isDropped c = false

theorem steady_of_fits {width : Nat} (h : Fits width text) : Steady text :=
  fun c hc ↦ PrintableAscii.forall_of_decide (P := fun c ↦ isDropped c = false) (by decide)
    (h.printable c hc)

theorem toList_shown_tokens (h : Steady text) :
    (shown (tokens text)).toList = (segments text).flatMap Segment.shown := by
  have hshown : shown (tokens text) =
      String.ofList (((tokens text).flatMap Token.text).filter (!isDropped ·)) := rfl
  rw [hshown, String.toList_ofList, tokens, text_tokensFrom, List.filter_eq_self]
  intro c hc
  have hmem := (shown_flatMap_sublist _).subset hc
  rw [written_segments] at hmem
  rw [h c hmem]
  rfl

theorem read_sublist (h : Steady text) {other : String} (hread : read text = .ok other) :
    other.toList.Sublist text.toList := by
  obtain ⟨-, -, hshown⟩ := bind_eq_ok_iff.1 hread
  obtain rfl := Except.ok.inj hshown
  rw [toList_shown_tokens h]
  conv => rhs; rw [← written_segments text]
  exact shown_flatMap_sublist _

theorem check_of_shown {opened : List String} {tokens : List Token}
    (h : ∀ token ∈ tokens, ∃ text, token = .shown text) : check opened tokens = .ok () := by
  induction tokens with
  | nil => rfl
  | cons token rest ih =>
    obtain ⟨⟨text, rfl⟩, hrest⟩ := List.forall_mem_cons.1 h
    exact ih hrest

theorem tokensFrom_of_isPlain {segments : List Segment}
    (h : ∀ segment ∈ segments, segment.isPlain = true) (position : Nat) :
    ∀ token ∈ tokensFrom position segments, ∃ text, token = .shown text := by
  induction segments generalizing position with
  | nil => exact nofun
  | cons segment rest ih =>
    obtain ⟨hplain, hrest⟩ := List.forall_mem_cons.1 h
    cases segment with
    | char c =>
      rw [tokensFrom]
      exact List.forall_mem_cons.2 ⟨⟨_, rfl⟩, ih hrest _⟩
    | bracket slashes =>
      rw [tokensFrom]
      exact List.forall_mem_cons.2 ⟨⟨_, rfl⟩, ih hrest _⟩
    | tag slashes body => cases hplain

theorem shown_tokens_eq_iff (h : Steady text) :
    shown (tokens text) = text ↔ Literal text.toList := by
  have hplain := isPlain_segmentsFrom_iff 0 text.toList
  rw [List.replicate_zero, List.nil_append] at hplain
  rw [← hplain, ← String.toList_inj, toList_shown_tokens h]
  conv => lhs; rhs; rw [← written_segments text]
  exact shown_flatMap_eq_iff

/-- A text is shown as it stands exactly if it is literal. -/
theorem read_eq_self_iff (h : Steady text) : read text = .ok text ↔ Literal text.toList := by
  refine ⟨fun hread ↦ ?_, fun hliteral ↦ ?_⟩
  · obtain ⟨-, -, hshown⟩ := bind_eq_ok_iff.1 hread
    exact (shown_tokens_eq_iff h).1 (Except.ok.inj hshown)
  · have hplain := (isPlain_segmentsFrom_iff 0 text.toList).2 (by simpa using hliteral)
    have hcheck : check [] (tokens text) = .ok () :=
      check_of_shown (tokensFrom_of_isPlain hplain 0)
    rw [read, hcheck, ok_bind, (shown_tokens_eq_iff h).2 hliteral]
    rfl

theorem literal_of_length_le (h : Steady text) {other : String} (hread : read text = .ok other)
    (hlength : text.length ≤ other.length) : Literal text.toList := by
  have heq : other = text := by
    rw [← String.toList_inj]
    have hsublist := read_sublist h hread
    refine hsublist.eq_of_length (Nat.le_antisymm hsublist.length_le ?_)
    rwa [String.length_toList, String.length_toList]
  exact (read_eq_self_iff h).1 (heq ▸ hread)

end Reading

end Registrar.Console.Markup
