import Registrar.Proofs.JsonTokens

namespace Registrar.Json

section Order

def inOrder {α : Type} (members : List (String × α)) : List (String × α) :=
  members.mergeSort fun a b ↦ a.1 ≤ b.1

theorem inOrder_perm {α : Type} (members : List (String × α)) : (inOrder members).Perm members :=
  List.mergeSort_perm members _

theorem map_inOrder {α β : Type} (f : String × α → β) (members : List (String × α)) :
    inOrder (members.map fun member ↦ (member.1, f member)) =
      (inOrder members).map fun member ↦ (member.1, f member) := by
  unfold inOrder
  rw [List.map_mergeSort]
  exact fun a _ b _ ↦ rfl

mutual

/-- A value with the members of all its objects in the order of their names. -/
def Value.sorted : Value → Value
  | .array items => .array (sortedItems items)
  | .object members => .object (inOrder (sortedMembers members))
  | value => value

def sortedItems : List Value → List Value
  | [] => []
  | item :: rest => item.sorted :: sortedItems rest

def sortedMembers : List (String × Value) → List (String × Value)
  | [] => []
  | (name, value) :: rest => (name, value.sorted) :: sortedMembers rest

end

theorem sortedItems_eq (items : List Value) : sortedItems items = items.map Value.sorted := by
  induction items with
  | nil => rfl
  | cons item rest ih => rw [sortedItems, ih, List.map_cons]

theorem sortedMembers_eq (members : List (String × Value)) :
    sortedMembers members = members.map fun member ↦ (member.1, member.2.sorted) := by
  induction members with
  | nil => rfl
  | cons member rest ih => rw [sortedMembers, ih, List.map_cons]

theorem sorted_array (items : List Value) :
    (Value.array items).sorted = .array (items.map Value.sorted) := by
  rw [Value.sorted, sortedItems_eq]

theorem sorted_object (members : List (String × Value)) :
    (Value.object members).sorted =
      .object ((inOrder members).map fun member ↦ (member.1, member.2.sorted)) := by
  rw [Value.sorted, sortedMembers_eq, map_inOrder]

end Order

section Shape

theorem renderItems_eq (indent : String) (items : List Value) :
    renderItems indent items = items.map (renderFrom indent) := by
  induction items with
  | nil => rfl
  | cons item rest ih => rw [renderItems, ih, List.map_cons]

def memberText (indent : String) (member : String × Value) : String :=
  stringText member.1 ++ ": " ++ renderFrom indent member.2

theorem renderMembers_eq (indent : String) (members : List (String × Value)) :
    renderMembers indent members =
      members.map fun member ↦ (member.1, memberText indent member) := by
  induction members with
  | nil => rfl
  | cons member rest ih => rw [renderMembers, ih, List.map_cons, memberText]

theorem renderFrom_array (indent : String) (items : List Value) :
    renderFrom indent (.array items) =
      bracketed "[" "]" indent (items.map (renderFrom (indent ++ "  "))) := by
  rw [renderFrom, renderItems_eq]

theorem renderFrom_object (indent : String) (members : List (String × Value)) :
    renderFrom indent (.object members) =
      bracketed "\x7b" "\x7d" indent ((inOrder members).map (memberText (indent ++ "  "))) := by
  have hsorted := map_inOrder (memberText (indent ++ "  ")) members
  rw [renderFrom, renderMembers_eq]
  change bracketed _ _ _ ((inOrder _).map Prod.snd) = _
  rw [hsorted, List.map_map]
  rfl

def gap (indent : String) : List Char := '\n' :: (indent ++ "  ").toList

theorem toList_bracketed (opening closing indent : String) {items : List String} (h : items ≠ []) :
    (bracketed opening closing indent items).toList =
      opening.toList ++ (gap indent ++ ((',' :: gap indent).intercalate (items.map String.toList) ++
        ('\n' :: indent.toList ++ closing.toList))) := by
  have hsome : ¬items.isEmpty = true := by rwa [List.isEmpty_iff]
  rw [bracketed, if_neg hsome]
  simp [gap, String.toList_intercalate]

end Shape

section Containers

variable {value : Reading Value} {items : List Value} {text rest blanks : List Char}
  {closing : Char} {v : Value} {fuel : Nat}

/-- What is done behind an item: the container is closed, or a comma leads to the next item. -/
def afterItem (closing : Char) (finish : Value) (next : Reading Value) : Reading Value := do
  skipBlanks
  if ← skip closing then return finish
  unless ← skip ',' do failHere .comma 0
  skipBlanks
  next

theorem readItems_succ : readItems value items (fuel + 1) =
    value >>= fun item ↦
      afterItem ']' (.array (items ++ [item])) (readItems value (items ++ [item]) fuel) :=
  rfl

def Starts (text : List Char) : Prop :=
  ∃ c more, text = c :: more ∧ isBlank c = false ∧ c ≠ ']' ∧ c ≠ '\x7d' ∧ c ≠ '\ufeff'

theorem Starts.isBlank_head? (h : Starts text) : ∀ c ∈ text.head?, isBlank c = false := by
  obtain ⟨c, more, rfl, hc, -⟩ := h
  simpa using hc

theorem Starts.append (h : Starts text) (rest : List Char) : Starts (text ++ rest) := by
  obtain ⟨c, more, rfl, hc⟩ := h
  exact ⟨c, more ++ rest, rfl, hc⟩

theorem Starts.intercalate {sep : List Char} {texts : List (List Char)} (h : Starts text) :
    Starts (sep.intercalate (text :: texts)) := by
  cases texts with
  | nil => rwa [List.intercalate_singleton]
  | cons next texts =>
    rw [List.intercalate_cons_cons, List.append_assoc]
    exact h.append _

theorem passes_afterItem_closing (hblanks : ∀ c ∈ blanks, isBlank c = true)
    (hclosing : isBlank closing = false) (finish : Value) (next : Reading Value) :
    Passes (afterItem closing finish next) (blanks ++ closing :: rest) finish rest := by
  have hstop : ∀ c ∈ (closing :: rest).head?, isBlank c = false := by
    simpa using hclosing
  refine .bind (.skipBlanks hblanks hstop) (.bind (.skip closing rest) ?_)
  exact .pure finish rest

theorem passes_afterItem_comma (hblanks : ∀ c ∈ blanks, isBlank c = true) (hstarts : Starts text)
    (hclosing : closing ≠ ',') {finish : Value} {next : Reading Value}
    (h : Passes next text v rest) :
    Passes (afterItem closing finish next) (',' :: (blanks ++ text)) v rest := by
  have hcomma : ∀ c ∈ (',' :: (blanks ++ text)).head?, isBlank c = false := by simp [isBlank]
  have hopen : (',' :: (blanks ++ text)).head? ≠ some closing := by simpa using hclosing.symm
  refine .bind (.skipNoBlanks hcomma) (.bind (.skip_of_ne hopen) ?_)
  exact .bind (.skip ',' _) (.bind (.skipBlanks hblanks hstarts.isBlank_head?) h)

/-- An item of a container as the loop over its items reads it, with what comes behind the item. -/
structure LoopReads {α : Type} (loop : List α → Nat → Reading Value) (closing : Char)
    (finish : List α → Value) (text : List Char) (a : α) : Prop where
  starts : Starts text
  passes : ∀ before fuel v rest rest', Delimited rest →
    Passes (afterItem closing (finish (before ++ [a])) (loop (before ++ [a]) fuel)) rest v rest' →
      Passes (loop before (fuel + 1)) (text ++ rest) v rest'

theorem passes_loop {α ι : Type} {loop : List α → Nat → Reading Value} {finish : List α → Value}
    {texts : ι → List Char} {value : ι → α} {items : List ι} {last : List Char}
    (h : ∀ item ∈ items, LoopReads loop closing finish (texts item) (value item))
    (hclosing : closing ≠ ',') (hclosed : isBlank closing = false)
    (hblanks : ∀ c ∈ blanks, isBlank c = true) (hlast : ∀ c ∈ last, isBlank c = true)
    (hsome : items ≠ []) (hfuel : items.length ≤ fuel) (before : List α) (rest : List Char) :
    Passes (loop before fuel)
      ((',' :: blanks).intercalate (items.map texts) ++ '\n' :: (last ++ closing :: rest))
      (finish (before ++ items.map value)) rest := by
  induction items generalizing before fuel with
  | nil => exact absurd rfl hsome
  | cons item items ih =>
    obtain ⟨hitem, hitems⟩ := List.forall_mem_cons.1 h
    cases fuel with
    | zero => cases hfuel
    | succ fuel =>
      cases items with
      | nil =>
        have hend : ∀ c ∈ '\n' :: last, isBlank c = true := List.forall_mem_cons.2 ⟨rfl, hlast⟩
        rw [List.map_singleton, List.map_singleton, List.intercalate_singleton]
        exact hitem.passes before fuel _ _ _ (delimited_cons (by decide) _)
          (passes_afterItem_closing hend hclosed _ _)
      | cons next items =>
        have hloop := ih hitems (List.cons_ne_nil _ _) (Nat.le_of_succ_le_succ hfuel)
          (before ++ [value item])
        rw [List.append_assoc, List.singleton_append, ← List.map_cons] at hloop
        have hstarts : Starts ((',' :: blanks).intercalate ((next :: items).map texts) ++
            '\n' :: (last ++ closing :: rest)) :=
          (hitems next List.mem_cons_self).starts.intercalate.append _
        rw [List.map_cons, List.map_cons, List.intercalate_cons_cons, List.append_assoc,
          List.append_assoc, List.cons_append]
        exact hitem.passes before fuel _ _ _ (delimited_cons (by decide) _)
          (passes_afterItem_comma hblanks hstarts hclosing hloop)

theorem loopReads_item (hstarts : Starts text)
    (h : ∀ rest, Delimited rest → Passes value (text ++ rest) v rest) :
    LoopReads (readItems value) ']' .array text v := by
  refine ⟨hstarts, fun before fuel w rest rest' hrest hafter ↦ ?_⟩
  rw [readItems_succ]
  exact .bind (h rest hrest) hafter

theorem loopReads_member [Host] (name : String) (hstarts : Starts text)
    (h : ∀ rest, Delimited rest → Passes value (text ++ rest) v rest) :
    LoopReads (readMembers value) '\x7d' .object ((stringText name ++ ": ").toList ++ text)
      (name, v) := by
  have htext (rest : List Char) : (stringText name ++ ": ").toList ++ text ++ rest =
      '"' :: (name.toList.flatMap stringChar ++ '"' :: ':' :: ' ' :: (text ++ rest)) := by
    simp [stringText]
  constructor
  · exact ⟨'"', name.toList.flatMap stringChar ++ '"' :: ':' :: ' ' :: text, by
      simpa using htext [], rfl, by decide⟩
  · intro before fuel w rest rest' hrest hafter
    have hcolon : ∀ c ∈ (':' :: ' ' :: (text ++ rest)).head?, isBlank c = false := by simp [isBlank]
    have hblank : ∀ c ∈ [' '], isBlank c = true := by simp [isBlank]
    rw [htext, readMembers]
    refine .bind (.skip '"' _) (.bind (passes_readString name _) ?_)
    refine .bind (.skipNoBlanks hcolon) (.bind (.skip ':' _) ?_)
    exact .bind (.skipBlanks hblank (hstarts.append rest).isBlank_head?)
      (.bind (h rest hrest) hafter)

end Containers

section Lengths

variable {sep text : List Char} {texts : List (List Char)}

theorem length_le_intercalate (sep : List Char) (h : text ∈ texts) :
    text.length ≤ (sep.intercalate texts).length := by
  induction texts with
  | nil => cases h
  | cons first texts ih =>
    cases texts with
    | nil =>
      rw [List.mem_singleton.1 h, List.intercalate_singleton]
    | cons next texts =>
      rw [List.intercalate_cons_cons, List.length_append, List.length_append]
      rcases List.mem_cons.1 h with rfl | h
      · omega
      · have hmore := ih h
        omega

theorem count_le_intercalate (hsep : sep ≠ []) (texts : List (List Char)) :
    texts.length ≤ (sep.intercalate texts).length + 1 := by
  have hpos := List.length_pos_iff.2 hsep
  induction texts with
  | nil => exact Nat.zero_le _
  | cons first texts ih =>
    cases texts with
    | nil => simp
    | cons next texts =>
      rw [List.intercalate_cons_cons, List.length_append, List.length_append, List.length_cons]
      omega

theorem length_add_two_le_bracketed {front back : String} (hfront : front.toList.length = 1)
    (hback : back.toList.length = 1) (indent : String) {items : List String} {item : String}
    (h : item ∈ items) :
    item.toList.length + 2 ≤ (bracketed front back indent items).toList.length := by
  have hitem : item.toList ∈ items.map String.toList := List.mem_map_of_mem h
  have hle := length_le_intercalate (',' :: gap indent) hitem
  rw [toList_bracketed _ _ _ (List.ne_nil_of_mem h)]
  simp only [List.length_append, List.length_cons]
  omega

theorem length_le_bracketed (front back indent : String) (items : List String) :
    items.length ≤ (bracketed front back indent items).toList.length := by
  by_cases hitems : items = []
  · rw [hitems]
    exact Nat.zero_le _
  · have hle := count_le_intercalate (List.cons_ne_nil ',' (gap indent)) (items.map String.toList)
    rw [List.length_map] at hle
    rw [toList_bracketed _ _ _ hitems]
    simp only [List.length_append, List.length_cons]
    omega

end Lengths

section Values

variable {value : Reading Value} {text rest : List Char} {v : Value} {indent : String} {depth : Nat}

def container (closing : Char) (empty : Value) (loop : Reading Value) : Reading Value := do
  advance 1
  skipBlanks
  if ← skip closing then return empty
  loop

theorem passes_container {α ι : Type} {loop : List α → Nat → Reading Value}
    {finish : List α → Value} {texts : ι → String} {item : ι → α} {items : List ι}
    {opening closing : Char} {front back : String}
    (h : ∀ i ∈ items, LoopReads loop closing finish (texts i).toList (item i))
    (hfront : front.toList = [opening]) (hback : back.toList = [closing])
    (hclosing : closing = ']' ∨ closing = '\x7d') (hindent : ∀ c ∈ indent.toList, isBlank c = true)
    (rest : List Char) :
    Passes (container closing (finish []) (loop []
      (((bracketed front back indent (items.map texts)).toList ++ rest).length + 1)))
        ((bracketed front back indent (items.map texts)).toList ++ rest) (finish (items.map item))
        rest := by
  have hfuel : items.length ≤
      ((bracketed front back indent (items.map texts)).toList ++ rest).length + 1 := by
    have hcount := length_le_bracketed front back indent (items.map texts)
    rw [List.length_map] at hcount
    rw [List.length_append]
    omega
  generalize ((bracketed front back indent (items.map texts)).toList ++ rest).length + 1 = fuel
    at hfuel ⊢
  have hclosed : isBlank closing = false := by rcases hclosing with rfl | rfl <;> rfl
  have hcomma : closing ≠ ',' := by rcases hclosing with rfl | rfl <;> decide
  cases items with
  | nil =>
    have htext : (bracketed front back indent []).toList = [opening, closing] := by
      change (front ++ back).toList = _
      rw [String.toList_append, hfront, hback]
      rfl
    have hstop : ∀ c ∈ (closing :: rest).head?, isBlank c = false := by simpa using hclosed
    rw [List.map_nil, htext]
    refine .bind (.advance 1 _) (.bind (.skipNoBlanks hstop) (.bind (.skip closing rest) ?_))
    exact .pure (finish []) rest
  | cons i items =>
    have hgap : ∀ c ∈ gap indent, isBlank c = true := by
      rw [gap, String.toList_append]
      simpa [isBlank, or_imp, forall_and] using hindent
    have hread := passes_loop h hcomma hclosed hgap hindent (List.cons_ne_nil _ _) hfuel [] rest
    have htext : (bracketed front back indent ((i :: items).map texts)).toList ++ rest =
        opening :: (gap indent ++
          ((',' :: gap indent).intercalate ((i :: items).map fun i ↦ (texts i).toList) ++
            '\n' :: (indent.toList ++ closing :: rest))) := by
      rw [toList_bracketed _ _ _ (by simp), hfront, hback, List.map_map]
      simp [Function.comp_def]
    have hstarts : Starts ((',' :: gap indent).intercalate
        ((i :: items).map fun i ↦ (texts i).toList) ++
          '\n' :: (indent.toList ++ closing :: rest)) :=
      (h i List.mem_cons_self).starts.intercalate.append _
    rw [htext]
    generalize (',' :: gap indent).intercalate _ ++ _ = text at hread hstarts
    have hopen : text.head? ≠ some closing := by
      obtain ⟨c, more, rfl, -, hbracket, hbrace, -⟩ := hstarts
      rcases hclosing with rfl | rfl
      · simpa using hbracket
      · simpa using hbrace
    refine .bind (.advance 1 _) (.bind (.skipBlanks hgap hstarts.isBlank_head?) ?_)
    exact .bind (.skip_of_ne hopen) hread

/-- A value that can be printed so that it is read back: it holds no floating-point numbers, and no
integers of too many digits. -/
inductive Value.Exact : Value → Prop
  | null : Exact .null
  | boolean (b : Bool) : Exact (.boolean b)
  | integer {n : Int} (h : ShortInteger n) : Exact (.integer n)
  | text (s : String) : Exact (.text s)
  | array {items : List Value} (h : ∀ item ∈ items, item.Exact) : Exact (.array items)
  | object {members : List (String × Value)} (h : ∀ member ∈ members, member.2.Exact) :
      Exact (.object members)

theorem toList_bracketed_eq_cons {front : String} {opening : Char}
    (hfront : front.toList = [opening]) (back indent : String) (items : List String) :
    ∃ more, (bracketed front back indent items).toList = opening :: more := by
  unfold bracketed
  split
  · exact ⟨back.toList, by rw [String.toList_append, hfront]; rfl⟩
  · simp only [String.toList_append, hfront, List.append_assoc, List.singleton_append]
    exact ⟨_, rfl⟩

theorem starts_renderFrom (h : v.Exact) (indent : String) :
    Starts (renderFrom indent v).toList := by
  have hbracketed {c : Char} {front back : String} {items : List String}
      (hfront : front.toList = [c]) (hc : isBlank c = false ∧ c ≠ ']' ∧ c ≠ '\x7d' ∧ c ≠ '\ufeff') :
      Starts (bracketed front back indent items).toList := by
    obtain ⟨more, heq⟩ := toList_bracketed_eq_cons hfront back indent items
    exact ⟨c, more, heq, hc⟩
  cases h with
  | null => exact ⟨'n', ['u', 'l', 'l'], by rw [renderFrom]; rfl, by decide⟩
  | boolean b =>
    cases b with
    | true => exact ⟨'t', ['r', 'u', 'e'], by rw [renderFrom]; rfl, by decide⟩
    | false => exact ⟨'f', ['a', 'l', 's', 'e'], by rw [renderFrom]; rfl, by decide⟩
  | @integer n h =>
    obtain ⟨c, more, heq, hc⟩ := toList_toString_cases n
    refine ⟨c, more, by rw [renderFrom, heq], ?_⟩
    rcases hc with hc | ⟨rfl, -⟩
    · exact ⟨isBlank_of_isDigit hc, ne_of_isDigit hc rfl, ne_of_isDigit hc rfl,
        ne_of_isDigit hc rfl⟩
    · decide
  | text s =>
    refine ⟨'"', s.toList.flatMap stringChar ++ ['"'], ?_, by decide⟩
    rw [renderFrom, stringText, String.toList_ofList]
    rfl
  | array h =>
    rw [renderFrom_array]
    exact hbracketed rfl (by decide)
  | object h =>
    rw [renderFrom_object]
    exact hbracketed rfl (by decide)

theorem word?_toString (n : Int) (rest : List Char) :
    word? ((toString n).toList ++ rest) = none := by
  have hfirst {first c : Char} {more rest : List Char} (h : c ≠ first) :
      ¬(first :: more).isPrefixOf (c :: rest) = true := by simp [h.symm]
  have hsecond {second d : Char} {more rest : List Char} (h : d ≠ second) :
      ¬('-' :: second :: more).isPrefixOf ('-' :: d :: rest) = true := by simp [h.symm]
  obtain ⟨c, more, heq, hc⟩ := toList_toString_cases n
  rw [heq, word?, List.find?_eq_none]
  simp only [wordValues, List.forall_mem_cons, List.not_mem_nil, false_imp_iff, implies_true,
    and_true]
  rcases hc with hc | ⟨rfl, d, digits, rfl, hd⟩
  · exact ⟨hfirst (ne_of_isDigit hc rfl), hfirst (ne_of_isDigit hc rfl),
      hfirst (ne_of_isDigit hc rfl), hfirst (ne_of_isDigit hc rfl), hfirst (ne_of_isDigit hc rfl),
      hfirst (ne_of_isDigit hc rfl)⟩
  · exact ⟨hfirst (by decide), hfirst (by decide), hfirst (by decide), hfirst (by decide),
      hfirst (by decide), hsecond (ne_of_isDigit hd rfl)⟩

variable [Host]

theorem passes_readValue_integer {n : Int} (hn : ShortInteger n) (hrest : Delimited rest) :
    Passes (readValue (depth + 1)) ((toString n).toList ++ rest) (.integer n) rest := by
  have hnumber := passes_readNumber hn hrest
  have hword := word?_toString n rest
  have hfirst : ∃ c more, (toString n).toList ++ rest = c :: more ∧
      c ≠ '"' ∧ c ≠ '[' ∧ c ≠ '\x7b' := by
    obtain ⟨c, more, heq, hc⟩ := toList_toString_cases n
    refine ⟨c, more ++ rest, by rw [heq, List.cons_append], ?_⟩
    rcases hc with hc | ⟨rfl, -⟩
    · exact ⟨ne_of_isDigit hc rfl, ne_of_isDigit hc rfl, ne_of_isDigit hc rfl⟩
    · decide
  obtain ⟨c, more, heq, hquote, hbracket, hbrace⟩ := hfirst
  rw [heq] at hnumber hword ⊢
  refine .get_bind fun position ↦ ?_
  dsimp only
  split
  · rename_i h
    cases h
  · rename_i h
    exact absurd (List.cons.inj h).1 hquote
  · rename_i h
    exact absurd (List.cons.inj h).1 hbracket
  · rename_i h
    exact absurd (List.cons.inj h).1 hbrace
  · rw [hword]
    exact hnumber

theorem passes_readValue_text (s : String) (rest : List Char) :
    Passes (readValue (depth + 1)) ((stringText s).toList ++ rest) (.text s) rest := by
  have htext : (stringText s).toList ++ rest =
      '"' :: (s.toList.flatMap stringChar ++ '"' :: rest) := by simp [stringText]
  rw [htext]
  refine .get_bind fun position ↦ ?_
  exact .bind (.advance 1 _) (.bind (passes_readString s rest) (.pure _ rest))

theorem passes_readValue_array {ι : Type} {texts : ι → String} {item : ι → Value} {items : List ι}
    (h : ∀ i ∈ items, LoopReads (readItems (readValue depth)) ']' .array (texts i).toList (item i))
    (hindent : ∀ c ∈ indent.toList, isBlank c = true) (rest : List Char) :
    Passes (readValue (depth + 1))
      ((bracketed "[" "]" indent (items.map texts)).toList ++ rest) (.array (items.map item))
      rest := by
  have hfront : "[".toList = ['['] := rfl
  have hback : "]".toList = [']'] := rfl
  have hread := passes_container h hfront hback (.inl rfl) hindent rest
  obtain ⟨more, heq⟩ := toList_bracketed_eq_cons hfront "]" indent (items.map texts)
  rw [heq, List.cons_append] at hread ⊢
  exact .get_bind fun _ ↦ hread

theorem passes_readValue_object {ι : Type} {texts : ι → String} {member : ι → String × Value}
    {items : List ι}
    (h : ∀ i ∈ items, LoopReads (readMembers (readValue depth)) '\x7d' .object (texts i).toList
      (member i))
    (hindent : ∀ c ∈ indent.toList, isBlank c = true) (rest : List Char) :
    Passes (readValue (depth + 1))
      ((bracketed "\x7b" "\x7d" indent (items.map texts)).toList ++ rest)
      (.object (items.map member)) rest := by
  have hfront : "\x7b".toList = ['\x7b'] := rfl
  have hback : "\x7d".toList = ['\x7d'] := rfl
  have hread := passes_container h hfront hback (.inr rfl) hindent rest
  obtain ⟨more, heq⟩ := toList_bracketed_eq_cons hfront "\x7d" indent (items.map texts)
  rw [heq, List.cons_append] at hread ⊢
  exact .get_bind fun _ ↦ hread

theorem passes_readValue (hv : v.Exact) (hindent : ∀ c ∈ indent.toList, isBlank c = true)
    (hdepth : (renderFrom indent v).toList.length ≤ depth) (hrest : Delimited rest) :
    Passes (readValue (depth + 1)) ((renderFrom indent v).toList ++ rest) v.sorted rest := by
  have hdeeper (indent : String) (h : ∀ c ∈ indent.toList, isBlank c = true) :
      ∀ c ∈ (indent ++ "  ").toList, isBlank c = true := by
    rw [String.toList_append]
    simpa [isBlank, or_imp, forall_and] using h
  -- The brackets make a container longer than what it holds, so the depth suffices for its items.
  induction hv generalizing indent depth rest with
  | null =>
    rw [renderFrom]
    exact .get_bind fun _ ↦ .bind (.advance 4 _) (.pure _ rest)
  | boolean b =>
    rw [renderFrom]
    cases b with
    | true => exact .get_bind fun _ ↦ .bind (.advance 4 _) (.pure _ rest)
    | false => exact .get_bind fun _ ↦ .bind (.advance 5 _) (.pure _ rest)
  | integer h =>
    rw [renderFrom]
    exact passes_readValue_integer h hrest
  | text s =>
    rw [renderFrom]
    exact passes_readValue_text s rest
  | @array items h ih =>
    rw [renderFrom_array] at hdepth ⊢
    rw [sorted_array]
    have hitem (item : Value) (hmem : item ∈ items) : LoopReads (readItems (readValue depth)) ']'
        .array (renderFrom (indent ++ "  ") item).toList item.sorted := by
      have hprinted : renderFrom (indent ++ "  ") item ∈ items.map (renderFrom (indent ++ "  ")) :=
        List.mem_map_of_mem hmem
      have hlength := length_add_two_le_bracketed (by rfl : "[".toList.length = 1)
        (by rfl : "]".toList.length = 1) indent hprinted
      obtain ⟨depth, rfl⟩ : ∃ n, depth = n + 1 := ⟨depth - 1, by omega⟩
      exact loopReads_item (starts_renderFrom (h item hmem) _) fun rest hrest ↦
        ih item hmem (hdeeper indent hindent) (by omega) hrest
    exact passes_readValue_array hitem hindent rest
  | @object members h ih =>
    rw [renderFrom_object] at hdepth ⊢
    rw [sorted_object]
    have hmember (member : String × Value) (hmem : member ∈ inOrder members) :
        LoopReads (readMembers (readValue depth)) '\x7d' .object
          (memberText (indent ++ "  ") member).toList (member.1, member.2.sorted) := by
      have hprinted : memberText (indent ++ "  ") member ∈
          (inOrder members).map (memberText (indent ++ "  ")) := List.mem_map_of_mem hmem
      have hlength := length_add_two_le_bracketed (by rfl : "\x7b".toList.length = 1)
        (by rfl : "\x7d".toList.length = 1) indent hprinted
      have hmem : member ∈ members := (inOrder_perm members).mem_iff.1 hmem
      rw [memberText, String.toList_append] at hlength ⊢
      rw [List.length_append] at hlength
      obtain ⟨depth, rfl⟩ : ∃ n, depth = n + 1 := ⟨depth - 1, by omega⟩
      exact loopReads_member member.1 (starts_renderFrom (h member hmem) _) fun rest hrest ↦
        ih member hmem (hdeeper indent hindent) (by omega) hrest
    exact passes_readValue_object hmember hindent rest

theorem passes_readWholeText (hv : v.Exact) {blanks : List Char}
    (hblanks : ∀ c ∈ blanks, isBlank c = true) :
    Passes readWholeText ((render v).toList ++ blanks) v.sorted [] := by
  have hdelimited : Delimited blanks := by
    intro c hc
    have hblank := hblanks c (List.mem_of_mem_head? hc)
    simp only [isBlank, Bool.or_eq_true, decide_eq_true_eq] at hblank
    rcases hblank with ((rfl | rfl) | rfl) | rfl <;> decide
  have hvalue : Passes (readValue (((render v).toList ++ blanks).length + 1))
      ((render v).toList ++ blanks) v.sorted blanks := by
    refine passes_readValue hv (by simp) ?_ hdelimited
    rw [List.length_append]
    exact Nat.le_add_right _ _
  have hstarts : Starts ((render v).toList ++ blanks) := (starts_renderFrom hv "").append blanks
  have hfirst : ¬((render v).toList ++ blanks).head? = some '\ufeff' := by
    obtain ⟨c, more, heq, -, -, -, hmark⟩ := hstarts
    rw [heq]
    simpa using hmark
  have hend : Passes skipBlanks (blanks ++ []) () [] := .skipBlanks hblanks (by simp)
  rw [List.append_nil] at hend
  refine .get_bind fun position ↦ ?_
  dsimp only
  rw [if_neg hfirst]
  refine .bind (.skipNoBlanks hstarts.isBlank_head?) (.bind hvalue (.bind hend ?_))
  exact .get_bind fun _ ↦ .pure _ []

/-- What is printed is read back, with blanks behind it or not. -/
theorem read_render (hv : v.Exact) {back : String} (hback : ∀ c ∈ back.toList, isBlank c = true) :
    read (render v ++ back) = .ok v.sorted := by
  obtain ⟨position, hread⟩ := passes_readWholeText hv hback 0
  rw [read, String.toList_append, hread]

end Values

end Registrar.Json
