import Registrar.Proofs.Locations

namespace Registrar

namespace Location

open Text

def Slashes (chars : List Char) : Prop := ∀ c ∈ chars, c = '/'

structure IsName (chars : List Char) : Prop where
  ne_nil : chars ≠ []
  noSlash : '/' ∉ chars

section Slashes

variable {chars front back name tail : List Char}

theorem Slashes.append (hfront : Slashes front) (hback : Slashes back) :
    Slashes (front ++ back) := by
  intro c hc
  rcases List.mem_append.1 hc with h | h
  · exact hfront c h
  · exact hback c h

theorem Slashes.of_suffix (h : Slashes chars) (hback : back <:+ chars) : Slashes back :=
  fun c hc ↦ h c (hback.subset hc)

theorem Slashes.of_suffix_name (htail : Slashes tail) (hname : '/' ∉ name)
    (hback : back <:+ name ++ tail) (hstart : ∀ c ∈ back.head?, c = '/') : Slashes back := by
  obtain ⟨front, happend⟩ := hback
  rcases List.append_eq_append_iff.1 happend with ⟨more, rfl, rfl⟩ | ⟨more, rfl, rfl⟩
  · cases more with
    | nil => exact htail
    | cons c more =>
      obtain rfl := hstart c rfl
      exact absurd (List.mem_append_right front List.mem_cons_self) hname
  · exact htail.of_suffix (List.suffix_append more back)

theorem Slashes.getLast?_append (htail : Slashes tail) (hne : tail ≠ []) (front : List Char) :
    (front ++ tail).getLast? = some '/' := by
  rw [List.getLast?_append_of_ne_nil _ hne, List.getLast?_eq_some_getLast hne,
    htail _ (List.getLast_mem hne)]

theorem dropWhileRight_slashes (h : Slashes chars) : dropWhileRight (· = '/') chars = [] :=
  dropWhileRight_eq_nil_iff.2 fun c hc ↦ decide_eq_true (h c hc)

theorem dropWhileRight_append_slashes (hfront : front.getLast? ≠ some '/') (htail : Slashes tail) :
    dropWhileRight (· = '/') (front ++ tail) = front := by
  rw [Text.dropWhileRight_append, if_pos (dropWhileRight_slashes htail)]
  refine dropWhileRight_eq_self_iff.2 fun hne ↦ ?_
  rw [List.getLast?_eq_some_getLast hne] at hfront
  simpa using hfront

theorem IsName.dropWhileRight_append (hname : IsName name) (htail : Slashes tail)
    (front : List Char) : dropWhileRight (· = '/') (front ++ name ++ tail) = front ++ name := by
  refine dropWhileRight_append_slashes (fun hlast ↦ hname.noSlash ?_) htail
  rw [List.getLast?_append_of_ne_nil _ hname.ne_nil] at hlast
  exact List.mem_of_getLast? hlast

theorem IsName.dropWhile_append (hname : IsName name) (htail : Slashes tail) :
    (name ++ tail).dropWhile (· ≠ '/') = tail := by
  have hletters : ∀ c ∈ name, decide (c ≠ '/') = true := fun c hc ↦
    decide_eq_true fun heq ↦ hname.noSlash (heq ▸ hc)
  rw [List.dropWhile_append_of_pos hletters]
  cases tail with
  | nil => rfl
  | cons c tail => simp [htail c List.mem_cons_self]

end Slashes

/-- How a path ends: with slashes, and in front of them with a name in a directory or with what
stands in none. -/
inductive Ending : List Char → Prop
  | outside {name tail : List Char} (hname : '/' ∉ name) (htail : Slashes tail) :
      Ending (name ++ tail)
  | inside {front name tail : List Char} (hfront : front.getLast? = some '/')
      (hname : IsName name) (htail : Slashes tail) : Ending (front ++ name ++ tail)

theorem ending (path : List Char) : Ending path := by
  obtain ⟨tail, hdropped, hpath⟩ := exists_dropped (· = '/') path
  have htail : Slashes tail := fun c hc ↦ of_decide_eq_true (hdropped c hc)
  have hend : ∀ c ∈ (dropWhileRight (· = '/') path).getLast?, c ≠ '/' := fun c hc ↦
    of_decide_eq_false (getLast?_dropWhileRight hc)
  generalize dropWhileRight (· = '/') path = core at hpath hend
  obtain ⟨name, hletters, hcore⟩ := exists_dropped (· ≠ '/') core
  have hname : '/' ∉ name := fun hmem ↦ of_decide_eq_true (hletters '/' hmem) rfl
  have hstop : ∀ c ∈ (dropWhileRight (· ≠ '/') core).getLast?, c = '/' := fun c hc ↦ by
    simpa using getLast?_dropWhileRight hc
  generalize dropWhileRight (· ≠ '/') core = front at hcore hstop
  rw [hpath, hcore]
  cases hlast : front.getLast? with
  | none =>
    rw [List.getLast?_eq_none_iff.1 hlast]
    exact .outside hname htail
  | some c =>
    have hslash : front.getLast? = some '/' := hstop c hlast ▸ hlast
    refine .inside hslash ⟨?_, hname⟩ htail
    rintro rfl
    rw [List.append_nil] at hcore
    exact hend '/' (hcore ▸ hslash) rfl

section Parents

variable {front name tail : List Char}

theorem directory_nil : directory [] = [] := rfl

theorem directory_append_name (front : List Char) (hname : '/' ∉ name) :
    directory (front ++ name) = directory front := by
  have hdropped : dropWhileRight (· ≠ '/') name = [] :=
    dropWhileRight_eq_nil_iff.2 fun c hc ↦ decide_eq_true fun heq ↦ hname (heq ▸ hc)
  unfold directory
  rw [Text.dropWhileRight_append, if_pos hdropped]

theorem directory_of_getLast? (hfront : front.getLast? = some '/') :
    directory front = if front.all (· = '/') then front else dropWhileRight (· = '/') front := by
  have hself : dropWhileRight (· ≠ '/') front = front := by
    refine dropWhileRight_eq_self_iff.2 fun hne ↦ ?_
    rw [List.getLast?_eq_some_getLast hne] at hfront
    simp [Option.some.inj hfront]
  unfold directory
  rw [hself]

def sign : List Char := [':', '/', '/']

theorem splitRoot_of_sign {location rest : List Char}
    (h : location.dropWhile isSchemePart = sign ++ rest) :
    splitRoot location =
      if (location.takeWhile isSchemePart).head?.any (·.isAlpha) then
        (location.takeWhile isSchemePart ++ sign ++ rest.takeWhile (· ≠ '/'),
          rest.dropWhile (· ≠ '/'))
      else ([], location) := by
  have hsign (chars : List Char) : sign ++ chars = ':' :: '/' :: '/' :: chars := rfl
  unfold splitRoot
  simp only [drop_length_takeWhile, h, hsign, List.append_assoc]

theorem splitRoot_of_noSign {location : List Char}
    (h : ¬sign <+: location.dropWhile isSchemePart) : splitRoot location = ([], location) := by
  unfold splitRoot
  simp only [drop_length_takeWhile]
  split
  · rename_i rest hrest
    exact absurd ⟨rest, hrest.symm⟩ h
  · rfl

theorem sign_prefix_of_append {more : List Char} (hfront : front.getLast? = some '/')
    (hmore : more.head? ≠ some '/') (h : sign <+: front ++ more) : sign <+: front := by
  match front, hfront with
  | [c], hfront =>
    obtain rfl := Option.some.inj hfront
    cases (List.cons_prefix_cons.1 h).1
  | [c, d], hfront =>
    obtain ⟨rest, rfl⟩ := (List.cons_prefix_cons.1 (List.cons_prefix_cons.1 h).2).2
    exact absurd rfl hmore
  | c :: d :: e :: rest, hfront =>
    exact List.prefix_of_prefix_length_le h (List.prefix_append _ _) (by simp [sign])

theorem splitRoot_inside (hfront : front.getLast? = some '/') (hname : IsName name)
    (htail : Slashes tail) :
    ((splitRoot front).2 = [] ∧ (splitRoot (front ++ name ++ tail)).2 = tail) ∨
      ((splitRoot front).2.getLast? = some '/' ∧ splitRoot (front ++ name ++ tail) =
        ((splitRoot front).1, (splitRoot front).2 ++ name ++ tail)) := by
  have hmore : (name ++ tail).head? ≠ some '/' := by
    rw [List.head?_append_of_ne_nil _ hname.ne_nil]
    exact fun h ↦ hname.noSlash (List.mem_of_head? h)
  obtain ⟨htake, hdrop⟩ := takeWhile_append_of_stop isSchemePart
    (List.mem_of_getLast? hfront) rfl (name ++ tail)
  have hlast : (front.dropWhile isSchemePart).getLast? = some '/' := getLast?_dropWhile hfront rfl
  rw [List.append_assoc, List.append_assoc]
  by_cases hsign : sign <+: front.dropWhile isSchemePart
  · obtain ⟨rest, hrest⟩ := hsign
    have hsplit := splitRoot_of_sign hrest.symm
    have hsplit' : splitRoot (front ++ (name ++ tail)) = _ := splitRoot_of_sign (by
      rw [hdrop, ← hrest, List.append_assoc])
    rw [htake] at hsplit'
    rw [hsplit, hsplit']
    split
    · by_cases hnil : rest = []
      · rw [hnil, List.nil_append]
        exact .inl ⟨rfl, hname.dropWhile_append htail⟩
      · rw [← hrest, List.getLast?_append_of_ne_nil _ hnil] at hlast
        obtain ⟨htake', hdrop'⟩ := takeWhile_append_of_stop (· ≠ '/')
          (List.mem_of_getLast? hlast) rfl (name ++ tail)
        rw [htake', hdrop']
        exact .inr ⟨getLast?_dropWhile hlast rfl, rfl⟩
    · exact .inr ⟨hfront, rfl⟩
  · rw [splitRoot_of_noSign hsign, splitRoot_of_noSign fun h ↦ ?_]
    · exact .inr ⟨hfront, rfl⟩
    · rw [hdrop] at h
      exact hsign (sign_prefix_of_append hlast hmore h)

def above (front : List Char) : Option String :=
  let (root, rest) := splitRoot front
  let parent := directory rest
  if parent = [] ∨ parent.getLast? = some ':' then none
  else if root = [] then some (String.ofList parent)
  else some (String.ofList (root ++ dropWhileRight (· = '/') parent))

theorem parent?_inside (hfront : front.getLast? = some '/') (hname : IsName name)
    (htail : Slashes tail) : parent? (String.ofList (front ++ name ++ tail)) = above front := by
  unfold parent? above
  rw [String.toList_ofList]
  dsimp only
  rcases splitRoot_inside hfront hname htail with ⟨hnil, htail'⟩ | ⟨hrest, hsplit⟩
  · rw [hnil, htail', dropWhileRight_slashes htail, directory_nil]
    rfl
  · have hne : directory (splitRoot front).2 ≠ (splitRoot front).2 ++ name := by
      intro heq
      have hlength := (prefix_directory (splitRoot front).2).length_le
      rw [heq, List.length_append] at hlength
      have hpos := List.length_pos_iff.2 hname.ne_nil
      omega
    rw [hsplit, hname.dropWhileRight_append htail, directory_append_name _ hname.noSlash]
    simp only [hne, false_or]

theorem parent?_outside (hname : '/' ∉ name) (htail : Slashes tail) :
    parent? (String.ofList (name ++ tail)) = none := by
  have hparent : directory (dropWhileRight (· = '/') (splitRoot (name ++ tail)).2) = [] := by
    rcases splitRoot_cases (name ++ tail) with hsplit | ⟨uri, huri, hsplit⟩
    · have hcore : '/' ∉ dropWhileRight (· = '/') name := fun hmem ↦
        hname ((prefix_dropWhileRight _ name).subset hmem)
      rw [hsplit, Text.dropWhileRight_append, if_pos (dropWhileRight_slashes htail),
        ← List.nil_append (dropWhileRight _ name), directory_append_name [] hcore, directory_nil]
    · have hrest : uri.rest <:+ name ++ tail := ⟨uri.root, huri.symm⟩
      rw [hsplit, dropWhileRight_slashes (htail.of_suffix_name hname hrest uri.isRest),
        directory_nil]
  unfold parent?
  rw [String.toList_ofList]
  simp only [hparent, true_or, if_true]

theorem exists_slashes (hfront : front.getLast? = some '/') :
    ∃ slashes, slashes ≠ [] ∧ Slashes slashes ∧
      front = dropWhileRight (· = '/') front ++ slashes := by
  obtain ⟨slashes, hdropped, happend⟩ := exists_dropped (· = '/') front
  refine ⟨slashes, ?_, fun c hc ↦ of_decide_eq_true (hdropped c hc), happend⟩
  rintro rfl
  rw [List.append_nil] at happend
  exact of_decide_eq_false (getLast?_dropWhileRight (happend ▸ hfront)) rfl

theorem dropWhileRight_directory (hfront : front.getLast? = some '/') :
    dropWhileRight (· = '/') (directory front) = dropWhileRight (· = '/') front := by
  rw [directory_of_getLast? hfront]
  split
  · rfl
  · exact List.rdropWhile_idempotent _ front

theorem above_eq_some (hfront : front.getLast? = some '/') {parent : String}
    (h : above front = some parent) :
    ∃ slashes, Slashes slashes ∧ front = parent.toList ++ slashes ∧
      (slashes = [] → parent ≠ "" ∧ Slashes parent.toList) := by
  have happend := splitRoot_append front
  unfold above at h
  dsimp only at h
  generalize (splitRoot front).1 = root at h happend
  generalize (splitRoot front).2 = rest at h happend
  split at h
  · cases h
  · rename_i hparent
    rw [not_or] at hparent
    have hrest : rest.getLast? = some '/' := by
      rw [← hfront, ← happend, List.getLast?_append_of_ne_nil]
      rintro rfl
      exact hparent.1 directory_nil
    obtain ⟨slashes, hne, hslashes, hcut⟩ := exists_slashes hrest
    by_cases hroot : root = [] ∧ rest.all (· = '/') = true
    · obtain ⟨rfl, hall⟩ := hroot
      rw [if_pos rfl, directory_of_getLast? hrest, if_pos hall] at h
      obtain rfl := Option.some.inj h
      refine ⟨[], nofun, by simpa using happend.symm, fun _ ↦ ⟨?_, ?_⟩⟩
      · rintro hempty
        rw [String.ofList_eq_empty_iff.1 hempty] at hrest
        cases hrest
      · rw [String.toList_ofList]
        exact fun c hc ↦ of_decide_eq_true (List.all_eq_true.1 hall c hc)
    · have hloc : parent.toList = root ++ dropWhileRight (· = '/') rest := by
        split at h
        · rename_i hnil
          have hall : ¬rest.all (· = '/') = true := fun hall ↦ hroot ⟨hnil, hall⟩
          rw [directory_of_getLast? hrest, if_neg hall] at h
          rw [← Option.some.inj h, String.toList_ofList, hnil, List.nil_append]
        · rw [← Option.some.inj h, String.toList_ofList, dropWhileRight_directory hrest]
      refine ⟨slashes, hslashes, ?_, fun hnil ↦ absurd hnil hne⟩
      rw [hloc, List.append_assoc, ← hcut, happend]

end Parents

end Location

end Registrar
