import Registrar.Proofs.ParentDirectories

namespace Registrar

namespace Location

open Text

variable {path : String} {root rest around before name after : List Char}

/-- What is set aside in front of a path: the root if it is a URI, and else nothing. -/
inductive HasRoot : String → List Char → Prop
  | uri (uri : Uri) : HasRoot uri.text uri.root
  | none {path : String} (h : ∀ uri : Uri, uri.text ≠ path) : HasRoot path []

theorem hasRoot_iff : HasRoot path root ↔ (splitRoot path.toList).1 = root := by
  constructor
  · rintro (uri | h)
    · rw [uri.toList_text, ← Uri.chars, splitRoot_chars]
    · rcases splitRoot_cases path.toList with hsplit | ⟨uri, huri, -⟩
      · rw [hsplit]
      · refine absurd ?_ (h uri)
        rw [Uri.text, ← huri, String.ofList_toList]
  · rintro rfl
    rcases splitRoot_cases path.toList with hsplit | ⟨uri, huri, hsplit⟩
    · rw [hsplit]
      refine .none fun uri huri ↦ uri.root_ne_nil ?_
      rw [← huri, uri.toList_text, ← Uri.chars, splitRoot_chars] at hsplit
      exact congrArg Prod.fst hsplit
    · rw [hsplit]
      convert HasRoot.uri uri
      rw [Uri.text, ← huri, String.ofList_toList]

theorem HasRoot.splitRoot_eq (h : HasRoot path root) (hpath : path.toList = root ++ rest) :
    splitRoot path.toList = (root, rest) := by
  have hroot := hasRoot_iff.1 h
  have happend := splitRoot_append path.toList
  rw [hroot, hpath] at happend
  rw [hpath] at hroot ⊢
  exact Prod.ext hroot (List.append_cancel_left happend)

/-- How the path of something in a directory is written. The directory at the top has no characters
of its own. -/
structure StandsIn (path : String) (root around before name after : List Char) : Prop where
  path_eq : path.toList = root ++ (around ++ before ++ name ++ after)
  hasRoot : HasRoot path root
  around_getLast? : around.getLast? ≠ some '/'
  before_ne_nil : before ≠ []
  slashesBefore : Slashes before
  isName : IsName name
  slashesAfter : Slashes after

theorem directory_append_slashes (haround : around.getLast? ≠ some '/')
    (hbefore : Slashes before) (hne : before ≠ []) :
    directory (around ++ before) = if around = [] then before else around := by
  rw [directory_of_getLast? (hbefore.getLast?_append hne around),
    dropWhileRight_append_slashes haround hbefore]
  by_cases hnil : around = []
  · have hall : (around ++ before).all (· = '/') = true := by
      rw [hnil, List.nil_append, List.all_eq_true]
      exact fun c hc ↦ decide_eq_true (hbefore c hc)
    rw [if_pos hall, if_pos hnil, hnil, List.nil_append]
  · have hall : ¬(around ++ before).all (· = '/') = true := by
      rw [List.all_eq_true]
      intro hall
      rw [List.getLast?_eq_some_getLast hnil] at haround
      have hlast := hall _ (List.mem_append_left before (List.getLast_mem hnil))
      exact haround (congrArg some (of_decide_eq_true hlast))
    rw [if_neg hall, if_neg hnil]

theorem StandsIn.getLast?_directory (h : StandsIn path root around before name after) :
    (root ++ (around ++ before)).getLast? = some '/' := by
  rw [← List.append_assoc]
  exact h.slashesBefore.getLast?_append h.before_ne_nil _

theorem StandsIn.path_eq_directory (h : StandsIn path root around before name after) :
    path.toList = root ++ (around ++ before) ++ name ++ after := by
  simp only [h.path_eq, List.append_assoc]

theorem StandsIn.splitRoot_directory (h : StandsIn path root around before name after) :
    splitRoot (root ++ (around ++ before)) = (root, around ++ before) := by
  have hsplit := h.hasRoot.splitRoot_eq h.path_eq
  rw [h.path_eq_directory] at hsplit
  rcases splitRoot_inside h.getLast?_directory h.isName h.slashesAfter with
    ⟨-, hrest⟩ | ⟨-, hrest⟩
  · -- The name would be the authority, but there are slashes between the root and the name.
    rw [hsplit] at hrest
    have hlength := congrArg List.length hrest
    have hpos := List.length_pos_iff.2 h.before_ne_nil
    simp only [List.length_append] at hlength
    omega
  · rw [hsplit] at hrest
    obtain ⟨hroot, hrest⟩ := Prod.mk.inj hrest
    have hcut := List.append_cancel_right (List.append_cancel_right hrest)
    exact Prod.ext hroot.symm hcut.symm

theorem StandsIn.above_eq (h : StandsIn path root around before name after) :
    above (root ++ (around ++ before)) = if around.getLast? = some ':' then none
      else some (String.ofList (root ++ if root ++ around = [] then before else around)) := by
  have hlast := h.slashesBefore.getLast?_append h.before_ne_nil []
  unfold above
  rw [h.splitRoot_directory]
  dsimp only
  rw [directory_append_slashes h.around_getLast? h.slashesBefore h.before_ne_nil]
  by_cases hnil : around = []
  · subst hnil
    rw [List.nil_append] at hlast
    by_cases hroot : root = []
    · simp [hroot, hlast, h.before_ne_nil]
    · simp [hroot, hlast, h.before_ne_nil, dropWhileRight_slashes h.slashesBefore]
  · have hself : dropWhileRight (· = '/') around = around := by
      simpa using dropWhileRight_append_slashes h.around_getLast? (List.forall_mem_nil _)
    by_cases hroot : root = []
    · simp [hnil, hroot]
    · simp [hnil, hroot, hself]

theorem StandsIn.tableOf_eq (h : StandsIn path root around before name after) :
    tableOf path = if around.getLast? = some ':' then .error (.noParent path)
      else .ok (String.ofList (root ++ if root ++ around = [] then before else around)) := by
  have hparent : parent? path = above (root ++ (around ++ before)) := by
    rw [← parent?_inside h.getLast?_directory h.isName h.slashesAfter, ← h.path_eq_directory,
      String.ofList_toList]
  rw [h.above_eq] at hparent
  split at hparent
  · rename_i hcolon
    rw [if_pos hcolon, tableOf_of_none hparent]
  · rename_i hcolon
    rw [if_neg hcolon, tableOf_of_some hparent]

theorem exists_standsIn (hroot : HasRoot path root) (hpath : path.toList = root ++ rest)
    (habsolute : (dropWhileRight (· = '/') rest).head? = some '/') :
    ∃ around before name after, StandsIn path root around before name after := by
  have hsplit := hroot.splitRoot_eq hpath
  have hslashes : ¬Slashes rest := by
    intro hslashes
    rw [dropWhileRight_slashes hslashes] at habsolute
    cases habsolute
  have hhead : rest.head? = some '/' := by
    obtain ⟨more, hmore⟩ := prefix_dropWhileRight (· = '/') rest
    rw [← hmore, List.head?_append, habsolute, Option.some_or]
  generalize hchars : path.toList = chars at hpath hsplit
  cases ending chars with
  | @outside name tail hname htail =>
    refine absurd (htail.of_suffix_name hname ⟨root, hpath.symm⟩ fun c hc ↦ ?_) hslashes
    exact (Option.some.inj (hhead.symm.trans hc)).symm
  | @inside front name tail hfront hname htail =>
    rcases splitRoot_inside hfront hname htail with ⟨-, hrest⟩ | ⟨hlast, hrest⟩
    · rw [hsplit] at hrest
      obtain rfl : rest = tail := hrest
      exact absurd htail hslashes
    · rw [hsplit] at hrest
      obtain ⟨-, rfl⟩ := Prod.mk.inj hrest
      obtain ⟨before, hne, hbefore, hcut⟩ := exists_slashes hlast
      refine ⟨dropWhileRight (· = '/') (splitRoot front).2, before, name, tail, ?_⟩
      refine ⟨?_, hroot, ?_, hne, hbefore, hname, htail⟩
      · rw [hchars, hpath, ← hcut]
      · exact fun h ↦ of_decide_eq_false (getLast?_dropWhileRight h) rfl

/-- A path that is absolute, once the root of a URI and the slashes at its end are set aside, stands
in a directory, and its table is at that directory exactly if the directory has no colon at its end.
-/
theorem tableOf_absolute (hroot : HasRoot path root) (hpath : path.toList = root ++ rest)
    (habsolute : (dropWhileRight (· = '/') rest).head? = some '/') :
    ∃ around before name after, StandsIn path root around before name after ∧
      tableOf path = if around.getLast? = some ':' then .error (.noParent path)
        else .ok (String.ofList (root ++ if root ++ around = [] then before else around)) := by
  obtain ⟨around, before, name, after, h⟩ := exists_standsIn hroot hpath habsolute
  exact ⟨around, before, name, after, h, h.tableOf_eq⟩

theorem tableOf_absolute_colonInside :
    HasRoot "s3://b/t:x//\ny/" "s3://b".toList ∧
      (dropWhileRight (· = '/') "/t:x//\ny/".toList).head? = some '/' ∧
        (∃ around before name after,
          StandsIn "s3://b/t:x//\ny/" "s3://b".toList around before name after ∧
            around.getLast? ≠ some ':') ∧
          tableOf "s3://b/t:x//\ny/" = .ok "s3://b/t:x" := by
  have hroot : HasRoot "s3://b/t:x//\ny/" "s3://b".toList := hasRoot_iff.2 (by decide)
  have habsolute : (dropWhileRight (· = '/') "/t:x//\ny/".toList).head? = some '/' := by decide
  have hrun : tableOf "s3://b/t:x//\ny/" = .ok "s3://b/t:x" :=
    tableOf_of_some (by decide +kernel)
  obtain ⟨around, before, name, after, h, htable⟩ := tableOf_absolute hroot rfl habsolute
  refine ⟨hroot, habsolute, ⟨around, before, name, after, h, fun hcolon ↦ ?_⟩, hrun⟩
  rw [if_pos hcolon, hrun] at htable
  cases htable

/-- A colon at the end of the name of a directory hides the directory. -/
theorem tableOf_colonDirectory :
    HasRoot "/data:/x" [] ∧ (dropWhileRight (· = '/') "/data:/x".toList).head? = some '/' ∧
      tableOf "/data:/x" = .error (.noParent "/data:/x") :=
  ⟨hasRoot_iff.2 (by decide), by decide, tableOf_of_none (by decide)⟩

end Location

end Registrar
