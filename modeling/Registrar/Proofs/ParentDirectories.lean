import Registrar.Proofs.PathEndings

namespace Registrar

namespace Location

abbrev tableOf (path : String) : Except Fault String :=
  Layout.parentDirectory.tableLocation (.text path)

variable {path parent top : String} {n : Nat}

theorem tableOf_of_some (h : parent? path = some parent) : tableOf path = .ok parent :=
  Layout.tableLocation_parentDirectory_eq_ok_iff.2 h

theorem tableOf_of_none (h : parent? path = none) : tableOf path = .error (.noParent path) := by
  rw [tableOf, Layout.tableLocation, StoragePath.location, ok_bind, h]
  rfl

/-- Two paths lie in one table, or neither of them has a parent directory. -/
inductive Together (path other : String) : Prop
  | shared {parent : String} (h : tableOf path = .ok parent) (hother : tableOf other = .ok parent)
  | parentless (h : tableOf path = .error (.noParent path))
      (hother : tableOf other = .error (.noParent other))

theorem together_of_parent?_eq {other : String} (h : parent? path = parent? other) :
    Together path other := by
  cases hparent : parent? path with
  | none => exact .parentless (tableOf_of_none hparent) (tableOf_of_none (h ▸ hparent))
  | some parent => exact .shared (tableOf_of_some hparent) (tableOf_of_some (h ▸ hparent))

theorem parent?_append_slashes {tail : List Char} (htail : Slashes tail) (chars : List Char) :
    parent? (String.ofList (chars ++ tail)) = parent? (String.ofList chars) := by
  cases ending chars with
  | outside hname hend =>
    rw [List.append_assoc, parent?_outside hname (hend.append htail), parent?_outside hname hend]
  | inside hfront hname hend =>
    rw [List.append_assoc, parent?_inside hfront hname (hend.append htail),
      parent?_inside hfront hname hend]

/-- All that stands in a directory lies in one table, whatever its name and the slashes behind it,
or none of it has a parent directory. Slashes at its end make no difference to any path. -/
theorem together_snapshots {front name other tail tail' : String}
    (hfront : front.toList.getLast? = some '/') (hname : IsName name.toList)
    (hother : IsName other.toList) (htail : Slashes tail.toList) (htail' : Slashes tail'.toList) :
    Together (front ++ name ++ tail) (front ++ other ++ tail') ∧
      ∀ path, Together path (path ++ tail) := by
  have habove {name tail : String} (hname : IsName name.toList) (htail : Slashes tail.toList) :
      parent? (front ++ name ++ tail) = above front.toList := by
    rw [← parent?_inside hfront hname htail]
    simp [String.append_assoc]
  refine ⟨together_of_parent?_eq ?_, fun path ↦ together_of_parent?_eq ?_⟩
  · rw [habove hname htail, habove hother htail']
  · have happend := parent?_append_slashes htail path.toList
    rw [String.ofList_append, String.ofList_toList, String.ofList_toList] at happend
    exact happend.symm

theorem together_snapshots_bucket :
    tableOf ("s3://b/t//" ++ "v=1" ++ "/") = .ok "s3://b/t" ∧
      tableOf ("s3://b/t//" ++ ":\n" ++ "") = .ok "s3://b/t" := by
  have hfront : "s3://b/t//".toList.getLast? = some '/' := by decide
  have hname : IsName "v=1".toList := ⟨by decide, by decide⟩
  have hother : IsName ":\n".toList := ⟨by decide, by decide⟩
  have htail : Slashes "/".toList := List.forall_mem_singleton.2 rfl
  have hnone : Slashes "".toList := List.forall_mem_nil _
  have hrun : tableOf ("s3://b/t//" ++ "v=1" ++ "/") = .ok "s3://b/t" :=
    tableOf_of_some (by decide +kernel)
  refine ⟨hrun, ?_⟩
  cases (together_snapshots hfront hname hother htail hnone).1 with
  | shared h h' =>
    rw [hrun] at h
    exact Except.ok.inj h ▸ h'
  | parentless h h' =>
    rw [hrun] at h
    cases h

/-- A path is cut before its last name. The slashes around the name go with it, but those before it
stay if there is nothing else. -/
structure CutAt (path parent : String) (before name after : List Char) : Prop where
  path_eq : path.toList = parent.toList ++ before ++ name ++ after
  isName : IsName name
  slashesBefore : Slashes before
  slashesAfter : Slashes after
  kept : before = [] → parent ≠ "" ∧ Slashes parent.toList

theorem exists_cutAt (h : tableOf path = .ok parent) :
    ∃ before name after, CutAt path parent before name after := by
  have hparent := Layout.tableLocation_parentDirectory_eq_ok_iff.1 h
  rw [← String.ofList_toList (s := path)] at hparent
  generalize hchars : path.toList = chars at hparent
  cases ending chars with
  | outside hname htail =>
    rw [parent?_outside hname htail] at hparent
    cases hparent
  | @inside front name tail hfront hname htail =>
    rw [parent?_inside hfront hname htail] at hparent
    obtain ⟨before, hbefore, hcut, hkept⟩ := above_eq_some hfront hparent
    exact ⟨before, name, tail, by rw [hchars, hcut], hname, hbefore, htail, hkept⟩

theorem CutAt.length_lt {before name after : List Char} (h : CutAt path parent before name after) :
    parent.length < path.length := by
  have hlength := congrArg List.length h.path_eq
  have hpos := List.length_pos_iff.2 h.isName.ne_nil
  simp only [List.length_append, String.length_toList] at hlength
  omega

theorem length_lt_of_tableOf (h : tableOf path = .ok parent) : parent.length < path.length := by
  obtain ⟨before, name, after, hcut⟩ := exists_cutAt h
  exact hcut.length_lt

theorem exists_uri_of_tableOf (uri : Uri) (h : tableOf uri.text = .ok parent) :
    ∃ around : Uri, around.text = parent ∧ around.root = uri.root := by
  have hparent := parent?_eq_some (Layout.tableLocation_parentDirectory_eq_ok_iff.1 h)
  rw [Uri.text, String.toList_ofList, splitRoot_chars] at hparent
  obtain ⟨⟨rest, hrest⟩, hpath⟩ := hparent
  have hprefix : rest <+: uri.rest := by
    rwa [← hrest, Uri.chars, List.prefix_append_right_inj] at hpath
  refine ⟨{ uri with rest, isRest := fun c hc ↦ ?_ }, ?_, rfl⟩
  · obtain ⟨more, hmore⟩ := hprefix
    refine uri.isRest c ?_
    rw [← hmore, List.head?_append, hc, Option.some_or]
    rfl
  · rw [← String.ofList_toList (s := parent), ← hrest]
    rfl

/-- Going up a number of times, each time from a path to the location of its table. -/
inductive Climbs : Nat → String → String → Prop
  | zero (path : String) : Climbs 0 path path
  | succ {n : Nat} {path parent top : String} (h : tableOf path = .ok parent)
      (hrest : Climbs n parent top) : Climbs (n + 1) path top

theorem Climbs.length_le (h : Climbs n path top) : n + top.length ≤ path.length := by
  induction h with
  | zero => omega
  | succ h hrest ih =>
    have hlt := length_lt_of_tableOf h
    omega

theorem Climbs.keeps_root (h : Climbs n path top) (uri : Uri) (huri : uri.text = path) :
    uri.root <+: top.toList := by
  induction h generalizing uri with
  | zero path =>
    rw [← huri, uri.toList_text]
    exact List.prefix_append _ _
  | succ h hrest ih =>
    subst huri
    obtain ⟨around, haround, hroot⟩ := exists_uri_of_tableOf uri h
    exact hroot ▸ ih around haround

theorem exists_climbs (path : String) :
    ∃ n top, Climbs n path top ∧ tableOf top = .error (.noParent top) := by
  -- Each step makes the path shorter.
  induction hlength : path.length using Nat.strong_induction_on generalizing path with
  | _ length ih =>
    cases hparent : parent? path with
    | none => exact ⟨0, path, .zero path, tableOf_of_none hparent⟩
    | some parent =>
      have hstep := tableOf_of_some hparent
      obtain ⟨n, top, hclimbs, htop⟩ :=
        ih parent.length (hlength ▸ length_lt_of_tableOf hstep) parent rfl
      exact ⟨n + 1, top, .succ hstep hclimbs, htop⟩

/-- The location of a table is its path without the last name, and a URI keeps its root. So going up
again and again makes the path shorter each time, and ends at a path that has no parent directory,
before anything is cut from the root. -/
theorem tableOf_removes_name (path : String) :
    (∀ parent, tableOf path = .ok parent →
      (∃ before name after, CutAt path parent before name after) ∧
        (∀ uri : Uri, uri.text = path → uri.root <+: parent.toList) ∧
          parent.length < path.length) ∧
    (∃ n top, Climbs n path top ∧ tableOf top = .error (.noParent top)) ∧
    ∀ n stage, Climbs n path stage →
      (∀ uri : Uri, uri.text = path → uri.root <+: stage.toList) ∧
        n + stage.length ≤ path.length := by
  refine ⟨fun parent h ↦ ⟨exists_cutAt h, fun uri huri ↦ ?_, length_lt_of_tableOf h⟩,
    exists_climbs path, fun n stage h ↦ ⟨h.keeps_root, h.length_le⟩⟩
  exact (Climbs.succ h (.zero parent)).keeps_root uri huri

theorem tableOf_removes_name_file :
    tableOf "file:////x//\ny//" = .ok "file:////x" ∧
      (∃ before name after, CutAt "file:////x//\ny//" "file:////x" before name after) ∧
        tableOf "file:////x" = .ok "file://" ∧ Climbs 2 "file:////x//\ny//" "file://" ∧
          2 + "file://".length ≤ "file:////x//\ny//".length := by
  have hfile : tableOf "file:////x//\ny//" = .ok "file:////x" :=
    tableOf_of_some (by decide +kernel)
  have hdirectory : tableOf "file:////x" = .ok "file://" := tableOf_of_some (by decide +kernel)
  obtain ⟨hstep, -, hclimb⟩ := tableOf_removes_name "file:////x//\ny//"
  have hclimbs : Climbs 2 "file:////x//\ny//" "file://" := .succ hfile (.succ hdirectory (.zero _))
  exact ⟨hfile, (hstep _ hfile).1, hdirectory, hclimbs, (hclimb 2 _ hclimbs).2⟩

end Location

end Registrar
