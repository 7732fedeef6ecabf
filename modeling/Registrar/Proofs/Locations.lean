import Registrar.Layout
import Registrar.Proofs.Outcomes
import Registrar.Proofs.Trimming

namespace Registrar

namespace Location

/-- A location with a scheme, which starts with a letter, and an authority, which may be empty. -/
structure Uri where
  letter : Char
  scheme : List Char
  authority : List Char
  rest : List Char
  isAlpha : letter.isAlpha = true
  isScheme : ∀ c ∈ scheme, isSchemePart c = true
  isAuthority : '/' ∉ authority
  isRest : ∀ c ∈ rest.head?, c = '/'

namespace Uri

def root (uri : Uri) : List Char :=
  uri.letter :: uri.scheme ++ ':' :: '/' :: '/' :: uri.authority

def chars (uri : Uri) : List Char := uri.root ++ uri.rest

def text (uri : Uri) : String := String.ofList uri.chars

theorem toList_text (uri : Uri) : uri.text.toList = uri.root ++ uri.rest := by
  rw [text, String.toList_ofList, chars]

theorem root_ne_nil (uri : Uri) : uri.root ≠ [] := List.cons_ne_nil _ _

theorem getLast_root_ne_slash_iff (uri : Uri) :
    (uri.root.getLast uri.root_ne_nil == '/') = false ↔ uri.authority ≠ [] := by
  rw [beq_eq_false_iff_ne]
  cases ha : uri.authority with
  | nil => simp [root, ha]
  | cons c more =>
    have hlast : uri.root.getLast uri.root_ne_nil ∈ c :: more := by
      simp only [root, ha]
      rw [List.getLast_append_of_ne_nil _ (List.cons_ne_nil _ _)]
      simp
    refine iff_of_true (fun h ↦ uri.isAuthority ?_) (List.cons_ne_nil _ _)
    rw [ha, ← h]
    exact hlast

end Uri

theorem splitRoot_chars (uri : Uri) : splitRoot uri.chars = (uri.root, uri.rest) := by
  have hletter : isSchemePart uri.letter = true := by
    simp [isSchemePart, Char.isAlphanum, uri.isAlpha]
  have happend : uri.chars =
      uri.letter :: uri.scheme ++ ':' :: '/' :: '/' :: (uri.authority ++ uri.rest) := by
    simp [Uri.chars, Uri.root]
  have hscheme : (uri.letter :: uri.scheme ++
      ':' :: '/' :: '/' :: (uri.authority ++ uri.rest)).takeWhile isSchemePart =
        uri.letter :: uri.scheme := by
    refine Text.takeWhile_append_eq (fun c hc ↦ ?_) (fun c hc ↦ ?_)
    · rcases List.mem_cons.1 hc with rfl | hc
      · exact hletter
      · exact uri.isScheme c hc
    · obtain rfl : ':' = c := Option.some.inj hc
      decide
  have hauthority : (uri.authority ++ uri.rest).takeWhile (· ≠ '/') = uri.authority := by
    refine Text.takeWhile_append_eq (fun c hc ↦ ?_) (fun c hc ↦ ?_)
    · exact decide_eq_true fun h ↦ uri.isAuthority (h ▸ hc)
    · simp [uri.isRest c hc]
  rw [happend]
  unfold splitRoot
  simp only [hscheme, List.drop_left, hauthority, List.head?_cons, Option.any_some, uri.isAlpha,
    if_true, Uri.root]

theorem splitRoot_cases (location : List Char) :
    splitRoot location = ([], location) ∨
      ∃ uri : Uri, location = uri.chars ∧ splitRoot location = (uri.root, uri.rest) := by
  have hparts : ∀ c ∈ location.takeWhile isSchemePart, isSchemePart c = true :=
    List.all_eq_true.1 List.all_takeWhile
  have hcut : location.takeWhile isSchemePart ++ location.dropWhile isSchemePart = location :=
    List.takeWhile_append_dropWhile
  unfold splitRoot
  simp only [Text.drop_length_takeWhile]
  split
  · rename_i rest hrest
    split
    · rename_i halpha
      right
      rw [hrest] at hcut
      cases hscheme : location.takeWhile isSchemePart with
      | nil => simp [hscheme] at halpha
      | cons letter scheme =>
        rw [hscheme] at hparts hcut halpha
        let uri : Uri :=
          { letter, scheme
            authority := rest.takeWhile (· ≠ '/')
            rest := rest.dropWhile (· ≠ '/')
            isAlpha := by simpa using halpha
            isScheme := fun c hc ↦ hparts c (List.mem_cons_of_mem _ hc)
            isAuthority := fun hmem ↦ by
              simpa using List.all_eq_true.1 List.all_takeWhile _ hmem
            isRest := fun c hc ↦ by
              have hstop := List.head?_dropWhile_not (fun c ↦ decide (c ≠ '/')) rest
              rw [hc] at hstop
              simpa using hstop }
        refine ⟨uri, ?_, rfl⟩
        rw [← hcut]
        simp [uri, Uri.chars, Uri.root]
    · exact .inl rfl
  · exact .inl rfl

theorem splitRoot_append (location : List Char) :
    (splitRoot location).1 ++ (splitRoot location).2 = location := by
  rcases splitRoot_cases location with h | ⟨uri, rfl, h⟩
  · rw [h, List.nil_append]
  · rw [h, Uri.chars]

theorem prefix_directory (path : List Char) : directory path <+: path := by
  unfold directory
  dsimp only
  split
  · exact Text.prefix_dropWhileRight _ path
  · exact (Text.prefix_dropWhileRight _ _).trans (Text.prefix_dropWhileRight _ path)

theorem parent?_eq_some {location parent : String} (h : parent? location = some parent) :
    (splitRoot location.toList).1 <+: parent.toList ∧ parent.toList <+: location.toList := by
  have happend := splitRoot_append location.toList
  unfold parent? at h
  dsimp only at h
  generalize (splitRoot location.toList).1 = root at h happend ⊢
  generalize (splitRoot location.toList).2 = rest at h happend
  have hrest : directory (Text.dropWhileRight (· = '/') rest) <+: rest :=
    (prefix_directory _).trans (Text.prefix_dropWhileRight _ rest)
  split at h
  · cases h
  · split at h
    · rename_i hroot
      obtain rfl := Option.some.inj h
      subst hroot
      rw [String.toList_ofList, ← happend]
      refine ⟨?_, hrest⟩
      exact List.nil_prefix
    · obtain rfl := Option.some.inj h
      rw [String.toList_ofList, ← happend]
      refine ⟨List.prefix_append _ _, (List.prefix_append_right_inj root).2 ?_⟩
      exact (Text.prefix_dropWhileRight _ _).trans hrest

end Location

namespace PartitionPattern

variable {layout : PartitionPattern} {location before : String}

theorem find_eq_ok_iff {found : Pattern.Match} {values : List (String × String)} :
    layout.find location = .ok (found, values) ↔
      layout.pattern.search location = some found ∧ layout.values? found = some values := by
  unfold find
  constructor
  · intro h
    split at h
    · cases h
    · rename_i other hsearch
      split at h
      · rename_i read hvalues
        cases h
        exact ⟨hsearch, hvalues⟩
      · cases h
  · rintro ⟨hsearch, hvalues⟩
    simp only [hsearch, hvalues]

def cut (location : String) (found : Pattern.Match) : List Char :=
  Text.dropWhileRight (· == '/') (location.toList.take found.start)

theorem prefix_cut (location : String) (found : Pattern.Match) :
    cut location found <+: location.toList := by
  have htake : location.toList.take found.start <+: location.toList := List.take_prefix _ _
  exact (Text.prefix_dropWhileRight _ _).trans htake

theorem tableLocation_eq_ok_iff :
    layout.tableLocation location = .ok before ↔
      ∃ found values, layout.find location = .ok (found, values) ∧
        before.toList = cut location found ∧ before ≠ "" := by
  rw [tableLocation, bind_eq_ok_iff, Prod.exists]
  refine exists_congr fun found ↦ exists_congr fun values ↦ and_congr_right fun _ ↦ ?_
  have hcut : cut location found =
      (Text.trimRight '/' (String.ofList (location.toList.take found.start))).toList := by
    rw [Text.toList_trimRight, String.toList_ofList, cut]
  rw [hcut, String.toList_inj]
  dsimp only
  split
  · rename_i hempty
    simp only [reduceCtorEq, false_iff, not_and, hempty]
    exact fun h hne ↦ hne h
  · rename_i hne
    constructor
    · intro h
      obtain rfl := Except.ok.inj h
      exact ⟨rfl, hne⟩
    · rintro ⟨rfl, -⟩
      rfl

end PartitionPattern

namespace Layout

variable {location before : String}

theorem tableLocation_parentDirectory_eq_ok_iff :
    parentDirectory.tableLocation (.text location) = .ok before ↔
      Location.parent? location = some before := by
  rw [tableLocation, StoragePath.location, ok_bind]
  cases Location.parent? location with
  | none => exact iff_of_false nofun nofun
  | some parent =>
    exact ⟨fun h ↦ congrArg some (Except.ok.inj h), fun h ↦ congrArg Except.ok (Option.some.inj h)⟩

theorem tableLocation_partitioned_eq_ok_iff {pattern : PartitionPattern} :
    (partitioned pattern).tableLocation (.text location) = .ok before ↔
      pattern.tableLocation location = .ok before := by
  rw [tableLocation, StoragePath.location, ok_bind]
  exact mapError_eq_ok_iff

end Layout

namespace Location

/-- A cut at a position leaves the root of a URI whole: it is made behind the root and, if the root
ends in slashes, behind a character that is none. -/
def Uri.Spared (uri : Uri) (position : Nat) : Prop :=
  uri.root.length ≤ position ∧
    (uri.authority ≠ [] ∨ ∃ c ∈ uri.rest.take (position - uri.root.length), c ≠ '/')

theorem root_prefix_cut_iff (uri : Uri) (found : Pattern.Match) :
    uri.root <+: PartitionPattern.cut uri.text found ↔ uri.Spared found.start := by
  rw [PartitionPattern.cut, uri.toList_text, List.take_append, Uri.Spared]
  by_cases hlength : uri.root.length ≤ found.start
  · rw [List.take_of_length_le hlength, Text.prefix_dropWhileRight_append_iff uri.root_ne_nil,
      uri.getLast_root_ne_slash_iff]
    simp [hlength]
  · refine iff_of_false (fun h ↦ hlength ?_) (fun h ↦ hlength h.1)
    have hle := h.length_le.trans (Text.prefix_dropWhileRight _ _).length_le
    simp only [List.length_append, List.length_take] at hle
    omega

/-- A table of a URI lies at a location that starts with the root of the URI, if paths are tables
of their own or tables lie around them. In a partitioned layout it does so exactly if the match
spares the root; otherwise it lies at a truncated root. -/
theorem tableLocation_root_iff (uri : Uri) (before : String) :
    (Layout.flat.tableLocation (.text uri.text) = .ok before → uri.root <+: before.toList) ∧
    (Layout.parentDirectory.tableLocation (.text uri.text) = .ok before →
      uri.root <+: before.toList) ∧
    ∀ pattern : PartitionPattern,
      (Layout.partitioned pattern).tableLocation (.text uri.text) = .ok before →
        ∃ found, pattern.pattern.search uri.text = some found ∧
          (uri.root <+: before.toList ↔ uri.Spared found.start) ∧
            (uri.root <+: before.toList ∨ before.toList <+: uri.root) := by
  refine ⟨fun h ↦ ?_, fun h ↦ ?_, fun pattern h ↦ ?_⟩
  · obtain rfl := Except.ok.inj h
    rw [uri.toList_text]
    exact List.prefix_append _ _
  · have hroot := (parent?_eq_some (Layout.tableLocation_parentDirectory_eq_ok_iff.1 h)).1
    rwa [uri.toList_text, ← Uri.chars, splitRoot_chars] at hroot
  · rw [Layout.tableLocation_partitioned_eq_ok_iff,
      PartitionPattern.tableLocation_eq_ok_iff] at h
    obtain ⟨found, values, hfind, hbefore, -⟩ := h
    refine ⟨found, (PartitionPattern.find_eq_ok_iff.1 hfind).1, ?_, ?_⟩
    · rw [hbefore, root_prefix_cut_iff]
    · have hpath : before.toList <+: uri.root ++ uri.rest := by
        rw [hbefore, ← uri.toList_text]
        exact PartitionPattern.prefix_cut uri.text found
      exact List.prefix_or_prefix_of_prefix (List.prefix_append _ _) hpath

attribute [local instance] Host.bare

def dayConfiguration : Configuration :=
  ⟨.ofList [(Key.partitionRegex, "ds=(?P<ds>[^/]+)")]⟩

def bucketUri : Uri where
  letter := 's'
  scheme := ['3']
  authority := ['b']
  rest := '/' :: "t//ds=1".toList
  isAlpha := by decide
  isScheme := List.all_eq_true.1 (by decide)
  isAuthority := by decide
  isRest := by simp

theorem tableLocation_root_iff_bucket :
    ∃ pattern found, PartitionPattern.ofConfiguration dayConfiguration = .ok pattern ∧
      Layout.parentDirectory.tableLocation (.text bucketUri.text) = .ok "s3://b/t" ∧
      (Layout.partitioned pattern).tableLocation (.text bucketUri.text) = .ok "s3://b/t" ∧
      pattern.pattern.search bucketUri.text = some found ∧ bucketUri.Spared found.start ∧
        bucketUri.root <+: "s3://b/t".toList := by
  obtain ⟨-, hparent, hpartitioned⟩ := tableLocation_root_iff bucketUri "s3://b/t"
  have hparentRun : Layout.parentDirectory.tableLocation (.text bucketUri.text) =
      .ok "s3://b/t" := by
    rw [Layout.tableLocation_parentDirectory_eq_ok_iff]
    decide +kernel
  have hrun : (do
      let pattern ← PartitionPattern.ofConfiguration dayConfiguration
      (Layout.partitioned pattern).tableLocation (.text bucketUri.text)
        : Except Fault String).toOption = some "s3://b/t" := by
    decide +kernel
  obtain ⟨pattern, hpattern, hlocation⟩ := bind_eq_ok_iff.1 (toOption_eq_some_iff.1 hrun)
  obtain ⟨found, hfound, hspared, -⟩ := hpartitioned pattern hlocation
  have hroot := hparent hparentRun
  exact ⟨pattern, found, hpattern, hparentRun, hlocation, hfound, hspared.1 hroot, hroot⟩

def fileUri : Uri where
  letter := 'f'
  scheme := "ile".toList
  authority := []
  rest := '/' :: "ds=1".toList
  isAlpha := by decide
  isScheme := List.all_eq_true.1 (by decide)
  isAuthority := by decide
  isRest := by simp

theorem tableLocation_truncates_root :
    ∃ pattern, PartitionPattern.ofConfiguration dayConfiguration = .ok pattern ∧
      (Layout.partitioned pattern).tableLocation (.text fileUri.text) = .ok "file:" ∧
        ¬fileUri.root <+: "file:".toList := by
  have hrun : (do
      let pattern ← PartitionPattern.ofConfiguration dayConfiguration
      (Layout.partitioned pattern).tableLocation (.text fileUri.text)
        : Except Fault String).toOption = some "file:" := by
    decide +kernel
  obtain ⟨pattern, hpattern, hlocation⟩ := bind_eq_ok_iff.1 (toOption_eq_some_iff.1 hrun)
  exact ⟨pattern, hpattern, hlocation, by decide⟩

end Location

end Registrar
