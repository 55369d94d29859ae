import FrameMachine.Proofs.SettingsDocument
import FrameMachine.Settings.Load

namespace FrameMachine

/-!
# The nearest settings file

Settings are searched for in a directory and then in its parents, one after the other, until a
directory has a settings file or there is no further parent.  The list of all parents is computed
with a bound on its length.  The bound is never reached, because a parent is a proper initial part
of its child, so that going up comes to an end for every path: at the root if the path is absolute,
and at the empty path if it is relative.

What the search is meant to do is stated without lists and without a bound.  `Climbs` is the loop:
look here, or else go up, or else give up.  `IsNearestAt` says which directory counts, and `Yields`
what its file makes of the search, including the ways in which the file can be of no use.
-/

/-! ## Going up -/

namespace Path

variable {path parent : Path}

/-- The path after going up a number of times, if there are so many parents. -/
def up : (count : Nat) → Path → Option Path
  | 0, path => some path
  | count + 1, path => path.parent?.bind (up count)

theorem anchor_append (text : List Char) : (anchor text).1 ++ (anchor text).2 = text := by
  unfold anchor
  split <;> rfl

theorem suffix_dropHollow (backwards : List Char) : dropHollow backwards <:+ backwards := by
  fun_induction dropHollow backwards with
  | case1 rest inductionHypothesis => exact inductionHypothesis.trans (List.suffix_cons _ _)
  | case2 rest inductionHypothesis =>
      exact inductionHypothesis.trans ((List.suffix_cons _ _).trans (List.suffix_cons _ _))
  | case3 => exact List.nil_suffix
  | case4 => exact List.suffix_refl _

theorem suffix_dropComponent (backwards : List Char) : dropComponent backwards <:+ backwards :=
  (List.drop_suffix 1 _).trans (List.dropWhile_suffix _)

/-- At least one character is dropped together with a component. -/
theorem length_dropComponent {backwards : List Char} (filled : backwards ≠ []) :
    (dropComponent backwards).length < backwards.length := by
  cases backwards with
  | nil => exact absurd rfl filled
  | cons last rest =>
      unfold dropComponent
      by_cases slash : last = '/'
      · simp [slash]
      · have shorter := (List.dropWhile_suffix (l := rest) (· != '/')).length_le
        rw [List.dropWhile_cons_of_pos (by simpa using slash), List.length_drop, List.length_cons]
        omega

/-- A path with nothing but slashes and single dots behind its anchor has a parent only if the
anchor is a dot.  Any other path loses its last component. -/
theorem parent?_eq (path : Path) :
    path.parent? =
      let fixed := (anchor path.text.toList).1
      let body := dropHollow (anchor path.text.toList).2.reverse
      if body = [] then if fixed = ['.'] then some ⟨""⟩ else none
      else some ⟨String.ofList (fixed ++ (dropHollow (dropComponent body)).reverse)⟩ := by
  unfold parent?
  rcases anchor path.text.toList with ⟨fixed, body⟩
  dsimp only
  generalize dropHollow body.reverse = backwards
  cases backwards with
  | nil => by_cases dot : fixed = ['.'] <;> simp [dot]
  | cons last rest => simp

/-- A parent is a proper initial part of its child. -/
theorem parent?_shortens (above : path.parent? = some parent) :
    parent.text.toList <+: path.text.toList ∧ parent.text.length < path.text.length := by
  have split := anchor_append path.text.toList
  have lengths := congrArg List.length split
  rw [parent?_eq] at above
  generalize (anchor path.text.toList).1 = fixed at above split lengths
  generalize (anchor path.text.toList).2 = body at above split lengths
  rw [List.length_append, String.length_toList] at lengths
  dsimp only at above
  split at above
  · split at above
    · rename_i dot
      cases above
      rw [dot, List.length_singleton] at lengths
      constructor
      · exact List.nil_prefix
      · rw [← lengths]
        exact Nat.lt_add_right _ Nat.one_pos
    · cases above
  · rename_i filled
    cases above
    have outer := suffix_dropHollow body.reverse
    have middle := suffix_dropComponent (dropHollow body.reverse)
    have inner := suffix_dropHollow (dropComponent (dropHollow body.reverse))
    constructor
    · have kept := List.reverse_prefix.mpr (inner.trans (middle.trans outer))
      rw [List.reverse_reverse] at kept
      rw [String.toList_ofList, ← split]
      exact (List.prefix_append_right_inj fixed).mpr kept
    · have shorter := length_dropComponent filled
      have innerLength := inner.length_le
      have outerLength := outer.length_le
      rw [List.length_reverse] at outerLength
      rw [String.length_ofList, List.length_append, List.length_reverse]
      omega

/-- To prove something of every path, prove it of the paths without a parent, and of a path
whose parent has it. -/
theorem upward_induction {motive : Path → Prop} (top : ∀ path, path.parent? = none → motive path)
    (step : ∀ path parent, path.parent? = some parent → motive parent → motive path)
    (path : Path) : motive path := by
  induction bound : path.text.length using Nat.strongRecOn generalizing path with
  | ind length inductionHypothesis =>
      cases above : path.parent? with
      | none => exact top path above
      | some parent =>
          have shorter := (parent?_shortens above).2
          exact step path parent above (inductionHypothesis _ (bound ▸ shorter) parent rfl)

/-! ## Where going up ends -/

/-- What is hollow altogether, read forwards, is empty, or starts with a slash, or is a dot, or
starts with a dot and a slash. -/
theorem dropHollow_eq_nil {backwards : List Char} (hollow : dropHollow backwards = []) :
    backwards = [] ∨ backwards.getLast? = some '/' ∨ backwards = ['.'] ∨
      ∃ rest, backwards = rest ++ ['/', '.'] := by
  fun_induction dropHollow backwards with
  | case1 rest inductionHypothesis =>
      rcases inductionHypothesis hollow with rfl | slash | rfl | ⟨rest, rfl⟩
      · exact Or.inr (Or.inl rfl)
      · exact Or.inr (Or.inl (by simp [List.getLast?_cons, slash]))
      · exact Or.inr (Or.inr (Or.inr ⟨[], rfl⟩))
      · exact Or.inr (Or.inr (Or.inr ⟨'/' :: rest, rfl⟩))
  | case2 rest inductionHypothesis =>
      rcases inductionHypothesis hollow with rfl | slash | rfl | ⟨rest, rfl⟩
      · exact Or.inr (Or.inl rfl)
      · exact Or.inr (Or.inl (by simp [List.getLast?_cons, slash]))
      · exact Or.inr (Or.inr (Or.inr ⟨['.'], rfl⟩))
      · exact Or.inr (Or.inr (Or.inr ⟨'.' :: '/' :: rest, rfl⟩))
  | case3 => exact Or.inr (Or.inr (Or.inl rfl))
  | case4 => exact Or.inl hollow

theorem parent?_eq_none_iff :
    path.parent? = none ↔ dropHollow (anchor path.text.toList).2.reverse = [] ∧
      (anchor path.text.toList).1 ≠ ['.'] := by
  rw [parent?_eq]
  dsimp only
  split
  · rename_i hollow
    split <;> simp [*]
  · rename_i filled
    simp [filled]

/-- The empty path is the only relative path without a parent. -/
theorem text_of_parent?_eq_none (relative : path.isAbsolute = false) (last : path.parent? = none) :
    path.text = "" := by
  rcases parent?_eq_none_iff.mp last with ⟨hollow, notDot⟩
  rw [isAbsolute, beq_eq_false_iff_ne] at relative
  rw [← String.toList_eq_nil_iff]
  generalize path.text.toList = text at hollow notDot relative
  revert hollow notDot
  fun_cases anchor text with
  | case1 rest => exact absurd rfl relative
  | case2 => exact fun _ notDot => absurd rfl notDot
  | case3 rest => exact fun _ notDot => absurd rfl notDot
  | case4 _ notSlash notDot notDotSlash =>
      intro hollow _
      rcases dropHollow_eq_nil hollow with empty | slash | dot | ⟨rest, dotSlash⟩
      · exact List.reverse_eq_nil_iff.mp empty
      · rw [List.getLast?_reverse] at slash
        exact absurd slash relative
      · exact absurd (List.reverse_eq_iff.mp dot) notDot
      · exact absurd (List.reverse_eq_iff.mp dotSlash) (by simpa using notDotSlash rest.reverse)

theorem isAbsolute_iff : path.isAbsolute = true ↔ ∃ rest, path.text.toList = '/' :: rest := by
  rw [isAbsolute, beq_iff_eq, List.head?_eq_some_iff]

/-- Going up neither leads to the root from elsewhere nor away from it. -/
theorem isAbsolute_parent (above : path.parent? = some parent) :
    parent.isAbsolute = path.isAbsolute := by
  rw [Bool.eq_iff_iff, isAbsolute_iff, isAbsolute_iff]
  constructor
  · rintro ⟨rest, starts⟩
    rcases (parent?_shortens above).1 with ⟨behind, whole⟩
    exact ⟨rest ++ behind, by rw [← whole, starts, List.cons_append]⟩
  · rintro ⟨rest, starts⟩
    rw [parent?_eq, starts] at above
    simp only [anchor] at above
    split at above
    · cases above
    · cases above
      exact ⟨_, String.toList_ofList⟩

/-- Going up ends, after at most as many times as the path has characters.  It ends at the root or
at the empty path. -/
theorem exists_top (path : Path) :
    ∃ height top, height ≤ path.text.length ∧ path.up height = some top ∧
      (∀ count, (path.up count).isSome = true ↔ count ≤ height) ∧
      top.isAbsolute = path.isAbsolute ∧ (path.isAbsolute = false → top.text = "") := by
  induction path using upward_induction with
  | top path last =>
      refine ⟨0, path, Nat.zero_le _, rfl, ?_, rfl, fun relative =>
        text_of_parent?_eq_none relative last⟩
      intro count
      cases count with
      | zero => simp [up]
      | succ count => simp [up, last]
  | step path parent above inductionHypothesis =>
      rcases inductionHypothesis with ⟨height, top, bound, reached, exact, anchored, ends⟩
      have shorter := (parent?_shortens above).2
      have sameRoot := isAbsolute_parent above
      refine ⟨height + 1, top, by omega, ?_, ?_, anchored.trans sameRoot, sameRoot ▸ ends⟩
      · rw [up, above, Option.bind_some, reached]
      · intro count
        cases count with
        | zero => simp [up]
        | succ count =>
            rw [up, above, Option.bind_some, exact count]
            exact Nat.succ_le_succ_iff.symm

/-! ## The list of all parents -/

/-- A bound above the length of the path is as good as any other. -/
theorem ancestorsWithin_of_lt (path : Path) {bound : Nat} (enough : path.text.length < bound) :
    ancestorsWithin bound path = path.ancestors := by
  induction path using upward_induction generalizing bound with
  | top path last =>
      cases bound with
      | zero => cases enough
      | succ bound => simp [ancestors, ancestorsWithin, last]
  | step path parent above inductionHypothesis =>
      have shorter := (parent?_shortens above).2
      cases bound with
      | zero => cases enough
      | succ bound =>
          simp only [ancestors, ancestorsWithin, above]
          rw [inductionHypothesis (by omega), inductionHypothesis shorter]

/-- The list goes on with the list of the parent. -/
theorem ancestors_eq (path : Path) :
    path.ancestors = path :: (path.parent?.map ancestors).getD [] := by
  rw [ancestors, ancestorsWithin]
  cases above : path.parent? with
  | none => rfl
  | some parent =>
      simp only [Option.map_some, Option.getD_some]
      rw [parent.ancestorsWithin_of_lt (parent?_shortens above).2]

end Path

/-! ## The search -/

namespace Settings

variable {files : FileSystem} {start root : Path} {result : Except SettingsError Settings}

/-- The directory has a settings file, a regular one.  What can be read there is its content or the
reason why there is none. -/
def HasContent (files : FileSystem) (root : Path) (content : Except FileError (List UInt8)) :
    Prop :=
  files.entry (root.join ⟨"ippvm.toml"⟩) = .ok (.regular content)

/-- The directory has a settings file. -/
def HasFile (files : FileSystem) (root : Path) : Prop :=
  ∃ content, HasContent files root content

/-- The directory has a settings file with this text. -/
def HasText (files : FileSystem) (root : Path) (text : String) : Prop :=
  ∃ bytes, HasContent files root (.ok bytes) ∧ InputStream.decode? bytes = some text

/-- What the settings file of a directory makes of the search: the settings that are written there,
with the directory as their root, or an error.  It is an error if the file is gone as soon as it was
seen, if it cannot be read, if it is not a text, if no settings are written there, and if those that
are written there name the empty path. -/
inductive Yields (files : FileSystem) (root : Path) : Except SettingsError Settings → Prop
  | vanished (gone : HasContent files root (.error .notFound)) :
      Yields files root (.error (.notFound (root.join ⟨"ippvm.toml"⟩)))
  | unreadable {cause : FileError} (refused : HasContent files root (.error cause))
      (there : cause ≠ .notFound) : Yields files root (.error (.unreadable cause))
  | garbled {bytes : List UInt8} (holds : HasContent files root (.ok bytes))
      (noText : InputStream.decode? bytes = none) :
      Yields files root (.error (.unreadable .invalidUtf8))
  | malformed {text : String} (reads : HasText files root text)
      (meaningless : ∀ layer, ¬ Layer.Written text layer) :
      Yields files root (.error (.malformed (root.join ⟨"ippvm.toml"⟩)))
  | invalid {text : String} {layer : Layer} (reads : HasText files root text)
      (written : Layer.Written text layer) (nameless : layer.streams = some ⟨some ⟨""⟩⟩) :
      Yields files root (.error (.badValue .emptyInput))
  | valid {text : String} {layer : Layer} (reads : HasText files root text)
      (written : Layer.Written text layer) (proper : layer.streams ≠ some ⟨some ⟨""⟩⟩) :
      Yields files root (.ok ⟨layer, some root⟩)

/-- The search as a loop: look into the directory, or else go up, or else give up. -/
inductive Climbs (files : FileSystem) : Path → Except SettingsError Settings → Prop
  | here {current : Path} {result : Except SettingsError Settings}
      (yields : Yields files current result) : Climbs files current result
  | up {current parent : Path} {result : Except SettingsError Settings}
      (absent : ¬ HasFile files current) (above : current.parent? = some parent)
      (climbs : Climbs files parent result) : Climbs files current result
  | top {current : Path} (absent : ¬ HasFile files current) (last : current.parent? = none) :
      Climbs files current (.ok ⟨⟨none, none⟩, none⟩)

/-- The directory is so many times up from the start and has a settings file, and no directory
before it has one. -/
structure IsNearestAt (files : FileSystem) (start root : Path) (count : Nat) : Prop where
  reached : start.up count = some root
  present : HasFile files root
  first : ∀ lower < count, ∀ directory, start.up lower = some directory → ¬ HasFile files directory

/-- What the search makes of a directory that has a settings file. -/
def ofDirectory (files : FileSystem) (root : Path) : Except SettingsError Settings :=
  match Layer.ofFile files (root.join fileName) with
  | .ok layer => .ok ⟨layer, some root⟩
  | .error error => .error error

theorem HasContent.read {content : Except FileError (List UInt8)}
    (holds : HasContent files root content) : files.read (root.join fileName) = content := by
  have present : files.entry (root.join fileName) = .ok (.regular content) := holds
  rw [FileSystem.read, present]

theorem HasText.readText {text : String} (reads : HasText files root text) :
    files.readText (root.join fileName) = .ok text := by
  rcases reads with ⟨bytes, holds, decoded⟩
  simp only [FileSystem.readText, holds.read, decoded]

theorem ofDirectory_of_error {cause : FileError} (refused : HasContent files root (.error cause)) :
    ofDirectory files root = .error
      (if cause = .notFound then .notFound (root.join ⟨"ippvm.toml"⟩) else .unreadable cause) := by
  simp only [ofDirectory, Layer.ofFile, FileSystem.readText, refused.read]
  cases cause <;> rfl

theorem ofDirectory_of_garbled {bytes : List UInt8} (holds : HasContent files root (.ok bytes))
    (noText : InputStream.decode? bytes = none) :
    ofDirectory files root = .error (.unreadable .invalidUtf8) := by
  simp only [ofDirectory, Layer.ofFile, FileSystem.readText, holds.read, noText]

theorem ofDirectory_of_meaningless {text : String} (reads : HasText files root text)
    (meaningless : ∀ layer, ¬ Layer.Written text layer) :
    ofDirectory files root = .error (.malformed (root.join ⟨"ippvm.toml"⟩)) := by
  simp only [ofDirectory, Layer.ofFile, reads.readText, Layer.ofText,
    Layer.not_written_iff.mp meaningless]
  rfl

theorem ofDirectory_of_written {text : String} {layer : Layer} (reads : HasText files root text)
    (written : Layer.Written text layer) :
    ofDirectory files root =
      if layer.streams = some ⟨some ⟨""⟩⟩ then .error (.badValue .emptyInput)
      else .ok ⟨layer, some root⟩ := by
  simp only [ofDirectory, Layer.ofFile, reads.readText, Layer.ofText, Layer.written_iff.mp written,
    Layer.validate_eq]
  by_cases nameless : layer.streams = some ⟨some ⟨""⟩⟩
  · rw [if_pos nameless, if_pos nameless]
  · rw [if_neg nameless, if_neg nameless]

theorem Yields.eq_ofDirectory (yields : Yields files root result) :
    result = ofDirectory files root := by
  cases yields with
  | vanished gone => rw [ofDirectory_of_error gone, if_pos rfl]
  | unreadable refused there => rw [ofDirectory_of_error refused, if_neg there]
  | garbled holds noText => rw [ofDirectory_of_garbled holds noText]
  | malformed reads meaningless => rw [ofDirectory_of_meaningless reads meaningless]
  | invalid reads written nameless => rw [ofDirectory_of_written reads written, if_pos nameless]
  | valid reads written proper => rw [ofDirectory_of_written reads written, if_neg proper]

theorem Yields.hasFile (yields : Yields files root result) : HasFile files root := by
  cases yields with
  | vanished holds | unreadable holds | garbled holds => exact ⟨_, holds⟩
  | malformed reads | invalid reads | valid reads =>
      rcases reads with ⟨bytes, holds, -⟩
      exact ⟨_, holds⟩

/-- Whatever a settings file is like, it yields something. -/
theorem yields_ofDirectory (present : HasFile files root) :
    Yields files root (ofDirectory files root) := by
  rcases present with ⟨content, holds⟩
  cases content with
  | error cause =>
      rw [ofDirectory_of_error holds]
      split
      · rename_i gone
        exact .vanished (gone ▸ holds)
      · exact .unreadable holds ‹_›
  | ok bytes =>
      cases decoded : InputStream.decode? bytes with
      | none =>
          rw [ofDirectory_of_garbled holds decoded]
          exact .garbled holds decoded
      | some text =>
          have reads : HasText files root text := ⟨bytes, holds, decoded⟩
          by_cases meaning : ∃ layer, Layer.Written text layer
          · rcases meaning with ⟨layer, written⟩
            rw [ofDirectory_of_written reads written]
            split
            · exact .invalid reads written ‹_›
            · exact .valid reads written ‹_›
          · have meaningless := not_exists.mp meaning
            rw [ofDirectory_of_meaningless reads meaningless]
            exact .malformed reads meaningless

/-- It yields nothing else. -/
theorem Yields.unique {other : Except SettingsError Settings} (yields : Yields files root result)
    (alsoYields : Yields files root other) : result = other :=
  yields.eq_ofDirectory.trans alsoYields.eq_ofDirectory.symm

theorem isFile_iff : files.isFile (root.join fileName) = true ↔ HasFile files root := by
  have spelled : HasFile files root ↔
      ∃ content, files.entry (root.join fileName) = .ok (.regular content) := Iff.rfl
  rw [spelled]
  unfold FileSystem.isFile
  split <;> simp_all

instance : Decidable (HasFile files root) :=
  decidable_of_iff _ isFile_iff

theorem nearest?_ancestors (files : FileSystem) (start : Path) :
    nearest? files start.ancestors =
      if HasFile files start then some start
      else start.parent?.bind fun parent => nearest? files parent.ancestors := by
  rw [start.ancestors_eq, nearest?, List.find?_cons]
  by_cases present : HasFile files start
  · rw [if_pos present, isFile_iff.mpr present]
  · rw [if_neg present, Bool.eq_false_iff.mpr (mt isFile_iff.mp present)]
    cases start.parent? <;> rfl

theorem search_of_hasFile (present : HasFile files start) :
    search files start = ofDirectory files start := by
  rw [search, nearest?_ancestors, if_pos present]
  rfl

theorem yields_of_hasFile (present : HasFile files start) :
    Yields files start (search files start) := by
  rw [search_of_hasFile present]
  exact yields_ofDirectory present

theorem search_of_parent (absent : ¬ HasFile files start) {parent : Path}
    (above : start.parent? = some parent) : search files start = search files parent := by
  rw [search, nearest?_ancestors, if_neg absent, above]
  rfl

theorem search_of_top (absent : ¬ HasFile files start)
    (last : start.parent? = none) : search files start = .ok ⟨⟨none, none⟩, none⟩ := by
  rw [search, nearest?_ancestors, if_neg absent, last]
  rfl

/-- The loop ends, for every start. -/
theorem climbs_search (files : FileSystem) (start : Path) :
    Climbs files start (search files start) := by
  induction start using Path.upward_induction with
  | top path last =>
      by_cases present : HasFile files path
      · exact .here (yields_of_hasFile present)
      · rw [search_of_top present last]
        exact .top present last
  | step path parent above inductionHypothesis =>
      by_cases present : HasFile files path
      · exact .here (yields_of_hasFile present)
      · rw [search_of_parent present above]
        exact .up present above inductionHypothesis

/-- The loop has no other result. -/
theorem Climbs.eq_search (climbs : Climbs files start result) : result = search files start := by
  induction climbs with
  | here yields =>
      exact yields.eq_ofDirectory.trans (search_of_hasFile yields.hasFile).symm
  | up absent above climbs inductionHypothesis =>
      rw [inductionHypothesis, search_of_parent absent above]
  | top absent last => exact (search_of_top absent last).symm

theorem isNearestAt_zero (present : HasFile files start) :
    IsNearestAt files start start 0 :=
  ⟨rfl, present, fun _ below => absurd below (Nat.not_lt_zero _)⟩

/-- The nearest directory further up is the nearest one seen from the parent. -/
theorem isNearestAt_succ_iff {count : Nat} :
    IsNearestAt files start root (count + 1) ↔ ¬ HasFile files start ∧
      ∃ parent, start.parent? = some parent ∧ IsNearestAt files parent root count := by
  constructor
  · rintro ⟨reached, present, first⟩
    rcases Option.bind_eq_some_iff.mp reached with ⟨parent, above, reachedAbove⟩
    refine ⟨first 0 (Nat.succ_pos count) start rfl, parent, above, reachedAbove, present, ?_⟩
    intro lower below directory stands
    refine first (lower + 1) (Nat.succ_lt_succ below) directory ?_
    rw [Path.up, above, Option.bind_some, stands]
  · rintro ⟨absent, parent, above, reached, present, first⟩
    refine ⟨by rw [Path.up, above, Option.bind_some, reached], present, ?_⟩
    intro lower below directory stands
    cases lower with
    | zero =>
        cases stands
        exact absent
    | succ lower =>
        rw [Path.up, above, Option.bind_some] at stands
        exact first lower (Nat.lt_of_succ_lt_succ below) directory stands

/-- The nearest file decides. -/
theorem IsNearestAt.yields {count : Nat} (nearest : IsNearestAt files start root count) :
    Yields files root (search files start) := by
  induction count generalizing start with
  | zero =>
      cases nearest.reached
      exact yields_of_hasFile nearest.present
  | succ count inductionHypothesis =>
      rcases isNearestAt_succ_iff.mp nearest with ⟨absent, parent, above, nearestAbove⟩
      rw [search_of_parent absent above]
      exact inductionHypothesis nearestAbove

/-- A file somewhere on the way up makes some directory the nearest. -/
theorem exists_isNearestAt {count : Nat} {directory : Path}
    (reached : start.up count = some directory) (present : HasFile files directory) :
    ∃ root count, IsNearestAt files start root count := by
  induction count generalizing start with
  | zero =>
      cases reached
      exact ⟨directory, 0, isNearestAt_zero present⟩
  | succ count inductionHypothesis =>
      by_cases here : HasFile files start
      · exact ⟨start, 0, isNearestAt_zero here⟩
      · rcases Option.bind_eq_some_iff.mp reached with ⟨parent, above, reachedAbove⟩
        rcases inductionHypothesis reachedAbove with ⟨root, higher, nearest⟩
        exact ⟨root, higher + 1, isNearestAt_succ_iff.mpr ⟨here, parent, above, nearest⟩⟩

/-- Without any file on the way up there are no settings. -/
theorem search_of_absent
    (absent : ∀ count directory, start.up count = some directory → ¬ HasFile files directory) :
    search files start = .ok ⟨⟨none, none⟩, none⟩ := by
  induction start using Path.upward_induction with
  | top path last => exact search_of_top (absent 0 path rfl) last
  | step path parent above inductionHypothesis =>
      rw [search_of_parent (absent 0 path rfl) above]
      refine inductionHypothesis fun count directory reached => absent (count + 1) directory ?_
      rw [Path.up, above, Option.bind_some, reached]

/-- The search finds the nearest settings file.  Take any file system and any path to start from.

Going up from the path ends: the number of parents is at most the number of its characters, and the
last of them is absolute if the path is, and the empty path otherwise.  So the loop that looks into
a directory and then goes up ends too, and its result is that of the search.

If some directory on the way up has a settings file, one of them is the nearest, and what its file
yields is the result: the settings that are written there, with this directory as their root, or an
error if the file cannot be read, is not a text, is not a settings document or is not valid.  No
file further up is looked at.  If no directory has a file, the settings are empty and there is no
root. -/
theorem search_finds_nearest_file (files : FileSystem) (start : Path) :
    (∃ height top, height ≤ start.text.length ∧ start.up height = some top ∧
      (∀ count, (start.up count).isSome = true ↔ count ≤ height) ∧
      top.isAbsolute = start.isAbsolute ∧ (start.isAbsolute = false → top.text = "")) ∧
    (∀ result, Climbs files start result ↔ result = search files start) ∧
    ((∃ count directory, start.up count = some directory ∧ HasFile files directory) →
      ∃ root count, IsNearestAt files start root count) ∧
    (∀ root count, IsNearestAt files start root count → Yields files root (search files start)) ∧
    ((∀ count directory, start.up count = some directory → ¬ HasFile files directory) →
      search files start = .ok ⟨⟨none, none⟩, none⟩) := by
  refine ⟨start.exists_top, fun result => ⟨Climbs.eq_search, ?_⟩, ?_, ?_, search_of_absent⟩
  · rintro rfl
    exact climbs_search files start
  · rintro ⟨count, directory, reached, present⟩
    exact exists_isNearestAt reached present
  · intro root count nearest
    exact nearest.yields

/-- The file at the root asks for statistics.  It is found from below a directory whose
`ippvm.toml` is not a regular file.  It is not looked at where a nearer file cannot be read, is not
a text, is not a settings document or names the empty path.  Nothing is found on the way up from a
relative path. -/
theorem search_finds_nearest_file_unreadable :
    let text (content : String) : Except FileError FileEntry :=
      .ok (.regular (.ok content.toUTF8.data.toList))
    let files : FileSystem := ⟨fun path =>
      if path = ⟨"/ippvm.toml"⟩ then text "[runtime]\nstats = true\n"
      else if path = ⟨"/folder/ippvm.toml"⟩ then .ok .directory
      else if path = ⟨"/locked/ippvm.toml"⟩ then
        .ok (.regular (.error (.other "Permission denied (os error 13)")))
      else if path = ⟨"/binary/ippvm.toml"⟩ then .ok (.regular (.ok [255]))
      else if path = ⟨"/foreign/ippvm.toml"⟩ then text "[runtime]\nturbo = true\n"
      else if path = ⟨"/nameless/ippvm.toml"⟩ then text "[io]\ninput = \"\"\n"
      else .error .notFound⟩
    search files ⟨"/folder"⟩ = .ok ⟨⟨some ⟨none, some true⟩, none⟩, some ⟨"/"⟩⟩ ∧
    search files ⟨"/locked/b/./c"⟩ =
      .error (.unreadable (.other "Permission denied (os error 13)")) ∧
    search files ⟨"/binary"⟩ = .error (.unreadable .invalidUtf8) ∧
    search files ⟨"/foreign/"⟩ = .error (.malformed ⟨"/foreign/ippvm.toml"⟩) ∧
    search files ⟨"/nameless"⟩ = .error (.badValue .emptyInput) ∧
    search files ⟨"folder"⟩ = .ok ⟨⟨none, none⟩, none⟩ := by
  intro text files
  have yields {start root : Path} {count : Nat} (nearest : IsNearestAt files start root count) :
      Yields files root (search files start) :=
    (search_finds_nearest_file files start).2.2.2.1 root count nearest
  refine ⟨?_, ?_, ?_, ?_, ?_, ?_⟩
  · have nearest : IsNearestAt files ⟨"/folder"⟩ ⟨"/"⟩ 1 :=
      isNearestAt_succ_iff.mpr ⟨by decide +kernel, ⟨"/"⟩, by decide +kernel,
        isNearestAt_zero (by decide +kernel)⟩
    have reads : HasText files ⟨"/"⟩ "[runtime]\nstats = true\n" := ⟨_, rfl, by decide +kernel⟩
    exact (yields nearest).unique (.valid reads (Layer.written_iff.mpr (by decide +kernel)) nofun)
  · have nearest : IsNearestAt files ⟨"/locked/b/./c"⟩ ⟨"/locked"⟩ 2 :=
      isNearestAt_succ_iff.mpr ⟨by decide +kernel, ⟨"/locked/b"⟩, by decide +kernel,
        isNearestAt_succ_iff.mpr ⟨by decide +kernel, ⟨"/locked"⟩, by decide +kernel,
          isNearestAt_zero (by decide +kernel)⟩⟩
    exact (yields nearest).unique (.unreadable rfl nofun)
  · exact (yields (isNearestAt_zero (by decide +kernel))).unique (.garbled rfl (by decide +kernel))
  · have reads : HasText files ⟨"/foreign/"⟩ "[runtime]\nturbo = true\n" :=
      ⟨_, rfl, by decide +kernel⟩
    have meaningless := Layer.not_written_iff.mpr
      (by decide +kernel : (Toml.ofText? "[runtime]\nturbo = true\n").bind Layer.ofDocument? = none)
    exact (yields (isNearestAt_zero (by decide +kernel))).unique (.malformed reads meaningless)
  · have reads : HasText files ⟨"/nameless"⟩ "[io]\ninput = \"\"\n" := ⟨_, rfl, by decide +kernel⟩
    have written : Layer.Written "[io]\ninput = \"\"\n" ⟨none, some ⟨some ⟨""⟩⟩⟩ :=
      Layer.written_iff.mpr (by decide +kernel)
    exact (yields (isNearestAt_zero (by decide +kernel))).unique (.invalid reads written rfl)
  · have above : Path.parent? ⟨"folder"⟩ = some ⟨""⟩ := by decide +kernel
    have climbs : Climbs files ⟨"folder"⟩ (.ok ⟨⟨none, none⟩, none⟩) :=
      .up (by decide +kernel) above (.top (by decide +kernel) (by decide +kernel))
    exact (((search_finds_nearest_file files ⟨"folder"⟩).2.1 _).mp climbs).symm

end Settings
end FrameMachine
