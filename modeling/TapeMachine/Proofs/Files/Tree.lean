import TapeMachine.Files.Loader
import TapeMachine.Files.Tree
import Mathlib.Data.List.Nodup

/-!
# Paths to the entries of a directory

The path of an entry is that of its directory with one more name behind it.  If
the directory is found, so is each of its entries, as long as the path of the
entry is not too long: a directory can be near enough to the limit that none of
its entries has a path that can be followed.
-/

namespace TapeMachine

/-! ## The path of an entry -/

/-- What stands in front of the names of the entries of a directory. -/
def entryPrefix (directory : String) : String :=
  if directory.endsWith "/" then directory else directory ++ "/"

theorem entryPath_eq_entryPrefix_append (directory name : String) :
    entryPath directory name = entryPrefix directory ++ name := by
  unfold entryPath entryPrefix
  split <;> rfl

theorem entryPath_injective (directory : String) :
    Function.Injective (entryPath directory) := by
  intro left right same
  simpa [entryPath_eq_entryPrefix_append] using same

theorem toList_entryPath_eq_or (directory name : String) :
    (∃ before, directory.toList = before ++ ['/'] ∧
      (entryPath directory name).toList = before ++ '/' :: name.toList) ∨
    (entryPath directory name).toList = directory.toList ++ '/' :: name.toList := by
  unfold entryPath
  split
  · next ending =>
      rw [String.endsWith_eq_endsWith_toSlice, String.Slice.endsWith_string_iff] at ending
      rcases ending with ⟨before, split⟩
      refine Or.inl ⟨before, by simpa using split.symm, ?_⟩
      have split' : directory.toList = before ++ ['/'] := by simpa using split.symm
      rw [String.toList_append, split', List.append_assoc, List.singleton_append]
  · exact Or.inr (by simp)

theorem entryPath_ne_empty (directory name : String) : entryPath directory name ≠ "" := by
  intro empty
  rcases toList_entryPath_eq_or directory name with ⟨before, -, path⟩ | path <;>
    simp [empty] at path

/-- The path of an entry begins with a slash only if that of its directory does. -/
theorem not_prefix_entryPath
    {directory : String}
    (nonempty : directory ≠ "")
    (relative : ¬ ['/'] <+: directory.toList)
    (name : String) :
    ¬ ['/'] <+: (entryPath directory name).toList := by
  have starts : directory.toList ≠ [] := by simpa using nonempty
  intro rooted
  rcases toList_entryPath_eq_or directory name with ⟨before, ends, path⟩ | path
  · rw [path] at rooted
    rw [ends] at relative
    cases before <;> simp_all
  · rw [path] at rooted
    cases list : directory.toList <;> simp_all

namespace FileTree

/-! ## Names in a directory -/

/-- A name that an entry of a directory can have. -/
structure IsEntryName (name : String) : Prop where
  nonempty : name ≠ ""
  not_here : name ≠ "."
  not_back : name ≠ ".."
  no_slash : '/' ∉ name.toList
  no_zero : '\x00' ∉ name.toList
  short : name.utf8ByteSize ≤ nameLimit

/-- The entries of a directory have names that entries can have, each its own. -/
structure AreEntries (entries : List (String × FileTree)) : Prop where
  named : ∀ entry ∈ entries, IsEntryName entry.1
  distinct : (entries.map Prod.fst).Nodup

section Children

variable
    {entries : List (String × FileTree)}
    {name : String}
    {place : FileTree}

theorem child?_of_mem
    (distinct : (entries.map Prod.fst).Nodup)
    (isEntry : (name, place) ∈ entries) :
    child? entries name = some place := by
  induction entries with
  | nil => cases isEntry
  | cons entry later induction =>
      simp only [List.map_cons, List.nodup_cons] at distinct
      rcases List.mem_cons.mp isEntry with rfl | isLater
      · simp [child?]
      · have differs : entry.1 ≠ name := by
          intro same
          exact distinct.1 (List.mem_map.mpr ⟨_, isLater, same.symm⟩)
        have found := induction distinct.2 isLater
        simpa [child?, differs] using found

end Children

/-! ## Following a path -/

section Follow

variable
    {ancestors : List FileTree}
    {start place : FileTree}
    {entries : List (String × FileTree)}
    {names : List String}
    {name : String}

/--
Names either get stuck, whatever comes behind them, or lead to a place from
where everything behind them is followed.
-/
theorem follow_append_or
    (ancestors : List FileTree)
    (start : FileTree)
    (names : List String) :
    (∃ fault, ∀ rest, follow ancestors start (names ++ rest) = .error fault) ∨
      ∃ older place, ∀ rest,
        follow ancestors start (names ++ rest) = follow older place rest := by
  induction ancestors, start, names using follow.induct with
  | case1 ancestors start => exact Or.inr ⟨ancestors, start, fun _ => rfl⟩
  | case2 ancestors name names bytes =>
      exact Or.inl ⟨.notDirectory, fun _ => by rw [List.cons_append, follow]⟩
  | case3 ancestors name names entries stays induction =>
      simpa only [List.cons_append, follow, if_pos stays] using induction
  | case4 names entries stays induction =>
      simpa [follow] using induction
  | case5 names entries parent older stays induction =>
      simpa [follow] using induction
  | case6 ancestors name names entries moves down long =>
      exact Or.inl ⟨tooLong, fun _ => by
        simp only [List.cons_append, follow, if_neg moves, if_neg down, if_pos long]⟩
  | case7 ancestors name names entries moves down short none =>
      exact Or.inl ⟨.notFound, fun _ => by
        simp only [List.cons_append, follow, if_neg moves, if_neg down, if_neg short, none]⟩
  | case8 ancestors name names entries moves down short child found induction =>
      simpa only [List.cons_append, follow, if_neg moves, if_neg down, if_neg short,
        found] using induction

/-- A name behind a path to a directory leads to the entry of this name. -/
theorem follow_append_name
    (isName : IsEntryName name)
    (found : follow ancestors start names = .ok (directory entries))
    (isChild : child? entries name = some place) :
    follow ancestors start (names ++ [name]) = .ok place := by
  have notLong : ¬ nameLimit < name.utf8ByteSize := Nat.not_lt.mpr isName.short
  rcases follow_append_or ancestors start names with
    ⟨fault, stuck⟩ | ⟨older, reached, goesOn⟩
  · simpa [found] using stuck []
  · have same : directory entries = reached := by
      simpa [found, follow] using goesOn []
    simp [goesOn, ← same, follow, isName.nonempty, isName.not_here, isName.not_back,
      notLong, isChild]

/-- An empty name at the end of a path changes nothing. -/
theorem follow_of_append_empty
    (found : follow ancestors start (names ++ [""]) = .ok place) :
    follow ancestors start names = .ok place := by
  rcases follow_append_or ancestors start names with
    ⟨fault, stuck⟩ | ⟨older, reached, goesOn⟩
  · simp [stuck] at found
  · have atPlace := goesOn []
    rw [List.append_nil] at atPlace
    rw [goesOn] at found
    rw [atPlace]
    cases reached <;> simp_all [follow]

/-- The name of the place itself can be repeated in front of a path. -/
theorem follow_replicate_here (count : Nat) :
    follow ancestors (directory entries) (List.replicate count "." ++ names) =
      follow ancestors (directory entries) names := by
  induction count with
  | zero => rfl
  | succ count induction =>
      simp [List.replicate_succ, follow, induction]

end Follow

/-! ## Finding an entry -/

section Find

variable
    {root place : FileTree}
    {path directoryPath name : String}
    {entries : List (String × FileTree)}

/-- A relative path of names that can be names is followed from the root. -/
theorem find_eq_follow
    (noZero : '\x00' ∉ path.toList)
    (short : path.utf8ByteSize ≤ pathLimit)
    (nonempty : path ≠ "")
    (relative : ¬ ['/'] <+: path.toList) :
    root.find path = follow [] root (namesOf path) := by
  have begins : ¬ path.startsWith "/" = true := by
    rwa [String.startsWith_string_iff]
  rw [find, String.contains_char_eq, if_neg (by simpa using noZero),
    if_neg (Nat.not_lt.mpr short), if_neg (by simp [nonempty, begins])]

theorem find_eq_ok_iff :
    root.find path = .ok place ↔
      '\x00' ∉ path.toList ∧ path.utf8ByteSize ≤ pathLimit ∧
        path ≠ "" ∧ ¬ ['/'] <+: path.toList ∧
        follow [] root (namesOf path) = .ok place := by
  have begins : path.startsWith "/" = true ↔ ['/'] <+: path.toList :=
    String.startsWith_string_iff
  simp only [find, String.contains_char_eq, decide_eq_true_eq, begins]
  grind

/-- The names of the path of an entry are those of its directory and its own. -/
theorem namesOf_entryPath
    (directoryPath : String)
    (noSlash : '/' ∉ name.toList) :
    ∃ before,
      (namesOf directoryPath = before ∨ namesOf directoryPath = before ++ [""]) ∧
        namesOf (entryPath directoryPath name) = before ++ [name] := by
  rcases toList_entryPath_eq_or directoryPath name with ⟨before, ends, path⟩ | path
  · refine ⟨(before.splitOn '/').map String.ofList, Or.inr ?_, ?_⟩
    · simp [namesOf, ends, List.splitOn_append_cons_self]
    · simp [namesOf, path, List.splitOn_append_cons_self,
        List.splitOn_eq_singleton noSlash]
  · refine ⟨namesOf directoryPath, Or.inl rfl, ?_⟩
    simp [namesOf, path, List.splitOn_append_cons_self,
      List.splitOn_eq_singleton noSlash]

/-- An entry of a directory that is found is found exactly if its path is not too long. -/
theorem find_entryPath
    (found : root.find directoryPath = .ok (directory entries))
    (areEntries : AreEntries entries)
    (isEntry : (name, place) ∈ entries) :
    root.find (entryPath directoryPath name) =
      if pathLimit < (entryPath directoryPath name).utf8ByteSize then .error tooLong
      else .ok place := by
  have isName := areEntries.named _ isEntry
  rcases find_eq_ok_iff.mp found with ⟨noZero, -, nonempty, relative, followed⟩
  have noZero' : '\x00' ∉ (entryPath directoryPath name).toList := by
    rw [entryPath_eq_entryPrefix_append, entryPrefix]
    split <;> simp [noZero, isName.no_zero]
  split
  · next long =>
      simp [find, String.contains_char_eq, noZero', long]
  · next short =>
      rw [find_eq_follow noZero' (Nat.not_lt.mp short) (entryPath_ne_empty directoryPath name)
        (not_prefix_entryPath nonempty relative name)]
      rcases namesOf_entryPath directoryPath isName.no_slash with ⟨before, atEnd, names⟩
      have followed' : follow [] root before = .ok (directory entries) := by
        rcases atEnd with same | same
        · rwa [same] at followed
        · rw [same] at followed
          exact follow_of_append_empty followed
      rw [names]
      exact follow_append_name isName followed' (child?_of_mem areEntries.distinct isEntry)

/-- A file that is found is read. -/
theorem readFile_storage_of_find
    {bytes : ByteArray}
    (found : root.find path = .ok (file bytes)) :
    root.storage.readFile path = .ok bytes := by
  simp only [storage, found]
  rfl

/-- A directory that is found lists the names of its entries. -/
theorem listDirectory_storage_of_find
    (found : root.find path = .ok (directory entries)) :
    root.storage.listDirectory path = .ok ((entries.map Prod.fst).map .ok) := by
  simp only [storage, found, List.map_map]
  rfl

/-- The path of an entry is known to lead to a directory if the entry is one and the path short. -/
theorem isDirectory_entryPath_iff
    (found : root.find directoryPath = .ok (directory entries))
    (areEntries : AreEntries entries)
    (isEntry : (name, place) ∈ entries) :
    root.storage.isDirectory (entryPath directoryPath name) = true ↔
      (∃ inner, place = directory inner) ∧
        (entryPath directoryPath name).utf8ByteSize ≤ pathLimit := by
  rw [isDirectory_storage_iff, find_entryPath found areEntries isEntry]
  split
  · next long => simp [Nat.not_le.mpr long]
  · next short => simp [Nat.not_lt.mp short]

end Find

/-! ## Steps that stay -/

/-- The beginning of a path that stays where it is for a number of names. -/
def staying (count : Nat) : String :=
  String.ofList (List.replicate count ['.', '/']).flatten

section Staying

variable
    {root place : FileTree}
    {path : String}
    {entries : List (String × FileTree)}

theorem toList_staying_succ (count : Nat) :
    (staying (count + 1)).toList = '.' :: '/' :: (staying count).toList := by
  simp [staying, List.replicate_succ]

theorem utf8ByteSize_staying (count : Nat) :
    (staying count).utf8ByteSize = 2 * count := by
  induction count with
  | zero => rfl
  | succ count induction =>
      have split : staying (count + 1) = "./" ++ staying count := by
        rw [← String.toList_inj, toList_staying_succ]
        simp
      rw [split, String.utf8ByteSize_append, induction, Nat.mul_succ, Nat.add_comm]
      rfl

theorem namesOf_staying_append (count : Nat) (path : String) :
    namesOf (staying count ++ path) = List.replicate count "." ++ namesOf path := by
  induction count with
  | zero => rfl
  | succ count induction =>
      have first :=
        List.splitOn_append_cons_self_of_not_mem (show '/' ∉ ['.'] by decide)
          (staying count ++ path).toList
      have split :
          (staying (count + 1) ++ path).toList =
            ['.'] ++ '/' :: (staying count ++ path).toList := by
        simp [toList_staying_succ]
      rw [namesOf, split, first, List.map_cons, ← namesOf, induction]
      rfl

/-- What is found is found again behind names that stay, unless the path gets too long. -/
theorem find_staying_append
    (found : (directory entries).find path = .ok place)
    (count : Nat)
    (short : 2 * count + path.utf8ByteSize ≤ pathLimit) :
    (directory entries).find (staying count ++ path) = .ok place := by
  rcases find_eq_ok_iff.mp found with ⟨noZero, -, nonempty, relative, followed⟩
  refine find_eq_ok_iff.mpr ⟨?_, ?_, ?_, ?_, ?_⟩
  · simp [staying, noZero]
  · rwa [String.utf8ByteSize_append, utf8ByteSize_staying]
  · simp [nonempty]
  · cases count with
    | zero => exact relative
    | succ count => simp [toList_staying_succ]
  · rwa [namesOf_staying_append, follow_replicate_here]

end Staying

end FileTree

end TapeMachine
