import TapeMachine.Proofs.Files.Tree
import Mathlib.Data.List.Nodup

/-!
# Loading a directory

Every file of a directory whose name is that of a description is reported once,
with its description or with its error, and nothing else is reported but the
entries that cannot be listed.  The order is settled by the paths: sorting works
since the comparison of two results is transitive and total, and the paths of a
directory differ, so no two descriptions can change places.

What is passed over is what is known to be a directory.  This is every
directory unless its path is too long to be followed; such a directory is
reported as a file that cannot be read.
-/

namespace TapeMachine

/-- A name is that of a description if it is the extension behind a stem that is not empty. -/
theorem isDescriptionName_iff {name : String} :
    isDescriptionName name = true ↔
      ∃ stem, stem ≠ "" ∧ name = stem ++ "." ++ descriptionExtension := by
  simp only [isDescriptionName, Bool.and_eq_true, List.isSuffixOf_iff_suffix,
    decide_eq_true_eq]
  constructor
  · rintro ⟨⟨stem, split⟩, longer⟩
    refine ⟨String.ofList stem, ?_, ?_⟩
    · rintro empty
      have nothing : stem = [] := by simpa using congrArg String.toList empty
      rw [← split, nothing] at longer
      simp at longer
    · rw [← String.toList_inj, ← split]
      simp
  · rintro ⟨stem, nonempty, rfl⟩
    have stemNonempty : 0 < stem.toList.length := by
      rw [List.length_pos_iff]
      simpa using nonempty
    have point : ".".toList.length = 1 := rfl
    refine ⟨⟨stem.toList, by simp⟩, ?_⟩
    simp only [String.toList_append, List.length_append, List.length_cons]
    omega

namespace Storage

/-! ## The order of results -/

namespace Loaded

@[simp]
theorem comesFirst_ok_ok (left right : String × Description) :
    comesFirst (.ok left) (.ok right) = true ↔ left.1 ≤ right.1 := by
  simp only [comesFirst, Bool.not_eq_true', decide_eq_false_iff_not, String.not_lt]

@[simp]
theorem comesFirst_error (first : Loaded) (error : MachineError) :
    first.comesFirst (.error error) = true := by
  cases first <;> rfl

@[simp]
theorem comesFirst_error_ok (error : MachineError) (right : String × Description) :
    comesFirst (.error error) (.ok right) = false :=
  rfl

theorem comesFirst_trans
    (first second third : Loaded)
    (firstSecond : first.comesFirst second = true)
    (secondThird : second.comesFirst third = true) :
    first.comesFirst third = true := by
  cases third with
  | error => exact comesFirst_error ..
  | ok third =>
      cases second with
      | error => simp at secondThird
      | ok second =>
          cases first with
          | error => simp at firstSecond
          | ok first =>
              rw [comesFirst_ok_ok] at *
              exact String.le_trans firstSecond secondThird

theorem comesFirst_total (first second : Loaded) :
    (first.comesFirst second || second.comesFirst first) = true := by
  rw [Bool.or_eq_true]
  cases second with
  | error => exact Or.inl (comesFirst_error ..)
  | ok second =>
      cases first with
      | error => exact Or.inr (comesFirst_error ..)
      | ok first =>
          rw [comesFirst_ok_ok, comesFirst_ok_ok]
          exact String.le_total ..

/-- Results in order are descriptions in the order of their paths, and then errors. -/
theorem exists_eq_append_of_pairwise
    {results : List Loaded}
    (inOrder : results.Pairwise fun first second => first.comesFirst second = true) :
    ∃ (loaded : List (String × Description)) (errors : List MachineError),
      results = loaded.map .ok ++ errors.map .error ∧
        (loaded.map Prod.fst).Pairwise (· ≤ ·) := by
  induction results with
  | nil => exact ⟨[], [], rfl, List.Pairwise.nil⟩
  | cons result later induction =>
      rw [List.pairwise_cons] at inOrder
      rcases induction inOrder.2 with ⟨loaded, errors, rfl, sorted⟩
      cases result with
      | ok found =>
          refine ⟨found :: loaded, errors, rfl, ?_⟩
          rw [List.map_cons, List.pairwise_cons]
          refine ⟨fun path isPath => ?_, sorted⟩
          rcases List.mem_map.mp isPath with ⟨other, isLater, rfl⟩
          exact (comesFirst_ok_ok ..).mp
            (inOrder.1 _ (List.mem_append_left _ (List.mem_map_of_mem isLater)))
      | error error =>
          -- No description can stand behind an error.
          cases loaded with
          | nil => exact ⟨[], error :: errors, rfl, List.Pairwise.nil⟩
          | cons found loaded => simpa using inOrder.1 (.ok found)

/-- The path of a result that is a description. -/
def path? : Loaded → Option String
  | .ok (path, _) => some path
  | .error _ => none

end Loaded

/-! ## What is reported -/

theorem eq_entryPath_of_path?_loadFile
    {storage : Storage}
    {directory name path : String}
    (isPath : (storage.loadFile directory name).path? = some path) :
    path = entryPath directory name := by
  unfold loadFile at isPath
  cases loaded : storage.loadDescription (entryPath directory name) <;>
    simp_all [Loaded.path?, Except.map]

/--
The results of a directory report the files of certain names: there is one
result for each of them, a description or the error that loading the file gives,
and one for each entry that could not be listed; the descriptions come first,
in the strict order of their paths.
-/
structure Reports
    (storage : Storage)
    (directory : String)
    (isReported : String → Prop)
    (faults : List Fault)
    (results : List Loaded) : Prop where
  once : ∃ names : List String,
    names.Nodup ∧ (∀ name, name ∈ names ↔ isReported name) ∧
      results.Perm
        (names.map (fun name =>
            (storage.loadDescription (entryPath directory name)).map
              (entryPath directory name, ·)) ++
          faults.map fun fault => .error (.unreadable (.entry fault)))
  inOrder : ∃ (loaded : List (String × Description)) (errors : List MachineError),
    results = loaded.map .ok ++ errors.map .error ∧
      (loaded.map Prod.fst).Pairwise (· < ·)

theorem Reports.congr
    {storage : Storage}
    {directory : String}
    {isReported isReported' : String → Prop}
    {faults : List Fault}
    {results : List Loaded}
    (reports : storage.Reports directory isReported faults results)
    (same : ∀ name, isReported name ↔ isReported' name) :
    storage.Reports directory isReported' faults results := by
  rwa [funext fun name => propext (same name)] at reports

section Reported

variable
    {storage : Storage}
    {directory : String}
    {names : List String}
    {faults : List Fault}
    {results : List Loaded}

/-- No two files of a directory are loaded from one path. -/
theorem nodup_path?_of_perm
    (distinct : names.Nodup)
    (perm : results.Perm
      (names.map (storage.loadFile directory) ++
        faults.map fun fault => .error (.unreadable (.entry fault)))) :
    (results.filterMap Loaded.path?).Nodup := by
  have ofNames :
      (results.filterMap Loaded.path?).Perm
        (names.filterMap fun name => (storage.loadFile directory name).path?) := by
    refine (perm.filterMap Loaded.path?).trans (List.Perm.of_eq ?_)
    simp [List.filterMap_append, List.filterMap_map, Function.comp_def, Loaded.path?]
  rw [ofNames.nodup_iff]
  refine distinct.filterMap fun left right path isLeft isRight => ?_
  apply entryPath_injective directory
  rw [← eq_entryPath_of_path?_loadFile isLeft, ← eq_entryPath_of_path?_loadFile isRight]

/-- Sorting the results of certain files gives what reports these files. -/
theorem reports_mergeSort
    {isReported : String → Prop}
    (distinct : names.Nodup)
    (areReported : ∀ name, name ∈ names ↔ isReported name)
    (perm : results.Perm
      (names.map (storage.loadFile directory) ++
        faults.map fun fault => .error (.unreadable (.entry fault)))) :
    storage.Reports directory isReported faults (results.mergeSort Loaded.comesFirst) := by
  have permSorted :=
    (List.mergeSort_perm results Loaded.comesFirst).trans perm
  refine ⟨⟨names, distinct, areReported, permSorted⟩, ?_⟩
  have pairwise :=
    List.pairwise_mergeSort Loaded.comesFirst_trans Loaded.comesFirst_total results
  rcases Loaded.exists_eq_append_of_pairwise pairwise with
    ⟨loaded, errors, split, sorted⟩
  have noTwice : (loaded.map Prod.fst).Nodup := by
    have noTwice := nodup_path?_of_perm distinct permSorted
    rw [split] at noTwice
    simpa [List.filterMap_append, List.filterMap_map, Function.comp_def,
      Loaded.path?, List.filterMap_eq_map'] using noTwice
  refine ⟨loaded, errors, split, sorted.imp₂ (fun first second atMost differ => ?_) noTwice⟩
  exact String.not_le.mp fun atLeast => differ (String.le_antisymm atMost atLeast)

/-- A directory that can be listed reports its files that are named as descriptions are. -/
theorem reports_loadAll
    {listed : List (Except Fault String)}
    (listing : storage.listDirectory directory = .ok listed)
    (arranged : listed.Perm (names.map Except.ok ++ faults.map Except.error))
    (distinct : names.Nodup) :
    storage.Reports directory
      (fun name =>
        name ∈ names ∧ isDescriptionName name = true ∧
          storage.isDirectory (entryPath directory name) = false)
      faults (storage.loadAll directory) := by
  have isFiltered :
      (names.map Except.ok ++ faults.map Except.error).filterMap (storage.loadEntry? directory) =
        (names.filter fun name =>
            isDescriptionName name && !storage.isDirectory (entryPath directory name)).map
          (storage.loadFile directory) ++
        faults.map fun fault => .error (.unreadable (.entry fault)) := by
    rw [List.filterMap_append, List.filterMap_map, List.filterMap_map]
    congr 1
    · rw [← List.filterMap_eq_map, List.filterMap_filter]
      apply List.filterMap_congr
      intro name _
      simp only [Function.comp_apply, loadEntry?]
      grind
    · rw [← List.filterMap_eq_map]
      rfl
  have loadAll_eq :
      storage.loadAll directory =
        (listed.filterMap (storage.loadEntry? directory)).mergeSort Loaded.comesFirst := by
    rw [loadAll, listing]
  rw [loadAll_eq]
  refine reports_mergeSort (distinct.filter _) (fun name => ?_)
    ((arranged.filterMap _).trans (List.Perm.of_eq isFiltered))
  simp

end Reported

/-! ## What is reported of a directory -/

/--
Loading a directory reports each of its files with the name of a description
once, and in order.  This holds of any storage, whatever it knows to be a
directory, and however it lists the entries; a directory that cannot be listed
gives one error instead.  In a file tree what is passed over is every directory
whose path is not too long.
-/
theorem loadAll_reports_each_description (directory : String) :
    (∀ (storage : Storage) (fault : Fault),
      storage.listDirectory directory = .error fault →
        storage.loadAll directory =
          [.error (.unreadable (.directory directory fault))]) ∧
    (∀ (storage : Storage) (listed : List (Except Fault String))
        (names : List String) (faults : List Fault),
      storage.listDirectory directory = .ok listed →
      listed.Perm (names.map Except.ok ++ faults.map Except.error) →
      names.Nodup →
        storage.Reports directory
          (fun name =>
            name ∈ names ∧
              (∃ stem, stem ≠ "" ∧ name = stem ++ "." ++ descriptionExtension) ∧
              storage.isDirectory (entryPath directory name) = false)
          faults (storage.loadAll directory)) ∧
    (∀ (root : FileTree) (entries : List (String × FileTree)),
      root.find directory = .ok (.directory entries) →
      FileTree.AreEntries entries →
        root.storage.Reports directory
          (fun name =>
            ∃ place, (name, place) ∈ entries ∧
              (∃ stem, stem ≠ "" ∧ name = stem ++ "." ++ descriptionExtension) ∧
              ((∃ inner, place = .directory inner) →
                FileTree.pathLimit < (entryPath directory name).utf8ByteSize))
          [] (root.storage.loadAll directory)) := by
  refine ⟨?_, ?_, ?_⟩
  · intro storage fault unlisted
    rw [loadAll, unlisted]
  · intro storage listed names faults listing arranged distinct
    simpa only [isDescriptionName_iff] using reports_loadAll listing arranged distinct
  · intro root entries found areEntries
    have noFaults :
        ((entries.map Prod.fst).map Except.ok : List (Except Fault String)).Perm
          ((entries.map Prod.fst).map Except.ok ++ ([] : List Fault).map Except.error) :=
      List.Perm.of_eq (List.append_nil _).symm
    refine (reports_loadAll (FileTree.listDirectory_storage_of_find found) noFaults
      areEntries.distinct).congr fun name => ?_
    simp only [isDescriptionName_iff, List.mem_map, Prod.exists, exists_and_right,
      exists_eq_right]
    constructor
    · rintro ⟨⟨place, isEntry⟩, named, notDirectory⟩
      refine ⟨place, isEntry, named, fun isDirectory => ?_⟩
      by_contra short
      have known :=
        (FileTree.isDirectory_entryPath_iff found areEntries isEntry).mpr
          ⟨isDirectory, Nat.not_lt.mp short⟩
      rw [known] at notDirectory
      cases notDirectory
    · rintro ⟨place, isEntry, named, long⟩
      refine ⟨⟨place, isEntry⟩, named, Bool.eq_false_iff.mpr fun known => ?_⟩
      rcases (FileTree.isDirectory_entryPath_iff found areEntries isEntry).mp known with
        ⟨isDirectory, short⟩
      exact absurd (long isDirectory) (Nat.not_lt.mpr short)

/-- A directory with a file, another file, a directory and a file that is no description. -/
def mixedFolder : List (String × FileTree) :=
  [("b.tm", .file "x".toUTF8), ("a.tm", .file "start: s".toUTF8),
    ("c.tm", .directory []), ("words.txt", .file "101".toUTF8)]

theorem areEntries_mixedFolder : FileTree.AreEntries mixedFolder := by
  refine ⟨?_, by decide⟩
  simp only [mixedFolder, List.forall_mem_cons, List.not_mem_nil, false_imp_iff,
    implies_true, and_true]
  refine ⟨?_, ?_, ?_, ?_⟩ <;> constructor <;> decide

/-- Storage that lists a file, which it cannot read, and an entry without its name. -/
def halfListed : Storage where
  readFile _ := .error .notFound
  isDirectory _ := false
  listDirectory _ := .ok [.error (.other "Input/output error (os error 5)"), .ok "a.tm"]

/--
A directory that is missing gives an error, an entry without its name gives
another, and of two files, a directory and a file with another extension the
two files are reported.
-/
theorem loadAll_reports_each_description_mixedFolder :
    (FileTree.directory []).storage.loadAll "d" =
        [.error (.unreadable (.directory "d" .notFound))] ∧
      halfListed.Reports "d" (fun name => name = "a.tm")
        [.other "Input/output error (os error 5)"] (halfListed.loadAll "d") ∧
      (FileTree.directory [("d", .directory mixedFolder)]).storage.Reports "d"
        (fun name => name = "a.tm" ∨ name = "b.tm") []
        ((FileTree.directory [("d", .directory mixedFolder)]).storage.loadAll "d") := by
  have unlisted :
      (FileTree.directory []).storage.listDirectory "d" = .error .notFound := by
    have unfound : (FileTree.directory []).find "d" = .error .notFound := by
      rw [FileTree.find_eq_follow (by decide) (by decide) (by decide) (by decide)]
      rfl
    simp only [FileTree.storage, unfound]
    rfl
  have found :
      (FileTree.directory [("d", .directory mixedFolder)]).find "d" =
        .ok (.directory mixedFolder) := by
    rw [FileTree.find_eq_ok_iff]
    exact ⟨by decide, by decide, by decide, by decide, rfl⟩
  refine ⟨(loadAll_reports_each_description "d").1 _ _ unlisted, ?_, ?_⟩
  · refine ((loadAll_reports_each_description "d").2.1 halfListed _ ["a.tm"]
      [.other "Input/output error (os error 5)"] rfl
      (List.Perm.swap ..) (by decide)).congr fun name => ?_
    simp only [← isDescriptionName_iff, List.mem_singleton]
    constructor
    · exact fun reported => reported.1
    · rintro rfl
      exact ⟨rfl, by decide, rfl⟩
  · refine ((loadAll_reports_each_description "d").2.2 _ _ found
      areEntries_mixedFolder).congr fun name => ?_
    simp only [← isDescriptionName_iff]
    constructor
    · rintro ⟨place, isEntry, named, long⟩
      simp only [mixedFolder, List.mem_cons, Prod.mk.injEq, List.not_mem_nil,
        or_false] at isEntry
      rcases isEntry with ⟨rfl, -⟩ | ⟨rfl, -⟩ | ⟨rfl, rfl⟩ | ⟨rfl, -⟩
      · exact Or.inr rfl
      · exact Or.inl rfl
      · exact absurd (long ⟨_, rfl⟩) (by decide +kernel)
      · exact absurd named (by decide)
    · rintro (rfl | rfl)
      · exact ⟨_, List.mem_cons_of_mem _ List.mem_cons_self, by decide, by simp⟩
      · exact ⟨_, List.mem_cons_self, by decide, by simp⟩

/-! ## A directory whose entries have paths that are too long -/

/-- A directory named as a description is, alone in a directory. -/
def lonelyFolder : List (String × FileTree) := [("x.tm", .directory [])]

/-- The file tree with this directory. -/
def lonelyTree : FileTree := .directory [("d", .directory lonelyFolder)]

/-- A path to a directory that leaves too little room for the names of its entries. -/
def longPath : String := FileTree.staying 2045 ++ "d"

theorem find_longPath :
    lonelyTree.find longPath = .ok (.directory lonelyFolder) := by
  refine FileTree.find_staying_append ?_ 2045 (by decide)
  rw [FileTree.find_eq_ok_iff]
  exact ⟨by decide, by decide, by decide, by decide, rfl⟩

theorem entryPath_longPath (name : String) :
    entryPath longPath name = longPath ++ ("/" ++ name) := by
  rw [← String.toList_inj]
  rcases toList_entryPath_eq_or longPath name with ⟨before, ends, -⟩ | path
  · have last := congrArg List.getLast? ends
    simp [longPath] at last
  · simpa using path

theorem areEntries_lonelyFolder : FileTree.AreEntries lonelyFolder := by
  refine ⟨?_, by decide⟩
  simp only [lonelyFolder, List.forall_mem_singleton]
  constructor <;> decide

/-- The path of the only entry is too long, so nobody knows what it leads to. -/
theorem find_entryPath_longPath :
    lonelyTree.find (entryPath longPath "x.tm") = .error FileTree.tooLong := by
  have long : FileTree.pathLimit < (entryPath longPath "x.tm").utf8ByteSize := by
    rw [entryPath_longPath, longPath, String.utf8ByteSize_append,
      String.utf8ByteSize_append, FileTree.utf8ByteSize_staying]
    decide
  have found := FileTree.find_entryPath find_longPath areEntries_lonelyFolder
    (List.mem_singleton_self ("x.tm", FileTree.directory []))
  rwa [if_pos long] at found

theorem loadAll_longPath :
    lonelyTree.storage.loadAll longPath =
      [.error (.unreadable (.file (entryPath longPath "x.tm") FileTree.tooLong))] := by
  have unknown :
      lonelyTree.storage.isDirectory (entryPath longPath "x.tm") = false := by
    simp only [FileTree.storage, find_entryPath_longPath]
  have isNamed : isDescriptionName "x.tm" = true := by decide
  rw [loadAll, FileTree.listDirectory_storage_of_find find_longPath]
  simp only [lonelyFolder, List.map_cons, List.map_nil, List.filterMap_cons,
    List.filterMap_nil, loadEntry?]
  rw [unknown, isNamed]
  simp [loadFile, loadDescription, loadText, readText, FileTree.storage,
    find_entryPath_longPath]
  rfl

/--
Where the path of a directory named as a description is too long, it is not
passed over, but reported as a file that cannot be read.
-/
theorem loadAll_reports_directory_behind_longPath :
    lonelyTree.find longPath = .ok (.directory lonelyFolder) ∧
      FileTree.AreEntries lonelyFolder ∧
      lonelyTree.storage.loadAll longPath =
        [.error (.unreadable (.file (entryPath longPath "x.tm") FileTree.tooLong))] ∧
      ¬ lonelyTree.storage.Reports longPath
          (fun name =>
            ∃ place, (name, place) ∈ lonelyFolder ∧
              (∃ stem, stem ≠ "" ∧ name = stem ++ "." ++ descriptionExtension) ∧
              ¬ ∃ inner, place = .directory inner)
          [] (lonelyTree.storage.loadAll longPath) := by
  refine ⟨find_longPath, areEntries_lonelyFolder, loadAll_longPath, fun reports => ?_⟩
  rcases reports.once with ⟨names, -, areReported, perm⟩
  have none : names = [] := by
    rw [List.eq_nil_iff_forall_not_mem]
    intro name isName
    rcases (areReported name).mp isName with ⟨place, isEntry, -, notDirectory⟩
    rw [lonelyFolder, List.mem_singleton, Prod.mk.injEq] at isEntry
    exact notDirectory ⟨[], isEntry.2⟩
  rw [loadAll_longPath, none] at perm
  simpa using perm.length_eq

end Storage

end TapeMachine
