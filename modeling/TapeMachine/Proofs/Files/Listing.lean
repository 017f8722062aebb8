import TapeMachine.Proofs.Catalogue.Programs
import TapeMachine.Proofs.Files.Loader
import TapeMachine.Proofs.Text.Encoding

/-!
# The order of a listing

A directory lists its entries in an order of its own.  The descriptions loaded
from it do not depend on this order, since their paths are compared and one path
holds one description.  Errors are not compared: they keep the order in which
the files that fail are listed.

So the results of a directory are settled by its contents exactly if no two of
its files fail with different errors.  Two files with different errors change
places when the directory lists them the other way round.
-/

namespace TapeMachine.Storage

/-! ## Descriptions and errors among results -/

namespace Loaded

/-- The path and the description of a result, if it has one. -/
def found? : Loaded → Option (String × Description)
  | .ok found => some found
  | .error _ => none

/-- The error of a result, if it is one. -/
def error? : Loaded → Option MachineError
  | .ok _ => none
  | .error error => some error

theorem found?_eq_some_iff {result : Loaded} {found : String × Description} :
    result.found? = some found ↔ result = .ok found := by
  cases result <;> simp [found?]

theorem error?_eq_some_iff {result : Loaded} {error : MachineError} :
    result.error? = some error ↔ result = .error error := by
  cases result <;> simp [error?]

/-- Results in order are made of their descriptions and their errors. -/
theorem eq_found_append_errors
    {results : List Loaded}
    (inOrder :
      results.Pairwise fun first second => first.comesFirst second = true) :
    results =
        (results.filterMap found?).map .ok ++
          (results.filterMap error?).map .error ∧
      ((results.filterMap found?).map Prod.fst).Pairwise (· ≤ ·) := by
  rcases exists_eq_append_of_pairwise inOrder with
    ⟨loaded, errors, rfl, sorted⟩
  have isLoaded :
      (loaded.map Except.ok ++ errors.map Except.error).filterMap found? =
        loaded := by
    simp [List.filterMap_append, List.filterMap_map, Function.comp_def, found?]
  have areErrors :
      (loaded.map Except.ok ++ errors.map Except.error).filterMap error? =
        errors := by
    simp [List.filterMap_append, List.filterMap_map, Function.comp_def, error?]
  rw [isLoaded, areErrors]
  exact ⟨rfl, sorted⟩

/-- Sorting keeps the order of errors, because no error comes first among errors. -/
theorem filterMap_error?_mergeSort (results : List Loaded) :
    (results.mergeSort comesFirst).filterMap error? =
      results.filterMap error? := by
  have onlyErrors :
      (results.filter fun result => result.error?.isSome).filterMap error? =
        results.filterMap error? := by
    rw [List.filterMap_filter]
    apply List.filterMap_congr
    intro result _
    cases result <;> rfl
  have errorsInOrder :
      (results.filter fun result => result.error?.isSome).Pairwise
        fun first second => first.comesFirst second = true := by
    apply List.pairwise_of_forall_mem_list
    intro first _ second isError
    rcases Option.isSome_iff_exists.mp (List.mem_filter.mp isError).2 with
      ⟨error, failed⟩
    rw [error?_eq_some_iff.mp failed]
    exact comesFirst_error ..
  have kept :=
    (List.sublist_mergeSort comesFirst_trans comesFirst_total errorsInOrder
      List.filter_sublist).filterMap error?
  rw [onlyErrors] at kept
  have sameLength :=
    ((List.mergeSort_perm results comesFirst).filterMap error?).length_eq
  exact (kept.eq_of_length sameLength.symm).symm

end Loaded

/-! ## Listing one directory in different orders -/

/-- The storage in which one directory lists certain names, all of them readable. -/
def listing
    (storage : Storage) (directory : String) (names : List String) : Storage :=
  { storage with
    listDirectory := fun path =>
      if path = directory then .ok (names.map .ok)
      else storage.listDirectory path }

/-- The error of an entry of a directory, unless it is passed over or can be loaded. -/
def failure?
    (storage : Storage) (directory name : String) : Option MachineError :=
  (storage.loadEntry? directory (.ok name)).bind Loaded.error?

section Listing

variable
    (storage : Storage)
    (directory : String)

theorem loadAll_listing (names : List String) :
    (storage.listing directory names).loadAll directory =
      (names.filterMap fun name =>
        storage.loadEntry? directory (.ok name)).mergeSort
          Loaded.comesFirst := by
  simp only [loadAll, listing, if_true, List.filterMap_map]
  rfl

variable
    {storage directory}

theorem loadEntry?_ok (name : String) :
    storage.loadEntry? directory (.ok name) =
      if storage.isDirectory (entryPath directory name) ||
          !isDescriptionName name then none
      else some (storage.loadFile directory name) :=
  rfl

theorem loadDescription_of_loadEntry?
    {name path : String} {description : Description}
    (loaded :
      storage.loadEntry? directory (.ok name) =
        some (.ok (path, description))) :
    storage.loadDescription path = .ok description := by
  rw [loadEntry?_ok] at loaded
  split at loaded
  · cases loaded
  · rw [Option.some.injEq] at loaded
    unfold loadFile at loaded
    cases read : storage.loadDescription (entryPath directory name) <;>
      simp_all [Except.map]

theorem inOrder_loadAll_listing (names : List String) :
    ((storage.listing directory names).loadAll directory).Pairwise
      fun first second => first.comesFirst second = true := by
  rw [loadAll_listing]
  exact
    List.pairwise_mergeSort Loaded.comesFirst_trans Loaded.comesFirst_total _

theorem perm_loadAll_listing
    {names names' : List String} (rearranged : names'.Perm names) :
    ((storage.listing directory names').loadAll directory).Perm
      ((storage.listing directory names).loadAll directory) := by
  rw [loadAll_listing, loadAll_listing]
  exact
    (List.mergeSort_perm ..).trans
      ((rearranged.filterMap _).trans (List.mergeSort_perm ..).symm)

/-- What is found at a path is the description that loading the path gives. -/
theorem loadDescription_of_found
    {names : List String} {path : String} {description : Description}
    (found :
      (path, description) ∈
        ((storage.listing directory names).loadAll directory).filterMap
          Loaded.found?) :
    storage.loadDescription path = .ok description := by
  rcases List.mem_filterMap.mp found with ⟨result, member, isFound⟩
  rw [Loaded.found?_eq_some_iff] at isFound
  rw [loadAll_listing, List.mem_mergeSort, List.mem_filterMap] at member
  rcases member with ⟨name, -, loaded⟩
  exact loadDescription_of_loadEntry? (isFound ▸ loaded)

/-- The order of a listing makes no difference to the descriptions. -/
theorem found_eq_of_perm
    {names names' : List String} (rearranged : names'.Perm names) :
    ((storage.listing directory names').loadAll directory).filterMap
        Loaded.found? =
      ((storage.listing directory names).loadAll directory).filterMap
        Loaded.found? := by
  have sorted (names : List String) :
      (((storage.listing directory names).loadAll directory).filterMap
          Loaded.found?).Pairwise fun first second => first.1 ≤ second.1 :=
    List.pairwise_map.mp
      (Loaded.eq_found_append_errors (inOrder_loadAll_listing names)).2
  refine
    List.Perm.eq_of_pairwise ?_ (sorted names') (sorted names)
      ((perm_loadAll_listing rearranged).filterMap _)
  rintro ⟨path, description⟩ ⟨path', description'⟩ found found' atMost atLeast
  obtain rfl : path = path' := String.le_antisymm atMost atLeast
  have read := loadDescription_of_found found
  rw [loadDescription_of_found found'] at read
  cases read
  rfl

/-- The errors keep the order of the listing. -/
theorem errors_loadAll_listing (names : List String) :
    ((storage.listing directory names).loadAll directory).filterMap
        Loaded.error? =
      names.filterMap (storage.failure? directory) := by
  rw [loadAll_listing, Loaded.filterMap_error?_mergeSort, List.filterMap_filterMap]
  rfl

/-- The results are the descriptions, in one order, and the errors, in the order of the listing. -/
theorem loadAll_listing_eq
    {names names' : List String} (rearranged : names'.Perm names) :
    (storage.listing directory names').loadAll directory =
      (((storage.listing directory names).loadAll directory).filterMap
          Loaded.found?).map .ok ++
        (names'.filterMap (storage.failure? directory)).map .error := by
  rw [← found_eq_of_perm rearranged, ← errors_loadAll_listing]
  exact (Loaded.eq_found_append_errors (inOrder_loadAll_listing names')).1

theorem loadAll_listing_eq_iff
    {names names' : List String} (rearranged : names'.Perm names) :
    (storage.listing directory names').loadAll directory =
        (storage.listing directory names).loadAll directory ↔
      names'.filterMap (storage.failure? directory) =
        names.filterMap (storage.failure? directory) := by
  constructor
  · intro same
    rw [← errors_loadAll_listing, ← errors_loadAll_listing, same]
  · intro same
    rw [loadAll_listing_eq rearranged, same,
      ← loadAll_listing_eq (List.Perm.refl names)]

end Listing

/-! ## When the order of a listing does not matter -/

/--
Loading a directory gives the same descriptions in the same order, whatever the
order in which the directory lists its entries, and behind them the errors of
the files that fail in the order of the listing.  So the results are the same
list for all orders exactly if no two files fail with different errors.
-/
theorem loadAll_order_free_iff
    (storage : Storage) (directory : String) (names : List String) :
    (∃ loaded : List (String × Description),
      (loaded.map Prod.fst).Pairwise (· ≤ ·) ∧
      ∀ names' : List String, names'.Perm names →
        (storage.listing directory names').loadAll directory =
          loaded.map .ok ++
            (names'.filterMap (storage.failure? directory)).map .error) ∧
    ((∀ left right : List String, left.Perm names → right.Perm names →
        (storage.listing directory left).loadAll directory =
          (storage.listing directory right).loadAll directory) ↔
      ∀ first ∈ names, ∀ second ∈ names, ∀ error error' : MachineError,
        storage.failure? directory first = some error →
          storage.failure? directory second = some error' →
            error = error') := by
  refine ⟨⟨_, ?_, fun names' rearranged => loadAll_listing_eq rearranged⟩, ?_, ?_⟩
  · exact (Loaded.eq_found_append_errors (inOrder_loadAll_listing names)).2
  · intro orderFree first isFirst second isSecond error error' fails fails'
    by_cases same : first = second
    · subst same
      exact Option.some.inj (fails.symm.trans fails')
    · -- Both files are listed in front of all others, in either order.
      have isSecond' : second ∈ names.erase first :=
        (List.mem_erase_of_ne (Ne.symm same)).mpr isSecond
      have inFront :
          (first :: second :: (names.erase first).erase second).Perm names :=
        (((List.perm_cons_erase isSecond').symm.cons first).trans
          (List.perm_cons_erase isFirst).symm)
      have swapped := (List.Perm.swap first second _).trans inFront
      have sameErrors :=
        (loadAll_listing_eq_iff (inFront.trans swapped.symm)).mp
          (orderFree _ _ inFront swapped)
      simp only [List.filterMap_cons, fails, fails', List.cons.injEq] at sameErrors
      exact sameErrors.1
  · intro oneError left right isLeft isRight
    rw [loadAll_listing_eq_iff (isLeft.trans isRight.symm)]
    have anyOrder (errors : List MachineError) :
        errors.Pairwise fun _ _ => True :=
      List.pairwise_of_forall fun _ _ => trivial
    refine
      List.Perm.eq_of_pairwise ?_ (anyOrder _) (anyOrder _)
        ((isLeft.trans isRight.symm).filterMap _)
    intro error error' isError isError' _ _
    rcases List.mem_filterMap.mp isError with ⟨first, listed, fails⟩
    rcases List.mem_filterMap.mp isError' with ⟨second, listed', fails'⟩
    exact
      oneError first (isLeft.mem_iff.mp listed) second
        (isRight.mem_iff.mp listed') error error' fails fails'

/-- Storage in which every path leads to one description, but for one that leads nowhere. -/
def oneMissing : Storage where
  readFile path :=
    if path = "d/a.tm" then .error .notFound
    else .ok Catalogue.palindromeText.toUTF8
  isDirectory _ := false
  listDirectory _ := .error .notFound

theorem failure?_oneMissing
    {name : String} (other : name ≠ "a.tm") :
    oneMissing.failure? "d" name = none := by
  have isPath : entryPath "d" "a.tm" = "d/a.tm" := by decide +kernel
  have elsewhere : entryPath "d" name ≠ "d/a.tm" :=
    fun same => other (entryPath_injective "d" (same.trans isPath.symm))
  have held :
      oneMissing.readFile (entryPath "d" name) =
        .ok Catalogue.palindromeText.toUTF8 :=
    if_neg elsewhere
  have loaded :
      oneMissing.loadDescription (entryPath "d" name) =
        .ok Catalogue.palindrome := by
    simp only [loadDescription, loadText_of_readFile held, bind, Except.bind]
    exact Catalogue.parse_palindromeText
  rw [failure?, loadEntry?_ok, loadFile, loaded]
  split <;> rfl

/-- Two descriptions and a file that is missing: any order of their listing gives the same. -/
theorem loadAll_order_free_iff_oneMissing :
    ["a.tm", "c.tm", "b.tm"].Perm ["b.tm", "a.tm", "c.tm"] ∧
      (oneMissing.listing "d" ["a.tm", "c.tm", "b.tm"]).loadAll "d" =
        (oneMissing.listing "d" ["b.tm", "a.tm", "c.tm"]).loadAll "d" := by
  have rearranged :
      ["a.tm", "c.tm", "b.tm"].Perm ["b.tm", "a.tm", "c.tm"] := by
    decide
  refine ⟨rearranged, ?_⟩
  refine
    (loadAll_order_free_iff oneMissing "d" ["b.tm", "a.tm", "c.tm"]).2.mpr
      ?_ _ _ rearranged (List.Perm.refl _)
  intro first _ second _ error error' fails fails'
  have isMissing {name : String} {error : MachineError}
      (fails : oneMissing.failure? "d" name = some error) : name = "a.tm" := by
    by_contra other
    rw [failure?_oneMissing other] at fails
    cases fails
  rw [isMissing fails] at fails
  rw [isMissing fails'] at fails'
  exact Option.some.inj (fails.symm.trans fails')

/-! ## Two files that fail -/

/-- Entries that are files, each of them a name with the text the file holds. -/
def textFiles (texts : List (String × String)) : List (String × FileTree) :=
  texts.map fun text => (text.1, .file text.2.toUTF8)

/-- A file tree with a single directory, which has these entries. -/
def textTree (texts : List (String × String)) : FileTree :=
  .directory [("d", .directory (textFiles texts))]

/-- What loading such a file comes to. -/
def textResult (text : String × String) : Loaded :=
  (Description.parse text.2).map (entryPath "d" text.1, ·)

/-- A directory of texts gives what they parse to, in order. -/
theorem loadAll_textTree
    {texts : List (String × String)}
    (areEntries : FileTree.AreEntries (textFiles texts))
    (named : ∀ text ∈ texts,
      isDescriptionName text.1 = true ∧
        (entryPath "d" text.1).utf8ByteSize ≤ FileTree.pathLimit) :
    (textTree texts).storage.loadAll "d" =
      (texts.map textResult).mergeSort Loaded.comesFirst := by
  have found :
      (textTree texts).find "d" = .ok (.directory (textFiles texts)) := by
    rw [FileTree.find_eq_ok_iff]
    exact ⟨by decide, by decide, by decide, by decide, rfl⟩
  have entry :
      ∀ text ∈ texts,
        Storage.loadEntry? (textTree texts).storage "d" (.ok text.1) =
          some (textResult text) := by
    intro text isText
    have isEntry : (text.1, FileTree.file text.2.toUTF8) ∈ textFiles texts :=
      List.mem_map_of_mem isText
    have foundEntry := FileTree.find_entryPath found areEntries isEntry
    rw [if_neg (Nat.not_lt.mpr (named text isText).2)] at foundEntry
    have noDirectory :
        (textTree texts).storage.isDirectory (entryPath "d" text.1) = false := by
      simp only [FileTree.storage, foundEntry]
    have held := FileTree.readFile_storage_of_find foundEntry
    rw [loadEntry?_ok, noDirectory, (named text isText).1, loadFile,
      loadDescription, loadText_of_readFile held]
    rfl
  rw [loadAll, FileTree.listDirectory_storage_of_find found]
  simp only [textFiles, List.map_map, List.filterMap_map]
  rw [← List.filterMap_eq_map]
  congr 1
  exact List.filterMap_congr entry

/-- An empty text, by the name of its file. -/
def noStart : String × String :=
  ("a.tm", "")

/-- A text that declares a start state and no more, by the name of its file. -/
def noAccept : String × String :=
  ("b.tm", "start: s")

/--
Two directories with the same two files, which are texts but no descriptions,
give their errors in different orders, because they list the files in different
orders.
-/
theorem loadAll_follows_listing_of_two_errors :
    (textFiles [noAccept, noStart]).Perm (textFiles [noStart, noAccept]) ∧
      FileTree.AreEntries (textFiles [noStart, noAccept]) ∧
      FileTree.AreEntries (textFiles [noAccept, noStart]) ∧
      (textTree [noStart, noAccept]).storage.loadAll "d" =
        [.error (.invalid (.missing .start)),
          .error (.invalid (.missing .accept))] ∧
      (textTree [noAccept, noStart]).storage.loadAll "d" =
        [.error (.invalid (.missing .accept)),
          .error (.invalid (.missing .start))] ∧
      (textTree [noStart, noAccept]).storage.loadAll "d" ≠
        (textTree [noAccept, noStart]).storage.loadAll "d" := by
  have isName : FileTree.IsEntryName "a.tm" := by
    constructor <;> decide
  have isName' : FileTree.IsEntryName "b.tm" := by
    constructor <;> decide
  have areEntries : FileTree.AreEntries (textFiles [noStart, noAccept]) :=
    ⟨by simp [textFiles, noStart, noAccept, isName, isName'], by decide⟩
  have areEntries' : FileTree.AreEntries (textFiles [noAccept, noStart]) :=
    ⟨by simp [textFiles, noStart, noAccept, isName, isName'], by decide⟩
  have failed : textResult noStart = .error (.invalid (.missing .start)) := rfl
  have failed' : textResult noAccept = .error (.invalid (.missing .accept)) := rfl
  have results := loadAll_textTree areEntries (by decide +kernel)
  have results' := loadAll_textTree areEntries' (by decide +kernel)
  simp only [List.map_cons, List.map_nil, failed, failed'] at results results'
  rw [List.mergeSort_of_pairwise (by simp [Loaded.comesFirst])] at results results'
  refine ⟨List.Perm.swap .., areEntries, areEntries', results, results', ?_⟩
  rw [results, results']
  simp

end TapeMachine.Storage
