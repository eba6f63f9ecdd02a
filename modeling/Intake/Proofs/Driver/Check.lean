import Intake.Proofs.Driver.Discovery
import Intake.Validation

/-!
# Checked directories and scanned directories

A catalog passes over the driver files that it cannot read, and a check reports them. Both go
through the same files in the same order. After any number of files they agree: each file has added
a driver to the catalog or an issue to the report, either because it cannot be read or because a
file before it has a driver of the same name.
-/

namespace Intake

namespace Validation

/-- How many of some issues have a code. -/
def countCode (code : String) (issues : List Issue) : Nat :=
  issues.countP fun issue => issue.finding.code = code

theorem countCode_append (code : String) (issues later : List Issue) :
    countCode code (issues ++ later) = countCode code issues + countCode code later :=
  List.countP_append

theorem countCode_eq_zero_iff {code : String} {issues : List Issue} :
    countCode code issues = 0 ↔ ∀ issue ∈ issues, issue.finding.code ≠ code := by
  simp [countCode, List.countP_eq_zero]

/-- How many of some files do not hold a driver that can be read. -/
def unreadable (files : FileTree) (paths : List String) : Nat :=
  paths.countP fun path => (Driver.load files path).toOption.isNone

theorem unreadable_eq_zero_iff {files : FileTree} {paths : List String} :
    unreadable files paths = 0 ↔ ∀ path ∈ paths, ∃ driver, Driver.load files path = .ok driver := by
  have readable (path : String) : ¬ (Driver.load files path).toOption.isNone = true ↔
      ∃ driver, Driver.load files path = .ok driver := by
    cases Driver.load files path <;> simp [Except.toOption]
  rw [unreadable, List.countP_eq_zero]
  exact forall₂_congr fun path _ => readable path

/-- A check and a catalog that went through the same files. -/
structure Agrees (files : FileTree) (paths : List String) (progress : Progress)
    (catalog : DriverCatalog) : Prop where
  ordered : catalog.drivers.Ordered
  owners : ∀ name, Fields.has name progress.owners = Fields.has name catalog.drivers
  unread : countCode "E010" progress.issues = unreadable files paths
  accounted : catalog.drivers.length + countCode "E010" progress.issues +
    countCode "W006" progress.issues = paths.length

section Step

variable {files : FileTree} {paths : List String} {progress : Progress} {catalog : DriverCatalog}
  (agrees : Agrees files paths progress catalog) {path : String}

include agrees

theorem Agrees.step_error {error : Error} (failed : Driver.load files path = .error error) :
    Agrees files (paths ++ [path]) (checkDriver files progress path)
      (catalog.grown (Driver.loadable files [path]) 1) := by
  have checked : checkDriver files progress path =
      { progress with issues := progress.issues ++ [⟨.badDriver error, path⟩] } := by
    rw [checkDriver, failed]
  have passed : Driver.loadable files [path] = [] := by
    simp [Driver.loadable, failed, Except.toOption]
  have reported : countCode "E010" [⟨.badDriver error, path⟩] = 1 ∧
      countCode "W006" [⟨.badDriver error, path⟩] = 0 := by
    simp [countCode, Finding.code]
  rw [checked, passed]
  constructor
  case ordered => exact agrees.ordered
  case owners => exact agrees.owners
  case unread =>
    rw [countCode_append, reported.1, agrees.unread]
    simp [unreadable, failed, Except.toOption]
  case accounted =>
    have accounted := agrees.accounted
    rw [countCode_append, countCode_append, reported.1, reported.2, List.length_append,
      List.length_singleton]
    change catalog.drivers.length + _ + _ = _
    omega

theorem Agrees.step_ok {driver : Driver} (loaded : Driver.load files path = .ok driver) :
    Agrees files (paths ++ [path]) (checkDriver files progress path)
      (catalog.grown (Driver.loadable files [path]) 1) := by
  have entered : Driver.loadable files [path] = [driver] := by
    simp [Driver.loadable, loaded, Except.toOption]
  have checked : (checkDriver files progress path).owners =
        Fields.insert driver.name path progress.owners ∧
      countCode "E010" (checkDriver files progress path).issues =
        countCode "E010" progress.issues ∧
      countCode "W006" (checkDriver files progress path).issues =
        countCode "W006" progress.issues +
          if Fields.has driver.name progress.owners then 1 else 0 := by
    rw [checkDriver, loaded]
    cases owner : Fields.get? driver.name progress.owners <;>
      simp [countCode, Finding.code, Fields.has, owner]
  have drivers : (catalog.grown [driver] 1).drivers =
      Fields.insertSorted driver.name driver catalog.drivers := rfl
  rw [entered]
  constructor
  case ordered => exact agrees.ordered.insertSorted driver.name driver
  case owners =>
    intro name
    rw [checked.1, drivers, Fields.has_insert, Fields.has_insertSorted, agrees.owners]
  case unread =>
    rw [checked.2.1, agrees.unread]
    simp [unreadable, loaded, Except.toOption]
  case accounted =>
    have accounted := agrees.accounted
    have longer := agrees.ordered.length_insertSorted driver.name driver
    rw [checked.2.1, checked.2.2, drivers, longer, agrees.owners, List.length_append,
      List.length_singleton]
    split <;> omega

theorem Agrees.step (isFile : files.isFile path = true) :
    Agrees files (paths ++ [path]) (checkDriver files progress path)
      (DriverCatalog.add files catalog path) := by
  rw [DriverCatalog.add_of_isFile isFile]
  cases loaded : Driver.load files path with
  | error error => exact agrees.step_error loaded
  | ok driver => exact agrees.step_ok loaded

end Step

/-- A check and a catalog that agree still do after any more files. -/
theorem Agrees.foldl {files : FileTree} {before paths : List String} {progress : Progress}
    {catalog : DriverCatalog} (agrees : Agrees files before progress catalog)
    (areFiles : ∀ path ∈ paths, files.isFile path = true) :
    Agrees files (before ++ paths) (paths.foldl (checkDriver files) progress)
      (paths.foldl (DriverCatalog.add files) catalog) := by
  induction paths generalizing before progress catalog with
  | nil => simpa using agrees
  | cons path others ih =>
    rw [List.forall_mem_cons] at areFiles
    have rest := ih (agrees.step areFiles.1) areFiles.2
    rwa [List.append_assoc] at rest

theorem agrees_start (files : FileTree) {catalog : DriverCatalog}
    (empty : catalog.drivers = []) : Agrees files [] {} catalog := by
  constructor
  case ordered => simp [empty, Fields.Ordered]
  case owners =>
    intro name
    rw [empty]
    rfl
  case unread => rfl
  case accounted => simp [empty, countCode]

/-- The issues of a directory with the code of an issue of a file are those of its files. -/
theorem countCode_driverDirectory (files : FileTree) (directory : String) {code : String}
    (ofFile : code = "E010" ∨ code = "W006") :
    countCode code (driverDirectory files directory).issues =
      countCode code
        (((Driver.filesIn? files directory).getD []).foldl (checkDriver files) {}).issues := by
  rw [driverDirectory]
  cases Driver.filesIn? files directory with
  | none => rcases ofFile with rfl | rfl <;> simp [countCode, Finding.code]
  | some paths =>
    rw [countCode_append, Option.getD_some]
    split <;> rcases ofFile with rfl | rfl <;> simp [countCode, Finding.code]

theorem driversChecked_driverDirectory (files : FileTree) (directory : String) :
    (driverDirectory files directory).driversChecked =
      ((Driver.filesIn? files directory).getD []).length := by
  rw [driverDirectory]
  cases Driver.filesIn? files directory <;> rfl

/-- The drivers that a new catalog finds in a directory, and the two kinds of issues that a check of
the directory reports for a driver file, add up to the files; both count the same files, and the
check finds a driver file that cannot be read exactly if there is one. The files are the driver
files that lie directly in the directory, each of them once, in the order of their paths. -/
theorem driverDirectory_accounts (files : FileTree) (directory : String) (creates : Bool) :
    let new : DriverCatalog := { directory := some directory, createsDirectory := creates }
    let catalog := new.discover files
    let report := driverDirectory files directory
    catalog.drivers.length + countCode "E010" report.issues + countCode "W006" report.issues =
        report.driversChecked ∧
      catalog.filesRead = report.driversChecked ∧
      ((∀ issue ∈ report.issues, issue.finding.code ≠ "E010") ↔
        ∀ path ∈ new.filesOf files, ∃ driver, Driver.load files path = .ok driver) ∧
      report.driversChecked = (new.filesOf files).length ∧
      (∀ path, path ∈ new.filesOf files ↔ Driver.IsFileIn files directory path) ∧
      (files.IsProper → (new.filesOf files).Pairwise (· < ·)) := by
  intro new catalog report
  have areFiles : ∀ path ∈ new.filesOf files, files.isFile path = true :=
    fun path => DriverCatalog.isFile_of_mem_filesOf
  have start : Agrees files [] {} { new with discovered := true } := agrees_start files rfl
  have agrees : Agrees files (new.filesOf files)
      ((new.filesOf files).foldl (checkDriver files) {}) catalog := start.foldl areFiles
  have checked : report.driversChecked = (new.filesOf files).length :=
    driversChecked_driverDirectory files directory
  have unread : countCode "E010" report.issues = unreadable files (new.filesOf files) :=
    (countCode_driverDirectory files directory (Or.inl rfl)).trans agrees.unread
  have shared := countCode_driverDirectory files directory (Or.inr rfl)
  refine ⟨?_, ?_, ?_, checked, fun path => Driver.mem_filesIn?_iff, new.ordered_filesOf⟩
  · rw [checked, unread, ← agrees.unread, shared]
    exact agrees.accounted
  · have read : catalog.filesRead = 0 + (new.filesOf files).length :=
      congrArg DriverCatalog.filesRead (DriverCatalog.discover_of_new rfl files)
    rw [read, checked, Nat.zero_add]
  · rw [← countCode_eq_zero_iff, unread]
    exact unreadable_eq_zero_iff

section Redeem

open DriverCatalog

theorem filesOf_redeemFiles (creates : Bool) :
    filesOf { directory := some "drivers", createsDirectory := creates } redeemFiles =
      ["drivers/a.json", "drivers/b.json", "drivers/broken.json"] :=
  congrArg (Option.getD · []) filesIn?_redeemFiles

/-- Of two files with drivers of one name and a file that cannot be read, one driver is found, and
an issue each tells of the other two files. -/
theorem driverDirectory_accounts_redeem :
    let new : DriverCatalog := { directory := some "drivers", createsDirectory := false }
    let report := driverDirectory redeemFiles "drivers"
    redeemFiles.IsProper ∧ (new.filesOf redeemFiles).Pairwise (· < ·) ∧
      Driver.IsFileIn redeemFiles "drivers" "drivers/broken.json" ∧
      report.driversChecked = 3 ∧ (new.discover redeemFiles).drivers.length = 1 ∧
      countCode "E010" report.issues = 1 ∧ countCode "W006" report.issues = 1 := by
  intro new report
  have proper : redeemFiles.IsProper := by constructor <;> decide +kernel
  obtain ⟨accounts, -, -, checked, listed, ordered⟩ :=
    driverDirectory_accounts redeemFiles "drivers" false
  have files := filesOf_redeemFiles false
  have three : report.driversChecked = 3 := checked.trans (congrArg List.length files)
  have unread : countCode "E010" report.issues = 1 := by
    rw [countCode_driverDirectory redeemFiles "drivers" (Or.inl rfl), filesIn?_redeemFiles]
    decide +kernel
  have shared : countCode "W006" report.issues = 1 := by
    rw [countCode_driverDirectory redeemFiles "drivers" (Or.inr rfl), filesIn?_redeemFiles]
    decide +kernel
  have found : (new.discover redeemFiles).drivers.length = 1 := by
    have added : (new.discover redeemFiles).drivers.length + 1 + 1 = 3 := by
      rw [← three, ← accounts, unread, shared]
    omega
  refine ⟨proper, ordered proper, (listed _).1 ?_, three, found, unread, shared⟩
  rw [files]
  decide

end Redeem

end Validation

end Intake
