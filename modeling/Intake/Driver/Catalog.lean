import Intake.Driver.Reader

/-!
# Catalogs of drivers

Drivers by name. The first look-up reads every driver file of a directory, in the order of their
names, so that of two drivers with one name the later file wins; a file that cannot be read is
passed over. Later look-ups read no files until the catalog is read anew. Drivers can also be put
in without a file.
-/

namespace Intake

namespace Driver

/-- The driver files that lie directly in a directory, in order. -/
def filesIn? (files : FileTree) (directory : String) : Option (List String) :=
  (files.names? directory).map fun names =>
    (names.map (FilePath.join directory)).filter fun path =>
      files.isFile path && (FileFormat.ofPath? path).isSome

/-- Whether a path is that of a driver file that lies directly in a directory. -/
def IsFileIn (files : FileTree) (directory path : String) : Prop :=
  ∃ place name entry, files.place? directory = some place ∧
    files.entry? place = some .directory ∧ (place ++ [name], entry) ∈ files.entries ∧
    path = FilePath.join directory name ∧ files.isFile path = true ∧
    (FileFormat.ofPath? path).isSome = true

theorem filesIn?_eq_some_iff {files : FileTree} {directory : String} {paths : List String} :
    filesIn? files directory = some paths ↔ ∃ names, files.names? directory = some names ∧
      paths = (names.map (FilePath.join directory)).filter fun path =>
        files.isFile path && (FileFormat.ofPath? path).isSome := by
  rw [filesIn?, Option.map_eq_some_iff]
  simp only [eq_comm]

/-- Of a directory exactly the driver files are listed that lie directly in it. -/
theorem mem_filesIn?_iff {files : FileTree} {directory path : String} :
    path ∈ (filesIn? files directory).getD [] ↔ IsFileIn files directory path := by
  rw [filesIn?]
  cases listed : files.names? directory with
  | none =>
    constructor
    · intro member
      cases member
    · rintro ⟨place, name, entry, leads, isDirectory, -⟩
      rw [FileTree.names?_eq_some_iff.2 ⟨place, leads, isDirectory, rfl⟩] at listed
      cases listed
  | some names =>
    obtain ⟨place, leads, isDirectory, -⟩ := FileTree.names?_eq_some_iff.1 listed
    rw [Option.map_some, Option.getD_some, List.mem_filter, List.mem_map, Bool.and_eq_true]
    constructor
    · rintro ⟨⟨name, member, rfl⟩, isFile, isDriver⟩
      obtain ⟨entry, inside⟩ := (FileTree.mem_names?_iff listed leads).1 member
      exact ⟨place, name, entry, leads, isDirectory, inside, rfl, isFile, isDriver⟩
    · rintro ⟨place', name, entry, leads', -, inside, rfl, isFile, isDriver⟩
      obtain rfl : place = place' := Option.some.inj (leads.symm.trans leads')
      have member := (FileTree.mem_names?_iff listed leads).2 ⟨entry, inside⟩
      exact ⟨⟨name, member, rfl⟩, isFile, isDriver⟩

/-- Each driver file is listed once, in the order of the paths. -/
theorem ordered_filesIn? {files : FileTree} (proper : files.IsProper) (directory : String) :
    ((filesIn? files directory).getD []).Pairwise (· < ·) := by
  cases found : filesIn? files directory with
  | none => exact List.Pairwise.nil
  | some paths =>
    obtain ⟨names, listed, rfl⟩ := filesIn?_eq_some_iff.1 found
    have increasing : names.Pairwise (· < ·) :=
      ((FileTree.sorted_names? listed).and (FileTree.nodup_names? listed proper)).imp
        fun pair => Std.lt_of_le_of_ne pair.1 pair.2
    apply List.Pairwise.filter
    rw [List.pairwise_map]
    apply increasing.imp_of_mem
    intro name other member member' before
    exact FilePath.join_lt_join directory (FileTree.not_slash_of_mem_names? listed proper member)
      (FileTree.not_slash_of_mem_names? listed proper member') before

end Driver

/-- Drivers by name, and where to find more. -/
structure DriverCatalog where
  directory : Option String := none
  /-- Whether a missing directory is made when it is first looked into. -/
  createsDirectory : Bool := false
  /-- Whether the directory has been looked into. -/
  discovered : Bool := false
  /-- The drivers in the order of their names. -/
  drivers : Fields Driver := []
  /-- How many driver files have been read. -/
  filesRead : Nat := 0

structure CatalogSummary where
  total : Nat
  names : List String
  sources : List String
  targets : List String
deriving DecidableEq

namespace DriverCatalog

def register (catalog : DriverCatalog) (driver : Driver) : DriverCatalog :=
  { catalog with drivers := Fields.insertSorted driver.name driver catalog.drivers }

/-- The driver of a file, which is not put into the catalog, and the catalog afterwards. -/
def load (catalog : DriverCatalog) (files : FileTree) (path : String) :
    Except Error Driver × DriverCatalog :=
  if files.isFile path then
    (Driver.load files path, { catalog with filesRead := catalog.filesRead + 1 })
  else (.error (.file path .noDriverFile), catalog)

/-- The catalog with the driver of a file, if it can be read. -/
def add (files : FileTree) (catalog : DriverCatalog) (path : String) : DriverCatalog :=
  match catalog.load files path with
  | (.ok driver, after) => after.register driver
  | (.error _, after) => after

/-- The driver files that a catalog reads. -/
def filesOf (catalog : DriverCatalog) (files : FileTree) : List String :=
  (catalog.directory.bind (Driver.filesIn? files)).getD []

theorem filesOf_eq {catalog : DriverCatalog} {directory : String}
    (root : catalog.directory = some directory) (files : FileTree) :
    catalog.filesOf files = (Driver.filesIn? files directory).getD [] := by
  rw [filesOf, root, Option.bind_some]

theorem mem_filesOf_iff {catalog : DriverCatalog} {files : FileTree} {path : String} :
    path ∈ catalog.filesOf files ↔
      ∃ directory ∈ catalog.directory, Driver.IsFileIn files directory path := by
  cases root : catalog.directory with
  | none => simp [filesOf, root]
  | some directory => simp [filesOf_eq root, Driver.mem_filesIn?_iff]

theorem ordered_filesOf (catalog : DriverCatalog) {files : FileTree} (proper : files.IsProper) :
    (catalog.filesOf files).Pairwise (· < ·) := by
  cases root : catalog.directory with
  | none =>
    rw [filesOf, root]
    exact List.Pairwise.nil
  | some directory =>
    rw [filesOf_eq root]
    exact Driver.ordered_filesIn? proper directory

/-- The catalog after its directory has been looked into, which happens once. -/
def discover (catalog : DriverCatalog) (files : FileTree) : DriverCatalog :=
  if catalog.discovered then catalog
  else (catalog.filesOf files).foldl (add files) { catalog with discovered := true }

/-- The files after the directory of a catalog has been looked into. -/
def filesAfter (catalog : DriverCatalog) (files : FileTree) : FileTree :=
  match catalog.directory with
  | none => files
  | some directory =>
    if catalog.discovered ∨ files.isThere directory ∨ !catalog.createsDirectory then files
    else files.makeDirectories directory

/-- The catalog without its drivers, as if its directory had not been looked into. -/
def forget (catalog : DriverCatalog) : DriverCatalog :=
  { catalog with drivers := [], discovered := false }

def reload (catalog : DriverCatalog) (files : FileTree) : DriverCatalog :=
  catalog.forget.discover files

/-- A look-up: an answer from the drivers after the directory has been looked into, and the catalog
afterwards. -/
def inspect {α : Type} (catalog : DriverCatalog) (files : FileTree)
    (answer : Fields Driver → α) : α × DriverCatalog :=
  let after := catalog.discover files
  (answer after.drivers, after)

def get? (catalog : DriverCatalog) (files : FileTree) (name : String) :
    Option Driver × DriverCatalog :=
  catalog.inspect files (Fields.get? name)

/-- The driver of a name, which must be known. -/
def require (catalog : DriverCatalog) (files : FileTree) (name : String) :
    Except Error Driver × DriverCatalog :=
  catalog.inspect files fun drivers =>
    match Fields.get? name drivers with
    | some driver => .ok driver
    | none => .error (.unknownDriver name)

def has (catalog : DriverCatalog) (files : FileTree) (name : String) : Bool × DriverCatalog :=
  catalog.inspect files (Fields.has name)

/-- All drivers in the order of their names. -/
def all (catalog : DriverCatalog) (files : FileTree) : List Driver × DriverCatalog :=
  catalog.inspect files Fields.contents

def names (catalog : DriverCatalog) (files : FileTree) : List String × DriverCatalog :=
  catalog.inspect files Fields.names

def bySource (catalog : DriverCatalog) (files : FileTree) (source : String) :
    List Driver × DriverCatalog :=
  catalog.inspect files fun drivers =>
    (Fields.contents drivers).filter fun driver => driver.source = source

def byTarget (catalog : DriverCatalog) (files : FileTree) (target : String) :
    List Driver × DriverCatalog :=
  catalog.inspect files fun drivers =>
    (Fields.contents drivers).filter fun driver => driver.target = target

/-- Names in order, each once. -/
def distinct (names : List String) : List String :=
  names.eraseDups.mergeSort fun left right => decide (left ≤ right)

def summaryOf (drivers : Fields Driver) : CatalogSummary :=
  { total := drivers.length
    names := (Fields.contents drivers).map Driver.name
    sources := distinct ((Fields.contents drivers).map Driver.source)
    targets := distinct ((Fields.contents drivers).map Driver.target) }

def summary (catalog : DriverCatalog) (files : FileTree) : CatalogSummary × DriverCatalog :=
  catalog.inspect files summaryOf

end DriverCatalog

namespace CatalogSummary

def toValue (summary : CatalogSummary) : Value :=
  .object
    [("total_drivers", .ofNat summary.total),
      ("driver_names", .array (summary.names.map Value.text)),
      ("source_types", .array (summary.sources.map Value.text)),
      ("target_types", .array (summary.targets.map Value.text))]

end CatalogSummary

end Intake
