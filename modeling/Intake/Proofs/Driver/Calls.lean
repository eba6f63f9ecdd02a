import Intake.Driver.Catalog

/-!
# Calls on a catalog of drivers

A catalog is used by calls. Each is made on the files as they are at that moment, and between two
calls the files may change in any way. A call that does not scan the directory enters at most one
driver and reads at most one file; a scan enters the driver of every file that can be read. So a run
of calls is known by the drivers that were entered, in order, and by the files that were read.
-/

namespace Intake

namespace Driver

/-- The drivers of those files that can be read, in the order of the files. -/
def loadable (files : FileTree) (paths : List String) : List Driver :=
  paths.filterMap fun path => (load files path).toOption

/-- The last of some drivers that has a name. -/
def lastNamed? (name : String) (drivers : List Driver) : Option Driver :=
  (drivers.filter fun driver => driver.name = name).getLast?

theorem lastNamed?_cons (name : String) (driver : Driver) (others : List Driver) :
    lastNamed? name (driver :: others) =
      (lastNamed? name others).or (if driver.name = name then some driver else none) := by
  by_cases same : driver.name = name
  · cases last : (others.filter fun other => other.name = name).getLast? <;>
      simp [lastNamed?, same, last, List.getLast?_cons]
  · simp [lastNamed?, same]

theorem lastNamed?_eq_none {name : String} {drivers : List Driver}
    (different : ∀ driver ∈ drivers, driver.name ≠ name) : lastNamed? name drivers = none := by
  simpa [lastNamed?] using different

theorem name_of_lastNamed? {name : String} {drivers : List Driver} {driver : Driver}
    (last : lastNamed? name drivers = some driver) : driver.name = name := by
  have member := List.mem_of_getLast? last
  simpa using (List.mem_filter.1 member).2

/-- The driver files of a directory are read in the order of their names. -/
theorem sorted_filesIn? {files : FileTree} {directory : String} {paths : List String}
    (found : filesIn? files directory = some paths) :
    ∃ names : List String, names.Pairwise (· ≤ ·) ∧
      paths.Sublist (names.map (FilePath.join directory)) := by
  obtain ⟨names, listed, rfl⟩ := filesIn?_eq_some_iff.1 found
  exact ⟨names, FileTree.sorted_names? listed, List.filter_sublist⟩

end Driver

namespace DriverCatalog

/-- A question about the drivers of a catalog. -/
inductive Query where
  | get (name : String)
  | require (name : String)
  | has (name : String)
  | all
  | names
  | bySource (source : String)
  | byTarget (target : String)
  | summary

inductive Request where
  | register (driver : Driver)
  | load (path : String)
  | discover
  | reload
  | query (query : Query)

inductive Answer where
  | done
  | driver (driver : Driver)
  | outcome (outcome : Except Error Driver)
  | found (driver : Option Driver)
  | holds (answer : Bool)
  | drivers (drivers : List Driver)
  | names (names : List String)
  | summary (summary : CatalogSummary)

/-- A request, and the files as they are when it is made. -/
structure Call where
  files : FileTree
  request : Request

def Query.run (query : Query) (files : FileTree) (catalog : DriverCatalog) :
    Answer × DriverCatalog :=
  match query with
  | .get name => Prod.map .found id (catalog.get? files name)
  | .require name => Prod.map .outcome id (catalog.require files name)
  | .has name => Prod.map .holds id (catalog.has files name)
  | .all => Prod.map .drivers id (catalog.all files)
  | .names => Prod.map .names id (catalog.names files)
  | .bySource source => Prod.map .drivers id (catalog.bySource files source)
  | .byTarget target => Prod.map .drivers id (catalog.byTarget files target)
  | .summary => Prod.map .summary id (catalog.summary files)

/-- What a question is answered when some drivers are known. -/
def Query.answer (drivers : Fields Driver) : Query → Answer
  | .get name => .found (Fields.get? name drivers)
  | .require name =>
    .outcome
      (match Fields.get? name drivers with
      | some driver => .ok driver
      | none => .error (.unknownDriver name))
  | .has name => .holds (Fields.has name drivers)
  | .all => .drivers (Fields.contents drivers)
  | .names => .names (Fields.names drivers)
  | .bySource source =>
    .drivers ((Fields.contents drivers).filter fun driver => driver.source = source)
  | .byTarget target =>
    .drivers ((Fields.contents drivers).filter fun driver => driver.target = target)
  | .summary => .summary (summaryOf drivers)

theorem Query.run_eq (query : Query) (files : FileTree) (catalog : DriverCatalog) :
    query.run files catalog =
      (query.answer (catalog.discover files).drivers, catalog.discover files) := by
  cases query <;> rfl

def Call.run (call : Call) (catalog : DriverCatalog) : Answer × DriverCatalog :=
  match call.request with
  | .register driver => (.driver driver, catalog.register driver)
  | .load path => Prod.map .outcome id (catalog.load call.files path)
  | .discover => (.done, catalog.discover call.files)
  | .reload => (.done, catalog.reload call.files)
  | .query query => query.run call.files catalog

theorem run_query (query : Query) (files : FileTree) (catalog : DriverCatalog) :
    Call.run ⟨files, .query query⟩ catalog =
      (query.answer (catalog.discover files).drivers, catalog.discover files) :=
  query.run_eq files catalog

/-- The catalog after some calls, made one after the other. -/
def catalogAfter (catalog : DriverCatalog) (calls : List Call) : DriverCatalog :=
  calls.foldl (fun catalog call => (call.run catalog).2) catalog

/-- Whether a request has the directory scanned, depending on whether that was done before. -/
def Request.scans (discovered : Bool) : Request → Bool
  | .register _ | .load _ => false
  | .discover | .query _ => !discovered
  | .reload => true

theorem Request.scans_true_iff {request : Request} :
    request.scans true = true ↔ request = .reload := by
  cases request <;> simp [scans]

def Request.registered? : Request → Option Driver
  | .register driver => some driver
  | _ => none

/-- Whether a call reads a file that is named in it. -/
def Call.opensFile (call : Call) : Bool :=
  match call.request with
  | .load path => call.files.isFile path
  | _ => false

/-- The drivers that some calls register, in the order of the calls. -/
def registered (calls : List Call) : List Driver :=
  calls.filterMap fun call => call.request.registered?

/-- Known drivers after others were entered under their names, one by one. -/
def entered (drivers : List Driver) (known : Fields Driver) : Fields Driver :=
  drivers.foldl (fun known driver => Fields.insertSorted driver.name driver known) known

theorem entered_append (drivers later : List Driver) (known : Fields Driver) :
    entered (drivers ++ later) known = entered later (entered drivers known) := by
  simp [entered]

/-- Under a name the last driver entered is found, or else the one that was known. -/
theorem get?_entered (name : String) (drivers : List Driver) (known : Fields Driver) :
    Fields.get? name (entered drivers known) =
      (Driver.lastNamed? name drivers).or (Fields.get? name known) := by
  induction drivers generalizing known with
  | nil => rfl
  | cons driver others ih =>
    have first : entered (driver :: others) known =
        entered others (Fields.insertSorted driver.name driver known) := rfl
    rw [first, ih, Fields.get?_insertSorted, Driver.lastNamed?_cons, Option.or_assoc]
    by_cases same : driver.name = name <;> simp [same]

/-- Drivers in the order of their names, each under its own. -/
structure Filed (known : Fields Driver) : Prop where
  ordered : known.Ordered
  named : ∀ field ∈ known, field.2.name = field.1

theorem Filed.entered {known : Fields Driver} (filed : Filed known) (drivers : List Driver) :
    Filed (entered drivers known) := by
  induction drivers generalizing known with
  | nil => exact filed
  | cons driver others ih =>
    apply ih
    refine ⟨filed.ordered.insertSorted driver.name driver, ?_⟩
    intro field member
    rcases Fields.mem_insertSorted member with rfl | old
    · rfl
    · exact filed.named field old

/-- A catalog with drivers entered and so many more files read. -/
def grown (catalog : DriverCatalog) (drivers : List Driver) (count : Nat) : DriverCatalog :=
  { catalog with
    drivers := entered drivers catalog.drivers
    filesRead := catalog.filesRead + count }

theorem grown_grown (catalog : DriverCatalog) (drivers later : List Driver) (count more : Nat) :
    (catalog.grown drivers count).grown later more =
      catalog.grown (drivers ++ later) (count + more) := by
  simp [grown, entered_append, Nat.add_assoc]

theorem add_of_isFile {files : FileTree} {path : String} (isFile : files.isFile path = true)
    (catalog : DriverCatalog) :
    add files catalog path = catalog.grown (Driver.loadable files [path]) 1 := by
  cases loaded : Driver.load files path with
  | error error =>
    simp [add, load, isFile, loaded, Driver.loadable, Except.toOption, grown, entered]
  | ok driver =>
    simp [add, load, isFile, loaded, Driver.loadable, Except.toOption, grown, entered, register]

theorem foldl_add {files : FileTree} {paths : List String}
    (areFiles : ∀ path ∈ paths, files.isFile path = true) (catalog : DriverCatalog) :
    paths.foldl (add files) catalog =
      catalog.grown (Driver.loadable files paths) paths.length := by
  induction paths generalizing catalog with
  | nil => rfl
  | cons path others ih =>
    rw [List.forall_mem_cons] at areFiles
    have split : Driver.loadable files (path :: others) =
        Driver.loadable files [path] ++ Driver.loadable files others := by
      rw [← List.singleton_append, Driver.loadable, List.filterMap_append]
      rfl
    rw [List.foldl_cons, add_of_isFile areFiles.1, ih areFiles.2, grown_grown, split,
      List.length_cons, Nat.add_comm 1]

theorem isFile_of_mem_filesOf {catalog : DriverCatalog} {files : FileTree} {path : String}
    (member : path ∈ catalog.filesOf files) : files.isFile path = true := by
  obtain ⟨directory, -, place, name, entry, -, -, -, -, isFile, -⟩ := mem_filesOf_iff.1 member
  exact isFile

theorem discover_of_discovered {catalog : DriverCatalog} (known : catalog.discovered = true)
    (files : FileTree) : catalog.discover files = catalog :=
  if_pos known

/-- A scan enters the drivers of all files that can be read, and counts every file. -/
theorem discover_of_new {catalog : DriverCatalog} (new : catalog.discovered = false)
    (files : FileTree) :
    catalog.discover files =
      { catalog with discovered := true }.grown
        (Driver.loadable files (catalog.filesOf files)) (catalog.filesOf files).length := by
  rw [discover, new, if_neg Bool.false_ne_true]
  exact foldl_add (fun path => isFile_of_mem_filesOf) _

section Steps

variable {catalog : DriverCatalog} {call : Call}

/-- A call that does not scan the directory enters the driver that it registers, if any. -/
theorem run_of_not_scans (quiet : call.request.scans catalog.discovered = false) :
    (call.run catalog).2 =
      catalog.grown call.request.registered?.toList (if call.opensFile then 1 else 0) := by
  obtain ⟨files, request⟩ := call
  cases request with
  | register driver => rfl
  | load path =>
    cases isFile : files.isFile path <;>
      simp [Call.run, load, Call.opensFile, Request.registered?, isFile, grown, entered]
  | discover =>
    have known : catalog.discovered = true := by simpa [Request.scans] using quiet
    exact discover_of_discovered known files
  | query query =>
    have known : catalog.discovered = true := by simpa [Request.scans] using quiet
    rw [run_query, discover_of_discovered known]
    rfl
  | reload => simp [Request.scans] at quiet

theorem run_of_scans (scanning : call.request.scans false = true)
    (kept : call.request ≠ .reload) :
    (call.run catalog).2 = catalog.discover call.files := by
  obtain ⟨files, request⟩ := call
  cases request with
  | register driver => simp [Request.scans] at scanning
  | load path => simp [Request.scans] at scanning
  | discover => rfl
  | query query => rw [run_query]
  | reload => simp at kept

/-- A call that neither scans the directory nor loads a file does the same on all files. -/
theorem run_eq_of_not_scans (quiet : call.request.scans catalog.discovered = false)
    (unnamed : ∀ path, call.request ≠ .load path) (others : FileTree) :
    call.run catalog = Call.run ⟨others, call.request⟩ catalog := by
  obtain ⟨files, request⟩ := call
  cases request with
  | register driver => rfl
  | load path => exact absurd rfl (unnamed path)
  | discover =>
    have known : catalog.discovered = true := by simpa [Request.scans] using quiet
    simp [Call.run, discover_of_discovered known]
  | query query =>
    have known : catalog.discovered = true := by simpa [Request.scans] using quiet
    simp [run_query, discover_of_discovered known]
  | reload => simp [Request.scans] at quiet

end Steps

end DriverCatalog

end Intake
