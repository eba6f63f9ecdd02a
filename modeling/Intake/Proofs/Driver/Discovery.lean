import Intake.Proofs.Driver.Calls

/-!
# A directory that is scanned once

As long as a catalog is not read anew, its directory is scanned by the first call that asks for a
driver, and never again. What the catalog holds after any run of calls is made of three lists, in
this order: the drivers registered before that scan, those of the files that it could read, and
those registered since. Of two drivers with one name the later counts.
-/

namespace Intake

namespace Driver

theorem lastNamed?_append (name : String) (drivers later : List Driver) :
    lastNamed? name (drivers ++ later) = (lastNamed? name later).or (lastNamed? name drivers) := by
  simp [lastNamed?, List.getLast?_append]

end Driver

namespace DriverCatalog

/-- The calls before the first one that has the directory scanned. -/
def beforeScan (calls : List Call) : List Call :=
  calls.takeWhile fun call => !call.request.scans false

/-- The calls from the first one on that has the directory scanned. -/
def sinceScan (calls : List Call) : List Call :=
  calls.dropWhile fun call => !call.request.scans false

/-- The driver files that lie in the directory when it is first scanned. -/
def filesSeen (catalog : DriverCatalog) (calls : List Call) : List String :=
  (sinceScan calls).head?.elim [] fun call => catalog.filesOf call.files

/-- The drivers of those files that can be read when the directory is first scanned. -/
def driversSeen (catalog : DriverCatalog) (calls : List Call) : List Driver :=
  (sinceScan calls).head?.elim [] fun call =>
    Driver.loadable call.files (catalog.filesOf call.files)

theorem registered_cons (call : Call) (others : List Call) :
    registered (call :: others) = call.request.registered?.toList ++ registered others := by
  cases driver : call.request.registered? <;> simp [registered, driver]

/-- Calls that do not scan the directory enter the drivers that they register. -/
theorem catalogAfter_of_not_scans {catalog : DriverCatalog} {calls : List Call}
    (quiet : ∀ call ∈ calls, call.request.scans catalog.discovered = false) :
    catalogAfter catalog calls =
      catalog.grown (registered calls) (calls.countP Call.opensFile) := by
  induction calls generalizing catalog with
  | nil => rfl
  | cons call others ih =>
    rw [List.forall_mem_cons] at quiet
    have first : catalogAfter catalog (call :: others) =
        catalogAfter (call.run catalog).2 others := rfl
    rw [first, run_of_not_scans quiet.1, @ih (catalog.grown _ _) quiet.2, grown_grown,
      registered_cons, List.countP_cons, Nat.add_comm (others.countP _)]

theorem catalogAfter_append (catalog : DriverCatalog) (calls later : List Call) :
    catalogAfter catalog (calls ++ later) = catalogAfter (catalogAfter catalog calls) later := by
  simp [catalogAfter]

theorem catalogAfter_concat_query (catalog : DriverCatalog) (calls : List Call)
    (files : FileTree) (query : Query) :
    catalogAfter catalog (calls ++ [⟨files, .query query⟩]) =
      (catalogAfter catalog calls).discover files := by
  rw [catalogAfter_append]
  exact congrArg Prod.snd (run_query query files (catalogAfter catalog calls))

/-- A call that has the directory scanned neither registers a driver nor names a file. -/
theorem adds_nothing_of_scans {call : Call} (scanning : call.request.scans false = true) :
    call.request.registered? = none ∧ call.opensFile = false := by
  obtain ⟨files, request⟩ := call
  cases request with
  | register driver => simp [Request.scans] at scanning
  | load path => simp [Request.scans] at scanning
  | discover | query | reload => exact ⟨rfl, rfl⟩

/-- Once the directory is scanned, no later call scans it. -/
theorem catalogAfter_of_scan {catalog : DriverCatalog} (new : catalog.discovered = false)
    {scan : Call} (scanning : scan.request.scans false = true) {later : List Call}
    (kept : ∀ call ∈ scan :: later, call.request ≠ .reload) :
    catalogAfter catalog (scan :: later) =
      { catalog with discovered := true }.grown
        (Driver.loadable scan.files (catalog.filesOf scan.files) ++ registered later)
        ((catalog.filesOf scan.files).length + later.countP Call.opensFile) := by
  rw [List.forall_mem_cons] at kept
  have quiet : ∀ call ∈ later, call.request.scans true = false := by
    intro call member
    simpa [← Request.scans_true_iff] using kept.2 call member
  have first : catalogAfter catalog (scan :: later) =
      catalogAfter (scan.run catalog).2 later := rfl
  rw [first, run_of_scans scanning kept.1, discover_of_new new,
    @catalogAfter_of_not_scans (grown _ _ _) _ quiet, grown_grown]

/-- What a run of calls makes of a catalog whose directory was not scanned. -/
theorem catalogAfter_of_new {catalog : DriverCatalog} (new : catalog.discovered = false)
    {calls : List Call} (kept : ∀ call ∈ calls, call.request ≠ .reload) :
    catalogAfter catalog calls =
      { catalog with discovered := calls.any fun call => call.request.scans false }.grown
        (registered (beforeScan calls) ++ driversSeen catalog calls ++
          registered (sinceScan calls))
        (calls.countP Call.opensFile + (filesSeen catalog calls).length) := by
  induction calls generalizing catalog with
  | nil =>
    simp [catalogAfter, grown, entered, registered, beforeScan, sinceScan, driversSeen, filesSeen,
      ← new]
  | cons call others ih =>
    cases scanning : call.request.scans false with
    | true =>
      have before : beforeScan (call :: others) = [] := by simp [beforeScan, scanning]
      have since : sinceScan (call :: others) = call :: others := by simp [sinceScan, scanning]
      obtain ⟨unregistered, unnamed⟩ := adds_nothing_of_scans scanning
      rw [catalogAfter_of_scan new scanning kept, before, driversSeen, filesSeen, since,
        registered_cons, unregistered, List.countP_cons_of_neg (by simp [unnamed]), List.any_cons,
        scanning, Nat.add_comm]
      rfl
    | false =>
      rw [List.forall_mem_cons] at kept
      have before : beforeScan (call :: others) = call :: beforeScan others := by
        simp [beforeScan, scanning]
      have since : sinceScan (call :: others) = sinceScan others := by
        simp [sinceScan, scanning]
      have quiet : call.request.scans catalog.discovered = false := by rw [new, scanning]
      have first : catalogAfter catalog (call :: others) =
          catalogAfter (call.run catalog).2 others := rfl
      rw [first, run_of_not_scans quiet, @ih (catalog.grown _ _) new kept.2, before, driversSeen,
        driversSeen, filesSeen, filesSeen, since, registered_cons, List.countP_cons, List.any_cons,
        scanning, Bool.false_or]
      simp only [grown, entered_append, mk.injEq, true_and]
      refine ⟨rfl, ?_⟩
      simp only [filesOf]
      omega

/-- The calls of a run that have the directory scanned. -/
def scanningCalls (catalog : DriverCatalog) : List Call → List Call
  | [] => []
  | call :: others =>
    (if call.request.scans catalog.discovered then [call] else []) ++
      scanningCalls (call.run catalog).2 others

theorem scanningCalls_of_discovered {catalog : DriverCatalog} (known : catalog.discovered = true)
    {calls : List Call} (kept : ∀ call ∈ calls, call.request ≠ .reload) :
    scanningCalls catalog calls = [] := by
  induction calls generalizing catalog with
  | nil => rfl
  | cons call others ih =>
    rw [List.forall_mem_cons] at kept
    have quiet : call.request.scans catalog.discovered = false := by
      rw [known]
      simpa [← Request.scans_true_iff] using kept.1
    rw [scanningCalls, quiet, run_of_not_scans quiet, @ih (catalog.grown _ _) known kept.2]
    rfl

theorem scanningCalls_of_new {catalog : DriverCatalog} (new : catalog.discovered = false)
    {calls : List Call} (kept : ∀ call ∈ calls, call.request ≠ .reload) :
    scanningCalls catalog calls = (sinceScan calls).head?.toList := by
  induction calls generalizing catalog with
  | nil => rfl
  | cons call others ih =>
    rw [List.forall_mem_cons] at kept
    rw [scanningCalls, new]
    cases scanning : call.request.scans false with
    | true =>
      rw [run_of_scans scanning kept.1, discover_of_new new,
        @scanningCalls_of_discovered (grown _ _ _) rfl _ kept.2]
      simp [sinceScan, scanning]
    | false =>
      have quiet : call.request.scans catalog.discovered = false := by rw [new, scanning]
      rw [run_of_not_scans quiet, @ih (catalog.grown _ _) new kept.2]
      simp [sinceScan, scanning]

/-- What a run of calls makes of a new catalog when the directory is scanned once. -/
structure ReadOnce (new : DriverCatalog) (calls : List Call) : Prop where
  /-- Only the first call that asks for drivers has the directory scanned. -/
  scans : scanningCalls new calls = (sinceScan calls).head?.toList
  filesRead : (catalogAfter new calls).filesRead =
    calls.countP Call.opensFile + (filesSeen new calls).length
  /-- The files read by the scan are the driver files that lie directly in the directory. -/
  seen : ∀ path, path ∈ filesSeen new calls ↔ ∃ scan ∈ (sinceScan calls).head?,
    ∃ directory ∈ new.directory, Driver.IsFileIn scan.files directory path
  /-- The scan reads each of them once, in the order of the paths. -/
  once : ∀ scan ∈ (sinceScan calls).head?, scan.files.IsProper →
    (filesSeen new calls).Pairwise (· < ·)
  pathOrder : ∀ directory ∈ new.directory, ∃ names : List String, names.Pairwise (· ≤ ·) ∧
    (filesSeen new calls).Sublist (names.map (FilePath.join directory))
  drivers : ∀ name, Fields.get? name (catalogAfter new calls).drivers =
    (Driver.lastNamed? name (registered (sinceScan calls))).or
      ((Driver.lastNamed? name (driversSeen new calls)).or
        (Driver.lastNamed? name (registered (beforeScan calls))))
  filed : Filed (catalogAfter new calls).drivers
  /-- A question is answered from the drivers alone. -/
  answers : ∀ files query, (Call.run ⟨files, .query query⟩ (catalogAfter new calls)).1 =
    query.answer (catalogAfter new (calls ++ [⟨files, .query query⟩])).drivers
  /-- Before the scan and after it, a call that loads no file does not depend on the files. -/
  unscanned : ∀ request : Request,
    request.scans (calls.any fun call => call.request.scans false) = false →
      (∀ path, request ≠ .load path) → ∀ files others,
        Call.run ⟨files, request⟩ (catalogAfter new calls) =
          Call.run ⟨others, request⟩ (catalogAfter new calls)

theorem mem_filesSeen_iff {catalog : DriverCatalog} {calls : List Call} {path : String} :
    path ∈ filesSeen catalog calls ↔ ∃ scan ∈ (sinceScan calls).head?,
      ∃ directory ∈ catalog.directory, Driver.IsFileIn scan.files directory path := by
  rw [filesSeen]
  cases (sinceScan calls).head? with
  | none => simp
  | some scan => simp [mem_filesOf_iff]

theorem ordered_filesSeen (catalog : DriverCatalog) {calls : List Call} {scan : Call}
    (scanning : scan ∈ (sinceScan calls).head?) (proper : scan.files.IsProper) :
    (filesSeen catalog calls).Pairwise (· < ·) := by
  rw [filesSeen, Option.mem_def.1 scanning, Option.elim_some]
  exact catalog.ordered_filesOf proper

theorem sublist_filesSeen (catalog : DriverCatalog) (calls : List Call) {directory : String}
    (root : directory ∈ catalog.directory) :
    ∃ names : List String, names.Pairwise (· ≤ ·) ∧
      (filesSeen catalog calls).Sublist (names.map (FilePath.join directory)) := by
  rw [filesSeen]
  cases (sinceScan calls).head? with
  | none => exact ⟨[], List.Pairwise.nil, List.Sublist.refl _⟩
  | some scan =>
    rw [Option.elim_some, filesOf, Option.mem_def.1 root, Option.bind_some]
    cases found : Driver.filesIn? scan.files directory with
    | none => exact ⟨[], List.Pairwise.nil, List.Sublist.refl _⟩
    | some paths => exact Driver.sorted_filesIn? found

/-- As long as a catalog is not read anew, its directory is scanned once, by the first call that
asks for drivers. -/
theorem readOnce_of_kept (directory : Option String) (creates : Bool) {calls : List Call}
    (kept : ∀ call ∈ calls, call.request ≠ .reload) :
    ReadOnce { directory := directory, createsDirectory := creates } calls := by
  generalize made : ({ directory := directory, createsDirectory := creates } : DriverCatalog) = new
  have unlooked : new.discovered = false := by rw [← made]
  have empty : new.drivers = [] ∧ new.filesRead = 0 := by simp [← made]
  have after := catalogAfter_of_new unlooked kept
  constructor
  case scans => exact scanningCalls_of_new unlooked kept
  case filesRead => simp [after, grown, empty.2]
  case seen => exact fun path => mem_filesSeen_iff
  case once => exact fun scan scanning proper => ordered_filesSeen new scanning proper
  case pathOrder => exact fun root member => sublist_filesSeen new calls member
  case drivers =>
    intro name
    rw [after, grown, get?_entered, empty.1]
    simp [Driver.lastNamed?_append, Fields.get?, Option.or_assoc]
  case filed =>
    rw [after, grown, empty.1]
    apply Filed.entered
    exact ⟨List.Pairwise.nil, by simp⟩
  case answers =>
    intro files query
    rw [catalogAfter_concat_query, run_query]
  case unscanned =>
    intro request quiet unnamed files others
    apply @run_eq_of_not_scans (catalogAfter new calls) ⟨files, request⟩ _ unnamed
    rw [after]
    exact quiet

/-- The text of a file with a driver that has no rules. -/
def plainDriverText (name version : String) : String :=
  "\x7b\"driver\": \x7b\"name\": \"" ++ name ++ "\", \"version\": \"" ++ version ++
    "\", \"source\": \"Voucher\", \"target\": \"FormFlowInstructions\"\x7d, " ++
    "\"mappings\": \x7b\x7d\x7d"

/-- Two driver files of one name, one that cannot be read, and a file of another kind. -/
def redeemFiles : FileTree where
  entries :=
    [(["drivers"], .directory),
      (["drivers", "a.json"], .file (some (plainDriverText "redeem" "1.0"))),
      (["drivers", "b.json"], .file (some (plainDriverText "redeem" "1.1"))),
      (["drivers", "broken.json"], .file (some "[")),
      (["drivers", "notes.txt"], .file (some "redeem"))]

def plainDriver (name version : String) : Driver where
  name := name
  version := version
  source := "Voucher"
  target := "FormFlowInstructions"
  fingerprint := ""

theorem filesIn?_redeemFiles :
    Driver.filesIn? redeemFiles "drivers" =
      some ["drivers/a.json", "drivers/b.json", "drivers/broken.json"] := by
  have place : redeemFiles.place? "drivers" = some ["drivers"] := by decide +kernel
  have listed : redeemFiles.entries.filterMap (fun entry => FileTree.nameIn? ["drivers"] entry.1) =
      ["a.json", "b.json", "broken.json", "notes.txt"] := by decide +kernel
  have names : redeemFiles.names? "drivers" =
      some ["a.json", "b.json", "broken.json", "notes.txt"] := by
    rw [FileTree.names?, place, Option.bind_some, listed, if_pos (by decide +kernel),
      List.mergeSort_of_pairwise (by decide +kernel)]
  rw [Driver.filesIn?, names]
  decide +kernel

/-- Calls before and after a scan; the files are gone after it. -/
def redeemCalls : List Call :=
  [⟨redeemFiles, .register (plainDriver "redeem" "2.0")⟩,
    ⟨redeemFiles, .load "drivers/a.json"⟩,
    ⟨redeemFiles, .query (.get "redeem")⟩,
    ⟨{}, .register (plainDriver "refund" "1.0")⟩,
    ⟨{}, .load "drivers/a.json"⟩,
    ⟨{}, .discover⟩]

theorem readOnce_of_kept_redeem :
    (∀ call ∈ redeemCalls, call.request ≠ .reload) ∧
      ReadOnce { directory := some "drivers", createsDirectory := false } redeemCalls ∧
      (catalogAfter { directory := some "drivers" } redeemCalls).filesRead = 4 := by
  have kept : ∀ call ∈ redeemCalls, call.request ≠ .reload := by simp [redeemCalls]
  have once := readOnce_of_kept (some "drivers") false kept
  refine ⟨kept, once, once.filesRead.trans ?_⟩
  have opened : redeemCalls.countP Call.opensFile = 1 := by decide +kernel
  have seen : filesSeen { directory := some "drivers" } redeemCalls =
      ["drivers/a.json", "drivers/b.json", "drivers/broken.json"] :=
    congrArg (Option.getD · []) filesIn?_redeemFiles
  rw [opened, seen]
  rfl

end DriverCatalog

end Intake
