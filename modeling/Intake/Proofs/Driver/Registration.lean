import Intake.Proofs.Driver.Discovery

/-!
# Drivers registered by hand

A driver that is registered is found under its name, with one exception: if the directory was not
scanned before, the next look-up scans it, and then a driver of the same name in a file that can be
read takes the place of the registered one. The name itself is listed in any case.
-/

namespace Intake

namespace DriverCatalog

theorem discover_frame (catalog : DriverCatalog) (files : FileTree) :
    (catalog.discover files).discovered = true ∧
      (catalog.discover files).directory = catalog.directory := by
  cases known : catalog.discovered with
  | true =>
    rw [discover_of_discovered known]
    exact ⟨known, rfl⟩
  | false =>
    rw [discover_of_new known]
    exact ⟨rfl, rfl⟩

/-- No call changes the directory, and a scan is not forgotten. -/
theorem run_frame (catalog : DriverCatalog) (call : Call) :
    (call.run catalog).2.discovered = (catalog.discovered || call.request.scans false) ∧
      (call.run catalog).2.directory = catalog.directory := by
  obtain ⟨files, request⟩ := call
  cases request with
  | register driver => simp [Call.run, register, Request.scans]
  | load path =>
    cases isFile : files.isFile path <;> simp [Call.run, load, isFile, Request.scans]
  | discover => simpa [Call.run, Request.scans] using catalog.discover_frame files
  | reload =>
    have frame := catalog.forget.discover_frame files
    refine ⟨?_, frame.2⟩
    simp [Call.run, reload, frame.1, Request.scans]
  | query query => simpa [run_query, Request.scans] using catalog.discover_frame files

theorem catalogAfter_frame (catalog : DriverCatalog) (calls : List Call) :
    (catalogAfter catalog calls).discovered =
        (catalog.discovered || calls.any fun call => call.request.scans false) ∧
      (catalogAfter catalog calls).directory = catalog.directory := by
  induction calls generalizing catalog with
  | nil => simp [catalogAfter]
  | cons call others ih =>
    have rest := ih (call.run catalog).2
    rw [(run_frame catalog call).1, (run_frame catalog call).2] at rest
    simpa [catalogAfter, Bool.or_assoc] using rest

section Registered

variable {catalog : DriverCatalog} {driver : Driver} {later : List Call} (files : FileTree)
  (found : Fields.get? driver.name catalog.drivers = some driver)
  (kept : ∀ call ∈ later, call.request ≠ .reload)
  (unreplaced : ∀ other ∈ registered later, other.name ≠ driver.name)

include found kept unreplaced

theorem get?_discover_of_discovered (known : catalog.discovered = true) :
    Fields.get? driver.name ((catalogAfter catalog later).discover files).drivers =
      some driver := by
  have quiet : ∀ call ∈ later, call.request.scans catalog.discovered = false := by
    intro call member
    rw [known]
    simpa [← Request.scans_true_iff] using kept call member
  rw [catalogAfter_of_not_scans quiet, @discover_of_discovered (grown _ _ _) known, grown,
    get?_entered, Driver.lastNamed?_eq_none unreplaced, Option.none_or, found]

/-- The scan that a look-up asks for may find another driver of the same name. -/
theorem get?_discover_of_new (new : catalog.discovered = false) :
    Fields.get? driver.name ((catalogAfter catalog later).discover files).drivers =
      (Driver.lastNamed? driver.name
        (driversSeen catalog (later ++ [⟨files, .query (.get driver.name)⟩]))).or
          (some driver) := by
  have keptAll : ∀ call ∈ later ++ [⟨files, .query (.get driver.name)⟩],
      call.request ≠ .reload := by
    simpa [or_imp, forall_and] using kept
  have registeredAll : registered (later ++ [⟨files, .query (.get driver.name)⟩]) =
      registered later := by
    simp [registered, Request.registered?]
  have unreplacedIn (calls : List Call)
      (part : calls.Sublist (later ++ [⟨files, .query (.get driver.name)⟩])) :
      Driver.lastNamed? driver.name (registered calls) = none := by
    apply Driver.lastNamed?_eq_none
    intro other member
    apply unreplaced other
    rw [← registeredAll]
    exact (part.filterMap _).subset member
  rw [← catalogAfter_concat_query catalog later files (.get driver.name),
    catalogAfter_of_new new keptAll, grown, get?_entered, Driver.lastNamed?_append,
    Driver.lastNamed?_append, unreplacedIn (sinceScan _) (List.dropWhile_sublist _),
    unreplacedIn (beforeScan _) (List.takeWhile_sublist _), found]
  simp

theorem exists_get?_discover :
    ∃ other, Fields.get? driver.name ((catalogAfter catalog later).discover files).drivers =
        some other ∧ other.name = driver.name ∧
      (other = driver ↔ catalog.discovered = true ∨
        ∀ seen ∈ Driver.lastNamed? driver.name
          (driversSeen catalog (later ++ [⟨files, .query (.get driver.name)⟩])),
            seen = driver) := by
  cases known : catalog.discovered with
  | true =>
    exact ⟨driver, get?_discover_of_discovered files found kept unreplaced known, by simp⟩
  | false =>
    rw [get?_discover_of_new files found kept unreplaced known]
    cases last : Driver.lastNamed? driver.name
        (driversSeen catalog (later ++ [⟨files, .query (.get driver.name)⟩])) with
    | none => exact ⟨driver, by simp⟩
    | some other => exact ⟨other, by simp, Driver.name_of_lastNamed? last, by simp⟩

end Registered

/-- Whatever was called before, a registered driver is found under its name, and the name is listed,
until it is registered again or the catalog is read anew. It is the registered driver that is found
exactly if the directory was scanned before, or the scan that follows reads no other driver of that
name. -/
theorem get?_after_register (directory : Option String) (creates : Bool) (before : List Call)
    (driver : Driver) {later : List Call} (kept : ∀ call ∈ later, call.request ≠ .reload)
    (unreplaced : ∀ other ∈ registered later, other.name ≠ driver.name)
    (present files : FileTree) :
    let new : DriverCatalog := { directory := directory, createsDirectory := creates }
    let catalog := catalogAfter new (before ++ ⟨present, .register driver⟩ :: later)
    let next : List Call := later ++ [⟨files, .query (.get driver.name)⟩]
    (∃ found, (catalog.get? files driver.name).1 = some found ∧ found.name = driver.name ∧
      (found = driver ↔ (∃ call ∈ before, call.request.scans false = true) ∨
        ∀ other ∈ Driver.lastNamed? driver.name (driversSeen new next), other = driver)) ∧
      driver.name ∈ (catalog.names files).1 := by
  intro new catalog next
  have reached : catalog = catalogAfter ((catalogAfter new before).register driver) later :=
    catalogAfter_append new before _
  generalize registering : (catalogAfter new before).register driver = start at reached
  have stored : Fields.get? driver.name start.drivers = some driver := by
    rw [← registering, register, Fields.get?_insertSorted, if_pos rfl]
  have frame := catalogAfter_frame new before
  have scanned : start.discovered = true ↔ ∃ call ∈ before, call.request.scans false = true := by
    rw [← registering, register, frame.1]
    simp [new]
  have sameDirectory : start.directory = new.directory := by
    rw [← registering]
    exact frame.2
  have seen : driversSeen start next = driversSeen new next := by
    simp only [driversSeen, filesOf, sameDirectory]
  have same := exists_get?_discover files stored kept unreplaced
  rw [← reached, seen, scanned] at same
  refine ⟨same, ?_⟩
  obtain ⟨found, isFound, -, -⟩ := same
  exact Fields.mem_names_iff.2 (Option.isSome_of_eq_some isFound)

theorem get?_after_register_redeem :
    (∀ call ∈ [(⟨{}, .register (plainDriver "refund" "1.0")⟩ : Call)], call.request ≠ .reload) ∧
      (∀ other ∈ registered [⟨{}, .register (plainDriver "refund" "1.0")⟩],
        other.name ≠ "redeem") ∧
      (let catalog := catalogAfter { directory := some "drivers", createsDirectory := false }
        [⟨redeemFiles, .reload⟩, ⟨{}, .register (plainDriver "redeem" "2.0")⟩,
          ⟨{}, .register (plainDriver "refund" "1.0")⟩]
      (catalog.get? redeemFiles "redeem").1 = some (plainDriver "redeem" "2.0") ∧
        "redeem" ∈ (catalog.names redeemFiles).1) := by
  have kept : ∀ call ∈ [(⟨{}, .register (plainDriver "refund" "1.0")⟩ : Call)],
      call.request ≠ .reload := by simp
  have unreplaced : ∀ other ∈ registered [⟨{}, .register (plainDriver "refund" "1.0")⟩],
      other.name ≠ "redeem" := by decide
  refine ⟨kept, unreplaced, ?_⟩
  obtain ⟨⟨found, isFound, -, same⟩, listed⟩ := get?_after_register (some "drivers") false
    [⟨redeemFiles, .reload⟩] (plainDriver "redeem" "2.0") kept unreplaced {} redeemFiles
  rw [same.2 (Or.inl ⟨_, List.mem_singleton_self _, rfl⟩)] at isFound
  exact ⟨isFound, listed⟩

/-- A directory with one driver file. -/
def singleFile : FileTree where
  entries :=
    [(["drivers"], .directory),
      (["drivers", "redeem.json"], .file (some (plainDriverText "redeem" "1.0")))]

/-- A driver registered before the first scan gives way to one of the same name in a file. -/
theorem registered_driver_replaced :
    ((catalogAfter { directory := some "drivers" }
      [⟨singleFile, .register (plainDriver "redeem" "2.0")⟩]).get? singleFile "redeem").1 ≠
      some (plainDriver "redeem" "2.0") := by
  intro same
  have version := congrArg (Option.map Driver.version) same
  revert version
  decide +kernel

end DriverCatalog

end Intake
