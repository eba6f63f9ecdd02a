import Intake.Flow.State
import Intake.Proofs.Time.RoundTrip

/-!
# Documents of instructions and states

Instructions and states are kept as documents. Each reads back from its document as it was: texts
and moments that are not there are left out and are missed without harm, and data by step index is
written in the order of the indexes, so that reading inserts every entry at the end. Whatever else
is read as a state also reads back from then on.
-/

namespace Intake

namespace Fields

variable {α : Type}

/-- A field of two groups of fields is looked for in the first one first. -/
theorem get?_append (name : String) (first second : Fields α) :
    get? name (first ++ second) = (get? name first).or (get? name second) := by
  induction first with
  | nil => rfl
  | cons field rest ih =>
    obtain ⟨key, content⟩ := field
    by_cases same : key = name
    · simp [get?, same]
    · simpa [get?, same] using ih

end Fields

namespace Record

theorem get?_fieldOf (name other : String) (content : Option Value) :
    Fields.get? other (fieldOf name content) = if name = other then content else none := by
  cases content with
  | none => simp [fieldOf, Fields.get?]
  | some value => simp [fieldOf, Fields.get?]

theorem optional_text (content : Option String) :
    Record.optional Value.text? (content.map Value.text) = some content := by
  cases content <;> rfl

theorem exists_of_required {α : Type} {read : Value → Option α} {content : Option Value} {value : α}
    (found : required read content = some value) : ∃ document, read document = some value := by
  cases content with
  | none => cases found
  | some document => exact ⟨document, found⟩

theorem natural?_ofNat (value : Nat) : natural? (.ofNat value) = some value := by
  simp [natural?, Value.ofNat]

/-- A list is read back when each of its items is. -/
theorem listOf?_map {α : Type} {read : Value → Option α} {write : α → Value} {items : List α}
    (back : ∀ item ∈ items, read (write item) = some item) :
    listOf? read (.array (items.map write)) = some items := by
  rw [listOf?]
  induction items with
  | nil => rfl
  | cons item others ih =>
    rw [List.forall_mem_cons] at back
    simp [List.mapM_cons, back.1, ih back.2]

end Record

open Record

theorem Step.ofValue?_toValue (step : Step) : Step.ofValue? step.toValue = some step := by
  simp [Step.ofValue?, Step.toValue, contents?, Fields.get?, required, defaulted, Value.text?,
    Value.object?]

theorem Callbacks.ofValue?_toValue (callbacks : Callbacks) :
    Callbacks.ofValue? callbacks.toValue = some callbacks := by
  simp [Callbacks.ofValue?, Callbacks.toValue, contents?, textField, Fields.get?_append,
    get?_fieldOf, optional_text]

/-- Instructions read back from their document. -/
theorem Instructions.ofValue?_toValue (instructions : Instructions) :
    Instructions.ofValue? instructions.toValue = some instructions := by
  have steps : listOf? Step.ofValue? (.array (instructions.steps.map Step.toValue)) =
      some instructions.steps :=
    listOf?_map fun step _ => Step.ofValue?_toValue step
  rcases instructions with ⟨flowId, referenceId, steps, callbacks, title, description, metadata⟩
  cases metadata <;>
    simp [Instructions.ofValue?, Instructions.toValue, contents?, textField, Fields.get?_append,
      Fields.get?, get?_fieldOf, optional_text, defaulted, Value.text?, Value.object?, steps,
      Callbacks.ofValue?_toValue]

namespace FlowStatus

theorem ofValue?_name (status : FlowStatus) : ofValue? (.text status.name) = some status := by
  cases status <;> rfl

end FlowStatus

namespace CollectedData

theorem keyIndex?_digits {index : Nat} (fits : index < twoTo 64) :
    keyIndex? (String.ofList (Decimal.digits index)) = some index := by
  simp [keyIndex?, JsonNumeral.take?_digits, JsonNumeral.number?_digits fits]

/-- Data of a later step goes to the end. -/
theorem insert_of_last {index : Nat} (content : Fields Value) {collected : CollectedData}
    (last : ∀ entry ∈ collected, entry.1 < index) :
    insert index content collected = collected ++ [(index, content)] := by
  induction collected with
  | nil => rfl
  | cons entry rest ih =>
    obtain ⟨key, old⟩ := entry
    rw [List.forall_mem_cons] at last
    have below : ¬ index < key := Nat.not_lt_of_gt last.1
    have different : key ≠ index := Nat.ne_of_lt last.1
    simp [insert, below, different, ih last.2]

theorem mem_insert {index : Nat} {content : Fields Value} {collected : CollectedData}
    {entry : Nat × Fields Value} (member : entry ∈ insert index content collected) :
    entry = (index, content) ∨ entry ∈ collected := by
  induction collected with
  | nil => simpa [insert] using member
  | cons first rest ih =>
    obtain ⟨key, old⟩ := first
    simp only [insert] at member
    split at member
    · simpa using member
    · split at member
      · rcases List.mem_cons.1 member with rfl | member
        · exact Or.inl rfl
        · exact Or.inr (List.mem_cons_of_mem _ member)
      · rcases List.mem_cons.1 member with rfl | member
        · exact Or.inr List.mem_cons_self
        · exact (ih member).imp_right (List.mem_cons_of_mem _)

theorem mem_keys_insert {index other : Nat} {content : Fields Value} {collected : CollectedData} :
    other ∈ (insert index content collected).map Prod.fst ↔
      other = index ∨ other ∈ collected.map Prod.fst := by
  induction collected with
  | nil => simp [insert]
  | cons first rest ih =>
    obtain ⟨key, old⟩ := first
    simp only [insert]
    split
    · simp
    · split
      · next same => simp [same]
      · rw [List.map_cons, List.mem_cons, ih, List.map_cons, List.mem_cons]
        exact or_left_comm

theorem ordered_insert {index : Nat} {content : Fields Value} {collected : CollectedData}
    (ordered : collected.Pairwise fun left right => left.1 < right.1) :
    (insert index content collected).Pairwise fun left right => left.1 < right.1 := by
  induction collected with
  | nil => simp [insert]
  | cons first rest ih =>
    obtain ⟨key, old⟩ := first
    obtain ⟨firstBelow, restOrdered⟩ := List.pairwise_cons.1 ordered
    simp only [insert]
    split
    · next below =>
      refine List.pairwise_cons.2 ⟨?_, ordered⟩
      intro entry member
      rcases List.mem_cons.1 member with rfl | member
      · exact below
      · exact Nat.lt_trans below (firstBelow entry member)
    · next notBelow =>
      split
      · next same => exact List.pairwise_cons.2 ⟨same ▸ firstBelow, restOrdered⟩
      · next different =>
        refine List.pairwise_cons.2 ⟨?_, ih restOrdered⟩
        intro entry member
        rcases mem_insert member with rfl | member
        · exact Nat.lt_of_le_of_ne (Nat.not_lt.1 notBelow) different
        · exact firstBelow entry member

theorem get?_insert (index other : Nat) (content : Fields Value) (collected : CollectedData) :
    get? other (insert index content collected) =
      if index = other then some content else get? other collected := by
  induction collected with
  | nil => simp [insert, get?]
  | cons first rest ih =>
    obtain ⟨key, old⟩ := first
    simp only [insert]
    split
    · rfl
    · split
      · next same =>
        subst same
        by_cases found : key = other <;> simp [get?, found]
      · next different =>
        by_cases found : key = other
        · subst found
          simp [get?, Ne.symm different]
        · simp [get?, found, ih]

theorem readFields?_append (written : CollectedData) {rest : CollectedData}
    (ordered : (written ++ rest).Pairwise fun left right => left.1 < right.1)
    (fits : ∀ entry ∈ rest, entry.1 < twoTo 64) :
    readFields? written (rest.map fun entry =>
      (String.ofList (Decimal.digits entry.1), .object entry.2)) = some (written ++ rest) := by
  induction rest generalizing written with
  | nil => simp [readFields?]
  | cons entry rest ih =>
    rw [List.forall_mem_cons] at fits
    have last : ∀ other ∈ written, other.1 < entry.1 :=
      fun other member => (List.pairwise_append.1 ordered).2.2 other member entry List.mem_cons_self
    have inserted := insert_of_last entry.2 last
    have assoc : written ++ entry :: rest = (written ++ [entry]) ++ rest := by simp
    rw [assoc] at ordered ⊢
    simp [readFields?, keyIndex?_digits fits.1, Value.object?, inserted, ih _ ordered fits.2]

/-- Data in the order of its steps reads back from its document. -/
theorem ofValue?_toValue {collected : CollectedData}
    (ordered : collected.Pairwise fun left right => left.1 < right.1)
    (fits : ∀ entry ∈ collected, entry.1 < twoTo 64) :
    ofValue? (toValue collected) = some collected :=
  readFields?_append [] ordered fits

theorem keyIndex?_lt {key : String} {index : Nat} (read : keyIndex? key = some index) :
    index < twoTo 64 := by
  unfold keyIndex? at read
  split at read
  · split at read
    · next integer =>
      have below := JsonNumeral.number?_lt integer
      split at read
      · cases read
        omega
      · cases read
    · cases read
  · cases read

/-- Whatever fields are read, in whatever order they stand, the data ends up in the order of the
indexes. -/
theorem readFields?_sound {fields : Fields Value} {written collected : CollectedData}
    (read : readFields? written fields = some collected)
    (ordered : written.Pairwise fun left right => left.1 < right.1)
    (fits : ∀ entry ∈ written, entry.1 < twoTo 64) :
    (collected.Pairwise fun left right => left.1 < right.1) ∧
      ∀ entry ∈ collected, entry.1 < twoTo 64 := by
  induction fields generalizing written with
  | nil =>
    cases read
    exact ⟨ordered, fits⟩
  | cons field rest ih =>
    obtain ⟨index, key, read⟩ := Option.bind_eq_some_iff.1 read
    obtain ⟨content, -, read⟩ := Option.bind_eq_some_iff.1 read
    apply ih read (ordered_insert ordered)
    intro entry member
    rcases mem_insert member with rfl | member
    · exact keyIndex?_lt key
    · exact fits entry member

theorem ofValue?_sound {document : Value} {collected : CollectedData}
    (read : ofValue? document = some collected) :
    (collected.Pairwise fun left right => left.1 < right.1) ∧
      ∀ entry ∈ collected, entry.1 < twoTo 64 := by
  obtain ⟨fields, -, read⟩ := Option.bind_eq_some_iff.1 read
  exact readFields?_sound read List.Pairwise.nil (List.forall_mem_nil _)

end CollectedData

namespace FlowState

/-- A state that a document can hold: its moments are those of a clock, and its data stands in the
order of step indexes that fit a word. -/
structure Sound (state : FlowState) : Prop where
  started : state.startedAt.Valid
  updated : ∀ time ∈ state.updatedAt, time.Valid
  completed : ∀ time ∈ state.completedAt, time.Valid
  cancelled : ∀ time ∈ state.cancelledAt, time.Valid
  ordered : state.collectedData.Pairwise fun left right => left.1 < right.1
  fits : ∀ entry ∈ state.collectedData, entry.1 < twoTo 64

theorem readTime?_timeValue {time : Timestamp} (valid : time.Valid) :
    readTime? (timeValue time) = some time := by
  simp [readTime?, timeValue, Value.ofChars, Value.text?, Timestamp.read?_zuluText valid]

theorem optional_time {time : Option Timestamp} (valid : ∀ moment ∈ time, moment.Valid) :
    Record.optional readTime? (time.map timeValue) = some time := by
  cases time with
  | none => rfl
  | some moment =>
    have read := readTime?_timeValue (valid moment rfl)
    simp only [timeValue, Value.ofChars] at read
    simp [Record.optional, timeValue, Value.ofChars, read]

/-- What is found in the document of a state under each name. -/
theorem contents?_toValue (state : FlowState) :
    ∃ content, contents? fieldNames state.toValue = some content ∧
      content "flow_id" = some (.text state.flowId) ∧
      content "reference_id" = some (.text state.referenceId) ∧
      content "instructions" = some state.instructions.toValue ∧
      content "current_step" = some (.ofNat state.currentStep) ∧
      content "completed_steps" = some (.array (state.completedSteps.map Value.ofNat)) ∧
      content "collected_data" = some (CollectedData.toValue state.collectedData) ∧
      content "status" = some (.text state.status.name) ∧
      content "revision" = some (.ofNat state.revision) ∧
      content "started_at" = some (timeValue state.startedAt) ∧
      content "updated_at" = state.updatedAt.map timeValue ∧
      content "completed_at" = state.completedAt.map timeValue ∧
      content "cancelled_at" = state.cancelledAt.map timeValue := by
  refine ⟨_, rfl, rfl, rfl, rfl, rfl, rfl, rfl, rfl, rfl, rfl, ?_, ?_, ?_⟩ <;>
    simp only [Fields.get?_append, get?_fieldOf] <;>
    simp [Fields.get?]

/-- A state reads back from its document. -/
theorem ofValue?_toValue {state : FlowState} (sound : state.Sound) :
    ofValue? state.toValue = some state := by
  have indexes : listOf? natural? (.array (state.completedSteps.map Value.ofNat)) =
      some state.completedSteps :=
    listOf?_map fun index _ => natural?_ofNat index
  obtain ⟨content, found, flowId, referenceId, instructions, currentStep, completedSteps,
    collectedData, status, revision, startedAt, updatedAt, completedAt, cancelledAt⟩ :=
    contents?_toValue state
  simp only [ofValue?, found, flowId, referenceId, instructions, currentStep, completedSteps,
    collectedData, status, revision, startedAt, updatedAt, completedAt, cancelledAt,
    Option.bind_eq_bind, Option.bind_some, required, defaulted, Value.text?, natural?_ofNat,
    indexes, Instructions.ofValue?_toValue,
    CollectedData.ofValue?_toValue sound.ordered sound.fits, FlowStatus.ofValue?_name,
    readTime?_timeValue sound.started, optional_time sound.updated,
    optional_time sound.completed, optional_time sound.cancelled]
  rfl

theorem valid_of_readTime? {document : Value} {time : Timestamp}
    (read : readTime? document = some time) : time.Valid := by
  obtain ⟨text, -, read⟩ := Option.bind_eq_some_iff.1 read
  exact Timestamp.valid_of_read? read

theorem valid_of_optional {content : Option Value} {time : Option Timestamp}
    (read : Record.optional readTime? content = some time) : ∀ moment ∈ time, moment.Valid := by
  unfold Record.optional at read
  split at read
  · cases read
    simp
  · cases read
    simp
  · obtain ⟨moment, found, rfl⟩ := Option.map_eq_some_iff.1 read
    rintro _ ⟨rfl⟩
    exact valid_of_readTime? found

/-- Every state that is read from a document is one that a document can hold. -/
theorem sound_of_ofValue? {document : Value} {state : FlowState}
    (read : ofValue? document = some state) : state.Sound := by
  obtain ⟨content, -, read⟩ := Option.bind_eq_some_iff.1 read
  obtain ⟨flowId, -, read⟩ := Option.bind_eq_some_iff.1 read
  obtain ⟨referenceId, -, read⟩ := Option.bind_eq_some_iff.1 read
  obtain ⟨instructions, -, read⟩ := Option.bind_eq_some_iff.1 read
  obtain ⟨currentStep, -, read⟩ := Option.bind_eq_some_iff.1 read
  obtain ⟨completedSteps, -, read⟩ := Option.bind_eq_some_iff.1 read
  obtain ⟨collectedData, data, read⟩ := Option.bind_eq_some_iff.1 read
  obtain ⟨status, -, read⟩ := Option.bind_eq_some_iff.1 read
  obtain ⟨revision, -, read⟩ := Option.bind_eq_some_iff.1 read
  obtain ⟨startedAt, started, read⟩ := Option.bind_eq_some_iff.1 read
  obtain ⟨updatedAt, updated, read⟩ := Option.bind_eq_some_iff.1 read
  obtain ⟨completedAt, completed, read⟩ := Option.bind_eq_some_iff.1 read
  obtain ⟨cancelledAt, cancelled, read⟩ := Option.bind_eq_some_iff.1 read
  cases read
  obtain ⟨_, data⟩ := exists_of_required data
  obtain ⟨_, started⟩ := exists_of_required started
  obtain ⟨ordered, fits⟩ := CollectedData.ofValue?_sound data
  exact ⟨valid_of_readTime? started, valid_of_optional updated, valid_of_optional completed,
    valid_of_optional cancelled, ordered, fits⟩

end FlowState

end Intake
