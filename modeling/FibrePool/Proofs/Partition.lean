import FibrePool.Pool.Statistics
import FibrePool.Proofs.GatewayPaths
import FibrePool.Proofs.RangeCodec

/-!
# Statistics partition their paths

The statistics of a path sort its devices into classes and write the devices of each class as a
range expression, except for those that are active without the pool knowing of them, which are
listed by name.  Beside the classes they list the devices of each channel path.

Read back from these texts, the classes are a partition of the path, and the channel paths are one
of those devices whose record names a channel path (`Statistics.ofPaths_accounts`).  The class of a
device depends on its record alone, so nothing is asked of the records: their usage may contradict
itself, and a device may have none at all.
-/

namespace FibrePool

set_option autoImplicit false

/-! ## Texts that stand for sets -/

/-- A text stands for a set of devices: the blank one for no devices, any other for those of the
only path that it is expanded to. -/
def Ranges.Denotes (text : String) (ids : DeviceSet) : Prop :=
  if text = "" then ids = ∅ else expand text = .ok (OrderedMap.insert ∅ 0 ids)

theorem Ranges.collapse_ne_blank {ids : DeviceSet} (filled : ids ≠ ∅) : collapse ids ≠ "" := by
  intro blank
  exact collapse_ne_nil filled (congrArg String.toList blank)

theorem Ranges.expand_collapse {ids : DeviceSet} (filled : ids ≠ ∅) :
    expand (collapse ids) = .ok (OrderedMap.insert ∅ 0 ids) := by
  rw [← collapsePaths_single]
  exact expand_collapsePaths (numbered_single filled)

theorem Ranges.denotes_collapse (ids : DeviceSet) : Denotes (collapse ids) ids := by
  by_cases none : ids = ∅
  · rw [none]
    rfl
  · rw [Denotes, if_neg (collapse_ne_blank none)]
    exact expand_collapse none

/-- An expression stands for a set of devices, and its number is theirs. -/
structure DeviceRanges.Describes (ranges : DeviceRanges) (ids : DeviceSet) : Prop where
  denotes : Ranges.Denotes ranges.ranges ids
  count : ranges.count = ids.size

theorem DeviceRanges.describes_ofSet (ids : DeviceSet) : (ofSet ids).Describes ids :=
  ⟨Ranges.denotes_collapse ids, rfl⟩

/-- The sets of devices do not overlap, and together they are the devices that satisfy `whole`. -/
structure DeviceSet.Partition {ι : Type} (cell : ι → DeviceSet) (whole : DeviceId → Prop) :
    Prop where
  covers : ∀ id, (∃ i, (cell i).contains id = true) ↔ whole id
  disjoint : ∀ i j id, (cell i).contains id = true → (cell j).contains id = true → i = j

/-! ## What statistics say -/

namespace PathStatistics

/-- The expression of a class, unless its devices are listed by name. -/
def rangesOf (statistics : PathStatistics) : UsageClass → Option DeviceRanges
  | .available => some statistics.available
  | .allocated => some statistics.allocated
  | .reserveOnly => some statistics.reserveOnly
  | .connectionOnly => some statistics.connectionOnly
  | .unallocatedButActive => none
  | .allocatedButFree => some statistics.allocatedButFree
  | .notFound => some statistics.notFound
  | .offline => some statistics.offline

/-- The devices of a set are those that are listed by name. -/
structure Names (statistics : PathStatistics) (ids : DeviceSet) : Prop where
  names : ∀ name, statistics.unallocatedButActive.contains name = true ↔
    ∃ id, ids.contains id = true ∧ id.text = name
  size : statistics.unallocatedButActive.size = ids.size

/-- The devices of a set are those that are given for a class. -/
def Gives (statistics : PathStatistics) (usageClass : UsageClass) (ids : DeviceSet) : Prop :=
  match statistics.rangesOf usageClass with
  | some ranges => ranges.Describes ids
  | none => statistics.Names ids

/-- Statistics account for the devices of a path. -/
structure Accounts (statistics : PathStatistics) (ids : DeviceSet)
    (records : OrderedMap DeviceId DeviceRecord) : Prop where
  total : statistics.total.Describes ids
  classes : ∃ devices : UsageClass → DeviceSet,
    (∀ usageClass, statistics.Gives usageClass (devices usageClass)) ∧
    (∀ usageClass id, (devices usageClass).contains id = true ↔
      ids.contains id = true ∧ UsageClass.ofDevice (records.get? id) = usageClass) ∧
    DeviceSet.Partition devices fun id => ids.contains id = true
  counts : statistics.available.count + statistics.allocated.count +
    statistics.reserveOnly.count + statistics.connectionOnly.count +
    statistics.unallocatedButActive.size + statistics.allocatedButFree.count +
    statistics.notFound.count + statistics.offline.count = statistics.total.count
  channels : ∃ devices : { name // statistics.channelPaths.contains name = true } → DeviceSet,
    (∀ name text, statistics.channelPaths.get? name.1 = some text →
      Ranges.expand text = .ok (OrderedMap.insert ∅ 0 (devices name))) ∧
    (∀ name id, (devices name).contains id = true ↔ ids.contains id = true ∧
      ∃ record, records.get? id = some record ∧ record.channelPath = name) ∧
    DeviceSet.Partition devices fun id => ids.contains id = true ∧
      ∃ record, records.get? id = some record ∧ record.channelPath ≠ ""

end PathStatistics

/-! ## Classes -/

namespace Statistics

variable {ids : DeviceSet} {records : OrderedMap DeviceId DeviceRecord}

theorem contains_devicesWhere {condition : Option DeviceRecord → Bool} {id : DeviceId} :
    (devicesWhere (recordsOf ids records) condition).contains id = true ↔
      ids.contains id = true ∧ condition (records.get? id) = true := by
  rw [devicesWhere, OrderedMap.contains_mapValues, OrderedMap.contains, OrderedMap.get?_filter,
    recordsOf, OrderedMap.get?_mapValues, OrderedMap.contains]
  cases ids.get? id with
  | none => simp
  | some value => simp [Option.isSome_filter]

/-- The devices of a class. -/
def devicesOfClass (ids : DeviceSet) (records : OrderedMap DeviceId DeviceRecord)
    (usageClass : UsageClass) : DeviceSet :=
  devicesWhere (recordsOf ids records) fun record? => UsageClass.ofDevice record? == usageClass

theorem contains_devicesOfClass {usageClass : UsageClass} {id : DeviceId} :
    (devicesOfClass ids records usageClass).contains id = true ↔
      ids.contains id = true ∧ UsageClass.ofDevice (records.get? id) = usageClass := by
  rw [devicesOfClass, contains_devicesWhere, beq_iff_eq]

theorem partition_devicesOfClass (ids : DeviceSet) (records : OrderedMap DeviceId DeviceRecord) :
    DeviceSet.Partition (devicesOfClass ids records) fun id => ids.contains id = true := by
  constructor
  · intro id
    simp [contains_devicesOfClass]
  · intro first second id listed listed'
    rw [← (contains_devicesOfClass.1 listed).2, (contains_devicesOfClass.1 listed').2]

/-! ### The devices that are listed by name -/

/-- What is filed for the devices that are active without the pool knowing of them. -/
def ownersOf (known : OrderedMap DeviceId (Option DeviceRecord)) : List (String × String) :=
  known.entries.filterMap fun (id, record?) =>
    match record? with
    | some record =>
      if UsageClass.ofRecord record = .unallocatedButActive then some (id.text, record.owner)
      else none
    | none => none

theorem names_ownersOf (known : OrderedMap DeviceId (Option DeviceRecord)) :
    (ownersOf known).map (·.1) = (devicesWhere known fun record? =>
      UsageClass.ofDevice record? == .unallocatedButActive).keys.map DeviceId.text := by
  rw [devicesWhere, OrderedMap.keys_mapValues, ownersOf]
  show _ = ((known.entries.filter _).map (·.1)).map DeviceId.text
  induction known.entries with
  | nil => rfl
  | cons entry rest ih =>
    obtain ⟨id, _ | record⟩ := entry
    · exact ih
    · by_cases active : UsageClass.ofRecord record = .unallocatedButActive <;>
        simp_all [UsageClass.ofDevice]

theorem names_ofPath (ids : DeviceSet) (records : OrderedMap DeviceId DeviceRecord) :
    (ofPath ids records).Names (devicesOfClass ids records .unallocatedButActive) := by
  have filed : (ofPath ids records).unallocatedButActive =
      OrderedMap.ofList (ownersOf (recordsOf ids records)) := rfl
  have listed : (ownersOf (recordsOf ids records)).map (·.1) =
      (devicesOfClass ids records .unallocatedButActive).keys.map DeviceId.text :=
    names_ownersOf _
  have single : ((ownersOf (recordsOf ids records)).map (·.1)).Nodup := by
    rw [listed]
    exact List.pairwise_map.2 ((OrderedMap.nodup_keys _).imp fun different same =>
      different (Gateway.device_of_text same))
  constructor
  · intro name
    rw [filed, OrderedMap.contains_ofList, listed, List.mem_map]
    exact exists_congr fun id => and_congr_left fun _ => OrderedMap.mem_keys_iff
  · have sizes := congrArg List.length listed
    rw [filed, OrderedMap.size_ofList single]
    simpa [OrderedMap.keys, OrderedMap.size] using sizes

theorem gives_ofPath (ids : DeviceSet) (records : OrderedMap DeviceId DeviceRecord)
    (usageClass : UsageClass) :
    (ofPath ids records).Gives usageClass (devicesOfClass ids records usageClass) := by
  cases usageClass with
  | unallocatedButActive => exact names_ofPath ids records
  | available | allocated | reserveOnly | connectionOnly | allocatedButFree | notFound | offline =>
    exact DeviceRanges.describes_ofSet _

/-! ### Numbers -/

theorem size_devicesWhere (known : OrderedMap DeviceId (Option DeviceRecord))
    (condition : Option DeviceRecord → Bool) :
    (devicesWhere known condition).size = known.entries.countP fun entry => condition entry.2 := by
  rw [OrderedMap.size, devicesWhere, OrderedMap.mapValues, List.length_map, OrderedMap.filter,
    List.countP_eq_length_filter]

/-- Every device is counted in one of the eight classes. -/
theorem sum_countP_ofDevice (entries : List (DeviceId × Option DeviceRecord)) :
    let number (usageClass : UsageClass) :=
      entries.countP fun entry => UsageClass.ofDevice entry.2 == usageClass
    number .available + number .allocated + number .reserveOnly + number .connectionOnly +
      number .unallocatedButActive + number .allocatedButFree + number .notFound +
      number .offline = entries.length := by
  intro number
  induction entries with
  | nil => rfl
  | cons entry rest ih =>
    simp only [number, List.countP_cons, List.length_cons] at ih ⊢
    rw [← ih]
    cases UsageClass.ofDevice entry.2 <;> simp <;> omega

theorem counts_ofPath (ids : DeviceSet) (records : OrderedMap DeviceId DeviceRecord) :
    let size (usageClass : UsageClass) := (devicesOfClass ids records usageClass).size
    size .available + size .allocated + size .reserveOnly + size .connectionOnly +
      size .unallocatedButActive + size .allocatedButFree + size .notFound + size .offline =
      ids.size := by
  have known : (recordsOf ids records).entries.length = ids.size := List.length_map _
  simp only [devicesOfClass, size_devicesWhere]
  rw [← known]
  exact sum_countP_ofDevice _

/-! ## Channel paths -/

/-- The devices of a channel path. -/
def devicesOfChannel (ids : DeviceSet) (records : OrderedMap DeviceId DeviceRecord)
    (name : String) : DeviceSet :=
  devicesWhere (recordsOf ids records) fun record? => record?.any (·.channelPath == name)

theorem contains_devicesOfChannel {name : String} {id : DeviceId} :
    (devicesOfChannel ids records name).contains id = true ↔ ids.contains id = true ∧
      ∃ record, records.get? id = some record ∧ record.channelPath = name := by
  rw [devicesOfChannel, contains_devicesWhere, Option.any_eq_true]
  simp only [beq_iff_eq]

theorem mem_values_recordsOf {record? : Option DeviceRecord} :
    record? ∈ (recordsOf ids records).values ↔
      ∃ id, ids.contains id = true ∧ records.get? id = record? := by
  rw [OrderedMap.mem_values_iff]
  refine exists_congr fun id => ?_
  rw [recordsOf, OrderedMap.get?_mapValues, OrderedMap.contains]
  cases ids.get? id <;> simp

/-- The channel paths that are listed are those that the record of a device names. -/
theorem contains_channelPaths {name : String} :
    (ofPath ids records).channelPaths.contains name = true ↔
      name ≠ "" ∧ ∃ id, (devicesOfChannel ids records name).contains id = true := by
  have listed : (ofPath ids records).channelPaths.contains name = true ↔
      name ∈ channelPathsOf (recordsOf ids records) := by
    show (byChannelPath _).contains name = true ↔ _
    rw [byChannelPath, OrderedMap.contains_mapValues, OrderedMap.contains_ofList, List.map_map]
    simp
  rw [listed, channelPathsOf, List.mem_filter, List.mem_filterMap, bne_iff_ne, and_comm]
  refine and_congr_right fun _ => ?_
  simp only [mem_values_recordsOf, Option.map_eq_some_iff, contains_devicesOfChannel]
  constructor
  · rintro ⟨_, ⟨id, inside, rfl⟩, record, stored, same⟩
    exact ⟨id, inside, record, stored, same⟩
  · rintro ⟨id, inside, record, stored, same⟩
    exact ⟨_, ⟨id, inside, rfl⟩, record, stored, same⟩

/-- What is listed under a channel path is the expression of its devices. -/
theorem expression_of_channelPaths {name text : String}
    (listed : (ofPath ids records).channelPaths.get? name = some text) :
    text = Ranges.collapse (devicesOfChannel ids records name) := by
  have filed : (byChannelPath (recordsOf ids records)).get? name = some text := listed
  rw [byChannelPath, OrderedMap.get?_mapValues, Option.map_eq_some_iff] at filed
  obtain ⟨_, _, same⟩ := filed
  exact same.symm

theorem expand_channelPaths {name text : String}
    (listed : (ofPath ids records).channelPaths.get? name = some text) :
    Ranges.expand text = .ok (OrderedMap.insert ∅ 0 (devicesOfChannel ids records name)) := by
  have named : (ofPath ids records).channelPaths.contains name = true := by
    rw [OrderedMap.contains, listed]
    rfl
  rw [expression_of_channelPaths listed]
  exact Ranges.expand_collapse (OrderedMap.exists_contains_iff.1 (contains_channelPaths.1 named).2)

/-- The listed channel paths are a partition of the devices that have one. -/
theorem partition_devicesOfChannel (ids : DeviceSet) (records : OrderedMap DeviceId DeviceRecord) :
    DeviceSet.Partition
      (fun name : { name // (ofPath ids records).channelPaths.contains name = true } =>
        devicesOfChannel ids records name)
      fun id => ids.contains id = true ∧
        ∃ record, records.get? id = some record ∧ record.channelPath ≠ "" := by
  constructor
  · intro id
    constructor
    · rintro ⟨⟨name, named⟩, listed⟩
      obtain ⟨inside, record, stored, rfl⟩ := contains_devicesOfChannel.1 listed
      exact ⟨inside, record, stored, (contains_channelPaths.1 named).1⟩
    · rintro ⟨inside, record, stored, named⟩
      have listed : (devicesOfChannel ids records record.channelPath).contains id = true :=
        contains_devicesOfChannel.2 ⟨inside, record, stored, rfl⟩
      exact ⟨⟨record.channelPath, contains_channelPaths.2 ⟨named, id, listed⟩⟩, listed⟩
  · rintro ⟨name, _⟩ ⟨other, _⟩ id listed listed'
    obtain ⟨_, record, stored, rfl⟩ := contains_devicesOfChannel.1 listed
    obtain ⟨_, _, stored', rfl⟩ := contains_devicesOfChannel.1 listed'
    cases stored.symm.trans stored'
    rfl

/-! ## The statistics of a template -/

/-- The statistics of a path account for its devices. -/
theorem ofPath_accounts (ids : DeviceSet) (records : OrderedMap DeviceId DeviceRecord) :
    (ofPath ids records).Accounts ids records where
  total := DeviceRanges.describes_ofSet ids
  classes := ⟨devicesOfClass ids records, gives_ofPath ids records,
    fun _ _ => contains_devicesOfClass, partition_devicesOfClass ids records⟩
  counts := by
    have named := (names_ofPath ids records).size
    have sizes := counts_ofPath ids records
    rw [named]
    exact sizes
  channels := ⟨fun name => devicesOfChannel ids records name,
    fun _ _ listed => expand_channelPaths listed, fun _ _ => contains_devicesOfChannel,
    partition_devicesOfChannel ids records⟩

/-- **The statistics of every path of a template partition the path**: into the eight classes, whose
numbers add up, and, where records name channel paths, by these. -/
theorem ofPaths_accounts {paths : PathMap} {path : Nat} {ids : DeviceSet}
    (records : OrderedMap DeviceId DeviceRecord) (listed : paths.get? path = some ids) :
    ∃ statistics, (ofPaths paths records).get? path = some statistics ∧
      statistics.Accounts ids records := by
  refine ⟨ofPath ids records, ?_, ofPath_accounts ids records⟩
  rw [ofPaths, OrderedMap.get?_mapValues, listed, Option.map_some]

/-- A path with a device that is connected though nobody reserved it, one without record, and one
that is active on the hardware only. -/
def Sample.path : DeviceSet := RangeItem.devicesBetween (.ofNat 0x1a00) (.ofNat 0x1a02)

/-- The records of two of its devices. -/
def Sample.stored : OrderedMap DeviceId DeviceRecord :=
  let device (id : DeviceId) : DeviceRecord := { DeviceRecord.placeholder id with state := .active }
  .ofList [(.ofNat 0x1a00, { device (.ofNat 0x1a00) with connections := 1, channelPath := "5a" }),
    (.ofNat 0x1a02, device (.ofNat 0x1a02))]

theorem sample_accounted :
    (OrderedMap.insert ∅ 0 Sample.path : PathMap).get? 0 = some Sample.path ∧
      ∃ statistics, (ofPaths (OrderedMap.insert ∅ 0 Sample.path) Sample.stored).get? 0 =
        some statistics ∧ statistics.Accounts Sample.path Sample.stored := by
  have listed : (OrderedMap.insert ∅ 0 Sample.path : PathMap).get? 0 = some Sample.path := by
    decide +kernel
  exact ⟨listed, ofPaths_accounts Sample.stored listed⟩

end Statistics

end FibrePool
