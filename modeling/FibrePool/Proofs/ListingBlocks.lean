import FibrePool.Proofs.DeviceNumbers
import FibrePool.Proofs.LabelledLines
import Mathlib.Data.List.Nodup

/-!
# Listings are made of blocks

A block is the line of a device number and then one line of each other label, in any order; it
describes a device when its number is one and its status is the word for a state
(`Listing.Describes`).  A listing is read exactly when its labelled lines are blocks one after
another, and it gives one device for each of them (`Listing.parse_follows_blocks`).

The loop over the lines closes a block in two places, at the next device number and at the end.
`Listing.Remaining` says once for both what may follow a state of the loop, and every line is then
one equation about it.  That a block holds each label once is a fact about filling it
(`Listing.Block.fill?_eq_some_iff`).
-/

namespace FibrePool

set_option autoImplicit false

/-! ## States -/

namespace DeviceStatus

theorem ofWord?_eq_some_iff {word : String} {status : DeviceStatus} :
    ofWord? word = some status ↔ word = status.word := by
  constructor
  · intro found
    have same := List.find?_some found
    exact (beq_iff_eq.1 same).symm
  · rintro rfl
    cases status <;> decide

/-- A tidy text names a state if it is the word for it. -/
theorem parse_eq_ok_iff {text : String} (tidy : Text.IsTidy text) {status : DeviceStatus} :
    parse text = .ok status ↔ text = status.word := by
  have word : Text.lower (Text.trimmed text) = text := by
    rw [Text.trimmed, Text.trim_eq_self_of_ends tidy.ends, String.ofList_toList, tidy.lowered]
  rw [parse, word, ← ofWord?_eq_some_iff]
  cases ofWord? text with
  | none => simp
  | some other => simp

end DeviceStatus

namespace Listing

/-! ## Blocks of lines -/

/-- The labels of the lines that follow a device number. -/
def others : List ListingLabel := [.status, .npivName, .channelPath, .physicalName, .owner]

theorem mem_others_iff {label : ListingLabel} : label ∈ others ↔ label ≠ .device := by
  cases label <;> decide

/-- Lines are a block with these values: the device number first, then each other label once. -/
def IsBlock (value : ListingLabel → String) (lines : List (ListingLabel × String)) : Prop :=
  ∃ rest, lines = (.device, value .device) :: rest ∧
    rest.Perm (others.map fun label => (label, value label))

/-- The values of a block are those of a device. -/
structure Tells (value : ListingLabel → String) (device : LiveDevice) : Prop where
  id : DeviceId.IsWritten (value .device).toList device.id
  status : value .status = device.status.word
  npivName : device.npivName = Block.orNone (value .npivName)
  channelPath : device.channelPath = value .channelPath
  physicalName : device.physicalName = Block.orNone (value .physicalName)
  owner : device.owner = Block.orNone (value .owner)

/-- Lines are the block of a device. -/
def Describes (lines : List (ListingLabel × String)) (device : LiveDevice) : Prop :=
  ∃ value, IsBlock value lines ∧ Tells value device

namespace Block

variable {block full : Block} {label other : ListingLabel}

/-! ## Filling a block -/

theorem get?_set (block : Block) (label other : ListingLabel) (value : String) :
    (block.set label value).get? other =
      if other = label then some value else block.get? other := by
  cases label <;> cases other <;> rfl

/-- A block is known by what it holds for each label. -/
theorem ext_get? {block other : Block}
    (same : ∀ label value, block.get? label = some value ↔ other.get? label = some value) :
    block = other := by
  have each (label : ListingLabel) : block.get? label = other.get? label :=
    Option.ext fun value => same label value
  have device : block.device = other.device := Option.some.inj (each .device)
  have status : block.status = other.status := each .status
  have npivName : block.npivName = other.npivName := each .npivName
  have channelPath : block.channelPath = other.channelPath := each .channelPath
  have physicalName : block.physicalName = other.physicalName := each .physicalName
  have owner : block.owner = other.owner := each .owner
  cases block
  cases other
  simp only at device status npivName channelPath physicalName owner
  rw [device, status, npivName, channelPath, physicalName, owner]

/-- The block with the values of further lines, unless one of them is there already. -/
def fill? : Block → List (ListingLabel × String) → Option Block
  | block, [] => some block
  | block, (label, value) :: rest =>
    match block.get? label with
    | some _ => none
    | none => (block.set label value).fill? rest

theorem fill?_cons_eq_some_iff {value : String} {rest : List (ListingLabel × String)} :
    block.fill? ((label, value) :: rest) = some full ↔
      block.get? label = none ∧ (block.set label value).fill? rest = some full := by
  rw [fill?]
  cases block.get? label with
  | none => simp
  | some there => simp

/-- **A block is filled by lines of different labels that it lacks**, and it holds their values. -/
theorem fill?_eq_some_iff {own : List (ListingLabel × String)} :
    block.fill? own = some full ↔ (own.map (·.1)).Nodup ∧
      (∀ label ∈ own.map (·.1), block.get? label = none) ∧
      ∀ label value, full.get? label = some value ↔
        block.get? label = some value ∨ (label, value) ∈ own := by
  induction own generalizing block with
  | nil =>
    rw [fill?, Option.some.injEq]
    constructor
    · rintro rfl
      simp
    · rintro ⟨_, _, same⟩
      exact ext_get? fun label value => by simpa using (same label value).symm
  | cons line rest ih =>
    obtain ⟨label, value⟩ := line
    rw [fill?_cons_eq_some_iff, ih]
    simp only [List.map_cons, List.nodup_cons, List.forall_mem_cons, get?_set]
    constructor
    · rintro ⟨lacks, distinct, absent, holds⟩
      have new : label ∉ rest.map (·.1) := by
        intro again
        have there := absent label again
        rw [if_pos rfl] at there
        cases there
      refine ⟨⟨new, distinct⟩, ⟨lacks, ?_⟩, ?_⟩
      · intro other listed
        have there := absent other listed
        rwa [if_neg (fun same : other = label => new (same ▸ listed))] at there
      · intro other word
        rw [holds]
        by_cases same : other = label
        · subst same
          simp [lacks, eq_comm]
        · simp [same]
    · rintro ⟨⟨new, distinct⟩, ⟨lacks, absent⟩, holds⟩
      refine ⟨lacks, distinct, ?_, ?_⟩
      · intro other listed
        rw [if_neg (fun same : other = label => new (same ▸ listed))]
        exact absent other listed
      · intro other word
        rw [holds]
        by_cases same : other = label
        · subst same
          simp [lacks, eq_comm]
        · simp [same]

/-! ## Finishing a block -/

theorem require_eq_ok {value : String} :
    block.require label = .ok value ↔ block.get? label = some value := by
  rw [require]
  cases block.get? label with
  | none => simp
  | some there => simp

/-- A finished block has a value for every label, with a number and a state that can be read. -/
theorem finish_eq_ok_iff {device : LiveDevice} :
    full.finish = .ok device ↔ ∃ value : ListingLabel → String,
      (∀ label, full.get? label = some (value label)) ∧
      DeviceId.parse (value .device) = .ok device.id ∧
      DeviceStatus.parse (value .status) = .ok device.status ∧
      device.npivName = orNone (value .npivName) ∧ device.channelPath = value .channelPath ∧
      device.physicalName = orNone (value .physicalName) ∧
      device.owner = orNone (value .owner) := by
  constructor
  · intro done
    unfold finish at done
    obtain ⟨status, hasStatus, done⟩ := Outcome.bind_eq_ok.1 done
    obtain ⟨npivName, hasNpivName, done⟩ := Outcome.bind_eq_ok.1 done
    obtain ⟨channelPath, hasChannelPath, done⟩ := Outcome.bind_eq_ok.1 done
    obtain ⟨physicalName, hasPhysicalName, done⟩ := Outcome.bind_eq_ok.1 done
    obtain ⟨owner, hasOwner, done⟩ := Outcome.bind_eq_ok.1 done
    rw [require_eq_ok] at hasStatus hasNpivName hasChannelPath hasPhysicalName hasOwner
    dsimp only at done
    split at done
    · next id number =>
      rw [pure_bind] at done
      split at done
      · next state word =>
        cases done
        have holds (label : ListingLabel) :
            full.get? label = some ((full.get? label).getD "") := by
          cases label with
          | device => rfl
          | status => rw [hasStatus, Option.getD_some]
          | npivName => rw [hasNpivName, Option.getD_some]
          | channelPath => rw [hasChannelPath, Option.getD_some]
          | physicalName => rw [hasPhysicalName, Option.getD_some]
          | owner => rw [hasOwner, Option.getD_some]
        refine ⟨_, holds, number, ?_⟩
        rw [hasStatus, hasNpivName, hasChannelPath, hasPhysicalName, hasOwner]
        exact ⟨word, rfl, rfl, rfl, rfl⟩
      · cases done
    · cases done
  · rintro ⟨value, holds, number, word, npivName, channelPath, physicalName, owner⟩
    have named : full.device = value .device := Option.some.inj (holds .device)
    unfold finish
    refine Outcome.bind_eq_ok.2 ⟨_, require_eq_ok.2 (holds .status), ?_⟩
    refine Outcome.bind_eq_ok.2 ⟨_, require_eq_ok.2 (holds .npivName), ?_⟩
    refine Outcome.bind_eq_ok.2 ⟨_, require_eq_ok.2 (holds .channelPath), ?_⟩
    refine Outcome.bind_eq_ok.2 ⟨_, require_eq_ok.2 (holds .physicalName), ?_⟩
    refine Outcome.bind_eq_ok.2 ⟨_, require_eq_ok.2 (holds .owner), ?_⟩
    simp only [named, number, word, pure_bind, ← npivName, ← channelPath, ← physicalName, ← owner]
    rfl

end Block

/-! ## The loop over the lines -/

variable {block : Block} {lines rest : List (ListingLabel × String)} {label : ListingLabel}
  {value : String} {devices : List LiveDevice} {device : LiveDevice}

/-- The lines that complete an open block to a device. -/
def Completes (block : Block) (own : List (ListingLabel × String)) (device : LiveDevice) : Prop :=
  ∃ full, block.fill? own = some full ∧ full.finish = .ok device

/-- The lines from which a device is read. -/
def IsRead (lines : List (ListingLabel × String)) (device : LiveDevice) : Prop :=
  ∃ number own, lines = (.device, number) :: own ∧ Completes { device := number } own device

/-- What may follow a state of the loop, and the devices that come of it: blocks, after the lines
that complete an open one. -/
def Remaining : Option Block → List (ListingLabel × String) → List LiveDevice → Prop
  | none, lines, devices => ∃ blocks, lines = blocks.flatten ∧ List.Forall₂ IsRead blocks devices
  | some block, lines, devices => ∃ own later device others, lines = own ++ later ∧
      devices = device :: others ∧ Completes block own device ∧
        ∃ blocks, later = blocks.flatten ∧ List.Forall₂ IsRead blocks others

theorem completes_nil : Completes block [] device ↔ block.finish = .ok device := by
  simp [Completes, Block.fill?]

theorem completes_cons : Completes block ((label, value) :: rest) device ↔
    block.get? label = none ∧ Completes (block.set label value) rest device := by
  simp only [Completes, Block.fill?_cons_eq_some_iff, and_assoc, exists_and_left]

theorem remaining_none_nil : Remaining none [] devices ↔ devices = [] := by
  constructor
  · rintro ⟨blocks, empty, pairs⟩
    cases pairs with
    | nil => rfl
    | cons read _ =>
      obtain ⟨number, own, rfl, _⟩ := read
      cases empty
  · rintro rfl
    exact ⟨[], rfl, .nil⟩

/-- A device number opens a block. -/
theorem remaining_none_device : Remaining none ((.device, value) :: rest) devices ↔
    Remaining (some { device := value }) rest devices := by
  constructor
  · rintro ⟨blocks, joined, pairs⟩
    cases pairs with
    | nil => cases joined
    | @cons _ device _ others read pairs =>
      obtain ⟨number, own, rfl, completes⟩ := read
      cases joined
      exact ⟨own, _, device, others, rfl, rfl, completes, _, rfl, pairs⟩
  · rintro ⟨own, _, device, others, rfl, rfl, completes, blocks, rfl, pairs⟩
    exact ⟨((.device, value) :: own) :: blocks, rfl, .cons ⟨value, own, rfl, completes⟩ pairs⟩

/-- Nothing but a device number opens a block. -/
theorem not_remaining_none (other : label ≠ .device) :
    ¬ Remaining none ((label, value) :: rest) devices := by
  rintro ⟨blocks, joined, pairs⟩
  cases pairs with
  | nil => cases joined
  | cons read _ =>
    obtain ⟨number, own, rfl, _⟩ := read
    cases joined
    exact other rfl

theorem remaining_some_nil : Remaining (some block) [] devices ↔
    ∃ device, block.finish = .ok device ∧ devices = [device] := by
  constructor
  · rintro ⟨own, later, device, others, empty, rfl, completes, blocks⟩
    obtain ⟨rfl, rfl⟩ := List.append_eq_nil_iff.1 empty.symm
    have none : others = [] := remaining_none_nil.1 blocks
    exact ⟨device, completes_nil.1 completes, by rw [none]⟩
  · rintro ⟨device, finished, rfl⟩
    exact ⟨[], [], device, [], rfl, rfl, completes_nil.2 finished, [], rfl, .nil⟩

/-- A device number closes the block before it. -/
theorem remaining_some_device : Remaining (some block) ((.device, value) :: rest) devices ↔
    ∃ device others, block.finish = .ok device ∧
      Remaining (some { device := value }) rest others ∧ devices = device :: others := by
  constructor
  · rintro ⟨own, later, device, others, joined, rfl, completes, blocks⟩
    cases own with
    | nil =>
      cases joined
      exact ⟨device, others, completes_nil.1 completes, remaining_none_device.1 blocks, rfl⟩
    | cons line own =>
      cases joined
      cases (completes_cons.1 completes).1
  · rintro ⟨device, others, finished, remaining, rfl⟩
    exact ⟨[], _, device, others, rfl, rfl, completes_nil.2 finished,
      remaining_none_device.2 remaining⟩

/-- Another label goes into the open block, which must lack it. -/
theorem remaining_some_cons (other : label ≠ .device) :
    Remaining (some block) ((label, value) :: rest) devices ↔
      block.get? label = none ∧ Remaining (some (block.set label value)) rest devices := by
  constructor
  · rintro ⟨own, later, device, others, joined, rfl, completes, blocks⟩
    cases own with
    | nil =>
      rw [List.nil_append] at joined
      rw [← joined] at blocks
      exact absurd blocks (not_remaining_none other)
    | cons line own =>
      cases joined
      obtain ⟨lacks, completes⟩ := completes_cons.1 completes
      exact ⟨lacks, own, later, device, others, rfl, rfl, completes, blocks⟩
  · rintro ⟨lacks, own, later, device, others, rfl, rfl, completes, blocks⟩
    exact ⟨(label, value) :: own, later, device, others, rfl, rfl,
      completes_cons.2 ⟨lacks, completes⟩, blocks⟩

/-- **The loop reads what may follow its state.**  One line at a time, the open block is opened,
filled or closed. -/
theorem readBlocks_eq_ok_iff {state : Option Block} :
    readBlocks state lines = .ok devices ↔ Remaining state lines devices := by
  fun_induction readBlocks state lines generalizing devices with
  | case1 => rw [remaining_none_nil, Except.ok.injEq, eq_comm]
  | case2 block =>
    rw [remaining_some_nil, map_eq_pure_bind, Outcome.bind_eq_ok]
    simp only [Outcome.pure_eq_ok]
    constructor
    · rintro ⟨device, finished, rfl⟩
      exact ⟨device, finished, rfl⟩
    · rintro ⟨device, finished, rfl⟩
      exact ⟨device, finished, rfl⟩
  | case3 value rest ih => rw [ih, remaining_none_device]
  | case4 block value rest ih =>
    simp only [Outcome.bind_eq_ok, ih, Outcome.pure_eq_ok, remaining_some_device]
    constructor
    · rintro ⟨device, finished, others, remaining, rfl⟩
      exact ⟨device, others, finished, remaining, rfl⟩
    · rintro ⟨device, others, finished, remaining, rfl⟩
      exact ⟨device, finished, others, remaining, rfl⟩
  | case5 label value rest other =>
    constructor
    · intro done
      cases done
    · intro remaining
      exact absurd remaining (not_remaining_none other)
  | case6 block label value rest other there held =>
    constructor
    · intro done
      cases done
    · intro remaining
      have lacks := ((remaining_some_cons other).1 remaining).1
      rw [held] at lacks
      cases lacks
  | case7 block label value rest other lacks ih =>
    rw [ih, remaining_some_cons other, and_iff_right lacks]

/-! ## Blocks of tidy lines -/

namespace Block

/-- The block with a value for each label. -/
def whole (value : ListingLabel → String) : Block where
  device := value .device
  status := some (value .status)
  npivName := some (value .npivName)
  channelPath := some (value .channelPath)
  physicalName := some (value .physicalName)
  owner := some (value .owner)

theorem get?_whole (value : ListingLabel → String) (label : ListingLabel) :
    (whole value).get? label = some (value label) := by
  cases label <;> rfl

theorem eq_whole_iff {full : Block} {value : ListingLabel → String} :
    full = whole value ↔ ∀ label, full.get? label = some (value label) := by
  constructor
  · rintro rfl
    exact get?_whole value
  · intro holds
    apply ext_get?
    intro label word
    rw [holds, get?_whole]

theorem get?_opened {number word : String} {label : ListingLabel} :
    ({ device := number } : Block).get? label = some word ↔ label = .device ∧ number = word := by
  cases label <;> simp [get?]

theorem get?_opened_eq_none {number : String} {label : ListingLabel} :
    ({ device := number } : Block).get? label = none ↔ label ≠ .device := by
  cases label <;> simp [get?]

/-- The lines after a device number fill its block if there is one for each other label. -/
theorem fill?_eq_whole_iff {number : String} {own : List (ListingLabel × String)}
    {value : ListingLabel → String} :
    ({ device := number } : Block).fill? own = some (whole value) ↔
      number = value .device ∧ own.Perm (others.map fun label => (label, value label)) := by
  rw [fill?_eq_some_iff]
  simp only [get?_opened, get?_opened_eq_none, get?_whole, Option.some.injEq]
  constructor
  · rintro ⟨distinct, other, holds⟩
    have named := (holds .device number).2 (.inl ⟨rfl, rfl⟩)
    refine ⟨named.symm, ?_⟩
    have single : (others.map fun label => (label, value label)).Nodup :=
      List.Nodup.map (fun _ _ same => congrArg Prod.fst same) (by decide)
    rw [List.perm_ext_iff_of_nodup distinct.of_map single]
    rintro ⟨label, word⟩
    rw [List.mem_map]
    constructor
    · intro listed
      have written := (holds label word).2 (.inr listed)
      exact ⟨label, mem_others_iff.2 (other label (List.mem_map_of_mem listed)), by rw [written]⟩
    · rintro ⟨_, listed, same⟩
      cases same
      rcases (holds label (value label)).1 rfl with ⟨device, _⟩ | there
      · exact absurd device (mem_others_iff.1 listed)
      · exact there
  · rintro ⟨rfl, same⟩
    have labels : (own.map (·.1)).Perm others := by
      simpa only [List.map_map, Function.comp_def, List.map_id'] using same.map (·.1)
    refine ⟨labels.nodup_iff.2 (by decide), ?_, ?_⟩
    · intro label listed
      exact mem_others_iff.1 (labels.mem_iff.1 listed)
    · intro label word
      rw [same.mem_iff, List.mem_map]
      constructor
      · rintro rfl
        by_cases device : label = .device
        · exact .inl ⟨device, by rw [device]⟩
        · exact .inr ⟨label, mem_others_iff.2 device, rfl⟩
      · rintro (⟨rfl, same⟩ | ⟨_, _, same⟩)
        · exact same
        · cases same
          rfl

/-- A block of tidy values is finished as the device that they tell of. -/
theorem finish_whole_iff {value : ListingLabel → String} {device : LiveDevice}
    (tidy : ∀ label, Text.IsTidy (value label)) :
    (whole value).finish = .ok device ↔ Tells value device := by
  rw [finish_eq_ok_iff]
  constructor
  · rintro ⟨other, holds, number, state, npivName, channelPath, physicalName, owner⟩
    have same : other = value := by
      funext label
      exact Option.some.inj ((holds label).symm.trans (get?_whole value label))
    subst same
    exact ⟨(DeviceId.parse_eq_ok_iff (tidy .device).ends).1 number,
      (DeviceStatus.parse_eq_ok_iff (tidy .status)).1 state, npivName, channelPath, physicalName,
      owner⟩
  · rintro ⟨number, state, npivName, channelPath, physicalName, owner⟩
    exact ⟨value, get?_whole value, (DeviceId.parse_eq_ok_iff (tidy .device).ends).2 number,
      (DeviceStatus.parse_eq_ok_iff (tidy .status)).2 state, npivName, channelPath, physicalName,
      owner⟩

end Block

theorem IsBlock.mem {value : ListingLabel → String} (block : IsBlock value lines)
    (label : ListingLabel) : (label, value label) ∈ lines := by
  obtain ⟨rest, rfl, same⟩ := block
  by_cases device : label = .device
  · rw [device]
    exact List.mem_cons_self
  · have listed := List.mem_map_of_mem (f := fun label => (label, value label))
      (mem_others_iff.2 device)
    exact List.mem_cons_of_mem _ (same.mem_iff.2 listed)

/-- **A device is read from tidy lines if they are its block.** -/
theorem isRead_iff_describes (tidy : ∀ line ∈ lines, Text.IsTidy line.2) :
    IsRead lines device ↔ Describes lines device := by
  constructor
  · rintro ⟨number, own, rfl, full, filled, finished⟩
    obtain ⟨value, holds, _⟩ := Block.finish_eq_ok_iff.1 finished
    obtain rfl := Block.eq_whole_iff.2 holds
    obtain ⟨rfl, same⟩ := Block.fill?_eq_whole_iff.1 filled
    have block : IsBlock value ((.device, value .device) :: own) := ⟨own, rfl, same⟩
    exact ⟨value, block, (Block.finish_whole_iff fun label => tidy _ (block.mem label)).1 finished⟩
  · rintro ⟨value, block, tells⟩
    have finished := (Block.finish_whole_iff fun label => tidy _ (block.mem label)).2 tells
    obtain ⟨own, rfl, same⟩ := block
    exact ⟨value .device, own, rfl, .whole value, Block.fill?_eq_whole_iff.2 ⟨rfl, same⟩, finished⟩

/-! ## Failures -/

/-- An outcome can fail in one way only, because a listing is malformed. -/
def OnlyMalformed {α : Type} (outcome : Outcome α) : Prop :=
  ∀ failure, outcome = .error failure → ∃ reason, failure = malformed reason

theorem onlyMalformed_ok {α : Type} (result : α) : OnlyMalformed (.ok result) := by
  intro failure failed
  cases failed

theorem onlyMalformed_error {α : Type} (reason : String) :
    OnlyMalformed (α := α) (.error (malformed reason)) := by
  intro failure failed
  cases failed
  exact ⟨reason, rfl⟩

theorem OnlyMalformed.bind {α β : Type} {outcome : Outcome α} {next : α → Outcome β}
    (first : OnlyMalformed outcome) (later : ∀ result, OnlyMalformed (next result)) :
    OnlyMalformed (outcome >>= next) := by
  cases outcome with
  | ok result => exact later result
  | error failure =>
    intro other failed
    cases failed
    exact first failure rfl

theorem onlyMalformed_require (block : Block) (label : ListingLabel) :
    OnlyMalformed (block.require label) := by
  rw [Block.require]
  cases block.get? label with
  | some value => exact onlyMalformed_ok value
  | none => exact onlyMalformed_error _

theorem onlyMalformed_finish (block : Block) : OnlyMalformed block.finish := by
  unfold Block.finish
  refine (onlyMalformed_require block .status).bind fun status => ?_
  refine (onlyMalformed_require block .npivName).bind fun npivName => ?_
  refine (onlyMalformed_require block .channelPath).bind fun channelPath => ?_
  refine (onlyMalformed_require block .physicalName).bind fun physicalName => ?_
  refine (onlyMalformed_require block .owner).bind fun owner => ?_
  dsimp only
  split
  · rw [pure_bind]
    split
    · exact onlyMalformed_ok _
    · exact onlyMalformed_error _
  · exact onlyMalformed_error _

theorem onlyMalformed_readBlocks (state : Option Block) (lines : List (ListingLabel × String)) :
    OnlyMalformed (readBlocks state lines) := by
  fun_induction readBlocks state lines with
  | case1 => exact onlyMalformed_ok []
  | case2 block =>
    rw [map_eq_pure_bind]
    exact (onlyMalformed_finish block).bind fun device => onlyMalformed_ok [device]
  | case3 value rest ih => exact ih
  | case4 block value rest ih =>
    exact (onlyMalformed_finish block).bind fun device => ih.bind fun devices =>
      onlyMalformed_ok (device :: devices)
  | case5 label value rest other => exact onlyMalformed_error _
  | case6 block label value rest other there held => exact onlyMalformed_error _
  | case7 block label value rest other lacks ih => exact ih

/-! ## Listings -/

/-- The labelled lines of a text are the blocks of these devices, one after another. -/
def Presents (text : String) (devices : List LiveDevice) : Prop :=
  ∃ blocks, labelledLines text = blocks.flatten ∧ List.Forall₂ Describes blocks devices

theorem forall₂_isRead_iff {blocks : List (List (ListingLabel × String))}
    (tidy : ∀ lines ∈ blocks, ∀ line ∈ lines, Text.IsTidy line.2) :
    List.Forall₂ IsRead blocks devices ↔ List.Forall₂ Describes blocks devices := by
  induction blocks generalizing devices with
  | nil => simp only [List.forall₂_nil_left_iff]
  | cons lines blocks ih =>
    rw [List.forall_mem_cons] at tidy
    simp only [List.forall₂_cons_left_iff, isRead_iff_describes tidy.1, ih tidy.2]

theorem parse_eq_ok_iff {text : String} : parse text = .ok devices ↔ Presents text devices := by
  rw [parse, readBlocks_eq_ok_iff]
  refine exists_congr fun blocks => and_congr_right fun joined => forall₂_isRead_iff ?_
  intro lines member line listed
  apply isTidy_of_mem_labelledLines text
  rw [joined]
  exact List.mem_flatten_of_mem member listed

theorem Presents.append {first second : String} {devices further : List LiveDevice}
    (one : Presents first devices) (other : Presents second further) :
    Presents (first ++ "\n" ++ second) (devices ++ further) := by
  obtain ⟨blocks, joined, pairs⟩ := one
  obtain ⟨more, joined', pairs'⟩ := other
  refine ⟨blocks ++ more, ?_, List.rel_append pairs pairs'⟩
  rw [labelledLines_append, joined, joined', List.flatten_append]

/-- A text is read, or its lines are no blocks and the failure says so. -/
theorem parse_cases (text : String) : (∃ devices, parse text = .ok devices) ∨
    ∃ reason, parse text = .error (.internal reason) := by
  cases read : parse text with
  | ok devices => exact .inl ⟨devices, rfl⟩
  | error failure =>
    obtain ⟨reason, rfl⟩ := onlyMalformed_readBlocks none (labelledLines text) failure read
    exact .inr ⟨_, rfl⟩

theorem labelledLines_congr {first second : String}
    (same : (Text.lines first.toList).filter (fun line => (labelled? line).isSome) =
      (Text.lines second.toList).filter fun line => (labelled? line).isSome) :
    labelledLines first = labelledLines second := by
  have kept (lines : List (List Char)) : lines.filterMap labelled? =
      (lines.filter fun line => (labelled? line).isSome).filterMap labelled? := by
    rw [List.filterMap_filter]
    apply List.filterMap_congr
    intro line _
    cases labelled? line <;> rfl
  rw [labelledLines, labelledLines, kept, same, ← kept]

/-- **A listing is read exactly if its labelled lines are complete blocks**, and it gives the
devices that these describe, in order.  Otherwise it fails as malformed.  Lines without a label do not
matter, and a listing behind another one gives the devices of both. -/
theorem parse_follows_blocks :
    (∀ text devices, parse text = .ok devices ↔ Presents text devices) ∧
    (∀ text, (∃ reason, parse text = .error (.internal reason)) ↔
      ¬ ∃ devices, Presents text devices) ∧
    (∀ first second : String,
      (Text.lines first.toList).filter (fun line => (labelled? line).isSome) =
        (Text.lines second.toList).filter (fun line => (labelled? line).isSome) →
      parse first = parse second) ∧
    ∀ first second devices further, parse first = .ok devices → parse second = .ok further →
      parse (first ++ "\n" ++ second) = .ok (devices ++ further) := by
  refine ⟨fun _ _ => parse_eq_ok_iff, ?_, ?_, ?_⟩
  · intro text
    simp only [← parse_eq_ok_iff]
    rcases parse_cases text with ⟨devices, read⟩ | ⟨reason, failed⟩
    · simp [read]
    · simp [failed]
  · intro first second same
    rw [parse, labelledLines_congr same, parse]
  · intro first second devices further one other
    exact parse_eq_ok_iff.2 ((parse_eq_ok_iff.1 one).append (parse_eq_ok_iff.1 other))

/-- A device that nobody uses. -/
def Sample.freeDevice : LiveDevice where
  id := .ofNat 0x1a00
  status := .free
  npivName := "c05076a1"
  channelPath := "27"
  physicalName := "c05076b1"
  owner := noneWord

/-- A device of a guest, without a port name of its own. -/
def Sample.usedDevice : LiveDevice where
  id := .ofNat 0x1b0
  status := .active
  npivName := noneWord
  channelPath := "2a"
  physicalName := "c05076b2"
  owner := "vm1"

/-- The listing of a free device. -/
def Sample.ordered : String := Text.join "\n" [
  "vm1: FCP device number: 1A00", "vm1:   Status: Free",
  "vm1:   NPIV world wide port number: C05076A1", "vm1:   Channel path ID: 27",
  "vm1:   Physical world wide port number: C05076B1", "vm1:   Owner: NONE"]

/-- The listing of a used device, in another order and with carriage returns. -/
def Sample.reordered : String := Text.join "\r\n" [
  "FCP device number: 1b0", "Owner: VM1", "Channel path ID: 2A", "NPIV world wide port number:",
  "Physical world wide port number: C05076B2", "Status: Active", ""]

theorem Sample.parse_ordered_and_reordered :
    ((Text.lines "vm1: ok\n\nOwner: VM1".toList).filter (fun line => (labelled? line).isSome) =
        (Text.lines "Owner: VM1\r\n".toList).filter fun line => (labelled? line).isSome) ∧
      parse "vm1: ok\n\nOwner: VM1" = parse "Owner: VM1\r\n" ∧
      parse ordered = .ok [freeDevice] ∧ parse reordered = .ok [usedDevice] ∧
      parse (ordered ++ "\n" ++ reordered) = .ok [freeDevice, usedDevice] := by
  have labelled :
      (Text.lines "vm1: ok\n\nOwner: VM1".toList).filter (fun line => (labelled? line).isSome) =
        (Text.lines "Owner: VM1\r\n".toList).filter fun line => (labelled? line).isSome := by
    decide +kernel
  have first : parse ordered = .ok [freeDevice] := by decide +kernel
  have second : parse reordered = .ok [usedDevice] := by decide +kernel
  exact ⟨labelled, parse_follows_blocks.2.2.1 _ _ labelled, first, second,
    parse_follows_blocks.2.2.2 _ _ _ _ first second⟩

end Listing

end FibrePool
