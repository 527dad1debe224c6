import FibrePool.Device.Status

/-!
# Device listings

The hypervisor prints a block of six labelled lines for each device:

    opnstk1: FCP device number: 1A00
    opnstk1:   Status: Free
    opnstk1:   NPIV world wide port number: C05076DE330003C2
    opnstk1:   Channel path ID: 27
    opnstk1:   Physical world wide port number: C05076DE33002E41
    opnstk1:   Owner: NONE

A line with a device number opens a block, the other five lines follow in any order, and lines
without a label are ignored.  A block that lacks a line, has one twice or has an unreadable value
makes the whole listing malformed.
-/

namespace FibrePool

set_option autoImplicit false

/-- The labels of a listing. -/
inductive ListingLabel where
  | device
  | status
  | npivName
  | channelPath
  | physicalName
  | owner
  deriving DecidableEq, Repr

namespace ListingLabel

/-- The words of a label. -/
def phrase : ListingLabel → String
  | device => "FCP device number"
  | status => "Status"
  | npivName => "NPIV world wide port number"
  | channelPath => "Channel path ID"
  | physicalName => "Physical world wide port number"
  | owner => "Owner"

/-- The labels in the order in which a line is searched for them. -/
def searchOrder : List ListingLabel :=
  [physicalName, npivName, device, channelPath, status, owner]

/-- The value of a line that has the label: its phrase, first met, stands before a colon. -/
def valueIn? (label : ListingLabel) (line : List Char) : Option String :=
  match (Text.after? label.phrase.toList line).map Text.trimStart with
  | some (':' :: value) => some (Text.lower (String.ofList (Text.trim value)))
  | _ => none

end ListingLabel

namespace Listing

/-- The label and the lower-case value of a labelled line. -/
def labelled? (line : List Char) : Option (ListingLabel × String) :=
  ListingLabel.searchOrder.findSome? fun label =>
    (label.valueIn? line).map fun value => (label, value)

/-- The failure of a listing that is not made of complete blocks. -/
def malformed (reason : String) : Failure :=
  .internal s!"malformed FCP device query output: {reason}"

/-- The lines of one block that have been read so far, after the device number. -/
structure Block where
  device : String
  status : Option String := none
  npivName : Option String := none
  channelPath : Option String := none
  physicalName : Option String := none
  owner : Option String := none
  deriving DecidableEq, Repr

namespace Block

/-- What the block holds for a label. -/
def get? (block : Block) : ListingLabel → Option String
  | .device => some block.device
  | .status => block.status
  | .npivName => block.npivName
  | .channelPath => block.channelPath
  | .physicalName => block.physicalName
  | .owner => block.owner

/-- Fills in the value of a label. -/
def set (block : Block) (label : ListingLabel) (value : String) : Block :=
  match label with
  | .device => { block with device := value }
  | .status => { block with status := some value }
  | .npivName => { block with npivName := some value }
  | .channelPath => { block with channelPath := some value }
  | .physicalName => { block with physicalName := some value }
  | .owner => { block with owner := some value }

/-- The value of a label that must be there. -/
def require (block : Block) (label : ListingLabel) : Outcome String :=
  match block.get? label with
  | some value => .ok value
  | none => .error (malformed s!"device {block.device}: missing {label.phrase}")

/-- An empty value stands for no value. -/
def orNone (value : String) : String := if value = "" then noneWord else value

/-- The device that a finished block describes. -/
def finish (block : Block) : Outcome LiveDevice := do
  let status ← block.require .status
  let npivName ← block.require .npivName
  let channelPath ← block.require .channelPath
  let physicalName ← block.require .physicalName
  let owner ← block.require .owner
  let id ← match DeviceId.parse block.device with
    | .ok id => pure id
    | .error _ => throw (malformed s!"invalid device number '{block.device}'")
  let state ← match DeviceStatus.parse status with
    | .ok state => pure state
    | .error _ => throw (malformed s!"device {block.device}: unknown status '{status}'")
  return {
    id, channelPath
    npivName := orNone npivName
    physicalName := orNone physicalName
    status := state
    owner := orNone owner }

end Block

/-- Reads labelled lines after those of an open block. -/
def readBlocks : Option Block → List (ListingLabel × String) → Outcome (List LiveDevice)
  | none, [] => .ok []
  | some block, [] => (fun device => [device]) <$> block.finish
  | none, (.device, value) :: rest => readBlocks (some { device := value }) rest
  | some block, (.device, value) :: rest => do
    let device ← block.finish
    let devices ← readBlocks (some { device := value }) rest
    return device :: devices
  | none, (label, _) :: _ =>
    .error (malformed s!"'{label.phrase}' line before any device number")
  | some block, (label, value) :: rest =>
    match block.get? label with
    | some _ => .error (malformed s!"duplicate '{label.phrase}' line in one device block")
    | none => readBlocks (some (block.set label value)) rest

/-- The labelled lines of a text, in order. -/
def labelledLines (text : String) : List (ListingLabel × String) :=
  (Text.lines text.toList).filterMap labelled?

/-- The devices of a listing, in order. -/
def parse (text : String) : Outcome (List LiveDevice) := readBlocks none (labelledLines text)

end Listing

end FibrePool
