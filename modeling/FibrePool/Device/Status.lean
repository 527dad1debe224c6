import FibrePool.Device.Id
import FibrePool.Text.Case

/-!
# Device states

What the hypervisor says about a device: its state, the worldwide port names of its two faces, its
channel path and the guest that uses it.
-/

namespace FibrePool

set_option autoImplicit false

/-- The state of a device. -/
inductive DeviceStatus where
  | free
  | active
  | offline
  | notFound
  deriving DecidableEq, Repr, Inhabited

namespace DeviceStatus

/-- The word for a state. -/
def word : DeviceStatus → String
  | free => "free"
  | active => "active"
  | offline => "offline"
  | notFound => "notfound"

instance : ToString DeviceStatus := ⟨DeviceStatus.word⟩

/-- The state with exactly this word. -/
def ofWord? (word : String) : Option DeviceStatus :=
  [free, active, offline, notFound].find? fun status => status.word == word

/-- The state that a text names, in any case and with blanks around it. -/
def parse (raw : String) : Outcome DeviceStatus :=
  let word := Text.lower (Text.trimmed raw)
  match ofWord? word with
  | some status => .ok status
  | none => .error (.invalidFormat word "unknown FCP device status")

end DeviceStatus

/-- The word for an absent port name or owner. -/
def noneWord : String := "none"

/-- Whether a port name is there. -/
def isPortName (name : String) : Bool := name != "" && name != noneWord

/-- The form in which the pool keeps the name of a guest. -/
def guestName (raw : String) : String := Text.upper (Text.trimmed raw)

/-- A device as the hypervisor reports it. -/
structure LiveDevice where
  id : DeviceId
  npivName : String
  physicalName : String
  channelPath : String
  status : DeviceStatus
  owner : String
  deriving DecidableEq, Repr, Inhabited

end FibrePool
