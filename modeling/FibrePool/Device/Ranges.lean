import FibrePool.Device.Id

/-!
# Range expressions

The devices of a template are written as `1A00-1A03;1B00-1B03`: semicolons separate the paths, and
each path is a list of device numbers and inclusive ranges between commas.  Blanks around any part
are ignored, and a blank text has no path at all.

Expanding gives one set per path, numbered from zero.  Collapsing writes a set with as few items as
possible: every maximal run of consecutive numbers is one item.
-/

namespace FibrePool

set_option autoImplicit false

/-- One item of a path: a device, or a range with both its ends. -/
inductive RangeItem where
  | single (id : DeviceId)
  | span (first last : DeviceId)
  deriving DecidableEq, Repr

namespace RangeItem

/-- The devices from one number to another. -/
def devicesBetween (first last : DeviceId) : DeviceSet :=
  (List.range' first.toNat (last.toNat + 1 - first.toNat)).foldr
    (fun number set => set.insert (DeviceId.ofNat number) ()) ∅

/-- The devices of an item. -/
def devices : RangeItem → DeviceSet
  | single id => OrderedMap.insert ∅ id ()
  | span first last => devicesBetween first last

/-- A device number of an item, or why it is none. -/
def readId (token : List Char) : Except String DeviceId :=
  match DeviceId.ofChars? token with
  | some id => .ok id
  | none => .error s!"'{String.ofList (Text.trim token)}' is not a device number"

/-- The item that a text without blanks at its ends stands for. -/
def read (item : List Char) : Except String RangeItem :=
  match Text.splitOnce? '-' item with
  | none => single <$> readId item
  | some (left, right) => do
    let first ← readId left
    let last ← readId right
    if last.toNat < first.toNat then
      throw s!"range start {first} is greater than end {last}"
    return span first last

end RangeItem

namespace Ranges

/-- The items of the path with number `path`. -/
def readPath (path : Nat) (group : List Char) : Except String (List RangeItem) :=
  (Text.splitAt ',' group).mapM fun piece =>
    let item := Text.trim piece
    if item.isEmpty then .error s!"empty item in path {path}" else RangeItem.read item

/-- The devices of a list of items. -/
def devicesOf (items : List RangeItem) : DeviceSet :=
  items.foldl (fun set item => set.union item.devices) ∅

/-- The items of every path of an expression, by path number. -/
def readPaths (spec : List Char) : Except String (List (Nat × List RangeItem)) :=
  if (Text.trim spec).isEmpty then .ok []
  else (Text.splitAt ';' spec).zipIdx.mapM fun (group, path) => do
    return (path, ← readPath path group)

/-- The devices of each path of an expression. -/
def expand (spec : String) : Outcome PathMap :=
  match readPaths spec.toList with
  | .ok paths => .ok (OrderedMap.ofList (paths.map fun (path, items) => (path, devicesOf items)))
  | .error reason => .error (.invalidFormat spec reason)

/-- The maximal runs of consecutive numbers of an ascending list, each with its ends. -/
def runs : List Nat → List (Nat × Nat)
  | [] => []
  | number :: rest =>
    match runs rest with
    | (first, last) :: more =>
      if first = number + 1 then (number, last) :: more
      else (number, number) :: (first, last) :: more
    | [] => [(number, number)]

/-- Four upper-case hexadecimal digits. -/
def upperWord (number : Nat) : String :=
  String.ofList ((Text.hexWord number).map Char.toUpper)

/-- The item that a run is written as. -/
def showRun (run : Nat × Nat) : String :=
  if run.1 = run.2 then upperWord run.1 else upperWord run.1 ++ "-" ++ upperWord run.2

/-- The shortest expression of a set of devices. -/
def collapse (ids : DeviceSet) : String :=
  ",".intercalate ((runs (ids.keys.map DeviceId.toNat)).map showRun)

/-- The expression of every path, in path order. -/
def collapsePaths (paths : PathMap) : String :=
  ";".intercalate (paths.values.map collapse)

end Ranges

end FibrePool
