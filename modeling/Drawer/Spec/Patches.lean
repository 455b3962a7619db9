import Drawer.Lib.Dict
import Drawer.Spec.FleetOperations

/-! What a patch of a device owes the registry if it fails, and which patches leave the
device half changed: its fields are stored one by one, each as it is read, and the registry
is saved when all has been changed. -/

namespace Drawer.FleetOps
open FleetOperationsService

/-- `update_device` with the save at its end. `saved` is how that comes out: it raises if the store's directory cannot be
made. -/
def patchDevice {ω : Type} (env : Env ω) (saved : Except Exn Unit) (s : FleetOperationsService ω) (tenantId deviceId : String)
    (patch : Json String) (now : Int) : FleetOperationsService ω × Except Exn Reply :=
  match s.updateDevice env tenantId deviceId patch now with
  | (s, .ok .ok) => (s, saved.map fun _ => .ok)
  | r => r

/-- The registry holds what it held before: the same devices and assignments, and everything else as it was. -/
structure Unchanged {ω : Type} (s s' : FleetOperationsService ω) : Prop where
  devices : Dict.Same s'.devices s.devices
  assignments : Dict.Same s'.assignments s.assignments
  others : s' = { s with devices := s'.devices, assignments := s'.assignments }

/-- The members of a patch, in the order in which they are stored. -/
def patchKeys : List String := ["lifecycle_state", "location_id", "branch_id", "group_id", "fleet_id", "labels"]

/-- What the device holds of a member that is a text. -/
def held (d : FleetDevice) (key : String) : String :=
  if key = "lifecycle_state" then d.lifecycleState
  else if key = "location_id" then d.locationId
  else if key = "branch_id" then d.branchId
  else if key = "group_id" then d.groupId
  else d.fleetId

/-- The value is of the type of the member: a text, or for the labels an object of texts. -/
def OfType (key : String) (v : Json String) : Prop :=
  if key = "labels" then ∃ labels : Labels, v = .obj (labels.map fun m => (m.1, .str m.2)) else ∃ t, v = .str t

/-- The member can be stored, or is not given. -/
def Storable (patch : Json String) (key : String) : Prop := ∀ v, patch.member key = some v → OfType key v

/-- The member gives a text other than what the device holds. -/
def Alters (d : FleetDevice) (patch : Json String) (key : String) : Prop :=
  ∃ t, patch.member key = some (.str t) ∧ t ≠ held d key

/-- The patch passes the checks, and the first of its members that cannot be stored comes after one that changes the device. -/
structure Halves (d : FleetDevice) (patch : Json String) : Prop where
  lifecycle : ∀ t, patch.member "lifecycle_state" = some (.str t) → validTransition d.lifecycleState t false = true
  location : patch.member "location_id" ≠ some (.str "")
  stops : ∃ before key after, patchKeys = before ++ key :: after ∧ 2 ≤ before.length ∧ (∀ k ∈ before, Storable patch k) ∧
    ¬ Storable patch key ∧ ∃ k ∈ before, Alters d patch k

/-- The patch passes the checks, and all of its members can be stored. -/
structure Completes (d : FleetDevice) (patch : Json String) : Prop where
  object : ∃ members, patch = .obj members
  lifecycle : ∀ t, patch.member "lifecycle_state" = some (.str t) → validTransition d.lifecycleState t false = true
  location : patch.member "location_id" ≠ some (.str "")
  storable : ∀ key ∈ patchKeys, Storable patch key

/-- The patch gives nothing that the device, and its assignment as of `now`, do not hold. -/
structure Idle {ω : Type} (s : FleetOperationsService ω) (deviceId : String) (d : FleetDevice) (patch : Json String)
    (now : Int) : Prop where
  texts : ∀ key ∈ patchKeys, ¬ Alters d patch key
  labels : ∀ v, patch.member "labels" = some v → v = .obj (d.labels.map fun m => (m.1, .str m.2))
  assigned : s.assignments.lookup deviceId = some (assignmentOf d d.tenantId deviceId now)

/-- The update either stops before it changes the device, or can be saved, or changes nothing. -/
structure Whole {ω : Type} (saved : Except Exn Unit) (s : FleetOperationsService ω) (deviceId : String) (d : FleetDevice)
    (patch : Json String) (now : Int) : Prop where
  unhalved : ¬ Halves d patch
  stored : saved = .ok () ∨ ¬ Completes d patch ∨ Idle s deviceId d patch now

end Drawer.FleetOps
