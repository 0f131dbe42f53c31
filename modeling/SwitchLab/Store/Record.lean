import SwitchLab.Store.FieldValues
import SwitchLab.Store.Name
/-!
Records with a known meaning, and the tables that they live in.
-/
namespace SwitchLab

inductive AdminStatus where
  | up
  | down
  deriving DecidableEq, Repr

namespace AdminStatus

def text : AdminStatus → String
  | up => "up"
  | down => "down"

def ofText? : String → Option AdminStatus
  | "up" => some up
  | "down" => some down
  | _ => none

def ofBool (isUp : Bool) : AdminStatus := if isUp then up else down

end AdminStatus

/-- A type of records that is read from and written as fields. -/
class TableRecord (α : Type) where
  store : StoreName
  table : String
  ofFields : (key : String) → FieldValues → Except Fault α
  toFields : α → FieldValues

/-- A host interface of the forwarding hardware, with the port behind it. -/
structure HostIf where
  oid : String
  name : String
  portOid : String
  deriving DecidableEq, Repr

/-- The configuration of a port, as far as the bench drives it. -/
structure ConfigPort where
  name : String
  admin : AdminStatus
  mtu : Option Nat
  deriving DecidableEq, Repr

/-- The state of a port as the applications see it. -/
structure AppPort where
  name : String
  admin : Option AdminStatus
  oper : Option AdminStatus
  deriving DecidableEq, Repr

instance : TableRecord HostIf where
  store := .asic
  table := "ASIC_STATE:SAI_OBJECT_TYPE_HOSTIF"
  ofFields key fields := do
    let name ← fields.require key "SAI_HOSTIF_ATTR_NAME"
    let portOid ← fields.require key "SAI_HOSTIF_ATTR_OBJ_ID"
    return ⟨key, name, portOid⟩
  toFields r := .ofPairs
    [("SAI_HOSTIF_ATTR_TYPE", "SAI_HOSTIF_TYPE_NETDEV"), ("SAI_HOSTIF_ATTR_OBJ_ID", r.portOid),
      ("SAI_HOSTIF_ATTR_NAME", r.name)]

namespace ConfigPort

/-- A port without a status is down. -/
def adminOfFields (key : String) (fields : FieldValues) : Except Fault AdminStatus :=
  match fields.get? "admin_status" with
  | none => .ok .down
  | some value =>
    match AdminStatus.ofText? value with
    | some admin => .ok admin
    | none => .error (.store s!"{key}: bad admin_status {shown value}")

def mtuOfFields (key : String) (fields : FieldValues) : Except Fault (Option Nat) :=
  match fields.get? "mtu" with
  | none => .ok none
  | some value =>
    match Text.unsigned? 32 value with
    | some mtu => .ok (some mtu)
    | none => .error (.store s!"{key}: bad mtu {shown value}")

end ConfigPort

/-- The pair of an optional field, if it is set. -/
def optionalPair (field : String) (value : Option String) : List (String × String) :=
  value.toList.map (field, ·)

instance : TableRecord ConfigPort where
  store := .config
  table := "PORT"
  ofFields key fields := do
    let admin ← ConfigPort.adminOfFields key fields
    let mtu ← ConfigPort.mtuOfFields key fields
    return ⟨key, admin, mtu⟩
  toFields r := .ofPairs
    (("admin_status", r.admin.text) :: optionalPair "mtu" (r.mtu.map toString))

instance : TableRecord AppPort where
  store := .appl
  table := "PORT_TABLE"
  ofFields key fields := .ok
    ⟨key, (fields.get? "admin_status").bind AdminStatus.ofText?,
      (fields.get? "oper_status").bind AdminStatus.ofText?⟩
  toFields r := .ofPairs
    (optionalPair "admin_status" (r.admin.map AdminStatus.text) ++
      optionalPair "oper_status" (r.oper.map AdminStatus.text))

end SwitchLab
