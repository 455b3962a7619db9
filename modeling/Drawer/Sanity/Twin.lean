import Drawer.Spec.DeviceTwin

/-! A twin that was written is read back, whatever its fields are, but for its
inventory: a denomination with the name of another member of the inventory is
passed over, and one without a currency gets the currency of the inventory. -/

namespace Drawer.Twin
open Json

@[simp] theorem getStrs_strs (l : List String) : getStrs (strs l) = .ok l := @getArr_map String String getStr .str (fun _ => rfl) l

theorem firmware_read (v : FirmwareState) : FirmwareState.fromJson v.toJson = .ok v := by
  simp [FirmwareState.fromJson, FirmwareState.toJson, value_obj, member_cons, ok_bind, pure_ok]

theorem health_read (v : DrawerHealth) : DrawerHealth.fromJson v.toJson = .ok v := by
  simp [DrawerHealth.fromJson, DrawerHealth.toJson, value_obj, member_cons, ok_bind, pure_ok]

theorem denomination_read (v : DenominationInventory) : DenominationInventory.fromJson v.toJson = .ok v := by
  simp [DenominationInventory.fromJson, DenominationInventory.toJson, value_obj, member_cons, ok_bind, pure_ok]

theorem fault_read (v : FaultEvent) : FaultEvent.fromJson v.toJson = .ok v := by
  simp [FaultEvent.fromJson, FaultEvent.toJson, value_obj, member_cons, ok_bind, pure_ok]

theorem maintenanceRecord_read (v : MaintenanceRecord) : MaintenanceRecord.fromJson v.toJson = .ok v := by
  simp [MaintenanceRecord.fromJson, MaintenanceRecord.toJson, value_obj, member_cons, ok_bind, pure_ok]

theorem history_read (v : HistoryEvent) : HistoryEvent.fromJson v.toJson = .ok v := by
  simp [HistoryEvent.fromJson, HistoryEvent.toJson, value_obj, member_cons, ok_bind, pure_ok]

theorem assessment_read (v : MaintenanceAssessment) : MaintenanceAssessment.fromJson v.toJson = .ok v := by
  simp [MaintenanceAssessment.fromJson, MaintenanceAssessment.toJson, value_obj, member_cons, ok_bind, pure_ok]

theorem forecast_read (v : InventoryForecast) : InventoryForecast.fromJson v.toJson = .ok v := by
  simp [InventoryForecast.fromJson, InventoryForecast.toJson, value_obj, member_cons, ok_bind, pure_ok]

theorem alert_read (v : Alert) : Alert.fromJson v.toJson = .ok v := by
  simp [Alert.fromJson, Alert.toJson, value_obj, member_cons, ok_bind, pure_ok]

/-- The inventory as it is read back. -/
def InventoryState.reread (v : InventoryState) : InventoryState :=
  { v with denominations := (v.denominations.filter fun m => m.1 ∉ inventoryMembers).map fun m =>
      (m.1, withCurrency v.currencyCode m.2) }

theorem inventory_read (v : InventoryState) : InventoryState.fromJson v.toJson = .ok v.reread := by
  have hd : readDenominations v.currencyCode (v.denominations.map fun item => (item.1, item.2.toJson)) =
      .ok ((v.denominations.filter fun m => m.1 ∉ inventoryMembers).map fun m => (m.1, withCurrency v.currencyCode m.2)) := by
    rw [readDenominations, List.filter_map, List.mapM_map]
    refine mapM_ok fun m _ => ?_
    simp [denomination_read, ok_bind, pure_ok]
  simp [InventoryState.fromJson, InventoryState.toJson, value_obj, member_cons, items, hd, ok_bind, pure_ok, InventoryState.reread]

/-- The twin as it is read back. -/
def DrawerTwin.reread (v : DrawerTwin) : DrawerTwin := { v with inventory := v.inventory.reread }

theorem twin_read (v : DrawerTwin) : DrawerTwin.fromJson v.toJson = .ok v.reread := by
  simp only [DrawerTwin.fromJson, DrawerTwin.toJson, value_obj, present, member_cons, String.reduceEq, if_false, if_true,
    getStr_str, getBool_bool, getInt32_int, getStrs_strs, firmware_read, health_read, inventory_read,
    getArr_map fault_read, getArr_map maintenanceRecord_read, getArr_map history_read, assessment_read, forecast_read,
    getArr_map alert_read, ok_bind, pure_ok, DrawerTwin.reread]

end Drawer.Twin
