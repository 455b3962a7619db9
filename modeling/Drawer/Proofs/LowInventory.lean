import Drawer.Spec.Analytics

/-! When a twin is alerted of a hopper about to run out. The forecast is the least time to
depletion of the denominations in use, and `0` if there is none; the alert takes `0` for
the latter, so that one hopper that has run out silences it for all. -/

namespace Drawer.Twin

variable {host : Host} {twin : DrawerTwin} {inventory fuller : InventoryState}

/-- Alerted of low inventory, and critically if so `urgent`. -/
def Alerted (host : Host) (twin : DrawerTwin) (urgent : Prop) : Prop :=
  ∃ a ∈ (enrich host twin).alerts, a.type = "low_inventory" ∧ (urgent → a.severity = "critical")

/-- The same denominations, with a quantity no larger for each. -/
def Lowered (fuller inventory : InventoryState) : Prop :=
  List.Forall₂ (fun p p' => p'.1 = p.1 ∧ p'.2 = { p.2 with quantity := p'.2.quantity } ∧ p'.2.quantity ≤ p.2.quantity)
    fuller.denominations inventory.denominations

/-- A denomination that lasts a day at most raises the alert, critically if it lasts eight hours at most; and what was
alerted of with more in the hoppers still is. -/
structure Warned (host : Host) (twin : DrawerTwin) : Prop where
  raised : ∀ p ∈ twin.inventory.denominations, 0 < p.2.consumptionPerHour →
    (max 0 p.2.quantity.toInt : ℚ) / p.2.consumptionPerHour ≤ 24 →
    Alerted host twin ((max 0 p.2.quantity.toInt : ℚ) / p.2.consumptionPerHour ≤ 8)
  kept : ∀ fuller, Lowered fuller twin.inventory → Alerted host { twin with inventory := fuller } False →
    Alerted host twin False

/-- No denomination in use has run out. -/
def Stocked (inventory : InventoryState) : Prop :=
  ∀ p ∈ inventory.denominations, 0 < p.2.consumptionPerHour → 0 < p.2.quantity

/-! ### The forecast -/

theorem least_within_iff (l : List ℚ) (bound : ℚ) :
    0 < l.min?.getD 0 ∧ l.min?.getD 0 ≤ bound ↔ (∀ h ∈ l, 0 < h) ∧ ∃ h ∈ l, h ≤ bound := by
  cases hmin : l.min? with
  | none =>
    obtain rfl := List.min?_eq_none_iff.mp hmin
    simp
  | some m =>
    obtain ⟨hmem, hle⟩ := List.min?_eq_some_iff.mp hmin
    simp only [Option.getD_some]
    constructor
    · rintro ⟨hpos, hbound⟩
      exact ⟨fun h hh => hpos.trans_le (hle h hh), m, hmem, hbound⟩
    · rintro ⟨hpos, h, hh, hbound⟩
      exact ⟨hpos m hmem, (hle h hh).trans hbound⟩

theorem hoursLeft_eq_some {inv : DenominationInventory} {hours : ℚ} :
    hoursLeft inv = some hours ↔
      0 < inv.consumptionPerHour ∧ hours = (max 0 inv.quantity.toInt : ℚ) / inv.consumptionPerHour := by
  unfold hoursLeft
  split_ifs with h
  · simp [h, eq_comm]
  · simp [h]

theorem mem_hours {hours : ℚ} :
    hours ∈ (inventory.denominations.map Prod.snd).filterMap hoursLeft ↔
      ∃ p ∈ inventory.denominations, 0 < p.2.consumptionPerHour ∧
        hours = (max 0 p.2.quantity.toInt : ℚ) / p.2.consumptionPerHour := by
  simp only [List.mem_filterMap, List.mem_map, hoursLeft_eq_some]
  constructor
  · rintro ⟨inv, ⟨p, hp, rfl⟩, h⟩
    exact ⟨p, hp, h⟩
  · rintro ⟨p, hp, h⟩
    exact ⟨p.2, ⟨p, hp, rfl⟩, h⟩

theorem hours_pos_iff {inv : DenominationInventory} (h : 0 < inv.consumptionPerHour) :
    0 < (max 0 inv.quantity.toInt : ℚ) / inv.consumptionPerHour ↔ 0 < inv.quantity := by
  rw [div_pos_iff_of_pos_right h, lt_max_iff, Int32.lt_iff_toInt_lt]
  simp

theorem forecast_within_iff (bound : ℚ) :
    0 < (forecastInventory host inventory).hoursUntilEmpty ∧ (forecastInventory host inventory).hoursUntilEmpty ≤ bound ↔
      Stocked inventory ∧ ∃ p ∈ inventory.denominations, 0 < p.2.consumptionPerHour ∧
        (max 0 p.2.quantity.toInt : ℚ) / p.2.consumptionPerHour ≤ bound := by
  rw [forecastInventory, least_within_iff]
  refine and_congr ⟨fun h p hp hc => ?_, fun h hours hh => ?_⟩ ⟨?_, ?_⟩
  · exact (hours_pos_iff hc).mp (h _ (mem_hours.mpr ⟨p, hp, hc, rfl⟩))
  · obtain ⟨p, hp, hc, rfl⟩ := mem_hours.mp hh
    exact (hours_pos_iff hc).mpr (h p hp hc)
  · rintro ⟨hours, hh, hbound⟩
    obtain ⟨p, hp, hc, rfl⟩ := mem_hours.mp hh
    exact ⟨p, hp, hc, hbound⟩
  · rintro ⟨p, hp, hc, hbound⟩
    exact ⟨_, mem_hours.mpr ⟨p, hp, hc, rfl⟩, hbound⟩

/-! ### The alert -/

theorem alerted_iff (urgent : Prop) :
    Alerted host twin urgent ↔
      (0 < (forecastInventory host twin.inventory).hoursUntilEmpty ∧
        (forecastInventory host twin.inventory).hoursUntilEmpty ≤ 24) ∧
      (urgent → (forecastInventory host twin.inventory).hoursUntilEmpty ≤ 8) := by
  unfold Alerted enrich evaluateAlerts
  dsimp only
  constructor
  · rintro ⟨a, ha, htype, hurgent⟩
    simp only [List.mem_append, List.mem_ite_nil_right, List.mem_singleton] at ha
    rcases ha with (((⟨-, rfl⟩ | ⟨-, rfl⟩) | ⟨-, rfl⟩) | ⟨-, rfl⟩) | ⟨hwithin, rfl⟩
    · exact absurd htype (by simp)
    · exact absurd htype (by simp)
    · exact absurd htype (by simp)
    · exact absurd htype (by simp)
    · refine ⟨hwithin, fun hu => ?_⟩
      by_contra hlong
      exact absurd (hurgent hu) (by simp [hlong])
  · rintro ⟨hwithin, hurgent⟩
    rw [if_pos hwithin]
    exact ⟨_, List.mem_append_right _ (List.mem_singleton.mpr rfl), rfl, fun hu => if_pos (hurgent hu)⟩

theorem alerted_within_iff :
    Alerted host twin False ↔
      Stocked twin.inventory ∧ ∃ p ∈ twin.inventory.denominations, 0 < p.2.consumptionPerHour ∧
        (max 0 p.2.quantity.toInt : ℚ) / p.2.consumptionPerHour ≤ 24 := by
  rw [alerted_iff, forecast_within_iff]
  exact and_iff_left False.elim

theorem raised_of_stocked (h : Stocked twin.inventory) {p : String × DenominationInventory}
    (hp : p ∈ twin.inventory.denominations) (hc : 0 < p.2.consumptionPerHour)
    (hday : (max 0 p.2.quantity.toInt : ℚ) / p.2.consumptionPerHour ≤ 24) :
    Alerted host twin ((max 0 p.2.quantity.toInt : ℚ) / p.2.consumptionPerHour ≤ 8) :=
  (alerted_iff _).mpr ⟨(forecast_within_iff 24).mpr ⟨h, p, hp, hc, hday⟩,
    fun hshort => ((forecast_within_iff 8).mpr ⟨h, p, hp, hc, hshort⟩).2⟩

/-- With less in a hopper, what is used of it lasts no longer. -/
theorem exists_lowered (h : Lowered fuller inventory) (bound : ℚ)
    (hfuller : ∃ p ∈ fuller.denominations, 0 < p.2.consumptionPerHour ∧
      (max 0 p.2.quantity.toInt : ℚ) / p.2.consumptionPerHour ≤ bound) :
    ∃ p ∈ inventory.denominations, 0 < p.2.consumptionPerHour ∧
      (max 0 p.2.quantity.toInt : ℚ) / p.2.consumptionPerHour ≤ bound := by
  obtain ⟨p, hp, hc, hbound⟩ := hfuller
  obtain ⟨i, hi, rfl⟩ := List.mem_iff_getElem.mp hp
  have hi' : i < inventory.denominations.length := h.length_eq ▸ hi
  obtain ⟨-, hsame, hle⟩ := h.get hi hi'
  have hrate : inventory.denominations[i].2.consumptionPerHour = fuller.denominations[i].2.consumptionPerHour := by
    simpa using congrArg DenominationInventory.consumptionPerHour hsame
  have hquantity : (inventory.denominations[i].2.quantity.toInt : ℚ) ≤ fuller.denominations[i].2.quantity.toInt := by
    exact_mod_cast Int32.le_iff_toInt_le.mp hle
  refine ⟨inventory.denominations[i], List.getElem_mem hi', by rwa [hrate], ?_⟩
  rw [hrate]
  refine le_trans ?_ hbound
  gcongr

theorem warned_iff (host : Host) (twin : DrawerTwin) : Warned host twin ↔ Stocked twin.inventory := by
  constructor
  · intro h p hp hc
    by_contra hout
    have hzero : (max 0 p.2.quantity.toInt : ℚ) / p.2.consumptionPerHour ≤ 0 :=
      not_lt.mp fun hpos => hout ((hours_pos_iff hc).mp hpos)
    obtain ⟨a, ha, htype, -⟩ := h.raised p hp hc (hzero.trans (by norm_num))
    exact hout ((alerted_within_iff.mp ⟨a, ha, htype, False.elim⟩).1 p hp hc)
  · refine fun h => ⟨fun p hp hc hday => raised_of_stocked h hp hc hday, fun fuller hlow halert => ?_⟩
    exact alerted_within_iff.mpr ⟨h, exists_lowered hlow 24 (alerted_within_iff.mp halert).2⟩

/-- One denomination in use lasts two hours, and nothing is alerted of, as another has run out. -/
theorem empty_hopper_silent : ¬ ∀ (host : Host) (twin : DrawerTwin), Warned host twin := by
  intro h
  have hraised := (h {} { inventory := { denominations := [
    ("10c", { denomination := "10c", quantity := 2, capacity := 100, consumptionPerHour := 1 }),
    ("25c", { denomination := "25c", quantity := 0, capacity := 100, consumptionPerHour := 2 })] } }).raised
      ("10c", { denomination := "10c", quantity := 2, capacity := 100, consumptionPerHour := 1 })
      (by simp) (by norm_num) (by decide +kernel)
  obtain ⟨a, ha, htype, -⟩ := hraised
  revert a
  decide +kernel

end Drawer.Twin
