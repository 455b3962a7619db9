import Drawer.Sanity.Twin

/-! Which twins survive being written and read. The reader passes over the names of the other
members of an inventory, as in its older form they stand beside the denominations, also where
they stand apart from them; and it takes no currency for that of the inventory. -/

namespace Drawer.Twin

/-- No denomination has the name of another member of the inventory, and none is without a currency if the inventory
has one. -/
def InventoryState.Named (v : InventoryState) : Prop :=
  ∀ item ∈ v.denominations, item.1 ∉ inventoryMembers ∧ (item.2.currencyCode = "" → v.currencyCode = "")

theorem withCurrency_eq_iff {currencyCode : String} {d : DenominationInventory} :
    withCurrency currencyCode d = d ↔ (d.currencyCode = "" → currencyCode = "") := by
  unfold withCurrency
  split_ifs with h
  · constructor
    · intro heq _
      exact (congrArg DenominationInventory.currencyCode heq).trans h
    · intro hcode
      rw [hcode h, ← h]
  · exact iff_of_true rfl fun hempty => absurd hempty h

theorem filter_map_eq_iff {α : Type} {p : α → Bool} {f : α → α} {l : List α} :
    (l.filter p).map f = l ↔ ∀ a ∈ l, p a = true ∧ f a = a := by
  constructor
  · intro h
    have hlength : (l.filter p).length = l.length := by
      rw [← List.length_map (f := f), h]
    have hall : l.filter p = l := List.filter_sublist.eq_of_length hlength
    rw [hall] at h
    have hmap : ∀ a ∈ l, f a = id a := List.map_inj_left.mp (h.trans (List.map_id l).symm)
    exact fun a ha => ⟨List.filter_eq_self.mp hall a ha, hmap a ha⟩
  · intro h
    rw [List.filter_eq_self.mpr fun a ha => (h a ha).1]
    exact (List.map_congr_left fun a ha => (h a ha).2).trans (List.map_id l)

theorem reread_eq_iff {v : InventoryState} : v.reread = v ↔ v.Named := by
  have hdenominations : v.reread = v ↔ (v.denominations.filter fun m => decide (m.1 ∉ inventoryMembers)).map (fun m =>
      (m.1, withCurrency v.currencyCode m.2)) = v.denominations := by
    refine ⟨fun h => congrArg InventoryState.denominations h, fun h => ?_⟩
    unfold InventoryState.reread
    rw [h]
  rw [hdenominations, filter_map_eq_iff, InventoryState.Named]
  simp only [decide_eq_true_eq, Prod.ext_iff, true_and, withCurrency_eq_iff]

theorem twin_survives_iff (v : DrawerTwin) : DrawerTwin.fromJson v.toJson = .ok v ↔ v.inventory.Named := by
  rw [twin_read, ← reread_eq_iff]
  refine ⟨fun h => congrArg DrawerTwin.inventory (Except.ok.inj h), fun h => ?_⟩
  unfold DrawerTwin.reread
  rw [h]

/-- A denomination named after a region is lost with its coins. -/
theorem region_denomination_lost : ¬ ∀ v : DrawerTwin, DrawerTwin.fromJson v.toJson = .ok v := by
  intro h
  have hread := h { inventory := { denominations := [("region", { denomination := "region", quantity := 40 })] } }
  rw [twin_read] at hread
  exact absurd (congrArg (fun v => v.inventory.denominations.length) (Except.ok.inj hread)) (by decide)

end Drawer.Twin
