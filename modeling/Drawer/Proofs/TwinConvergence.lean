import Drawer.Lib.Newest
import Drawer.Proofs.TwinQueue

/-! Contract servers converge. As long as every push names one drawer in its path and its body and no
device is disabled, what a server holds of a drawer is the newest twin that has reached it, whatever
else it was sent, and in whatever order. -/

namespace Drawer.Twin.TwinContractServer

/-- The twin that a request brings to a server with this token, if it brings one. -/
def delivered (bearerToken : String) (req : Request) : Option DrawerTwin :=
  if authorized ⟨bearerToken, ∅⟩ req then (incoming req).toOption.filter fun twin => !twin.disabled else none

def deliveredTo (bearerToken drawerId : String) (reqs : List Request) : List DrawerTwin :=
  (reqs.filterMap (delivered bearerToken)).filter fun twin => twin.drawerId = drawerId

def revisionOf (twin : DrawerTwin) : ℤ := twin.revision.toInt

/-- What a server holds that was sent these requests: of each drawer the newest twin. -/
structure HoldsNewest (bearerToken : String) (reqs : List Request) (s : TwinContractServer) : Prop where
  token : s.bearerToken = bearerToken
  held : ∀ d, s.get d = (Newest.putAll revisionOf none (deliveredTo bearerToken d reqs)).map synced

theorem delivered_eq_some {bearerToken : String} {req : Request} {twin : DrawerTwin} :
    delivered bearerToken req = some twin ↔
      authorized ⟨bearerToken, ∅⟩ req = true ∧ incoming req = .ok twin ∧ twin.disabled = false := by
  unfold delivered
  cases hin : incoming req <;> split_ifs with h <;> simp [h, Except.toOption, Option.filter_eq_some_iff]

@[simp] theorem synced_drawerId (twin : DrawerTwin) : (synced twin).drawerId = twin.drawerId := rfl

theorem deliveredTo_snoc (bearerToken d : String) (reqs : List Request) (req : Request) :
    deliveredTo bearerToken d (reqs ++ [req]) =
      deliveredTo bearerToken d reqs ++ ((delivered bearerToken req).filter fun twin => twin.drawerId = d).toList := by
  unfold deliveredTo
  rw [List.filterMap_append, List.filter_append]
  cases h : delivered bearerToken req with
  | none => simp [h]
  | some twin => by_cases hd : twin.drawerId = d <;> simp [h, hd, Option.filter]

theorem not_disabled_of_delivered {bearerToken d : String} {reqs : List Request} {twin : DrawerTwin}
    (h : twin ∈ deliveredTo bearerToken d reqs) : twin.disabled = false ∧ twin.drawerId = d := by
  obtain ⟨hmem, hd⟩ := List.mem_filter.mp h
  obtain ⟨req, -, hreq⟩ := List.mem_filterMap.mp hmem
  exact ⟨(delivered_eq_some.mp hreq).2.2, of_decide_eq_true hd⟩

section Step
variable {bearerToken : String} {reqs : List Request} {s : TwinContractServer}

theorem HoldsNewest.stored (h : HoldsNewest bearerToken reqs s) {d : String} {stored : DrawerTwin} (hget : s.get d = some stored) :
    ∃ twin, Newest.putAll revisionOf none (deliveredTo bearerToken d reqs) = some twin ∧ stored = synced twin ∧
      twin.disabled = false := by
  rw [h.held, Option.map_eq_some_iff] at hget
  obtain ⟨twin, hheld, rfl⟩ := hget
  rcases Newest.putAll_spec revisionOf (deliveredTo bearerToken d reqs) with ⟨hnone, -⟩ | ⟨a, ha, hmem, -⟩
  · rw [hnone] at hheld
    cases hheld
  · obtain rfl := Option.some.inj (ha.symm.trans hheld)
    exact ⟨a, ha, rfl, (not_disabled_of_delivered hmem).1⟩

/-- The register of a drawer takes a twin just if the server's checks do. -/
theorem HoldsNewest.put (h : HoldsNewest bearerToken reqs s) {twin : DrawerTwin} (hdis : twin.disabled = false) :
    Newest.put revisionOf (Newest.putAll revisionOf none (deliveredTo bearerToken twin.drawerId reqs)) twin =
      if s.takes twin.drawerId twin = true then some twin
      else Newest.putAll revisionOf none (deliveredTo bearerToken twin.drawerId reqs) := by
  have hget := h.held twin.drawerId
  cases hheld : Newest.putAll revisionOf none (deliveredTo bearerToken twin.drawerId reqs) with
  | none =>
    rw [hheld, Option.map_none] at hget
    have htakes : s.takes twin.drawerId twin = true := takes_iff.mpr ⟨hdis, fun stored hs => by rw [hget] at hs; cases hs⟩
    rw [if_pos htakes]
    rfl
  | some held =>
    rw [hheld, Option.map_some] at hget
    obtain ⟨held', hheld', hsame, henabled⟩ := h.stored hget
    obtain rfl := Option.some.inj (hheld.symm.trans hheld')
    rw [Newest.put_some]
    refine if_congr ?_ rfl rfl
    rw [takes_iff]
    refine ⟨fun hlt => ⟨hdis, fun stored hs => ?_⟩, fun htakes => ?_⟩
    · obtain rfl := Option.some.inj (hget.symm.trans hs)
      exact ⟨henabled, Int32.lt_iff_toInt_lt.mpr hlt⟩
    · exact Int32.lt_iff_toInt_lt.mp (htakes.2 _ hget).2

theorem HoldsNewest.post (h : HoldsNewest bearerToken reqs s) {req : Request}
    (hown : ∀ twin, incoming req = .ok twin → twin.drawerId = req.id) :
    HoldsNewest bearerToken (reqs ++ [req]) (s.postTwin req).1 := by
  have hauth : s.authorized req = authorized ⟨bearerToken, ∅⟩ req := by rw [← h.token]; rfl
  rcases postTwin_cases s req with ⟨twin, hok, hin, htakes, heq⟩ | ⟨hno, hsame, -⟩
  · rw [heq]
    have hdis := (takes_iff.mp htakes).1
    have hdelivered : delivered bearerToken req = some twin := delivered_eq_some.mpr ⟨by rw [← hauth]; exact hok, hin, hdis⟩
    refine ⟨h.token, fun d => ?_⟩
    rw [get_store, deliveredTo_snoc, hdelivered]
    by_cases hd : d = twin.drawerId
    · subst hd
      have hput := h.put hdis
      rw [if_pos (by rw [hown twin hin]; exact htakes)] at hput
      rw [if_pos (synced_drawerId twin).symm, Option.filter_some_pos (by simp), Option.toList_some, Newest.putAll_snoc, hput]
      rfl
    · have hd' : ¬ twin.drawerId = d := fun heq => hd heq.symm
      rw [if_neg (by rw [synced_drawerId]; exact hd), Option.filter_some_neg (by simp [hd']), Option.toList_none, List.append_nil]
      exact h.held d
  · rw [hsame]
    refine ⟨h.token, fun d => ?_⟩
    rw [deliveredTo_snoc]
    cases hdelivered : delivered bearerToken req with
    | none => simpa using h.held d
    | some twin =>
      obtain ⟨hok, hin, hdis⟩ := delivered_eq_some.mp hdelivered
      have htakes := hno twin (by rw [hauth]; exact hok) hin
      by_cases hd : twin.drawerId = d
      · subst hd
        have hput := h.put hdis
        rw [if_neg (by rw [hown twin hin, htakes]; exact Bool.false_ne_true)] at hput
        rw [Option.filter_some_pos (by simp), Option.toList_some, Newest.putAll_snoc, hput]
        exact h.held _
      · rw [Option.filter_some_neg (by simp [hd]), Option.toList_none, List.append_nil]
        exact h.held d

end Step

end Drawer.Twin.TwinContractServer
