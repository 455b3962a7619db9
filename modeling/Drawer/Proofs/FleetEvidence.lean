import Drawer.Proofs.DeviceChain
import Drawer.Proofs.Dispatch
import Drawer.Sanity.Edits

/-! The evidence of the fleet registry. Every request stamps its evidence with its
own clock, but an accepted heartbeat with the time the device gave. Where that
is neither ahead of the clock nor behind the evidence there is, the chain of the
device stays valid. -/

namespace Drawer.FleetOps
open FleetOperationsService Transition
open Veil (TrustEvidenceRecord VeilTrustService PolicyDecision Made Honest ofDevice mem_ofDevice ofDevice_append idFor)

variable {ε : Type} {h : Veil.Digest} {client : String → String → String → Json String → PolicyDecision}
  {edge : Option (EdgeApi ε)} {timeout : Int} {s s' : FleetOperationsService (VeilTrustService × ε)}
  {who : String → Prop} {key device tenant : String} {stamp : Int}

/-! ### What is recorded -/

def evidenceOf (s : FleetOperationsService (VeilTrustService × ε)) : List TrustEvidenceRecord := s.world.1.evidence

/-- The evidence is an honest history with ids of its own, and names the tenant of each device. -/
structure Recorded (h : Veil.Digest) (s : FleetOperationsService (VeilTrustService × ε)) : Prop where
  honest : Honest h (evidenceOf s)
  ids : (evidenceOf s).map TrustEvidenceRecord.evidenceId = (List.range (evidenceOf s).length).map (idFor "evidence")
  tenants : ∀ e ∈ evidenceOf s, tenantOf s e.deviceId = some e.tenantId

/-- Evidence was added, of the device `key` alone and stamped `stamp`. -/
def Grows (key : String) (stamp : Int) (s s' : FleetOperationsService (VeilTrustService × ε)) : Prop :=
  ∃ new, evidenceOf s' = evidenceOf s ++ new ∧ ∀ e ∈ new, e.deviceId = key ∧ e.timestamp = stamp

theorem grows_of_eq (heq : evidenceOf s' = evidenceOf s) : Grows key stamp s s' := ⟨[], by simp [heq], by simp⟩

theorem Recorded.of_eq (hr : Recorded h s) (heq : evidenceOf s' = evidenceOf s)
    (hten : ∀ k t, tenantOf s k = some t → tenantOf s' k = some t) : Recorded h s' := by
  refine ⟨heq ▸ hr.honest, heq ▸ hr.ids, fun e he => ?_⟩
  rw [heq] at he
  exact hten _ _ (hr.tenants e he)

variable (h client edge timeout) in
theorem emitEvidenceLocked_spec (s : FleetOperationsService (VeilTrustService × ε)) (d : FleetDevice)
    (eventType : String) (stamp : Int) (payload : Json String) :
    ∃ e, evidenceOf (s.emitEvidenceLocked (veilEnv h client edge timeout) d eventType stamp payload) =
        evidenceOf s ++ [e] ∧ Made h (evidenceOf s) e ∧ e.evidenceId = idFor "evidence" (evidenceOf s).length ∧
      e.deviceId = d.deviceId ∧ e.tenantId = d.tenantId ∧ e.timestamp = stamp :=
  ⟨_, rfl, ⟨rfl, rfl, rfl⟩, rfl, rfl, rfl, rfl⟩

theorem Edit.recorded (hedit : Edit (veilEnv h client edge timeout) who key stamp s s') (hs : Owned s)
    (hr : Recorded h s) : Recorded h s' ∧ Grows key stamp s s' := by
  have hten : ∀ k t, tenantOf s k = some t → tenantOf s' k = some t := fun k t hk => (hedit.tenantOf_eq k).trans hk
  cases hedit with
  | note hsame =>
    have heq : evidenceOf s' = evidenceOf s := by rw [evidenceOf, hsame.world, evidenceOf]
    exact ⟨hr.of_eq heq hten, grows_of_eq heq⟩
  | hear => exact ⟨hr.of_eq rfl hten, grows_of_eq rfl⟩
  | write => exact ⟨hr.of_eq rfl hten, grows_of_eq rfl⟩
  | place => exact ⟨hr.of_eq rfl hten, grows_of_eq rfl⟩
  | store => exact ⟨hr.of_eq rfl hten, grows_of_eq rfl⟩
  | ask => exact ⟨hr.of_eq rfl hten, grows_of_eq rfl⟩
  | record hd eventType payload =>
    rename_i d
    obtain ⟨e, heq, hmade, hid, hdev, htenant, hstamp⟩ := emitEvidenceLocked_spec h client edge timeout s d
      eventType stamp payload
    have hkey : d.deviceId = key := hs.keyed key d hd
    refine ⟨⟨?_, ?_, ?_⟩, [e], heq, by simp [hdev, hkey, hstamp]⟩
    · rw [heq]
      intro l e' r hsplit
      rcases split_snoc hsplit with ⟨r', hl, -⟩ | ⟨rfl, rfl, -⟩
      · exact hr.honest l e' r' hl
      · exact hmade
    · rw [heq, List.map_append, hr.ids, List.length_append, List.length_singleton, List.range_succ, List.map_append]
      simp [hid]
    · intro e' he'
      rw [heq, List.mem_append, List.mem_singleton] at he'
      rcases he' with he' | rfl
      · exact hten _ _ (hr.tenants e' he')
      · rw [hdev, htenant, hkey]
        exact hten _ _ (tenantOf_of_lookup hd)

theorem Edits.recorded (hedits : Edits (veilEnv h client edge timeout) who key stamp s s') (hs : Owned s)
    (hr : Recorded h s) : Recorded h s' ∧ Grows key stamp s s' := by
  induction hedits with
  | refl => exact ⟨hr, grows_of_eq rfl⟩
  | tail hsteps hstep ih =>
    obtain ⟨hr', new, heq, hnew⟩ := ih
    obtain ⟨hr'', new', heq', hnew'⟩ := hstep.recorded (Edits.owned hsteps hs) hr'
    refine ⟨hr'', new ++ new', by rw [heq', heq, List.append_assoc], fun e he => ?_⟩
    rcases List.mem_append.mp he with he | he
    · exact hnew e he
    · exact hnew' e he

theorem registerEdge_evidence (w : VeilTrustService × ε) (d : FleetDevice) :
    (registerEdge (veilEnv h client edge timeout) w d).1.1 = w.1 := by
  unfold registerEdge veilEnv
  cases edge with
  | none => rfl
  | some api =>
    dsimp only [Option.map_some, restEdge]
    split_ifs <;> (try split) <;> rfl

/-- A new device has no evidence yet, and the evidence of its enrolment is stamped with the clock. -/
theorem recorded_enroll (hs : Owned s) (hr : Recorded h s) (d : FleetDevice) (actorId : String) (now : Int) :
    Recorded h (s.enroll (veilEnv h client edge timeout) d actorId now).1 ∧
      ∃ k, Grows k now s (s.enroll (veilEnv h client edge timeout) d actorId now).1 := by
  obtain ⟨w, hw, hcase⟩ := @enroll_outcome _ (veilEnv h client edge timeout) s d actorId now
  have hworld : w.1 = s.world.1 := by
    rcases hw with rfl | rfl
    · rfl
    · exact registerEdge_evidence ..
  have heq : evidenceOf { s with world := w } = evidenceOf s := congrArg VeilTrustService.evidence hworld
  have hrec : Recorded h { s with world := w } := hr.of_eq heq fun k t hk => hk
  rcases hcase with hstate | ⟨d', henroll, hstate⟩
  · rw [hstate]
    exact ⟨hrec, d.deviceId, grows_of_eq heq⟩
  · rw [hstate]
    have howned : Owned { s with world := w } := hs.of_same rfl rfl rfl
    have hentered : Recorded h (FleetOperationsService.insertDevice { s with world := w } d' actorId now) := by
      refine hrec.of_eq rfl fun k t hk => ?_
      rw [tenantOf_insertDevice, if_neg]
      · exact hk
      · rintro rfl
        rw [tenantOf, henroll.new] at hk
        cases hk
    obtain ⟨hr', new, hnew, hstamp⟩ := (edits_entered (fun _ => True) d' actorId now).recorded
      (owned_insertDevice howned henroll actorId now) hentered
    exact ⟨hr', _, new, heq ▸ hnew, hstamp⟩

theorem recorded_apply (hs : Owned s) (hr : Recorded h s) (op : Op (VeilTrustService × ε))
    (hquiet : ∀ w, op = .outside w → w.1.evidence = evidenceOf s) :
    Recorded h (apply (veilEnv h client edge timeout) s op) ∧
      ∃ k t, Grows k t s (apply (veilEnv h client edge timeout) s op) ∧
        (evidenceOf (apply (veilEnv h client edge timeout) s op) = evidenceOf s ∨ op.clock = some t ∨
          Stamped (veilEnv h client edge timeout) s k t op) := by
  have hwrites : Writes (veilEnv h client edge timeout) s op (apply (veilEnv h client edge timeout) s op) :=
    writes_apply hs op
  generalize apply (veilEnv h client edge timeout) s op = s' at hwrites ⊢
  cases hwrites with
  | edits k t hedits _ hstamp =>
    obtain ⟨hr', hgrows⟩ := hedits.recorded hs hr
    exact ⟨hr', k, t, hgrows, Or.inr (Or.inr hstamp)⟩
  | enrolled d actorId now =>
    obtain ⟨hr', k, hgrows⟩ := @recorded_enroll _ h client edge timeout s hs hr d actorId now
    exact ⟨hr', k, now, hgrows, Or.inr (Or.inl rfl)⟩
  | outside w =>
    have heq : evidenceOf { s with world := w } = evidenceOf s := hquiet w rfl
    exact ⟨hr.of_eq heq fun k t hk => hk, "", 0, grows_of_eq heq, Or.inl heq⟩

theorem stamped_timely {k : String} {t : Int} {op : Op (VeilTrustService × ε)} {env : Env (VeilTrustService × ε)}
    (hstamp : Stamped env s k t op) (htimely : Timely env k s op) :
    ∃ now, op.clock = some now ∧ t ≤ now ∧ (t = now ∨ ∀ e ∈ evidenceOf s, e.deviceId = k → e.timestamp ≤ t) := by
  cases op with
  | receiveHeartbeat hb now =>
    obtain ⟨hk, ⟨hacc, rfl⟩ | ⟨-, rfl⟩⟩ := hstamp
    · obtain ⟨hle, hold⟩ := htimely hk.symm hacc
      exact ⟨now, rfl, hle, Or.inr hold⟩
    · exact ⟨t, rfl, le_rfl, Or.inl rfl⟩
  | _ => exact ⟨t, hstamp, le_rfl, Or.inl rfl⟩

/-! ### The chain along a run -/

/-- The registry after the run `ops`: the device's evidence is in the order of its times, and none of them is ahead
of the clock. -/
structure InOrder (h : Veil.Digest) (device : String) (ops : List (Op (VeilTrustService × ε)))
    (s : FleetOperationsService (VeilTrustService × ε)) : Prop where
  owned : Owned s
  recorded : Recorded h s
  sorted : (ofDevice device (evidenceOf s)).Pairwise fun a b => a.timestamp ≤ b.timestamp
  bounded : ∀ e ∈ evidenceOf s, e.deviceId = device → ∃ t ∈ ops.filterMap Op.clock, e.timestamp ≤ t

/-- The time of new evidence of the device is not behind what there is, and not ahead of the clock. -/
theorem stamp_in_order {ops : List (Op (VeilTrustService × ε))} {op : Op (VeilTrustService × ε)} {t : Int}
    {env : Env (VeilTrustService × ε)} (hin : InOrder h device ops s) (hclock : Clocked (ops ++ [op]))
    (htimely : Timely env device s op) (hstamp : op.clock = some t ∨ Stamped env s device t op) :
    (∀ e ∈ evidenceOf s, e.deviceId = device → e.timestamp ≤ t) ∧
      ∃ now ∈ (ops ++ [op]).filterMap Op.clock, t ≤ now := by
  have hstamped : ∃ now, op.clock = some now ∧ t ≤ now ∧
      (t = now ∨ ∀ e ∈ evidenceOf s, e.deviceId = device → e.timestamp ≤ t) := by
    rcases hstamp with hclk | hstamp
    · exact ⟨t, hclk, le_rfl, Or.inl rfl⟩
    · exact stamped_timely hstamp htimely
  obtain ⟨now, hnow, hle, hold⟩ := hstamped
  refine ⟨?_, now, by simp [hnow], hle⟩
  rcases hold with rfl | hold
  · intro e he hdev
    obtain ⟨t', ht', hle'⟩ := hin.bounded e he hdev
    rw [Clocked, List.filterMap_append, List.pairwise_append] at hclock
    exact hle'.trans (hclock.2.2 t' ht' t (by simp [hnow]))
  · exact hold

theorem ofDevice_eq_nil {l : List TrustEvidenceRecord} (hl : ∀ e ∈ l, e.deviceId ≠ device) : ofDevice device l = [] := by
  rw [ofDevice, List.filter_eq_nil_iff]
  simpa using hl

theorem inOrder_step {ops : List (Op (VeilTrustService × ε))} (hin : InOrder h device ops s)
    (op : Op (VeilTrustService × ε)) (hclock : Clocked (ops ++ [op]))
    (hquiet : ∀ w, op = .outside w → w.1.evidence = evidenceOf s)
    (htimely : Timely (veilEnv h client edge timeout) device s op) :
    InOrder h device (ops ++ [op]) (apply (veilEnv h client edge timeout) s op) := by
  have howned : Owned (apply (veilEnv h client edge timeout) s op) := owned_apply hin.owned op
  obtain ⟨hrec, k, t, ⟨new, heq, hnew⟩, hcase⟩ :=
    @recorded_apply _ h client edge timeout s hin.owned hin.recorded op hquiet
  have hearlier : ∀ e ∈ evidenceOf s, e.deviceId = device → ∃ t ∈ (ops ++ [op]).filterMap Op.clock, e.timestamp ≤ t := by
    intro e he hdev
    obtain ⟨t, ht, hle⟩ := hin.bounded e he hdev
    exact ⟨t, by simp [ht], hle⟩
  by_cases hmine : ∃ e ∈ new, e.deviceId = device
  · obtain ⟨e₁, he₁, hdev₁⟩ := hmine
    obtain rfl : k = device := (hnew e₁ he₁).1.symm.trans hdev₁
    have hstamp : op.clock = some t ∨ Stamped (veilEnv h client edge timeout) s k t op := by
      refine hcase.resolve_left fun hsame => List.ne_nil_of_mem he₁ ?_
      simpa [heq] using hsame
    obtain ⟨hbefore, now, hnow, hle⟩ := stamp_in_order hin hclock htimely hstamp
    refine ⟨howned, hrec, ?_, fun e he hdev => ?_⟩
    · rw [heq, ofDevice_append, List.pairwise_append]
      refine ⟨hin.sorted, List.pairwise_of_forall_mem_list fun a ha b hb => ?_, fun a ha b hb => ?_⟩
      · rw [(hnew a (mem_ofDevice.mp ha).1).2, (hnew b (mem_ofDevice.mp hb).1).2]
      · rw [(hnew b (mem_ofDevice.mp hb).1).2]
        exact hbefore a (mem_ofDevice.mp ha).1 (mem_ofDevice.mp ha).2
    · rw [heq, List.mem_append] at he
      rcases he with he | he
      · exact hearlier e he hdev
      · exact ⟨now, hnow, (hnew e he).2.trans_le hle⟩
  · -- nothing new about the device
    have hothers : ∀ e ∈ new, e.deviceId ≠ device := fun e he hdev => hmine ⟨e, he, hdev⟩
    refine ⟨howned, hrec, ?_, fun e he hdev => ?_⟩
    · rw [heq, ofDevice_append, ofDevice_eq_nil hothers, List.append_nil]
      exact hin.sorted
    · rw [heq, List.mem_append] at he
      exact hearlier e (he.resolve_right fun he => hothers e he hdev) hdev

theorem recorded_empty {w : VeilTrustService × ε} (hw : w.1.evidence = []) :
    Recorded h ({ world := w } : FleetOperationsService (VeilTrustService × ε)) := by
  have hnone : evidenceOf ({ world := w } : FleetOperationsService (VeilTrustService × ε)) = [] := hw
  exact ⟨by simp [hnone, Honest], by simp [hnone], by simp [hnone]⟩

theorem inOrder_run {w : VeilTrustService × ε} (hw : w.1.evidence = []) (ops : List (Op (VeilTrustService × ε)))
    (hclock : Clocked ops) (honly : OnlyHere (veilEnv h client edge timeout) w ops)
    (htimely : TimelyRun (veilEnv h client edge timeout) device w ops) :
    InOrder h device ops (run (veilEnv h client edge timeout) w ops) := by
  induction ops using List.reverseRecOn with
  | nil =>
    have hnone : evidenceOf (run (veilEnv h client edge timeout) w []) = [] := hw
    exact ⟨owned_empty w, recorded_empty hw, by simp [hnone, ofDevice], by simp [hnone]⟩
  | append_singleton ops op ih =>
    rw [OnlyHere, meets_append] at honly
    rw [TimelyRun, meets_append] at htimely
    have hclock' : Clocked ops := by
      rw [Clocked, List.filterMap_append, List.pairwise_append] at hclock
      exact hclock.1
    have hrun : run (veilEnv h client edge timeout) w (ops ++ [op]) =
        apply (veilEnv h client edge timeout) (run (veilEnv h client edge timeout) w ops) op := by
      rw [run, List.foldl_append, run, List.foldl_cons, List.foldl_nil]
    rw [hrun]
    exact inOrder_step (ih hclock' honly.1 htimely.1) op hclock honly.2.1 htimely.2.1

/-- The verifier reports the chain of a device valid exactly if the times of its evidence never go back. -/
theorem chainValid_iff (hs : Owned s) (hr : Recorded h s) (ht : tenantOf s device = some tenant) :
    ChainValid h s tenant device ↔
      (ofDevice device (evidenceOf s)).Pairwise fun a b => a.timestamp ≤ b.timestamp := by
  obtain ⟨hdev, hten⟩ := hs.named device tenant ht
  have htenants : ∀ e ∈ evidenceOf s, e.deviceId = device → e.tenantId = tenant := by
    intro e he hk
    have hown := hr.tenants e he
    rw [hk, ht] at hown
    exact (Option.some.inj hown).symm
  have hids : ((evidenceOf s).map TrustEvidenceRecord.evidenceId).Nodup := by
    rw [hr.ids]
    exact List.nodup_range.map (Veil.idFor_injective "evidence")
  have hfilter : (evidenceOf s).filter (fun e => Veil.filterMatches e (deviceFilter tenant device)) =
      ofDevice device (evidenceOf s) := by
    refine List.filter_congr fun e he => ?_
    by_cases hk : e.deviceId = device
    · simp [Veil.filterMatches, deviceFilter, hk, htenants e he hk]
    · simp [Veil.filterMatches, deviceFilter, hk, hdev]
  rw [← Veil.clean_ofDevice_iff hdev hten hr.honest hids htenants, ← Veil.valid_iff_clean, ← hfilter]
  rfl

/-! ### Untimely heartbeats -/

variable (h client edge timeout) in
theorem accepted_records (hs : Owned s) {hb : FleetHeartbeat} {receivedAt : Int}
    (hacc : Accepted (veilEnv h client edge timeout) s hb receivedAt) :
    ∃ s' d e, (s.receiveHeartbeat (veilEnv h client edge timeout) hb receivedAt).1 = s' ∧
      s'.devices.lookup hb.deviceId = some d ∧ d.retired = false ∧ evidenceOf s' = evidenceOf s ++ [e] ∧
      e.deviceId = hb.deviceId ∧ e.timestamp = hb.timestamp := by
  have howned : Owned (apply (veilEnv h client edge timeout) s (.receiveHeartbeat hb receivedAt)) := owned_apply hs _
  obtain ⟨s₁, d, payload, hd, hret, hworld, heq⟩ := accepted_cases hacc
  obtain ⟨e, hev, -, -, hdev, -, hstamp⟩ :=
    emitEvidenceLocked_spec h client edge timeout s₁ d "device_heartbeat" hb.timestamp payload
  have hd' : (apply (veilEnv h client edge timeout) s (.receiveHeartbeat hb receivedAt)).devices.lookup hb.deviceId =
      some d := by
    rw [apply, heq, emitEvidenceLocked_devices, hd]
  refine ⟨_, d, e, rfl, hd', hret, ?_, hdev.trans (howned.keyed _ d hd'), hstamp⟩
  rw [heq, hev, evidenceOf, hworld, evidenceOf]

variable (h client edge timeout) in
/-- A quarantine of a device that is not retired is recorded with the clock. -/
theorem quarantine_records (hs : Owned s) {d : FleetDevice} (hd : s.devices.lookup device = some d)
    (htenant : d.tenantId = tenant) (hret : d.retired = false) (reason : String) (now : Int) :
    ∃ e, evidenceOf (s.quarantine (veilEnv h client edge timeout) tenant device reason now).1 = evidenceOf s ++ [e] ∧
      e.deviceId = device ∧ e.timestamp = now := by
  have hrefused : ¬ (decide (d.tenantId ≠ tenant) || d.retired) = true := by simp [htenant, hret]
  have hkey : d.deviceId = device := hs.keyed device d hd
  unfold quarantine
  rw [hd]
  dsimp only
  rw [if_neg hrefused]
  generalize (if reason = "" then "operator_quarantine" else reason) = reason'
  unfold quarantineLocked
  rw [hret]
  obtain ⟨e, hev, -, -, hdev, -, hstamp⟩ := emitEvidenceLocked_spec h client edge timeout
    (appendEventLocked (veilEnv h client edge timeout)
      { s with devices := s.devices.insert device (quarantinedAs d reason') } d.tenantId d.deviceId "device_quarantined"
      now (.obj [("reason", .str reason')])) (quarantinedAs d reason') "device_quarantine" now
    (.obj [("reason", .str reason')])
  exact ⟨e, hev, hdev.trans hkey, hstamp⟩

theorem not_sorted_of_lt {e e' : TrustEvidenceRecord} {l r : List TrustEvidenceRecord} (he : e ∈ l) (he' : e' ∈ r)
    (hdev : e.deviceId = device) (hdev' : e'.deviceId = device) (hlt : e'.timestamp < e.timestamp) :
    ¬ (ofDevice device (l ++ r)).Pairwise fun a b => a.timestamp ≤ b.timestamp := by
  rw [ofDevice_append, List.pairwise_append]
  intro hsorted
  exact absurd (hsorted.2.2 e (mem_ofDevice.mpr ⟨he, hdev⟩) e' (mem_ofDevice.mpr ⟨he', hdev'⟩)) (not_le.mpr hlt)

/-- After an accepted heartbeat that is not timely the chain is not valid, at once or after a quarantine that is asked
for at the same time. -/
theorem invalid_of_untimely (hs : Owned s) (hr : Recorded h s) (ht : tenantOf s device = some tenant)
    {hb : FleetHeartbeat} {receivedAt : Int}
    (hlate : ¬ Timely (veilEnv h client edge timeout) device s (.receiveHeartbeat hb receivedAt)) :
    ¬ ChainValid h (apply (veilEnv h client edge timeout) s (.receiveHeartbeat hb receivedAt)) tenant device ∨
    ¬ ChainValid h (apply (veilEnv h client edge timeout)
      (apply (veilEnv h client edge timeout) s (.receiveHeartbeat hb receivedAt))
      (.quarantine tenant device "" receivedAt)) tenant device := by
  simp only [Timely, Classical.not_imp] at hlate
  obtain ⟨rfl, hacc, hlate⟩ := hlate
  obtain ⟨s', d, e, hs', hd, hret, hev, hdev, hstamp⟩ := accepted_records h client edge timeout hs hacc
  have happly : apply (veilEnv h client edge timeout) s (.receiveHeartbeat hb receivedAt) = s' := hs'
  have hs₁ : Owned s' := happly ▸ owned_apply hs _
  have hr₁ : Recorded h s' := happly ▸ (recorded_apply hs hr _ (by simp)).1
  have ht₁ : tenantOf s' hb.deviceId = some tenant := by
    rw [← happly]
    rcases edits_receiveHeartbeat hb receivedAt with ⟨-, hedits⟩ | ⟨-, hedits⟩
    · exact (hedits.tenantOf_eq _).trans ht
    · exact (hedits.tenantOf_eq _).trans ht
  rw [happly]
  by_cases hold : ∀ e ∈ evidenceOf s, e.deviceId = hb.deviceId → e.timestamp ≤ hb.timestamp
  · -- the heartbeat is ahead of the clock
    have hahead : receivedAt < hb.timestamp := not_le.mp fun hle => hlate ⟨hle, hold⟩
    have htenant : d.tenantId = tenant := by
      rw [tenantOf_of_lookup hd] at ht₁
      exact Option.some.inj ht₁
    obtain ⟨e₂, hev₂, hdev₂, hstamp₂⟩ := quarantine_records h client edge timeout hs₁ hd htenant hret "" receivedAt
    have ht₂ : tenantOf (apply (veilEnv h client edge timeout) s' (.quarantine tenant hb.deviceId "" receivedAt))
        hb.deviceId = some tenant := ((edits_quarantine tenant "" receivedAt).tenantOf_eq _).trans ht₁
    refine Or.inr ?_
    have hev' : evidenceOf (apply (veilEnv h client edge timeout) s' (.quarantine tenant hb.deviceId "" receivedAt)) =
        evidenceOf s' ++ [e₂] := hev₂
    rw [chainValid_iff (owned_apply hs₁ _) (recorded_apply hs₁ hr₁ _ (by simp)).1 ht₂, hev']
    refine not_sorted_of_lt ?_ (List.mem_singleton_self e₂) hdev hdev₂ ?_
    · rw [hev]
      exact List.mem_append_right _ (List.mem_singleton_self e)
    · rwa [hstamp, hstamp₂]
  · refine Or.inl ?_
    simp only [not_forall, not_le] at hold
    obtain ⟨e₀, he₀, hdev₀, hlt⟩ := hold
    rw [chainValid_iff hs₁ hr₁ ht₁, hev]
    exact not_sorted_of_lt he₀ (List.mem_singleton_self e) hdev₀ hdev (hstamp ▸ hlt)

/-! ### The chain of an enrolled device -/

theorem recorded_run {w : VeilTrustService × ε} (hw : w.1.evidence = []) (ops : List (Op (VeilTrustService × ε)))
    (honly : OnlyHere (veilEnv h client edge timeout) w ops) : Recorded h (run (veilEnv h client edge timeout) w ops) := by
  refine (honly.run.invariant (I := fun s => Owned s ∧ Recorded h s) ⟨owned_empty w, recorded_empty hw⟩ ?_).2
  intro s op s' hs hstep
  obtain ⟨hquiet, rfl⟩ := hstep
  exact ⟨owned_apply hs.1 op, (recorded_apply hs.1 hs.2 op hquiet).1⟩

/-- While every accepted heartbeat of a device is timely, the device's chain is valid in every state that is reached;
and in every state that is reached an accepted heartbeat that is not timely makes it invalid, at once or with a
quarantine at the same time. -/
theorem chain_valid_timely (h : Veil.Digest) (client : String → String → String → Json String → PolicyDecision)
    (edge : Option (EdgeApi ε)) (timeout : Int) (w : VeilTrustService × ε) (hw : w.1.evidence = [])
    (tenant device : String) :
    (∀ ops, Clocked ops → OnlyHere (veilEnv h client edge timeout) w ops →
      TimelyRun (veilEnv h client edge timeout) device w ops →
      tenantOf (run (veilEnv h client edge timeout) w ops) device = some tenant →
      ChainValid h (run (veilEnv h client edge timeout) w ops) tenant device) ∧
    ∀ ops hb receivedAt, OnlyHere (veilEnv h client edge timeout) w ops →
      tenantOf (run (veilEnv h client edge timeout) w ops) device = some tenant →
      ¬ Timely (veilEnv h client edge timeout) device (run (veilEnv h client edge timeout) w ops)
        (.receiveHeartbeat hb receivedAt) →
      ¬ ChainValid h (run (veilEnv h client edge timeout) w (ops ++ [.receiveHeartbeat hb receivedAt])) tenant device ∨
      ¬ ChainValid h (run (veilEnv h client edge timeout) w
        (ops ++ [.receiveHeartbeat hb receivedAt, .quarantine tenant device "" receivedAt])) tenant device := by
  refine ⟨fun ops hclock honly htimely htenant => ?_, fun ops hb receivedAt honly htenant hlate => ?_⟩
  · have hin : InOrder h device ops (run (veilEnv h client edge timeout) w ops) := inOrder_run hw ops hclock honly htimely
    exact (chainValid_iff hin.owned hin.recorded htenant).mpr hin.sorted
  · have hinvalid := invalid_of_untimely (owned_run _ w ops) (recorded_run hw ops honly) htenant hlate
    simpa only [run, List.foldl_append, List.foldl_cons, List.foldl_nil] using hinvalid

/-! ### A device that reports -/

/-- The registry with a trust service that it alone uses, and no edge platform. -/
def sampleVeil : Env (VeilTrustService × Unit) := veilEnv sampleEnv.digest (localPolicy []) none 90

/-- The sample device is enrolled at 100 and reports at 110, with a time of its own. -/
def reportedAt (timestamp : Int) : List (Op (VeilTrustService × Unit)) :=
  [.enroll sampleDevice "operator" 100, .receiveHeartbeat { sampleHeartbeat with timestamp := timestamp } 110]

theorem clocked_reportedAt (timestamp : Int) : Clocked (reportedAt timestamp) := by simp [Clocked, reportedAt, Op.clock]

theorem onlyHere_reportedAt (timestamp : Int) : OnlyHere sampleVeil ({}, ()) (reportedAt timestamp) :=
  ⟨by simp, by simp, trivial⟩

theorem chain_valid_reported :
    TimelyRun sampleVeil "dev-1" ({}, ()) (reportedAt 105) ∧
    ChainValid sampleEnv.digest (run sampleVeil ({}, ()) (reportedAt 105)) "org-1" "dev-1" := by
  have htimely : TimelyRun sampleVeil "dev-1" ({}, ()) (reportedAt 105) :=
    ⟨trivial, fun _ _ => by decide +kernel, trivial⟩
  exact ⟨htimely, (chain_valid_timely sampleEnv.digest (localPolicy []) none 90 ({}, ()) rfl "org-1" "dev-1").1
    (reportedAt 105) (clocked_reportedAt 105) (onlyHere_reportedAt 105) htimely (by decide +kernel)⟩

/-- A heartbeat five seconds older than the enrolment is accepted, and the chain is not valid any more. -/
theorem chain_broken_by_heartbeat :
    Clocked (reportedAt 95) ∧ OnlyHere sampleVeil ({}, ()) (reportedAt 95) ∧
    tenantOf (run sampleVeil ({}, ()) (reportedAt 95)) "dev-1" = some "org-1" ∧
    Accepted sampleVeil (run sampleVeil ({}, ()) [.enroll sampleDevice "operator" 100])
      { sampleHeartbeat with timestamp := 95 } 110 ∧
    ¬ ChainValid sampleEnv.digest (run sampleVeil ({}, ()) (reportedAt 95)) "org-1" "dev-1" := by
  have htenant : tenantOf (run sampleVeil ({}, ()) (reportedAt 95)) "dev-1" = some "org-1" := by decide +kernel
  refine ⟨clocked_reportedAt 95, onlyHere_reportedAt 95, htenant, rfl, ?_⟩
  have hrec : Recorded sampleEnv.digest (run sampleVeil ({}, ()) (reportedAt 95)) :=
    recorded_run rfl _ (onlyHere_reportedAt 95)
  rw [chainValid_iff (owned_run _ _ _) hrec htenant]
  have htimes : (ofDevice "dev-1" (evidenceOf (run sampleVeil ({}, ()) (reportedAt 95)))).map
      TrustEvidenceRecord.timestamp = [100, 95] := by decide +kernel
  intro hsorted
  have hlist := List.pairwise_map.mpr hsorted
  rw [htimes] at hlist
  simp at hlist

end Drawer.FleetOps
