import Drawer.Spec.StaleDevices
import Drawer.Lib.Casts

/-! What the search for silent devices comes to. A record that it can read is settled by
itself, so that the walk does to the whole table what it does to each device, in any order;
a record that it cannot read stops it, for a device that is offline as well. -/

namespace Drawer.FleetControl
open FleetControlPlane Text

variable {order : Order} {timeout now : Int64} {saved : Except Exn Unit} {s : FleetControlPlane}
  {d : DeviceRegistryRecord} {l : List DeviceEntry}

/-! ### One record -/

theorem lastSeen_eq_ok {last : Int64} :
    lastSeen d = .ok last ↔
      ∃ t, seenAt d = some t ∧ -9223372036854775808 ≤ t ∧ t ≤ 9223372036854775807 ∧ last = Int64.ofInt t := by
  unfold lastSeen seenAt
  split_ifs with hempty
  · refine ⟨fun h => ⟨0, rfl, by decide, by decide, (Except.ok.inj h).symm⟩, ?_⟩
    rintro ⟨t, ht, -, -, rfl⟩
    obtain rfl := Option.some.inj ht
    rfl
  · cases hread : stol (utf8 d.lastSeenAt) with
    | error x =>
      refine ⟨fun h => (nomatch h), ?_⟩
      rintro ⟨t, ht, hlow, hhigh, -⟩
      rw [stol_eq_ok.mpr ⟨ht, hlow, hhigh⟩] at hread
      cases hread
    | ok t =>
      obtain ⟨ht, hlow, hhigh⟩ := stol_eq_ok.mp hread
      refine ⟨fun h => ⟨t, ht, hlow, hhigh, (Except.ok.inj h).symm⟩, ?_⟩
      rintro ⟨t', ht', -, -, rfl⟩
      obtain rfl := Option.some.inj (ht.symm.trans ht')
      rfl

theorem readable_iff : Readable d ↔ ∃ last, lastSeen d = .ok last := by
  simp only [lastSeen_eq_ok]
  by_cases hempty : d.lastSeenAt = ""
  · simp [Readable, seenAt, hempty]
  · simp [Readable, seenAt, hempty]

theorem readable_epochString (receivedAt : Int64) (h : d.lastSeenAt = epochString receivedAt.toInt) : Readable d := by
  have hle := receivedAt.le_toInt
  have hlt := receivedAt.toInt_lt
  refine Or.inr ⟨receivedAt.toInt, ?_, by omega, by omega⟩
  rw [h, epochString, utf8_toString_int]
  exact leading_plain (plain_decimal _)

def takenOffline (d : DeviceRegistryRecord) : DeviceRegistryRecord := { d with connectivityStatus := "offline" }

/-- What a search makes of a device. -/
def settle (timeout now : Int64) (d : DeviceRegistryRecord) : DeviceRegistryRecord :=
  if stale timeout now d then takenOffline d else d

theorem stale_online (h : stale timeout now d = true) : d.connectivityStatus = "online" := by
  unfold stale at h
  split at h
  · cases h
  · exact (of_decide_eq_true h).1

theorem settle_readable (h : Readable d) : Readable (settle timeout now d) := by
  unfold settle
  split_ifs
  · exact h
  · exact h

theorem not_stale_settle : stale timeout now (settle timeout now d) = false := by
  unfold settle
  split_ifs with h
  · by_contra hs
    have hon : "offline" = "online" := stale_online (Bool.of_not_eq_false hs)
    exact absurd hon (by decide)
  · exact Bool.eq_false_iff.mpr h

/-! ### The walk -/

def markAll (now : Int64) (l : List DeviceEntry) (s : FleetControlPlane) : FleetControlPlane :=
  l.foldl (fun s e => s.markOffline e now) s

theorem sweep_ok (h : ∀ e ∈ l, Readable e.2) (n : Int32) :
    sweep timeout now l s n =
      (markAll now (l.filter fun e => stale timeout now e.2) s,
        .ok (n + Int32.ofNat (l.countP fun e => stale timeout now e.2))) := by
  induction l generalizing s n with
  | nil => simp [sweep, markAll]
  | cons e l ih =>
    obtain ⟨last, hlast⟩ := readable_iff.mp (h e List.mem_cons_self)
    have hrest := fun e' he' => h e' (List.mem_cons_of_mem e he')
    have hstale : stale timeout now e.2 = decide (e.2.connectivityStatus = "online" ∧ timeout < now - last) := by
      simp only [stale, hlast]
    rw [sweep, hlast]
    dsimp only
    split_ifs with hs
    · rw [ih hrest, List.filter_cons_of_pos (by rw [hstale]; exact decide_eq_true hs),
        List.countP_cons_of_pos (by rw [hstale]; exact decide_eq_true hs), Nat.add_comm, Int32.ofNat_add, ← Int32.add_assoc]
      rfl
    · rw [ih hrest, List.filter_cons_of_neg (by rw [hstale]; simpa using hs),
        List.countP_cons_of_neg (by rw [hstale]; simpa using hs)]

/-- A record that cannot be read ends the walk, wherever it stands. -/
theorem sweep_error {e : DeviceEntry} (he : e ∈ l) (h : ¬ Readable e.2) (n : Int32) :
    ∃ x, (sweep timeout now l s n).2 = .error x := by
  induction l generalizing s n with
  | nil => cases he
  | cons e' l ih =>
    rw [sweep]
    cases hread : lastSeen e'.2 with
    | error x => exact ⟨x, rfl⟩
    | ok last =>
      have hmem : e ∈ l := by
        refine (List.mem_cons.mp he).resolve_left ?_
        rintro rfl
        exact h (readable_iff.mpr ⟨last, hread⟩)
      dsimp only
      split_ifs
      · exact ih hmem _
      · exact ih hmem _

theorem markAll_devices (l : List DeviceEntry) (s : FleetControlPlane) :
    (markAll now l s).devices = l.foldl (fun m e => AList.insert e.1 (takenOffline e.2) m) s.devices := by
  induction l generalizing s with
  | nil => rfl
  | cons e l ih => exact ih (s.markOffline e now)

theorem markOffline_events (now : Int64) (s : FleetControlPlane) (e : DeviceEntry) :
    ∃ offline alert, (s.markOffline e now).events = s.events ++ [offline, alert] ∧ offline.type = "device_offline" ∧
      alert.type = "alert_created" :=
  ⟨_, _, List.append_assoc _ _ _, rfl, rfl⟩

theorem markOffline_alerts (now : Int64) (s : FleetControlPlane) (e : DeviceEntry) :
    ∃ alert, (s.markOffline e now).alerts = s.alerts ++ [alert] ∧ alert.type = "offline_device" :=
  ⟨_, rfl, rfl⟩

/-- Two events for each device, one of them that it is offline. -/
theorem markAll_events (now : Int64) (l : List DeviceEntry) (s : FleetControlPlane) :
    ∃ events, (markAll now l s).events = s.events ++ events ∧
      events.countP (fun e => e.type = "device_offline") = l.length := by
  induction l generalizing s with
  | nil => exact ⟨[], by simp [markAll], rfl⟩
  | cons e l ih =>
    obtain ⟨offline, alert, hnew, hoffline, halert⟩ := markOffline_events now s e
    obtain ⟨events, hevents, hcount⟩ := ih (s.markOffline e now)
    refine ⟨offline :: alert :: events, ?_, ?_⟩
    · change (markAll now l (s.markOffline e now)).events = _
      rw [hevents, hnew, List.append_assoc]
      rfl
    · rw [List.countP_cons_of_pos (by simp [hoffline]), List.countP_cons_of_neg (by simp [halert]), hcount,
        List.length_cons]

theorem markAll_alerts (now : Int64) (l : List DeviceEntry) (s : FleetControlPlane) :
    ∃ alerts, (markAll now l s).alerts = s.alerts ++ alerts ∧
      alerts.countP (fun a => a.type = "offline_device") = l.length := by
  induction l generalizing s with
  | nil => exact ⟨[], by simp [markAll], rfl⟩
  | cons e l ih =>
    obtain ⟨alert, hnew, htype⟩ := markOffline_alerts now s e
    obtain ⟨alerts, halerts, hcount⟩ := ih (s.markOffline e now)
    refine ⟨alert :: alerts, ?_, ?_⟩
    · change (markAll now l (s.markOffline e now)).alerts = _
      rw [halerts, hnew, List.append_assoc]
      rfl
    · rw [List.countP_cons_of_pos (by simp [htype]), hcount, List.length_cons]

/-! ### The search -/

/-- Whether the records of a registry can be read. -/
def AllReadable (s : FleetControlPlane) : Prop := ∀ key d, s.devices.lookup key = some d → Readable d

theorem mem_walk {e : DeviceEntry} : e ∈ order.walk s.devices ↔ s.devices.lookup e.1 = some e.2 := by
  rw [(order.perm s.devices).mem_iff, ← Option.mem_def, AList.mem_lookup_iff]

theorem countP_walk (p : DeviceEntry → Bool) : (order.walk s.devices).countP p = s.devices.entries.countP p :=
  (order.perm s.devices).countP_eq p

/-- The table after a search: each record is settled by itself. -/
theorem lookup_markAll (key : String) :
    (markAll now ((order.walk s.devices).filter fun e => stale timeout now e.2) s).devices.lookup key =
      (s.devices.lookup key).map (settle timeout now) := by
  have hperm : ((order.walk s.devices).filter fun e => stale timeout now e.2).Perm
      (Dict.keep (stale timeout now) s.devices).entries := (order.perm s.devices).filter _
  have hnodup := (List.perm_nodupKeys hperm).mpr (Dict.keep (stale timeout now) s.devices).nodupKeys
  rw [markAll_devices, Dict.lookup_foldl_insert takenOffline _ hnodup, List.perm_dlookup key hnodup hperm]
  change ((Dict.keep (stale timeout now) s.devices).lookup key |>.map _).or _ = _
  rw [Dict.lookup_keep]
  cases s.devices.lookup key with
  | none => rfl
  | some d =>
    by_cases hs : stale timeout now d = true
    · simp [Option.filter, settle, hs]
    · simp [Option.filter, settle, hs]

theorem detect_ok (h : AllReadable s) :
    s.detectStaleDevices order timeout saved now =
      (markAll now ((order.walk s.devices).filter fun e => stale timeout now e.2) s,
        saved.map fun _ => Int32.ofNat (s.devices.entries.countP fun e => stale timeout now e.2)) := by
  rw [detectStaleDevices, sweep_ok fun e he => h e.1 e.2 (mem_walk.mp he), countP_walk, Int32.zero_add]

theorem lookup_detect (h : AllReadable s) (key : String) :
    (s.detectStaleDevices order timeout saved now).1.devices.lookup key = (s.devices.lookup key).map (settle timeout now) := by
  rw [detect_ok h, lookup_markAll]

/-- A search that ends has read every record. -/
theorem readable_of_detect {n : Int32} (h : (s.detectStaleDevices order timeout saved now).2 = .ok n) : AllReadable s := by
  intro key d hd
  by_contra hread
  have hwalk : (⟨key, d⟩ : DeviceEntry) ∈ order.walk s.devices := mem_walk.mpr hd
  obtain ⟨x, hx⟩ : ∃ x, (sweep timeout now (order.walk s.devices) s 0).2 = .error x := sweep_error hwalk hread 0
  have hstopped : (s.detectStaleDevices order timeout saved now).2 = .error x := by
    unfold detectStaleDevices
    split
    · next hsweep => rw [hsweep] at hx; exact hx
    · next hsweep => rw [hsweep] at hx; cases hx
  rw [hstopped] at h
  cases h

theorem AllReadable.detect (h : AllReadable s) : AllReadable (s.detectStaleDevices order timeout saved now).1 := by
  intro key d hd
  rw [lookup_detect h, Option.map_eq_some_iff] at hd
  obtain ⟨d', hd', rfl⟩ := hd
  exact settle_readable (h key d' hd')

theorem countP_detect (h : AllReadable s) :
    ((s.detectStaleDevices order timeout saved now).1.devices.entries.countP fun e => stale timeout now e.2) = 0 := by
  refine List.countP_eq_zero.mpr fun e he => ?_
  have hlookup := AList.mem_lookup_iff.mpr he
  rw [Option.mem_def, lookup_detect h, Option.map_eq_some_iff] at hlookup
  obtain ⟨d, -, hd⟩ := hlookup
  rw [← hd, not_stale_settle]
  exact Bool.false_ne_true

theorem detect_again (h : AllReadable s) :
    (s.detectStaleDevices order timeout saved now).1.detectStaleDevices order timeout saved now =
      ((s.detectStaleDevices order timeout saved now).1, saved.map fun _ => 0) := by
  have hcount : ((s.detectStaleDevices order timeout saved now).1.devices.entries.countP fun e => stale timeout now e.2) = 0 :=
    countP_detect h
  have hfilter : ((order.walk (s.detectStaleDevices order timeout saved now).1.devices).filter
      fun e => stale timeout now e.2) = [] := by
    rw [← List.length_eq_zero_iff, ← List.countP_eq_length_filter, countP_walk, hcount]
  rw [detect_ok h.detect, hcount, hfilter]
  rfl

theorem wentOffline_detect (h : AllReadable s) :
    wentOffline s (s.detectStaleDevices order timeout saved now).1 = s.devices.entries.countP fun e => stale timeout now e.2 := by
  rw [wentOffline, AList.keys, List.keys, List.countP_map]
  refine List.countP_congr fun e he => ?_
  have hlookup : s.devices.lookup e.1 = some e.2 := AList.mem_lookup_iff.mpr he
  simp only [Function.comp_apply, lookup_detect h, hlookup, Option.map_some, Option.some.injEq, decide_eq_true_eq]
  refine ⟨fun ⟨hon, hoff⟩ => ?_, fun hs => ⟨stale_online hs, by simp [settle, hs, takenOffline]⟩⟩
  by_contra hs
  rw [settle, if_neg hs, hon] at hoff
  exact absurd hoff (by decide)

theorem ofNat_toInt_iff (n : ℕ) : (Int32.ofNat n).toInt = n ↔ n ≤ 2147483647 := by
  have h := Casts.int32_kept_iff n
  rw [Int32.ofInt_eq_ofNat] at h
  rw [h]
  omega

theorem detects_of_searchable (h : Searchable timeout saved s now) : Detects order timeout saved s now where
  noneLeft key d hd hon := by
    rw [lookup_detect h.readable, Option.map_eq_some_iff] at hd
    obtain ⟨d', hd', rfl⟩ := hd
    unfold settle at hon ⊢
    split_ifs at hon ⊢ with hs
    · exact absurd hon (by simp [takenOffline])
    · exact fun hsilent => hs (h.near key d' hd' hon hsilent)
  counted := by
    obtain ⟨events, hevents, hcount⟩ := markAll_events now
      ((order.walk s.devices).filter fun e => stale timeout now e.2) s
    obtain ⟨alerts, halerts, hcount'⟩ := markAll_alerts now
      ((order.walk s.devices).filter fun e => stale timeout now e.2) s
    rw [← List.countP_eq_length_filter, countP_walk] at hcount hcount'
    refine ⟨_, events, alerts, by rw [detect_ok h.readable, h.stored]; rfl, ?_, ?_, ?_, ?_, ?_⟩
    · rw [detect_ok h.readable, hevents]
    · rw [detect_ok h.readable, halerts]
    · rw [wentOffline_detect h.readable, (ofNat_toInt_iff _).mpr h.few]
    · rw [hcount, (ofNat_toInt_iff _).mpr h.few]
    · rw [hcount', (ofNat_toInt_iff _).mpr h.few]
  again := by
    rw [detect_again h.readable, h.stored]
    rfl

theorem searchable_of_detects (h : Detects order timeout saved s now) : Searchable timeout saved s now := by
  obtain ⟨n, _, _, hn, _, _, hcount, _, _⟩ := h.counted
  have hread := readable_of_detect hn
  obtain ⟨⟨⟩, rfl⟩ : ∃ u, saved = .ok u := by
    rw [detect_ok hread] at hn
    cases saved with
    | error x => cases hn
    | ok u => exact ⟨u, rfl⟩
  refine ⟨hread, fun key d hd hon hsilent => ?_, ?_, rfl⟩
  · by_contra hs
    have hkept : (s.detectStaleDevices order timeout (.ok ()) now).1.devices.lookup key = some d := by
      rw [lookup_detect hread, hd, Option.map_some, settle, if_neg hs]
    exact h.noneLeft key d hkept hon hsilent
  · rw [wentOffline_detect hread] at hcount
    rw [detect_ok hread] at hn
    obtain rfl := Except.ok.inj hn
    exact (ofNat_toInt_iff _).mp hcount

/-! ### Runs -/

theorem AllReadable.insert (h : AllReadable s) (key : String) (hd : Readable d) :
    AllReadable { s with devices := s.devices.insert key d } := by
  intro key' d' hd'
  rw [Dict.lookup_insert_if] at hd'
  split_ifs at hd' with hkey
  · obtain rfl := Option.some.inj hd'
    exact hd
  · exact h key' d' hd'

theorem AllReadable.applyOp (h : AllReadable s) {op : RegistryOp} (hop : Registers op) :
    AllReadable (applyOp order timeout s op) := by
  cases op with
  | registerDevice device =>
    unfold FleetControl.applyOp registerDevice
    dsimp only
    split_ifs
    · exact h
    · exact h.insert _ hop
  | receiveHeartbeat deviceId receivedAt latencyMs =>
    unfold FleetControl.applyOp receiveHeartbeat
    dsimp only
    cases s.devices.lookup deviceId with
    | none => exact h
    | some d =>
      dsimp only
      have hd := h.insert deviceId (readable_epochString (d :=
        { d with connectivityStatus := "online", lastHeartbeatAt := epochString receivedAt.toInt
                 lastSeenAt := epochString receivedAt.toInt }) receivedAt rfl)
      split_ifs
      · exact hd
      · exact hd
  | detectStaleDevices now => exact h.detect

/-- Where only devices that can be read are registered, every record can be read, at every time. -/
theorem readable_registryAfter (ops : List RegistryOp) (h : ∀ op ∈ ops, Registers op) :
    AllReadable (registryAfter order timeout ops) := by
  unfold registryAfter
  induction ops using List.reverseRecOn with
  | nil => exact fun _ _ hd => nomatch hd
  | append_singleton ops op ih =>
    rw [List.foldl_append]
    exact (ih fun op' hop' => h op' (List.mem_append_left _ hop')).applyOp (h op (by simp))

/-- After every run, a search does what it should for just the times that the registry can be searched at, and only if the
registry can be saved. -/
theorem detects_iff (order : Order) (timeout : Int64) (saved : Except Exn Unit) (ops : List RegistryOp) (now : Int64) :
    Detects order timeout saved (registryAfter order timeout ops) now ↔
      Searchable timeout saved (registryAfter order timeout ops) now :=
  ⟨searchable_of_detects, detects_of_searchable⟩

/-- One record that is not a number stops the search, though its device is offline. -/
theorem unread_record_stops :
    ¬ ∀ (order : Order) (timeout : Int64) (ops : List RegistryOp) (now : Int64),
      Detects order timeout (.ok ()) (registryAfter order timeout ops) now := by
  intro h
  obtain ⟨n, _, _, hn, -⟩ := (h ⟨AList.entries, fun _ => List.Perm.refl _⟩ 90
    [.registerDevice { deviceId := "dev-1", organizationId := "org-1", lastSeenAt := "never" }] 100).counted
  have hthrows : (FleetControlPlane.detectStaleDevices ⟨AList.entries, fun _ => List.Perm.refl _⟩ 90 (.ok ())
      (registryAfter ⟨AList.entries, fun _ => List.Perm.refl _⟩ 90
        [.registerDevice { deviceId := "dev-1", organizationId := "org-1", lastSeenAt := "never" }]) 100).2 =
      .error .invalidArgument := by decide +kernel
  rw [hthrows] at hn
  cases hn

end Drawer.FleetControl
