import Drawer.Lib.Transition
import Drawer.Proofs.DeviceChain
import Drawer.Sanity.CommandQueue

/-! Bounded delivery and final statuses. The retry counter keeps up with the
deliveries, the status tells how far a command got, and the set of acknowledged ids
is the set of commands stored as acknowledged, so it can be read back from the
store. Delivery and expiry look at the status, an acknowledgement looks at the set
of acknowledged ids only: it changes a status that is final just where a device
acknowledges a command of its own that has failed or expired. -/

namespace Drawer.FleetControl
open FleetControlPlane Transition
open FleetOps (Filed refiled lookup_refiled)

variable {s s' : FleetControlPlane} {history : List Fact} {id : String} {c c' : RemoteCommand} {f : Fact}

theorem idFor_injective (label : String) : Function.Injective (idFor label) := Veil.idFor_injective label

/-! ### The invariant -/

/-- How often the command was delivered. -/
def deliveries (history : List Fact) (id : String) : ℕ := history.countP (Fact.delivers id)

theorem deliveries_snoc (history : List Fact) (id : String) (f : Fact) :
    deliveries (history ++ [f]) id = deliveries history id + if f.delivers id then 1 else 0 := by
  simp [deliveries, List.countP_append, List.countP_singleton]

/-- The counter and the status keep up with `n` deliveries. -/
structure Tallied (n : ℕ) (c : RemoteCommand) : Prop where
  bound : (n : Int) ≤ 1 + max 0 c.maxRetries.toInt
  pending : c.status = "pending" → n = 0 ∧ c.retryCount = 0
  delivered : c.status = "delivered" → (n : Int) = 1 + c.retryCount.toInt ∧ 0 ≤ c.retryCount.toInt

/-- What the history says of a stored command. -/
structure Entry (history : List Fact) (id : String) (c : RemoteCommand) : Prop where
  keyed : c.commandId = id
  origin : ∃ c₀, Fact.created c₀ ∈ history ∧ c₀.commandId = id ∧ c₀.deviceId = c.deviceId ∧
    c₀.expiresAtEpoch = c.expiresAtEpoch
  tally : Tallied (deliveries history id) c

/-- The commands and the history belong together. -/
structure Tracked (s : FleetControlPlane) (history : List Fact) : Prop where
  numbered : Dict.Numbered (idFor "cmd") s.commands
  entries : ∀ id c, s.commands.lookup id = some c → Entry history id c
  created : ∀ c₀, Fact.created c₀ ∈ history → ∃ c, s.commands.lookup c₀.commandId = some c ∧ c.maxRetries = c₀.maxRetries
  known : ∀ id, id ∈ s.acknowledgedCommands ↔ ∃ c, s.commands.lookup id = some c ∧ c.status = "acknowledged"
  told : ∀ id, Fact.acknowledged id ∈ history → id ∈ s.acknowledgedCommands

structure Sound (s : FleetControlPlane) (history : List Fact) : Prop extends Tracked s history where
  bounded : Bounded history

theorem sound_empty : Sound {} [] where
  numbered := Dict.numbered_empty _
  entries _ _ hc := nomatch hc
  created _ hc := nomatch hc
  known _ := ⟨(fun h => nomatch h), fun ⟨_, hc, _⟩ => nomatch hc⟩
  told _ h := nomatch h
  bounded :=
    { distinct := List.nodup_nil
      proper := fun _ _ _ h => nomatch h
      often := fun _ h => nomatch h
      last := fun before _ _ h => by cases before <;> cases h }

theorem Tracked.filed (h : Tracked s history) : Filed RemoteCommand.commandId s.commands :=
  fun id c hc => (h.entries id c hc).keyed

/-- A fact that is told keeps the bounds: it is of a new command, of a command that was created, and of none that was
acknowledged. -/
theorem Bounded.snoc (h : Bounded history) (htracked : Tracked s (history ++ [f]))
    (hnew : ∀ id, f.createdId = some id → id ∉ history.filterMap Fact.createdId)
    (hproper : ∀ c deviceId now, f = .delivered c deviceId now →
      ∃ c₀, Fact.created c₀ ∈ history ∧ c₀.commandId = c.commandId ∧ c₀.deviceId = deviceId ∧ now ≤ c₀.expiresAtEpoch)
    (hlast : ∀ id, Fact.acknowledged id ∈ history → f.delivers id = false) : Bounded (history ++ [f]) where
  distinct := by
    rw [List.filterMap_append, List.nodup_append']
    refine ⟨h.distinct, ?_, ?_⟩
    · cases hf : f.createdId <;> simp [List.filterMap, hf]
    · intro id hold hid
      obtain ⟨g, hg, hgid⟩ := List.mem_filterMap.mp hid
      obtain rfl := List.mem_singleton.mp hg
      exact hnew id hgid hold
  proper c deviceId now hmem := by
    have horigin : ∃ c₀, Fact.created c₀ ∈ history ∧ c₀.commandId = c.commandId ∧ c₀.deviceId = deviceId ∧
        now ≤ c₀.expiresAtEpoch := by
      rcases List.mem_append.mp hmem with hold | hnow
      · exact h.proper c deviceId now hold
      · exact hproper c deviceId now (List.mem_singleton.mp hnow).symm
    obtain ⟨c₀, hc₀, hrest⟩ := horigin
    exact ⟨c₀, List.mem_append_left _ hc₀, hrest⟩
  often c₀ hc₀ := by
    obtain ⟨c, hc, hmax⟩ := htracked.created c₀ hc₀
    have hbound := (htracked.entries _ c hc).tally.bound
    rwa [hmax] at hbound
  last before id after heq g hg := by
    rcases split_snoc heq with ⟨after', hhistory, rfl⟩ | ⟨-, -, rfl⟩
    · rcases List.mem_append.mp hg with hold | hnow
      · exact h.last before id after' hhistory g hold
      · obtain rfl := List.mem_singleton.mp hnow
        exact hlast id (by simp [hhistory])
    · cases hg

/-! ### One command -/

theorem Entry.snoc (h : Entry history id c) (hf : f.delivers id = false) : Entry (history ++ [f]) id c where
  keyed := h.keyed
  origin := by
    obtain ⟨c₀, hc₀, hrest⟩ := h.origin
    exact ⟨c₀, List.mem_append_left _ hc₀, hrest⟩
  tally := by
    rw [deliveries_snoc, hf]
    exact h.tally

theorem Entry.close (h : Entry history id c) (halike : Alike c c') (hpending : c'.status ≠ "pending")
    (hdelivered : c'.status ≠ "delivered") : Entry history id c' where
  keyed := halike.commandId.trans h.keyed
  origin := by
    obtain ⟨c₀, hc₀, hid, hdevice, hexpires⟩ := h.origin
    exact ⟨c₀, hc₀, hid, hdevice.trans halike.deviceId.symm, hexpires.trans halike.expiresAtEpoch.symm⟩
  tally := ⟨halike.maxRetries ▸ h.tally.bound, fun hs => absurd hs hpending, fun hs => absurd hs hdelivered⟩

theorem retry_toInt {n m : Int32} (h : n < m) : (n + 1).toInt = n.toInt + 1 := by
  have hlt : n.toInt < m.toInt := Int32.lt_iff_toInt_lt.mp h
  have hm := m.toInt_lt
  have hn := n.le_toInt
  rw [Int32.toInt_add, show (1 : Int32).toInt = 1 from rfl, Int.bmod_eq_of_le] <;> omega

theorem Tallied.deliver {n : ℕ} (h : Tallied n c) (hopen : c.status ∈ openStatuses)
    (hretry : c.status = "delivered" → c.retryCount < c.maxRetries) (now : Int) : Tallied (n + 1) (deliveredAs c now) := by
  rcases List.mem_pair.mp hopen with hstatus | hstatus
  · obtain ⟨rfl, hcount⟩ := h.pending hstatus
    refine ⟨?_, fun hs => absurd hs (by simp [deliveredAs]), fun _ => ?_⟩
    · simp only [deliveredAs]
      omega
    · simp [deliveredAs, hstatus, hcount]
  · obtain ⟨hn, hpos⟩ := h.delivered hstatus
    have hnext := retry_toInt (hretry hstatus)
    have hlt := Int32.lt_iff_toInt_lt.mp (hretry hstatus)
    refine ⟨?_, fun hs => absurd hs (by simp [deliveredAs]), fun _ => ?_⟩
    · simp only [deliveredAs]
      omega
    · simp only [deliveredAs, hstatus, if_true, hnext]
      omega

theorem Entry.deliver (h : Entry history id c) (hopen : c.status ∈ openStatuses)
    (hretry : c.status = "delivered" → c.retryCount < c.maxRetries) (deviceId : String) (now : Int) :
    Entry (history ++ [.delivered (deliveredAs c now) deviceId now]) id (deliveredAs c now) where
  keyed := h.keyed
  origin := by
    obtain ⟨c₀, hc₀, hrest⟩ := h.origin
    exact ⟨c₀, List.mem_append_left _ hc₀, hrest⟩
  tally := by
    have hdelivers : (Fact.delivered (deliveredAs c now) deviceId now).delivers id = true := decide_eq_true h.keyed
    rw [deliveries_snoc, hdelivers]
    exact h.tally.deliver hopen hretry now

/-! ### One change -/

/-- An id that is not stored is not in the history. -/
theorem Sound.unheard (h : Sound s history) (hid : s.commands.lookup id = none) :
    (∀ c₀, Fact.created c₀ ∈ history → c₀.commandId ≠ id) ∧ deliveries history id = 0 := by
  have hcreated : ∀ c₀, Fact.created c₀ ∈ history → c₀.commandId ≠ id := by
    rintro c₀ hc₀ rfl
    obtain ⟨c, hc, -⟩ := h.created c₀ hc₀
    rw [hid] at hc
    cases hc
  refine ⟨hcreated, List.countP_eq_zero.mpr fun f hf hdelivers => ?_⟩
  cases f with
  | delivered c deviceId now =>
    obtain ⟨c₀, hc₀, hsame, -⟩ := h.bounded.proper c deviceId now hf
    exact hcreated c₀ hc₀ (hsame.trans (by simpa [Fact.delivers] using hdelivers))
  | created c => simp [Fact.delivers] at hdelivers
  | acknowledged id => simp [Fact.delivers] at hdelivers

/-- A change of one stored command, which keeps what the history says of it. -/
theorem Tracked.insert (h : Tracked s history) {history' : List Fact} (hc : s.commands.lookup id = some c)
    (hmax : c'.maxRetries = c.maxRetries) (hcommands : s'.commands = s.commands.insert id c')
    (hentry : Entry history' id c')
    (hothers : ∀ id' v, id' ≠ id → Entry history id' v → Entry history' id' v)
    (hcreated : ∀ c₀, Fact.created c₀ ∈ history' → Fact.created c₀ ∈ history)
    (hknown : id ∈ s'.acknowledgedCommands ↔ c'.status = "acknowledged")
    (hrest : ∀ id' ≠ id, id' ∈ s'.acknowledgedCommands ↔ id' ∈ s.acknowledgedCommands)
    (htold : ∀ id', Fact.acknowledged id' ∈ history' → id' ∈ s'.acknowledgedCommands) : Tracked s' history' where
  numbered := by
    refine h.numbered.congr fun id' => ?_
    rw [hcommands, Dict.lookup_insert_if]
    split_ifs with hid
    · rw [hid, hc]
      rfl
    · rfl
  entries id' v hv := by
    rw [hcommands, Dict.lookup_insert_if] at hv
    split_ifs at hv with hid
    · obtain rfl := Option.some.inj hv
      exact hid ▸ hentry
    · exact hothers id' v hid (h.entries id' v hv)
  created c₀ hc₀ := by
    obtain ⟨v, hv, hvmax⟩ := h.created c₀ (hcreated c₀ hc₀)
    rw [hcommands, Dict.lookup_insert_if]
    split_ifs with hid
    · rw [hid, hc] at hv
      obtain rfl := Option.some.inj hv
      exact ⟨c', rfl, hmax.trans hvmax⟩
    · exact ⟨v, hv, hvmax⟩
  known id' := by
    rw [hcommands, Dict.lookup_insert_if]
    split_ifs with hid
    · subst hid
      simp [hknown]
    · rw [hrest id' hid]
      exact h.known id'
  told := htold

theorem Sound.not_known (h : Sound s history) (hc : s.commands.lookup id = some c) (hstatus : c.status ≠ "acknowledged") :
    id ∉ s.acknowledgedCommands := by
  rw [h.known id]
  rintro ⟨v, hv, hack⟩
  rw [hc] at hv
  obtain rfl := Option.some.inj hv
  exact hstatus hack

theorem open_ne_acknowledged (hopen : c.status ∈ openStatuses) : c.status ≠ "acknowledged" := by
  rintro hs
  simp [hs, openStatuses] at hopen

theorem Sound.act {p p' : FleetControlPlane × List Fact} (h : Sound p.1 p.2) (hact : Act p p') : Sound p'.1 p'.2 := by
  cases hact with
  | @created s s' history c hid hstatus hretry hcommands hacknowledged =>
    have hfree : s.commands.lookup c.commandId = none := by
      rw [hid]
      exact h.numbered.fresh
    obtain ⟨hnew, hnone⟩ := h.unheard hfree
    have htracked : Tracked s' (history ++ [.created c]) :=
      { numbered := by
          rw [hcommands]
          exact h.numbered.insert hfree (fun n hn => (idFor_injective "cmd" (hid.symm.trans hn)).ge) c
        entries := fun id v hv => by
          rw [hcommands, Dict.lookup_insert_if] at hv
          split_ifs at hv with heq
          · obtain rfl := Option.some.inj hv
            refine ⟨heq.symm, ⟨c, by simp, heq.symm, rfl, rfl⟩, ?_⟩
            rw [heq, deliveries_snoc, hnone]
            have hfirst : ¬(Fact.created c).delivers c.commandId = true := by simp [Fact.delivers]
            rw [if_neg hfirst]
            refine ⟨by simp only [Nat.cast_zero, add_zero]; omega, fun _ => ⟨rfl, hretry⟩, fun hs => ?_⟩
            rcases hstatus with hs' | hs' <;> rw [hs'] at hs <;> exact absurd hs (by decide)
          · exact (h.entries id v hv).snoc rfl
        created := fun c₀ hc₀ => by
          rw [hcommands, Dict.lookup_insert_if]
          rcases List.mem_append.mp hc₀ with hold | hlast
          · rw [if_neg (hnew c₀ hold)]
            exact h.created c₀ hold
          · obtain rfl := Fact.created.inj (List.mem_singleton.mp hlast)
            exact ⟨c₀, if_pos rfl, rfl⟩
        known := fun id => by
          rw [hacknowledged, hcommands, Dict.lookup_insert_if, h.known id]
          split_ifs with heq
          · subst heq
            rcases hstatus with hs | hs <;> simp [hfree, hs]
          · exact Iff.rfl
        told := fun id hid' => by
          rw [hacknowledged]
          exact h.told id (by simpa using hid') }
    refine ⟨htracked, h.bounded.snoc htracked (fun id hsome hin => ?_) (fun _ _ _ heq => nomatch heq) fun _ _ => rfl⟩
    obtain ⟨g, hg, hgid⟩ := List.mem_filterMap.mp hin
    cases g with
    | created c₀ =>
      exact hnew c₀ hg ((Option.some.inj hgid).trans (Option.some.inj hsome).symm)
    | delivered _ _ _ => cases hgid
    | acknowledged _ => cases hgid
  | @gaveUp s s' history id c c' hc hopen halike hstatus hcommands hacknowledged =>
    refine ⟨h.toTracked.insert hc halike.maxRetries hcommands ((h.entries id c hc).close halike ?_ ?_) (fun _ _ _ he => he)
      (fun _ hc₀ => hc₀) ?_ (fun id' _ => by rw [hacknowledged]) fun id' htold => ?_, h.bounded⟩
    · rcases hstatus with hs | hs <;> rw [hs] <;> decide
    · rcases hstatus with hs | hs <;> rw [hs] <;> decide
    · rw [hacknowledged]
      refine iff_of_false (h.not_known hc (open_ne_acknowledged hopen)) ?_
      rcases hstatus with hs | hs <;> rw [hs] <;> decide
    · rw [hacknowledged]
      exact h.told id' htold
  | @delivered s s' history id c deviceId now hc hdevice hopen hunknown hnow hretry hcommands hacknowledged =>
    have hentry := h.entries id c hc
    have htracked : Tracked s' (history ++ [.delivered (deliveredAs c now) deviceId now]) := by
      refine h.toTracked.insert hc (show (deliveredAs c now).maxRetries = c.maxRetries from rfl) hcommands
        (hentry.deliver hopen hretry deviceId now) ?_ ?_ ?_ (fun id' _ => by rw [hacknowledged]) fun id' htold => ?_
      · exact fun id' v hne hv => hv.snoc (decide_eq_false fun heq => hne (heq.symm.trans hentry.keyed))
      · exact fun c₀ hc₀ => by simpa using hc₀
      · rw [hacknowledged]
        exact iff_of_false (h.not_known hc (open_ne_acknowledged hopen)) (by simp [deliveredAs])
      · rw [hacknowledged]
        exact h.told id' (by simpa using htold)
    refine ⟨htracked, h.bounded.snoc htracked (fun id hsome => nomatch hsome) ?_ fun id' hack => ?_⟩
    · intro c₁ deviceId₁ now₁ heq
      obtain ⟨rfl, rfl, rfl⟩ := Fact.delivered.inj heq
      obtain ⟨c₀, hc₀, hid, hdevice₀, hexpires⟩ := hentry.origin
      exact ⟨c₀, hc₀, hid.trans hentry.keyed.symm, hdevice₀.trans hdevice, hexpires ▸ hnow⟩
    · have hin := h.told id' hack
      exact decide_eq_false fun heq => hunknown (show c.commandId ∈ _ from heq ▸ hin)
  | @refiled s s' history hlookup hacknowledged =>
    exact
      { numbered := h.numbered.congr fun id => by rw [hlookup]
        entries := fun id c hc => h.entries id c (hlookup id ▸ hc)
        created := fun c₀ hc₀ => by
          rw [hlookup]
          exact h.created c₀ hc₀
        known := fun id => by
          rw [hacknowledged, hlookup]
          exact h.known id
        told := fun id hid => (hacknowledged id).mpr (h.told id hid)
        bounded := h.bounded }

theorem Sound.acts {p p' : FleetControlPlane × List Fact} (h : Sound p.1 p.2) (hacts : Acts p p') : Sound p'.1 p'.2 := by
  induction hacts with
  | refl => exact h
  | tail _ hact ih => exact ih.act hact

theorem Sound.acknowledge (h : Sound s history) (deviceId commandId : String) (now : Int)
    (hok : (s.acknowledgeCommand deviceId commandId now).2 = true) :
    Sound (s.acknowledgeCommand deviceId commandId now).1 (history ++ [.acknowledged commandId]) := by
  rcases acknowledgeCommand_spec (s := s) deviceId commandId now with
    hsame | ⟨c, hc, -, hunknown, -, hcommands, hacknowledged⟩
  · rw [hsame] at hok
    cases hok
  · have hentry : Entry history commandId { c with status := "acknowledged", acknowledgedAt := epochString now } :=
      (h.entries commandId c hc).close ⟨rfl, rfl, rfl, rfl⟩ (by simp) (by simp)
    have htracked : Tracked (s.acknowledgeCommand deviceId commandId now).1 (history ++ [.acknowledged commandId]) := by
      refine h.toTracked.insert hc (by rfl) hcommands (hentry.snoc rfl) (fun _ _ _ he => he.snoc rfl)
        (fun c₀ hc₀ => by simpa using hc₀) ?_ (fun id' hne => by simp [hacknowledged, hne]) fun id' htold => ?_
      · simp [hacknowledged]
      · rw [hacknowledged]
        rcases List.mem_append.mp htold with hold | hlast
        · exact List.mem_append_left _ (h.told id' hold)
        · obtain rfl := Fact.acknowledged.inj (List.mem_singleton.mp hlast)
          simp
    exact ⟨htracked, h.bounded.snoc htracked (fun _ hsome => nomatch hsome) (fun _ _ _ heq => nomatch heq) fun _ _ => rfl⟩

/-! ### The store -/

/-- A new process finds the commands in the file. -/
def Stored (q : CommandQueue) : Prop :=
  (q.file = none ∧ ∀ id, q.plane.commands.lookup id = none) ∨
    ∃ s₀ : FleetControlPlane, q.file = some s₀.saved ∧ Filed RemoteCommand.commandId s₀.commands ∧
      ∀ id, s₀.commands.lookup id = q.plane.commands.lookup id

/-- The queue keeps its commands and its history together, and its store up to date. -/
structure Kept (q : CommandQueue) : Prop where
  sound : Sound q.plane q.history
  stored : Stored q

theorem kept_empty : Kept {} := ⟨sound_empty, Or.inl ⟨rfl, fun _ => rfl⟩⟩

theorem Kept.save {q : CommandQueue} {facts : List Fact} (h : Sound s (q.history ++ facts)) : Kept (q.save s facts) :=
  ⟨h, Or.inr ⟨s, rfl, h.toTracked.filed, fun _ => rfl⟩⟩

/-- A new process has the commands of the old one, and knows which were acknowledged. -/
theorem act_restart {q : CommandQueue} (h : Kept q) : Act (q.plane, q.history) (q.restart.plane, q.restart.history) := by
  unfold CommandQueue.restart
  rcases h.stored with ⟨hnone, hempty⟩ | ⟨s₀, hsome, hfiled, hlook⟩
  · rw [hnone]
    refine Act.refiled (fun id => (hempty id).symm) fun id => ?_
    rw [h.sound.known id]
    exact iff_of_false (by simp) (by rintro ⟨c, hc, -⟩; rw [hempty id] at hc; cases hc)
  · obtain ⟨s', hload, hcommands, hacknowledged⟩ := load_saved s₀
    rw [hsome]
    simp only [hload]
    refine Act.refiled (fun id => ?_) fun id => ?_
    · rw [hcommands, lookup_refiled hfiled, hlook]
    · rw [hacknowledged, mem_acknowledgedOf hfiled, h.sound.known id, hlook]

theorem restart_file (q : CommandQueue) : q.restart.file = q.file := by
  unfold CommandQueue.restart
  split
  · rfl
  · split <;> rfl

/-! ### Every event -/

/-- Every event but an acknowledgement is a series of changes. -/
theorem acts_step {q : CommandQueue} (h : Kept q) {e : QueueEvent}
    (he : ∀ deviceId commandId now, e ≠ .acknowledge deviceId commandId now) :
    Acts (q.plane, q.history) ((q.step e).plane, (q.step e).history) := by
  cases e with
  | create organizationId deviceId type now ttlSeconds maxRetries => exact Relation.ReflTransGen.single (act_create ..)
  | deliver order deviceId now => exact acts_deliverFrom deviceId now order q.plane
  | acknowledge deviceId commandId now => exact absurd rfl (he deviceId commandId now)
  | expire now =>
    simp only [CommandQueue.step, CommandQueue.save, List.append_nil]
    exact acts_expireCommands now
  | others plane =>
    simp only [CommandQueue.step, CommandQueue.save, List.append_nil]
    exact Relation.ReflTransGen.single (Act.refiled (fun _ => rfl) fun _ => Iff.rfl)
  | restart => exact Relation.ReflTransGen.single (act_restart h)

theorem Kept.step {q : CommandQueue} (h : Kept q) (e : QueueEvent) : Kept (q.step e) := by
  have hsound : (∀ deviceId commandId now, e ≠ .acknowledge deviceId commandId now) →
      Sound (q.step e).plane (q.step e).history := fun he => h.sound.acts (acts_step h he)
  cases e with
  | create organizationId deviceId type now ttlSeconds maxRetries => exact Kept.save (hsound (by simp))
  | deliver order deviceId now => exact Kept.save (hsound (by simp))
  | acknowledge deviceId commandId now =>
    rw [CommandQueue.step]
    split_ifs with hok
    · exact Kept.save (h.sound.acknowledge deviceId commandId now hok)
    · exact h
  | expire now => exact Kept.save (hsound (by simp))
  | others plane => exact Kept.save (hsound (by simp))
  | restart =>
    have hsound := hsound (by simp)
    refine ⟨hsound, ?_⟩
    rcases h.stored with ⟨hnone, hempty⟩ | ⟨s₀, hsome, hfiled, hlook⟩
    · refine Or.inl ⟨(restart_file q).trans hnone, fun id => ?_⟩
      rw [CommandQueue.step, CommandQueue.restart, hnone]
      rfl
    · obtain ⟨s', hload, hcommands, -⟩ := load_saved s₀
      refine Or.inr ⟨s₀, (restart_file q).trans hsome, hfiled, fun id => ?_⟩
      rw [CommandQueue.step, CommandQueue.restart, hsome]
      simp only [hload, hcommands, lookup_refiled hfiled _]

theorem kept_foldl (events : List QueueEvent) : Kept (events.foldl CommandQueue.step {}) := by
  refine (run_foldl CommandQueue.step {} events).invariant kept_empty fun q e q' hq hstep => ?_
  obtain rfl : q.step e = q' := hstep
  exact hq.step e

/-- No new process fails to load its store: it holds what a plane has saved. -/
theorem loads_run (events : List QueueEvent) {j : Json String} (hj : (events.foldl CommandQueue.step {}).file = some j) :
    ∃ plane, FleetControlPlane.load j = .ok plane := by
  rcases (kept_foldl events).stored with ⟨hnone, -⟩ | ⟨s₀, hsome, -, -⟩
  · rw [hnone] at hj
    cases hj
  · obtain ⟨s', hload, -⟩ := load_saved s₀
    rw [hsome] at hj
    exact ⟨s', Option.some.inj hj ▸ hload⟩

/-- After every run, what callers were told is within the bounds. -/
theorem bounded_run (events : List QueueEvent) : Bounded (events.foldl CommandQueue.step {}).history :=
  (kept_foldl events).sound.bounded

/-! ### Final statuses -/

/-- What is stored keeps its final statuses. -/
def Settled (s s' : FleetControlPlane) : Prop :=
  ∀ id c, s.commands.lookup id = some c → c.status ∈ finalStatuses →
    ∃ c', s'.commands.lookup id = some c' ∧ c'.status = c.status

theorem Settled.trans {s'' : FleetControlPlane} (h : Settled s s') (h' : Settled s' s'') : Settled s s'' := by
  intro id c hc hfinal
  obtain ⟨c', hc', hstatus⟩ := h id c hc hfinal
  obtain ⟨c'', hc'', hstatus'⟩ := h' id c' hc' (hstatus ▸ hfinal)
  exact ⟨c'', hc'', hstatus'.trans hstatus⟩

theorem settled_insert {key : String} {v : RemoteCommand} (hcommands : s'.commands = s.commands.insert key v)
    (h : ∀ c, s.commands.lookup key = some c → c.status ∉ finalStatuses) : Settled s s' := by
  intro id c hc hfinal
  rw [hcommands, Dict.lookup_insert_if]
  split_ifs with hid
  · subst hid
    exact absurd hfinal (h c hc)
  · exact ⟨c, hc, rfl⟩

theorem open_not_final (hopen : c.status ∈ openStatuses) : c.status ∉ finalStatuses := by
  rcases List.mem_pair.mp hopen with hs | hs <;> simp [hs, finalStatuses]

theorem settled_open {key : String} {v : RemoteCommand} (hcommands : s'.commands = s.commands.insert key v)
    (hc : s.commands.lookup key = some c) (hopen : c.status ∈ openStatuses) : Settled s s' := by
  refine settled_insert hcommands fun c' hc' => ?_
  rw [hc] at hc'
  obtain rfl := Option.some.inj hc'
  exact open_not_final hopen

theorem Sound.settled {p p' : FleetControlPlane × List Fact} (h : Sound p.1 p.2) (hact : Act p p') : Settled p.1 p'.1 := by
  cases hact with
  | created c hid hstatus hretry hcommands hacknowledged =>
    refine settled_insert hcommands fun c' hc' => ?_
    -- the id is new
    have hfree := h.numbered.fresh
    rw [← hid] at hfree
    rw [hfree] at hc'
    cases hc'
  | gaveUp id c c' hc hopen halike hstatus hcommands hacknowledged => exact settled_open hcommands hc hopen
  | delivered id c deviceId now hc hdevice hopen hunknown hnow hretry hcommands hacknowledged =>
    exact settled_open hcommands hc hopen
  | refiled hlookup hacknowledged => exact fun id c hc _ => ⟨c, (hlookup id).trans hc, rfl⟩

theorem Sound.settled_acts {p p' : FleetControlPlane × List Fact} (h : Sound p.1 p.2) (hacts : Acts p p') :
    Settled p.1 p'.1 := by
  induction hacts with
  | refl => exact fun id c hc _ => ⟨c, hc, rfl⟩
  | tail hacts hact ih => exact ih.trans ((h.acts hacts).settled hact)

/-! ### Acknowledgements -/

theorem keepsFinal_acknowledge {q : CommandQueue} (h : Kept q) (deviceId commandId : String) (now : Int) :
    KeepsFinal q (.acknowledge deviceId commandId now) ↔ AcknowledgedOpen q (.acknowledge deviceId commandId now) := by
  constructor
  · intro hkeeps deviceId₁ commandId₁ now₁ heq c hc hdevice
    obtain ⟨rfl, rfl, rfl⟩ := QueueEvent.acknowledge.inj heq
    by_contra hlate
    have hstatus : c.status = "failed" ∨ c.status = "expired" := by tauto
    -- the id is not among the acknowledged ones, so the acknowledgement is taken
    have hnot : c.status ≠ "acknowledged" := by rcases hstatus with hs | hs <;> rw [hs] <;> decide
    have hunknown := h.sound.not_known hc hnot
    rcases acknowledgeCommand_spec (s := q.plane) deviceId commandId now with hsame | ⟨c₁, hc₁, -, -, hok, hcommands, -⟩
    · simp [acknowledgeCommand, hc, hdevice, hunknown] at hsame
    · obtain ⟨c', hc', hkept⟩ := hkeeps commandId c hc (by rcases hstatus with hs | hs <;> simp [hs, finalStatuses])
      rw [CommandQueue.step, if_pos hok] at hc'
      simp only [CommandQueue.save, hcommands, AList.lookup_insert] at hc'
      obtain rfl := Option.some.inj hc'
      exact hnot hkept.symm
  · intro hopen
    change Settled q.plane (q.step (.acknowledge deviceId commandId now)).plane
    rw [CommandQueue.step]
    rcases acknowledgeCommand_spec (s := q.plane) deviceId commandId now with hsame | ⟨c, hc, hdevice, hunknown, hok, hcommands, -⟩
    · rw [hsame]
      exact fun id c hc _ => ⟨c, hc, rfl⟩
    · rw [if_pos hok]
      refine settled_insert hcommands fun c' hc' => ?_
      obtain ⟨hfailed, hexpired⟩ := hopen deviceId commandId now rfl c' hc' (by
        rw [hc] at hc'
        exact Option.some.inj hc' ▸ hdevice)
      have hnot : c'.status ≠ "acknowledged" := fun hs => hunknown ((h.sound.known commandId).mpr ⟨c', hc', hs⟩)
      simp [finalStatuses, hfailed, hexpired, hnot]

theorem keepsFinal_iff {q : CommandQueue} (h : Kept q) (e : QueueEvent) : KeepsFinal q e ↔ AcknowledgedOpen q e := by
  by_cases he : ∃ deviceId commandId now, e = .acknowledge deviceId commandId now
  · obtain ⟨deviceId, commandId, now, rfl⟩ := he
    exact keepsFinal_acknowledge h deviceId commandId now
  · push Not at he
    exact iff_of_true (h.sound.settled_acts (acts_step h he)) fun deviceId commandId now heq => absurd heq (he deviceId commandId now)

/-- Final statuses are final in a run just if no device acknowledges a command of its own that has failed or expired. -/
theorem keepsFinal_run_iff (events : List QueueEvent) :
    Meets KeepsFinal CommandQueue.step {} events ↔ Meets AcknowledgedOpen CommandQueue.step {} events :=
  meets_congr (I := Kept) (fun _ e h => h.step e) (fun _ e h => keepsFinal_iff h e) kept_empty events

/-- A device is registered, and a command for it expires. -/
def expiredRun : List QueueEvent :=
  [.others { devices := AList.insert "dev-1" { deviceId := "dev-1", organizationId := "org-1" } ∅ },
   .create "org-1" "dev-1" "restart" 100 20 3, .expire 121]

def statusOf (q : CommandQueue) (id : String) : Option String := (q.plane.commands.lookup id).map RemoteCommand.status

/-- The device acknowledges the command after it has expired. -/
theorem expired_then_acknowledged :
    ¬Meets KeepsFinal CommandQueue.step {} (expiredRun ++ [.acknowledge "dev-1" "cmd-1" 122]) := by
  intro h
  have hbefore : statusOf (expiredRun.foldl CommandQueue.step {}) "cmd-1" = some "expired" := by decide +kernel
  have hafter : statusOf ((expiredRun.foldl CommandQueue.step {}).step (.acknowledge "dev-1" "cmd-1" 122)) "cmd-1" =
      some "acknowledged" := by decide +kernel
  obtain ⟨c, hc, hstatus⟩ := Option.map_eq_some_iff.mp hbefore
  obtain ⟨c', hc', hkept⟩ := (meets_append.mp h).2.1 "cmd-1" c hc (by simp [hstatus, finalStatuses])
  rw [statusOf, hc', Option.map_some, hkept, hstatus] at hafter
  exact absurd hafter (by decide)

end Drawer.FleetControl
