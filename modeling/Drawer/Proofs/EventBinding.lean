import Drawer.Proofs.CommandIds
import Drawer.Proofs.EventChain
import Drawer.Proofs.Lifecycle

/-! What the last hash of an event log says. The hash of an event covers every one
of its fields, the hash before it among them, so a log that replays as valid is
determined by its last hash. -/

namespace Drawer.FleetOps
open FleetOperationsService HashChain

variable {ω : Type} {env : Env ω}

/-- What is hashed of an event. -/
def hashedFields (e : FleetOperationEvent) : Json String :=
  .obj [("sequence", .int e.sequence), ("event_id", .str e.eventId), ("tenant_id", .str e.tenantId),
    ("device_id", .str e.deviceId), ("event_type", .str e.eventType), ("occurred_at", .int e.occurredAt),
    ("payload", e.payload), ("previous_hash", .str e.previousHash)]

theorem eventHash_eq (e : FleetOperationEvent) :
    eventHash env e = env.digest.sha256Hex (env.digest.dump (hashedFields e)) := rfl

/-- Only an event's own hash is not hashed. -/
theorem eq_of_hashedFields {e e' : FleetOperationEvent} (h : hashedFields e = hashedFields e')
    (hhash : e.eventHash = e'.eventHash) : e = e' := by
  cases e
  cases e'
  simp only [hashedFields, Json.obj.injEq, List.cons.injEq, Prod.mk.injEq, Json.int.injEq, Json.str.injEq, true_and,
    and_true] at h
  obtain ⟨hsequence, hid, htenant, hdevice, htype, htime, hpayload, hprevious⟩ := h
  subst hsequence hid htenant hdevice htype htime hpayload hprevious hhash
  rfl

/-- The JSON values that are hashed for the events of a log. -/
def hashedValues (log : List FleetOperationEvent) : Set (Json String) := {j | ∃ e ∈ log, hashedFields e = j}

/-- Where neither the JSON writer nor SHA-256 confuses two events of the logs, two valid logs that end with the same
hash are the same. -/
theorem log_unique {log log' : List FleetOperationEvent} (hdump : Set.InjOn env.digest.dump (hashedValues (log ++ log')))
    (hsha : Set.InjOn env.digest.sha256Hex (env.digest.dump '' hashedValues (log ++ log'))) {tenantId tenantId' : String}
    (hvalid : (replay env log tenantId).valid = true) (hvalid' : (replay env log' tenantId').valid = true) (hne : log ≠ [])
    (hne' : log' ≠ [])
    (hlast : log.getLast?.map FleetOperationEvent.eventHash = log'.getLast?.map FleetOperationEvent.eventHash) :
    log = log' := by
  have hvalue : ∀ e ∈ log ++ log', hashedFields e ∈ hashedValues (log ++ log') := fun e he => ⟨e, he, rfl⟩
  refine (replay_valid_iff.mp hvalid).unique (replay_valid_iff.mp hvalid') ?_ hne hne' ?_
  · intro e he e' he' hhash hdigest
    have hin := hvalue e (List.mem_append_left _ he)
    have hin' := hvalue e' (List.mem_append_right _ he')
    have htext := hsha ⟨_, hin, rfl⟩ ⟨_, hin', rfl⟩ ((eventHash_eq e).symm.trans (hdigest.trans (eventHash_eq e')))
    exact eq_of_hashedFields (hdump hin hin' htext) hhash
  · exact congrArg (fun h => h.getD "") hlast

/-! ### The log of a registry -/

/-- The log of a registry with nothing attached: a device is enrolled and quarantined. -/
def sampleLog : List FleetOperationEvent :=
  (run bareEnv () [.enroll sampleDevice "operator" 100, .quarantine "org-1" "dev-1" "" 110]).events

theorem sampleLog_length : sampleLog.length = 2 := by decide +kernel

theorem sampleLog_distinct : (sampleLog.map (eventHash bareEnv)).Nodup := by decide +kernel

theorem sampleLog_valid (tenantId : String) : (replay bareEnv sampleLog tenantId).valid = true :=
  replay_valid_iff.mpr (intact_run bareEnv () _)

theorem sampleLog_injective : ∀ e ∈ sampleLog ++ sampleLog, ∀ e' ∈ sampleLog ++ sampleLog,
    eventHash bareEnv e = eventHash bareEnv e' → e = e' := by
  intro e he e' he'
  rw [List.mem_append, or_self] at he he'
  exact List.inj_on_of_nodup_map sampleLog_distinct he he'

theorem log_unique_sample : sampleLog ≠ [] ∧ sampleLog = sampleLog := by
  have hne : sampleLog ≠ [] := List.ne_nil_of_length_pos (by rw [sampleLog_length]; decide)
  refine ⟨hne, log_unique ?_ ?_ (sampleLog_valid "org-1") (sampleLog_valid "org-2") hne hne rfl⟩
  · rintro _ ⟨e, he, rfl⟩ _ ⟨e', he', rfl⟩ h
    rw [sampleLog_injective e he e' he' (congrArg bareEnv.digest.sha256Hex h)]
  · rintro _ ⟨_, ⟨e, he, rfl⟩, rfl⟩ _ ⟨_, ⟨e', he', rfl⟩, rfl⟩ h
    rw [sampleLog_injective e he e' he' h]

end Drawer.FleetOps
