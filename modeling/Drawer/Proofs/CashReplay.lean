import Drawer.Spec.CashStore

/-! Replayed cash events. The ids that were seen are those of the ledger, in a
service that ran all along and in one that was loaded from the store, so an entry is
marked if its caller marked it or if an entry before it in the ledger has its event
id. -/

namespace Drawer.Cash
open Json Text
open FleetControl (FleetControlPlane)

/-! ### Reading back -/

theorem denominations_read {b : DenominationBreakdown} {j : Json String} (h : denominationsJson b = .ok j) :
    readDenominations j = .ok b := by
  obtain ⟨members, hmembers, hj⟩ := of_bind_ok h
  obtain rfl := Except.ok.inj hj
  have hback : members.map (fun m => (bytesOf m.1, m.2)) = b := by
    have hread : members.mapM (fun m => (Except.ok (bytesOf m.1, m.2) : Except Exn _)) = .ok b := by
      refine mapM_read (fun item m hm => ?_) hmembers
      obtain ⟨name, hname, hm⟩ := of_bind_ok hm
      obtain rfl := Except.ok.inj hm
      rw [bytesOf_textOf hname]
    rw [mapM_ok (g := fun m : String × Int32 => (bytesOf m.1, m.2)) fun m _ => rfl] at hread
    exact Except.ok.inj hread
  have hobj : getObj getInt32 (Json.obj (members.map fun m => (m.1, Json.int m.2.toInt))) = .ok members :=
    getObj_map getInt32_int members
  rw [readDenominations, hobj, ok_bind, hback]
  rfl

theorem entry_read {v : CashLedgerEntry} {j : Json String} (h : v.toJson = .ok j) : CashLedgerEntry.fromJson j = .ok v := by
  obtain ⟨denominations, hd, hj⟩ := of_bind_ok h
  obtain rfl := Except.ok.inj hj
  simp only [CashLedgerEntry.fromJson, value_obj, member_cons, String.reduceEq, if_false, if_true, getStr_str, getBool_bool,
    getInt_int, denominations_read hd, ok_bind, pure_ok]

theorem inventory_read {v : DenominationInventory} {j : Json String} (h : v.toJson = .ok j) :
    DenominationInventory.fromJson j = .ok v := by
  obtain ⟨quantities, hq, hj⟩ := of_bind_ok h
  obtain rfl := Except.ok.inj hj
  simp [DenominationInventory.fromJson, value_obj, member_cons, denominations_read hq, ok_bind, pure_ok]

theorem report_read (v : ReconciliationReport) : ReconciliationReport.fromJson v.toJson = .ok v := by
  have hfindings : getArr getStr (texts v.findings) = .ok v.findings := getArr_map getStr_str v.findings
  simp [ReconciliationReport.fromJson, ReconciliationReport.toJson, value_obj, member_cons, hfindings, ok_bind, pure_ok]

theorem anomaly_read (v : CashAnomaly) : CashAnomaly.fromJson v.toJson = .ok v := by
  simp [CashAnomaly.fromJson, CashAnomaly.toJson, value_obj, member_cons, ok_bind, pure_ok]

theorem cashEvent_read (v : CashEvent) : CashEvent.fromJson v.toJson = .ok v := by
  simp [CashEvent.fromJson, CashEvent.toJson, value_obj, member_cons, ok_bind, pure_ok]

namespace CashIntelligenceService

/-- What a new process has of the service that saved its store. -/
structure Reloaded (fleet : Option FleetControlPlane) (s s' : CashIntelligenceService) : Prop where
  fleet : s'.fleet = fleet
  ledger : s'.ledger = s.ledger
  reports : s'.reports = s.reports
  anomalies : s'.anomalies = s.anomalies
  events : s'.events = s.events
  seenEventIds : s'.seenEventIds = (s.ledger.map CashLedgerEntry.eventId).filter fun i => i ≠ ""

/-- Loading a saved store comes down to the walk over the denomination sets, which decides nothing else. -/
theorem load_saved {s : CashIntelligenceService} {j : Json String} (h : s.saved = .ok j) (walk : Walk String)
    (fleet : Option FleetControlPlane) :
    ∃ (sets : Json String) (rest : List (String × Json String) → Except Exn CashIntelligenceService),
      load walk fleet j = (walk sets >>= rest) ∧ ∀ visited s', rest visited = .ok s' → Reloaded fleet s s' := by
  obtain ⟨ledger, hledger, h⟩ := of_bind_ok h
  obtain ⟨stocks, hstocks, h⟩ := of_bind_ok h
  obtain rfl := Except.ok.inj h
  have hledger' : getArr CashLedgerEntry.fromJson (.arr ledger) = .ok s.ledger := mapM_read (fun _ _ => entry_read) hledger
  have hstocks' : stocks.mapM DenominationInventory.fromJson = .ok (s.inventories.entries.map Sigma.snd) := by
    have hwritten : (s.inventories.entries.map Sigma.snd).mapM DenominationInventory.toJson = .ok stocks := by
      rw [List.mapM_map]
      exact hstocks
    exact mapM_read (fun _ _ => inventory_read) hwritten
  simp only [load, value_obj, member_cons, String.reduceEq, if_false, if_true, hledger', getArr_map report_read,
    getArr_map anomaly_read, getArr_map cashEvent_read, elements, hstocks', ok_bind]
  refine ⟨_, _, rfl, fun visited s' hrest => ?_⟩
  obtain ⟨sets, -, hrest⟩ := of_bind_ok hrest
  obtain rfl := Except.ok.inj hrest
  exact ⟨rfl, rfl, rfl, rfl, rfl, rfl⟩

theorem reloaded {s s' : CashIntelligenceService} {j : Json String} (h : s.saved = .ok j) {walk : Walk String}
    {fleet : Option FleetControlPlane} (hload : load walk fleet j = .ok s') : Reloaded fleet s s' := by
  obtain ⟨sets, rest, heq, hrest⟩ := load_saved h walk fleet
  obtain ⟨visited, -, hvisited⟩ := of_bind_ok (heq ▸ hload)
  exact hrest visited s' hvisited

end CashIntelligenceService

/-! ### Marked entries -/

/-- The ledger holds what was submitted, and an entry is marked as a duplicate just when its caller marked it or an entry
before it has its event id. -/
def Marked (ledger given : List CashLedgerEntry) : Prop :=
  ledger.length = given.length ∧
  ∀ i (h : i < ledger.length) (h' : i < given.length), ledger[i].eventId = given[i].eventId ∧
    (ledger[i].duplicate = true ↔ given[i].duplicate = true ∨
      ledger[i].eventId ≠ "" ∧ ∃ e ∈ ledger.take i, e.eventId = ledger[i].eventId)

theorem marked_append {ledger given : List CashLedgerEntry} (h : Marked ledger given) {stored e : CashLedgerEntry}
    (hid : stored.eventId = e.eventId)
    (hdup : stored.duplicate = true ↔ e.duplicate = true ∨ e.eventId ≠ "" ∧ ∃ e' ∈ ledger, e'.eventId = e.eventId) :
    Marked (ledger ++ [stored]) (given ++ [e]) := by
  obtain ⟨hlen, hentries⟩ := h
  refine ⟨by simp [hlen], fun i hi hi' => ?_⟩
  rw [List.length_append, List.length_singleton] at hi hi'
  by_cases hlast : i < ledger.length
  · simp only [List.getElem_append_left hlast, List.getElem_append_left (hlen ▸ hlast),
      List.take_append_of_le_length hlast.le]
    exact hentries i hlast (hlen ▸ hlast)
  · obtain rfl : i = ledger.length := by omega
    simp only [List.getElem_concat_length, List.take_left']
    rw [List.getElem_concat_length hlen, hid]
    exact ⟨rfl, hdup⟩

namespace CashRegister
open CashIntelligenceService

/-- The ids that were seen are those of the ledger. -/
def Seen (s : CashIntelligenceService) : Prop :=
  ∀ i, i ∈ s.seenEventIds ↔ i ≠ "" ∧ ∃ e ∈ s.ledger, e.eventId = i

/-- What the file holds is the ledger with its marks, unless it was emptied. -/
def Stored (given : List CashLedgerEntry) : StoreFile → Prop
  | .missing => given = []
  | .emptied => True
  | .holds j => ∃ s : CashIntelligenceService, s.saved = .ok j ∧ Marked s.ledger given

/-- What holds throughout a run. -/
structure Tracks (r : CashRegister) (given : List CashLedgerEntry) : Prop where
  service : ∀ s, r.service = some s → Marked s.ledger given ∧ Seen s
  stored : r.storePath ≠ "" → Stored given r.file

theorem marked_nil : Marked [] [] := ⟨rfl, fun _ h => nomatch h⟩

theorem seen_fresh (fleet : Option FleetControlPlane) : Seen (fresh fleet) := by
  intro i
  simp [fresh]

theorem saveLocked_service (r : CashRegister) (s : CashIntelligenceService) : (r.saveLocked s).service = some s := by
  unfold saveLocked
  split_ifs
  · rfl
  · split <;> rfl

theorem saveLocked_storePath (r : CashRegister) (s : CashIntelligenceService) :
    (r.saveLocked s).storePath = r.storePath := by
  unfold saveLocked
  split_ifs
  · rfl
  · split <;> rfl

theorem saveLocked_stored {r : CashRegister} (hpath : r.storePath ≠ "") {s : CashIntelligenceService}
    {given : List CashLedgerEntry} (h : Marked s.ledger given) : Stored given (r.saveLocked s).file := by
  unfold saveLocked
  rw [if_neg hpath]
  cases hsaved : s.saved with
  | ok j => exact ⟨s, hsaved, h⟩
  | error e => trivial

theorem saveLocked_file {r : CashRegister} (hpath : r.storePath ≠ "") (s : CashIntelligenceService) :
    (r.saveLocked s).file ≠ .missing := by
  unfold saveLocked
  rw [if_neg hpath]
  split <;> exact StoreFile.noConfusion

theorem addLedgerEntry_taken {s : CashIntelligenceService} {e : CashLedgerEntry} (h : (s.addLedgerEntry e).2 = true) :
    (s.addLedgerEntry e).1.ledger = s.ledger ++ [s.completed e] ∧
    (s.addLedgerEntry e).1.seenEventIds = if e.eventId = "" then s.seenEventIds else e.eventId :: s.seenEventIds := by
  unfold CashIntelligenceService.addLedgerEntry at h ⊢
  split_ifs at h ⊢ <;> exact ⟨rfl, rfl⟩

theorem seen_taken {s : CashIntelligenceService} (hs : Seen s) {e : CashLedgerEntry}
    (h : (s.addLedgerEntry e).2 = true) : Seen (s.addLedgerEntry e).1 := by
  intro i
  obtain ⟨hledger, hseen⟩ := addLedgerEntry_taken h
  have hid : (s.completed e).eventId = e.eventId := rfl
  rw [hledger, hseen]
  simp only [List.mem_append, List.mem_singleton, or_and_right, exists_or, exists_eq_left, hid]
  by_cases he : e.eventId = ""
  · rw [if_pos he, hs i]
    refine and_congr_right fun hi => ?_
    simp [he, Ne.symm hi]
  · rw [if_neg he, List.mem_cons, hs i]
    refine ⟨?_, ?_⟩
    · rintro (rfl | ⟨hi, he'⟩)
      · exact ⟨he, Or.inr rfl⟩
      · exact ⟨hi, Or.inl he'⟩
    · rintro ⟨hi, he' | rfl⟩
      · exact Or.inr ⟨hi, he'⟩
      · exact Or.inl rfl

theorem marked_taken {s : CashIntelligenceService} {given : List CashLedgerEntry} (hs : Seen s)
    (hmarked : Marked s.ledger given) {e : CashLedgerEntry} (h : (s.addLedgerEntry e).2 = true) :
    Marked (s.addLedgerEntry e).1.ledger (given ++ [e]) := by
  rw [(addLedgerEntry_taken h).1]
  refine marked_append hmarked rfl ?_
  simp only [completed, Bool.or_eq_true, Bool.and_eq_true, decide_eq_true_eq, hs e.eventId]
  tauto

/-! ### One turn -/

variable {r : CashRegister} {given : List CashLedgerEntry} {walk : Walk String}

theorem tracks_addLedgerEntry (h : Tracks r given) (e : CashLedgerEntry) :
    Tracks (r.addLedgerEntry e) (r.givenAfter given (.addLedgerEntry e)) := by
  unfold addLedgerEntry givenAfter
  cases hup : r.service with
  | none => simpa [hup] using h
  | some s =>
    cases htaken : (s.addLedgerEntry e).2 with
    | false => simpa [htaken] using h
    | true =>
      obtain ⟨hmarked, hseen⟩ := h.service s hup
      have hmarked' := marked_taken hseen hmarked htaken
      simp only [htaken, if_true, Option.any_some]
      refine ⟨fun s' hs' => ?_, fun hpath => ?_⟩
      · rw [saveLocked_service] at hs'
        obtain rfl := Option.some.inj hs'
        exact ⟨hmarked', seen_taken hseen htaken⟩
      · rw [saveLocked_storePath] at hpath
        exact saveLocked_stored hpath hmarked'

/-- A service that starts without a store knows nothing, and nothing was given. -/
theorem tracks_fresh {r : CashRegister} (hservice : r.service = some (fresh r.fleet))
    (hfile : r.storePath ≠ "" → r.file = .missing) : Tracks r [] := by
  refine ⟨fun s hs => ?_, fun hpath => ?_⟩
  · obtain rfl := Option.some.inj (hservice.symm.trans hs)
    exact ⟨marked_nil, seen_fresh r.fleet⟩
  · rw [hfile hpath]
    rfl

theorem toOption_some {α : Type} {x : Except Exn α} {a : α} (h : x.toOption = some a) : x = .ok a := by
  cases x with
  | error e => cases h
  | ok b => rw [Option.some.inj h]

theorem tracks_restart (h : Tracks r given) : Tracks (r.restart walk) (r.givenAfter given .restart) := by
  by_cases hpath : r.storePath = ""
  · have hgiven : r.givenAfter given .restart = [] := if_pos hpath
    rw [hgiven]
    exact tracks_fresh (if_pos hpath) fun hpath' => absurd hpath hpath'
  · have hgiven : r.givenAfter given .restart = given := if_neg hpath
    have hstored := h.stored hpath
    rw [hgiven]
    refine ⟨fun s' hs' => ?_, h.stored⟩
    replace hs' : r.started walk = some s' := hs'
    rw [started, if_neg hpath] at hs'
    cases hfile : r.file with
    | missing =>
      rw [hfile] at hs' hstored
      obtain rfl : given = [] := hstored
      obtain rfl := Option.some.inj hs'
      exact ⟨marked_nil, seen_fresh r.fleet⟩
    | emptied =>
      rw [hfile] at hs'
      cases hs'
    | holds j =>
      rw [hfile] at hs' hstored
      obtain ⟨s, hsaved, hmarked⟩ := hstored
      have hreloaded := reloaded hsaved (toOption_some hs')
      refine ⟨by rw [hreloaded.ledger]; exact hmarked, fun i => ?_⟩
      rw [hreloaded.seenEventIds, hreloaded.ledger, List.mem_filter, List.mem_map, and_comm]
      simp

/-! ### Runs -/

variable {storePath : String} {fleet : Option FleetControlPlane} {turns : List CashTurn}

theorem run_snoc (walk : Walk String) (storePath : String) (fleet : Option FleetControlPlane) (turns : List CashTurn)
    (turn : CashTurn) : run walk storePath fleet (turns ++ [turn]) =
      ((run walk storePath fleet turns).1.step walk turn,
        (run walk storePath fleet turns).1.givenAfter (run walk storePath fleet turns).2 turn) := by
  simp [run]

theorem tracks_run (walk : Walk String) (storePath : String) (fleet : Option FleetControlPlane) (turns : List CashTurn) :
    Tracks (run walk storePath fleet turns).1 (run walk storePath fleet turns).2 := by
  induction turns using List.reverseRecOn with
  | nil => exact tracks_fresh rfl fun _ => rfl
  | append_singleton turns turn ih =>
    rw [run_snoc]
    cases turn with
    | addLedgerEntry e => exact tracks_addLedgerEntry ih e
    | restart => exact tracks_restart ih

/-- As long as there is a service, its entries are marked right, whatever the walk visits. -/
theorem marked_run {s : CashIntelligenceService} (h : (run walk storePath fleet turns).1.service = some s) :
    Marked s.ledger (run walk storePath fleet turns).2 :=
  ((tracks_run walk storePath fleet turns).service s h).1

theorem addLedgerEntry_refused {e : CashLedgerEntry} (h : ∀ s, r.service = some s → (s.addLedgerEntry e).2 = false) :
    r.addLedgerEntry e = r := by
  unfold addLedgerEntry
  cases hup : r.service with
  | none => rfl
  | some s => simp [h s hup]

theorem addLedgerEntry_file {e : CashLedgerEntry} (hpath : r.storePath ≠ "") {s : CashIntelligenceService}
    (hup : r.service = some s) (htaken : (s.addLedgerEntry e).2 = true) : (r.addLedgerEntry e).file ≠ .missing := by
  unfold addLedgerEntry
  simp only [hup, htaken, if_true]
  exact saveLocked_file hpath _

theorem step_kept (walk : Walk String) (r : CashRegister) (turn : CashTurn) :
    (r.step walk turn).storePath = r.storePath ∧ (r.step walk turn).fleet = r.fleet := by
  cases turn with
  | restart => exact ⟨rfl, rfl⟩
  | addLedgerEntry e =>
    dsimp only [step, addLedgerEntry]
    split
    · exact ⟨rfl, rfl⟩
    · unfold saveLocked
      split_ifs
      · exact ⟨rfl, rfl⟩
      · split <;> exact ⟨rfl, rfl⟩
      · exact ⟨rfl, rfl⟩

theorem run_kept (walk : Walk String) (storePath : String) (fleet : Option FleetControlPlane) (turns : List CashTurn) :
    (run walk storePath fleet turns).1.storePath = storePath ∧ (run walk storePath fleet turns).1.fleet = fleet := by
  induction turns using List.reverseRecOn with
  | nil => exact ⟨rfl, rfl⟩
  | append_singleton turns turn ih =>
    rw [run_snoc]
    obtain ⟨hpath, hfleet⟩ := step_kept walk (run walk storePath fleet turns).1 turn
    exact ⟨hpath.trans ih.1, hfleet.trans ih.2⟩

/-- Once there is a file it stays. -/
theorem addLedgerEntry_stays {r : CashRegister} {e : CashLedgerEntry} (hpath : r.storePath ≠ "") (hfile : r.file ≠ .missing) :
    (r.addLedgerEntry e).file ≠ .missing := by
  cases hup : r.service with
  | none =>
    rw [addLedgerEntry_refused fun s hs => (nomatch hup.symm.trans hs)]
    exact hfile
  | some s =>
    cases htaken : (s.addLedgerEntry e).2 with
    | true => exact addLedgerEntry_file hpath hup htaken
    | false =>
      rw [addLedgerEntry_refused fun s' hs' => by rwa [← Option.some.inj (hup.symm.trans hs')]]
      exact hfile

/-- Nothing was taken by a service that has never held an entry. -/
def Untaken (fleet : Option FleetControlPlane) (turns : List CashTurn) : Prop :=
  ∀ e, .addLedgerEntry e ∈ turns → ((fresh fleet).addLedgerEntry e).2 = false

theorem untaken_snoc {fleet : Option FleetControlPlane} {turns : List CashTurn} {turn : CashTurn} :
    Untaken fleet (turns ++ [turn]) ↔
      Untaken fleet turns ∧ ∀ e, turn = .addLedgerEntry e → ((fresh fleet).addLedgerEntry e).2 = false := by
  simp only [Untaken, List.mem_append, List.mem_singleton]
  exact ⟨fun h => ⟨fun e he => h e (.inl he), fun e he => h e (.inr he.symm)⟩,
    fun h e he => he.elim (h.1 e) fun he => h.2 e he.symm⟩

/-- Until something is taken there is no file, and the service knows nothing; from then on there is one. -/
theorem untaken_iff (hpath : storePath ≠ "") (walk : Walk String) (fleet : Option FleetControlPlane)
    (turns : List CashTurn) :
    ((run walk storePath fleet turns).1.file = .missing ↔ Untaken fleet turns) ∧
    ((run walk storePath fleet turns).1.file = .missing →
      (run walk storePath fleet turns).1.service = some (fresh fleet)) := by
  induction turns using List.reverseRecOn with
  | nil => exact ⟨iff_of_true rfl fun e he => (nomatch he), fun _ => rfl⟩
  | append_singleton turns turn ih =>
    obtain ⟨ih, hfresh⟩ := ih
    obtain ⟨hpath', hfleet⟩ := run_kept walk storePath fleet turns
    rw [run_snoc]
    generalize (run walk storePath fleet turns).1 = r at *
    rw [untaken_snoc, ← ih]
    cases turn with
    | restart =>
      refine ⟨(and_iff_left fun e he => (nomatch he)).symm, fun hfile => ?_⟩
      replace hfile : r.file = .missing := hfile
      change r.started walk = _
      rw [started, if_neg (hpath' ▸ hpath), hfile, hfleet]
    | addLedgerEntry e =>
      change ((r.addLedgerEntry e).file = .missing ↔ _) ∧ ((r.addLedgerEntry e).file = .missing →
        (r.addLedgerEntry e).service = some (fresh fleet))
      by_cases hfile : r.file = .missing
      · cases htaken : ((fresh fleet).addLedgerEntry e).2 with
        | true =>
          have hwritten := addLedgerEntry_file (hpath' ▸ hpath) (hfresh hfile) htaken
          refine ⟨iff_of_false hwritten fun h => ?_, fun h => absurd h hwritten⟩
          exact Bool.noConfusion (htaken.symm.trans (h.2 e rfl))
        | false =>
          have hsame : r.addLedgerEntry e = r :=
            addLedgerEntry_refused fun s hs => by rwa [← Option.some.inj ((hfresh hfile).symm.trans hs)]
          rw [hsame]
          refine ⟨iff_of_true hfile ⟨hfile, fun e' he' => ?_⟩, fun _ => hfresh hfile⟩
          rwa [← CashTurn.addLedgerEntry.inj he']
      · have hkept : (r.addLedgerEntry e).file ≠ .missing := addLedgerEntry_stays (hpath' ▸ hpath) hfile
        exact ⟨iff_of_false hkept fun h => hfile h.1, fun h => absurd h hkept⟩

/-! ### A store that cannot be walked -/

/-- After the run there is a service, and its entries are marked right. -/
def Recognised (walk : Walk String) (storePath : String) (fleet : Option FleetControlPlane) (turns : List CashTurn) : Prop :=
  ∃ s, (run walk storePath fleet turns).1.service = some s ∧ Marked s.ledger (run walk storePath fleet turns).2

/-- No new process finds a store: there is no path for one, or nothing was taken before. -/
def NothingToLoad (storePath : String) (fleet : Option FleetControlPlane) (turns : List CashTurn) : Prop :=
  storePath = "" ∨ ∀ before after, turns = before ++ .restart :: after → Untaken fleet before

theorem NothingToLoad.init {turn : CashTurn} (h : NothingToLoad storePath fleet (turns ++ [turn])) :
    NothingToLoad storePath fleet turns :=
  h.imp id fun h before after hsplit => h before (after ++ [turn]) (by simp [hsplit])

/-- A run in which no new process finds a store keeps its service. -/
theorem up_run (h : NothingToLoad storePath fleet turns) (walk : Walk String) :
    ∃ s, (run walk storePath fleet turns).1.service = some s := by
  induction turns using List.reverseRecOn with
  | nil => exact ⟨_, rfl⟩
  | append_singleton turns turn ih =>
    obtain ⟨s, hup⟩ := ih h.init
    obtain ⟨hpath, hfleet⟩ := run_kept walk storePath fleet turns
    have hmissing := fun hne : storePath ≠ "" => (untaken_iff hne walk fleet turns).1
    rw [run_snoc]
    generalize (run walk storePath fleet turns).1 = r at *
    cases turn with
    | addLedgerEntry e =>
      cases htaken : (s.addLedgerEntry e).2 with
      | false =>
        refine ⟨s, ?_⟩
        change (r.addLedgerEntry e).service = _
        rwa [addLedgerEntry_refused fun s' hs' => by rwa [← Option.some.inj (hup.symm.trans hs')]]
      | true =>
        refine ⟨(s.addLedgerEntry e).1, ?_⟩
        change (r.addLedgerEntry e).service = _
        simp only [addLedgerEntry, hup, htaken, if_true]
        exact saveLocked_service _ _
    | restart =>
      refine ⟨fresh r.fleet, ?_⟩
      change r.started walk = _
      rw [started]
      split_ifs with hne
      · rfl
      · rw [(hmissing (hpath ▸ hne)).mpr (h.resolve_left (hpath ▸ hne) turns [] rfl)]

/-- Once there is a file, a new process whose walk throws has no service, and neither has any after it. -/
theorem down_run (hpath : storePath ≠ "") {before : List CashTurn} (hbefore : ¬Untaken fleet before)
    (after : List CashTurn) :
    (run raises storePath fleet (before ++ .restart :: after)).1.service = none ∧
    (run raises storePath fleet (before ++ .restart :: after)).1.file ≠ .missing := by
  have hdown : ∀ turns : List CashTurn, (run raises storePath fleet turns).1.file ≠ .missing →
      (run raises storePath fleet (turns ++ [.restart])).1.service = none ∧
      (run raises storePath fleet (turns ++ [.restart])).1.file ≠ .missing := by
    intro turns hfile
    have htracks := (tracks_run raises storePath fleet turns).stored
    obtain ⟨hpath', -⟩ := run_kept raises storePath fleet turns
    rw [run_snoc]
    generalize (run raises storePath fleet turns).1 = r at *
    refine ⟨?_, hfile⟩
    change r.started raises = none
    rw [started, if_neg (hpath' ▸ hpath)]
    cases hj : r.file with
    | missing => exact absurd hj hfile
    | emptied => rfl
    | holds j =>
      have hstored := htracks (hpath' ▸ hpath)
      rw [hj] at hstored
      obtain ⟨s, hsaved, -⟩ := hstored
      obtain ⟨sets, rest, hload, -⟩ := load_saved hsaved raises r.fleet
      dsimp only
      rw [hload]
      rfl
  induction after using List.reverseRecOn with
  | nil => exact hdown before fun h => hbefore ((untaken_iff hpath raises fleet before).1.mp h)
  | append_singleton after turn ih =>
    rw [← List.cons_append, ← List.append_assoc]
    cases turn with
    | restart => exact hdown _ ih.2
    | addLedgerEntry e =>
      rw [run_snoc]
      have hsame := addLedgerEntry_refused (r := (run raises storePath fleet (before ++ .restart :: after)).1) (e := e)
        fun s hs => (nomatch ih.1.symm.trans hs)
      change (addLedgerEntry _ e).service = none ∧ (addLedgerEntry _ e).file ≠ .missing
      rw [hsame]
      exact ih

/-- Over a run of entries, taken or refused, and new processes, there is a service whose entries are marked as duplicates
just when they are, whatever the walk over the lost denomination sets does, if and only if no new process finds a store. -/
theorem duplicate_iff (storePath : String) (fleet : Option FleetControlPlane) (turns : List CashTurn) :
    (∀ walk, Recognised walk storePath fleet turns) ↔ NothingToLoad storePath fleet turns := by
  refine ⟨fun h => ?_, fun h walk => ?_⟩
  · by_contra hload
    simp only [NothingToLoad, not_or, not_forall] at hload
    obtain ⟨hpath, before, after, rfl, hbefore⟩ := hload
    obtain ⟨s, hup, -⟩ := h raises
    exact nomatch (down_run hpath hbefore after).1.symm.trans hup
  · obtain ⟨s, hup⟩ := up_run h walk
    exact ⟨s, hup, marked_run hup⟩

def firstSale : CashLedgerEntry := { eventId := "txn-1", deviceId := "dev-1", currency := "KES" }

/-- A sale is stored, and a new process starts. -/
theorem reload_raises : ¬∀ walk, Recognised walk "cash.json" none [.addLedgerEntry firstSale, .restart] := by
  intro h
  obtain ⟨s, hup, -⟩ := h raises
  have hdown : (run raises "cash.json" none [.addLedgerEntry firstSale, .restart]).1.service.isNone = true := by
    decide +kernel
  rw [hup] at hdown
  cases hdown

/-- Were the sets walked as was meant, the sale would be known again: it is submitted once more after a new process has
started, and between them an entry is refused. -/
example : (run members "cash.json" none [.addLedgerEntry firstSale, .addLedgerEntry { firstSale with deviceId := "" },
      .restart, .addLedgerEntry { firstSale with deviceId := "dev-2" }]).1.service.map
        (fun s => s.ledger.map CashLedgerEntry.duplicate) = some [false, true] := by
  decide +kernel

end CashRegister
end Drawer.Cash
