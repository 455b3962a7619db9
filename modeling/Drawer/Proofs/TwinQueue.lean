import Drawer.Proofs.ContractServer
import Drawer.Sanity.Twin
import Drawer.Spec.TwinFlush

/-! The offline queue and a twin that the server will never take. The loop stops
at the first refusal, whatever the reason, so such a twin at the head keeps back
all that stand behind it. -/

namespace Drawer.Twin
open Json

/-! ### The server -/

namespace TwinContractServer

theorem postTwin_status (s : TwinContractServer) (req : Request) :
    (s.postTwin req).2.status = 200 ∨ 300 ≤ (s.postTwin req).2.status := by
  unfold postTwin
  split
  · exact Or.inr (by simp)
  · split
    · exact Or.inr (by simp)
    · split
      · exact Or.inr (by simp)
      · split
        · exact Or.inr (by simp)
        · exact Or.inl rfl

def took (s : TwinContractServer) (twin : DrawerTwin) : TwinContractServer := s.store (synced twin.reread)

theorem incoming_ok {auth id : String} {j j' : Json String} (h : j.member "twin" = some j') :
    incoming ⟨auth, id, .ok j⟩ = DrawerTwin.fromJson j' := by
  simp only [incoming, ok_bind, h]

theorem incoming_pushBody (auth id : String) (twin : DrawerTwin) :
    incoming ⟨auth, id, .ok (HttpDeviceTwinClient.pushBody twin)⟩ = .ok twin.reread := by
  have hmember : (HttpDeviceTwinClient.pushBody twin).member "twin" = some twin.toJson := by
    simp only [HttpDeviceTwinClient.pushBody, member_cons, if_true]
  exact (incoming_ok hmember).trans (twin_read twin)

theorem takes_reread (s : TwinContractServer) (id : String) (twin : DrawerTwin) :
    s.takes id twin.reread = s.takes id twin := by
  rw [Bool.eq_iff_iff, takes_iff, takes_iff]
  exact Iff.rfl

/-- What a taken twin leaves acceptable. -/
theorem takes_took {s : TwinContractServer} {u twin : DrawerTwin} (hu : s.takes u.drawerId u = true) :
    (s.took u).takes twin.drawerId twin = true ↔
      s.takes twin.drawerId twin = true ∧ (u.drawerId = twin.drawerId → u.revision < twin.revision) := by
  have hget : (s.took u).get twin.drawerId = if twin.drawerId = u.drawerId then some (synced u.reread) else s.get twin.drawerId :=
    get_store s _ _
  by_cases hid : twin.drawerId = u.drawerId
  · rw [takes_iff, takes_iff, hget, if_pos hid]
    rw [takes_iff, ← hid] at hu
    refine ⟨fun ⟨hdis, hnew⟩ => ?_, fun ⟨⟨hdis, _⟩, hrev⟩ => ⟨hdis, ?_⟩⟩
    · have hlt : u.revision < twin.revision := (hnew _ rfl).2
      refine ⟨⟨hdis, fun stored hstored => ?_⟩, fun _ => hlt⟩
      exact ⟨(hu.2 stored hstored).1, Int32.lt_trans (hu.2 stored hstored).2 hlt⟩
    · rintro stored h
      obtain rfl := Option.some.inj h
      exact ⟨hu.1, hrev hid.symm⟩
  · rw [takes_iff, takes_iff, hget, if_neg hid]
    exact ⟨fun h => ⟨h, fun h' => absurd h'.symm hid⟩, fun h => h.1⟩

/-- The twin is new to the server, also when it has taken `earlier`. -/
def Fresh (s : TwinContractServer) (earlier : List DrawerTwin) (twin : DrawerTwin) : Prop :=
  s.takes twin.drawerId twin = true ∧ ∀ u ∈ earlier, u.drawerId = twin.drawerId → u.revision < twin.revision

/-- Each twin is new to the server when those before it have been taken. -/
def FreshInTurn (s : TwinContractServer) (twins : List DrawerTwin) : Prop :=
  ∀ earlier twin later, twins = earlier ++ twin :: later → s.Fresh earlier twin

theorem fresh_cons {s : TwinContractServer} {u : DrawerTwin} {earlier : List DrawerTwin} {twin : DrawerTwin}
    (hu : s.takes u.drawerId u = true) : s.Fresh (u :: earlier) twin ↔ (s.took u).Fresh earlier twin := by
  simp [Fresh, takes_took hu, and_assoc]

theorem freshInTurn_nil (s : TwinContractServer) : s.FreshInTurn [] := by
  intro earlier twin later h
  simp at h

theorem freshInTurn_cons {s : TwinContractServer} {u : DrawerTwin} {twins : List DrawerTwin} :
    s.FreshInTurn (u :: twins) ↔ s.takes u.drawerId u = true ∧ (s.took u).FreshInTurn twins := by
  refine ⟨fun h => ?_, fun ⟨hu, h⟩ => ?_⟩
  · have hu := (h [] u twins rfl).1
    exact ⟨hu, fun earlier twin later heq => (fresh_cons hu).mp (h (u :: earlier) twin later (by rw [heq]; rfl))⟩
  · intro earlier twin later heq
    cases earlier with
    | nil =>
      obtain ⟨rfl, -⟩ := List.cons.inj heq
      exact ⟨hu, by simp⟩
    | cons v earlier =>
      obtain ⟨rfl, htail⟩ := List.cons.inj heq
      exact (fresh_cons hu).mpr (h earlier twin later htail)

theorem takes_foldl {s : TwinContractServer} {sent : List DrawerTwin} (h : s.FreshInTurn sent) (twin : DrawerTwin) :
    (sent.foldl took s).takes twin.drawerId twin = true ↔ s.Fresh sent twin := by
  induction sent generalizing s with
  | nil => simp [Fresh]
  | cons u sent ih =>
    obtain ⟨hu, hrest⟩ := freshInTurn_cons.mp h
    rw [List.foldl_cons, ih hrest, fresh_cons hu]

end TwinContractServer

/-! ### The client -/

namespace HttpDeviceTwinClient
open TwinContractServer

variable {network : Network TwinContractServer} {c : HttpDeviceTwinClient TwinContractServer}

theorem parseSyncResponse_taken (network : Network TwinContractServer) (twin : DrawerTwin) :
    (parseSyncResponse network (some ⟨200, .text (.ok (twinReply twin))⟩)).ok = true := by
  have hreason : (twinReply twin).value "reason" getStr "" = .ok "" := by
    simp [twinReply, value_obj, member]
  have htwin : (twinReply twin).present "twin" DrawerTwin.fromJson {} = .ok twin.reread := by
    simp only [twinReply, present, member_cons, String.reduceEq, if_false, if_true, twin_read]
  simp [parseSyncResponse, hreason, htwin, ok_bind, pure_ok]

theorem parseSyncResponse_refused (network : Network TwinContractServer) (body : HttpBody) {status : ℕ} (h : 300 ≤ status) :
    (parseSyncResponse network (some ⟨status, body⟩)).ok = false := by
  have hstatus : ¬ ((status : Int) < 300) := by omega
  unfold parseSyncResponse
  dsimp only
  split
  · rfl
  · split
    · rfl
    · split
      · rfl
      · split
        · rfl
        · simp [hstatus]

theorem answerPost_cases (network : Network TwinContractServer) (s : TwinContractServer) {auth id : String}
    (hauth : ∀ body, s.authorized ⟨auth, id, body⟩ = true) (twin : DrawerTwin) :
    let answer := s.answerPost ⟨auth, id, .ok (pushBody twin)⟩
    (parseSyncResponse network answer.1).ok = s.takes id twin ∧
      answer.2 = if s.takes id twin then s.took twin else s := by
  rcases postTwin_cases s ⟨auth, id, .ok (pushBody twin)⟩ with ⟨twin', -, hin, htakes, heq⟩ | ⟨hno, hsame, hstatus⟩
  · obtain rfl := Except.ok.inj ((incoming_pushBody auth id twin).symm.trans hin)
    rw [takes_reread] at htakes
    simp [answerPost, heq, htakes, parseSyncResponse_taken, took]
  · have htakes := hno _ (hauth _) (incoming_pushBody auth id twin)
    rw [takes_reread] at htakes
    have hlarge := (postTwin_status s ⟨auth, id, .ok (pushBody twin)⟩).resolve_left hstatus
    simp [answerPost, hsame, htakes, parseSyncResponse_refused network _ hlarge]

/-- One push of a queued twin. -/
theorem pushNow_reaches (h : c.Reaches network) {t : DrawerTwin} (ht : t ∈ c.offlineQueue) :
    ∃ out, out.ok = c.net.takes t.drawerId t ∧
      c.pushNow network t = (.ok out, { c with net := if out.ok then c.net.took t else c.net }) := by
  obtain ⟨ep, hep⟩ := h.endpoint
  obtain ⟨hok, hnet⟩ := answerPost_cases network c.net (fun body => h.authorized t.drawerId body) t
  have hsend := h.posts c.net ep c.authHeaders t ht
  simp only [pushBody] at hsend hok hnet
  simp only [pushNow, call, hep, hsend]
  set answer := c.net.answerPost ⟨c.authHeaders.getD "", t.drawerId,
    .ok (.obj [("twin", t.toJson), ("revision", .int t.revision.toInt)])⟩ with hanswer
  set out := parseSyncResponse network answer.1 with hout
  have hsame : (if out.twin.drawerId = "" then { out with twin := t } else out).ok = c.net.takes t.drawerId t := by
    rw [← hok]
    split <;> rfl
  exact ⟨_, hsame, by rw [hsame, hnet]⟩

theorem Reaches.next (h : c.Reaches network) (now : String) {next : DrawerTwin} {rest : List DrawerTwin}
    (hqueue : c.offlineQueue = next :: rest) : (popFront now { c with net := c.net.took next }).Reaches network where
  endpoint := h.endpoint
  authorized := h.authorized
  posts s ep auth twin htwin := by
    refine h.posts s ep auth twin ?_
    simp only [popFront, hqueue, List.tail_cons] at htwin
    exact hqueue ▸ List.mem_cons_of_mem next htwin

/-- The loop sends the twins that are new in their turn, and stops at the first that is not. -/
theorem flushLoop_spec (now : ℕ → String) (h : c.Reaches network) {queue : List DrawerTwin} (hqueue : c.offlineQueue = queue)
    (flushed : ℕ) : ∃ sent left, queue = sent ++ left ∧ c.net.FreshInTurn sent ∧
      (∀ twin ∈ left.head?, ¬ c.net.Fresh sent twin) ∧ (flushLoop network now queue flushed c).1 = .ok (flushed + sent.length) ∧
      (flushLoop network now queue flushed c).2.offlineQueue = left ∧
      (flushLoop network now queue flushed c).2.net = sent.foldl took c.net := by
  induction queue generalizing c flushed with
  | nil => exact ⟨[], [], rfl, freshInTurn_nil _, by simp, rfl, hqueue, rfl⟩
  | cons next rest ih =>
    obtain ⟨out, hout, hpush⟩ := pushNow_reaches h (t := next) (by simp [hqueue])
    cases htakes : c.net.takes next.drawerId next with
    | false =>
      rw [htakes] at hout
      refine ⟨[], next :: rest, rfl, freshInTurn_nil _, ?_, ?_⟩
      · simp [Fresh, htakes]
      · simp [flushLoop, hpush, hout, hqueue]
    | true =>
      rw [htakes] at hout
      obtain ⟨sent, left, hsplit, hfresh, hstop, hres, hleft, hnet⟩ :=
        ih (h.next (now flushed) hqueue) (by simp [popFront, hqueue]) (flushed + 1)
      refine ⟨next :: sent, left, by rw [hsplit]; rfl, freshInTurn_cons.mpr ⟨htakes, hfresh⟩, ?_, ?_⟩
      · exact fun twin htwin hfr => hstop twin htwin ((fresh_cons htakes).mp hfr)
      · simp only [flushLoop, hpush, hout, if_true]
        refine ⟨?_, hleft, hnet⟩
        rw [hres, List.length_cons]
        congr 1
        omega

/-- No twin that the server would take stands behind one that it refuses. -/
def Unblocked (c : HttpDeviceTwinClient TwinContractServer) : Prop :=
  ∀ before dead mid live after, c.offlineQueue = before ++ dead :: (mid ++ live :: after) →
    c.net.takes dead.drawerId dead = false → c.net.takes live.drawerId live = false

/-- The twins the server would never take are the last of the queue. -/
def DeadLast (s : TwinContractServer) (queue : List DrawerTwin) : Prop :=
  ∃ alive dead, queue = alive ++ dead ∧ s.FreshInTurn alive ∧ ∀ twin ∈ dead, ¬ s.Fresh alive twin

theorem sent_eq {s : TwinContractServer} {alive dead sent left : List DrawerTwin} (hsplit : alive ++ dead = sent ++ left)
    (halive : s.FreshInTurn alive) (hdead : ∀ twin ∈ dead, ¬ s.Fresh alive twin) (hsent : s.FreshInTurn sent)
    (hstop : ∀ twin ∈ left.head?, ¬ s.Fresh sent twin) : alive = sent ∧ dead = left := by
  rcases List.append_eq_append_iff.mp hsplit with ⟨more, rfl, rfl⟩ | ⟨more, rfl, rfl⟩
  · cases more with
    | nil => exact ⟨by simp, by simp⟩
    | cons twin more => exact absurd (hsent alive twin more rfl) (hdead twin (by simp))
  · cases more with
    | nil => exact ⟨by simp, by simp⟩
    | cons twin more => exact absurd (halive sent twin more rfl) (hstop twin (by simp))

/-- After a flush no acceptable twin is blocked, just when the twins the server would never take were the last of the
queue. -/
theorem unblocked_iff (now : ℕ → String) (h : c.Reaches network) :
    (c.flushOfflineQueue network now).2.Unblocked ↔ DeadLast c.net c.offlineQueue := by
  obtain ⟨sent, left, hsplit, hfresh, hstop, -, hleft, hnet⟩ := flushLoop_spec now h rfl 0
  have htakes : ∀ twin, (c.flushOfflineQueue network now).2.net.takes twin.drawerId twin = true ↔ c.net.Fresh sent twin := by
    intro twin
    rw [flushOfflineQueue, hnet]
    exact takes_foldl hfresh twin
  unfold Unblocked
  rw [show (c.flushOfflineQueue network now).2.offlineQueue = left from hleft]
  refine ⟨fun hun => ⟨sent, left, hsplit, hfresh, fun twin htwin => ?_⟩, ?_⟩
  · cases left with
    | nil => simp at htwin
    | cons head tail =>
      have hhead : ¬ c.net.Fresh sent head := hstop head (by simp)
      rcases List.mem_cons.mp htwin with rfl | htail
      · exact hhead
      · obtain ⟨mid, after, rfl⟩ := List.append_of_mem htail
        have hlive := hun [] head mid twin after rfl (by rwa [Bool.eq_false_iff, Ne, htakes])
        rwa [Bool.eq_false_iff, Ne, htakes] at hlive
  · rintro ⟨alive, dead, hqueue, halive, hdead⟩ before d mid live after heq -
    obtain ⟨rfl, rfl⟩ := sent_eq (hqueue.symm.trans hsplit) halive hdead hfresh hstop
    rw [Bool.eq_false_iff, Ne, htakes]
    exact hdead live (by simp [heq])

/-! ### A blocked queue -/

/-- The contract server behind its route for pushes. -/
def contractNetwork : Network TwinContractServer where
  send s _ call :=
    let id := String.ofList (call.path.toList.drop 24)
    match call.body with
    | some body =>
      if id = "" ∨ '/' ∈ id.toList then (some { status := 404 }, s)
      else s.answerPost ⟨call.authorization.getD "", id, .ok body⟩
    | none => (some { status := 404 }, s)
  what _ := ""

theorem contractNetwork_posts (s : TwinContractServer) (ep : Endpoint) (auth : Option String) {twin : DrawerTwin}
    (hid : twin.drawerId ≠ "" ∧ '/' ∉ twin.drawerId.toList) :
    contractNetwork.send s ep ⟨"/control-plane/v1/twins/" ++ twin.drawerId, auth, some (pushBody twin)⟩ =
      s.answerPost ⟨auth.getD "", twin.drawerId, .ok (pushBody twin)⟩ := by
  have hpath : String.ofList (("/control-plane/v1/twins/" ++ twin.drawerId).toList.drop 24) = twin.drawerId := by
    rw [String.toList_append]
    simp
  simp only [contractNetwork, hpath]
  rw [if_neg (by simpa [not_or] using hid)]

/-- A client whose queue is for a server that has drawer `d1` at revision 2. -/
def queued (twins : List DrawerTwin) : HttpDeviceTwinClient TwinContractServer where
  config := { baseUrl := Text.ascii "http://cloud" }
  offlineQueue := twins
  net := ({} : TwinContractServer).store { drawerId := "d1", revision := 2 }

theorem queued_reaches {twins : List DrawerTwin} (h : ∀ twin ∈ twins, twin.drawerId ≠ "" ∧ '/' ∉ twin.drawerId.toList) :
    (queued twins).Reaches contractNetwork where
  endpoint := ⟨_, rfl⟩
  authorized _ _ := rfl
  posts s ep auth twin htwin := contractNetwork_posts s ep auth (h twin htwin)

def twinAt (drawerId : String) (revision : Int32) : DrawerTwin := { drawerId, revision }

theorem unblocked_iff_newer :
    ((queued [twinAt "d1" 3, twinAt "d2" 1]).flushOfflineQueue contractNetwork fun _ => "now").2.Unblocked := by
  refine (unblocked_iff (fun _ => "now") (queued_reaches (by simp [twinAt]))).mpr ⟨_, [], (List.append_nil _).symm, ?_, by simp⟩
  exact freshInTurn_cons.mpr ⟨by decide +kernel, freshInTurn_cons.mpr ⟨by decide +kernel, freshInTurn_nil _⟩⟩

/-- `d1` was pushed at revision 2 while its revision 1 was queued; now `d2` waits behind it for ever. -/
theorem blocked_by_conflict : ¬ ∀ (network : Network TwinContractServer) (now : ℕ → String)
    (c : HttpDeviceTwinClient TwinContractServer), c.Reaches network → (c.flushOfflineQueue network now).2.Unblocked := by
  intro hclaim
  let c := queued [twinAt "d1" 1, twinAt "d2" 1]
  have hreaches : c.Reaches contractNetwork := queued_reaches (by simp [twinAt])
  have hdead : c.net.takes "d1" (twinAt "d1" 1) = false := by decide +kernel
  have hlive : c.net.takes "d2" (twinAt "d2" 1) = true := by decide +kernel
  obtain ⟨out, hout, hpush⟩ := pushNow_reaches hreaches (t := twinAt "d1" 1) (by simp [c, queued])
  rw [show (twinAt "d1" 1).drawerId = "d1" from rfl, hdead] at hout
  have hflush : (c.flushOfflineQueue contractNetwork fun _ => "now").2 = c := by
    show (flushLoop contractNetwork (fun _ => "now") (twinAt "d1" 1 :: [twinAt "d2" 1]) 0 c).2 = c
    simp [flushLoop, hpush, hout]
  have hun := hclaim contractNetwork (fun _ => "now") c hreaches
  rw [hflush] at hun
  have hrefused := hun [] (twinAt "d1" 1) [] (twinAt "d2" 1) [] rfl hdead
  rw [show (twinAt "d2" 1).drawerId = "d2" from rfl, hlive] at hrefused
  cases hrefused

end HttpDeviceTwinClient
end Drawer.Twin
