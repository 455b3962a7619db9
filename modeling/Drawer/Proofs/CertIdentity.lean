import Drawer.Lib.Transition
import Drawer.Spec.CertIdentity

/-! Which certificates are accepted, over any number of processes. What a call does to the file is followed access by access,
so that what holds after each of them is found by a process that starts there. -/

namespace Drawer.Cert
open Text Effect Json Transition

variable {m m' : Identities} {file : StoreFile} {f g : Bytes}

/-! ### Loading -/

theorem identity_read (v : CertificateIdentity) : CertificateIdentity.fromJson v.toJson = .ok v := by
  rfl

/-- An identity stands under its own fingerprint. -/
def Keyed (m : Identities) : Prop := ∀ f v, m.lookup f = some v → v.fingerprintSha256 = f

theorem Keyed.insert (h : Keyed m) (v : CertificateIdentity) : Keyed (m.insert v.fingerprintSha256 v) := by
  intro f w hw
  rw [Dict.lookup_insert_if] at hw
  split_ifs at hw with hf
  · rw [hf, Option.some.inj hw]
  · exact h f w hw

theorem keyed_empty : Keyed ∅ := fun _ _ h => nomatch h

theorem keyed_loadItems (js : List (Json Bytes)) (h : Keyed m) : Keyed (loadItems js m) := by
  induction js generalizing m with
  | nil => exact h
  | cons j js ih =>
    rw [loadItems]
    split
    · exact h
    · exact ih (h.insert _)

theorem keyed_load (file : StoreFile) : Keyed (load file) := by
  cases file with
  | absent | torn => exact keyed_empty
  | whole j =>
    rw [load]
    split
    · exact keyed_empty
    · exact keyed_loadItems _ keyed_empty

theorem loadItems_map (vs : List CertificateIdentity) (m : Identities) :
    loadItems (vs.map CertificateIdentity.toJson) m = vs.foldl (fun m v => m.insert v.fingerprintSha256 v) m := by
  induction vs generalizing m with
  | nil => rfl
  | cons v vs ih =>
    rw [List.map_cons, loadItems, identity_read]
    exact ih _

/-- What was saved is read back. -/
theorem load_saved (h : Keyed m) : Dict.Same (load (.whole m.saved)) m := by
  have hitems : load (.whole m.saved) = loadItems (m.entries.map fun e => e.2.toJson) ∅ := rfl
  have hkeys : (m.entries.map fun e => e.2).foldl (fun m v => m.insert v.fingerprintSha256 v) (∅ : Identities) =
      (m.entries.map fun e => (e.1, e.2)).foldl (fun m e => AList.insert e.1 e.2 m) ∅ := by
    rw [List.foldl_map, List.foldl_map]
    refine List.foldl_ext _ _ _ fun m' e he => ?_
    have hlookup : m.lookup e.1 = some e.2 := AList.mem_lookup_iff.mpr he
    rw [h e.1 e.2 hlookup]
  have hmap : (m.entries.map fun e => e.2.toJson) = (m.entries.map fun e => e.2).map CertificateIdentity.toJson := by
    rw [List.map_map]
    rfl
  rw [hitems, hmap, loadItems_map, hkeys]
  exact Dict.same_foldl_insert m

theorem lookup_setState (m : Identities) (f g state : Bytes) :
    (m.setState g state).lookup f = if f = g then (m.lookup f).map fun v => { v with state } else m.lookup f := by
  unfold Identities.setState
  cases hg : m.lookup g with
  | none =>
    split_ifs with hf
    · rw [hf, hg]
      rfl
    · rfl
  | some v =>
    dsimp only
    rw [Dict.lookup_insert_if]
    split_ifs with hf
    · rw [hf, hg]
      rfl
    · rfl

theorem Keyed.setState (h : Keyed m) (g state : Bytes) : Keyed (m.setState g state) := by
  intro f v hv
  rw [lookup_setState] at hv
  split_ifs at hv
  · obtain ⟨w, hw, rfl⟩ := Option.map_eq_some_iff.mp hv
    exact h f w hw
  · exact h f v hv

/-! ### Saving -/

section Save
variable {ok : Sigma FileAnswer → Prop} {I : StoreFile → Prop} {Q : StoreFile → Identities × Option Exn → Prop} {k : StoreCall}

/-- What a save may leave: the old file if it does not get to it, and else nothing that can be read, or what was saved. -/
theorem safe_save
    (hopened : ok ⟨.truncate, true⟩ → I .torn ∧
      (m.dumps = true → I (.whole m.saved) ∧ Safe StoreFile.after ok I Q k (.whole m.saved) ∧ Safe StoreFile.after ok I Q k .torn) ∧
      (m.dumps = false → Q .torn (m, some (.typeError 316))))
    (hrefused : ok ⟨.truncate, false⟩ → I file ∧ (m.dumps = true → Safe StoreFile.after ok I Q k file) ∧
      (m.dumps = false → Q file (m, some (.typeError 316))))
    (hfile : I file) (hthrown : ∀ e, ok ⟨.directories, some e⟩ → Q file (m, some e)) :
    Safe StoreFile.after ok I Q (save m k) file := by
  intro thrown hok
  cases thrown with
  | some e => exact ⟨hfile, hthrown e hok⟩
  | none =>
    refine ⟨hfile, fun opened hok => ?_⟩
    cases opened with
    | true =>
      obtain ⟨htorn, hdumped, hraised⟩ := hopened hok
      refine ⟨htorn, ?_⟩
      dsimp only
      cases hdumps : m.dumps with
      | true =>
        obtain ⟨hsaved, hafter, hbroken⟩ := hdumped hdumps
        intro written _
        cases written with
        | true => exact ⟨hsaved, hafter⟩
        | false => exact ⟨htorn, hbroken⟩
      | false => exact hraised hdumps
    | false =>
      obtain ⟨hI, hkept, hraised⟩ := hrefused hok
      refine ⟨hI, ?_⟩
      dsimp only
      cases hdumps : m.dumps with
      | true => exact hkept hdumps
      | false => exact hraised hdumps

end Save

/-! ### What is refused -/

/-- A certificate that is refused. -/
structure Barred (f : Bytes) (m : Identities) : Prop where
  keyed : Keyed m
  refused : m.allow f = false

/-- The call gives a certificate a state in which it is accepted. Promotion does not, of one that is refused. -/
def Revives (f : Bytes) : CertOp → Prop
  | .upsert v => v.fingerprintSha256 = f ∧ stateAllowsDevice v.state = true
  | .markState g state => g = f ∧ stateAllowsDevice state = true
  | .promotePending _ => False

theorem Barred.insert (h : Barred f m) {v : CertificateIdentity} (hv : ¬ Revives f (.upsert v)) :
    Barred f (m.insert v.fingerprintSha256 v) where
  keyed := h.keyed.insert v
  refused := by
    rw [Identities.allow, Dict.lookup_insert_if]
    split_ifs with hf
    · exact Bool.eq_false_of_not_eq_true fun hallow => hv ⟨hf.symm, hallow⟩
    · exact h.refused

theorem Barred.setState (h : Barred f m) {state : Bytes} (hstate : ¬ Revives f (.markState g state)) :
    Barred f (m.setState g state) where
  keyed := h.keyed.setState g state
  refused := by
    rw [Identities.allow, lookup_setState]
    split_ifs with hf
    · rw [Option.any_map]
      cases m.lookup f with
      | none => rfl
      | some v => exact Bool.eq_false_of_not_eq_true fun hallow => hstate ⟨hf.symm, hallow⟩
    · exact h.refused

theorem allow_congr (h : Dict.Same m m') (f : Bytes) : m.allow f = m'.allow f := by rw [Identities.allow, Identities.allow, h f]

theorem Barred.saved (h : Barred f m) : Barred f (load (.whole m.saved)) where
  keyed := keyed_load _
  refused := (allow_congr (load_saved h.keyed) f).trans h.refused

theorem barred_torn (f : Bytes) : Barred f (load .torn) := ⟨keyed_empty, rfl⟩

/-- A call that keeps a certificate refused keeps it so in the file, wherever it is killed. -/
abbrev KeepsBarred (f : Bytes) (p : StoreCall) (file : StoreFile) : Prop :=
  Safe StoreFile.after (fun _ => True) (fun file => Barred f (load file)) (fun file r => Barred f (load file) ∧ Barred f r.1) p file

theorem keepsBarred_save {k : StoreCall} (hm : Barred f m) (hk : ∀ file, Barred f (load file) → KeepsBarred f k file)
    (hfile : Barred f (load file)) : KeepsBarred f (save m k) file :=
  safe_save (fun _ => ⟨barred_torn f, fun _ => ⟨hm.saved, hk _ hm.saved, hk _ (barred_torn f)⟩, fun _ => ⟨barred_torn f, hm⟩⟩)
    (fun _ => ⟨hfile, fun _ => hk _ hfile, fun _ => ⟨hfile, hm⟩⟩) hfile fun _ _ => ⟨hfile, hm⟩

theorem keepsBarred_markState {k : Identities → StoreCall} {state : Bytes} (hm : Barred f m)
    (hstate : ¬ Revives f (.markState g state))
    (hk : ∀ m file, Barred f m → Barred f (load file) → KeepsBarred f (k m) file) (hfile : Barred f (load file)) :
    KeepsBarred f (markState m g state k) file := by
  unfold markState
  split_ifs
  · exact keepsBarred_save (hm.setState hstate) (fun file hfile => hk _ file (hm.setState hstate) hfile) hfile
  · exact hk m file hm hfile

theorem keepsBarred_program (hm : Barred f m) {op : CertOp} (hop : ¬ Revives f op) (hfile : Barred f (load file)) :
    KeepsBarred f (op.program m) file := by
  have hdone : ∀ m file, Barred f m → Barred f (load file) → KeepsBarred f (done m) file := fun _ _ hm hfile => ⟨hfile, hm⟩
  cases op with
  | upsert v => exact keepsBarred_save (hm.insert hop) (fun file hfile => hdone _ file (hm.insert hop) hfile) hfile
  | markState g state => exact keepsBarred_markState hm hop hdone hfile
  | promotePending g =>
    rw [CertOp.program]
    cases hg : m.lookup g with
    | none => exact hdone m file hm hfile
    | some v =>
      dsimp only
      split_ifs with hpending hrotated
      · exact hdone m file hm hfile
      all_goals
        -- one that is pending is not refused
        have hother : g ≠ f := by
          rintro rfl
          have hrefused := hm.refused
          rw [Identities.allow, hg, Option.any_some, not_not.mp hpending] at hrefused
          exact absurd hrefused (by decide)
        have hactive : ¬ Revives f (.markState g (ascii "active")) := fun h => hother h.1
        have hpromote : ∀ m file, Barred f m → Barred f (load file) →
            KeepsBarred f (save (m.setState g (ascii "active")) (done (m.setState g (ascii "active")))) file := fun m file hm hfile =>
          keepsBarred_save (hm.setState hactive) (fun file hfile => hdone _ file (hm.setState hactive) hfile) hfile
      · exact hpromote m file hm hfile
      · exact keepsBarred_markState hm (fun h => absurd h.2 (by decide)) hpromote hfile

/-! ### What the file has -/

/-- Every time the directories are made and the file is opened, that works. -/
def Opened : Sigma FileAnswer → Prop
  | ⟨.directories, thrown⟩ => thrown = none
  | ⟨.truncate, opened⟩ => opened = true
  | ⟨.write _, _⟩ => True

/-- The file has what the process holds, or nothing can be read in it. -/
structure Kept (m : Identities) (file : StoreFile) : Prop where
  keyed : Keyed m
  read : (∀ g, (load file).lookup g = none) ∨ Dict.Same (load file) m

theorem kept_torn (h : Keyed m) : Kept m .torn := ⟨h, Or.inl fun _ => rfl⟩

theorem kept_saved (h : Keyed m) : Kept m (.whole m.saved) := ⟨h, Or.inr (load_saved h)⟩

abbrev KeepsFile (p : StoreCall) (file : StoreFile) : Prop :=
  Safe StoreFile.after Opened (fun _ => True) (fun file r => Kept r.1 file) p file

theorem keepsFile_save {k : StoreCall} (hm : Keyed m) (hk : ∀ file, Kept m file → KeepsFile k file) : KeepsFile (save m k) file :=
  safe_save (fun _ => ⟨trivial, fun _ => ⟨trivial, hk _ (kept_saved hm), hk _ (kept_torn hm)⟩, fun _ => kept_torn hm⟩)
    (fun h => absurd h Bool.false_ne_true) trivial fun _ h => (nomatch h)

theorem keepsFile_markState {k : Identities → StoreCall} {state : Bytes} (hm : Kept m file)
    (hk : ∀ m file, Kept m file → KeepsFile (k m) file) : KeepsFile (markState m g state k) file := by
  unfold markState
  split_ifs
  · exact keepsFile_save (hm.keyed.setState g state) fun file hfile => hk _ file hfile
  · exact hk m file hm

theorem keepsFile_program (hm : Kept m file) (op : CertOp) : KeepsFile (op.program m) file := by
  have hdone : ∀ m file, Kept m file → KeepsFile (done m) file := fun _ _ hm => hm
  cases op with
  | upsert v => exact keepsFile_save (hm.keyed.insert v) fun file hfile => hdone _ file hfile
  | markState g state => exact keepsFile_markState hm hdone
  | promotePending g =>
    rw [CertOp.program]
    have hpromote : ∀ m file, Kept m file →
        KeepsFile (save (m.setState g (ascii "active")) (done (m.setState g (ascii "active")))) file := fun m file hm =>
      keepsFile_save (hm.keyed.setState g _) fun file hfile => hdone _ file hfile
    cases m.lookup g with
    | none => exact hdone m file hm
    | some v =>
      dsimp only
      split_ifs
      · exact hdone m file hm
      · exact hpromote m file hm
      · exact keepsFile_markState hm hpromote

/-! ### Runs -/

def CertEvent.op : CertEvent → Option CertOp
  | .start => none
  | .call op _ => some op
  | .kill op _ => some op

def CertEvent.trace : CertEvent → List (Sigma FileAnswer)
  | .start => []
  | .call _ tr => tr
  | .kill _ tr => tr

variable {s s' s₁ s₂ : CertSite} {e : CertEvent} {before after : List CertEvent}

/-- The certificate is refused by the process that is up, and by any that is to come. -/
structure SiteBarred (f : Bytes) (s : CertSite) : Prop where
  mem : ∀ m, s.mem = some m → Barred f m
  file : Barred f (load s.file)

theorem SiteBarred.step (h : SiteBarred f s) (he : ∀ op, e.op = some op → ¬ Revives f op) (hstep : s.Step e s') : SiteBarred f s' := by
  cases e with
  | start =>
    obtain ⟨-, rfl⟩ := hstep
    refine ⟨fun m hm => ?_, h.file⟩
    rw [← Option.some.inj hm]
    exact h.file
  | call op tr =>
    obtain ⟨m, m', ex, hm, hruns, rfl⟩ := hstep
    obtain ⟨hfile, hmem⟩ := (keepsBarred_program (h.mem m hm) (he op rfl) h.file).runs hruns fun _ _ => trivial
    exact ⟨fun m hm' => Option.some.inj hm' ▸ hmem, hfile⟩
  | kill op tr =>
    obtain ⟨m, hm, hstops, rfl⟩ := hstep
    exact ⟨fun _ hnone => (nomatch hnone), (keepsBarred_program (h.mem m hm) (he op rfl) h.file).stops h.file hstops fun _ _ => trivial⟩

theorem SiteBarred.run (h : SiteBarred f s) (hrun : Run CertSite.Step s after s')
    (hafter : ∀ e ∈ after, ∀ op, e.op = some op → ¬ Revives f op) : SiteBarred f s' := by
  induction hrun with
  | nil => exact h
  | snoc _ hstep ih =>
    obtain ⟨hbefore, hlast⟩ := List.forall_mem_append.mp hafter
    exact (ih hbefore).step (hlast _ List.mem_cons_self) hstep

/-- The file has what the process that is up holds, or cannot be read. -/
theorem kept_run (hrun : Run CertSite.Step { file } before s) (hopened : ∀ e ∈ before, ∀ ev ∈ e.trace, Opened ev)
    (hm : s.mem = some m) : Kept m s.file := by
  induction hrun generalizing m with
  | nil => cases hm
  | @snoc before s e s' _ hstep ih =>
    obtain ⟨hbefore, hlast⟩ := List.forall_mem_append.mp hopened
    cases e with
    | start =>
      obtain ⟨-, rfl⟩ := hstep
      rw [← Option.some.inj hm]
      exact ⟨keyed_load s.file, Or.inr (Dict.same_refl _)⟩
    | call op tr =>
      obtain ⟨m₀, m', ex, hm₀, hruns, rfl⟩ := hstep
      rw [← Option.some.inj hm]
      exact (keepsFile_program (ih hbefore hm₀) op).runs hruns (hlast _ List.mem_cons_self)
    | kill op tr =>
      obtain ⟨m₀, -, -, rfl⟩ := hstep
      cases hm

theorem Kept.barred (h : Kept m file) (hrefused : m.allow f = false) : Barred f (load file) := by
  refine ⟨keyed_load file, ?_⟩
  rcases h.read with hnone | hsame
  · rw [Identities.allow, hnone]
    rfl
  · rw [allow_congr hsame, hrefused]

/-- A certificate that is once refused is refused from then on, by every process and wherever processes are killed, until it is
entered anew or marked so that it is accepted, if every save before could make the directories and open the file. -/
theorem refusal_final (hbefore : Run CertSite.Step { file } before s₁) (hopened : ∀ e ∈ before, ∀ ev ∈ e.trace, Opened ev)
    (hm : s₁.mem = some m) (hrefused : m.allow f = false) (hafter : Run CertSite.Step s₁ after s₂)
    (hno : ∀ e ∈ after, ∀ op, e.op = some op → ¬ Revives f op) (hm' : s₂.mem = some m') : m'.allow f = false := by
  have hkept := kept_run hbefore hopened hm
  have hbarred : SiteBarred f s₁ := by
    refine ⟨fun m₁ hm₁ => ?_, hkept.barred hrefused⟩
    rw [hm] at hm₁
    rw [← Option.some.inj hm₁]
    exact ⟨hkept.keyed, hrefused⟩
  exact ((hbarred.run hafter hno).mem m' hm').refused

/-! ### Rotation -/

/-- What a promotion may leave: the certificate is accepted, it is active only if the one it replaces has expired, and all
others are as they were. -/
structure Rotating (m : Identities) (p q : Bytes) (m' : Identities) : Prop where
  accepted : m'.allow p = true
  order : ∀ v, m'.lookup p = some v → v.state = ascii "active" → ∃ w, m'.lookup q = some w ∧ w.state = ascii "expired"
  others : ∀ g, g ≠ p → g ≠ q → m'.lookup g = m.lookup g

variable {p q : Bytes} {v w : CertificateIdentity}

theorem Rotating.congr (h : Rotating m p q m') {m'' : Identities} (hsame : Dict.Same m'' m') : Rotating m p q m'' where
  accepted := (allow_congr hsame p).trans h.accepted
  order := by
    rw [hsame p, hsame q]
    exact h.order
  others g hp hq := (hsame g).trans (h.others g hp hq)

theorem rotating_before (hp : m.lookup p = some v) (hpending : v.state = ascii "pending") : Rotating m p q m where
  accepted := by
    rw [Identities.allow, hp, Option.any_some, hpending]
    decide
  order u hu hactive := by
    rw [hp] at hu
    rw [← Option.some.inj hu, hpending] at hactive
    exact absurd hactive (by decide)
  others _ _ _ := rfl

theorem rotating_expired (hp : m.lookup p = some v) (hpending : v.state = ascii "pending") (hne : q ≠ p) :
    Rotating m p q (m.setState q (ascii "expired")) where
  accepted := by
    rw [Identities.allow, lookup_setState, if_neg hne.symm]
    exact (rotating_before (q := q) hp hpending).accepted
  order u hu hactive := by
    rw [lookup_setState, if_neg hne.symm, hp] at hu
    rw [← Option.some.inj hu, hpending] at hactive
    exact absurd hactive (by decide)
  others g _ hq := by rw [lookup_setState, if_neg hq]

theorem rotating_active (hp : m.lookup p = some v) (hq : m.lookup q = some w) (hne : q ≠ p) :
    Rotating m p q ((m.setState q (ascii "expired")).setState p (ascii "active")) where
  accepted := by
    rw [Identities.allow, lookup_setState, if_pos rfl, lookup_setState, if_neg hne.symm, hp]
    rfl
  order _ _ _ := by
    rw [lookup_setState, if_neg hne, lookup_setState, if_pos rfl, hq]
    exact ⟨_, rfl, rfl⟩
  others g hp hq := by rw [lookup_setState, if_neg hp, lookup_setState, if_neg hq]

/-- What a process finds that starts after the promotion was killed. -/
def Found (m : Identities) (p q : Bytes) (file : StoreFile) : Prop :=
  (∀ g, (load file).lookup g = none) ∨ Rotating m p q (load file)

theorem safe_promotion (hm : Kept m file) (hp : m.lookup p = some v) (hpending : v.state = ascii "pending")
    (hrotated : v.rotatedFromFingerprint = q) (hsome : q ≠ []) (hne : q ≠ p) (hq : m.lookup q = some w) :
    Safe StoreFile.after Opened (Found m p q) (fun file _ => Found m p q file) ((CertOp.promotePending p).program m) file := by
  have htorn : Found m p q .torn := Or.inl fun _ => rfl
  have hexpired : Found m p q (.whole (m.setState q (ascii "expired")).saved) :=
    Or.inr ((rotating_expired hp hpending hne).congr (load_saved (hm.keyed.setState q _)))
  have hactive : Found m p q (.whole ((m.setState q (ascii "expired")).setState p (ascii "active")).saved) :=
    Or.inr ((rotating_active hp hq hne).congr (load_saved ((hm.keyed.setState q _).setState p _)))
  rw [CertOp.program, hp]
  dsimp only
  rw [if_neg (not_not.mpr hpending), hrotated, if_neg hsome, markState, if_pos (by rw [hq]; rfl)]
  have hfound : Found m p q file := hm.read.imp_right (rotating_before hp hpending).congr
  have hsecond : ∀ file, Found m p q file → Safe StoreFile.after Opened (Found m p q) (fun file _ => Found m p q file)
      (save ((m.setState q (ascii "expired")).setState p (ascii "active"))
        (done ((m.setState q (ascii "expired")).setState p (ascii "active")))) file := fun file hfile =>
    safe_save (fun _ => ⟨htorn, fun _ => ⟨hactive, hactive, htorn⟩, fun _ => htorn⟩) (fun h => absurd h Bool.false_ne_true) hfile
      fun _ _ => hfile
  exact safe_save (fun _ => ⟨htorn, fun _ => ⟨hexpired, hsecond _ hexpired, hsecond _ htorn⟩, fun _ => htorn⟩)
    (fun h => absurd h Bool.false_ne_true) hfound fun _ _ => hfound

/-- A process that starts after one was killed in a promotion finds nothing at all, or the certificate that was promoted is
accepted, and it is not active beside the one that it replaces, if every save up to there could make the directories and open
the file. -/
theorem rotation_killed (hbefore : Run CertSite.Step { file } before s) (hopened : ∀ e ∈ before, ∀ ev ∈ e.trace, Opened ev)
    (hm : s.mem = some m) (hp : m.lookup p = some v) (hpending : v.state = ascii "pending")
    (hrotated : v.rotatedFromFingerprint = q) (hsome : q ≠ []) (hne : q ≠ p) (hq : m.lookup q = some w)
    {tr : List (Sigma FileAnswer)} (htr : ∀ ev ∈ tr, Opened ev)
    (hkill : s.Step (.kill (.promotePending p) tr) s₁) (hstart : s₁.Step .start s') :
    ∃ m', s'.mem = some m' ∧ ((∀ g, m'.lookup g = none) ∨ Rotating m p q m') := by
  have hkept := kept_run hbefore hopened hm
  obtain ⟨m₀, hm₀, hstops, rfl⟩ := hkill
  obtain ⟨-, rfl⟩ := hstart
  rw [hm] at hm₀
  obtain rfl := Option.some.inj hm₀
  have hfound : Found m p q s.file := hkept.read.imp_right (rotating_before hp hpending).congr
  exact ⟨_, rfl, (safe_promotion hkept hp hpending hrotated hsome hne hq).stops hfound hstops htr⟩

def oldIdentity : CertificateIdentity := { fingerprintSha256 := ascii "old" }

def newIdentity : CertificateIdentity :=
  { fingerprintSha256 := ascii "new", state := ascii "pending", rotatedFromFingerprint := ascii "old" }

def entered : Identities := (AList.insert (ascii "old") oldIdentity (∅ : Identities)).insert (ascii "new") newIdentity

def savedOnce (m : Identities) : List (Sigma FileAnswer) := [⟨.directories, none⟩, ⟨.truncate, true⟩, ⟨.write m.saved, true⟩]

theorem runs_saved {k : StoreCall} {tr : List (Sigma FileAnswer)} {r : Identities × Option Exn} (hm : m.dumps = true)
    (hk : Runs k tr r) :
    Runs (save m k) (savedOnce m ++ tr) r := by
  refine Runs.call (R := FileAnswer) (e := .directories) none (Runs.call (R := FileAnswer) (e := .truncate) true ?_)
  rw [if_pos hm, if_pos rfl]
  exact Runs.call (R := FileAnswer) (e := .write m.saved) true hk

theorem entered_run : Run CertSite.Step {}
    [.start, .call (.upsert oldIdentity) (savedOnce (AList.insert (ascii "old") oldIdentity ∅)),
      .call (.upsert newIdentity) (savedOnce entered)]
    { mem := some entered, file := .whole entered.saved } := by
  have hstart : Run CertSite.Step {} [.start] _ := Run.snoc Run.nil ⟨rfl, rfl⟩
  have hold := Run.snoc hstart (e := CertEvent.call (.upsert oldIdentity) (savedOnce (AList.insert (ascii "old") oldIdentity ∅)))
    ⟨_, _, none, rfl, runs_saved (by decide) (Runs.ret _), rfl⟩
  exact Run.snoc hold (e := CertEvent.call (.upsert newIdentity) (savedOnce entered))
    ⟨_, _, none, rfl, runs_saved (by decide) (Runs.ret _), rfl⟩

theorem entered_opened : ∀ e ∈ [CertEvent.start, .call (.upsert oldIdentity) (savedOnce (AList.insert (ascii "old") oldIdentity ∅)),
    .call (.upsert newIdentity) (savedOnce entered)], ∀ ev ∈ e.trace, Opened ev := by
  simp [CertEvent.trace, savedOnce, Opened]

def halfRotated : Identities := entered.setState (ascii "old") (ascii "expired")

def rotated : Identities := halfRotated.setState (ascii "new") (ascii "active")

/-- The promotion goes through, and then the process is killed in a call and another one started. -/
theorem refusal_final_sample : (load (.whole rotated.saved)).allow (ascii "old") = false := by
  have hpromoted := Run.snoc entered_run
    (e := CertEvent.call (.promotePending (ascii "new")) (savedOnce halfRotated ++ savedOnce rotated))
    ⟨_, rotated, none, rfl, runs_saved (by decide) (runs_saved (by decide) (Runs.ret _)), rfl⟩
  have hkilled : Run CertSite.Step { mem := some rotated, file := .whole rotated.saved }
      [.kill (.markState (ascii "new") (ascii "revoked")) []] _ := Run.snoc Run.nil ⟨_, rfl, Stops.here _, rfl⟩
  have hstarted := Run.snoc hkilled (e := CertEvent.start) ⟨rfl, rfl⟩
  have hopened : ∀ ev ∈ savedOnce halfRotated ++ savedOnce rotated, Opened ev := by simp [savedOnce, Opened]
  refine refusal_final hpromoted (List.forall_mem_append.mpr ⟨entered_opened, List.forall_mem_singleton.mpr hopened⟩) rfl
    (by decide) hstarted ?_ rfl
  refine List.forall_mem_append.mpr
    ⟨List.forall_mem_singleton.mpr fun op hop => ?_, List.forall_mem_singleton.mpr fun op h => nomatch h⟩
  rw [← Option.some.inj hop]
  exact fun h => absurd h.1 (by decide)

/-- The process is killed when the old certificate has expired and the new one is not yet active. -/
theorem rotation_killed_sample : (∀ g, (load (.whole halfRotated.saved)).lookup g = none) ∨
    Rotating entered (ascii "new") (ascii "old") (load (.whole halfRotated.saved)) := by
  have hstops : Stops ((CertOp.promotePending (ascii "new")).program entered) (savedOnce halfRotated) := by
    refine Stops.call (R := FileAnswer) (e := .directories) none (Stops.call (R := FileAnswer) (e := .truncate) true ?_)
    exact Stops.call (R := FileAnswer) (e := .write halfRotated.saved) true (Stops.here _)
  have hopened : ∀ ev ∈ savedOnce halfRotated, Opened ev := by simp [savedOnce, Opened]
  obtain ⟨m', hm', hfound⟩ := rotation_killed entered_run entered_opened rfl (v := newIdentity) (w := oldIdentity) (by decide) rfl
    rfl (by decide) (by decide) (by decide) hopened ⟨entered, rfl, hstops, rfl⟩ ⟨rfl, rfl⟩
  rwa [← Option.some.inj hm'] at hfound

end Drawer.Cert
