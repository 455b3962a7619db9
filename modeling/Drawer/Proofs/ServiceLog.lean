import Drawer.Lib.ObjectText
import Drawer.Proofs.ServiceMode

/-! What can be read back of the log. Each of its lines is an object of strings, written with no escapes, and all
but a few of the strings are the program's own: a session has the name of its user in it, and a fault the reason
that it was raised for. -/

namespace Drawer
open Text Transition
open JsonReader (Doc Verbatim objectText)

variable {safety : SafetyConfig} {service : ServiceConfig} {s s' : Site} {es : List SiteEvent} {e : SiteEvent}

/-! ### Lines -/

/-- What a line of the log is to be read back as. -/
def LogEntry.doc (kv : LogEntry) : Doc := .obj (kv.map fun p => (p.1, .str p.2))

def LogEntry.Legible (kv : LogEntry) : Prop := ∀ p ∈ kv, Verbatim p.1 ∧ Verbatim p.2

theorem LogEntry.line_eq (kv : LogEntry) : kv.line = objectText kv ++ [10] := by
  have hmember : (fun p : Bytes × Bytes => ascii "\"" ++ p.1 ++ ascii "\":\"" ++ p.2 ++ ascii "\"") =
      fun p => JsonReader.memberText p.1 (34 :: (p.2 ++ [34])) := by
    funext p
    simp [JsonReader.memberText, show ascii "\"" = [34] by decide, show ascii "\":\"" = [34, 58, 34] by decide]
  rw [LogEntry.line, hmember]
  simp [objectText, show ascii "\x7b" = [123] by decide, show ascii "\x7d\n" = [125, 10] by decide]

/-- The file is that of the entries it has taken. -/
def Site.Filed (s : Site) : Prop := s.file = s.log.flatMap LogEntry.line

theorem Site.Filed.read_iff (h : s.Filed) :
    (lines 10 s.file).map JsonReader.read = s.log.map (fun kv => some kv.doc) ↔ ∀ kv ∈ s.log, kv.Legible := by
  have hfile : s.file = unlines 10 (s.log.map objectText) := by
    rw [h, unlines, List.flatMap_map]
    congr 1
    exact funext LogEntry.line_eq
  rw [hfile]
  exact JsonReader.read_lines_iff s.log

/-- All that is written is the program's own but for one text. -/
structure LogEntry.Carries (kv : LogEntry) (text : Bytes) : Prop where
  keys : ∀ p ∈ kv, Verbatim p.1
  values : ∀ p ∈ kv, p.2 = text ∨ Verbatim p.2
  own : ∃ p ∈ kv, p.2 = text

theorem LogEntry.Carries.legible_iff {kv : LogEntry} {text : Bytes} (h : kv.Carries text) : kv.Legible ↔ Verbatim text := by
  constructor
  · obtain ⟨p, hp, rfl⟩ := h.own
    exact fun hlegible => (hlegible p hp).2
  · intro htext p hp
    refine ⟨h.keys p hp, ?_⟩
    rcases h.values p hp with hvalue | hvalue
    · rwa [hvalue]
    · exact hvalue

theorem verbatim_decimal (n : Int) : Verbatim (decimal n) := by
  refine ⟨fun b hb => ?_, validUtf8_of_ascii fun b hb => lt_of_mem_decimal hb⟩
  rcases mem_decimal hb with rfl | ⟨hlow, hhigh⟩
  · decide
  · grind

theorem verbatim_flagText (ok : Bool) : Verbatim (flagText ok) := by cases ok <;> decide

theorem FaultCode.carries (code : FaultCode) (reason : Bytes) (nowNs : ℕ) : (code.entry reason nowNs).Carries reason where
  keys := by
    simp only [FaultCode.entry, List.forall_mem_cons]
    exact ⟨by decide, by decide, by decide, fun p hp => absurd hp List.not_mem_nil⟩
  values := by
    simp only [FaultCode.entry, List.forall_mem_cons]
    exact ⟨Or.inr (by cases code <;> decide), Or.inl trivial, Or.inr (verbatim_decimal _), fun p hp => absurd hp List.not_mem_nil⟩
  own := ⟨(ascii "reason", reason), by simp [FaultCode.entry], rfl⟩

theorem sessionEntry_carries {action : Bytes} (haction : Verbatim action) (user : Bytes) (ts : ℕ) :
    (sessionEntry action user ts).Carries user where
  keys := by
    simp only [sessionEntry, List.forall_mem_cons]
    exact ⟨by decide, by decide, by decide, by decide, fun p hp => absurd hp List.not_mem_nil⟩
  values := by
    simp only [sessionEntry, List.forall_mem_cons]
    exact ⟨Or.inr haction, Or.inr (by decide), Or.inr (verbatim_decimal _), Or.inl trivial, fun p hp => absurd hp List.not_mem_nil⟩
  own := ⟨(ascii "user", user), by simp [sessionEntry], rfl⟩

theorem ServiceCommand.amount_verbatim (c : ServiceCommand) : ∀ p ∈ c.amount, Verbatim p.1 ∧ Verbatim p.2 := by
  cases c <;> simp only [ServiceCommand.amount, List.forall_mem_singleton, List.not_mem_nil, false_imp_iff, implies_true]
  all_goals exact ⟨by decide, verbatim_decimal _⟩

theorem ServiceCommand.action_verbatim (c : ServiceCommand) : Verbatim c.action := by
  cases c <;> (simp only [ServiceCommand.action]; decide)

theorem ServiceCommand.carries (c : ServiceCommand) (ok : Bool) (user : Bytes) (ts : ℕ) : (c.entry ok user ts).Carries user where
  keys := by
    simp only [ServiceCommand.entry, List.cons_append, List.forall_mem_cons, List.forall_mem_append]
    exact ⟨by decide, fun p hp => (c.amount_verbatim p hp).1, by decide, by decide, by decide, fun p hp => absurd hp List.not_mem_nil⟩
  values := by
    simp only [ServiceCommand.entry, List.cons_append, List.forall_mem_cons, List.forall_mem_append]
    exact ⟨Or.inr c.action_verbatim, fun p hp => Or.inr (c.amount_verbatim p hp).2, Or.inr (verbatim_flagText ok),
      Or.inr (verbatim_decimal _), Or.inl trivial, fun p hp => absurd hp List.not_mem_nil⟩
  own := ⟨(ascii "user", user), by simp [ServiceCommand.entry], rfl⟩

/-! ### What people write in it -/

/-- What a step hands to the log. -/
def Site.entry (service : ServiceConfig) (s : Site) : SiteEvent → Option LogEntry
  | .settle line active nowNs _ => if active && !s.poll.prev line then some (line.code.entry line.reason nowNs) else none
  | .raise code reason _ nowNs _ => some (code.entry reason nowNs)
  | .enter pin user ts _ =>
    if service.enable && pin = service.pinCode then some (sessionEntry (ascii "enter") user ts) else none
  | .exit ts _ => if s.active then some (sessionEntry (ascii "exit") s.user ts) else none
  | .logged c ok ts _ => some (c.entry ok s.user ts)
  | _ => none

def Site.logging (s : Site) (entry : Option LogEntry) (w : Append) : Site :=
  entry.elim s fun kv => s.append kv w

theorem Site.Step.logs (h : s.Step safety service e s') :
    s'.log = (s.logging (s.entry service e) e.write).log ∧ s'.file = (s.logging (s.entry service e) e.write).file := by
  cases e with
  | read level =>
    obtain ⟨-, rfl⟩ := h
    exact ⟨rfl, rfl⟩
  | settle line active nowNs w =>
    obtain ⟨rest, -, rfl⟩ := h
    by_cases hraised : (active && !s.poll.prev line) = true
    · simp [Site.entry, Site.logging, SiteEvent.write, hraised]
    · simp [Site.entry, Site.logging, hraised]
  | raise code reason latch nowNs w =>
    obtain rfl := h
    exact ⟨rfl, rfl⟩
  | enter pin user ts w =>
    obtain ⟨-, rfl⟩ := h
    by_cases hpin : (service.enable && pin = service.pinCode) = true
    · simp only [Site.entry, if_pos hpin]
      exact ⟨rfl, rfl⟩
    · simp only [Site.entry, if_neg hpin]
      exact ⟨rfl, rfl⟩
  | exit ts w =>
    obtain ⟨-, rfl⟩ := h
    cases hactive : s.active <;> simp [Site.entry, Site.logging, SiteEvent.write, hactive]
  | call c passed =>
    obtain ⟨-, -, rfl⟩ := h
    split_ifs <;> exact ⟨rfl, rfl⟩
  | move c ok =>
    obtain ⟨-, -, rfl⟩ := h
    exact ⟨rfl, rfl⟩
  | clear c code =>
    obtain ⟨-, -, rfl⟩ := h
    exact ⟨rfl, rfl⟩
  | logged c ok ts w =>
    obtain ⟨-, rfl⟩ := h
    exact ⟨rfl, rfl⟩

/-- No line is written in part. -/
def Uncut (e : SiteEvent) : Prop := ∀ n, e.write ≠ .cut n

theorem Site.Filed.step (h : s.Filed) (he : Uncut e) (hstep : s.Step safety service e s') : s'.Filed := by
  obtain ⟨hlog, hfile⟩ := hstep.logs
  rw [Filed, hlog, hfile]
  cases s.entry service e with
  | none => exact h
  | some kv =>
    rw [logging, Option.elim_some]
    cases hw : e.write with
    | whole =>
      rw [Filed] at h
      simp [append, h, List.flatMap_append]
    | refused => exact h
    | cut n => exact absurd hw (he n)

theorem filed_run (h : Run (Site.Step safety service) {} es s) (hcut : ∀ e ∈ es, Uncut e) : s.Filed := by
  induction h with
  | nil => rfl
  | snoc _ hstep ih =>
    obtain ⟨hbefore, hlast⟩ := List.forall_mem_append.mp hcut
    exact (ih hbefore).step (hlast _ List.mem_cons_self) hstep

/-- Who is in service mode after an event. -/
def inSession (service : ServiceConfig) (user : Bytes) : SiteEvent → Bytes
  | .enter pin user' _ _ => if service.enable && pin = service.pinCode then user' else user
  | .exit _ _ => []
  | _ => user

theorem Site.Step.user (h : s.Step safety service e s') : s'.user = inSession service s.user e := by
  cases e with
  | enter pin user ts w =>
    obtain ⟨-, rfl⟩ := h
    rw [inSession]
    split_ifs <;> rfl
  | call c passed =>
    obtain ⟨-, -, rfl⟩ := h
    split_ifs <;> rfl
  | raise code reason latch nowNs w =>
    obtain rfl := h
    exact s.append_user _ w
  | settle line active nowNs w =>
    obtain ⟨rest, -, rfl⟩ := h
    dsimp only
    split_ifs <;> simp [inSession]
  | read level =>
    obtain ⟨-, rfl⟩ := h
    rfl
  | exit ts w =>
    obtain ⟨-, rfl⟩ := h
    rfl
  | move c ok =>
    obtain ⟨-, -, rfl⟩ := h
    rfl
  | clear c code =>
    obtain ⟨-, -, rfl⟩ := h
    rfl
  | logged c ok ts w =>
    obtain ⟨-, rfl⟩ := h
    exact s.append_user _ w

theorem inSession_run (h : Run (Site.Step safety service) {} es s) : s.user = es.foldl (inSession service) [] := by
  induction h with
  | nil => rfl
  | @snoc es s e s' _ hstep ih =>
    rw [List.foldl_append, List.foldl_cons, List.foldl_nil, ← ih]
    exact hstep.user

/-- What the events of a run give, each with who is in service mode then. -/
def alongRun {α : Type} (f : Bytes → SiteEvent → Option α) (service : ServiceConfig) (user : Bytes) : List SiteEvent → List α
  | [] => []
  | e :: es => (f user e).toList ++ alongRun f service (inSession service user e) es

theorem alongRun_snoc {α : Type} (f : Bytes → SiteEvent → Option α) (user : Bytes) (es : List SiteEvent) (e : SiteEvent) :
    alongRun f service user (es ++ [e]) = alongRun f service user es ++ (f (es.foldl (inSession service) user) e).toList := by
  induction es generalizing user with
  | nil => exact List.append_nil _
  | cons e' es ih => rw [List.cons_append, alongRun, ih, alongRun, List.append_assoc, List.foldl_cons]

/-- The text from outside that is logged with an event: who is in service mode, or why a fault was raised. -/
def given (service : ServiceConfig) (user : Bytes) : SiteEvent → Option Bytes
  | .enter pin user' _ _ => if service.enable && pin = service.pinCode then some user' else none
  | .exit _ _ => some user
  | .logged _ _ _ _ => some user
  | .raise _ reason _ _ _ => some reason
  | _ => none

/-- The texts from outside that the file has taken. -/
def outsideTexts (service : ServiceConfig) : List SiteEvent → List Bytes :=
  alongRun (fun user e => if e.write = .whole then given service user e else none) service []

/-- What a step logs has the text that is given with it in it, or none from outside. -/
theorem Site.entry_carries {kv : LogEntry} (h : s.entry service e = some kv) :
    ∃ text, kv.Carries text ∧ (given service s.user e = some text ∨ given service s.user e = none ∧ Verbatim text) := by
  cases e with
  | settle line active nowNs w =>
    obtain ⟨-, hkv⟩ := Option.ite_none_right_eq_some.mp h
    rw [← Option.some.inj hkv]
    exact ⟨line.reason, FaultCode.carries _ _ _, Or.inr ⟨rfl, by cases line <;> decide⟩⟩
  | raise code reason latch nowNs w =>
    rw [← Option.some.inj h]
    exact ⟨reason, code.carries reason nowNs, Or.inl rfl⟩
  | enter pin user ts w =>
    obtain ⟨hpin, hkv⟩ := Option.ite_none_right_eq_some.mp h
    rw [← Option.some.inj hkv]
    exact ⟨user, sessionEntry_carries (by decide) user ts, Or.inl (if_pos hpin)⟩
  | exit ts w =>
    obtain ⟨-, hkv⟩ := Option.ite_none_right_eq_some.mp h
    rw [← Option.some.inj hkv]
    exact ⟨s.user, sessionEntry_carries (by decide) s.user ts, Or.inl rfl⟩
  | logged c ok ts w =>
    rw [← Option.some.inj h]
    exact ⟨s.user, c.carries ok s.user ts, Or.inl rfl⟩
  | read _ | call _ _ | move _ _ | clear _ _ => cases h

/-- No one is in service mode outside a session. -/
theorem Site.entry_none (hout : s.active = false → s.user = []) (h : s.entry service e = none) {text : Bytes}
    (htext : given service s.user e = some text) : Verbatim text := by
  cases e with
  | enter pin user ts w =>
    obtain ⟨hpin, -⟩ := Option.ite_none_right_eq_some.mp htext
    exact absurd (h.symm.trans (if_pos hpin)) nofun
  | exit ts w =>
    have hactive : s.active = false := by
      by_contra hactive
      exact absurd (h.symm.trans (if_pos (Bool.eq_true_of_not_eq_false hactive))) nofun
    rw [← Option.some.inj htext, hout hactive]
    decide
  | raise code reason latch nowNs w => cases h
  | logged c ok ts w => cases h
  | read _ | settle _ _ _ _ | call _ _ | move _ _ | clear _ _ => cases htext

theorem outside_run (h : Run (Site.Step safety service) {} es s) : s.active = false → s.user = [] := by
  induction h with
  | nil => exact fun _ => rfl
  | @snoc es s e s' _ hstep ih =>
    cases e with
    | enter pin user ts w =>
      obtain ⟨-, rfl⟩ := hstep
      split_ifs
      · exact fun hactive => nomatch hactive
      · exact ih
    | exit ts w =>
      obtain ⟨-, rfl⟩ := hstep
      exact fun _ => rfl
    | call c passed =>
      obtain ⟨-, -, rfl⟩ := hstep
      split_ifs <;> exact ih
    | settle line active nowNs w =>
      obtain ⟨rest, -, rfl⟩ := hstep
      dsimp only
      split_ifs <;> simpa using ih
    | raise code reason latch nowNs w =>
      obtain rfl := hstep
      simpa using ih
    | logged c ok ts w =>
      obtain ⟨-, rfl⟩ := hstep
      simpa using ih
    | read level =>
      obtain ⟨-, rfl⟩ := hstep
      exact ih
    | move c ok =>
      obtain ⟨-, -, rfl⟩ := hstep
      exact ih
    | clear c code =>
      obtain ⟨-, -, rfl⟩ := hstep
      exact ih

theorem legible_run (h : Run (Site.Step safety service) {} es s) :
    (∀ kv ∈ s.log, kv.Legible) ↔ ∀ text ∈ outsideTexts service es, Verbatim text := by
  induction h with
  | nil => exact ⟨fun _ text htext => absurd htext List.not_mem_nil, fun _ kv hkv => absurd hkv List.not_mem_nil⟩
  | @snoc es s e s' hrun hstep ih =>
    rw [outsideTexts, alongRun_snoc, List.forall_mem_append, ← outsideTexts, ← ih, ← inSession_run hrun, hstep.logs.1]
    by_cases hw : e.write = .whole
    · rw [if_pos hw, hw]
      cases hentry : s.entry service e with
      | none =>
        refine ⟨fun hold => ⟨hold, fun text htext => ?_⟩, And.left⟩
        exact s.entry_none (outside_run hrun) hentry (Option.mem_toList.mp htext)
      | some kv =>
        obtain ⟨text, hcarries, htext⟩ := s.entry_carries hentry
        rw [Site.logging, Option.elim_some, Site.append, List.forall_mem_append, List.forall_mem_singleton, hcarries.legible_iff]
        rcases htext with hgiven | ⟨hgiven, htext⟩
        · simp [hgiven]
        · simp [hgiven, htext]
    · have hsame : (s.logging (s.entry service e) e.write).log = s.log := by
        cases hentry : s.entry service e with
        | none => rfl
        | some kv => cases hwrite : e.write <;> first | rfl | exact absurd hwrite hw
      rw [if_neg hw, hsame]
      simp

/-- The lines of the log are read back as what was logged just if all texts from outside that were logged can be written as they
are, when no line is written in part. -/
theorem log_legible_iff (h : Run (Site.Step safety service) {} es s) (hcut : ∀ e ∈ es, Uncut e) :
    (lines 10 s.file).map JsonReader.read = s.log.map (fun kv => some kv.doc) ↔ ∀ text ∈ outsideTexts service es, Verbatim text :=
  (filed_run h hcut).read_iff.trans (legible_run h)

def quoteEvents : List SiteEvent := [.enter (ascii "1234") (ascii "a \"b\"") 1 .whole]

theorem uncut_quote : ∀ e ∈ quoteEvents, Uncut e := List.forall_mem_singleton.mpr fun _ => Append.noConfusion

/-- A user with quotes in their name makes a line of the log unreadable. -/
theorem log_legible_iff_sample : ∃ s, Run (Site.Step {} {}) {} quoteEvents s ∧
    (lines 10 s.file).map JsonReader.read ≠ s.log.map (fun kv => some kv.doc) := by
  have hentered : Run (Site.Step {} {}) {} quoteEvents _ := Run.snoc Run.nil ⟨rfl, rfl⟩
  exact ⟨_, hentered, fun hread => absurd ((log_legible_iff hentered uncut_quote).mp hread) (by decide)⟩

/-! ### The trail of the motions -/

/-- The text that an object has under a key. -/
def textUnder (key : Bytes) : Doc → Option Bytes
  | .obj members => match members.find? fun p => p.1 = key with
    | some (_, .str text) => some text
    | _ => none
  | _ => none

/-- A motion as the log tells of it. -/
structure Motion where
  action : Bytes
  user : Bytes
  ok : Bytes

/-- The motion that a line of the log tells of. -/
def told (d : Doc) : Option Motion := do
  let action ← textUnder (ascii "action") d
  let user ← textUnder (ascii "user") d
  let ok ← textUnder (ascii "ok") d
  if action ∈ [ascii "open", ascii "close", ascii "dispense", ascii "jam_clear_hopper"] then some ⟨action, user, ok⟩ else none

/-- What the log is to tell of an event: a jam is said to be cleared whatever came of it. -/
def motion (user : Bytes) : SiteEvent → Option Motion
  | .move c ok => some ⟨c.action, user, flagText (ok || c.clears.isSome)⟩
  | _ => none

/-- The motions of a run, each with who was in service mode then. -/
def motions (service : ServiceConfig) : List SiteEvent → List Motion := alongRun motion service []

def ServicePc.untold (user : Bytes) : ServicePc → List Motion
  | .moved c ok => if c.moves then [⟨c.action, user, flagText (ok || c.clears.isSome)⟩] else []
  | .cleared c => if c.moves then [⟨c.action, user, flagText true⟩] else []
  | _ => []

theorem told_fault (code : FaultCode) (reason : Bytes) (nowNs : ℕ) : told (LogEntry.doc (code.entry reason nowNs)) = none := rfl

theorem told_session {action : Bytes}
    (haction : action ∉ [ascii "open", ascii "close", ascii "dispense", ascii "jam_clear_hopper"]) (user : Bytes) (ts : ℕ) :
    told (LogEntry.doc (sessionEntry action user ts)) = none := if_neg haction

theorem told_command (c : ServiceCommand) (ok : Bool) (user : Bytes) (ts : ℕ) :
    told (LogEntry.doc (c.entry ok user ts)) = if c.moves then some ⟨c.action, user, flagText ok⟩ else none := by
  cases c <;> rfl

/-- An entry that tells of no motion changes nothing, however it comes out. -/
theorem told_append (s : Site) {kv : LogEntry} (w : Append) (hkv : told kv.doc = none) :
    ((s.append kv w).log.map LogEntry.doc).filterMap told = (s.log.map LogEntry.doc).filterMap told := by
  cases w <;> simp [Site.append, hkv]

/-- The file takes what is logged of a command. -/
def Noted (e : SiteEvent) : Prop :=
  match e with
  | .logged _ _ _ w => w = .whole
  | _ => True

/-- A motion is told of when its command is over, and no one enters or leaves before that. -/
theorem told_step (h : s.Step safety service e s') (he : Noted e) :
    (s'.log.map LogEntry.doc).filterMap told ++ s'.pc.untold s'.user =
      (s.log.map LogEntry.doc).filterMap told ++ s.pc.untold s.user ++ (motion s.user e).toList := by
  cases e with
  | read level =>
    obtain ⟨-, rfl⟩ := h
    simp [motion]
  | settle line active nowNs w =>
    obtain ⟨rest, -, rfl⟩ := h
    by_cases hraised : (active && !s.poll.prev line) = true
    · simp [motion, hraised, told_append s w (told_fault line.code line.reason nowNs)]
    · simp [motion, hraised]
  | raise code reason latch nowNs w =>
    obtain rfl := h
    simp [motion, told_append s w (told_fault code reason nowNs)]
  | enter pin user ts w =>
    obtain ⟨hidle, rfl⟩ := h
    split_ifs
    · simp [motion, hidle, ServicePc.untold, told_append s w (told_session (show ascii "enter" ∉ _ by decide) user ts)]
    · simp [motion]
  | exit ts w =>
    obtain ⟨hidle, rfl⟩ := h
    by_cases hactive : s.active = true
    · simp [motion, hidle, ServicePc.untold, hactive,
        told_append s w (told_session (show ascii "exit" ∉ _ by decide) s.user ts)]
    · simp [motion, hidle, ServicePc.untold, hactive]
  | call c passed =>
    obtain ⟨hidle, -, rfl⟩ := h
    split_ifs
    · simp [motion, hidle, ServicePc.untold]
    · simp [motion]
  | move c ok =>
    obtain ⟨hguarded, hmoves, rfl⟩ := h
    simp [motion, hguarded, ServicePc.untold, hmoves]
  | clear c code =>
    obtain ⟨hclears, hpc, rfl⟩ := h
    rcases hpc with ⟨hguarded, hmoves⟩ | ⟨ok, hmoved⟩
    · simp [motion, hguarded, ServicePc.untold, hmoves]
    · simp [motion, hmoved, ServicePc.untold, hclears]
  | logged c ok ts w =>
    obtain ⟨hpc, rfl⟩ := h
    obtain rfl : w = .whole := he
    rcases hpc with ⟨hmoved, hclears⟩ | ⟨hcleared, rfl⟩
    · cases hmoves : c.moves <;> simp [motion, hmoved, ServicePc.untold, told_command, hmoves, hclears, Site.append]
    · cases hmoves : c.moves <;> simp [motion, hcleared, ServicePc.untold, told_command, hmoves, Site.append]

theorem told_run (h : Run (Site.Step safety service) {} es s) (hnoted : ∀ e ∈ es, Noted e) :
    (s.log.map LogEntry.doc).filterMap told ++ s.pc.untold s.user = motions service es := by
  induction h with
  | nil => rfl
  | @snoc es s e s' hrun hstep ih =>
    obtain ⟨hbefore, hlast⟩ := List.forall_mem_append.mp hnoted
    rw [told_step hstep (hlast e List.mem_cons_self), ih hbefore, motions, alongRun_snoc, ← inSession_run hrun]

/-- With every command over, the motions that are read in the log are those that there were, in their order and each with
who was in service mode, if all texts from outside that were logged can be written as they are, no line is written in part and
the file takes what is logged of each command. -/
theorem motions_told (h : Run (Site.Step safety service) {} es s) (hidle : s.pc = .idle)
    (hcut : ∀ e ∈ es, Uncut e) (hnoted : ∀ e ∈ es, Noted e) (hverbatim : ∀ text ∈ outsideTexts service es, Verbatim text) :
    ((lines 10 s.file).map JsonReader.read).filterMap (fun d => d.bind told) = motions service es := by
  rw [(filed_run h hcut).read_iff.mpr ((legible_run h).mpr hverbatim), ← told_run h hnoted, hidle]
  simp [ServicePc.untold, List.filterMap_map]

def nudgeEvents : List SiteEvent :=
  [.enter (ascii "1234") (ascii "tech") 1 .refused, .call .jamClearHopper true, .raise .jamShutter (ascii "slow") true 2 .whole,
    .move .jamClearHopper false, .clear .jamClearHopper .jamHopper, .logged .jamClearHopper true 3 .whole]

theorem uncut_nudge : ∀ e ∈ nudgeEvents, Uncut e ∧ Noted e := by
  simp [nudgeEvents, Uncut, Noted, SiteEvent.write]

/-- A nudge that did not help, and the log of it. -/
theorem motions_told_sample : ∃ s, Run (Site.Step {} {}) {} nudgeEvents s ∧
    ((lines 10 s.file).map JsonReader.read).filterMap (fun d => d.bind told) =
      [⟨ascii "jam_clear_hopper", ascii "tech", ascii "true"⟩] := by
  have hentered : Run (Site.Step {} {}) {} [.enter (ascii "1234") (ascii "tech") 1 .refused] _ := Run.snoc Run.nil ⟨rfl, rfl⟩
  have hcalled := Run.snoc hentered (e := SiteEvent.call .jamClearHopper true) ⟨rfl, rfl, rfl⟩
  have hraised := Run.snoc hcalled (e := SiteEvent.raise .jamShutter (ascii "slow") true 2 .whole) rfl
  have hmoved := Run.snoc hraised (e := SiteEvent.move .jamClearHopper false) ⟨rfl, rfl, rfl⟩
  have hcleared := Run.snoc hmoved (e := SiteEvent.clear .jamClearHopper .jamHopper) ⟨rfl, Or.inr ⟨false, rfl⟩, rfl⟩
  have hlogged := Run.snoc hcleared (e := SiteEvent.logged .jamClearHopper true 3 .whole) ⟨Or.inr ⟨rfl, rfl⟩, rfl⟩
  exact ⟨_, hlogged, motions_told hlogged rfl (fun e he => (uncut_nudge e he).1) (fun e he => (uncut_nudge e he).2) (by decide)⟩

end Drawer
