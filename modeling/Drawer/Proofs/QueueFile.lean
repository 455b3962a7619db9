import Drawer.Sanity.DiskQueue

/-! A message in its file. The payload is written whole and read as one line, so a
payload of several lines loses all but the first. Its bytes are counted right either
way. -/

namespace Drawer.Iot
open Text DiskQueue

/-- The file of the message reads as the message, and a queue that takes the message counts the bytes of its file. -/
structure Survives (m : MqttMessage) : Prop where
  read : readFile (some { data := fileText m }) = .ok (some m)
  counted : ∀ (q : DiskQueue) ts, (q.enqueue ts .done m).1 = true →
    ((q.enqueue ts .done m).2.dir.lookup (fileName ts q.seq)).map File.data = some (fileText m) ∧
      (q.enqueue ts .done m).2.bytes = q.bytes + UInt64.ofNat (fileText m).length

theorem need_eq (m : MqttMessage) : need m = UInt64.ofNat (fileText m).length := by
  simp [need, fileText, add_assoc]

theorem enqueue_counted (q : DiskQueue) (ts : Int) (m : MqttMessage) (h : (q.enqueue ts .done m).1 = true) :
    ((q.enqueue ts .done m).2.dir.lookup (fileName ts q.seq)).map File.data = some (fileText m) ∧
      (q.enqueue ts .done m).2.bytes = q.bytes + UInt64.ofNat (fileText m).length := by
  unfold enqueue at h ⊢
  split_ifs at h ⊢ with hfull
  dsimp only
  rw [AList.lookup_insert, ← need_eq]
  exact ⟨rfl, rfl⟩

/-- A message with a topic that keeps to its field survives its file if and only if its payload is one line. -/
theorem survives_iff (m : MqttMessage) (htopic : 9 ∉ m.topic ∧ 10 ∉ m.topic) : Survives m ↔ 10 ∉ m.payload := by
  constructor
  · intro h
    have hread := h.read
    rw [readFile_firstLine htopic] at hread
    have hpayload := congrArg MqttMessage.payload (Option.some.inj (Except.ok.inj hread))
    intro hmem
    simpa using List.takeWhile_eq_self_iff.mp hpayload 10 hmem
  · intro h
    exact ⟨readFile_fileText ⟨htopic, h⟩, fun q ts => enqueue_counted q ts m⟩

theorem survives_iff_line : Survives { topic := ascii "pos/shifts", payload := ascii "one line" } :=
  (survives_iff { topic := ascii "pos/shifts", payload := ascii "one line" } (by decide)).mpr (by decide)

/-- Of two lines the second is gone. -/
theorem second_line_lost : ¬ ∀ m : MqttMessage, 9 ∉ m.topic ∧ 10 ∉ m.topic → Survives m := by
  intro h
  have hread := (h { topic := ascii "pos/shifts", payload := ascii "first\nsecond" } (by decide)).read
  revert hread
  decide +kernel

end Drawer.Iot
