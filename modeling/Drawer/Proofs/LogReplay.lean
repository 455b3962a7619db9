import Drawer.Proofs.Retention

/-! The log of a store that forgets nothing. Every put enters a record in the map
and appends a line that reads as that record, so what is read back from the log is
the map itself. -/

namespace Drawer.Pos.IdempotencyStore
open Text

/-- A put that can be logged does the same to the map and to what is read of the log. -/
theorem apply_put (s : IdempotencyStore) {p : Put} (hp : p.Recorded) :
    ∃ line r, readRec line = .ok r ∧
      apply s (.put p) = { s with map := s.map.insert r.key r, file := s.file ++ [line] } := by
  obtain ⟨key, payloadHash, _ | result, now⟩ := p
  · have hv : ∀ text ∈ [key, payloadHash], validUtf8 text = true := hp
    refine ⟨_, _, readRec_pendingLine key payloadHash now now [] (ascii "PENDING"), ?_⟩
    simp only [apply, putPending, writeLine_of_valid _ _ hv]
  · have hv : ∀ text ∈ [key, payloadHash, result], validUtf8 text = true := hp
    refine ⟨_, _, readRec_doneLine key payloadHash
      (if ((s.map.lookup key).getD {}).firstNs ≠ 0 then ((s.map.lookup key).getD {}).firstNs else now) now
      result (ascii "DONE"), ?_⟩
    simp only [apply, putDone, writeLine_of_valid _ _ hv]

theorem readLine_forever (now now' : Int) : readLine 0 now = readLine 0 now' := by
  funext m line
  simp [readLine]

theorem readLine_of_ok {line : Json Bytes} {r : IdemRec} (h : readRec line = .ok r) (now : Int) (m : Dict Bytes IdemRec) :
    readLine 0 now m line = m.insert r.key r := by
  simp [readLine, h]

theorem openOn_forever (file : List (Json Bytes)) (readAt sweptAt : Int) :
    openOn 0 file readAt sweptAt = { ttlNs := 0, map := file.foldl (readLine 0 readAt) ∅, file } := rfl

/-- The map is what the log says, and nothing expires. -/
structure Mirrored (s : IdempotencyStore) : Prop where
  forever : s.ttlNs = 0
  same : ∀ now, s.file.foldl (readLine 0 now) ∅ = s.map

theorem mirrored_openOn (file : List (Json Bytes)) (readAt sweptAt : Int) : Mirrored (openOn 0 file readAt sweptAt) := by
  rw [openOn_forever]
  exact ⟨rfl, fun now => by rw [readLine_forever now readAt]⟩

theorem Mirrored.put {s : IdempotencyStore} (h : Mirrored s) {p : Put} (hp : p.Recorded) : Mirrored (apply s (.put p)) := by
  obtain ⟨line, r, hread, heq⟩ := apply_put s hp
  rw [heq]
  refine ⟨h.forever, fun now => ?_⟩
  rw [List.foldl_append, h.same, List.foldl_cons, List.foldl_nil, readLine_of_ok hread]

theorem Mirrored.run {s : IdempotencyStore} (h : Mirrored s) {puts : List Put} (hputs : ∀ p ∈ puts, p.Recorded) :
    Mirrored ((puts.map Op.put).foldl apply s) := by
  induction puts generalizing s with
  | nil => exact h
  | cons p puts ih =>
    rw [List.forall_mem_cons] at hputs
    exact ih (h.put hputs.1) hputs.2

theorem Mirrored.reopen {s : IdempotencyStore} (h : Mirrored s) (readAt sweptAt : Int) : openOn 0 s.file readAt sweptAt = s := by
  obtain ⟨hforever, hsame⟩ := h
  rw [openOn_forever, hsame, ← hforever]

/-- After any sequence of puts on any log, a store opened anew answers every check as the live one does. -/
theorem log_faithful (file : List (Json Bytes)) (openedAt clearedAt readAt sweptAt : Int) (puts : List Put)
    (hputs : ∀ p ∈ puts, p.Recorded) (key payloadHash : Bytes) :
    (openOn 0 ((puts.map Op.put).foldl apply (openOn 0 file openedAt clearedAt)).file readAt sweptAt).check key payloadHash =
      ((puts.map Op.put).foldl apply (openOn 0 file openedAt clearedAt)).check key payloadHash := by
  rw [((mirrored_openOn file openedAt clearedAt).run hputs).reopen]

/-- One key pending, then done, and another pending. -/
def samplePuts : List Put :=
  [{ key := ascii "k-1", payloadHash := ascii "100:200", now := 5 },
   { key := ascii "k-1", payloadHash := ascii "100:200", result := some (ascii "\x7b\x7d"), now := 7 },
   { key := ascii "k-2", payloadHash := ascii "75:100", now := 9 }]

theorem log_faithful_sample :
    (openOn 0 ((samplePuts.map Op.put).foldl apply (openOn 0 [] 0 0)).file 10 10).check (ascii "k-1") (ascii "100:200") =
      ((samplePuts.map Op.put).foldl apply (openOn 0 [] 0 0)).check (ascii "k-1") (ascii "100:200") :=
  log_faithful [] 0 0 10 10 samplePuts (by decide +kernel) (ascii "k-1") (ascii "100:200")

end Drawer.Pos.IdempotencyStore
