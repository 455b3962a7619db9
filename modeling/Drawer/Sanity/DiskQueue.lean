import Drawer.Spec.DiskQueue

/-! The files of the disk queue: what is written is read back, as long as the
message keeps to its lines and fields, and a directory is listed in the order of
its names. -/

namespace Drawer.Iot
open Text

/-! ### Files -/

/-- The message keeps to its lines and fields. -/
structure Framed (m : MqttMessage) : Prop where
  topic : 9 ∉ m.topic ∧ 10 ∉ m.topic
  payload : 10 ∉ m.payload

instance (m : MqttMessage) : Decidable (Framed m) :=
  decidable_of_iff ((9 ∉ m.topic ∧ 10 ∉ m.topic) ∧ 10 ∉ m.payload) ⟨fun h => ⟨h.1, h.2⟩, fun h => ⟨h.topic, h.payload⟩⟩

theorem headerFields_header {topic qos retain : Bytes} (htopic : 9 ∉ topic) (hqos : 9 ∉ qos) (hretain : 9 ∉ retain)
    (hne : retain ≠ []) : headerFields (topic ++ 9 :: (qos ++ 9 :: retain)) = some (topic, qos, retain) := by
  simp only [headerFields, getline_append htopic, getline_append hqos, getline_last hne hretain, Option.bind_eq_bind,
    Option.bind_some]
  rfl

/-- A header line is read back, and the next line for the payload. -/
theorem readFile_header {m : MqttMessage} (htopic : 9 ∉ m.topic ∧ 10 ∉ m.topic) (rest : Bytes) :
    readFile (some { data := header m ++ rest }) =
      .ok (some { m with payload := ((getline 10 rest).map Prod.fst).getD [] }) := by
  set retain := ascii (if m.retain then "1" else "0") with hretain
  have hdigit : 9 ∉ retain ∧ 10 ∉ retain ∧ retain ≠ [] := by
    rw [hretain]
    cases m.retain <;> decide
  set line := m.topic ++ 9 :: (decimal m.qos.toInt ++ 9 :: retain) with hline
  have htext : header m ++ rest = line ++ 10 :: rest := by
    simp [header, hline, hretain]
  have hnl : 10 ∉ line := by
    simp [hline, htopic.2, hdigit.2.1, notMem_decimal (b := 10) (by decide) m.qos.toInt]
  have hfields : headerFields line = some (m.topic, decimal m.qos.toInt, retain) := headerFields_header htopic.1
    (notMem_decimal (by decide) m.qos.toInt) hdigit.1 hdigit.2.2
  have hqos : stoi (decimal m.qos.toInt) = .ok m.qos.toInt :=
    stoi_decimal ⟨Int32.le_toInt _, Int32.toInt_le _⟩
  have hflag : stoi retain = .ok (if m.retain then 1 else 0) := by
    rw [hretain]
    cases m.retain <;> rfl
  rw [htext]
  have hback : Int32.ofInt m.qos.toInt = m.qos := Int32.ofInt_toInt m.qos
  have hkeep : decide ((if m.retain then (1 : Int) else 0) ≠ 0) = m.retain := by cases m.retain <;> rfl
  simp only [readFile, getline_append hnl, Option.getD_some, hfields, hqos, hflag, if_true]
  change Except.ok (some (MqttMessage.mk m.topic _ (Int32.ofInt m.qos.toInt) _)) = _
  rw [hback, hkeep]

/-- What is written of a message is read back, the payload up to the end of its first line. -/
theorem readFile_firstLine {m : MqttMessage} (htopic : 9 ∉ m.topic ∧ 10 ∉ m.topic) :
    readFile (some { data := fileText m }) = .ok (some { m with payload := m.payload.takeWhile fun b => b ≠ 10 }) := by
  have hline : (m.payload ++ [10]).takeWhile (fun b => b ≠ 10) = m.payload.takeWhile fun b => b ≠ 10 := by
    rw [List.takeWhile_append]
    split_ifs with hall
    · rw [List.takeWhile_eq_self_iff.mpr fun b hb => List.takeWhile_eq_self_iff.mp
        ((List.takeWhile_prefix _).eq_of_length hall) b hb]
      simp
    · rfl
  rw [fileText, List.append_assoc, readFile_header htopic, getline, if_neg (by simp), Option.map_some, Option.getD_some, hline]

theorem readFile_fileText {m : MqttMessage} (h : Framed m) : readFile (some { data := fileText m }) = .ok (some m) := by
  rw [readFile_firstLine h.topic, List.takeWhile_eq_self_iff.mpr (ne_of_not_mem h.payload)]

/-! ### Names -/

namespace DiskQueue

theorem nameLe_total (a b : Bytes) : nameLe a b = true ∨ nameLe b a = true := by
  simp only [nameLe, Bool.not_eq_true']
  exact Lexical.not_less_total _ _

theorem nameLe_antisymm {a b : Bytes} (hab : nameLe a b = true) (hba : nameLe b a = true) : a = b := by
  simp only [nameLe, Bool.not_eq_true'] at hab hba
  exact List.map_injective_iff.mpr (fun _ _ h => UInt8.toNat_inj.mp h) (Lexical.not_less_antisymm hab hba)

theorem nameLe_trans {a b c : Bytes} (hab : nameLe a b = true) (hbc : nameLe b c = true) : nameLe a c = true := by
  simp only [nameLe, Bool.not_eq_true'] at hab hbc ⊢
  exact Lexical.not_less_trans hab hbc

instance : Std.Total fun a b : Bytes => nameLe a b = true := ⟨nameLe_total⟩

instance : Std.Antisymm fun a b : Bytes => nameLe a b = true := ⟨fun _ _ => nameLe_antisymm⟩

instance : IsTrans Bytes fun a b => nameLe a b = true := ⟨fun _ _ _ => nameLe_trans⟩

/-- Names that are in order, and are all the names there are, are what a new listing finds. -/
theorem init_files {q : DiskQueue} {names : List Bytes} (horder : names.Pairwise fun a b => nameLe a b = true)
    (hperm : names.Perm q.dir.keys) : q.init.files = names :=
  List.Perm.eq_of_pairwise' (List.pairwise_insertionSort _ _) horder ((List.perm_insertionSort _ _).trans hperm.symm)

end DiskQueue
end Drawer.Iot
