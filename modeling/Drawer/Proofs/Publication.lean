import Drawer.Sanity.Agent

/-! A manifest published with its signature. The signature's member is put in
with the comma before it, and the cut that restores the signed text begins at the
member's key: the comma stays. -/

namespace Drawer.Ota
open Text

theorem withSignature_eq {a t : Bytes} (ht : 125 ∉ t) (sig : Bytes) :
    withSignature (a ++ 125 :: t) sig = a ++ 44 :: (member sig ++ 125 :: t) := by
  have hlast : rfind 125 (a ++ 125 :: t) = some (125 :: t) := rfind_append ht a
  have htake : (a ++ 125 :: t).take ((a ++ 125 :: t).length - (125 :: t).length) = a := by simp
  simp only [withSignature, hlast, htake, show ascii "," = [44] from rfl]
  simp

theorem append_cons_ne {a s t : Bytes} {b c : UInt8} (h : b ≠ c) : a ++ b :: s ≠ a ++ c :: t := by
  intro heq
  exact h (List.cons.inj (List.append_cancel_left heq)).1

theorem uncut_of_comma {s : Bytes} (h : 44 ∈ s) : ∃ b, uncut s = 44 :: b := by
  obtain ⟨a, b, rfl, ha⟩ := List.eq_append_cons_of_mem h
  exact ⟨b, by rw [uncut, show ascii "," = [44] from rfl, find_byte ha]⟩

theorem verifyPayload_ne (sig : Bytes) {text : Bytes} (h : 125 ∈ text) : verifyPayload (withSignature text sig) ≠ text := by
  obtain ⟨b, hlast⟩ := Option.ne_none_iff_exists'.mp fun hnone => rfind_eq_none_iff.mp hnone h
  obtain ⟨a, t, rfl, rfl, ht⟩ := rfind_split hlast
  rw [withSignature_eq ht]
  have hkey : quoted "sig_ed25519" <:+: a ++ 44 :: (member sig ++ 125 :: t) :=
    ⟨a ++ [44], ascii ":\"" ++ sig ++ ascii "\"" ++ 125 :: t, by simp [member]⟩
  obtain ⟨⟨u, s⟩, hfind⟩ := Option.isSome_iff_exists.mp (find_isSome_iff.mpr hkey)
  obtain ⟨hsplit, x, hs⟩ := find_split hfind
  have hquote : ∃ s', s = 34 :: s' := ⟨_, hs.symm⟩
  obtain ⟨s', rfl⟩ := hquote
  have hverify : verifyPayload (a ++ 44 :: (member sig ++ 125 :: t)) = u ++ uncut (34 :: s') := by
    rw [verifyPayload, hfind]
  rw [hverify]
  rcases List.append_eq_append_iff.mp hsplit with ⟨u', rfl, hu⟩ | ⟨a', rfl, ha⟩
  · -- the key found is in the member put in, and the comma before it stays
    cases u' with
    | nil => cases hu
    | cons c u' =>
      obtain ⟨rfl, -⟩ := List.cons.inj hu
      rw [List.append_assoc]
      exact append_cons_ne (by decide)
  · -- the key's text stands earlier, and what is cut there was signed
    obtain ⟨b, hb⟩ := uncut_of_comma (s := 34 :: s') (by rw [ha]; simp)
    cases a' with
    | nil => cases ha
    | cons c a' =>
      obtain ⟨rfl, -⟩ := List.cons.inj ha
      rw [hb, List.append_assoc]
      exact append_cons_ne (by decide)

/-- What the agent verifies of a manifest with a signature put in is never the text that was signed. Where only
this text verifies, the manifest does not pass. -/
theorem published_rejected (text sig : Bytes) (h : 125 ∈ text) :
    verifyPayload (withSignature text sig) ≠ text ∧
      ∀ cfg w st r, cfg.requireSigned = true → (∀ pub t s, w.verifyPem pub t s = true → t = text) →
        vet cfg w st (withSignature text sig) ≠ .ok r := by
  have hne := verifyPayload_ne sig h
  refine ⟨hne, fun cfg w st r hreq hver hvet => hne ?_⟩
  exact hver _ _ _ ((vetted_of_vet hvet).signed hreq)

/-- A manifest that is signed as it stands, without the signature. -/
def unsigned : Bytes :=
  ascii "\x7b\"channel\":\"stable\",\"version\":\"1.1.0\",\"artifact_url\":\"file:///a\",\"sha256\":\"00\"\x7d"

theorem published_rejected_unsigned :
    verifyPayload (withSignature unsigned (ascii "c2ln")) ≠ unsigned ∧
      ∀ cfg w st r, cfg.requireSigned = true → (∀ pub t s, w.verifyPem pub t s = true → t = unsigned) →
        vet cfg w st (withSignature unsigned (ascii "c2ln")) ≠ .ok r :=
  published_rejected unsigned (ascii "c2ln") (by decide)

/-- The comma put in before the signature's member is verified too. -/
theorem comma_verified :
    withSignature unsigned (ascii "c2ln") = unsigned.dropLast ++ ascii ",\"sig_ed25519\":\"c2ln\"\x7d" ∧
      verifyPayload (withSignature unsigned (ascii "c2ln")) = unsigned.dropLast ++ ascii ",\x7d" ∧
      verifyPayload (withSignature unsigned (ascii "c2ln")) ≠ unsigned := by
  decide +kernel

end Drawer.Ota
