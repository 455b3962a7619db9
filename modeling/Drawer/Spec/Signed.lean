import Drawer.Spec.OtaAgent

/-! What a signature is meant to fix, and the places of a signed text from which
a signature can have been cut. -/

namespace Drawer.Ota
open Text

/-- What the agent acts on; `revoked` for every device id. -/
@[ext]
structure Fields where
  channel : Bytes
  version : Bytes
  artifactUrl : Bytes
  sha256 : Bytes
  rolloutPercent : Except Exn Int
  revoked : Bytes → Bool

def fields (m : Bytes) : Fields where
  channel := extractString m "channel"
  version := extractString m "version"
  artifactUrl := extractString m "artifact_url"
  sha256 := extractString m "sha256"
  rolloutPercent := extractStage m "rollout_percent"
  revoked := containsToken m "revoked_devices"

def stringKeys : List String := ["channel", "version", "artifact_url", "sha256"]

def signature (m : Bytes) : Bytes := extractString m "sig_ed25519"

/-- The signature `sig` fixes the fields of every manifest whose signed text is `text`. -/
def Sealed (text sig : Bytes) : Prop :=
  ∀ m₁ m₂, verifyPayload m₁ = text → verifyPayload m₂ = text → signature m₁ = sig → signature m₂ = sig →
    fields m₁ = fields m₂

/-- `Sealed`, and so under `require_signed` and a verifier that accepts only this text with this signature
all manifests that pass the agent's checks have the same fields. -/
def Binds (text sig : Bytes) : Prop :=
  Sealed text sig ∧ ∀ cfg w st m₁ m₂ r₁ r₂, cfg.requireSigned = true →
    (∀ pub t s, w.verifyPem pub t s = true → t = text ∧ s = sig) →
    vet cfg w st m₁ = .ok r₁ → vet cfg w st m₂ = .ok r₂ → fields m₁ = fields m₂

/-- A cut may end here: before a comma, before the last brace if no comma follows, or at the end. -/
def CutEnd (b : Bytes) : Prop :=
  (∃ t, b = 44 :: t) ∨ (∃ t, b = 125 :: t ∧ 44 ∉ t ∧ 125 ∉ t) ∨ b = []

/-- A signature can have been cut out of `text` between `a` and `b`. Its key must not come earlier,
nor be completed by the quote it starts with. -/
structure CutPoint (text a b : Bytes) : Prop where
  split : text = a ++ b
  stop : CutEnd b
  fresh : find (quoted "sig_ed25519") (a ++ [34]) = none

/-- The key, and `mark` after it, come before a cut at the end of `a`. -/
def Reached (key : String) (mark a : Bytes) : Prop :=
  ∃ a' s, find (quoted key) (a ++ [34]) = some (a', s) ∧ mark <:+: s

instance (key : String) (mark a : Bytes) : Decidable (Reached key mark a) :=
  match h : find (quoted key) (a ++ [34]) with
  | none => isFalse fun ⟨_, _, h', _⟩ => by rw [h] at h'; cases h'
  | some (a', s) =>
    decidable_of_iff (mark <:+: s)
      ⟨fun hm => ⟨a', s, h, hm⟩, fun ⟨_, _, h', hm⟩ => by rw [h] at h'; cases h'; exact hm⟩

/-- Nothing after a cut at the end of `a` has a say in the fields. -/
structure Firm (a : Bytes) : Prop where
  strings : ∀ key ∈ stringKeys, Reached key [] a
  rollout : Reached "rollout_percent" (ascii ":") a
  revoked : Reached "revoked_devices" (ascii "]") a

/-- The signature's member. -/
def member (sig : Bytes) : Bytes := quoted "sig_ed25519" ++ ascii ":\"" ++ sig ++ ascii "\""

/-- A signed manifest as it is published: the signature's member put in before the last brace of `text`. -/
def withSignature (text sig : Bytes) : Bytes :=
  match rfind 125 text with
  | none => text
  | some b => text.take (text.length - b.length) ++ ascii "," ++ member sig ++ b

/-- At every place from which the signature can have been cut, the fields are fixed by what comes
before, and they are the same for all these places. -/
def Settled (text sig : Bytes) : Prop :=
  ∀ a b, CutPoint text a b → Firm a ∧
    ∀ a' b', CutPoint text a' b' → fields (a ++ member sig) = fields (a' ++ member sig)

/-- The alphabet of base64, padding included. -/
def isBase64 (b : UInt8) : Bool :=
  (65 ≤ b && b ≤ 90) || (97 ≤ b && b ≤ 122) || isDigit b || b = 43 || b = 47 || b = 61

/-- A signature's text: not empty, and base64. -/
def IsSig (sig : Bytes) : Prop := sig ≠ [] ∧ ∀ b ∈ sig, isBase64 b = true

end Drawer.Ota
