import Drawer.Sanity.Agent

/-! What a manifest's signature fixes. The signed text leaves out everything from
the signature's key to the next comma, and the agent reads its fields from the
uncut text: a field that is not read completely before the cut can be put into
the part that is cut out, under the same signature. -/

namespace Drawer.Ota
open Text

/-! ### Reading up to a cut -/

theorem valueFrom_skip {u : Bytes} (h : 58 ∉ u) (s : Bytes) : valueFrom (u ++ s) = valueFrom s := by
  unfold valueFrom
  rw [show ascii ":" = [58] from rfl, find_byte_skip h]
  cases find [58] s <;> rfl

theorem valueFrom_colon {w x : Bytes} (hw : 34 ∉ w) (hx : 34 ∉ x) (y : Bytes) :
    valueFrom (58 :: (w ++ 34 :: (x ++ 34 :: y))) = x := by
  have hw' : (34 : UInt8) ∉ 58 :: w := by simp [hw]
  have hopen := find_byte hw' (x ++ 34 :: y)
  rw [List.cons_append] at hopen
  unfold valueFrom
  rw [show ascii ":" = [58] from rfl, show ascii "\"" = [34] from rfl, find_byte_here]
  simp only [hopen, List.drop_succ_cons, List.drop_zero, find_byte hx]

/-- The last byte comes after an earlier, different one. -/
theorem mem_of_getLast? {u t : Bytes} {c d : UInt8} (h : (u ++ c :: t).getLast? = some d) (hne : c ≠ d) : d ∈ t := by
  rw [List.getLast?_append_of_ne_nil _ (List.cons_ne_nil c t)] at h
  cases t with
  | nil => exact absurd (Option.some.inj h) hne
  | cons b t =>
    rw [List.getLast?_cons_cons] at h
    exact List.mem_of_getLast? h

/-- After a colon and two quotes, the rest of the text has no say in the value. -/
theorem valueFrom_append {s v : Bytes} (hs : 58 ∈ s) (hlast : s.getLast? = some 34) (hv : 34 ∈ v) (y : Bytes) :
    valueFrom (s ++ v ++ y) = valueFrom (s ++ v) := by
  obtain ⟨u, t, rfl, hu⟩ := List.eq_append_cons_of_mem hs
  have ht : (34 : UInt8) ∈ t := mem_of_getLast? hlast (by decide)
  obtain ⟨w, t', rfl, hw⟩ := List.eq_append_cons_of_mem ht
  obtain ⟨x, y', hx', hx⟩ := List.eq_append_cons_of_mem (List.mem_append_right t' hv)
  have hleft : u ++ 58 :: (w ++ 34 :: t') ++ v ++ y = u ++ 58 :: (w ++ 34 :: (x ++ 34 :: (y' ++ y))) := by
    have := congrArg (· ++ y) hx'
    simp only [List.append_assoc, List.cons_append] at this ⊢
    rw [this]
  have hright : u ++ 58 :: (w ++ 34 :: t') ++ v = u ++ 58 :: (w ++ 34 :: (x ++ 34 :: y')) := by
    simp only [List.append_assoc, List.cons_append, hx']
  rw [hleft, hright, valueFrom_skip hu, valueFrom_skip hu, valueFrom_colon hw hx, valueFrom_colon hw hx]

theorem quote_not_mem_valueFrom (s : Bytes) : 34 ∉ valueFrom s := by
  unfold valueFrom
  split
  · simp
  · split
    · simp
    · split
      · simp
      · rename_i hfind
        intro hmem
        obtain ⟨y, -, hy⟩ := find_byte_split (c := 34) hfind
        obtain ⟨x, z, rfl, hx⟩ := List.eq_append_cons_of_mem hmem
        rw [hy, List.append_assoc, List.cons_append, show ascii "\"" = [34] from rfl, find_byte hx] at hfind
        obtain ⟨h1, -⟩ := Prod.mk.inj (Option.some.inj hfind)
        simp at h1

def keyRest : Bytes := ascii "sig_ed25519" ++ [34]

theorem quoted_sig : quoted "sig_ed25519" = 34 :: keyRest := rfl

theorem append_quoted_sig (a x : Bytes) : a ++ (quoted "sig_ed25519" ++ x) = a ++ [34] ++ (keyRest ++ x) := by
  simp [quoted_sig]

/-- A suffix that ends the text ends with the text's last byte. -/
theorem getLast?_of_find {pat a a' s : Bytes} (hp : pat ≠ []) (h : find pat (a ++ [34]) = some (a', s)) :
    s.getLast? = some 34 := by
  obtain ⟨hs, hpre⟩ := find_split h
  have hne : s ≠ [] := by
    rintro rfl
    exact hp (List.prefix_nil.mp hpre)
  have hl := congrArg List.getLast? hs
  rw [List.getLast?_append, List.getLast?_append_of_ne_nil _ hne] at hl
  simpa using hl.symm

theorem quoted_ne_nil (key : String) : quoted key ≠ [] := by simp [quoted, delimited]

section Cut
variable {a x : Bytes}

theorem find_sig (hfresh : find (quoted "sig_ed25519") (a ++ [34]) = none) (x : Bytes) :
    find (quoted "sig_ed25519") (a ++ (quoted "sig_ed25519" ++ x)) = some (a, quoted "sig_ed25519" ++ x) := by
  have hquote : (34 : UInt8) ∉ ascii "sig_ed25519" := by decide
  have hhere : find (quoted "sig_ed25519") (34 :: (keyRest ++ x)) = some ([], 34 :: (keyRest ++ x)) :=
    find_here ⟨x, rfl⟩
  refine (find_delimited_skip hquote hfresh (keyRest ++ x)).trans ?_
  rw [← quoted, hhere, quoted_sig]
  simp

theorem signature_of_fresh (hfresh : find (quoted "sig_ed25519") (a ++ [34]) = none) :
    signature (a ++ (quoted "sig_ed25519" ++ x)) = valueFrom x := by
  have hno : (58 : UInt8) ∉ quoted "sig_ed25519" := by decide
  unfold signature extractString
  rw [find_sig hfresh]
  exact valueFrom_skip hno x

/-- A string field whose key comes before the cut is read before the cut, or it is the signature. -/
theorem extractString_cut {key : String} (hfresh : find (quoted "sig_ed25519") (a ++ [34]) = none)
    (hkey : Reached key [] a) :
    (∀ x, extractString (a ++ (quoted "sig_ed25519" ++ x)) key = extractString (a ++ quoted "sig_ed25519") key) ∨
    (∀ x, extractString (a ++ (quoted "sig_ed25519" ++ x)) key = signature (a ++ (quoted "sig_ed25519" ++ x))) := by
  obtain ⟨a', s, hfind, -⟩ := hkey
  have hread : ∀ x, extractString (a ++ (quoted "sig_ed25519" ++ x)) key = valueFrom (s ++ keyRest ++ x) := by
    intro x
    unfold extractString
    rw [append_quoted_sig, find_append hfind, List.append_assoc]
  have hread0 : extractString (a ++ quoted "sig_ed25519") key = valueFrom (s ++ keyRest) := by
    have := hread []
    simpa using this
  by_cases hs : 58 ∈ s
  · left
    intro x
    rw [hread, hread0, valueFrom_append hs (getLast?_of_find (quoted_ne_nil key) hfind) (by decide)]
  · right
    intro x
    have hno : (58 : UInt8) ∉ s ++ keyRest := by
      rw [List.mem_append, not_or]
      exact ⟨hs, by decide⟩
    rw [hread, valueFrom_skip hno, signature_of_fresh hfresh]

theorem extractStage_cut (hkey : Reached "rollout_percent" (ascii ":") a) (x : Bytes) :
    extractStage (a ++ (quoted "sig_ed25519" ++ x)) "rollout_percent" =
      extractStage (a ++ quoted "sig_ed25519") "rollout_percent" := by
  obtain ⟨a', s, hfind, hcolon⟩ := hkey
  obtain ⟨⟨u, t⟩, hut⟩ := Option.isSome_iff_exists.mp (find_isSome_iff.mpr hcolon)
  obtain ⟨t', rfl, hs⟩ := find_byte_split (c := 58) hut
  have hlast := getLast?_of_find (quoted_ne_nil _) hfind
  -- the digits end before the quote of the signature's key
  have hstop : ∀ y, (t' ++ y).takeWhile isDigit = t'.takeWhile isDigit := by
    intro y
    have ht : (34 : UInt8) ∈ t' := mem_of_getLast? (hs ▸ hlast) (by decide)
    rw [List.takeWhile_append, if_neg]
    intro hlen
    have hall := List.takeWhile_eq_self_iff.mp ((List.takeWhile_prefix isDigit).eq_of_length hlen)
    exact absurd (hall _ ht) (by decide)
  have hread : ∀ y, extractStage (a ++ [34] ++ y) "rollout_percent" = stoi (t'.takeWhile isDigit) := by
    intro y
    unfold extractStage
    rw [find_append hfind]
    simp only [find_append hut, List.cons_append, List.drop_succ_cons, List.drop_zero, hstop]
  rw [append_quoted_sig, hread, quoted_sig, ← hread keyRest]
  simp

theorem containsToken_cut (hkey : Reached "revoked_devices" (ascii "]") a) (x : Bytes) :
    containsToken (a ++ (quoted "sig_ed25519" ++ x)) "revoked_devices" =
      containsToken (a ++ quoted "sig_ed25519") "revoked_devices" := by
  obtain ⟨a', s, hfind, hbracket⟩ := hkey
  obtain ⟨⟨u, t⟩, hut⟩ := Option.isSome_iff_exists.mp (find_isSome_iff.mpr hbracket)
  have hread : ∀ y token, containsToken (a ++ [34] ++ y) "revoked_devices" token =
      if token = [] then false else (find token u).isSome := by
    intro y token
    unfold containsToken
    rw [find_append hfind]
    simp only [find_append hut, Option.some_or]
  funext token
  rw [append_quoted_sig, hread, quoted_sig, ← hread keyRest]
  simp

/-- Before a firm cut the fields are read, whatever the region that is cut out holds. -/
theorem fields_cut {sig : Bytes} (hfresh : find (quoted "sig_ed25519") (a ++ [34]) = none) (hfirm : Firm a)
    (hsig : signature (a ++ (quoted "sig_ed25519" ++ x)) = sig) :
    fields (a ++ (quoted "sig_ed25519" ++ x)) = fields (a ++ member sig) := by
  have hquote : 34 ∉ sig := by
    rw [← hsig, signature_of_fresh hfresh]
    exact quote_not_mem_valueFrom x
  have hmember : member sig = quoted "sig_ed25519" ++ 58 :: ([] ++ 34 :: (sig ++ 34 :: [])) := by
    simp only [member, List.append_assoc]
    rfl
  have hsig' : signature (a ++ member sig) = sig := by
    rw [hmember, signature_of_fresh hfresh, valueFrom_colon (by simp) hquote]
  have hstring : ∀ key ∈ stringKeys,
      extractString (a ++ (quoted "sig_ed25519" ++ x)) key = extractString (a ++ member sig) key := by
    intro key hkey
    rcases extractString_cut hfresh (hfirm.strings key hkey) with h | h
    · rw [h, hmember, h]
    · rw [h, hsig, hmember, h, ← hmember, hsig']
  ext1
  · exact hstring "channel" (by simp [stringKeys])
  · exact hstring "version" (by simp [stringKeys])
  · exact hstring "artifact_url" (by simp [stringKeys])
  · exact hstring "sha256" (by simp [stringKeys])
  · exact (extractStage_cut hfirm.rollout x).trans (hmember ▸ (extractStage_cut hfirm.rollout _).symm)
  · exact (containsToken_cut hfirm.revoked x).trans (hmember ▸ (containsToken_cut hfirm.revoked _).symm)

end Cut

/-! ### Where a signature can have been cut out -/

theorem uncut_spec (s : Bytes) : ∃ r, s = r ++ uncut s ∧ CutEnd (uncut s) := by
  unfold uncut
  cases hc : find (ascii ",") s with
  | some p =>
    obtain ⟨t, hb, hs⟩ := find_byte_split (c := 44) hc
    exact ⟨p.1, by simp only [hs, hb], Or.inl ⟨t, hb⟩⟩
  | none =>
    have hcomma : 44 ∉ s := find_byte_eq_none_iff.mp hc
    cases hr : rfind 125 s with
    | none => exact ⟨s, by simp, Or.inr (Or.inr rfl)⟩
    | some b =>
      obtain ⟨r, t, rfl, rfl, ht⟩ := rfind_split hr
      refine ⟨r, rfl, Or.inr (Or.inl ⟨t, rfl, fun h => hcomma ?_, ht⟩)⟩
      simp [h]

/-- A signed manifest was cut at a place of its signed text. -/
theorem cutPoint_of_signed {m : Bytes} (h : signature m ≠ []) :
    ∃ a x b, m = a ++ (quoted "sig_ed25519" ++ x) ∧ CutPoint (verifyPayload m) a b := by
  cases hf : find (quoted "sig_ed25519") m with
  | none => exact absurd (show signature m = [] by simp only [signature, extractString, hf]) h
  | some p =>
    obtain ⟨a, s⟩ := p
    obtain ⟨rfl, x, rfl⟩ := find_split hf
    obtain ⟨r, -, hstop⟩ := uncut_spec (quoted "sig_ed25519" ++ x)
    refine ⟨a, x, uncut (quoted "sig_ed25519" ++ x), rfl, ?_, hstop, find_delimited_fresh hf⟩
    simp only [verifyPayload, hf]

theorem sealed_of_settled {text sig : Bytes} (hne : sig ≠ []) (h : Settled text sig) : Sealed text sig := by
  rintro m₁ m₂ h₁ h₂ rfl hsig
  obtain ⟨a₁, x₁, b₁, hm₁, hcut₁⟩ := cutPoint_of_signed hne
  obtain ⟨a₂, x₂, b₂, hm₂, hcut₂⟩ := cutPoint_of_signed (hsig ▸ hne)
  rw [h₁] at hcut₁
  rw [h₂] at hcut₂
  have hf₁ := fields_cut hcut₁.fresh (h a₁ b₁ hcut₁).1 (congrArg signature hm₁).symm
  have hf₂ := fields_cut hcut₂.fresh (h a₂ b₂ hcut₂).1 ((congrArg signature hm₂).symm.trans hsig)
  calc fields m₁ = fields (a₁ ++ member (signature m₁)) := hm₁ ▸ hf₁
    _ = fields (a₂ ++ member (signature m₁)) := (h a₁ b₁ hcut₁).2 a₂ b₂ hcut₂
    _ = fields m₂ := hm₂ ▸ hf₂.symm

/-! ### Forging a manifest under a given signature -/

theorem not_mem_sig {sig : Bytes} (hsig : IsSig sig) {c : UInt8} (hc : isBase64 c = false) : c ∉ sig :=
  fun h => by simp [hsig.2 c h] at hc

def forge (a x b : Bytes) : Bytes := a ++ (quoted "sig_ed25519" ++ (x ++ b))

theorem verifyPayload_forge {text a x b : Bytes} (hcut : CutPoint text a b) (hcomma : 44 ∉ x) (hbrace : 125 ∉ x) :
    verifyPayload (forge a x b) = text := by
  have hfind := find_sig hcut.fresh (x ++ b)
  have hcomma' : (44 : UInt8) ∉ quoted "sig_ed25519" ++ x := by
    rw [List.mem_append, not_or]
    exact ⟨by decide, hcomma⟩
  have hbrace' : (125 : UInt8) ∉ quoted "sig_ed25519" ++ x := by
    rw [List.mem_append, not_or]
    exact ⟨by decide, hbrace⟩
  have huncut : uncut (quoted "sig_ed25519" ++ x ++ b) = b := by
    unfold uncut
    rw [show ascii "," = [44] from rfl, find_byte_skip hcomma']
    rcases hcut.stop with ⟨t, rfl⟩ | ⟨t, rfl, ht, ht'⟩ | rfl
    · rw [find_byte_here]
      rfl
    · have hnone : find [44] (125 :: t) = none := find_byte_eq_none_iff.mpr (by simp [ht])
      rw [hnone, rfind_append ht']
      rfl
    · rw [find_nil (by simp), List.append_nil, rfind_eq_none_iff.mpr hbrace']
      rfl
  unfold verifyPayload forge
  rw [hfind, ← List.append_assoc]
  simp only [huncut]
  exact hcut.split.symm

theorem signature_forge {text a b w sig y : Bytes} (hcut : CutPoint text a b) (hw : 34 ∉ w) (hsig : 34 ∉ sig) :
    signature (forge a (58 :: (w ++ 34 :: (sig ++ 34 :: y))) b) = sig := by
  rw [forge, signature_of_fresh hcut.fresh]
  simpa using valueFrom_colon hw hsig (y ++ b)

/-- The region `:"sig"` and then `y`. -/
def signed (sig y : Bytes) : Bytes := 58 :: ([] ++ 34 :: (sig ++ 34 :: y))

/-- A name that can be told from all that stands between the signature's key and the end of its value. -/
structure Foreign (key : String) : Prop where
  quote : 34 ∉ ascii key
  ne_sig : ascii "sig_ed25519" ≠ ascii key
  ne_colon : [58] ≠ ascii key
  ne_nil : [] ≠ ascii key

theorem foreign_stringKeys : ∀ key ∈ stringKeys, Foreign key := by
  simp only [stringKeys, List.forall_mem_cons]
  refine ⟨?_, ?_, ?_, ?_, by simp⟩ <;> constructor <;> decide

theorem foreign_rollout : Foreign "rollout_percent" := by
  constructor <;> decide

theorem foreign_revoked : Foreign "revoked_devices" := by
  constructor <;> decide

theorem colon_not_mem_stringKeys : ∀ key ∈ stringKeys, 58 ∉ ascii key := by decide

theorem member_stringKeys : ∀ key ∈ stringKeys, ∀ v ∈ [(48 : UInt8), 49], ∀ c ∈ [(44 : UInt8), 125],
    c ∉ quoted key ++ (58 :: ([] ++ 34 :: ([v] ++ [34]))) := by decide +kernel

theorem extractString_of_fields {m₁ m₂ : Bytes} (h : fields m₁ = fields m₂) {key : String} (hkey : key ∈ stringKeys) :
    extractString m₁ key = extractString m₂ key := by
  simp only [stringKeys, List.mem_cons, List.not_mem_nil, or_false] at hkey
  rcases hkey with rfl | rfl | rfl | rfl
  · exact congrArg Fields.channel h
  · exact congrArg Fields.version h
  · exact congrArg Fields.artifactUrl h
  · exact congrArg Fields.sha256 h

/-- A key that does not come before the cut is found in the region, behind the signature or in it. -/
theorem find_forge {key : String} (hkey : Foreign key) {a sig y b : Bytes} (hsig : 34 ∉ sig)
    (hnone : find (quoted key) (a ++ [34]) = none) :
    ∃ p u, find (quoted key) (forge a (signed sig (quoted key ++ y)) b) = some (p, u ++ (y ++ b)) ∧
      (u = quoted key ∨ u = delimited 34 sig ++ quoted key) := by
  have hshape : forge a (signed sig (quoted key ++ y)) b =
      a ++ 34 :: (ascii "sig_ed25519" ++ 34 :: ([58] ++ 34 :: (sig ++ 34 :: ([] ++ 34 :: (ascii key ++ 34 :: (y ++ b)))))) := by
    simp [forge, signed, quoted, delimited]
  rw [hshape]
  unfold quoted at hnone ⊢
  rw [find_delimited_skip hkey.quote hnone, find_delimited_other hkey.quote (by decide) hkey.ne_sig,
    find_delimited_other hkey.quote (by decide) hkey.ne_colon]
  by_cases hs : sig = ascii key
  · subst hs
    rw [find_delimited_here]
    exact ⟨_, _, congrArg some (Prod.ext rfl (by simp [delimited])), Or.inr rfl⟩
  · rw [find_delimited_other hkey.quote hsig hs, find_delimited_other hkey.quote (by decide) hkey.ne_nil,
      find_delimited_here]
    exact ⟨_, _, congrArg some (Prod.ext rfl (by simp [delimited])), Or.inl rfl⟩

theorem not_mem_region {key : String} {sig u : Bytes} {c : UInt8} (hsig : IsSig sig) (hc : isBase64 c = false)
    (hquote : c ≠ 34) (hkey : c ∉ ascii key) (hu : u = quoted key ∨ u = delimited 34 sig ++ quoted key) : c ∉ u := by
  have hs := not_mem_sig hsig hc
  rcases hu with rfl | rfl <;> simp [quoted, delimited, hquote, hkey, hs]

/-- The text from the list's key on starts with some `u`, no longer than what stands before `y` and
without a bracket. -/
theorem find_revoked {a b sig : Bytes} (hsig : IsSig sig)
    (hno : ∀ p, find (quoted "revoked_devices") (a ++ [34]) = some p → 93 ∉ p.2) (y : Bytes) :
    ∃ p u, find (quoted "revoked_devices") (forge a (signed sig (quoted "revoked_devices" ++ y)) b) = some (p, u ++ (y ++ b)) ∧
      93 ∉ u ∧ u.length < a.length + sig.length + 50 := by
  have hs : 93 ∉ sig := not_mem_sig hsig (by decide)
  cases hf : find (quoted "revoked_devices") (a ++ [34]) with
  | some p =>
    have hlen : p.2.length ≤ a.length + 1 := by
      have := congrArg List.length (find_split hf).1
      simp only [List.length_append, List.length_singleton] at this
      omega
    refine ⟨p.1, p.2 ++ keyRest ++ [58, 34] ++ sig ++ [34] ++ quoted "revoked_devices", ?_, ?_, ?_⟩
    · rw [forge, append_quoted_sig, find_append hf]
      simp [signed]
    · have hp := hno p hf
      have hlit : (93 : UInt8) ∉ keyRest ∧ (93 : UInt8) ∉ quoted "revoked_devices" := by decide
      simp [hp, hs, hlit]
    · have h1 : keyRest.length = 12 := rfl
      have h2 : (quoted "revoked_devices").length = 17 := rfl
      simp only [List.length_append, List.length_cons, List.length_nil, h1, h2]
      omega
  | none =>
    obtain ⟨p, u, hfind, hu⟩ := find_forge (y := y) (b := b) foreign_revoked (not_mem_sig hsig (by decide)) hf
    refine ⟨p, u, hfind, not_mem_region hsig (by decide) (by decide) (by decide) hu, ?_⟩
    have h2 : (quoted "revoked_devices").length = 17 := rfl
    rcases hu with rfl | rfl
    · omega
    · simp only [List.length_append, h2, delimited, List.length_cons, List.length_nil]
      omega

theorem takeWhile_cutEnd {b : Bytes} {d : UInt8} (hd : isDigit d = true) (hb : CutEnd b) : (d :: b).takeWhile isDigit = [d] := by
  rcases hb with ⟨t, rfl⟩ | ⟨t, rfl, -, -⟩ | rfl
  all_goals simp [hd, show isDigit 44 = false from rfl, show isDigit 125 = false from rfl]

theorem isBase64_of_cutEnd : ∀ c ∈ [(44 : UInt8), 125], isBase64 c = false ∧ c ≠ 58 ∧ c ≠ 34 := by
  decide +kernel

section Attack
variable {text a b sig : Bytes} (hcut : CutPoint text a b) (hsig : IsSig sig) (hsealed : Sealed text sig)
include hcut hsig hsealed

/-- Two regions after the signature's key that hold the signature give the same fields. -/
theorem Sealed.regions (w₁ w₂ y₁ y₂ : Bytes) (h₁ : ∀ c ∈ [44, 125], c ∉ w₁ ++ y₁) (h₂ : ∀ c ∈ [44, 125], c ∉ w₂ ++ y₂)
    (hw₁ : 34 ∉ w₁) (hw₂ : 34 ∉ w₂) :
    fields (forge a (58 :: (w₁ ++ 34 :: (sig ++ 34 :: y₁))) b) =
      fields (forge a (58 :: (w₂ ++ 34 :: (sig ++ 34 :: y₂))) b) := by
  have hquote : (34 : UInt8) ∉ sig := not_mem_sig hsig (by decide)
  have hregion : ∀ w y, (∀ c ∈ [44, 125], c ∉ w ++ y) → ∀ c ∈ [(44 : UInt8), 125],
      c ∉ 58 :: (w ++ 34 :: (sig ++ 34 :: y)) := by
    intro w y hwy c hc hmem
    obtain ⟨h64, hlit⟩ := isBase64_of_cutEnd c hc
    have hs : c ∉ sig := not_mem_sig hsig h64
    have hwy' := hwy c hc
    simp only [List.mem_append, not_or] at hwy'
    simp [hs, hlit, hwy'] at hmem
  exact hsealed _ _
    (verifyPayload_forge hcut (hregion _ _ h₁ 44 (by simp)) (hregion _ _ h₁ 125 (by simp)))
    (verifyPayload_forge hcut (hregion _ _ h₂ 44 (by simp)) (hregion _ _ h₂ 125 (by simp)))
    (signature_forge hcut hw₁ hquote) (signature_forge hcut hw₂ hquote)

theorem Sealed.appendices (y₁ y₂ : Bytes) (h₁ : ∀ c ∈ [44, 125], c ∉ y₁) (h₂ : ∀ c ∈ [44, 125], c ∉ y₂) :
    fields (forge a (signed sig y₁) b) = fields (forge a (signed sig y₂) b) :=
  Sealed.regions hcut hsig hsealed [] [] y₁ y₂ (by simpa using h₁) (by simpa using h₂) (by simp) (by simp)

theorem Sealed.string {key : String} (hkey : key ∈ stringKeys) : Reached key [] a := by
  cases hf : find (quoted key) (a ++ [34]) with
  | some p => exact ⟨p.1, p.2, hf, List.nil_infix⟩
  | none =>
    -- the value put into the region is the one that is read
    have hread : ∀ v, 34 ∉ v →
        extractString (forge a (signed sig (quoted key ++ (58 :: ([] ++ 34 :: (v ++ [34]))))) b) key = v := by
      intro v hv
      obtain ⟨p, u, hfind, hu⟩ := find_forge (foreign_stringKeys key hkey) (not_mem_sig hsig (by decide)) hf
      have hcolon : 58 ∉ u := not_mem_region hsig (by decide) (by decide) (colon_not_mem_stringKeys key hkey) hu
      unfold extractString
      rw [hfind]
      simp only
      rw [valueFrom_skip hcolon]
      simpa using valueFrom_colon (w := []) (by simp) hv b
    have hsame := Sealed.appendices hcut hsig hsealed
      (quoted key ++ (58 :: ([] ++ 34 :: ([48] ++ [34])))) (quoted key ++ (58 :: ([] ++ 34 :: ([49] ++ [34]))))
      (member_stringKeys key hkey 48 (by decide)) (member_stringKeys key hkey 49 (by decide))
    have hval := extractString_of_fields hsame hkey
    rw [hread [48] (by decide), hread [49] (by decide)] at hval
    exact absurd hval (by decide)

theorem Sealed.rollout : Reached "rollout_percent" (ascii ":") a := by
  have hdiff : stoi [49] ≠ stoi [50] := by decide
  cases hf : find (quoted "rollout_percent") (a ++ [34]) with
  | some p =>
    by_cases hcolon : 58 ∈ p.2
    · exact ⟨p.1, p.2, hf, (List.singleton_infix_iff _ _).mpr hcolon⟩
    · -- the percentage is put between the signature's colon and its value
      have hread : ∀ d, isDigit d = true →
          extractStage (forge a (58 :: ([d] ++ 34 :: (sig ++ 34 :: []))) b) "rollout_percent" = stoi [d] := by
        intro d hd
        have hno : (58 : UInt8) ∉ p.2 ++ keyRest := by
          rw [List.mem_append, not_or]
          exact ⟨hcolon, by decide⟩
        have hfound := find_append hf (keyRest ++ (58 :: ([d] ++ 34 :: (sig ++ 34 :: [])) ++ b))
        have hfind := find_byte hno (d :: 34 :: (sig ++ 34 :: b))
        unfold extractStage
        rw [forge, append_quoted_sig, hfound, show ascii ":" = [58] from rfl]
        simp only [List.append_assoc, List.cons_append, List.nil_append] at hfind ⊢
        rw [hfind]
        simp [hd, show isDigit 34 = false from rfl]
      have hsame := Sealed.regions hcut hsig hsealed [49] [50] [] []
        (by decide +kernel) (by decide +kernel) (by decide) (by decide)
      have hval := congrArg Fields.rolloutPercent hsame
      exact absurd ((hread 49 rfl).symm.trans (hval.trans (hread 50 rfl))) hdiff
  | none =>
    have hread : ∀ d, isDigit d = true →
        extractStage (forge a (signed sig (quoted "rollout_percent" ++ [58, d])) b) "rollout_percent" = stoi [d] := by
      intro d hd
      obtain ⟨p, u, hfind, hu⟩ := find_forge (y := [58, d]) (b := b) foreign_rollout (not_mem_sig hsig (by decide)) hf
      have hcolon : 58 ∉ u := not_mem_region hsig (by decide) (by decide) (by decide) hu
      unfold extractStage
      rw [hfind, show ascii ":" = [58] from rfl]
      simp only [List.cons_append, List.nil_append, find_byte hcolon, List.drop_succ_cons, List.drop_zero,
        takeWhile_cutEnd hd hcut.stop]
    have hsame := Sealed.appendices hcut hsig hsealed
      (quoted "rollout_percent" ++ [58, 49]) (quoted "rollout_percent" ++ [58, 50]) (by decide +kernel)
      (by decide +kernel)
    have hval := congrArg Fields.rolloutPercent hsame
    exact absurd ((hread 49 rfl).symm.trans (hval.trans (hread 50 rfl))) hdiff

theorem Sealed.revoked : Reached "revoked_devices" (ascii "]") a := by
  by_contra hnot
  have hno : ∀ p, find (quoted "revoked_devices") (a ++ [34]) = some p → 93 ∉ p.2 := by
    intro p hp hmem
    exact hnot ⟨p.1, p.2, hp, (List.singleton_infix_iff _ _).mpr hmem⟩
  -- a device whose id is too long to occur in what is already there
  let device : Bytes := List.replicate (a.length + sig.length + 50) 120
  have hdevice : ∀ c ≠ (120 : UInt8), c ∉ device := fun c hc hmem => hc (List.eq_of_mem_replicate hmem)
  have hne : device ≠ [] := by simp [device]
  have hyes : containsToken (forge a (signed sig (quoted "revoked_devices" ++ (device ++ [93]))) b)
      "revoked_devices" device = true := by
    obtain ⟨p, u, hfind, hu, -⟩ := find_revoked hsig hno (b := b) (device ++ [93])
    have hbracket : 93 ∉ u ++ device := by
      rw [List.mem_append, not_or]
      exact ⟨hu, hdevice 93 (by decide)⟩
    have hend := find_byte hbracket b
    unfold containsToken
    rw [if_neg hne, hfind, show ascii "]" = [93] from rfl]
    simp only [List.append_assoc, List.cons_append, List.nil_append] at hend ⊢
    rw [hend]
    exact find_isSome_iff.mpr (List.suffix_append u device).isInfix
  have hnope : containsToken (forge a (signed sig (quoted "revoked_devices" ++ [93])) b)
      "revoked_devices" device = false := by
    obtain ⟨p, u, hfind, hu, hlen⟩ := find_revoked hsig hno (b := b) [93]
    unfold containsToken
    rw [if_neg hne, hfind, show ascii "]" = [93] from rfl]
    simp only [List.cons_append, List.nil_append, find_byte hu, Option.some_or]
    rw [Bool.eq_false_iff, ne_eq, find_isSome_iff]
    intro hin
    have := hin.length_le
    simp [device] at this
    omega
  have hsame := Sealed.appendices hcut hsig hsealed
    (quoted "revoked_devices" ++ (device ++ [93])) (quoted "revoked_devices" ++ [93])
    (by
      have hlit : ∀ c ∈ [(44 : UInt8), 125], c ∉ quoted "revoked_devices" ∧ c ≠ 93 ∧ c ≠ 120 := by
        decide +kernel
      intro c hc
      obtain ⟨h1, h2, h3⟩ := hlit c hc
      simp [h1, h2, hdevice c h3])
    (by decide +kernel)
  have hval := congrFun (congrArg Fields.revoked hsame) device
  exact absurd (hyes.symm.trans (hval.trans hnope)) (by decide)

theorem Sealed.firm : Firm a :=
  ⟨fun _ hkey => Sealed.string hcut hsig hsealed hkey, Sealed.rollout hcut hsig hsealed,
    Sealed.revoked hcut hsig hsealed⟩

end Attack

theorem settled_of_sealed {text sig : Bytes} (hsig : IsSig sig) (h : Sealed text sig) : Settled text sig := by
  have hquote : (34 : UInt8) ∉ sig := not_mem_sig hsig (by decide)
  have hplain : ∀ c ∈ [(44 : UInt8), 125], c ∉ signed sig [] := by
    intro c hc
    obtain ⟨h64, h1, h2⟩ := isBase64_of_cutEnd c hc
    simp [signed, h1, h2, not_mem_sig hsig h64]
  -- the plain manifest at a cut point has the fields read before it
  have hread : ∀ a b, CutPoint text a b → verifyPayload (forge a (signed sig []) b) = text ∧
      signature (forge a (signed sig []) b) = sig ∧ fields (forge a (signed sig []) b) = fields (a ++ member sig) := by
    intro a b hcut
    have hs : signature (forge a (signed sig []) b) = sig := signature_forge hcut (by simp) hquote
    exact ⟨verifyPayload_forge hcut (hplain 44 (by simp)) (hplain 125 (by simp)), hs,
      fields_cut hcut.fresh (Sealed.firm hcut hsig h) hs⟩
  intro a b hcut
  refine ⟨Sealed.firm hcut hsig h, fun a' b' hcut' => ?_⟩
  obtain ⟨ht, hs, hf⟩ := hread a b hcut
  obtain ⟨ht', hs', hf'⟩ := hread a' b' hcut'
  rw [← hf, ← hf']
  exact h _ _ ht ht' hs hs'

/-- A signature binds the fields exactly if, at every place from which it can have been cut, the fields are
fixed by what comes before and are the same for all these places. -/
theorem binds_iff_settled (text sig : Bytes) (hsig : IsSig sig) : Binds text sig ↔ Settled text sig := by
  refine ⟨fun h => settled_of_sealed hsig h.1, fun h => ?_⟩
  have hsealed := sealed_of_settled hsig.1 h
  refine ⟨hsealed, fun cfg w st m₁ m₂ r₁ r₂ hreq hver hm₁ hm₂ => ?_⟩
  obtain ⟨ht₁, hs₁⟩ := hver _ _ _ ((vetted_of_vet hm₁).signed hreq)
  obtain ⟨ht₂, hs₂⟩ := hver _ _ _ ((vetted_of_vet hm₂).signed hreq)
  exact hsealed m₁ m₂ ht₁ ht₂ hs₁ hs₂

/-- A signed text without commas and braces, so that its only cut point is its end. -/
def spacedText : Bytes :=
  ascii "\"channel\":\"stable\" \"version\":\"2.0.0\" \"artifact_url\":\"file:///a\" " ++
  ascii "\"sha256\":\"00\" \"rollout_percent\":50 \"revoked_devices\":[\"d1\"]"

theorem binds_iff_settled_spaced : Binds spacedText (ascii "c2ln") := by
  have hcut : ∀ a b, CutPoint spacedText a b → a = spacedText := by
    rintro a b ⟨hs, ⟨t, rfl⟩ | ⟨t, rfl, -, -⟩ | rfl, -⟩
    · exact absurd (hs ▸ by simp : (44 : UInt8) ∈ spacedText) (by decide)
    · exact absurd (hs ▸ by simp : (125 : UInt8) ∈ spacedText) (by decide)
    · simpa using hs.symm
  refine (binds_iff_settled spacedText (ascii "c2ln") ⟨by decide, by decide +kernel⟩).mpr fun a b h => ?_
  obtain rfl := hcut a b h
  refine ⟨⟨by decide +kernel, by decide +kernel, by decide +kernel⟩, fun a' b' h' => ?_⟩
  rw [hcut a' b' h']

def signedFirst (extra : Bytes) : Bytes :=
  ascii "\x7b\"sig_ed25519\":\"c2ln\"" ++ extra ++
  ascii ",\"channel\":\"stable\",\"version\":\"1.1.0\",\"artifact_url\":\"file:///a\",\"sha256\":\"00\"\x7d"

theorem version_replaced_under_signature :
    ¬ ∀ m₁ m₂, verifyPayload m₁ = verifyPayload m₂ → signature m₁ = signature m₂ → fields m₁ = fields m₂ := by
  intro hclaim
  have hbad := hclaim (signedFirst []) (signedFirst (ascii " \"version\":\"9.9.9\"")) (by decide) (by decide)
  exact absurd (congrArg Fields.version hbad) (by decide)

end Drawer.Ota
