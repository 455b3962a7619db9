import Drawer.Lib.Base64
import Drawer.Lib.Casts
import Drawer.Spec.BasicAuth

/-! The encoder of the basic scheme. Its `val` is the number that the bytes so far spell, to the
modulus `2 ^ 32`. It is never masked, but what is read of it are the last fourteen bits at the
most, and those neither the modulus nor the sign of a shift changes. -/

namespace Drawer.Server
open Text Base64

namespace Basic

/-! ### The table -/

theorem table_eq : ∀ d < 64, table.getD d 0 = character d := by decide +kernel

theorem tableAt_ofNat (n : ℕ) {k : ℕ} (hk : k ≤ 26) : tableAt (Int32.ofNat n) k = character (n / 2 ^ k % 64) := by
  have hbits := Casts.int32_shiftRight_and n (show k < 32 by omega) (show 6 < 32 by decide) (by omega)
  have hmask : (0x3F : Int32) = Int32.ofNat (2 ^ 6 - 1) := rfl
  rw [tableAt, Int32.ofInt_eq_ofNat, hmask, hbits]
  exact table_eq _ (Nat.mod_lt _ (by decide))

/-! ### The loops -/

/-- `p` bits that are not yet written are written as far as they make whole digits. -/
theorem drain_eq (n : ℕ) {p : ℕ} (hp : p ≤ 32) (k : ℕ) :
    drain ⟨characters k (n / 2 ^ p), Int32.ofNat n, (p : Int) - 6⟩ =
      ⟨characters (k + p / 6) (n / 2 ^ (p % 6)), Int32.ofNat n, ((p % 6 : ℕ) : Int) - 6⟩ := by
  induction p using Nat.strong_induction_on generalizing k with
  | _ p ih =>
    rw [drain]
    dsimp only
    split_ifs with hvalb
    · obtain ⟨q, rfl⟩ : ∃ q, p = q + 6 := ⟨p - 6, by omega⟩
      have hq : ((q + 6 : ℕ) : Int) - 6 = q := by omega
      have hdigit : characters k (n / 2 ^ (q + 6)) ++ [tableAt (Int32.ofNat n) q] = characters (k + 1) (n / 2 ^ q) := by
        have hpow : 2 ^ (q + 6) = 2 ^ q * 64 := pow_add 2 q 6
        rw [tableAt_ofNat n (by omega), characters_succ, Nat.div_div_eq_div_mul, hpow]
      have hdiv : k + (q + 6) / 6 = k + 1 + q / 6 := by omega
      rw [hq, hdigit, ih q (by omega) (by omega), hdiv, Nat.add_mod_right]
    · have hlt : p < 6 := by omega
      rw [Nat.div_eq_of_lt hlt, Nat.mod_eq_of_lt hlt, Nat.add_zero]

/-- The state after some bytes: the digits that they make are written, and the bits of the next
digit are the last of `val`. -/
structure Encoded (seen : Bytes) (s : State) : Prop where
  out : s.out = characters (8 * seen.length / 6) (value seen / 2 ^ (8 * seen.length % 6))
  val : s.val = Int32.ofNat (value seen)
  valb : s.valb = ((8 * seen.length % 6 : ℕ) : Int) - 6

theorem Encoded.push {seen : Bytes} {s : State} (h : Encoded seen s) (c : UInt8) : Encoded (seen ++ [c]) (push s c) := by
  have hval : (s.val <<< 8) + Int32.ofNat c.toNat = Int32.ofNat (value (seen ++ [c])) := by
    rw [h.val, Casts.int32_shiftLeft_eight, value_concat, Int32.ofNat_add, Int32.ofNat_mul]
    rfl
  have hvalb : s.valb + 8 = ((8 * seen.length % 6 + 8 : ℕ) : Int) - 6 := by
    rw [h.valb]
    omega
  have hout : s.out = characters (8 * seen.length / 6) (value (seen ++ [c]) / 2 ^ (8 * seen.length % 6 + 8)) := by
    have hbyte : value (seen ++ [c]) / 256 = value seen := by
      have hc := c.toNat_lt
      rw [value_concat]
      omega
    rw [h.out, Nat.add_comm, pow_add, ← Nat.div_div_eq_div_mul, show 2 ^ 8 = 256 from rfl, hbyte]
  have hdigits : 8 * seen.length / 6 + (8 * seen.length % 6 + 8) / 6 = 8 * (seen ++ [c]).length / 6 := by
    rw [List.length_append, List.length_singleton]
    omega
  have hbits : (8 * seen.length % 6 + 8) % 6 = 8 * (seen ++ [c]).length % 6 := by
    rw [List.length_append, List.length_singleton]
    omega
  unfold Basic.push
  rw [hval, hvalb, hout, drain_eq _ (by omega), hdigits, hbits]
  exact ⟨rfl, rfl, rfl⟩

theorem encoded_foldl (input : Bytes) : Encoded input (input.foldl Basic.push {}) := by
  induction input using List.reverseRecOn with
  | nil => exact ⟨rfl, rfl, rfl⟩
  | append_singleton input c ih =>
    rw [List.foldl_append]
    exact ih.push c

theorem zero_bits (n : ℕ) {r : ℕ} (hr : r ≤ 6) :
    n * 256 / 2 ^ (r + 2) = n * 2 ^ (6 - r) ∧ n * 2 ^ (6 - r) / 64 = n / 2 ^ r := by
  have hbyte : 2 ^ (6 - r) * 2 ^ (r + 2) = 2 ^ 8 := by rw [← pow_add, show 6 - r + (r + 2) = 8 by omega]
  have hdigit : 2 ^ r * 2 ^ (6 - r) = 2 ^ 6 := by rw [← pow_add, show r + (6 - r) = 6 by omega]
  constructor
  · rw [show 256 = 2 ^ 8 from rfl, ← hbyte, ← Nat.mul_assoc, Nat.mul_div_cancel _ (by positivity)]
  · rw [show 64 = 2 ^ 6 from rfl, ← hdigit, Nat.mul_div_mul_right _ _ (by positivity)]

/-- The bits that are left are written as well, with the zero bits that fill their digit. -/
theorem Encoded.rest {seen : Bytes} {s : State} (h : Encoded seen s) :
    rest s = characters (digitCount seen.length) (value seen * 2 ^ filler seen.length) := by
  have hlt := Nat.mod_lt (8 * seen.length) (show 6 > 0 by decide)
  have hvalb := h.valb
  obtain hwhole | hpart := Nat.eq_zero_or_pos (8 * seen.length % 6)
  · have hdigits : digitCount seen.length = 8 * seen.length / 6 := by
      unfold digitCount
      omega
    have hfiller : filler seen.length = 0 := by
      unfold filler digitCount
      omega
    rw [Basic.rest, if_neg (by omega), h.out, hwhole, hdigits, hfiller, pow_zero, Nat.div_one, Nat.mul_one]
  · have hdigits : digitCount seen.length = 8 * seen.length / 6 + 1 := by
      unfold digitCount
      omega
    have hfiller : filler seen.length = 6 - 8 * seen.length % 6 := by
      unfold filler digitCount
      omega
    have hshift : s.valb + 8 = ((8 * seen.length % 6 + 2 : ℕ) : Int) := by omega
    have hval : s.val <<< 8 = Int32.ofNat (value seen * 256) := by
      rw [h.val, Casts.int32_shiftLeft_eight, Int32.ofNat_mul]
      rfl
    obtain ⟨hlast, hinit⟩ := zero_bits (value seen) hlt.le
    rw [Basic.rest, if_pos (by omega), h.out, hshift, hval, tableAt_ofNat _ (by omega), hlast, hdigits, hfiller,
      characters_succ, hinit]

theorem fill_eq (out : Bytes) : fill out = out ++ List.replicate ((4 - out.length % 4) % 4) pad := by
  induction out using fill.induct with
  | case1 out h ih =>
    have hcount : (4 - out.length % 4) % 4 = (4 - (out ++ [61]).length % 4) % 4 + 1 := by
      rw [List.length_append, List.length_singleton]
      omega
    rw [fill, if_pos h, ih, hcount, List.replicate_succ, List.append_assoc]
    rfl
  | case2 out h =>
    have hcount : (4 - out.length % 4) % 4 = 0 := by omega
    rw [fill, if_neg h, hcount, List.replicate_zero, List.append_nil]

theorem encode_closed (input : Bytes) :
    encode input = characters (digitCount input.length) (value input * 2 ^ filler input.length) ++
      List.replicate (filler input.length / 2) pad := by
  have hpad : (4 - digitCount input.length % 4) % 4 = filler input.length / 2 := by
    unfold filler digitCount
    omega
  rw [encode, (encoded_foldl input).rest, fill_eq, length_characters, hpad]

theorem encode_rfc4648 (input : Bytes) : encode input = Base64.encode input := by
  rw [encode_closed, encode_eq]

end Basic

/-! ### The check -/

variable {a : Start} {path auth : Bytes}

/-- A server that is in production, or that others can reach, does not start without a key. -/
theorem Start.authKey_ne_nil (h : a.safe = true) (hopen : a.production = true ∨ isLoopbackBind a.bind = false) :
    a.authKey ≠ [] := by
  intro hkey
  rcases hopen with hprod | hbind
  · simp [safe, hkey, hprod] at h
  · simp [safe, hkey, hbind] at h

/-- With a key, a request is let in just if its header has the key, in one of the two schemes. -/
theorem Start.authorize_iff (hkey : a.authKey ≠ []) (hpath : isProtectedPath path = true) :
    a.authorize path auth = .ok () ↔
      auth = ascii "Bearer " ++ a.authKey ∨ auth = ascii "Basic " ++ Base64.encode (58 :: a.authKey) := by
  have hbasic : basic a.authKey = ascii "Basic " ++ Base64.encode (58 :: a.authKey) := by
    rw [basic, if_neg hkey, Basic.encode_closed, encode_eq]
  have hloopback : a.allowUnauthLoopback = false := by simp [allowUnauthLoopback, hkey]
  unfold authorize
  simp only [hpath, hloopback, hbasic, Bool.not_true, Bool.false_eq_true, if_false]
  split_ifs with h
  · exact iff_of_true rfl h.2
  · exact iff_of_false (fun hok => nomatch hok) fun hauth => h ⟨hkey, hauth⟩

/-- The credentials of the basic scheme that are let in: no user, and the key for the password. -/
theorem Start.authorize_basic_iff (hkey : a.authKey ≠ []) (hpath : isProtectedPath path = true) (credentials : Bytes) :
    a.authorize path (ascii "Basic " ++ Base64.encode credentials) = .ok () ↔ credentials = 58 :: a.authKey := by
  have hscheme : ∀ s t : Bytes, ascii "Basic " ++ s ≠ ascii "Bearer " ++ t := by
    intro s t h
    cases h
  rw [authorize_iff hkey hpath, or_iff_right (hscheme _ _), List.append_cancel_left_eq]
  exact encode_injective.eq_iff

end Drawer.Server
