import Drawer.Lib.Casts
import Drawer.Spec.Vendors

/-! The vendor adapters check the range of an amount after it was made an `int`. So
an amount in range need not be the one in the body: a longer integer wraps, a fraction
is cut, a truth value counts as a number and a text need only start with one. Bodies
without such amounts are mapped exactly. -/

namespace Drawer.Pos.Vendors
open Text Casts

/-! ### One amount -/

theorem Loose.not_denotes {texts : Bool} {v : Json Bytes} {n : Int} (h : Loose texts v n) : ¬ Denotes texts v n := by
  cases h with
  | @wrapped m hout =>
    have hin := int32_bmod m
    generalize m.bmod 4294967296 = n at hin
    rintro ⟨⟩
    omega
  | cut q => nofun
  | truth b => nofun
  | text hsent hread hplain =>
    rintro (_ | ⟨-, h⟩)
    exact hplain h

/-- What is read is an `int`. -/
theorem Loose.int32 {texts : Bool} {v : Json Bytes} {n : Int} (h : Loose texts v n) : -2147483648 ≤ n ∧ n ≤ 2147483647 := by
  cases h with
  | wrapped hout => exact int32_bmod _
  | cut q => exact int32_bmod _
  | truth b => cases b <;> decide
  | text hsent hread hplain =>
    exact stoi_int32 hread

theorem getInt32_int_eq (m : Int) : (Json.int m : Json Bytes).getInt32.map Int32.toInt = .ok (m.bmod 4294967296) := by
  simp [Json.getInt32, Json.getInt, Except.map]

theorem getInt32_float_eq (q : ℚ) :
    (Json.float q : Json Bytes).getInt32.map Int32.toInt = .ok ((q.num.tdiv q.den).bmod 4294967296) := by
  simp [Json.getInt32, Json.getInt, Except.map]

theorem getInt32_bool_eq (b : Bool) : (Json.bool b : Json Bytes).getInt32.map Int32.toInt = .ok (if b then 1 else 0) := by
  cases b <;> rfl

/-- A value that is no text is read by a cast. -/
theorem getInt32_ok_iff (texts : Bool) {v : Json Bytes} {n : Int} (htext : ∀ s, v ≠ .str s) :
    v.getInt32.map Int32.toInt = .ok n ↔ TakenFor texts v n ∧ -2147483648 ≤ n ∧ n ≤ 2147483647 := by
  constructor
  · intro h
    cases v with
    | int m =>
      obtain rfl := Except.ok.inj ((getInt32_int_eq m).symm.trans h)
      refine ⟨?_, int32_bmod m⟩
      by_cases hin : -2147483648 ≤ m ∧ m ≤ 2147483647
      · rw [bmod_of_int32 hin]
        exact Or.inl (.int m)
      · exact Or.inr (.wrapped (by omega))
    | float q =>
      obtain rfl := Except.ok.inj ((getInt32_float_eq q).symm.trans h)
      exact ⟨Or.inr (.cut q), int32_bmod _⟩
    | bool b =>
      obtain rfl := Except.ok.inj ((getInt32_bool_eq b).symm.trans h)
      exact ⟨Or.inr (.truth b), by cases b <;> decide⟩
    | str s => exact absurd rfl (htext s)
    | _ => cases h
  · rintro ⟨(_ | ⟨-, -⟩) | h, hin⟩
    · rw [getInt32_int_eq, bmod_of_int32 hin]
    · exact absurd rfl (htext _)
    · cases h with
      | wrapped hout => exact getInt32_int_eq _
      | cut q => exact getInt32_float_eq q
      | truth b => exact getInt32_bool_eq b
      | text => exact absurd rfl (htext _)

theorem stoi_ok_iff {s : Bytes} {n : Int} :
    stoi s = .ok n ↔ TakenFor true (.str s) n ∧ -2147483648 ≤ n ∧ n ≤ 2147483647 := by
  constructor
  · intro h
    refine ⟨?_, stoi_int32 h⟩
    by_cases hplain : Plain s n
    · exact Or.inl (.text rfl hplain)
    · exact Or.inr (.text rfl h hplain)
  · rintro ⟨(_ | ⟨-, hplain⟩) | h, hin⟩
    · rw [stoi_plain hplain, if_neg (by omega)]
    · cases h with
      | text hsent hread hplain => exact hread

theorem getInt32_ok_iff_taken {v : Json Bytes} {n : Int} :
    v.getInt32.map Int32.toInt = .ok n ↔ TakenFor false v n ∧ -2147483648 ≤ n ∧ n ≤ 2147483647 := by
  cases v with
  | str s =>
    refine iff_of_false (fun h => nomatch h) ?_
    rintro ⟨(_ | ⟨hsent, -⟩) | h, -⟩
    · cases hsent
    · cases h with
      | text hsent => cases hsent
  | _ => exact getInt32_ok_iff false nofun

theorem toInt_ok_iff {v : Json Bytes} {n : Int} :
    toInt v = .ok n ↔ TakenFor true v n ∧ -2147483648 ≤ n ∧ n ≤ 2147483647 := by
  by_cases htext : ∃ s, v = .str s
  · obtain ⟨s, rfl⟩ := htext
    exact stoi_ok_iff
  · rw [not_exists] at htext
    have hcast : toInt v = v.getInt32.map Int32.toInt := by
      cases v with
      | str s => exact absurd rfl (htext s)
      | _ => rfl
    rw [hcast]
    exact getInt32_ok_iff true htext

/-! ### One body -/

theorem memberAt_ok_iff {j v : Json Bytes} {key : String} : memberAt j key = .ok v ↔ j.member (ascii key) = some v := by
  cases j with
  | obj members =>
    cases h : (Json.obj members).member (ascii key) <;> simp [memberAt, h]
  | _ => simp [memberAt, Json.member]

theorem map_toInt_ok {x : Except Exn Int32} {m : Int32} (h : x = .ok m) : x.map Int32.toInt = .ok m.toInt := by
  rw [h]
  rfl

theorem of_map_toInt_ok {x : Except Exn Int32} {n : Int} (h : x.map Int32.toInt = .ok n) : ∃ m, x = .ok m ∧ m.toInt = n := by
  cases x with
  | error e => cases h
  | ok m => exact ⟨m, rfl, Except.ok.inj h⟩

/-- A pair of amounts is read of the places, each by itself. -/
theorem amountsA_ok_iff {j : Json Bytes} {p d : Int} : vendorA.amounts j = .ok (p, d) ↔
    ∃ price deposit, placesA j = some (price, deposit) ∧ price.getInt32.map Int32.toInt = .ok p ∧
      deposit.getInt32.map Int32.toInt = .ok d := by
  constructor
  · intro h
    obtain ⟨price, hprice, h⟩ := Json.of_bind_ok h
    obtain ⟨p', hp, h⟩ := Json.of_bind_ok h
    obtain ⟨deposit, hdeposit, h⟩ := Json.of_bind_ok h
    obtain ⟨d', hd, h⟩ := Json.of_bind_ok h
    obtain ⟨rfl, rfl⟩ := Prod.mk.inj (Except.ok.inj h)
    rw [memberAt_ok_iff] at hprice hdeposit
    exact ⟨price, deposit, by simp [placesA, hprice, hdeposit], map_toInt_ok hp, map_toInt_ok hd⟩
  · rintro ⟨price, deposit, hplaces, hp, hd⟩
    obtain ⟨p', hp', rfl⟩ := of_map_toInt_ok hp
    obtain ⟨d', hd', rfl⟩ := of_map_toInt_ok hd
    simp only [placesA, Option.bind_eq_bind, Option.bind_eq_some_iff, Option.pure_def, Option.some.injEq, Prod.mk.injEq] at hplaces
    obtain ⟨price, hprice, deposit, hdeposit, rfl, rfl⟩ := hplaces
    rw [← memberAt_ok_iff] at hprice hdeposit
    simp only [vendorA, hprice, hdeposit, Json.ok_bind, hp', hd']
    rfl

theorem amountsB_ok_iff {j : Json Bytes} {p d : Int} : vendorB.amounts j = .ok (p, d) ↔
    ∃ price deposit, placesB j = some (price, deposit) ∧ toInt price = .ok p ∧ toInt deposit = .ok d := by
  constructor
  · intro h
    obtain ⟨amount, hamount, h⟩ := Json.of_bind_ok h
    obtain ⟨price, hprice, h⟩ := Json.of_bind_ok h
    obtain ⟨p', hp, h⟩ := Json.of_bind_ok h
    obtain ⟨deposit, hdeposit, h⟩ := Json.of_bind_ok h
    obtain ⟨d', hd, h⟩ := Json.of_bind_ok h
    obtain ⟨rfl, rfl⟩ := Prod.mk.inj (Except.ok.inj h)
    rw [memberAt_ok_iff] at hamount hprice hdeposit
    exact ⟨price, deposit, by simp [placesB, hamount, hprice, hdeposit], hp, hd⟩
  · rintro ⟨price, deposit, hplaces, hp, hd⟩
    simp only [placesB, Option.bind_eq_bind, Option.bind_eq_some_iff, Option.pure_def, Option.some.injEq, Prod.mk.injEq] at hplaces
    obtain ⟨amount, hamount, price, hprice, deposit, hdeposit, rfl, rfl⟩ := hplaces
    rw [← memberAt_ok_iff] at hamount hprice hdeposit
    simp only [vendorB, hamount, hprice, hdeposit, Json.ok_bind, hp, hd]
    rfl

theorem outside_eq_false_iff {p d : Int} : outside p d = false ↔ Payable p d := by
  simp only [outside, Bool.or_eq_false_iff, decide_eq_false_iff_not, not_lt, gt_iff_lt, Payable]
  constructor
  · rintro ⟨⟨⟨⟨hprice, -⟩, -⟩, hmax⟩, hle⟩
    exact ⟨hprice, hle, hmax⟩
  · rintro ⟨hprice, hle, hmax⟩
    exact ⟨⟨⟨⟨hprice, by omega⟩, by omega⟩, hmax⟩, hle⟩

section Request
variable {parse : Bytes → Except Exn (Json Bytes)} {hash : Bytes → UInt64} {a : Adapter} {body idemHdr : Bytes}

theorem caught_some {r : Except Exn (Option PurchaseRequest)} {req : PurchaseRequest} (h : caught r = some req) :
    r = .ok (some req) := by
  cases r with
  | error e => cases h
  | ok out => exact congrArg Except.ok h

/-- A body is taken with the amounts read of it, if they are in range and the seed can be read where it is needed. -/
theorem request_some {req : PurchaseRequest} (h : caught (a.request parse hash body idemHdr) = some req) :
    ∃ j, parse body = .ok j ∧ a.amounts j = .ok (req.priceCents, req.depositCents) ∧
      Payable req.priceCents req.depositCents ∧ (idemHdr = [] → ∃ text, a.seed j = .ok text) := by
  obtain ⟨j, hj, h⟩ := Json.of_bind_ok (caught_some h)
  obtain ⟨⟨p, d⟩, hamounts, h⟩ := Json.of_bind_ok h
  dsimp only at h
  split_ifs at h with hout hhdr
  · cases h
  · have hpay := outside_eq_false_iff.mp (Bool.eq_false_of_not_eq_true hout)
    obtain rfl := Option.some.inj (Except.ok.inj h)
    exact ⟨j, hj, hamounts, hpay, fun hempty => absurd hempty hhdr⟩
  · have hpay := outside_eq_false_iff.mp (Bool.eq_false_of_not_eq_true hout)
    obtain ⟨text, hseed, h⟩ := Json.of_bind_ok h
    obtain rfl := Option.some.inj (Except.ok.inj h)
    exact ⟨j, hj, hamounts, hpay, fun _ => ⟨text, hseed⟩⟩

theorem request_of_payable (hash : Bytes → UInt64) {j : Json Bytes} {p d : Int} (hj : parse body = .ok j)
    (hamounts : a.amounts j = .ok (p, d))
    (hpay : Payable p d) (hseed : idemHdr = [] → ∃ text, a.seed j = .ok text) :
    ∃ req, caught (a.request parse hash body idemHdr) = some req ∧ req.priceCents = p ∧ req.depositCents = d := by
  have hin : outside p d = false := outside_eq_false_iff.mpr hpay
  by_cases hhdr : idemHdr = []
  · obtain ⟨text, htext⟩ := hseed hhdr
    refine ⟨⟨p, d, deriveKey hash text p d⟩, ?_, rfl, rfl⟩
    simp [Adapter.request, hj, hamounts, hin, hhdr, htext, Json.ok_bind, Json.pure_ok, caught]
  · refine ⟨⟨p, d, idemHdr⟩, ?_, rfl, rfl⟩
    simp [Adapter.request, hj, hamounts, hin, hhdr, Json.ok_bind, Json.pure_ok, caught]

/-- An adapter that reads each amount of its place as `TakenFor` says maps a body exactly if no loose amount is in range. -/
theorem mapped_iff {texts : Bool} {places : Json Bytes → Option (Json Bytes × Json Bytes)}
    (hread : ∀ j p d, a.amounts j = .ok (p, d) ↔ ∃ price deposit, places j = some (price, deposit) ∧
      (TakenFor texts price p ∧ -2147483648 ≤ p ∧ p ≤ 2147483647) ∧
      (TakenFor texts deposit d ∧ -2147483648 ≤ d ∧ d ≤ 2147483647)) :
    Mapped texts places parse body (caught (a.request parse hash body idemHdr)) ↔
      Tight texts places parse body a.seed idemHdr := by
  constructor
  · intro h j price deposit p d hj hplaces hseed hp hd hpay
    have hint : (-2147483648 ≤ p ∧ p ≤ 2147483647) ∧ -2147483648 ≤ d ∧ d ≤ 2147483647 := by
      obtain ⟨h0, hle, hmax⟩ := hpay
      omega
    obtain ⟨req, hreq, rfl, rfl⟩ := request_of_payable hash hj
      ((hread j p d).mpr ⟨price, deposit, hplaces, ⟨hp, hint.1⟩, hd, hint.2⟩) hpay hseed
    obtain ⟨j', price', deposit', hj', hplaces', hprice, hdeposit, -⟩ := h req hreq
    obtain rfl := Except.ok.inj (hj.symm.trans hj')
    obtain ⟨rfl, rfl⟩ := Prod.mk.inj (Option.some.inj (hplaces.symm.trans hplaces'))
    exact ⟨fun hloose => hloose.not_denotes hprice, fun hloose => hloose.not_denotes hdeposit⟩
  · intro h req hreq
    obtain ⟨j, hj, hamounts, hpay, hseed⟩ := request_some hreq
    obtain ⟨price, deposit, hplaces, ⟨hp, -⟩, hd, -⟩ := (hread j _ _).mp hamounts
    obtain ⟨hprice, hdeposit⟩ := h j price deposit _ _ hj hplaces hseed hp hd hpay
    exact ⟨j, price, deposit, hj, hplaces, hp.resolve_right hprice, hd.resolve_right hdeposit, hpay⟩

end Request

/-- For every body, both adapters map it exactly if and only if no loose amount is in range. -/
theorem adapters_exact_iff (parse : Bytes → Except Exn (Json Bytes)) (hash : Bytes → UInt64) (body idemHdr : Bytes) :
    (Mapped false placesA parse body (parseVendorA parse hash body idemHdr) ↔
      Tight false placesA parse body vendorA.seed idemHdr) ∧
    (Mapped true placesB parse body (parseVendorB parse hash body idemHdr) ↔
      Tight true placesB parse body vendorB.seed idemHdr) := by
  refine ⟨mapped_iff fun j p d => ?_, mapped_iff fun j p d => ?_⟩
  · simp only [amountsA_ok_iff, getInt32_ok_iff_taken]
  · simp only [amountsB_ok_iff, toInt_ok_iff]

def longPrice : Json Bytes := .obj [(ascii "price_cents", .int 4294967396), (ascii "deposit_cents", .int 200)]

/-- It is taken for a purchase of 100 cents. -/
theorem longPrice_wraps : ¬ ∀ parse hash body idemHdr, Mapped false placesA parse body (parseVendorA parse hash body idemHdr) := by
  intro h
  have htaken : parseVendorA (fun _ => .ok longPrice) (fun _ => 0) [] (ascii "k") = some ⟨100, 200, ascii "k"⟩ := by
    decide +kernel
  obtain ⟨j, price, deposit, hj, hplaces, hprice, -⟩ := h _ _ _ _ _ htaken
  obtain rfl := Except.ok.inj hj
  obtain ⟨rfl, -⟩ := Prod.mk.inj (Option.some.inj hplaces)
  cases hprice

end Drawer.Pos.Vendors
