import Mathlib
import Runbook.Number.Parts

/-!
# Binary numbers by mantissa and exponent

Taking a number apart gives what the format packs into its bits, each number can be told by its
parts, and what is packed within range comes out again.
-/

namespace Runbook.Number

open Float.Model (UnpackedFloat Format)
open Float.Model.UnpackedFloat (Sign unpackMantissa unpackExponent unpackSign)

/-- The mantissa and the exponent with which the format writes a number: the mantissa has 53 bits,
or fewer at the least exponent. There is no largest exponent here. -/
structure IsBinary (mantissa : Nat) (exponent : Int) : Prop where
  lt : mantissa < 2 ^ 53
  least : -1074 ≤ exponent
  full : 2 ^ 52 ≤ mantissa ∨ exponent = -1074

theorem isBinary_zero : IsBinary 0 (-1074) := ⟨by decide, by decide, .inr rfl⟩

def unpacked (s : Sign) (mantissa : Nat) (exponent : Int) : UnpackedFloat :=
  if h : mantissa = 0 then .zero s else .finite s mantissa exponent (Nat.pos_of_ne_zero h)

theorem unpacked_zero (s : Sign) (e : Int) : unpacked s 0 e = .zero s := by simp [unpacked]

theorem unpacked_of_pos {m : Nat} (hm : 0 < m) (s : Sign) (e : Int) :
    unpacked s m e = .finite s m e hm := by
  simp [unpacked, hm.ne']

def isNegative : Sign → Bool
  | .negative => true
  | .positive => false

def Parts.ofUnpacked : UnpackedFloat → Parts
  | .notANumber => .nan
  | .infinity s => .infinite (isNegative s)
  | .zero s => .finite (isNegative s) 0 (-1074)
  | .finite s m e _ => .finite (isNegative s) m e

theorem Parts.ofUnpacked_unpacked {m : Nat} {e : Int} (h : IsBinary m e) (s : Sign) :
    Parts.ofUnpacked (unpacked s m e) = .finite (isNegative s) m e := by
  by_cases hm : m = 0
  · have he : e = -1074 := h.full.resolve_left (by omega)
    simp [hm, he, unpacked_zero, ofUnpacked]
  · rw [unpacked_of_pos (Nat.pos_of_ne_zero hm), ofUnpacked]

/-! ## Taking bits apart -/

section

variable (b : BitVec Format.binary64.numBits)

theorem toNat_unpackMantissa : (unpackMantissa b).toNat = b.toNat % 2 ^ 52 := by
  simp [unpackMantissa]

theorem toNat_unpackExponent : (unpackExponent b).toNat = b.toNat / 2 ^ 52 % 2 ^ 11 := by
  simp [unpackExponent, Nat.shiftRight_eq_div_pow]

theorem toNat_unpackSign : (unpackSign b).toNat = b.toNat / 2 ^ 63 := by
  have hlt : b.toNat < 2 ^ 64 := b.isLt
  simp [unpackSign, Nat.shiftRight_eq_div_pow]
  omega

theorem isNegative_unpackSign :
    isNegative (Sign.ofBitVec (unpackSign b)) = (b.toNat / 2 ^ 63 == 1) := by
  have hsign := toNat_unpackSign b
  have hlt := (unpackSign b).isLt
  rw [← hsign, Sign.ofBitVec]
  by_cases hzero : unpackSign b = 0#1
  · simp [hzero, isNegative]
  · have hone : (unpackSign b).toNat = 1 := by
      have hne : (unpackSign b).toNat ≠ 0 := fun h => hzero (BitVec.eq_of_toNat_eq h)
      omega
    simp [hzero, hone, isNegative]

theorem unpackExponent_eq_iff (n : Nat) (hn : n < 2 ^ 11) :
    unpackExponent b = BitVec.ofNat 11 n ↔ b.toNat / 2 ^ 52 % 2 ^ 11 = n := by
  rw [← BitVec.toNat_inj, toNat_unpackExponent, BitVec.toNat_ofNat, Nat.mod_eq_of_lt hn]

theorem unpackMantissa_eq_zero_iff : unpackMantissa b = 0#52 ↔ b.toNat % 2 ^ 52 = 0 := by
  rw [← BitVec.toNat_inj, toNat_unpackMantissa, BitVec.toNat_zero]

end

theorem toNat_append_one (m : BitVec 52) : (1#1 ++ m).toNat = 2 ^ 52 + m.toNat := by
  rw [BitVec.toNat_append, ← Nat.shiftLeft_add_eq_or_of_lt m.isLt]
  rfl

theorem parts_eq_ofUnpacked (x : Float) : parts x = Parts.ofUnpacked x.toModel.unpack := by
  have hbits : ∃ b : BitVec Format.binary64.numBits,
      x.toBits.toNat = b.toNat ∧ x.toModel.unpack = UnpackedFloat.unpack .binary64 b :=
    ⟨x.toModel.toBits.toBitVec, rfl, rfl⟩
  obtain ⟨b, hbits, hunpack⟩ := hbits
  have hones : unpackExponent b = -1#_ ↔ b.toNat / 2 ^ 52 % 2 ^ 11 = 2047 :=
    unpackExponent_eq_iff b 2047 (by decide)
  have hzero : unpackExponent b = 0#_ ↔ b.toNat / 2 ^ 52 % 2 ^ 11 = 0 :=
    unpackExponent_eq_iff b 0 (by decide)
  have hmantissa := unpackMantissa_eq_zero_iff b
  rw [hunpack]
  unfold parts UnpackedFloat.unpack
  simp only [hbits, hones, hzero, hmantissa, Nat.pow_eq]
  have hbias : (Format.binary64.exponentBias : ℤ) = 1023 := rfl
  have hsign := isNegative_unpackSign b
  have hm := toNat_unpackMantissa b
  have he := toNat_unpackExponent b
  have hfull := toNat_append_one (unpackMantissa b)
  split_ifs with h1 h2 h3 h4
  · simp only [Parts.ofUnpacked, hsign]
  · rfl
  · simp only [Parts.ofUnpacked, hsign, h4]
  · simp only [Parts.ofUnpacked, hsign, hm, he, h3, hbias]
    rfl
  · simp only [Parts.ofUnpacked, hsign, hfull, hm, he, hbias]
    rfl

theorem eq_of_parts_eq {x y : Float} (h : parts x = parts y) : x = y := by
  rw [parts_eq_ofUnpacked, parts_eq_ofUnpacked] at h
  have hunpack : x.toModel.unpack = y.toModel.unpack := by
    generalize x.toModel.unpack = u at h
    generalize y.toModel.unpack = w at h
    rcases u with (_ | _) | _ | (_ | _) | ⟨_ | _, m, e, hm⟩ <;>
      rcases w with (_ | _) | _ | (_ | _) | ⟨_ | _, n, f, hn⟩ <;>
      simp_all [Parts.ofUnpacked, isNegative] <;> omega
  have hbits := (UnpackedFloat.unpack_inj_of_valid x.toModel.valid y.toModel.valid).mp hunpack
  exact Float.toBits_inj.mp (UInt64.toBitVec_inj.mp hbits)

theorem isBinary_of_parts {x : Float} {negative : Bool} {m : Nat} {e : Int}
    (h : parts x = .finite negative m e) : IsBinary m e ∧ e ≤ 971 := by
  unfold parts at h
  simp only [Nat.pow_eq] at h
  split_ifs at h with hones hfraction hzero
  · obtain ⟨-, rfl, rfl⟩ := Parts.finite.inj h
    exact ⟨⟨by omega, by omega, .inr rfl⟩, by omega⟩
  · obtain ⟨-, rfl, rfl⟩ := Parts.finite.inj h
    exact ⟨⟨by omega, by omega, .inl (by omega)⟩, by omega⟩

/-! ## Packing -/

theorem unpack_packComponents (s : Sign) {biased fraction : Nat} (hb : biased < 2047)
    (hf : fraction < 2 ^ 52) :
    UnpackedFloat.unpack .binary64 (UnpackedFloat.packComponents .binary64 s
        (BitVec.ofNat _ biased) (BitVec.ofNat _ fraction)) =
      if biased = 0 then unpacked s fraction (-1074)
      else unpacked s (2 ^ 52 + fraction) (biased - 1075) := by
  have hexponent : (BitVec.ofNat 11 biased).toNat = biased := by
    rw [BitVec.toNat_ofNat, Nat.mod_eq_of_lt (by omega)]
  have hfraction : (BitVec.ofNat 52 fraction).toNat = fraction := by
    rw [BitVec.toNat_ofNat, Nat.mod_eq_of_lt hf]
  have hones : BitVec.ofNat 11 biased ≠ -1#11 := by
    intro heq
    have : biased = 2047 := hexponent.symm.trans (congrArg BitVec.toNat heq)
    omega
  have hzero : BitVec.ofNat 11 biased = 0#11 ↔ biased = 0 := by
    rw [← BitVec.toNat_inj, hexponent, BitVec.toNat_zero]
  have hnone : BitVec.ofNat 52 fraction = 0#52 ↔ fraction = 0 := by
    rw [← BitVec.toNat_inj, hfraction, BitVec.toNat_zero]
  have hfull := toNat_append_one (BitVec.ofNat 52 fraction)
  have hbias : (Format.binary64.exponentBias : ℤ) = 1023 := rfl
  unfold UnpackedFloat.unpack
  simp only [UnpackedFloat.unpackMantissa_packComponents, UnpackedFloat.unpackExponent_packComponents,
    UnpackedFloat.unpackSign_packComponents, Sign.ofBitVec_toBitVec, if_neg hones, hzero, hnone]
  split_ifs with hb0 hf0
  · rw [hf0, unpacked_zero]
  · simp only [hfraction, hbias, hb0]
    rw [unpacked_of_pos (Nat.pos_of_ne_zero hf0)]
    rfl
  · simp only [hfull, hfraction, hexponent, hbias]
    rw [unpacked_of_pos (by omega)]
    rfl

theorem unpack_pack {m : Nat} {e : Int} (h : IsBinary m e) (he : e ≤ 971) (s : Sign) :
    (Float.Model.pack (unpacked s m e)).unpack = unpacked s m e := by
  have hbias : (Format.binary64.exponentBias : ℤ) = 1023 := rfl
  have hbits : Format.binary64.mantissaBits = 53 := rfl
  have hlt := h.lt
  have hleast := h.least
  change UnpackedFloat.unpack .binary64 (UnpackedFloat.pack .binary64 (unpacked s m e)) = _
  by_cases hm : m = 0
  · rw [hm, unpacked_zero]
    exact UnpackedFloat.unpack_packedZero
  have hpos : 0 < m := Nat.pos_of_ne_zero hm
  have hrange : ¬2 ^ Format.binary64.exponentBits ≤ (e + 1023 + (52 : ℕ)).toNat + 1 := by
    change ¬2 ^ 11 ≤ _
    omega
  rw [unpacked_of_pos hpos]
  simp only [UnpackedFloat.pack, hbias, hbits, if_neg hrange]
  by_cases hfull : 2 ^ 52 ≤ m
  · have hlog : m.log2 = 52 := (Nat.log2_eq_iff hm).mpr ⟨hfull, hlt⟩
    have hmod : BitVec.ofNat 52 m = BitVec.ofNat 52 (m - 2 ^ 52) := by
      apply BitVec.eq_of_toNat_eq
      simp only [BitVec.toNat_ofNat]
      omega
    have hmantissa : 2 ^ 52 + (m - 2 ^ 52) = m := by omega
    have hexponent : ((e + 1023 + (52 : ℕ)).toNat : ℤ) - 1075 = e := by omega
    rw [if_pos (by omega), hmod, unpack_packComponents s (by omega) (by omega), if_neg (by omega),
      hmantissa, hexponent, unpacked_of_pos hpos]
  · have hlog : m.log2 < 52 := (Nat.log2_lt hm).mpr (by omega)
    rw [if_neg (by omega), h.full.resolve_left hfull,
      unpack_packComponents s (by omega) (by omega), if_pos rfl, unpacked_of_pos hpos]

theorem parts_pack {m : Nat} {e : Int} (h : IsBinary m e) (s : Sign) :
    parts (.ofModel (.pack (unpacked s m e))) =
      if e ≤ 971 then .finite (isNegative s) m e else .infinite (isNegative s) := by
  rw [parts_eq_ofUnpacked]
  split_ifs with he
  · rw [unpack_pack h he, Parts.ofUnpacked_unpacked h]
  · have hm : m ≠ 0 := by
      rintro rfl
      have := h.full
      omega
    have hpack : Float.Model.pack (unpacked s m e) = .pack (.infinity s) := by
      have hrange : 2 ^ Format.binary64.exponentBits ≤ (e + 1023 + (52 : ℕ)).toNat + 1 := by
        change 2 ^ 11 ≤ _
        omega
      have hbias : (Format.binary64.exponentBias : ℤ) = 1023 := rfl
      rw [unpacked_of_pos (Nat.pos_of_ne_zero hm)]
      simp only [Float.Model.pack, UnpackedFloat.pack, hbias, if_pos hrange]
    rw [hpack]
    cases s <;> rfl

/-! ## Signs -/

theorem unpack_of_parts {x : Float} {s : Sign} {m : Nat} {e : Int}
    (h : parts x = .finite (isNegative s) m e) : x.toModel.unpack = unpacked s m e := by
  rw [parts_eq_ofUnpacked] at h
  generalize x.toModel.unpack = u at h
  rcases u with (_ | _) | _ | (_ | _) | ⟨_ | _, n, f, hn⟩ <;> cases s <;>
    simp only [Parts.ofUnpacked, isNegative, Parts.finite.injEq, reduceCtorEq, false_and] at h
  all_goals obtain ⟨-, rfl, rfl⟩ := h
  all_goals first | exact (unpacked_zero _ _).symm | exact (unpacked_of_pos hn _ _).symm

theorem exists_unpacked {x : Float} {negative : Bool} {m : Nat} {e : Int}
    (h : parts x = .finite negative m e) :
    ∃ s, isNegative s = negative ∧ x.toModel.unpack = unpacked s m e := by
  cases negative
  · exact ⟨.positive, rfl, unpack_of_parts h⟩
  · exact ⟨.negative, rfl, unpack_of_parts h⟩

theorem neg_unpacked (s : Sign) (m : Nat) (e : Int) : (unpacked s m e).neg = unpacked (-s) m e := by
  unfold unpacked
  split <;> rfl

def Parts.neg : Parts → Parts
  | .nan => .nan
  | .infinite negative => .infinite !negative
  | .finite negative m e => .finite (!negative) m e

theorem parts_nan : parts nan = .nan := by decide

theorem parts_infinity : parts infinity = .infinite false := by decide

theorem parts_neg_infinity : parts (-infinity) = .infinite true := by decide

theorem parts_neg (x : Float) : parts (-x) = (parts x).neg := by
  cases hx : parts x with
  | nan =>
    rw [eq_of_parts_eq (hx.trans parts_nan.symm)]
    decide
  | infinite negative =>
    cases negative with
    | false =>
      rw [eq_of_parts_eq (hx.trans parts_infinity.symm)]
      exact parts_neg_infinity
    | true =>
      rw [eq_of_parts_eq (hx.trans parts_neg_infinity.symm)]
      decide
  | finite negative m e =>
    obtain ⟨hbinary, he⟩ := isBinary_of_parts hx
    obtain ⟨s, rfl, hunpack⟩ := exists_unpacked hx
    change parts (.ofModel (.pack x.toModel.unpack.neg)) = _
    rw [hunpack, neg_unpacked, parts_pack hbinary, if_pos he]
    cases s <;> rfl

theorem isNaN_iff_parts (x : Float) : x.isNaN = true ↔ parts x = .nan := by
  rw [parts_eq_ofUnpacked]
  change x.toModel.unpack.isNaN = true ↔ _
  cases x.toModel.unpack <;> simp [UnpackedFloat.isNaN, Parts.ofUnpacked]

end Runbook.Number
