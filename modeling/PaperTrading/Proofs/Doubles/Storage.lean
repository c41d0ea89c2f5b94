/-
Module: PaperTrading.Proofs.Doubles.Storage
Purpose: What is stored as a double is found again.
Main exports: IsPlaced, IsStorable, unpack_pack, unpack_pack_of_large, isStorable_unpack, pack_unpack

A finite double is a mantissa with a power of two.  The mantissa has fifty-three binary digits, the first of which is
not stored, or fewer on the finest grid.
-/
import Mathlib.Algebra.Ring.Nat
import PaperTrading.Proofs.Arithmetic.Doubles

namespace PaperTrading

open Float.Model

section Placing

/-- The mantissa and the exponent of a number as doubles have them: fifty-three binary digits, or fewer on the finest
grid. -/
structure IsPlaced (mantissa : Nat) (exponent : Int) : Prop where
  short : mantissa < 2 ^ 53
  fine : -1074 ≤ exponent
  full : 2 ^ 52 ≤ mantissa ∨ exponent = -1074

/-- What can be stored as a double. -/
def IsStorable : UnpackedFloat → Prop
  | .finite _ mantissa exponent _ => IsPlaced mantissa exponent ∧ exponent ≤ 971
  | _ => True

/-- What a calculation comes to before it is stored, where it may be too large. -/
def IsRounded : UnpackedFloat → Prop
  | .finite _ mantissa exponent _ => IsPlaced mantissa exponent
  | _ => True

end Placing

variable {sign : UnpackedFloat.Sign} {m n : Nat} {e f : Int} {positive : 0 < m} {positive' : 0 < n}
  {exponent : BitVec 11} {mantissa : BitVec 52}

theorem finite_congr {other : UnpackedFloat.Sign} (signs : sign = other) (mantissas : m = n) (exponents : e = f) :
    UnpackedFloat.finite sign m e positive = .finite other n f positive' := by
  subst signs mantissas exponents
  rfl

section Fields

variable {bits : BitVec Format.binary64.numBits}

/-- A mantissa with the digit in front that is not stored. -/
theorem toNat_implicit (mantissa : BitVec 52) : (1#1 ++ mantissa).toNat = 2 ^ 52 + mantissa.toNat := by
  rw [BitVec.toNat_append, ← Nat.shiftLeft_add_eq_or_of_lt mantissa.isLt]
  rfl

theorem isFinite_unpack_of_special (special : UnpackedFloat.unpackExponent bits = -1#11) :
    (UnpackedFloat.unpack .binary64 bits).isFinite = false := by
  have unpacked : UnpackedFloat.unpack .binary64 bits =
      if UnpackedFloat.unpackMantissa bits = 0#52 then .infinity _ else .notANumber := if_pos special
  rw [unpacked]
  split <;> rfl

theorem unpack_of_zero (small : UnpackedFloat.unpackExponent bits = 0#11)
    (zero : UnpackedFloat.unpackMantissa bits = 0#52) :
    UnpackedFloat.unpack .binary64 bits = .zero (.ofBitVec (UnpackedFloat.unpackSign bits)) := by
  have finite : UnpackedFloat.unpackExponent bits ≠ -1#11 := by
    rw [small]
    decide
  exact (if_neg finite).trans ((if_pos small).trans (dif_pos zero))

theorem unpack_of_small (small : UnpackedFloat.unpackExponent bits = 0#11)
    (positive : 0 < (UnpackedFloat.unpackMantissa bits).toNat) :
    UnpackedFloat.unpack .binary64 bits = .finite (.ofBitVec (UnpackedFloat.unpackSign bits))
      (UnpackedFloat.unpackMantissa bits).toNat (-1074) positive := by
  have finite : UnpackedFloat.unpackExponent bits ≠ -1#11 := by
    rw [small]
    decide
  have nonzero : UnpackedFloat.unpackMantissa bits ≠ 0#52 :=
    fun zero => Nat.pos_iff_ne_zero.1 positive (congrArg BitVec.toNat zero)
  have unpacked : UnpackedFloat.unpack .binary64 bits =
      .finite (.ofBitVec (UnpackedFloat.unpackSign bits)) (UnpackedFloat.unpackMantissa bits).toNat _ _ :=
    (if_neg finite).trans ((if_pos small).trans (dif_neg nonzero))
  rw [unpacked]
  refine finite_congr rfl rfl ?_
  rw [small]
  rfl

theorem unpack_of_full (finite : UnpackedFloat.unpackExponent bits ≠ -1#11)
    (large : UnpackedFloat.unpackExponent bits ≠ 0#11)
    (positive : 0 < 2 ^ 52 + (UnpackedFloat.unpackMantissa bits).toNat) :
    UnpackedFloat.unpack .binary64 bits = .finite (.ofBitVec (UnpackedFloat.unpackSign bits))
      (2 ^ 52 + (UnpackedFloat.unpackMantissa bits).toNat) ((UnpackedFloat.unpackExponent bits).toNat - 1075)
      positive := by
  have unpacked : UnpackedFloat.unpack .binary64 bits =
      .finite (.ofBitVec (UnpackedFloat.unpackSign bits)) (1#1 ++ UnpackedFloat.unpackMantissa bits).toNat _ _ :=
    (if_neg finite).trans (if_neg large)
  rw [unpacked]
  exact finite_congr rfl (toNat_implicit _) rfl

theorem ofBitVec_toBitVec (sign : UnpackedFloat.Sign) : UnpackedFloat.Sign.ofBitVec sign.toBitVec = sign := by
  cases sign <;> rfl

theorem toBitVec_ofBitVec (bit : BitVec 1) : (UnpackedFloat.Sign.ofBitVec bit).toBitVec = bit := by
  revert bit
  decide

theorem unpack_packComponents_of_full (mantissa : BitVec 52) (finite : exponent ≠ -1#11) (large : exponent ≠ 0#11)
    (positive : 0 < 2 ^ 52 + mantissa.toNat) :
    UnpackedFloat.unpack .binary64 (UnpackedFloat.packComponents .binary64 sign exponent mantissa) =
      .finite sign (2 ^ 52 + mantissa.toNat) (exponent.toNat - 1075) positive := by
  let bits := UnpackedFloat.packComponents .binary64 sign exponent mantissa
  have stored : UnpackedFloat.unpackExponent bits = exponent := UnpackedFloat.unpackExponent_packComponents
  have fraction : UnpackedFloat.unpackMantissa bits = mantissa := UnpackedFloat.unpackMantissa_packComponents
  have isFinite : UnpackedFloat.unpackExponent bits ≠ -1#11 := by rwa [stored]
  have isLarge : UnpackedFloat.unpackExponent bits ≠ 0#11 := by rwa [stored]
  rw [unpack_of_full isFinite isLarge (by omega)]
  refine finite_congr ?_ ?_ ?_
  · rw [unpackSign_packComponents, ofBitVec_toBitVec]
  · rw [fraction]
  · rw [stored]

theorem unpack_packComponents_of_small (positive : 0 < mantissa.toNat) :
    UnpackedFloat.unpack .binary64 (UnpackedFloat.packComponents .binary64 sign 0#11 mantissa) =
      .finite sign mantissa.toNat (-1074) positive := by
  let bits := UnpackedFloat.packComponents .binary64 sign 0#11 mantissa
  have stored : UnpackedFloat.unpackExponent bits = 0#11 := UnpackedFloat.unpackExponent_packComponents
  have fraction : UnpackedFloat.unpackMantissa bits = mantissa := UnpackedFloat.unpackMantissa_packComponents
  have isPositive : 0 < (UnpackedFloat.unpackMantissa bits).toNat := by rwa [fraction]
  rw [unpack_of_small stored isPositive]
  refine finite_congr ?_ ?_ rfl
  · rw [unpackSign_packComponents, ofBitVec_toBitVec]
  · rw [fraction]

theorem unpack_packedInfinity (sign : UnpackedFloat.Sign) :
    UnpackedFloat.unpack .binary64 (UnpackedFloat.packedInfinity .binary64 sign) = .infinity sign := by
  cases sign <;> rfl

end Fields

section Packing

theorem log2_of_full (full : 2 ^ 52 ≤ m) (short : m < 2 ^ 53) : m.log2 = 52 :=
  (Nat.log2_eq_iff (by omega)).2 ⟨full, short⟩

theorem log2_le_of_short (short : m < 2 ^ 53) : m.log2 ≤ 52 := by
  obtain rfl | positive := m.eq_zero_or_pos
  · decide
  · exact Nat.le_of_lt_succ ((Nat.log2_lt (Nat.pos_iff_ne_zero.1 positive)).2 short)

theorem pack_of_full (full : 2 ^ 52 ≤ m) (short : m < 2 ^ 53) (small : e ≤ 971) :
    UnpackedFloat.pack .binary64 (.finite sign m e positive) =
      UnpackedFloat.packComponents .binary64 sign (BitVec.ofNat 11 (e + 1023 + 52).toNat) (BitVec.ofNat 52 m) :=
  (if_neg (by show ¬ 2048 ≤ (e + 1023 + 52).toNat + 1; omega)).trans
    (if_pos (by show m.log2 + 1 = 53; rw [log2_of_full full short]))

theorem pack_of_small (small : m < 2 ^ 52) : UnpackedFloat.pack .binary64 (.finite sign m (-1074) positive) =
    UnpackedFloat.packComponents .binary64 sign 0#11 (BitVec.ofNat 52 m) := by
  have few : m.log2 < 52 := (Nat.log2_lt (by omega)).2 small
  exact if_neg (by show ¬ m.log2 + 1 = 53; omega)

theorem unpack_pack_of_full (full : 2 ^ 52 ≤ m) (short : m < 2 ^ 53) (fine : -1074 ≤ e) (small : e ≤ 971) :
    UnpackedFloat.unpack .binary64 (UnpackedFloat.pack .binary64 (.finite sign m e positive)) =
      .finite sign m e positive := by
  let biased := (e + 1023 + 52).toNat
  have bound : biased < 2047 := by omega
  have low : 0 < biased := by omega
  have field : (BitVec.ofNat 11 biased).toNat = biased := by
    rw [BitVec.toNat_ofNat, Nat.mod_eq_of_lt (by omega)]
  have fraction : (BitVec.ofNat 52 m).toNat = m - 2 ^ 52 := by
    rw [BitVec.toNat_ofNat]
    omega
  have finite : BitVec.ofNat 11 biased ≠ -1#11 := by
    intro special
    have all : biased = 2047 := field.symm.trans (congrArg BitVec.toNat special)
    omega
  have large : BitVec.ofNat 11 biased ≠ 0#11 := by
    intro zero
    have none : biased = 0 := field.symm.trans (congrArg BitVec.toNat zero)
    omega
  rw [pack_of_full full short small, unpack_packComponents_of_full _ finite large (by omega)]
  refine finite_congr rfl ?_ ?_
  · rw [fraction]
    omega
  · rw [field]
    omega

theorem unpack_pack_of_small (small : m < 2 ^ 52) :
    UnpackedFloat.unpack .binary64 (UnpackedFloat.pack .binary64 (.finite sign m (-1074) positive)) =
      .finite sign m (-1074) positive := by
  have fraction : (BitVec.ofNat 52 m).toNat = m := by
    rw [BitVec.toNat_ofNat, Nat.mod_eq_of_lt small]
  rw [pack_of_small small, unpack_packComponents_of_small (by omega)]
  exact finite_congr rfl fraction rfl

/-- What can be stored is found again. -/
theorem unpack_pack {x : UnpackedFloat} (storable : IsStorable x) :
    UnpackedFloat.unpack .binary64 (UnpackedFloat.pack .binary64 x) = x := by
  cases x with
  | notANumber => rfl
  | infinity sign => exact unpack_packedInfinity sign
  | zero sign => cases sign <;> rfl
  | finite sign m e positive =>
      obtain ⟨placed, small⟩ := storable
      obtain full | less := Nat.lt_or_ge m (2 ^ 52) |>.symm
      · exact unpack_pack_of_full full placed.short placed.fine small
      · obtain rfl := placed.full.resolve_left (by omega)
        exact unpack_pack_of_small less

/-- A number that is too large is stored as an infinity. -/
theorem unpack_pack_of_large (large : 971 < e) :
    UnpackedFloat.unpack .binary64 (UnpackedFloat.pack .binary64 (.finite sign m e positive)) = .infinity sign := by
  have packed : UnpackedFloat.pack .binary64 (.finite sign m e positive) =
      UnpackedFloat.packedInfinity .binary64 sign :=
    if_pos (by show 2048 ≤ (e + 1023 + 52).toNat + 1; omega)
  rw [packed, unpack_packedInfinity]

end Packing

section Unpacking

variable (bits : BitVec Format.binary64.numBits)

/-- What is stored can be stored. -/
theorem isStorable_unpack : IsStorable (UnpackedFloat.unpack .binary64 bits) := by
  have short : (UnpackedFloat.unpackMantissa bits).toNat < 2 ^ 52 := (UnpackedFloat.unpackMantissa bits).isLt
  have range : (UnpackedFloat.unpackExponent bits).toNat < 2048 := (UnpackedFloat.unpackExponent bits).isLt
  by_cases special : UnpackedFloat.unpackExponent bits = -1#11
  · have infinite := isFinite_unpack_of_special special
    cases unpacked : UnpackedFloat.unpack .binary64 bits with
    | notANumber | infinity | zero => trivial
    | finite =>
        rw [unpacked] at infinite
        cases infinite
  · by_cases small : UnpackedFloat.unpackExponent bits = 0#11
    · obtain zero | positive := (UnpackedFloat.unpackMantissa bits).toNat.eq_zero_or_pos
      · rw [unpack_of_zero small (BitVec.eq_of_toNat_eq zero)]
        trivial
      · rw [unpack_of_small small positive]
        exact ⟨⟨by omega, Int.le_refl _, .inr rfl⟩, by decide⟩
    · have finite : (UnpackedFloat.unpackExponent bits).toNat ≠ 2047 :=
        fun all => special (BitVec.eq_of_toNat_eq all)
      have large : (UnpackedFloat.unpackExponent bits).toNat ≠ 0 :=
        fun none => small (BitVec.eq_of_toNat_eq none)
      rw [unpack_of_full special small (by omega)]
      exact ⟨⟨by omega, by omega, .inl (by omega)⟩, by omega⟩

/-- Bits are made up of the sign, the exponent and the mantissa. -/
theorem packComponents_unpack : UnpackedFloat.packComponents .binary64 (.ofBitVec (UnpackedFloat.unpackSign bits))
    (UnpackedFloat.unpackExponent bits) (UnpackedFloat.unpackMantissa bits) = bits := by
  show (UnpackedFloat.Sign.ofBitVec _).toBitVec ++ UnpackedFloat.unpackExponent bits ++
    UnpackedFloat.unpackMantissa bits = bits
  rw [toBitVec_ofBitVec]
  show bits.extractLsb 63 63 ++ bits.extractLsb 62 52 ++ bits.extractLsb 51 0 = bits
  refine BitVec.eq_of_getLsbD_eq fun bit inside => ?_
  rw [BitVec.getLsbD_append, BitVec.getLsbD_append]
  grind

/-- What bits of a finite double stand for is stored as the same bits. -/
theorem pack_unpack (finite : (UnpackedFloat.unpack .binary64 bits).isFinite = true) :
    UnpackedFloat.pack .binary64 (UnpackedFloat.unpack .binary64 bits) = bits := by
  have short : (UnpackedFloat.unpackMantissa bits).toNat < 2 ^ 52 := (UnpackedFloat.unpackMantissa bits).isLt
  have range : (UnpackedFloat.unpackExponent bits).toNat < 2048 := (UnpackedFloat.unpackExponent bits).isLt
  have parts := packComponents_unpack bits
  have notSpecial : UnpackedFloat.unpackExponent bits ≠ -1#11 := by
    intro special
    rw [isFinite_unpack_of_special special] at finite
    cases finite
  by_cases small : UnpackedFloat.unpackExponent bits = 0#11
  · rw [small] at parts
    obtain zero | positive := (UnpackedFloat.unpackMantissa bits).toNat.eq_zero_or_pos
    · have nothing : UnpackedFloat.unpackMantissa bits = 0#52 := BitVec.eq_of_toNat_eq zero
      rw [nothing] at parts
      rw [unpack_of_zero small nothing]
      exact parts
    · rw [unpack_of_small small positive, pack_of_small short, BitVec.ofNat_toNat]
      exact parts
  · have finite : (UnpackedFloat.unpackExponent bits).toNat ≠ 2047 :=
      fun all => notSpecial (BitVec.eq_of_toNat_eq all)
    have large : (UnpackedFloat.unpackExponent bits).toNat ≠ 0 :=
      fun none => small (BitVec.eq_of_toNat_eq none)
    have field : BitVec.ofNat 11 ((UnpackedFloat.unpackExponent bits).toNat - 1075 + 1023 + 52 : Int).toNat =
        UnpackedFloat.unpackExponent bits := by
      refine BitVec.eq_of_toNat_eq ?_
      rw [BitVec.toNat_ofNat]
      omega
    have fraction : BitVec.ofNat 52 (2 ^ 52 + (UnpackedFloat.unpackMantissa bits).toNat) =
        UnpackedFloat.unpackMantissa bits := by
      refine BitVec.eq_of_toNat_eq ?_
      rw [BitVec.toNat_ofNat, Nat.add_mod_left, Nat.mod_eq_of_lt short]
    rw [unpack_of_full notSpecial small (by omega), pack_of_full (by omega) (by omega) (by omega), field, fraction]
    exact parts

end Unpacking

end PaperTrading
