import Mathlib.Algebra.Group.Nat.Defs

/-! # The negative of a double

A double is a sign, eleven bits of exponent and fifty-two bits of fraction, and taking the negative
changes the sign alone. There is one double that is not a number, and it is its own negative.
-/
namespace PhasePortrait.Double
open Float.Model Float.Model.UnpackedFloat

/-! ## What the parts stand for -/

theorem toNat_one_append (m : BitVec 52) : (1#1 ++ m).toNat = 2 ^ 52 + m.toNat := by
  rw [BitVec.toNat_append, ← Nat.shiftLeft_add_eq_or_of_lt m.isLt]
  rfl

/-- The number that a sign, a biased exponent and a fraction stand for. -/
def value (s : Sign) (e : BitVec 11) (m : BitVec 52) : UnpackedFloat :=
  if e = -1#11 then
    if m = 0#52 then .infinity s else .notANumber
  else if e = 0#11 then
    if h : m = 0#52 then .zero s
    else .finite s m.toNat (-1074) (by simpa [BitVec.toNat_pos, BitVec.pos_iff_ne_zero])
  else .finite s (2 ^ 52 + m.toNat) (e.toNat - 1075) (by omega)

theorem value_cases (s : Sign) (e : BitVec 11) (m : BitVec 52) :
    (e = -1#11 ∧ m = 0#52 ∧ value s e m = .infinity s) ∨ (e = -1#11 ∧ m ≠ 0#52 ∧ value s e m = .notANumber) ∨
    (e = 0#11 ∧ m = 0#52 ∧ value s e m = .zero s) ∨
    (e = 0#11 ∧ m ≠ 0#52 ∧ ∃ hm, value s e m = .finite s m.toNat (-1074) hm) ∨
    (e ≠ -1#11 ∧ e ≠ 0#11 ∧ ∃ hm, value s e m = .finite s (2 ^ 52 + m.toNat) (e.toNat - 1075) hm) := by
  by_cases he : e = -1#11
  · by_cases hm : m = 0#52
    · exact .inl ⟨he, hm, by rw [value, if_pos he, if_pos hm]⟩
    · exact .inr (.inl ⟨he, hm, by rw [value, if_pos he, if_neg hm]⟩)
  · by_cases hzero : e = 0#11
    · by_cases hm : m = 0#52
      · exact .inr (.inr (.inl ⟨hzero, hm, by rw [value, if_neg he, if_pos hzero, dif_pos hm]⟩))
      · exact .inr (.inr (.inr (.inl ⟨hzero, hm, _, by rw [value, if_neg he, if_pos hzero, dif_neg hm]⟩)))
    · exact .inr (.inr (.inr (.inr ⟨he, hzero, _, by rw [value, if_neg he, if_neg hzero]⟩)))

theorem unpack_eq_value (b : BitVec Format.binary64.numBits) :
    UnpackedFloat.unpack .binary64 b =
      value (Sign.ofBitVec (unpackSign b)) (unpackExponent b) (unpackMantissa b) := by
  unfold UnpackedFloat.unpack value
  refine ite_congr rfl (fun _ => rfl) fun _ => ite_congr rfl (fun hzero => ?_) fun _ => ?_
  · refine dite_congr rfl (fun _ => rfl) fun _ => ?_
    rw [UnpackedFloat.finite.injEq, hzero]
    exact ⟨rfl, rfl, rfl⟩
  · rw [UnpackedFloat.finite.injEq]
    exact ⟨rfl, toNat_one_append _, rfl⟩

/-- The parts that a double is packed from are found in it again. -/
theorem unpack_packComponents (s : Sign) (e : BitVec 11) (m : BitVec 52) :
    UnpackedFloat.unpack .binary64 (packComponents .binary64 s e m) = value s e m := by
  have hbit : (s.toBitVec ++ e ++ m).extractLsb' 63 1 = s.toBitVec :=
    (BitVec.extractLsb'_append_eq_of_le (by decide)).trans BitVec.extractLsb'_append_eq_left
  have hsign : Sign.ofBitVec (unpackSign (packComponents .binary64 s e m)) = s := by
    change Sign.ofBitVec ((s.toBitVec ++ e ++ m).extractLsb' 63 1) = s
    rw [hbit]
    cases s <;> rfl
  rw [unpack_eq_value, hsign, unpackExponent_packComponents, unpackMantissa_packComponents]

/-- A double is packed from its own parts. -/
theorem packComponents_parts (b : BitVec Format.binary64.numBits) :
    packComponents .binary64 (Sign.ofBitVec (unpackSign b)) (unpackExponent b) (unpackMantissa b) = b := by
  -- the library has this for every format, but in a module that only the whole of it imports
  have hsign : (Sign.ofBitVec (unpackSign b)).toBitVec = unpackSign b := by
    generalize unpackSign b = c
    decide +revert
  have hparts : b.extractLsb' 63 1 ++ b.extractLsb' 52 11 ++ b.extractLsb' 0 52 = b := by
    rw [BitVec.extractLsb'_append_extractLsb'_eq_extractLsb' (by decide : 63 = 52 + 11),
      BitVec.extractLsb'_append_extractLsb'_eq_extractLsb' (by decide : 52 = 0 + 52), BitVec.extractLsb'_eq_self]
  rw [packComponents, hsign]
  exact hparts

theorem neg_value (s : Sign) (e : BitVec 11) (m : BitVec 52) : (value s e m).neg = value (-s) e m := by
  rw [value, apply_ite UnpackedFloat.neg, apply_ite UnpackedFloat.neg, apply_ite UnpackedFloat.neg,
    apply_dite UnpackedFloat.neg]
  rfl

theorem pack_finite (s : Sign) (m : Nat) (e : Int) (hm : 0 < m) :
    UnpackedFloat.pack .binary64 (.finite s m e hm) =
      if 2 ^ 11 ≤ (e + 1023 + 52).toNat + 1 then packedInfinity .binary64 s
      else if m.log2 + 1 = 53 then
        packComponents .binary64 s (BitVec.ofNat 11 (e + 1023 + 52).toNat) (BitVec.ofNat 52 m)
      else packComponents .binary64 s 0#11 (BitVec.ofNat 52 m) := rfl

/-- The parts are packed as they are, but all that is not a number is packed alike. -/
theorem pack_value (s : Sign) (e : BitVec 11) (m : BitVec 52) :
    UnpackedFloat.pack .binary64 (value s e m) =
      if e = -1#11 ∧ m ≠ 0#52 then packedNaN .binary64 else packComponents .binary64 s e m := by
  rcases value_cases s e m with ⟨rfl, rfl, h⟩ | ⟨rfl, hm, h⟩ | ⟨rfl, rfl, h⟩ | ⟨rfl, hm, hpos, h⟩ | ⟨he, hzero, hpos, h⟩
  · rw [h]
    rfl
  · rw [h, if_pos ⟨rfl, hm⟩]
    rfl
  · rw [h]
    rfl
  · have hlog : m.toNat.log2 < 52 := (Nat.log2_lt (Nat.ne_of_gt hpos)).mpr m.isLt
    have hnumber : ¬(0#11 = -1#11 ∧ m ≠ 0#52) := fun hnan => absurd hnan.1 (by decide)
    rw [h, if_neg hnumber, pack_finite, if_neg (by decide), if_neg (by omega), BitVec.ofNat_toNat, BitVec.setWidth_eq]
  · have hlt : e.toNat ≠ 2047 := fun heq => he (BitVec.eq_of_toNat_eq heq)
    have hlog : (2 ^ 52 + m.toNat).log2 = 52 := (Nat.log2_eq_iff (by omega)).mpr ⟨by omega, by omega⟩
    have hbiased : ((e.toNat : Int) - 1075 + 1023 + 52).toNat = e.toNat := by omega
    have hm : BitVec.ofNat 52 (2 ^ 52 + m.toNat) = m := by
      apply BitVec.eq_of_toNat_eq
      rw [BitVec.toNat_ofNat, Nat.add_mod_left, Nat.mod_eq_of_lt m.isLt]
    rw [h, if_neg fun hnan => he hnan.1, pack_finite, hbiased, if_neg (by omega), if_pos (by rw [hlog]), hm,
      BitVec.ofNat_toNat, BitVec.setWidth_eq]

/-- What the parts stand for is not lost by packing it. -/
theorem unpack_pack_value (s : Sign) (e : BitVec 11) (m : BitVec 52) :
    UnpackedFloat.unpack .binary64 (UnpackedFloat.pack .binary64 (value s e m)) = value s e m := by
  rw [pack_value]
  split
  · next h =>
    rw [value, if_pos h.1, if_neg h.2]
    rfl
  · exact unpack_packComponents s e m

/-! ## The negative -/

theorem unpack_neg (a : Float) : (-a).toModel.unpack = a.toModel.unpack.neg := by
  -- the parts of a double with the other sign are those of a double as well
  obtain ⟨s, e, m, h⟩ : ∃ s e m, a.toModel.unpack = value s e m := ⟨_, _, _, unpack_eq_value _⟩
  change UnpackedFloat.unpack .binary64 (UnpackedFloat.pack .binary64 a.toModel.unpack.neg) = _
  rw [h, neg_value, unpack_pack_value]

theorem ofModel_pack_unpack (a : Float) : .ofModel (Float.Model.pack a.toModel.unpack) = a := by
  obtain ⟨⟨bits, h⟩⟩ := a
  have hpack : UnpackedFloat.pack .binary64 (UnpackedFloat.unpack .binary64 bits.toBitVec) = bits.toBitVec := by
    rw [unpack_eq_value, pack_value, packComponents_parts]
    split
    · next hnan => exact (h.eq_packedNaN hnan.1 hnan.2).symm
    · rfl
  apply congrArg Float.ofModel
  exact (Float.Model.mk.injEq ..).mpr (congrArg UInt64.ofBitVec hpack)

theorem unpacked_neg_neg (u : UnpackedFloat) : u.neg.neg = u := by
  have hsign (s : Sign) : - -s = s := by cases s <;> rfl
  cases u with
  | notANumber => rfl
  | infinity s => exact congrArg UnpackedFloat.infinity (hsign s)
  | zero s => exact congrArg UnpackedFloat.zero (hsign s)
  | finite s m e hm => exact congrArg (UnpackedFloat.finite · m e hm) (hsign s)

theorem neg_neg (a : Float) : - -a = a :=
  calc - -a = .ofModel (Float.Model.pack (-a).toModel.unpack.neg) := rfl
    _ = .ofModel (Float.Model.pack a.toModel.unpack) := by rw [unpack_neg, unpacked_neg_neg]
    _ = a := ofModel_pack_unpack a

theorem isFinite_neg (a : Float) : (-a).isFinite = a.isFinite := by
  change (-a).toModel.unpack.isFinite = a.toModel.unpack.isFinite
  rw [unpack_neg]
  cases a.toModel.unpack <;> rfl

theorem beq_zero_eq (a : Float) : (a == 0) = a.toModel.unpack.beq (.zero .positive) := rfl

theorem neg_beq_zero (a : Float) : (-a == 0) = (a == 0) := by
  rw [beq_zero_eq, beq_zero_eq, unpack_neg]
  cases a.toModel.unpack with
  | notANumber => rfl
  | infinity s => cases s <;> rfl
  | zero s => rfl
  | finite s m e hm => cases s <;> rfl

end PhasePortrait.Double
