import Mathlib.Tactic

namespace Edtf.BytePairs

-- Signed numbers of 12 bits, left-justified in a big-endian pair of bytes.
def justified (counts : Int) : UInt16 := (UInt16.ofInt counts &&& 0x0FFF) <<< 4

def upper (word : UInt16) : UInt8 := (word >>> 8).toUInt8
def lower (word : UInt16) : UInt8 := (word &&& 0xFF).toUInt8

def pairValue (hi lo : UInt8) : Int := ((hi.toUInt16 <<< 8) ||| lo.toUInt16).toInt16.toInt >>> (4 : Nat)

def Representable (counts : Int) : Prop := -2048 ≤ counts ∧ counts ≤ 2047

instance (counts : Int) : Decidable (Representable counts) := by
  unfold Representable
  infer_instance

theorem justified_value (counts : Int) : ((justified counts).toNat : Int) = counts % 4096 * 16 := by
  have mask : (counts % 2^16).toNat % 2^16 &&& 4095 = (counts % 2^16).toNat % 2^16 % 2^12 :=
    Nat.and_two_pow_sub_one_eq_mod _ 12
  have whole : (justified counts).toNat = ((counts % 2^16).toNat % 2^16 &&& 4095) * 2^4 % 2^16 := by
    simp only [justified,UInt16.toNat_shiftLeft,UInt16.toNat_and,UInt16.ofInt,UInt16.toNat_ofNat',Nat.shiftLeft_eq]
    rfl
  rw [whole,mask]
  omega

theorem upper_value (word : UInt16) : (upper word).toNat = word.toNat / 256 := by
  have bound := word.toNat_lt
  have whole : (upper word).toNat = word.toNat / 2^8 % 2^8 := by
    simp only [upper,UInt16.toNat_toUInt8,UInt16.toNat_shiftRight,Nat.shiftRight_eq_div_pow]
    rfl
  omega

theorem lower_value (word : UInt16) : (lower word).toNat = word.toNat % 256 := by
  have mask : word.toNat &&& 255 = word.toNat % 2^8 := Nat.and_two_pow_sub_one_eq_mod _ 8
  have whole : (lower word).toNat = (word.toNat &&& 255) % 2^8 := by
    simp only [lower,UInt16.toNat_toUInt8,UInt16.toNat_and]
    rfl
  omega

theorem signed_value (word : UInt16) : word.toInt16.toInt = Int.bmod word.toNat 65536 := by
  rw [Int16.toInt,UInt16.toBitVec_toInt16,BitVec.toInt_eq_toNat_bmod,UInt16.toNat_toBitVec]

theorem pairValue_wraps (hi lo : UInt8) : pairValue hi lo = Int.bmod (256 * hi.toNat + lo.toNat) 65536 / 16 := by
  have boundHi := hi.toNat_lt
  have boundLo := lo.toNat_lt
  have joined : hi.toNat <<< 8 + lo.toNat = hi.toNat <<< 8 ||| lo.toNat := Nat.shiftLeft_add_eq_or_of_lt boundLo _
  have word : ((hi.toUInt16 <<< 8) ||| lo.toUInt16).toNat = 256 * hi.toNat + lo.toNat := by
    have shifted : hi.toNat <<< 8 % 2^16 = hi.toNat <<< 8 := Nat.mod_eq_of_lt (by rw [Nat.shiftLeft_eq]; omega)
    have whole : ((hi.toUInt16 <<< 8) ||| lo.toUInt16).toNat = hi.toNat <<< 8 % 2^16 ||| lo.toNat := by
      simp only [UInt16.toNat_or,UInt16.toNat_shiftLeft,UInt8.toNat_toUInt16]
      rfl
    rw [whole,shifted,← joined,Nat.shiftLeft_eq]
    omega
  rw [pairValue,signed_value,Int.shiftRight_eq_div_pow,word]
  norm_cast

theorem pairValue_range (hi lo : UInt8) : Representable (pairValue hi lo) := by
  rw [pairValue_wraps,Representable]
  have low : -(65536 / 2 : Int) ≤ Int.bmod (256 * hi.toNat + lo.toNat) 65536 := Int.le_bmod (by decide)
  have high : Int.bmod (256 * hi.toNat + lo.toNat) 65536 < ((65536 : Nat) + 1) / 2 := Int.bmod_lt (by decide)
  omega

theorem pairValue_eq (fits : Representable counts) (hi lo : UInt8) :
    pairValue hi lo = counts ↔ (hi.toNat : Int) = counts % 4096 / 16 ∧ (lo.toNat : Int) / 16 = counts % 16 := by
  have boundHi := hi.toNat_lt
  have boundLo := lo.toNat_lt
  have low := fits.1
  have high := fits.2
  rw [pairValue_wraps,Int.bmod_def]
  split <;> omega

theorem pairValue_bytes (hi lo : UInt8) :
    (hi.toNat : Int) = pairValue hi lo % 4096 / 16 ∧ (lo.toNat : Int) / 16 = pairValue hi lo % 16 :=
  (pairValue_eq (pairValue_range hi lo) hi lo).mp rfl

theorem pairValue_justified (fits : Representable counts) :
    pairValue (upper (justified counts)) (lower (justified counts)) = counts := by
  have whole := justified_value counts
  rw [pairValue_eq fits,upper_value,lower_value]
  push_cast
  omega

theorem upper_exchanged (hi other lo : UInt8) : pairValue other lo = pairValue hi lo ↔ other.toNat = hi.toNat := by
  have before := pairValue_bytes hi lo
  rw [pairValue_eq (pairValue_range hi lo)]
  omega

theorem lower_exchanged (hi lo other : UInt8) :
    pairValue hi other = pairValue hi lo ↔ other.toNat / 16 = lo.toNat / 16 := by
  have before := pairValue_bytes hi lo
  rw [pairValue_eq (pairValue_range hi lo)]
  omega

end Edtf.BytePairs
