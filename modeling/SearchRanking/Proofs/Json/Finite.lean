import SearchRanking.Json.Schema
import SearchRanking.Proofs.Json.Document
import SearchRanking.Proofs.Json.Scaling

/-!
# Numbers that are read are finite

A number may have more digits and a larger exponent than any score, and no reader of numbers rounds
to an infinity. The digits that are kept make a significand of 64 bits, which is far below the
greatest score; a product with a power of ten is checked; and a quotient by a power of ten is not
above its dividend. So whatever value a document gives, each of its numbers is a finite score.
-/

namespace SearchRanking.Score

theorem nearestMagnitude_le {numerator denominator magnitude : Nat} (hdenominator : 0 < denominator)
    (hle : numerator * unitsPerOne ≤ unitsOf magnitude * denominator) :
    nearestMagnitude numerator denominator ≤ magnitude := by
  obtain ⟨found, hfound, heq⟩ := exists_nearest numerator hdenominator
  rw [heq]
  refine (Nat.min_le_left _ _).trans ?_
  exact hfound.le_of_le hdenominator hdenominator (nearest_unitsOf hdenominator magnitude)
    (Nat.mul_le_mul_right denominator hle)

/-- The score `2 ^ 64` bounds every whole number of 64 bits. -/
theorem isFinite_ofNat {n : Nat} (hlt : n < 0x10000000000000000) : (ofNat n).isFinite = true := by
  have hlargest : 0x10000000000000000 * unitsPerOne ≤ unitsOf 0x43f0000000000000 * 1 := by
    decide +kernel
  have hle : nearestMagnitude n 1 ≤ 0x43f0000000000000 :=
    nearestMagnitude_le Nat.one_pos ((Nat.mul_le_mul_right _ hlt.le).trans hlargest)
  exact decide_eq_true (hle.trans_lt (by decide))

theorem unitsPerOne_le_units_tenTo {power : Nat} (hpower : power ≤ 308) :
    unitsPerOne ≤ (ofNat (tenTo power)).units := by
  have hone : unitsOf 0x3ff0000000000000 = unitsPerOne := by decide +kernel
  have hexact := nearest_unitsOf Nat.one_pos 0x3ff0000000000000
  have hpowers := nearest_ofNat (Json.tenTo_mul_unitsPerOne_le hpower)
  rw [hone, Nat.mul_one] at hexact
  have hle := hexact.le_of_le Nat.one_pos Nat.one_pos hpowers
    (Nat.mul_le_mul_right 1 (Nat.le_mul_of_pos_left unitsPerOne (Decimal.tenTo_pos power)))
  rw [← hone]
  exact unitsOf_strictMono.monotone hle

theorem isFinite_overPowerOfTen {score : Score} {power : Nat} (hfinite : score.isFinite = true)
    (hpower : power ≤ 308) : (score.overPowerOfTen power).isFinite = true := by
  have hone := unitsPerOne_le_units_tenTo hpower
  have hle : nearestMagnitude score.units (ofNat (tenTo power)).units ≤ score.magnitude :=
    nearestMagnitude_le (unitsPerOne_pos.trans_le hone) (Nat.mul_le_mul_left _ hone)
  exact decide_eq_true (hle.trans_lt (of_decide_eq_true hfinite))

end SearchRanking.Score

namespace SearchRanking.Json

open Score

variable {ε : Type}

theorem isFinite_of_scaled? {significand : Nat} {power : Int} {score : Score}
    (hfits : significand < 0x10000000000000000)
    (hscaled : scaled? significand power = some score) : score.isFinite = true := by
  have hbase := isFinite_ofNat hfits
  cases power with
  | ofNat power =>
      simp only [scaled?] at hscaled
      split at hscaled
      · cases hscaled
        exact hbase
      · split at hscaled
        · cases hscaled
        · obtain ⟨hfinite, heq⟩ := Option.ite_none_right_eq_some.mp hscaled
          cases heq
          exact hfinite
  | negSucc below =>
      simp only [scaled?] at hscaled
      split at hscaled
      · next hpower =>
        cases hscaled
        exact isFinite_overPowerOfTen hbase hpower
      · split at hscaled
        · next hpower =>
          cases hscaled
          exact isFinite_overPowerOfTen (isFinite_overPowerOfTen hbase le_rfl) (by omega)
        · cases hscaled
          decide

theorem gather_lt {significand : Nat} (hfits : significand < 0x10000000000000000)
    (digits : List Char) : (gather significand digits).1 < 0x10000000000000000 := by
  induction digits generalizing significand with
  | nil => exact hfits
  | cons digit digits ih =>
      rw [gather]
      split
      · next hnext => exact ih hnext
      · exact hfits

/-- The reader of a part of a number takes no infinity. -/
def ReadsFinite (reader : Reader ε Number) : Prop :=
  ∀ {text rest : List Char} {number : Number}, reader text = .ok (number, rest) →
    number.toScore.isFinite = true

section Parts

variable {significand : Nat}

theorem readsFinite_realNumber (hfits : significand < 0x10000000000000000) (negative : Bool)
    (power : Int) : ReadsFinite (realNumber negative significand power : Reader ε Number) := by
  intro text rest number hread
  rw [realNumber] at hread
  split at hread
  · next score hscaled =>
    cases hread
    exact (isFinite_withSign negative score).trans (isFinite_of_scaled? hfits hscaled)
  · cases hread

/-- Whichever way a whole number is kept, its score is that of its size with its sign. -/
@[simp]
theorem toScore_wholeNumber (negative : Bool) (value : Nat) :
    (wholeNumber negative value).toScore = (ofNat value).withSign negative := by
  rw [wholeNumber, withSign]
  cases negative with
  | false => rfl
  | true =>
      simp only [Bool.not_true, Bool.false_eq_true, if_false, if_true]
      split <;> rfl

theorem isFinite_wholeNumber (hfits : significand < 0x10000000000000000) (negative : Bool) :
    (wholeNumber negative significand).toScore.isFinite = true := by
  simpa using isFinite_ofNat hfits

theorem readsFinite_readExponent (hfits : significand < 0x10000000000000000) (negative : Bool)
    (power : Int) : ReadsFinite (readExponent negative significand power : Reader ε Number) := by
  intro text rest number hread
  simp only [readExponent] at hread
  split at hread
  · cases hread
  · exact readsFinite_realNumber hfits negative _ hread

theorem readsFinite_readScale (hfits : significand < 0x10000000000000000) (negative : Bool)
    (power : Int) : ReadsFinite (readScale negative significand power : Reader ε Number) := by
  intro text rest number hread
  unfold readScale at hread
  split at hread
  · exact readsFinite_readExponent hfits negative power hread
  · exact readsFinite_readExponent hfits negative power hread
  · exact readsFinite_realNumber hfits negative power hread

theorem readsFinite_readPlaces (hfits : significand < 0x10000000000000000) (negative : Bool)
    (dropped : Nat) :
    ReadsFinite (readPlaces negative significand dropped : Reader ε Number) := by
  intro text rest number hread
  unfold readPlaces at hread
  split at hread
  · simp only at hread
    split at hread
    · cases hread
    · exact readsFinite_readScale (gather_lt hfits _) negative _ hread
  · exact readsFinite_readExponent hfits negative _ hread
  · exact readsFinite_readExponent hfits negative _ hread
  · split at hread
    · cases hread
      exact isFinite_wholeNumber hfits negative
    · exact readsFinite_realNumber hfits negative _ hread

end Parts

theorem readsFinite_readUnsigned (negative : Bool) :
    ReadsFinite (readUnsigned negative : Reader ε Number) := by
  intro text rest number hread
  simp only [readUnsigned] at hread
  split at hread
  · cases hread
  · split at hread
    · cases hread
    · exact readsFinite_readPlaces (gather_lt (by decide) _) negative _ hread

theorem readsFinite_readNumber : ReadsFinite (readNumber : Reader ε Number) := by
  intro text rest number hread
  unfold readNumber at hread
  split at hread
  · exact readsFinite_readUnsigned true hread
  · exact readsFinite_readUnsigned false hread

/-- The value stands in some document. -/
def IsRead (value : Value) : Prop :=
  ∃ depth text rest, (readValue depth text : Except (Fault Mismatch) _) = .ok (value, rest)

theorem isRead_of_readDocument {text : String} {value : Value}
    (hread : (readDocument text : Except (Fault Mismatch) _) = .ok value) : IsRead value := by
  obtain ⟨rest, hvalue, -⟩ := readWhole_eq_ok_iff.mp hread
  exact ⟨_, _, rest, hvalue⟩

theorem IsRead.isFinite {number : Number} (hread : IsRead (.number number)) :
    number.toScore.isFinite = true := by
  obtain ⟨depth, text, rest, hread⟩ := hread
  obtain ⟨items, members, hvalue⟩ := exists_readValue_eq_readNode (ε := Mismatch) depth
  rw [hvalue, readNode_eq_ok_iff] at hread
  cases hread with
  | number hnumber => exact readsFinite_readNumber hnumber

theorem isRead_of_mem_readItems {depth : Nat} {text rest : List Char} {items : List Value}
    (hread : (readItems (readValue depth) text : Except (Fault Mismatch) _) = .ok (items, rest)) :
    ∀ item ∈ items, IsRead item := by
  intro item hitem
  obtain ⟨before, after, hone⟩ := (readItems_eq_ok_iff.mp hread).exists_read item hitem
  exact ⟨depth, before, after, hone⟩

theorem IsRead.of_mem_array {items : List Value} (hread : IsRead (.array items)) :
    ∀ item ∈ items, IsRead item := by
  obtain ⟨depth, text, rest, hread⟩ := hread
  cases depth with
  | zero =>
      cases readNode_eq_ok_iff.mp hread with
      | array hitems => cases hitems
  | succ depth =>
      cases readNode_eq_ok_iff.mp hread with
      | array hitems => exact isRead_of_mem_readItems hitems

end SearchRanking.Json
