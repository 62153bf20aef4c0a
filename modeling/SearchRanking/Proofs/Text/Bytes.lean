import Mathlib.Algebra.Order.Group.Nat

/-!
# The bytes of texts are in the order of their code points

A text is stored as bytes, one to four for each character: a lead byte, which tells how many bytes
there are and holds the highest digits of the code point to base 64, and behind it one trailing byte
for every other digit. So lead bytes grow with code points, and where two of them are equal, the
trailing bytes belong to equally many digits. Of two characters the smaller one therefore has the
smaller byte at the first place where their bytes differ, and there is such a place (`Diverges`).
That carries over to texts of any length, of which a text that ends first comes first: comparing
bytes is comparing code points.
-/

namespace SearchRanking.Text

/-- The bytes in which a text is stored. -/
def bytes (text : String) : List UInt8 := text.toUTF8.data.toList

def codePoints (text : String) : List Nat := text.toList.map Char.toNat

theorem bytes_eq_flatMap (text : String) :
    bytes text = text.toList.flatMap String.utf8EncodeChar := by
  rw [bytes, String.toUTF8, ← String.utf8Encode_toList, List.utf8Encode,
    List.toList_data_toByteArray]

/-- How many bytes follow the lead byte of a code point. -/
def trailingCount (code : Nat) : Nat :=
  if code ≤ 0x7f then 0 else if code ≤ 0x7ff then 1 else if code ≤ 0xffff then 2 else 3

/-- What a lead byte adds to the digits in it, to tell how many bytes follow. -/
def leadMark : Nat → Nat
  | 0 => 0
  | 1 => 0xc0
  | 2 => 0xe0
  | _ => 0xf0

def lead (code : Nat) : Nat :=
  leadMark (trailingCount code) + code / 64 ^ trailingCount code

/-- The lowest `count` digits of a code point to base 64, the highest of them first. -/
def trailing (code : Nat) : Nat → List UInt8
  | 0 => []
  | count + 1 => UInt8.ofNat (code / 64 ^ count % 64 + 0x80) :: trailing code count

theorem lead_lt {code : Nat} (hcode : code < 0x110000) : lead code < 256 := by
  rw [lead, trailingCount]
  split_ifs <;> simp only [leadMark] <;> omega

theorem toNat_lt (c : Char) : c.toNat < 0x110000 := by
  have hvalid : c.toNat < 0xd800 ∨ (0xdfff < c.toNat ∧ c.toNat < 0x110000) := c.valid
  omega

theorem utf8EncodeChar_eq (c : Char) :
    String.utf8EncodeChar c =
      UInt8.ofNat (lead c.toNat) :: trailing c.toNat (trailingCount c.toNat) := by
  have hcode := toNat_lt c
  have hval : c.val.toNat = c.toNat := rfl
  have hone : c.toNat ≤ 0x7ff → c.toNat / 64 % 32 + 0xc0 = 0xc0 + c.toNat / 64 := by omega
  have htwo : c.toNat ≤ 0xffff → c.toNat / 4096 % 16 + 0xe0 = 0xe0 + c.toNat / 4096 := by omega
  have hthree : c.toNat / 262144 % 8 + 0xf0 = 0xf0 + c.toNat / 262144 := by omega
  simp only [String.utf8EncodeChar, lead, trailingCount, hval]
  split_ifs with hnone hshort hmiddle
  · simp [leadMark, trailing]
  · simp [leadMark, trailing, hone hshort]
  · simp [leadMark, trailing, htwo hmiddle]
  · simp [leadMark, trailing, hthree]

theorem trailingCount_mono {left right : Nat} (hle : left ≤ right) :
    trailingCount left ≤ trailingCount right := by
  rw [trailingCount, trailingCount]
  split_ifs <;> omega

theorem lead_lt_lead {left right : Nat} (hcount : trailingCount left < trailingCount right) :
    lead left < lead right := by
  simp only [lead, trailingCount] at hcount ⊢
  split_ifs at hcount ⊢ <;> simp only [leadMark] <;> omega

/-- Two lists of bytes that differ at some place, and at the first such place the left byte is the
smaller one. -/
inductive Diverges : List UInt8 → List UInt8 → Prop
  | here {x y : UInt8} (left right : List UInt8) (hlt : x < y) : Diverges (x :: left) (y :: right)
  | later (x : UInt8) {left right : List UInt8} (hrest : Diverges left right) :
      Diverges (x :: left) (x :: right)

theorem Diverges.append {left right : List UInt8} (hdiverges : Diverges left right)
    (afterLeft afterRight : List UInt8) :
    Diverges (left ++ afterLeft) (right ++ afterRight) := by
  induction hdiverges with
  | here left right hlt => exact .here _ _ hlt
  | later x _ ih => exact .later x ih

theorem Diverges.compare_eq_lt {left right : List UInt8} (hdiverges : Diverges left right) :
    compare left right = .lt := by
  induction hdiverges with
  | here left right hlt =>
      rw [List.compare_cons_cons, Std.compare_eq_lt.mpr hlt, Ordering.lt_then]
  | later x _ ih => rw [List.compare_cons_cons, Std.compare_self, Ordering.eq_then, ih]

theorem ofNat_lt_ofNat {x y : Nat} (hlt : x < y) (hy : y < 256) :
    UInt8.ofNat x < UInt8.ofNat y := by
  rw [UInt8.lt_iff_toNat_lt, UInt8.toNat_ofNat', UInt8.toNat_ofNat']
  omega

/-- With the same higher digits, the lower digits decide. -/
theorem diverges_trailing {left right : Nat} (hlt : left < right) :
    ∀ count, left / 64 ^ count = right / 64 ^ count →
      Diverges (trailing left count) (trailing right count) := by
  intro count
  induction count with
  | zero =>
      intro hhigh
      rw [pow_zero, Nat.div_one, Nat.div_one] at hhigh
      omega
  | succ count ih =>
      intro hhigh
      rw [pow_succ, ← Nat.div_div_eq_div_mul, ← Nat.div_div_eq_div_mul] at hhigh
      -- the highest digit that is left decides, unless both sides have the same
      by_cases hdigit : left / 64 ^ count = right / 64 ^ count
      · rw [trailing, trailing, hdigit]
        exact .later _ (ih hdigit)
      · have hle : left / 64 ^ count ≤ right / 64 ^ count := Nat.div_le_div_right hlt.le
        exact .here _ _ (ofNat_lt_ofNat (by omega) (by omega))

/-- The bytes of a smaller character are smaller where they first differ from those of a greater
one. In particular neither are the beginning of the other. -/
theorem diverges_utf8EncodeChar {c d : Char} (hlt : c.toNat < d.toNat) :
    Diverges (String.utf8EncodeChar c) (String.utf8EncodeChar d) := by
  have hd := lead_lt (toNat_lt d)
  rw [utf8EncodeChar_eq, utf8EncodeChar_eq]
  rcases (trailingCount_mono hlt.le).lt_or_eq with hcount | hcount
  -- the marks keep the lead bytes of different lengths apart
  · exact .here _ _ (ofNat_lt_ofNat (lead_lt_lead hcount) hd)
  · rw [lead, hcount]
    rw [lead] at hd ⊢
    by_cases hhigh : c.toNat / 64 ^ trailingCount d.toNat = d.toNat / 64 ^ trailingCount d.toNat
    · rw [hhigh]
      exact .later _ (diverges_trailing hlt _ hhigh)
    · have hle : c.toNat / 64 ^ trailingCount d.toNat ≤ d.toNat / 64 ^ trailingCount d.toNat :=
        Nat.div_le_div_right hlt.le
      exact .here _ _ (ofNat_lt_ofNat (by omega) hd)

theorem length_le_length_bytes (text : String) : text.toList.length ≤ (bytes text).length := by
  rw [bytes_eq_flatMap]
  induction text.toList with
  | nil => exact Nat.le_refl 0
  | cons c rest ih =>
      rw [List.flatMap_cons, utf8EncodeChar_eq, List.length_append, List.length_cons,
        List.length_cons]
      omega

theorem compare_append_left (shared left right : List UInt8) :
    compare (shared ++ left) (shared ++ right) = compare left right := by
  induction shared with
  | nil => rfl
  | cons x shared ih =>
      rw [List.cons_append, List.cons_append, List.compare_cons_cons, Std.compare_self,
        Ordering.eq_then, ih]

theorem compare_flatMap_of_lt {c d : Char} (hlt : c.toNat < d.toNat) (left right : List Char) :
    compare ((c :: left).flatMap String.utf8EncodeChar)
      ((d :: right).flatMap String.utf8EncodeChar) = .lt := by
  rw [List.flatMap_cons, List.flatMap_cons]
  exact ((diverges_utf8EncodeChar hlt).append _ _).compare_eq_lt

theorem compare_flatMap_utf8EncodeChar (left right : List Char) :
    compare (left.flatMap String.utf8EncodeChar) (right.flatMap String.utf8EncodeChar) =
      compare (left.map Char.toNat) (right.map Char.toNat) := by
  induction left generalizing right with
  | nil =>
      cases right with
      | nil => rfl
      | cons d right =>
          rw [List.flatMap_cons, utf8EncodeChar_eq]
          rfl
  | cons c left ih =>
      cases right with
      | nil =>
          rw [List.flatMap_cons, utf8EncodeChar_eq]
          rfl
      | cons d right =>
          rw [List.map_cons, List.map_cons, List.compare_cons_cons]
          rcases Nat.lt_trichotomy c.toNat d.toNat with hlt | heq | hgt
          · rw [compare_flatMap_of_lt hlt, Nat.compare_eq_lt.mpr hlt, Ordering.lt_then]
          · rw [List.flatMap_cons, List.flatMap_cons, heq, Char.toNat_inj.mp heq,
              compare_append_left, ih, Std.compare_self, Ordering.eq_then]
          · rw [Std.OrientedCmp.gt_of_lt (compare_flatMap_of_lt hgt right left),
              Nat.compare_eq_gt.mpr hgt, Ordering.gt_then]

theorem compare_bytes (left right : String) :
    compare (bytes left) (bytes right) = compare (codePoints left) (codePoints right) := by
  rw [bytes_eq_flatMap, bytes_eq_flatMap, compare_flatMap_utf8EncodeChar, codePoints, codePoints]

-- the second character would come first by units of sixteen bits
example : compare (bytes "\uffff") (bytes "😀") = .lt := by decide +kernel

theorem compare_eq_lt_of_toNat_lt {c d : Char} (hlt : c.toNat < d.toNat) :
    compare c d = .lt :=
  compareOfLessAndEq_eq_lt.mpr hlt

theorem compare_toNat (c d : Char) : compare c.toNat d.toNat = compare c d := by
  rcases Nat.lt_trichotomy c.toNat d.toNat with hlt | heq | hgt
  · rw [Nat.compare_eq_lt.mpr hlt, compare_eq_lt_of_toNat_lt hlt]
  · rw [Char.toNat_inj.mp heq, Std.compare_self, Std.compare_self]
  · rw [Nat.compare_eq_gt.mpr hgt, Std.OrientedCmp.gt_of_lt (compare_eq_lt_of_toNat_lt hgt)]

theorem compare_codePoints (left right : String) :
    compare (codePoints left) (codePoints right) = compare left.toList right.toList := by
  rw [codePoints, codePoints]
  generalize left.toList = left, right.toList = right
  induction left generalizing right with
  | nil => cases right <;> rfl
  | cons c left ih =>
      cases right with
      | nil => rfl
      | cons d right =>
          rw [List.map_cons, List.map_cons, List.compare_cons_cons, List.compare_cons_cons,
            compare_toNat, ih]

end SearchRanking.Text
