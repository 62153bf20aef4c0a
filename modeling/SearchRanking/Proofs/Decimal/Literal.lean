import Mathlib.Data.List.TakeDrop
import Mathlib.Data.List.TakeWhile
import SearchRanking.Decimal.Literal
import SearchRanking.Json.Value
import SearchRanking.Proofs.Decimal.Shortest

/-!
# The text of a decimal

`RealLiteral text decimal` is the grammar of the numbers with a point or an exponent: whole digits
without a zero in front, digits behind the point, an exponent behind its mark. The text of a decimal
in the layout of JSON numbers is such a literal. It need not stand for the same coefficient and
power, since zeros at the end are cut off or written out and a whole number ends in `.0`; but it
stands for the same number.
-/

namespace SearchRanking.Decimal

open Score

def AllDigits (text : List Char) : Prop := ∀ c ∈ text, c.isDigit = true

theorem AllDigits.append {left right : List Char} (hleft : AllDigits left)
    (hright : AllDigits right) : AllDigits (left ++ right) := by
  intro c hc
  rcases List.mem_append.mp hc with hc | hc
  · exact hleft c hc
  · exact hright c hc

theorem allDigits_replicate_zero (count : Nat) : AllDigits (List.replicate count '0') := by
  intro c hc
  rw [List.eq_of_mem_replicate hc]
  decide

theorem allDigits_digitsOf (n : Nat) : AllDigits (digitsOf n) := by
  intro c hc
  exact Nat.isDigit_of_mem_toDigits (by decide) (by decide) hc

@[simp]
theorem toList_repr (n : Nat) : n.repr.toList = digitsOf n := by
  rw [Nat.repr, String.toList_ofList, digitsOf]

theorem appendDigits_eq_ofDigitChars (value : Nat) (digits : List Char) :
    appendDigits value digits = Nat.ofDigitChars 10 digits value := by
  rw [appendDigits, Nat.ofDigitChars_eq_foldl]
  congr 1
  funext total digit
  rw [Nat.mul_comm]

@[simp]
theorem appendDigits_append (value : Nat) (left right : List Char) :
    appendDigits value (left ++ right) = appendDigits (appendDigits value left) right :=
  List.foldl_append

theorem appendDigits_eq_add (value : Nat) (digits : List Char) :
    appendDigits value digits = value * tenTo digits.length + appendDigits 0 digits := by
  rw [appendDigits_eq_ofDigitChars, appendDigits_eq_ofDigitChars,
    Nat.ofDigitChars_eq_ofDigitChars_zero, Nat.mul_comm, tenTo_eq]

@[simp]
theorem appendDigits_replicate_zero (value count : Nat) :
    appendDigits value (List.replicate count '0') = value * tenTo count := by
  rw [appendDigits_eq_ofDigitChars, Nat.ofDigitChars_replicate_zero, Nat.mul_comm, tenTo_eq]

@[simp]
theorem appendDigits_digitsOf (n : Nat) : appendDigits 0 (digitsOf n) = n := by
  rw [appendDigits_eq_ofDigitChars, digitsOf, Nat.ofDigitChars_ten_toDigits]

theorem appendDigits_lt {digits : List Char} (hdigits : AllDigits digits) :
    appendDigits 0 digits < tenTo digits.length := by
  induction digits with
  | nil => exact Nat.one_pos
  | cons c digits ih =>
      have hc : c.toNat - '0'.toNat < 10 := by
        have hdigit := hdigits c List.mem_cons_self
        simp only [Char.isDigit, Bool.and_eq_true, decide_eq_true_eq, ge_iff_le,
          UInt32.le_iff_toNat_le] at hdigit
        have hupper : c.toNat ≤ 57 := hdigit.2
        have hzero : '0'.toNat = 48 := rfl
        omega
      have hrest := ih fun other hother => hdigits other (List.mem_cons_of_mem c hother)
      have hcons : appendDigits 0 (c :: digits) =
          appendDigits (0 * 10 + (c.toNat - '0'.toNat)) digits := rfl
      rw [hcons, appendDigits_eq_add, List.length_cons, tenTo_add]
      have hten : tenTo 1 = 10 := rfl
      rw [hten]
      nlinarith

theorem spanDigits_append_of_allDigits {digits rest : List Char} (hdigits : AllDigits digits)
    (hrest : ∀ c tail, rest = c :: tail → c.isDigit = false) :
    spanDigits (digits ++ rest) = (digits, rest) := by
  rw [spanDigits, List.span_eq_takeWhile_dropWhile, List.takeWhile_append_of_pos hdigits,
    List.dropWhile_append_of_pos hdigits]
  cases rest with
  | nil => simp
  | cons c tail =>
      simp [hrest c tail rfl]

/-- The digits before the point: at least one, and no zero in front of another. -/
structure WholeDigits (whole : List Char) : Prop where
  ne_nil : whole ≠ []
  digits : AllDigits whole
  leading : whole.head? = some '0' → whole.length = 1

/-- The numbers with a point or an exponent, and the decimals they stand for. -/
inductive RealLiteral : List Char → Decimal → Prop
  | point {whole fraction : List Char} (hwhole : WholeDigits whole) (hne : fraction ≠ [])
      (hfraction : AllDigits fraction) :
      RealLiteral (whole ++ '.' :: fraction)
        ⟨appendDigits (appendDigits 0 whole) fraction, -(fraction.length : Int)⟩
  | exponent {whole mark : List Char} {value : Int} (hwhole : WholeDigits whole)
      (hmark : exponentOf? mark = some value) :
      RealLiteral (whole ++ 'e' :: mark) ⟨appendDigits 0 whole, value⟩
  | scientific {whole fraction mark : List Char} {value : Int} (hwhole : WholeDigits whole)
      (hne : fraction ≠ []) (hfraction : AllDigits fraction)
      (hmark : exponentOf? mark = some value) :
      RealLiteral (whole ++ '.' :: (fraction ++ 'e' :: mark))
        ⟨appendDigits (appendDigits 0 whole) fraction, value - (fraction.length : Int)⟩

theorem spanDigits_before_mark {digits rest : List Char} {mark : Char} (hdigits : AllDigits digits)
    (hmark : mark.isDigit = false) :
    spanDigits (digits ++ mark :: rest) = (digits, mark :: rest) := by
  refine spanDigits_append_of_allDigits hdigits ?_
  rintro c tail heq
  cases heq
  exact hmark

theorem spanDigits_of_allDigits {digits : List Char} (hdigits : AllDigits digits) :
    spanDigits digits = (digits, []) := by
  have hspan := @spanDigits_append_of_allDigits digits [] hdigits (by simp)
  rwa [List.append_nil] at hspan

theorem RealLiteral.congr {text written : List Char} {coefficient steps : Nat}
    {power exponent : Int} (hliteral : RealLiteral text ⟨coefficient, power⟩)
    (htext : written = text) (hsteps : steps = coefficient) (hexponent : exponent = power) :
    RealLiteral written ⟨steps, exponent⟩ := by
  rwa [htext, hsteps, hexponent]

theorem RealLiteral.ofText?_eq {text : List Char} {decimal : Decimal}
    (hliteral : RealLiteral text decimal) : ofText? text = some decimal := by
  cases hliteral with
  | point hwhole hne hfraction =>
      simp [ofText?, spanDigits_before_mark hwhole.digits, spanFraction,
        spanDigits_of_allDigits hfraction, hwhole.ne_nil]
  | exponent hwhole hmark =>
      simp [ofText?, spanDigits_before_mark hwhole.digits, spanFraction, hmark, hwhole.ne_nil,
        appendDigits]
  | scientific hwhole hne hfraction hmark =>
      simp [ofText?, spanDigits_before_mark hwhole.digits, spanFraction,
        spanDigits_before_mark hfraction, hmark, hwhole.ne_nil]

theorem RealLiteral.exists_cons {text : List Char} {decimal : Decimal}
    (hliteral : RealLiteral text decimal) : ∃ c rest, text = c :: rest ∧ c.isDigit = true := by
  have hwhole : ∃ whole rest, text = whole ++ rest ∧ WholeDigits whole := by
    cases hliteral with
    | point hwhole => exact ⟨_, _, rfl, hwhole⟩
    | exponent hwhole => exact ⟨_, _, rfl, hwhole⟩
    | scientific hwhole => exact ⟨_, _, rfl, hwhole⟩
  obtain ⟨whole, rest, rfl, hwhole⟩ := hwhole
  obtain ⟨c, tail, rfl⟩ := List.exists_cons_of_ne_nil hwhole.ne_nil
  exact ⟨c, tail ++ rest, rfl, hwhole.digits c List.mem_cons_self⟩

theorem exponentOf?_signed {mark : Char} {negative : Bool} (n : Nat)
    (hmark : ∀ digits, splitSign (mark :: digits) = (negative, digits)) :
    exponentOf? (mark :: digitsOf n) = some (if negative then -(n : Int) else n) := by
  have hne : digitsOf n ≠ [] := Nat.toDigits_ne_nil
  have hall : (digitsOf n).all Char.isDigit = true := List.all_eq_true.mpr (allDigits_digitsOf n)
  simp [exponentOf?, hmark, naturalOf?, hne, hall]

/-! ### The layout of JSON numbers -/

structure LeadingDigits (text : List Char) : Prop where
  ne_nil : text ≠ []
  digits : AllDigits text
  head_ne : text.head? ≠ some '0'

section Layout

variable {digits front back : List Char}

theorem LeadingDigits.of_append (hleading : LeadingDigits (front ++ back)) (hne : front ≠ []) :
    LeadingDigits front where
  ne_nil := hne
  digits := fun c hc => hleading.digits c (List.mem_append_left back hc)
  head_ne := by
    intro hzero
    apply hleading.head_ne
    rw [List.head?_append, hzero]
    rfl

theorem LeadingDigits.append (hleading : LeadingDigits front) (hback : AllDigits back) :
    LeadingDigits (front ++ back) where
  ne_nil := List.append_ne_nil_of_left_ne_nil hleading.ne_nil back
  digits := hleading.digits.append hback
  head_ne := by
    obtain ⟨c, rest, rfl⟩ := List.exists_cons_of_ne_nil hleading.ne_nil
    exact hleading.head_ne

theorem LeadingDigits.wholeDigits (hleading : LeadingDigits digits) : WholeDigits digits :=
  ⟨hleading.ne_nil, hleading.digits, fun hzero => absurd hzero hleading.head_ne⟩

/-- In positional notation zeros may be written out behind the digits, and one more behind the
point. -/
theorem realLiteral_positionalText (hleading : LeadingDigits digits) (exponent : Int) :
    ∃ zeros : Nat, RealLiteral (positionalText true digits exponent)
        ⟨appendDigits 0 digits * tenTo zeros, exponent + 1 - digits.length - zeros⟩ ∧
      (0 < zeros → (digits.length + zeros : Int) = exponent + 2) := by
  cases exponent with
  | ofNat exponent =>
      rw [positionalText, Int.ofNat_eq_natCast]
      split
      · next hshort =>
        have hwhole := (hleading.append
          (allDigits_replicate_zero (exponent + 1 - digits.length))).wholeDigits
        have hliteral := RealLiteral.point hwhole (List.cons_ne_nil '0' [])
          (allDigits_replicate_zero 1)
        refine ⟨exponent + 1 - digits.length + 1, hliteral.congr rfl ?_ ?_, by omega⟩
        · rw [appendDigits_append, appendDigits_replicate_zero, tenTo_add, ← Nat.mul_assoc]
          exact (appendDigits_replicate_zero _ 1).symm
        · rw [List.length_singleton]
          omega
      · next hlong =>
        have hsplit := List.take_append_drop (exponent + 1) digits
        have hwhole : WholeDigits (digits.take (exponent + 1)) := by
          apply LeadingDigits.wholeDigits
          apply @LeadingDigits.of_append _ (digits.drop (exponent + 1))
          · rwa [hsplit]
          · simp [hleading.ne_nil]
        have hfraction : AllDigits (digits.drop (exponent + 1)) :=
          fun c hc => hleading.digits c (List.mem_of_mem_drop hc)
        have hliteral := RealLiteral.point hwhole (by simp; omega) hfraction
        refine ⟨0, hliteral.congr rfl ?_ ?_, by omega⟩
        · rw [← appendDigits_append, hsplit]
          exact Nat.mul_one _
        · rw [List.length_drop]
          omega
  | negSucc zeros =>
      have hwhole : WholeDigits ['0'] := ⟨by simp, allDigits_replicate_zero 1, fun _ => rfl⟩
      have hliteral := RealLiteral.point hwhole (by simp [hleading.ne_nil])
        ((allDigits_replicate_zero zeros).append hleading.digits)
      refine ⟨0, hliteral.congr rfl ?_ ?_, by omega⟩
      · have hzero : appendDigits 0 ['0'] = 0 := rfl
        rw [appendDigits_append, appendDigits_replicate_zero, hzero, Nat.zero_mul]
        exact Nat.mul_one _
      · rw [List.length_append, List.length_replicate]
        omega

theorem realLiteral_exponentText (hleading : LeadingDigits digits) (exponent : Int) :
    RealLiteral (exponentText true digits exponent)
      ⟨appendDigits 0 digits, exponent + 1 - digits.length⟩ := by
  obtain ⟨mark, hmark, htext⟩ : ∃ mark, exponentOf? mark = some exponent ∧
      ∀ c rest, exponentText true (c :: rest) exponent =
        (if rest = [] then [c] else c :: '.' :: rest) ++ 'e' :: mark := by
    cases exponent with
    | ofNat value =>
        refine ⟨'+' :: digitsOf value, @exponentOf?_signed '+' false value fun _ => rfl, ?_⟩
        intro c rest
        cases rest <;> rfl
    | negSucc value =>
        refine ⟨'-' :: digitsOf (value + 1),
          @exponentOf?_signed '-' true (value + 1) fun _ => rfl, ?_⟩
        intro c rest
        cases rest <;> rfl
  obtain ⟨c, rest, rfl⟩ := List.exists_cons_of_ne_nil hleading.ne_nil
  have hwhole : WholeDigits [c] :=
    (@LeadingDigits.of_append [c] rest hleading (List.cons_ne_nil c [])).wholeDigits
  cases rest with
  | nil =>
      refine (RealLiteral.exponent hwhole hmark).congr (htext c []) rfl ?_
      simp
  | cons d rest =>
      have hfraction : AllDigits (d :: rest) :=
        fun e he => hleading.digits e (List.mem_cons_of_mem c he)
      refine (RealLiteral.scientific hwhole (List.cons_ne_nil d rest) hfraction hmark).congr
        (htext c (d :: rest)) rfl ?_
      simp only [List.length_cons]
      omega

end Layout

theorem exists_significantDigits_append (decimal : Decimal) :
    ∃ zeros, digitsOf decimal.coefficient =
      decimal.significantDigits ++ List.replicate zeros '0' := by
  have hzeros : ∀ c ∈ (digitsOf decimal.coefficient).reverse.takeWhile (· == '0'), c = '0' := by
    intro c hc
    simpa using List.mem_takeWhile_imp hc
  refine ⟨((digitsOf decimal.coefficient).reverse.takeWhile (· == '0')).length, ?_⟩
  rw [← List.reverse_replicate, ← List.eq_replicate_of_mem hzeros, significantDigits,
    ← List.reverse_append, List.takeWhile_append_dropWhile, List.reverse_reverse]

theorem head?_digitsOf_ne {n : Nat} (hpositive : 0 < n) : (digitsOf n).head? ≠ some '0' := by
  intro hhead
  obtain ⟨rest, hdigits⟩ := List.head?_eq_some_iff.mp hhead
  have hlength : (digitsOf n).length = rest.length + 1 := by rw [hdigits, List.length_cons]
  have hlower := (length_digitsOf_bounds hpositive hlength).1
  have hrest : AllDigits rest := by
    intro c hc
    refine allDigits_digitsOf n c ?_
    rw [hdigits]
    exact List.mem_cons_of_mem _ hc
  have hvalue : appendDigits 0 rest = n := by
    have hall := appendDigits_digitsOf n
    rwa [hdigits] at hall
  have hupper := appendDigits_lt hrest
  omega

theorem leadingDigits_digitsOf {n : Nat} (hpositive : 0 < n) : LeadingDigits (digitsOf n) :=
  ⟨Nat.toDigits_ne_nil, allDigits_digitsOf n, head?_digitsOf_ne hpositive⟩

/-- The significant digits carry the value of a decimal, up to the zeros that were cut off. -/
theorem exists_significantDigits {decimal : Decimal} (hpositive : 0 < decimal.coefficient) :
    LeadingDigits decimal.significantDigits ∧ ∃ zeros : Nat,
      decimal.coefficient = appendDigits 0 decimal.significantDigits * tenTo zeros ∧
      decimal.exponent + 1 - decimal.significantDigits.length = decimal.power + zeros := by
  obtain ⟨zeros, hsplit⟩ := exists_significantDigits_append decimal
  have hcoefficient : decimal.coefficient =
      appendDigits 0 decimal.significantDigits * tenTo zeros := by
    rw [← appendDigits_replicate_zero, ← appendDigits_append, ← hsplit, appendDigits_digitsOf]
  have hne : decimal.significantDigits ≠ [] := by
    intro hnil
    have hzero : appendDigits 0 [] = 0 := rfl
    rw [hnil, hzero, Nat.zero_mul] at hcoefficient
    omega
  have hleading := leadingDigits_digitsOf hpositive
  rw [hsplit] at hleading
  refine ⟨hleading.of_append hne, zeros, hcoefficient, ?_⟩
  rw [exponent, hsplit, List.length_append, List.length_replicate]
  omega

/-- A decimal rounds like its significant digits, with the power of ten that the zeros behind them
leave. -/
theorem Rounds.significantDigits {decimal : Decimal} {magnitude : Nat}
    (hrounds : Rounds decimal magnitude) (hpositive : 0 < decimal.coefficient) :
    Rounds ⟨appendDigits 0 decimal.significantDigits,
      decimal.exponent + 1 - decimal.significantDigits.length⟩ magnitude := by
  obtain ⟨-, zeros, hcoefficient, hexponent⟩ := exists_significantDigits hpositive
  rw [hexponent, ← rounds_mul_pow_iff, ← hcoefficient]
  exact hrounds

/-- **The text of a decimal in the layout of JSON numbers** is a literal for the same number. -/
theorem exists_realLiteral_text {decimal : Decimal} (hpositive : 0 < decimal.coefficient) :
    ∃ literal, RealLiteral (decimal.text Json.numberLayout) literal ∧
      (∀ magnitude, Rounds decimal magnitude → Rounds literal magnitude) ∧
      literal.coefficient ≤ max decimal.coefficient (tenTo 17) ∧
      min decimal.power (-1) ≤ literal.power := by
  obtain ⟨hleading, zeros, hcoefficient, hexponent⟩ := exists_significantDigits hpositive
  have hdigitsLe : appendDigits 0 decimal.significantDigits ≤ decimal.coefficient := by
    rw [hcoefficient]
    exact Nat.le_mul_of_pos_right _ (tenTo_pos zeros)
  rw [text]
  split
  · next hpositional =>
    obtain ⟨written, hliteral, hwritten⟩ := realLiteral_positionalText hleading decimal.exponent
    refine ⟨_, hliteral, ?_, ?_, ?_⟩
    · intro magnitude hnear
      rw [rounds_mul_pow_iff, Int.sub_add_cancel]
      exact hnear.significantDigits hpositive
    · rcases Nat.eq_zero_or_pos written with rfl | hmore
      · exact (Nat.mul_one _).trans_le (hdigitsLe.trans (Nat.le_max_left _ _))
      · have hlast : decimal.exponent ≤ 15 := by
          simp only [Json.numberLayout, Bool.and_eq_true, decide_eq_true_eq] at hpositional
          exact hpositional.2
        have hlength : decimal.significantDigits.length + written ≤ 17 := by
          have hwidth := hwritten hmore
          omega
        calc appendDigits 0 decimal.significantDigits * tenTo written
            ≤ tenTo decimal.significantDigits.length * tenTo written :=
              Nat.mul_le_mul_right _ (appendDigits_lt hleading.digits).le
          _ = tenTo (decimal.significantDigits.length + written) := (tenTo_add _ _).symm
          _ ≤ tenTo 17 := tenTo_le_tenTo hlength
          _ ≤ max decimal.coefficient (tenTo 17) := Nat.le_max_right _ _
    · rcases Nat.eq_zero_or_pos written with rfl | hmore
      · simp only [hexponent]
        omega
      · have hwidth := hwritten hmore
        simp only
        omega
  · refine ⟨_, realLiteral_exponentText hleading decimal.exponent, ?_, ?_, ?_⟩
    · exact fun magnitude hnear => hnear.significantDigits hpositive
    · exact hdigitsLe.trans (Nat.le_max_left _ _)
    · simp only [hexponent]
      omega

end SearchRanking.Decimal
