import SearchRanking.Proofs.Decimal.Literal

namespace SearchRanking.Decimal

/-- An optional sign, and whether it is a minus. -/
inductive Sign : List Char → Bool → Prop
  | absent : Sign [] false
  | plus : Sign ['+'] false
  | minus : Sign ['-'] true

/-- Digits with an optional point among them, the number that all of them make, and how many stand
behind the point. -/
inductive Mantissa : List Char → Nat → Nat → Prop
  | whole {digits : List Char} (hne : digits ≠ []) (hdigits : AllDigits digits) :
      Mantissa digits (Nat.ofDigitChars 10 digits 0) 0
  | point {whole fraction : List Char} (hne : whole ++ fraction ≠ []) (hwhole : AllDigits whole)
      (hfraction : AllDigits fraction) :
      Mantissa (whole ++ '.' :: fraction) (Nat.ofDigitChars 10 (whole ++ fraction) 0)
        fraction.length

/-- An optional exponent: its mark, an optional sign and at least one digit. -/
inductive Exponent : List Char → Int → Prop
  | absent : Exponent [] 0
  | marked {mark : Char} {sign digits : List Char} {negative : Bool}
      (hmark : mark = 'e' ∨ mark = 'E') (hsign : Sign sign negative) (hne : digits ≠ [])
      (hdigits : AllDigits digits) :
      Exponent (mark :: (sign ++ digits))
        (if negative then -(Nat.ofDigitChars 10 digits 0 : Int) else Nat.ofDigitChars 10 digits 0)

inductive Numeral : List Char → Decimal → Prop
  | mk {mantissa exponent : List Char} {coefficient places : Nat} {power : Int}
      (hmantissa : Mantissa mantissa coefficient places) (hexponent : Exponent exponent power) :
      Numeral (mantissa ++ exponent) ⟨coefficient, power - places⟩

section Exponents

variable {text sign body : List Char} {negative : Bool} {value : Nat} {power : Int}

theorem exists_sign (text : List Char) :
    ∃ sign, Sign sign (splitSign text).1 ∧ text = sign ++ (splitSign text).2 := by
  unfold splitSign
  split
  · exact ⟨['+'], .plus, rfl⟩
  · exact ⟨['-'], .minus, rfl⟩
  · exact ⟨[], .absent, rfl⟩

theorem Sign.splitSign_append (hsign : Sign sign negative)
    (hbody : ∀ c ∈ body.head?, c ≠ '+' ∧ c ≠ '-') :
    splitSign (sign ++ body) = (negative, body) := by
  cases hsign with
  | absent =>
      cases body with
      | nil => rfl
      | cons c rest =>
          have hc := hbody c rfl
          rw [List.nil_append]
          unfold splitSign
          split
          · next heq => simp_all
          · next heq => simp_all
          · rfl
  | plus => rfl
  | minus => rfl

/-- The first character is no sign where it has a property that signs do not have. -/
theorem ne_sign_of_head {P : Char → Prop} (hplus : ¬P '+') (hminus : ¬P '-')
    (hhead : ∀ c ∈ body.head?, P c) : ∀ c ∈ body.head?, c ≠ '+' ∧ c ≠ '-' := by
  intro c hc
  have hfirst := hhead c hc
  constructor
  · rintro rfl
    exact hplus hfirst
  · rintro rfl
    exact hminus hfirst

theorem AllDigits.head_ne_sign (hdigits : AllDigits body) :
    ∀ c ∈ body.head?, c ≠ '+' ∧ c ≠ '-' :=
  ne_sign_of_head (P := (Char.isDigit · = true)) (by decide) (by decide) fun c hc =>
    hdigits c (List.mem_of_head? hc)

@[simp]
theorem naturalOf?_eq_some_iff :
    naturalOf? text = some value ↔
      text ≠ [] ∧ AllDigits text ∧ value = Nat.ofDigitChars 10 text 0 := by
  rw [naturalOf?, appendDigits_eq_ofDigitChars]
  by_cases hdigits : text ≠ [] ∧ AllDigits text
  · have hcheck : (text.isEmpty || !text.all Char.isDigit) = false := by
      simpa [AllDigits] using hdigits
    rw [hcheck]
    simp [hdigits.1, hdigits.2, eq_comm]
  · have hcheck : (text.isEmpty || !text.all Char.isDigit) = true := by
      simp only [AllDigits] at hdigits
      grind
    rw [hcheck]
    simp only [if_true, reduceCtorEq, false_iff]
    tauto

theorem exponentOf?_eq (text : List Char) :
    exponentOf? text = (naturalOf? (splitSign text).2).map fun value : Nat =>
      if (splitSign text).1 then -(value : Int) else value := by
  simp only [exponentOf?]
  cases naturalOf? (splitSign text).2 <;> rfl

/-- What may stand behind the digits: nothing, or an exponent. -/
def powerOf? : List Char → Option Int
  | [] => some 0
  | mark :: rest => if mark == 'e' || mark == 'E' then exponentOf? rest else none

@[simp]
theorem powerOf?_eq_some_iff : powerOf? text = some power ↔ Exponent text power := by
  constructor
  · intro hread
    cases text with
    | nil =>
        cases hread
        exact .absent
    | cons mark rest =>
        rw [powerOf?, Option.ite_none_right_eq_some] at hread
        obtain ⟨hmark, hread⟩ := hread
        rw [exponentOf?_eq, Option.map_eq_some_iff] at hread
        obtain ⟨value, hdigits, rfl⟩ := hread
        obtain ⟨hne, hall, rfl⟩ := naturalOf?_eq_some_iff.mp hdigits
        obtain ⟨sign, hsign, hrest⟩ := exists_sign rest
        have hexponent := Exponent.marked (by simpa using hmark) hsign hne hall
        rwa [← hrest] at hexponent
  · intro hexponent
    cases hexponent with
    | absent => rfl
    | marked hmark hsign hne hdigits =>
        rw [powerOf?, if_pos (by simpa using hmark), exponentOf?_eq,
          hsign.splitSign_append hdigits.head_ne_sign,
          naturalOf?_eq_some_iff.mpr ⟨hne, hdigits, rfl⟩]
        rfl

end Exponents

section Numerals

variable {text exponent : List Char} {power : Int} {decimal : Decimal}

theorem spanDigits_spec (text : List Char) :
    AllDigits (spanDigits text).1 ∧ text = (spanDigits text).1 ++ (spanDigits text).2 := by
  rw [spanDigits, List.span_eq_takeWhile_dropWhile]
  exact ⟨fun c hc => List.mem_takeWhile_imp hc, List.takeWhile_append_dropWhile.symm⟩

theorem spanFraction_spec (text : List Char) :
    AllDigits (spanFraction text).1 ∧
      (text = '.' :: (spanFraction text).1 ++ (spanFraction text).2 ∨
        (spanFraction text).1 = [] ∧ text = (spanFraction text).2) := by
  unfold spanFraction
  split
  · next rest =>
    obtain ⟨hdigits, hrest⟩ := spanDigits_spec rest
    exact ⟨hdigits, .inl (congrArg ('.' :: ·) hrest)⟩
  · exact ⟨by simp [AllDigits], .inr ⟨rfl, rfl⟩⟩

/-- The scanner: digits, a fraction and an exponent, with a digit before the exponent. -/
theorem ofText?_eq (text : List Char) :
    ofText? text =
      if (spanDigits text).1 ++ (spanFraction (spanDigits text).2).1 = [] then none
      else
        (powerOf? (spanFraction (spanDigits text).2).2).map fun power =>
          ⟨Nat.ofDigitChars 10 ((spanDigits text).1 ++ (spanFraction (spanDigits text).2).1) 0,
            power - (spanFraction (spanDigits text).2).1.length⟩ := by
  simp only [ofText?, appendDigits_eq_ofDigitChars, ← Nat.ofDigitChars_append]
  refine ite_congr (by simp) (fun _ => rfl) fun _ => ?_
  split
  · next hend => simp [hend, powerOf?]
  · next mark rest hmark =>
    rw [hmark, powerOf?]
    split <;> rfl

theorem Exponent.head_spec (hexponent : Exponent exponent power) :
    ∀ c rest, exponent = c :: rest → c.isDigit = false ∧ c ≠ '.' := by
  rintro c rest rfl
  cases hexponent with
  | marked hmark => rcases hmark with rfl | rfl <;> decide

theorem spanFraction_of_exponent (hexponent : Exponent exponent power) :
    spanFraction exponent = ([], exponent) := by
  unfold spanFraction
  split
  · next rest => exact absurd rfl (hexponent.head_spec _ _ rfl).2
  · rfl

@[simp]
theorem ofText?_eq_some_iff : ofText? text = some decimal ↔ Numeral text decimal := by
  constructor
  · intro hread
    rw [ofText?_eq, Option.ite_none_left_eq_some, Option.map_eq_some_iff] at hread
    obtain ⟨hne, power, hpower, rfl⟩ := hread
    rw [powerOf?_eq_some_iff] at hpower
    obtain ⟨hwhole, htext⟩ := spanDigits_spec text
    obtain ⟨hfraction, hpoint | ⟨hnone, hrest⟩⟩ := spanFraction_spec (spanDigits text).2
    · have hnumeral := Numeral.mk (.point hne hwhole hfraction) hpower
      rwa [List.append_assoc, ← hpoint, ← htext] at hnumeral
    · rw [hnone, List.append_nil] at hne ⊢
      have hnumeral := Numeral.mk (.whole hne hwhole) hpower
      rwa [← hrest, ← htext] at hnumeral
  · intro hnumeral
    obtain ⟨hmantissa, hexponent⟩ := hnumeral
    have hnoDigit := fun c rest heq => (hexponent.head_spec c rest heq).1
    rw [ofText?_eq]
    cases hmantissa with
    | whole hne hdigits =>
        rw [spanDigits_append_of_allDigits hdigits hnoDigit, spanFraction_of_exponent hexponent,
          List.append_nil, if_neg hne, powerOf?_eq_some_iff.mpr hexponent]
        rfl
    | point hne hwhole hfraction =>
        rw [List.append_assoc, List.cons_append, spanDigits_before_mark hwhole (by decide),
          spanFraction, spanDigits_append_of_allDigits hfraction hnoDigit, if_neg hne,
          powerOf?_eq_some_iff.mpr hexponent]
        rfl

theorem AllDigits.numeral (hdigits : AllDigits text) (hne : text ≠ []) :
    Numeral text ⟨Nat.ofDigitChars 10 text 0, 0⟩ := by
  have hnumeral := Numeral.mk (.whole hne hdigits) .absent
  rwa [List.append_nil] at hnumeral

end Numerals

end SearchRanking.Decimal
