import SearchRanking.Decimal.Shortest
import SearchRanking.Proofs.Score.Rounding

/-!
# The shortest decimal reads back

A decimal rounds to a magnitude when its exact value lies between the midpoints around the
magnitude. The search for the shortest decimal runs over finer and finer grids and ends on the first
one with such a decimal, so the decimal it gives rounds to the magnitude it was made for. It ends
within seventeen digits, since the steps of that grid are smaller than the gaps between magnitudes,
and it never goes below `10 ^ (-324)`, where the steps are smaller than the least gap of all.
-/

namespace SearchRanking.Decimal

open Score

attribute [local irreducible] unitsOf gapOf

def powerNumerator : Int → Nat
  | .ofNat power => tenTo power
  | .negSucc _ => 1

def powerDenominator : Int → Nat
  | .ofNat _ => 1
  | .negSucc below => tenTo (below + 1)

theorem tenTo_eq (power : Nat) : tenTo power = 10 ^ power := rfl

theorem tenTo_add (left right : Nat) : tenTo (left + right) = tenTo left * tenTo right :=
  pow_add 10 left right

theorem tenTo_le_tenTo {left right : Nat} (hle : left ≤ right) : tenTo left ≤ tenTo right :=
  Nat.pow_le_pow_right (by decide) hle

theorem tenTo_pos (power : Nat) : 0 < tenTo power := Nat.pow_pos (by decide)

theorem powerNumerator_pos (power : Int) : 0 < powerNumerator power := by
  cases power with
  | ofNat power => exact tenTo_pos power
  | negSucc below => exact Nat.one_pos

theorem powerDenominator_pos (power : Int) : 0 < powerDenominator power := by
  cases power with
  | ofNat power => exact Nat.one_pos
  | negSucc below => exact tenTo_pos (below + 1)

theorem powerNumerator_add (power : Int) (rise : Nat) :
    powerNumerator (power + rise) * powerDenominator power =
      tenTo rise * powerNumerator power * powerDenominator (power + rise) := by
  cases power with
  | ofNat power =>
      have hsum : Int.ofNat power + (rise : Int) = Int.ofNat (rise + power) := by
        rw [Nat.add_comm rise]
        rfl
      rw [hsum]
      simp only [powerNumerator, powerDenominator, tenTo_add, Nat.mul_one]
  | negSucc below =>
      by_cases hnegative : rise ≤ below
      · have hsum : Int.negSucc below + (rise : Int) = Int.negSucc (below - rise) := by omega
        have hsplit : below + 1 = rise + (below - rise + 1) := by omega
        rw [hsum]
        simp only [powerNumerator, powerDenominator, Nat.one_mul, Nat.mul_one]
        rw [← tenTo_add, ← hsplit]
      · have hsum : Int.negSucc below + (rise : Int) = Int.ofNat (rise - (below + 1)) := by
          rw [Int.ofNat_eq_natCast]
          omega
        have hsplit : rise = rise - (below + 1) + (below + 1) := by omega
        rw [hsum]
        simp only [powerNumerator, powerDenominator, Nat.mul_one]
        rw [← tenTo_add, ← hsplit]

@[simp]
theorem powerNumerator_natCast (power : Nat) : powerNumerator power = tenTo power := rfl

@[simp]
theorem powerDenominator_natCast (power : Nat) : powerDenominator power = 1 := rfl

/-- The step of a grid, in units, over the denominator of its power. -/
def gridStep (power : Int) : Nat := unitsPerOne * powerNumerator power

theorem gridStep_pos (power : Int) : 0 < gridStep power :=
  Nat.mul_pos unitsPerOne_pos (powerNumerator_pos power)

theorem gridStep_add (power : Int) (rise : Nat) :
    gridStep (power + rise) * powerDenominator power =
      tenTo rise * gridStep power * powerDenominator (power + rise) := by
  calc gridStep (power + rise) * powerDenominator power
      = unitsPerOne * (powerNumerator (power + rise) * powerDenominator power) := by
        rw [gridStep, Nat.mul_assoc]
    _ = unitsPerOne * (tenTo rise * powerNumerator power * powerDenominator (power + rise)) := by
        rw [powerNumerator_add]
    _ = tenTo rise * gridStep power * powerDenominator (power + rise) := by
        rw [gridStep]
        ring

/-- The magnitude is the nearest one to the decimal. -/
def Rounds (decimal : Decimal) (magnitude : Nat) : Prop :=
  Nearest (decimal.coefficient * gridStep decimal.power) (powerDenominator decimal.power) magnitude

theorem rounds_mk_iff {coefficient magnitude : Nat} {power : Int} :
    Rounds ⟨coefficient, power⟩ magnitude ↔
      Nearest (coefficient * gridStep power) (powerDenominator power) magnitude := Iff.rfl

theorem rounds_mul_pow_iff {coefficient rise magnitude : Nat} {power : Int} :
    Rounds ⟨coefficient * tenTo rise, power⟩ magnitude ↔
      Rounds ⟨coefficient, power + rise⟩ magnitude := by
  have hvalue : coefficient * tenTo rise * gridStep power * powerDenominator (power + rise) =
      coefficient * gridStep (power + rise) * powerDenominator power := by
    rw [Nat.mul_assoc coefficient (gridStep _), gridStep_add]
    ring
  exact ⟨Nearest.congr (powerDenominator_pos _) (powerDenominator_pos _) hvalue,
    Nearest.congr (powerDenominator_pos _) (powerDenominator_pos _) hvalue.symm⟩

theorem gridRatio_eq (units : Nat) (power : Int) :
    gridRatio units power = (units * powerDenominator power, gridStep power) := by
  cases power with
  | ofNat power => simp [gridRatio, powerDenominator, gridStep, powerNumerator]
  | negSucc below => simp [gridRatio, powerDenominator, gridStep, powerNumerator]

theorem roundsTo_iff {magnitude steps : Nat} {power : Int} :
    roundsTo magnitude power steps = true ↔ Rounds ⟨steps, power⟩ magnitude := by
  simp only [roundsTo, gridRatio_eq, Nat.mul_assoc 2]
  constructor
  · intro htest
    split at htest
    · next heven =>
      simp only [Bool.and_eq_true, decide_eq_true_eq] at htest
      exact ⟨htest.1, htest.2, by omega⟩
    · simp only [Bool.and_eq_true, decide_eq_true_eq] at htest
      exact ⟨htest.1.le, htest.2.le, fun _ => ⟨htest.1.ne, htest.2.ne⟩⟩
  · intro hrounds
    split
    · simpa using ⟨hrounds.lower, hrounds.upper⟩
    · next hodd =>
      have hstrict := hrounds.odd (by omega)
      simp only [Bool.and_eq_true, decide_eq_true_eq]
      exact ⟨lt_of_le_of_ne hrounds.lower hstrict.1, lt_of_le_of_ne hrounds.upper hstrict.2⟩

def gridBelow (magnitude : Nat) (power : Int) : Nat :=
  unitsOf magnitude * powerDenominator power / gridStep power

theorem gridBelow_def (magnitude : Nat) (power : Int) :
    gridBelow magnitude power = unitsOf magnitude * powerDenominator power / gridStep power := rfl

section Grid

variable {tie : Tie} {magnitude : Nat} {power : Int}

theorem rounds_of_onGrid? {decimal : Decimal}
    (hfound : onGrid? tie magnitude power = some decimal) :
    Rounds decimal magnitude ∧ decimal.power = power ∧
      decimal.coefficient ≤ gridBelow magnitude power + 1 := by
  simp only [onGrid?, gridRatio_eq, ← gridBelow_def] at hfound
  split at hfound
  · next hbelow habove =>
    rw [roundsTo_iff] at hbelow habove
    simp only [Option.some.injEq] at hfound
    subst hfound
    split
    · exact ⟨habove, rfl, le_rfl⟩
    · exact ⟨hbelow, rfl, Nat.le_succ _⟩
  · next hbelow _ =>
    cases hfound
    exact ⟨roundsTo_iff.mp hbelow, rfl, Nat.le_succ _⟩
  · next _ habove =>
    cases hfound
    exact ⟨roundsTo_iff.mp habove, rfl, le_rfl⟩
  · cases hfound

theorem onGrid?_isSome {steps : Nat} (hrounds : Rounds ⟨steps, power⟩ magnitude)
    (hsteps : steps = gridBelow magnitude power ∨ steps = gridBelow magnitude power + 1) :
    (onGrid? tie magnitude power).isSome = true := by
  rw [← roundsTo_iff] at hrounds
  simp only [onGrid?, gridRatio_eq, ← gridBelow_def]
  rcases hsteps with rfl | rfl
  · split <;> simp_all
  · split <;> simp_all

theorem gridBelow_bounds (magnitude : Nat) (power : Int) :
    gridBelow magnitude power * gridStep power ≤ unitsOf magnitude * powerDenominator power ∧
      unitsOf magnitude * powerDenominator power <
        (gridBelow magnitude power + 1) * gridStep power := by
  constructor
  · exact Nat.div_mul_le_self _ _
  · rw [Nat.succ_mul]
    exact Nat.lt_div_mul_add (gridStep_pos power)

theorem rounds_of_bounds {steps : Nat} (hpositive : 0 < magnitude)
    (hlower : 2 * (unitsOf magnitude * powerDenominator power) <
      2 * (steps * gridStep power) + gapOf (magnitude - 1) * powerDenominator power)
    (hupper : 2 * (steps * gridStep power) <
      2 * (unitsOf magnitude * powerDenominator power) +
        gapOf magnitude * powerDenominator power) :
    Rounds ⟨steps, power⟩ magnitude := by
  have hvalue : unitsOf magnitude * powerDenominator power =
      unitsOf (magnitude - 1) * powerDenominator power +
        gapOf (magnitude - 1) * powerDenominator power := by
    have hstep := unitsOf_succ (magnitude - 1)
    rw [Nat.sub_add_cancel hpositive] at hstep
    rw [hstep, Nat.add_mul]
  rw [rounds_mk_iff]
  exact Nearest.of_values rfl rfl rfl (by omega) (by omega) (by omega)

theorem onGrid?_isSome_of_two_mul_lt (hpositive : 0 < magnitude)
    (hstep : 2 * gridStep power < gapOf magnitude * powerDenominator power) :
    (onGrid? tie magnitude power).isSome = true := by
  obtain ⟨hfloor, hceil⟩ := gridBelow_bounds magnitude power
  have hnext : (gridBelow magnitude power + 1) * gridStep power =
      gridBelow magnitude power * gridStep power + gridStep power := Nat.succ_mul _ _
  -- The neighbour above is less than one step away.
  exact onGrid?_isSome (rounds_of_bounds hpositive (by omega) (by omega)) (Or.inr rfl)

theorem onGrid?_isSome_of_lt (hpositive : 0 < magnitude)
    (hstep : gridStep power < gapOf (magnitude - 1) * powerDenominator power) :
    (onGrid? tie magnitude power).isSome = true := by
  obtain ⟨hfloor, hceil⟩ := gridBelow_bounds magnitude power
  have hnext : (gridBelow magnitude power + 1) * gridStep power =
      gridBelow magnitude power * gridStep power + gridStep power := Nat.succ_mul _ _
  have hgap : gapOf (magnitude - 1) * powerDenominator power ≤
      gapOf magnitude * powerDenominator power :=
    Nat.mul_le_mul_right _ (gapOf_mono (Nat.sub_le magnitude 1))
  -- The nearer neighbour is at most half a step away.
  by_cases hnear : 2 * (unitsOf magnitude * powerDenominator power) ≤
      2 * (gridBelow magnitude power * gridStep power) + gridStep power
  · exact onGrid?_isSome (rounds_of_bounds hpositive (by omega) (by omega)) (Or.inl rfl)
  · exact onGrid?_isSome (rounds_of_bounds hpositive (by omega) (by omega)) (Or.inr rfl)

theorem onGrid?_isSome_of_pow_le (hpositive : 0 < magnitude)
    (hdigits : 10 ^ 16 * gridStep power ≤ unitsOf magnitude * powerDenominator power) :
    (onGrid? tie magnitude power).isSome = true := by
  have hstep := gridStep_pos power
  rw [unitsOf_eq, Nat.mul_assoc] at hdigits
  by_cases hleast : significandOf magnitude ≤ exponentWeight
  · -- At the least significand of a scale the gap below may be half of the gap above.
    have hweight := hdigits.trans (Nat.mul_le_mul_right _ hleast)
    simp only [exponentWeight] at hweight
    exact onGrid?_isSome_of_two_mul_lt hpositive (by omega)
  · have hlt := significandOf_lt magnitude
    have hgap : gapOf (magnitude - 1) = gapOf magnitude := by
      have hparts := scaleOf_mul_add_significandOf magnitude
      have hinner : magnitude - 1 =
          scaleOf magnitude * exponentWeight + (significandOf magnitude - 1) := by omega
      rw [hinner, gapOf_scale_add (by omega) (by omega), gapOf]
    have hweight := hdigits.trans (Nat.mul_le_mul_right _ hlt.le)
    rw [← hgap] at hweight
    simp only [exponentWeight] at hweight
    exact onGrid?_isSome_of_lt hpositive (by omega)

end Grid

/-! ### The search -/

theorem length_digitsOf_le_iff {n length : Nat} (hpositive : 0 < length) :
    (digitsOf n).length ≤ length ↔ n < tenTo length :=
  Nat.length_toDigits_le_iff (by decide) hpositive

theorem length_digitsOf_bounds {n length : Nat} (hpositive : 0 < n)
    (hlength : (digitsOf n).length = length + 1) : tenTo length ≤ n ∧ n < tenTo (length + 1) := by
  constructor
  · rcases Nat.eq_zero_or_pos length with rfl | hmore
    · exact hpositive
    · by_contra hlt
      have hshort := (length_digitsOf_le_iff hmore).mpr (Nat.lt_of_not_le hlt)
      omega
  · exact (length_digitsOf_le_iff (Nat.succ_pos length)).mp hlength.le

theorem leadingExponent_bounds {units : Nat} (hpositive : 0 < units) (places : Nat) :
    tenTo places * gridStep (leadingExponent units - places) ≤
        units * powerDenominator (leadingExponent units - places) ∧
      units * powerDenominator (leadingExponent units - places) <
        tenTo (places + 1) * gridStep (leadingExponent units - places) := by
  have hone : 0 < units * tenTo 400 / unitsPerOne := by
    have hunit : unitsPerOne ≤ tenTo 400 := by decide +kernel
    exact Nat.div_pos (hunit.trans (Nat.le_mul_of_pos_left _ hpositive)) unitsPerOne_pos
  obtain ⟨length, hlength⟩ : ∃ length,
      (digitsOf (units * tenTo 400 / unitsPerOne)).length = length + 1 :=
    Nat.exists_eq_succ_of_ne_zero (by simp [digitsOf])
  obtain ⟨hlower, hupper⟩ := length_digitsOf_bounds hone hlength
  rw [Nat.le_div_iff_mul_le unitsPerOne_pos] at hlower
  rw [Nat.div_lt_iff_lt_mul unitsPerOne_pos] at hupper
  have hpower : leadingExponent units - places + ((places + 1 + 400 : Nat) : Int) =
      ((length + 1 : Nat) : Int) := by
    rw [leadingExponent, hlength]
    omega
  -- Both bounds are multiplied by `10 ^ 400`, which takes the power to a natural number.
  have hstep := gridStep_add (leadingExponent units - places) (places + 1 + 400)
  rw [hpower, gridStep, powerNumerator_natCast, powerDenominator_natCast, Nat.mul_one,
    tenTo_add _ 400] at hstep
  generalize leadingExponent units - places = power at hstep ⊢
  have hscale : 0 < tenTo 400 := tenTo_pos 400
  generalize tenTo 400 = scale at hlower hupper hstep hscale
  constructor
  · refine Nat.le_of_mul_le_mul_left ?_ (Nat.mul_pos (tenTo_pos 1) hscale)
    calc tenTo 1 * scale * (tenTo places * gridStep power)
        = tenTo (places + 1) * scale * gridStep power := by
          rw [tenTo_add]
          ring
      _ = tenTo 1 * (tenTo length * unitsPerOne) * powerDenominator power := by
          rw [← hstep, tenTo_add]
          ring
      _ ≤ tenTo 1 * (units * scale) * powerDenominator power := by gcongr
      _ = tenTo 1 * scale * (units * powerDenominator power) := by ring
  · refine @Nat.lt_of_mul_lt_mul_left scale _ _ ?_
    calc scale * (units * powerDenominator power)
        = units * scale * powerDenominator power := by ring
      _ < tenTo (length + 1) * unitsPerOne * powerDenominator power :=
          Nat.mul_lt_mul_of_pos_right hupper (powerDenominator_pos power)
      _ = scale * (tenTo (places + 1) * gridStep power) := by
          rw [Nat.mul_comm (tenTo (length + 1)), hstep]
          ring

theorem neg_le_leadingExponent {units : Nat} (hpositive : 0 < units) :
    -324 ≤ leadingExponent units := by
  have hlarge : tenTo 76 ≤ units * tenTo 400 / unitsPerOne := by
    rw [Nat.le_div_iff_mul_le unitsPerOne_pos]
    have hleast : tenTo 76 * unitsPerOne ≤ tenTo 400 := by decide +kernel
    exact hleast.trans (Nat.le_mul_of_pos_left _ hpositive)
  have hlength : 76 < (digitsOf (units * tenTo 400 / unitsPerOne)).length := by
    by_contra hshort
    have hlt := (Nat.length_toDigits_le_iff (by decide) (by decide)).mp (Nat.le_of_not_lt hshort)
    exact absurd hlt (Nat.not_lt.mpr hlarge)
  rw [leadingExponent]
  omega

theorem onGrid?_isSome_finest {tie : Tie} {magnitude : Nat} (hpositive : 0 < magnitude) :
    (onGrid? tie magnitude (-324)).isSome = true := by
  refine onGrid?_isSome_of_two_mul_lt hpositive ?_
  -- The least gap is one unit, and more than two steps of this grid.
  have hleast : 2 * gridStep (-324) < powerDenominator (-324) := by decide +kernel
  exact hleast.trans_le (Nat.le_mul_of_pos_left _ (gapOf_pos magnitude))

theorem unitsOf_pos {magnitude : Nat} (hpositive : 0 < magnitude) : 0 < unitsOf magnitude := by
  have hmono := unitsOf_strictMono hpositive
  rwa [unitsOf_zero] at hmono

theorem exists_shortest_eq (tie : Tie) {magnitude : Nat} (hpositive : 0 < magnitude) :
    ∃ places ≤ 16,
      onGrid? tie magnitude (leadingExponent (unitsOf magnitude) - (places : Nat)) =
          some (shortest tie magnitude) ∧
        ∀ fewer < places,
          onGrid? tie magnitude (leadingExponent (unitsOf magnitude) - (fewer : Nat)) = none := by
  have hlast : (onGrid? tie magnitude
      (leadingExponent (unitsOf magnitude) - (16 : Nat))).isSome = true :=
    onGrid?_isSome_of_pow_le hpositive (leadingExponent_bounds (unitsOf_pos hpositive) 16).1
  obtain ⟨decimal, hfound⟩ : ∃ decimal, (List.range 17).findSome? (fun places =>
      onGrid? tie magnitude (leadingExponent (unitsOf magnitude) - (places : Nat))) =
        some decimal := by
    rw [← Option.isSome_iff_exists, List.findSome?_isSome_iff]
    exact ⟨16, by simp, hlast⟩
  have hshortest : shortest tie magnitude = decimal := by
    simp only [shortest, hfound, Option.getD_some]
  obtain ⟨front, places, back, hrange, hplaces, hfront⟩ := List.findSome?_eq_some_iff.mp hfound
  have hmem : ∀ fewer, fewer ∈ front ++ places :: back ↔ fewer < 17 := by
    intro fewer
    rw [← hrange, List.mem_range]
  refine ⟨places, ?_, hshortest ▸ hplaces, ?_⟩
  · have hlt := (hmem places).mp (by simp)
    omega
  · intro fewer hfewer
    apply hfront
    have hsorted : (front ++ places :: back).Pairwise (· < ·) := by
      rw [← hrange]
      exact List.pairwise_lt_range
    have hplacesLt := (hmem places).mp (by simp)
    have hwhere := (hmem fewer).mpr (by omega)
    rw [List.mem_append, List.mem_cons] at hwhere
    rcases hwhere with hbefore | rfl | hbehind
    · exact hbefore
    · exact absurd hfewer (lt_irrefl _)
    · have hlater := List.rel_of_pairwise_cons (List.pairwise_append.mp hsorted).2.1 hbehind
      omega

/-- **The shortest decimal rounds to its magnitude.** It has seventeen digits at the most, or is a
power of ten beyond them, and its last digit stands no lower than `10 ^ (-324)`. -/
theorem shortest_spec (tie : Tie) {magnitude : Nat} (hpositive : 0 < magnitude) :
    Rounds (shortest tie magnitude) magnitude ∧
      (shortest tie magnitude).coefficient ≤ tenTo 17 ∧
      -324 ≤ (shortest tie magnitude).power := by
  obtain ⟨places, hplaces, hfound, hfirst⟩ := exists_shortest_eq tie hpositive
  obtain ⟨hrounds, hpower, hcoefficient⟩ := rounds_of_onGrid? hfound
  refine ⟨hrounds, ?_, ?_⟩
  · have hupper := (leadingExponent_bounds (unitsOf_pos hpositive) places).2
    have hbelow := (gridBelow_bounds magnitude
      (leadingExponent (unitsOf magnitude) - (places : Nat))).1
    have hdigits := Nat.lt_of_mul_lt_mul_right (hbelow.trans_lt hupper)
    have hmost : tenTo (places + 1) ≤ tenTo 17 := tenTo_le_tenTo (by omega)
    omega
  · by_contra hlow
    have hleading := neg_le_leadingExponent (unitsOf_pos hpositive)
    rw [hpower] at hlow
    -- A finer grid than `10 ^ (-324)` is not reached, since that one holds a decimal.
    obtain ⟨fewer, hfewer⟩ : ∃ fewer : Nat,
        leadingExponent (unitsOf magnitude) - fewer = -324 :=
      ⟨(leadingExponent (unitsOf magnitude) + 324).toNat, by omega⟩
    have hnone := hfirst fewer (by omega)
    have hsome := @onGrid?_isSome_finest tie magnitude hpositive
    rw [← hfewer, hnone] at hsome
    cases hsome

theorem Rounds.coefficient_pos {decimal : Decimal} {magnitude : Nat}
    (hrounds : Rounds decimal magnitude) (hpositive : 0 < magnitude) :
    0 < decimal.coefficient := by
  by_contra hzero
  have hlower := hrounds.lower
  rw [Nat.eq_zero_of_not_pos hzero, Nat.zero_mul, Nat.mul_zero, Nat.le_zero] at hlower
  have hvalue : 0 < (unitsOf magnitude + unitsOf (magnitude - 1)) *
      powerDenominator decimal.power :=
    Nat.mul_pos (Nat.add_pos_left (unitsOf_pos hpositive) _) (powerDenominator_pos _)
  omega

end SearchRanking.Decimal
