import SearchRanking.Ranking

/-!
# The order of entries is lawful

Three keys decide between two entries, one after the other: the effective score, the title in lower
case and the position. The score key is a whole number, so the mix of NaNs, infinities and signed
zeros is settled once, by saying which scores share a key. All three keys are compared by total
orders, and a chain of total orders is one again; no other module opens the chain.
-/

namespace SearchRanking

namespace Score

@[simp]
theorem bits_inj {a b : Score} : a.bits = b.bits ↔ a = b := by
  constructor
  · intro hbits
    rw [← ofBits_bits a, ← ofBits_bits b, hbits]
  · exact congrArg bits

theorem orderKey_of_isNaN {score : Score} (hnan : score.isNaN = true) :
    score.orderKey = -0x10000000000000000 := by
  rw [orderKey, if_pos hnan]

theorem orderKey_of_not_isNaN {score : Score} (hnan : score.isNaN = false) :
    score.orderKey =
      if score.negative then -1 - (score.magnitude : Int) else (score.magnitude : Int) := by
  rw [orderKey, if_neg (by simp [hnan])]

theorem lt_orderKey_of_not_isNaN {score : Score} (hnan : score.isNaN = false) :
    -0x10000000000000000 < score.orderKey := by
  have hlt := score.magnitude_lt
  rw [orderKey_of_not_isNaN hnan]
  split <;> omega

theorem eq_of_orderKey_eq {a b : Score} (ha : a.isNaN = false) (hb : b.isNaN = false)
    (hkey : a.orderKey = b.orderKey) : a = b := by
  rw [orderKey_of_not_isNaN ha, orderKey_of_not_isNaN hb] at hkey
  obtain ⟨negativeA, magnitudeA, hltA⟩ := a
  obtain ⟨negativeB, magnitudeB, hltB⟩ := b
  cases negativeA <;> cases negativeB <;>
    simp only [Bool.false_eq_true, if_false, if_true] at hkey <;>
    simp only [mk.injEq, reduceCtorEq, true_and, false_and] <;> omega

theorem orderKey_eq_iff {a b : Score} :
    a.orderKey = b.orderKey ↔ a.bits = b.bits ∨ (a.isNaN = true ∧ b.isNaN = true) := by
  rw [bits_inj]
  constructor
  · intro hkey
    cases ha : a.isNaN <;> cases hb : b.isNaN
    · exact Or.inl (eq_of_orderKey_eq ha hb hkey)
    · have hgap := lt_orderKey_of_not_isNaN ha
      rw [hkey, orderKey_of_isNaN hb] at hgap
      omega
    · have hgap := lt_orderKey_of_not_isNaN hb
      rw [← hkey, orderKey_of_isNaN ha] at hgap
      omega
    · exact Or.inr ⟨rfl, rfl⟩
  · rintro (rfl | ⟨ha, hb⟩)
    · rfl
    · rw [orderKey_of_isNaN ha, orderKey_of_isNaN hb]

end Score

namespace Entry

theorem titleKey_eq_iff {a b : Entry} :
    a.titleKey = b.titleKey ↔
      Text.lowercase a.record.title = Text.lowercase b.record.title :=
  String.toList_inj

instance : Std.TransCmp compareScores :=
  inferInstanceAs (Std.TransCmp fun a b : Entry =>
    compareOn (fun entry : Entry => entry.score.orderKey) b a)

instance : Std.TransCmp Entry.compare :=
  inferInstanceAs (Std.TransCmp
    (compareLex compareScores (compareLex (compareOn titleKey) (compareOn position))))

@[simp]
theorem compareScores_eq_iff {a b : Entry} :
    compareScores a b = .eq ↔ a.score.orderKey = b.score.orderKey := by
  rw [compareScores, Std.LawfulEqOrd.compare_eq_iff_eq, eq_comm]

theorem compare_eq_iff_keys {a b : Entry} :
    compare a b = .eq ↔
      a.score.orderKey = b.score.orderKey ∧ a.titleKey = b.titleKey ∧
        a.position = b.position := by
  rw [compare, Ordering.then_eq_eq, Ordering.then_eq_eq, compareScores_eq_iff,
    Std.LawfulEqOrd.compare_eq_iff_eq, Std.LawfulEqOrd.compare_eq_iff_eq]

theorem compare_of_score_eq {a b : Entry} (hscore : a.score = b.score) :
    compare a b =
      (Ord.compare a.titleKey b.titleKey).then (Ord.compare a.position b.position) := by
  have htie : compareScores a b = .eq := by rw [compareScores_eq_iff, hscore]
  rw [compare, htie, Ordering.eq_then]

theorem compare_eq_lt_of_orderKey_lt {a b : Entry}
    (hkey : b.score.orderKey < a.score.orderKey) : compare a b = .lt := by
  have hlt : compareScores a b = .lt := Std.compare_eq_lt.mpr hkey
  rw [compare, hlt, Ordering.lt_then]

theorem compare_ne_eq_of_position_ne {a b : Entry} (hne : a.position ≠ b.position) :
    compare a b ≠ .eq := by
  intro heq
  exact hne (compare_eq_iff_keys.mp heq).2.2

theorem precedes_eq_isLE (a b : Entry) : precedes a b = (compare a b).isLE := by
  rw [precedes]
  cases compare a b <;> rfl

/-- **The order of entries is a lawful total order.** Turning two entries round reverses the answer;
standing no later carries over, and standing earlier wherever one of the steps does; and a tie is a
tie in every key, so that different positions never tie. -/
theorem compare_total_order (a b c : Entry) :
    compare b a = (compare a b).swap ∧
    (compare a b ≠ .gt → compare b c ≠ .gt →
      compare a c ≠ .gt ∧ (compare a b = .lt ∨ compare b c = .lt → compare a c = .lt)) ∧
    (compare a b = .eq ↔
      (a.score.bits = b.score.bits ∨ (a.score.isNaN = true ∧ b.score.isNaN = true)) ∧
        Text.lowercase a.record.title = Text.lowercase b.record.title ∧
        a.position = b.position) ∧
    (a.position ≠ b.position → compare a b ≠ .eq) := by
  refine ⟨Std.OrientedCmp.eq_swap, ?_, ?_, compare_ne_eq_of_position_ne⟩
  · intro hab hbc
    have hleAB := Ordering.isLE_iff_ne_gt.mpr hab
    have hleBC := Ordering.isLE_iff_ne_gt.mpr hbc
    refine ⟨Ordering.isLE_iff_ne_gt.mp (Std.TransCmp.isLE_trans hleAB hleBC), ?_⟩
    rintro (hlt | hlt)
    · exact Std.TransCmp.lt_of_lt_of_isLE hlt hleBC
    · exact Std.TransCmp.lt_of_isLE_of_lt hleAB hlt
  · rw [compare_eq_iff_keys, Score.orderKey_eq_iff, titleKey_eq_iff]

end Entry

end SearchRanking
