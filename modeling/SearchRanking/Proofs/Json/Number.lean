import Mathlib.Data.List.TakeDrop
import SearchRanking.Json.Number

/-!
# Where a number ends

A number has no closing mark: its reader goes on as long as the text can be more of it. So a number
that was read up to the end of a text is read in the same way out of a longer text exactly when the
added text begins with nothing that continues a number. `Extends` says this of a reader, and the
readers of the parts of a number have it one after the other.
-/

namespace SearchRanking.Json

variable {ε α : Type}

/-- Whether a text cannot be taken for more of the number before it. -/
def endsNumber : List Char → Bool
  | [] => true
  | c :: _ => !(c.isDigit || c == '.' || c == 'e' || c == 'E')

/-- The reader reads the same out of a longer text, unless it came to the end of the shorter one
and the added text continues a number. -/
def Extends (reader : Reader ε α) : Prop :=
  ∀ {text left : List Char} {value : α} (more : List Char),
    reader text = .ok (value, left) → (left = [] → endsNumber more = true) →
      reader (text ++ more) = .ok (value, left ++ more)

theorem not_isDigit_of_endsNumber {c : Char} {rest : List Char}
    (hends : endsNumber (c :: rest) = true) : c.isDigit = false := by
  simp only [endsNumber, Bool.not_eq_true', Bool.or_eq_false_iff] at hends
  exact hends.1.1.1

theorem spanDigits_cons_of_not_isDigit {c : Char} (hc : c.isDigit = false) (rest : List Char) :
    Decimal.spanDigits (c :: rest) = ([], c :: rest) := by
  rw [Decimal.spanDigits, List.span_eq_takeWhile_dropWhile,
    List.takeWhile_cons_of_neg (by simp [hc]), List.dropWhile_cons_of_neg (by simp [hc])]

theorem spanDigits_of_endsNumber {more : List Char} (hends : endsNumber more = true) :
    Decimal.spanDigits more = ([], more) := by
  cases more with
  | nil => rfl
  | cons c rest => exact spanDigits_cons_of_not_isDigit (not_isDigit_of_endsNumber hends) rest

theorem spanDigits_append {text digits after more : List Char}
    (hspan : Decimal.spanDigits text = (digits, after))
    (hmore : after = [] → endsNumber more = true) :
    Decimal.spanDigits (text ++ more) = (digits, after ++ more) := by
  rw [Decimal.spanDigits, List.span_eq_takeWhile_dropWhile, Prod.mk.injEq] at hspan
  obtain ⟨rfl, rfl⟩ := hspan
  induction text with
  | nil => exact spanDigits_of_endsNumber (hmore rfl)
  | cons c text ih =>
      rw [Decimal.spanDigits, List.span_eq_takeWhile_dropWhile, List.cons_append]
      by_cases hc : c.isDigit = true
      · rw [List.dropWhile_cons_of_pos hc] at hmore
        have htail := ih hmore
        rw [Decimal.spanDigits, List.span_eq_takeWhile_dropWhile, Prod.mk.injEq] at htail
        simp only [List.takeWhile_cons_of_pos hc, List.dropWhile_cons_of_pos hc, htail.1, htail.2]
      · simp only [List.takeWhile_cons_of_neg hc, List.dropWhile_cons_of_neg hc, List.cons_append]

theorem realNumber_eq_ok {negative : Bool} {significand : Nat} {power : Int}
    {rest left : List Char} {number : Number}
    (hread : (realNumber negative significand power rest : Except (Fault ε) _) =
      .ok (number, left)) :
    left = rest ∧ ∀ other : List Char,
      (realNumber negative significand power other : Except (Fault ε) _) =
        .ok (number, other) := by
  unfold realNumber at hread ⊢
  cases hscaled : scaled? significand power with
  | none => simp [hscaled] at hread
  | some score =>
      simp only [hscaled, Except.ok.injEq, Prod.mk.injEq] at hread
      refine ⟨hread.2.symm, ?_⟩
      intro other
      exact congrArg (fun read => Except.ok (read, other)) hread.1

theorem splitSign_append {text : List Char} (hne : text ≠ []) (more : List Char) :
    Decimal.splitSign (text ++ more) =
      ((Decimal.splitSign text).1, (Decimal.splitSign text).2 ++ more) := by
  obtain ⟨c, rest, rfl⟩ := List.exists_cons_of_ne_nil hne
  rw [List.cons_append]
  unfold Decimal.splitSign
  split <;> simp_all

theorem extends_readExponent (negative : Bool) (significand : Nat) (power : Int) :
    Extends (readExponent negative significand power : Reader ε Number) := by
  intro text left number more hread hmore
  have hne : text ≠ [] := by
    rintro rfl
    simp [readExponent, Decimal.splitSign, Decimal.spanDigits, List.span, List.span.loop] at hread
  rcases hspan : Decimal.spanDigits (Decimal.splitSign text).2 with ⟨digits, rest⟩
  simp only [readExponent, hspan] at hread
  split at hread
  · cases hread
  · next hdigits =>
    obtain ⟨rfl, hother⟩ := realNumber_eq_ok hread
    simp only [readExponent, splitSign_append hne, spanDigits_append hspan hmore, if_neg hdigits]
    exact hother _

theorem append_ne_mark_cons {text more : List Char} {mark : Char}
    (hmark : mark = '.' ∨ mark = 'e' ∨ mark = 'E') (htext : ∀ tail, text ≠ mark :: tail)
    (hmore : text = [] → endsNumber more = true) (rest : List Char) :
    text ++ more ≠ mark :: rest := by
  intro heq
  cases text with
  | nil =>
      have hends := hmore rfl
      rw [List.nil_append] at heq
      rcases hmark with rfl | rfl | rfl <;> simp [heq, endsNumber] at hends
  | cons c tail =>
      rw [List.cons_append, List.cons.injEq] at heq
      exact htext tail (by rw [heq.1])

theorem extends_readScale (negative : Bool) (significand : Nat) (power : Int) :
    Extends (readScale negative significand power : Reader ε Number) := by
  intro text left number more hread hmore
  unfold readScale at hread
  split at hread
  · exact extends_readExponent negative significand power more hread hmore
  · exact extends_readExponent negative significand power more hread hmore
  · next hsmall hlarge =>
    obtain ⟨rfl, hother⟩ := realNumber_eq_ok hread
    unfold readScale
    split
    · next heq => exact (append_ne_mark_cons (by simp) hsmall hmore _ heq).elim
    · next heq => exact (append_ne_mark_cons (by simp) hlarge hmore _ heq).elim
    · exact hother _

theorem completed_eq_ok {negative : Bool} {significand dropped : Nat} {rest left : List Char}
    {number : Number}
    (hread : (if dropped = 0 then .ok (wholeNumber negative significand, rest)
      else realNumber negative significand dropped rest : Except (Fault ε) _) =
        .ok (number, left)) :
    left = rest ∧ ∀ other : List Char,
      (if dropped = 0 then .ok (wholeNumber negative significand, other)
        else realNumber negative significand dropped other : Except (Fault ε) _) =
          .ok (number, other) := by
  split at hread
  · next hexact =>
    cases hread
    exact ⟨rfl, fun other => if_pos hexact⟩
  · next hdropped =>
    obtain ⟨hleft, hother⟩ := realNumber_eq_ok hread
    refine ⟨hleft, ?_⟩
    intro other
    rw [if_neg hdropped]
    exact hother other

theorem extends_readPlaces (negative : Bool) (significand dropped : Nat) :
    Extends (readPlaces negative significand dropped : Reader ε Number) := by
  intro text left number more hread hmore
  unfold readPlaces at hread
  split at hread
  · next afterPoint =>
    rcases hfraction : Decimal.spanDigits afterPoint with ⟨fraction, rest⟩
    simp only [hfraction] at hread
    split at hread
    · cases hread
    next hplaces =>
    have hdone : rest = [] → left = [] := by
      rintro rfl
      exact (realNumber_eq_ok hread).1
    simp only [readPlaces, List.cons_append,
      spanDigits_append hfraction fun hnil => hmore (hdone hnil), if_neg hplaces]
    exact extends_readScale _ _ _ more hread hmore
  · exact extends_readExponent _ _ _ more hread hmore
  · exact extends_readExponent _ _ _ more hread hmore
  · next hpoint hsmall hlarge =>
    obtain ⟨rfl, hother⟩ := completed_eq_ok hread
    unfold readPlaces
    split
    · next heq => exact (append_ne_mark_cons (by simp) hpoint hmore _ heq).elim
    · next heq => exact (append_ne_mark_cons (by simp) hsmall hmore _ heq).elim
    · next heq => exact (append_ne_mark_cons (by simp) hlarge hmore _ heq).elim
    · exact hother _

theorem extends_readUnsigned (negative : Bool) :
    Extends (readUnsigned negative : Reader ε Number) := by
  intro text left number more hread hmore
  rcases hwhole : Decimal.spanDigits text with ⟨whole, rest⟩
  simp only [readUnsigned, hwhole] at hread
  split at hread
  · cases hread
  next hdigits =>
  split at hread
  · cases hread
  next hzero =>
  have hdone : rest = [] → left = [] := by
    rintro rfl
    exact (completed_eq_ok hread).1
  simp only [readUnsigned, spanDigits_append hwhole fun hnil => hmore (hdone hnil),
    if_neg hdigits, if_neg hzero]
  exact extends_readPlaces _ _ _ more hread hmore

theorem extends_readNumber : Extends (readNumber : Reader ε Number) := by
  intro text left number more hread hmore
  unfold readNumber at hread
  split at hread
  · exact extends_readUnsigned true more hread hmore
  · next hsign =>
    have hne : text ≠ [] := by
      rintro rfl
      cases hread
    obtain ⟨c, rest, rfl⟩ := List.exists_cons_of_ne_nil hne
    have hc : c ≠ '-' := by
      rintro rfl
      exact hsign rest rfl
    have hread' := extends_readUnsigned false more hread hmore
    rw [List.cons_append] at hread' ⊢
    simpa [readNumber, hc] using hread'

end SearchRanking.Json
