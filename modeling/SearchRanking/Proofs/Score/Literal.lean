import SearchRanking.Proofs.Decimal.Nearest
import SearchRanking.Proofs.Decimal.Numeral

namespace SearchRanking.Score

open Decimal

def SignedNumeral (text : List Char) (negative : Bool) (decimal : Decimal) : Prop :=
  ∃ sign body, Sign sign negative ∧ Numeral body decimal ∧ text = sign ++ body

/-- The name of an infinity or of a NaN, in any case. -/
def IsName (text : List Char) : Prop :=
  text.map Char.toLower ∈ ["inf", "infinity", "nan"].map String.toList

instance (text : List Char) : Decidable (IsName text) := List.instDecidableMemOfLawfulBEq _ _

def SignedName (text : List Char) : Prop :=
  ∃ sign body negative, Sign sign negative ∧ IsName body ∧ text = sign ++ body

variable {text body : List Char} {negative : Bool} {decimal : Decimal}

theorem head_of_numeral (hnumeral : Numeral body decimal) :
    ∃ c rest, body = c :: rest ∧ (c.isDigit = true ∨ c = '.') := by
  obtain ⟨hmantissa, -⟩ := hnumeral
  cases hmantissa with
  | whole hne hdigits =>
      obtain ⟨c, rest, rfl⟩ := List.exists_cons_of_ne_nil hne
      exact ⟨c, _, rfl, .inl (hdigits c List.mem_cons_self)⟩
  | @point whole fraction hne hwhole hfraction =>
      cases whole with
      | nil => exact ⟨'.', _, rfl, .inr rfl⟩
      | cons c rest => exact ⟨c, _, rfl, .inl (hwhole c List.mem_cons_self)⟩

theorem head_of_isName (hname : IsName body) :
    ∃ c rest, body = c :: rest ∧ (c.toLower = 'i' ∨ c.toLower = 'n') := by
  cases body with
  | nil => simp [IsName] at hname
  | cons c rest =>
      refine ⟨c, rest, rfl, ?_⟩
      simp only [IsName, List.map_cons, List.map_nil, List.mem_cons, List.not_mem_nil, or_false,
        String.reduceToList, List.cons.injEq] at hname
      tauto

theorem toLower_of_isDigit {c : Char} (hc : c.isDigit = true) : c.toLower = c := by
  refine dif_neg ?_
  rintro ⟨hletter, -⟩
  have hdigit : c.toNat ≤ '9'.toNat := by
    simp only [Char.isDigit, Bool.and_eq_true, decide_eq_true_eq] at hc
    exact hc.2
  exact absurd (Nat.le_trans hletter hdigit) (by decide)

theorem not_isName_of_numeral (hnumeral : Numeral body decimal) : ¬IsName body := by
  intro hname
  obtain ⟨c, rest, rfl, hc⟩ := head_of_numeral hnumeral
  obtain ⟨_, _, heq, hletter⟩ := head_of_isName hname
  cases heq
  rcases hc with hdigit | rfl
  · rw [toLower_of_isDigit hdigit] at hletter
    rcases hletter with rfl | rfl <;> simp at hdigit
  · simp at hletter

theorem head_ne_sign_of_numeral (hnumeral : Numeral body decimal) :
    ∀ c ∈ body.head?, c ≠ '+' ∧ c ≠ '-' := by
  obtain ⟨c, rest, rfl, hc⟩ := head_of_numeral hnumeral
  exact ne_sign_of_head (P := fun c => c.isDigit = true ∨ c = '.') (by decide) (by decide)
    (by simpa using hc)

theorem head_ne_sign_of_isName (hname : IsName body) :
    ∀ c ∈ body.head?, c ≠ '+' ∧ c ≠ '-' := by
  obtain ⟨c, rest, rfl, hc⟩ := head_of_isName hname
  exact ne_sign_of_head (P := fun c => c.toLower = 'i' ∨ c.toLower = 'n') (by decide) (by decide)
    (by simpa using hc)

theorem signedNumeral_iff :
    SignedNumeral text negative decimal ↔
      (splitSign text).1 = negative ∧ Numeral (splitSign text).2 decimal := by
  constructor
  · rintro ⟨sign, body, hsign, hnumeral, rfl⟩
    rw [hsign.splitSign_append (head_ne_sign_of_numeral hnumeral)]
    exact ⟨rfl, hnumeral⟩
  · rintro ⟨rfl, hnumeral⟩
    obtain ⟨sign, hsign, htext⟩ := exists_sign text
    exact ⟨sign, _, hsign, hnumeral, htext⟩

theorem signedName_iff : SignedName text ↔ IsName (splitSign text).2 := by
  constructor
  · rintro ⟨sign, body, negative, hsign, hname, rfl⟩
    rwa [hsign.splitSign_append (head_ne_sign_of_isName hname)]
  · intro hname
    obtain ⟨sign, hsign, htext⟩ := exists_sign text
    exact ⟨sign, _, _, hsign, hname, htext⟩

variable {written : String}

theorem ofText?_of_signedNumeral (hnumeral : SignedNumeral written.toList negative decimal) :
    ofText? written = some (decimal.nearest negative) := by
  obtain ⟨rfl, hbody⟩ := signedNumeral_iff.mp hnumeral
  simp only [ofText?, ofUnsignedText?, ofText?_eq_some_iff.mpr hbody]

theorem ofUnsignedText?_of_isName (hname : IsName body) (negative : Bool) :
    ∃ score, ofUnsignedText? negative body = some score ∧ score.isFinite = false := by
  have hnone : Decimal.ofText? body = none := by
    rw [Option.eq_none_iff_forall_ne_some]
    intro decimal hdecimal
    exact not_isName_of_numeral (ofText?_eq_some_iff.mp hdecimal) hname
  simp only [ofUnsignedText?, hnone]
  simp only [IsName, List.map_cons, List.map_nil, List.mem_cons, List.not_mem_nil, or_false,
    String.reduceToList] at hname
  rcases hname with hinf | hinfinity | hnan
  · exact ⟨infinity negative, by simp [hinf], by simp [isFinite, infinity]⟩
  · exact ⟨infinity negative, by simp [hinfinity], by simp [isFinite, infinity]⟩
  · exact ⟨{ notANumber with negative := negative }, by simp [hnan], rfl⟩

theorem ofUnsignedText?_eq_none (hnumeral : ¬∃ decimal, Numeral body decimal)
    (hname : ¬IsName body) (negative : Bool) : ofUnsignedText? negative body = none := by
  have hnone : Decimal.ofText? body = none := by
    rw [Option.eq_none_iff_forall_ne_some]
    intro decimal hdecimal
    exact hnumeral ⟨decimal, ofText?_eq_some_iff.mp hdecimal⟩
  simp only [IsName, List.map_cons, List.map_nil, List.mem_cons, List.not_mem_nil, or_false,
    String.reduceToList, not_or] at hname
  simp [ofUnsignedText?, hnone, hname]

theorem ofText?_of_signedName (hname : SignedName written.toList) :
    ∃ score, ofText? written = some score ∧ score.isFinite = false :=
  ofUnsignedText?_of_isName (signedName_iff.mp hname) _

theorem ofText?_eq_none
    (hnumeral : ¬∃ negative decimal, SignedNumeral written.toList negative decimal)
    (hname : ¬SignedName written.toList) : ofText? written = none := by
  rw [signedName_iff] at hname
  refine ofUnsignedText?_eq_none ?_ hname _
  rintro ⟨decimal, hbody⟩
  exact hnumeral ⟨_, decimal, signedNumeral_iff.mpr ⟨rfl, hbody⟩⟩

end SearchRanking.Score
