import SearchRanking.Display.Palette
import SearchRanking.Display.Width

/-!
# What a terminal shows

Escape sequences are followed by an automaton with two states, so what is shown of a text depends on
what stands before it only through an escape sequence that was left open. `Renders` relates a text
that leaves none open to what is shown of it. It is kept by everything that lines are put together
with: joining, colours and padding.
-/

namespace SearchRanking.Display

/-- Whether the end of a text lies inside an escape sequence, from inside or outside of one on. -/
def endsInEscape : Bool → List Char → Bool
  | inEscape, [] => inEscape
  | inEscape, c :: rest =>
      if c = escapeChar then endsInEscape true rest
      else endsInEscape (inEscape && c ≠ 'm') rest

@[simp]
theorem endsInEscape_append (inEscape : Bool) (left right : List Char) :
    endsInEscape inEscape (left ++ right) =
      endsInEscape (endsInEscape inEscape left) right := by
  induction left generalizing inEscape with
  | nil => rfl
  | cons c left ih =>
      rw [List.cons_append, endsInEscape, endsInEscape]
      split
      · exact ih true
      · exact ih _

@[simp]
theorem shownFrom_append (inEscape : Bool) (left right : List Char) :
    shownFrom inEscape (left ++ right) =
      shownFrom inEscape left ++ shownFrom (endsInEscape inEscape left) right := by
  induction left generalizing inEscape with
  | nil => rfl
  | cons c left ih =>
      rw [List.cons_append, shownFrom, shownFrom, endsInEscape]
      by_cases hescape : c = escapeChar
      · rw [if_pos hescape, if_pos hescape, if_pos hescape, ih]
      · rw [if_neg hescape, if_neg hescape, if_neg hescape]
        cases inEscape with
        | true =>
            rw [if_pos rfl, if_pos rfl, ih, Bool.true_and]
        | false =>
            rw [if_neg Bool.false_ne_true, if_neg Bool.false_ne_true, ih, List.cons_append,
              Bool.false_and]

theorem length_shownFrom_le (inEscape : Bool) (chars : List Char) :
    (shownFrom inEscape chars).length ≤ chars.length := by
  fun_induction shownFrom inEscape chars with
  | case1 => exact Nat.le_refl _
  | case2 inEscape rest ih => exact Nat.le_succ_of_le ih
  | case3 c rest hescape ih => exact Nat.le_succ_of_le ih
  | case4 inEscape c rest hescape hinside ih => exact Nat.succ_le_succ ih

theorem escapeChar_not_mem_shownFrom (inEscape : Bool) (chars : List Char) :
    escapeChar ∉ shownFrom inEscape chars := by
  fun_induction shownFrom inEscape chars with
  | case1 => exact List.not_mem_nil
  | case2 inEscape rest ih => exact ih
  | case3 c rest hescape ih => exact ih
  | case4 inEscape c rest hescape hinside ih =>
      rw [List.mem_cons, not_or]
      exact ⟨Ne.symm hescape, ih⟩

/-- No escape sequence is open at the end of the text. -/
def Closed (text : String) : Prop := endsInEscape false text.toList = false

instance (text : String) : Decidable (Closed text) :=
  inferInstanceAs (Decidable (endsInEscape false text.toList = false))

/-- The text has no escape character at all. -/
def EscapeFree (text : String) : Prop := escapeChar ∉ text.toList

instance (text : String) : Decidable (EscapeFree text) :=
  inferInstanceAs (Decidable (escapeChar ∉ text.toList))

/-- The text leaves no escape sequence open and is shown as a plain text. -/
structure Renders (styled plain : String) : Prop where
  closed : Closed styled
  stripped_eq : stripped styled = plain

section Texts

variable {text styled plain : String}

theorem Closed.renders (hclosed : Closed text) : Renders text (stripped text) := ⟨hclosed, rfl⟩

theorem escapeFree_append {left right : String} (hleft : EscapeFree left)
    (hright : EscapeFree right) : EscapeFree (left ++ right) := by
  rw [EscapeFree, String.toList_append, List.mem_append, not_or]
  exact ⟨hleft, hright⟩

theorem escapeFree_repeated {c : Char} (hc : c ≠ escapeChar) (count : Nat) :
    EscapeFree (repeated count c) := by
  rw [EscapeFree, repeated, String.toList_ofList]
  exact fun hmem => hc (List.eq_of_mem_replicate hmem).symm

theorem endsInEscape_of_not_mem {chars : List Char} (hfree : escapeChar ∉ chars) :
    endsInEscape false chars = false := by
  induction chars with
  | nil => rfl
  | cons c rest ih =>
      rw [List.mem_cons, not_or] at hfree
      rw [endsInEscape, if_neg (Ne.symm hfree.1), Bool.false_and]
      exact ih hfree.2

theorem shownFrom_of_not_mem {chars : List Char} (hfree : escapeChar ∉ chars) :
    shownFrom false chars = chars := by
  induction chars with
  | nil => rfl
  | cons c rest ih =>
      rw [List.mem_cons, not_or] at hfree
      rw [shownFrom, if_neg (Ne.symm hfree.1), if_neg Bool.false_ne_true, ih hfree.2]

theorem EscapeFree.visibleLength_eq (hfree : EscapeFree text) :
    visibleLength text = text.toList.length := by
  rw [visibleLength, shownFrom_of_not_mem hfree]

theorem EscapeFree.renders (hfree : EscapeFree text) : Renders text text where
  closed := endsInEscape_of_not_mem hfree
  stripped_eq := by rw [stripped, shownFrom_of_not_mem hfree, String.ofList_toList]

theorem visibleLength_eq_length_stripped (text : String) :
    visibleLength text = (stripped text).toList.length := by
  rw [visibleLength, stripped, String.toList_ofList]

theorem visibleLength_le_length (text : String) : visibleLength text ≤ text.toList.length :=
  length_shownFrom_le false text.toList

theorem Renders.escapeFree (hrenders : Renders styled plain) : EscapeFree plain := by
  rw [← hrenders.stripped_eq, EscapeFree, stripped, String.toList_ofList]
  exact escapeChar_not_mem_shownFrom false styled.toList

theorem Renders.visibleLength_eq (hrenders : Renders styled plain) :
    visibleLength styled = plain.toList.length := by
  rw [visibleLength_eq_length_stripped, hrenders.stripped_eq]

theorem Renders.append {styledRight plainRight : String} (hleft : Renders styled plain)
    (hright : Renders styledRight plainRight) :
    Renders (styled ++ styledRight) (plain ++ plainRight) where
  closed := by
    rw [Closed, String.toList_append, endsInEscape_append, hleft.closed]
    exact hright.closed
  stripped_eq := by
    rw [stripped, String.toList_append, shownFrom_append, hleft.closed, String.ofList_append,
      ← stripped, ← stripped, hleft.stripped_eq, hright.stripped_eq]

end Texts

/-- An escape sequence that is open hides everything up to the next `m`. -/
theorem shownFrom_true_of_not_mem {chars : List Char} (hmark : 'm' ∉ chars) :
    shownFrom true chars = [] := by
  induction chars with
  | nil => rfl
  | cons c rest ih =>
      rw [List.mem_cons, not_or] at hmark
      rw [shownFrom]
      split
      · exact ih hmark.2
      · rw [if_pos rfl, decide_eq_true (Ne.symm hmark.1)]
        exact ih hmark.2

/-! ### Padding and cutting -/

section Fitting

variable {text styled plain : String}

theorem Renders.padRight (hrenders : Renders styled plain) (width : Nat) :
    Renders (padRight styled width) (padRight plain width) := by
  rw [Display.padRight, Display.padRight, hrenders.visibleLength_eq,
    hrenders.escapeFree.visibleLength_eq]
  exact hrenders.append (escapeFree_repeated (by decide) _).renders

@[simp]
theorem length_repeated (count : Nat) (c : Char) : (repeated count c).toList.length = count := by
  rw [repeated, String.toList_ofList, List.length_replicate]

theorem length_padRight (hfree : EscapeFree text) (width : Nat) :
    (padRight text width).toList.length = max width text.toList.length := by
  rw [padRight, String.toList_append, List.length_append, length_repeated, hfree.visibleLength_eq]
  omega

@[simp]
theorem length_padLeft (text : String) (width : Nat) :
    (padLeft text width).toList.length = max width text.toList.length := by
  rw [padLeft, String.toList_append, List.length_append, length_repeated]
  omega

theorem escapeFree_padLeft (hfree : EscapeFree text) (width : Nat) :
    EscapeFree (padLeft text width) :=
  escapeFree_append (escapeFree_repeated (by decide) _) hfree

theorem escapeFree_truncateText (hfree : EscapeFree text) (width : Nat) :
    EscapeFree (truncateText text width) := by
  rw [truncateText]
  split
  · exact hfree
  · refine escapeFree_append ?_ (by decide)
    rw [EscapeFree, String.toList_ofList]
    exact fun hmem => hfree (List.mem_of_mem_take hmem)

theorem escapeFree_truncatePath (hfree : EscapeFree text) (width : Nat) :
    EscapeFree (truncatePath text width) := by
  rw [truncatePath]
  split
  · exact hfree
  · refine escapeFree_append (by decide) ?_
    rw [EscapeFree, String.toList_ofList]
    exact fun hmem => hfree (List.mem_of_mem_drop hmem)

/-- What both ways to cut a text have in common: a text that fits is left alone, and of any other as
much is kept as an ellipsis on one side of it leaves room for. -/
structure Truncates (cut : String → Nat → String) : Prop where
  of_fits {text : String} {width : Nat} (hfits : text.toList.length ≤ width) :
    cut text width = text
  of_long {text : String} {width : Nat} (hlong : width < text.toList.length) :
    ∃ kept, kept.toList.length = width - 3 ∧
      (cut text width = kept ++ "..." ∨ cut text width = "..." ++ kept)

theorem exists_truncateText_eq {width : Nat} (hlong : width < text.toList.length) :
    ∃ kept rest, text = kept ++ rest ∧ kept.toList.length = width - 3 ∧
      truncateText text width = kept ++ "..." := by
  refine ⟨String.ofList (text.toList.take (width - 3)),
    String.ofList (text.toList.drop (width - 3)), ?_, ?_, ?_⟩
  · rw [← String.ofList_append, List.take_append_drop, String.ofList_toList]
  · rw [String.toList_ofList, List.length_take]
    omega
  · rw [truncateText, if_neg (Nat.not_le.mpr hlong)]

theorem exists_truncatePath_eq {width : Nat} (hlong : width < text.toList.length) :
    ∃ rest kept, text = rest ++ kept ∧ kept.toList.length = width - 3 ∧
      truncatePath text width = "..." ++ kept := by
  refine ⟨String.ofList (text.toList.take (text.toList.length + 3 - width)),
    String.ofList (text.toList.drop (text.toList.length + 3 - width)), ?_, ?_, ?_⟩
  · rw [← String.ofList_append, List.take_append_drop, String.ofList_toList]
  · rw [String.toList_ofList, List.length_drop]
    omega
  · rw [truncatePath, if_neg (Nat.not_le.mpr hlong)]

theorem truncates_truncateText : Truncates truncateText where
  of_fits hfits := if_pos hfits
  of_long hlong := by
    obtain ⟨kept, -, -, hlength, hcut⟩ := exists_truncateText_eq hlong
    exact ⟨kept, hlength, Or.inl hcut⟩

theorem truncates_truncatePath : Truncates truncatePath where
  of_fits hfits := if_pos hfits
  of_long hlong := by
    obtain ⟨-, kept, -, hlength, hcut⟩ := exists_truncatePath_eq hlong
    exact ⟨kept, hlength, Or.inr hcut⟩

namespace Truncates

variable {cut : String → Nat → String} {width : Nat}

theorem length_of_long (htruncates : Truncates cut) (hlong : width < text.toList.length) :
    (cut text width).toList.length = max 3 width := by
  obtain ⟨kept, hlength, hcut | hcut⟩ := htruncates.of_long hlong
  · rw [hcut, String.toList_append, List.length_append, hlength]
    change width - 3 + 3 = max 3 width
    omega
  · rw [hcut, String.toList_append, List.length_append, hlength]
    change 3 + (width - 3) = max 3 width
    omega

theorem length_eq (htruncates : Truncates cut) (hroom : 3 ≤ width) (text : String) :
    (cut text width).toList.length = min text.toList.length width := by
  by_cases hfits : text.toList.length ≤ width
  · rw [htruncates.of_fits hfits, Nat.min_eq_left hfits]
  · rw [htruncates.length_of_long (by omega), Nat.max_eq_right hroom,
      Nat.min_eq_right (by omega)]

theorem eq_ellipsis (htruncates : Truncates cut) (hnarrow : width < 3)
    (hlong : width < text.toList.length) : cut text width = "..." := by
  obtain ⟨kept, hlength, hcut⟩ := htruncates.of_long hlong
  have hnil : kept.toList.length = 0 := by omega
  have hempty : kept = "" := String.toList_inj.mp (List.length_eq_zero_iff.mp hnil)
  rcases hcut with hcut | hcut
  · rw [hcut, hempty, String.empty_append]
  · rw [hcut, hempty, String.append_empty]

theorem idempotent (htruncates : Truncates cut) (text : String) (width : Nat) :
    cut (cut text width) width = cut text width := by
  by_cases hfits : text.toList.length ≤ width
  · rw [htruncates.of_fits hfits, htruncates.of_fits hfits]
  · have hlength := htruncates.length_of_long (Nat.lt_of_not_ge hfits)
    by_cases hroom : 3 ≤ width
    · exact htruncates.of_fits (by omega)
    · -- the ellipsis is too long as well, and is cut to itself
      rw [htruncates.eq_ellipsis (by omega) (by omega),
        htruncates.eq_ellipsis (by omega) (Nat.lt_of_not_ge hfits)]

end Truncates

theorem length_truncateText_le {width : Nat} (hroom : 3 ≤ width) (text : String) :
    (truncateText text width).toList.length ≤ width := by
  rw [truncates_truncateText.length_eq hroom]
  exact Nat.min_le_right _ _

theorem length_truncatePath_le {width : Nat} (hroom : 3 ≤ width) (text : String) :
    (truncatePath text width).toList.length ≤ width := by
  rw [truncates_truncatePath.length_eq hroom]
  exact Nat.min_le_right _ _

end Fitting

/-- The text shows nothing and ends every escape sequence, one that was open before it included. -/
def Hidden (text : String) : Prop :=
  ∀ inEscape, shownFrom inEscape text.toList = [] ∧ endsInEscape inEscape text.toList = false

instance (text : String) : Decidable (Hidden text) :=
  inferInstanceAs (Decidable (∀ inEscape, shownFrom inEscape text.toList = [] ∧
    endsInEscape inEscape text.toList = false))

theorem hidden_resetCode : Hidden resetCode := by decide

theorem hidden_boldCode : Hidden boldCode := by decide

theorem hidden_code (theme : Theme) (hue : Hue) : Hidden (theme.code hue) := by
  cases theme <;> cases hue <;> decide +kernel

theorem Hidden.renders {text : String} (hhidden : Hidden text) : Renders text "" where
  closed := (hhidden false).2
  stripped_eq := by rw [stripped, (hhidden false).1, String.ofList_nil]

/-- A colour shows what the text shows, even where the text leaves an escape sequence open. -/
@[simp]
theorem stripped_painted (paint : Paint) (hue : Hue) (bold : Bool) (text : String) :
    stripped (painted paint hue bold text) = stripped text := by
  cases paint with
  | none => rfl
  | some theme =>
      have hfront : Renders ((if bold then boldCode else "") ++ theme.code hue) "" := by
        cases bold with
        | true => exact hidden_boldCode.renders.append (hidden_code theme hue).renders
        | false => exact (hidden_code theme hue).renders
      obtain ⟨hshown, -⟩ := hidden_resetCode (endsInEscape false text.toList)
      rw [painted, stripped, String.toList_append, String.toList_append, List.append_assoc,
        shownFrom_append, hfront.closed, shownFrom_append, hshown, List.append_nil,
        String.ofList_append, ← stripped, ← stripped, hfront.stripped_eq, String.empty_append]

@[simp]
theorem visibleLength_painted (paint : Paint) (hue : Hue) (bold : Bool) (text : String) :
    visibleLength (painted paint hue bold text) = visibleLength text := by
  rw [visibleLength_eq_length_stripped, stripped_painted, ← visibleLength_eq_length_stripped]

theorem closed_painted {paint : Paint} {text : String} (hclosed : Closed text) (hue : Hue)
    (bold : Bool) : Closed (painted paint hue bold text) := by
  cases paint with
  | none => exact hclosed
  | some theme =>
      rw [painted, Closed, String.toList_append, endsInEscape_append]
      exact (hidden_resetCode _).2

theorem Renders.painted {styled plain : String} (hrenders : Renders styled plain) (paint : Paint)
    (hue : Hue) (bold : Bool) : Renders (painted paint hue bold styled) plain where
  closed := closed_painted hrenders.closed hue bold
  stripped_eq := (stripped_painted paint hue bold styled).trans hrenders.stripped_eq

theorem renders_borderCode (paint : Paint) : Renders (borderCode paint) (borderCode none) := by
  cases paint with
  | none => exact ⟨rfl, rfl⟩
  | some theme => exact (hidden_code theme .gray).renders

theorem renders_borderReset (paint : Paint) : Renders (borderReset paint) (borderReset none) := by
  cases paint with
  | none => exact ⟨rfl, rfl⟩
  | some theme => exact hidden_resetCode.renders

end SearchRanking.Display
