import SearchRanking.Pattern

namespace SearchRanking

namespace Text

variable {separator : Char}

theorem pieces_ne_nil (text : List Char) : pieces separator text ≠ [] := by
  cases text with
  | nil => simp [pieces]
  | cons c rest =>
      rw [pieces]
      split
      · simp
      · split <;> simp

theorem pieces_cons_of_ne {c : Char} (hne : c ≠ separator) {rest piece : List Char}
    {others : List (List Char)} (hrest : pieces separator rest = piece :: others) :
    pieces separator (c :: rest) = (c :: piece) :: others := by
  rw [pieces, if_neg hne, hrest]

/-- The separator behind a text divides its pieces from the pieces that follow. -/
@[simp]
theorem pieces_append_separator (front back : List Char) :
    pieces separator (front ++ separator :: back) =
      pieces separator front ++ pieces separator back := by
  induction front with
  | nil => simp [pieces]
  | cons c front ih =>
      by_cases hc : c = separator
      · simp [pieces, hc, ih]
      · obtain ⟨piece, others, hpieces⟩ := List.exists_cons_of_ne_nil (pieces_ne_nil front)
        rw [hpieces] at ih
        rw [List.cons_append, pieces_cons_of_ne hc ih, pieces_cons_of_ne hc hpieces]
        rfl

theorem pieces_of_not_mem {text : List Char} (hmem : separator ∉ text) :
    pieces separator text = [text] := by
  induction text with
  | nil => rfl
  | cons c rest ih =>
      rw [List.mem_cons, not_or] at hmem
      exact pieces_cons_of_ne (Ne.symm hmem.1) (ih hmem.2)

theorem not_mem_of_mem_pieces {text piece : List Char} (hpiece : piece ∈ pieces separator text) :
    separator ∉ piece := by
  induction text generalizing piece with
  | nil =>
      rw [pieces, List.mem_singleton] at hpiece
      simp [hpiece]
  | cons c rest ih =>
      by_cases hc : c = separator
      · rw [pieces, if_pos hc, List.mem_cons] at hpiece
        rcases hpiece with rfl | hpiece
        · simp
        · exact ih hpiece
      · obtain ⟨first, others, hpieces⟩ := List.exists_cons_of_ne_nil (pieces_ne_nil rest)
        rw [pieces_cons_of_ne hc hpieces, List.mem_cons] at hpiece
        rcases hpiece with rfl | hpiece
        · have hfirst := ih (hpieces ▸ List.mem_cons_self)
          simp [Ne.symm hc, hfirst]
        · exact ih (hpieces ▸ List.mem_cons_of_mem first hpiece)

@[simp]
theorem intercalate_pieces (text : List Char) :
    [separator].intercalate (pieces separator text) = text := by
  induction text with
  | nil => simp [pieces]
  | cons c rest ih =>
      obtain ⟨piece, others, hpieces⟩ := List.exists_cons_of_ne_nil (pieces_ne_nil rest)
      rw [hpieces] at ih
      by_cases hc : c = separator
      · rw [pieces, if_pos hc, hpieces, List.intercalate_cons_cons, ih, hc]
        simp
      · rw [pieces_cons_of_ne hc hpieces]
        cases others with
        | nil =>
            rw [List.intercalate_singleton] at ih ⊢
            rw [ih]
        | cons other others =>
            rw [List.intercalate_cons_cons] at ih ⊢
            rw [← ih]
            simp

end Text

namespace Path

/-- A text without a slash in it. -/
def SlashFree (text : String) : Prop := '/' ∉ text.toList

instance (text : String) : Decidable (SlashFree text) :=
  inferInstanceAs (Decidable ('/' ∉ text.toList))

/-- Segments with a slash behind each of them. -/
def directory (segments : List String) : String :=
  if segments = [] then "" else join segments ++ "/"

/-- What may stand before a segment: nothing, or a text that ends in a slash. -/
def IsDirectory (text : String) : Prop := text = "" ∨ ∃ front, text = front ++ "/"

@[simp]
theorem segments_append_slash (front back : String) :
    segments (front ++ "/" ++ back) = segments front ++ segments back := by
  have hchars : (front ++ "/" ++ back).toList = front.toList ++ '/' :: back.toList := by
    simp
  rw [segments, hchars, Text.pieces_append_separator, List.map_append]
  rfl

theorem segments_of_slashFree {text : String} (hfree : SlashFree text) :
    segments text = [text] := by
  rw [segments, Text.pieces_of_not_mem hfree]
  simp

theorem exists_segments_eq_cons {text : String} (hne : text ≠ "")
    (hslash : text.toList.head? ≠ some '/') :
    ∃ first rest, first ≠ "" ∧ segments text = first :: rest := by
  rw [segments]
  cases hchars : text.toList with
  | nil => exact absurd (String.toList_inj.mp hchars) hne
  | cons c chars =>
      rw [hchars, List.head?_cons] at hslash
      have hc : c ≠ '/' := fun heq => hslash (congrArg some heq)
      obtain ⟨piece, others, hpieces⟩ := List.exists_cons_of_ne_nil (Text.pieces_ne_nil chars)
      refine ⟨String.ofList (c :: piece), others.map String.ofList, ?_, ?_⟩
      · intro hempty
        have hnil := congrArg String.toList hempty
        rw [String.toList_ofList] at hnil
        exact List.cons_ne_nil c piece hnil
      · rw [Text.pieces_cons_of_ne hc hpieces, List.map_cons]

theorem slashFree_of_mem_segments {path segment : String} (hsegment : segment ∈ segments path) :
    SlashFree segment := by
  rw [segments, List.mem_map] at hsegment
  obtain ⟨piece, hpiece, rfl⟩ := hsegment
  rw [SlashFree, String.toList_ofList]
  exact Text.not_mem_of_mem_pieces hpiece

theorem segments_ne_nil (path : String) : segments path ≠ [] := by
  rw [segments, ne_eq, List.map_eq_nil_iff]
  exact Text.pieces_ne_nil path.toList

@[simp]
theorem join_segments (path : String) : join (segments path) = path := by
  apply String.toList_inj.mp
  rw [join, String.toList_intercalate, segments, List.map_map]
  have hround : String.toList ∘ String.ofList = id := by
    funext chars
    exact String.toList_ofList
  rw [hround, List.map_id]
  exact Text.intercalate_pieces path.toList

theorem segments_injective {left right : String} (heq : segments left = segments right) :
    left = right := by
  rw [← join_segments left, heq, join_segments]

theorem segments_join_eq_flatMap {parts : List String} (hne : parts ≠ []) :
    segments (join parts) = parts.flatMap segments := by
  induction parts with
  | nil => exact absurd rfl hne
  | cons part parts ih =>
      by_cases hparts : parts = []
      · rw [hparts, join, String.intercalate_singleton, List.flatMap_singleton]
      · have htail := ih hparts
        rw [join] at htail
        rw [join, String.intercalate_cons_of_ne_nil hparts, segments_append_slash, htail,
          List.flatMap_cons]

theorem flatMap_segments_of_slashFree {parts : List String}
    (hfree : ∀ part ∈ parts, SlashFree part) : parts.flatMap segments = parts := by
  induction parts with
  | nil => rfl
  | cons part parts ih =>
      rw [List.forall_mem_cons] at hfree
      rw [List.flatMap_cons, segments_of_slashFree hfree.1, ih hfree.2, List.singleton_append]

theorem segments_join {parts : List String} (hne : parts ≠ [])
    (hfree : ∀ part ∈ parts, SlashFree part) : segments (join parts) = parts := by
  rw [segments_join_eq_flatMap hne, flatMap_segments_of_slashFree hfree]

theorem segments_directory_append {parts : List String}
    (hfree : ∀ part ∈ parts, SlashFree part) (rest : String) :
    segments (directory parts ++ rest) = parts ++ segments rest := by
  rw [directory]
  split
  · next hnil => rw [hnil, String.empty_append, List.nil_append]
  · next hne => rw [segments_append_slash, segments_join hne hfree]

theorem isDirectory_directory (parts : List String) : IsDirectory (directory parts) := by
  rw [directory]
  split
  · exact Or.inl rfl
  · exact Or.inr ⟨join parts, rfl⟩

/-- Every directory is made of the segments before its last slash. -/
theorem IsDirectory.exists_eq_directory {text : String} (hdirectory : IsDirectory text) :
    ∃ parts, (∀ part ∈ parts, SlashFree part) ∧ text = directory parts := by
  rcases hdirectory with rfl | ⟨front, rfl⟩
  · exact ⟨[], by simp, rfl⟩
  · refine ⟨segments front, fun part hpart => slashFree_of_mem_segments hpart, ?_⟩
    rw [directory, if_neg (segments_ne_nil front), join_segments]

end Path

end SearchRanking
