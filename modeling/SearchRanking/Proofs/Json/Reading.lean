import SearchRanking.Json.Document
import SearchRanking.Json.Writer
import SearchRanking.Proofs.Json.Number

/-!
# Reading what is written

`Reads reader text value` says that a text stands for a value: wherever the text stands, the reader
takes exactly this text off and hands on the rest. The relation is built up like the texts. Strings
have it because every escape is read as the character it was written for, numbers where the number
reader takes their whole text, and a list has it as soon as its items do, whatever spaces stand
around them. So the compact and the pretty form of a list are two cases of one statement.
-/

namespace SearchRanking.Json

variable {ε α β σ : Type}

/-- The reader takes the text off the front of any text that does not continue a number. -/
def Reads (reader : Reader ε α) (text : List Char) (value : α) : Prop :=
  ∀ rest, endsNumber rest = true → reader (text ++ rest) = .ok (value, rest)

theorem Extends.reads {reader : Reader ε α} (hextends : Extends reader) {text : List Char}
    {value : α} (hread : reader text = .ok (value, [])) : Reads reader text value := by
  intro rest hrest
  exact hextends rest hread fun _ => hrest

theorem hexUnit?_control :
    ∀ code < 0x20,
      hexUnit? '0' '0' (Nat.digitChar (code / 16)) (Nat.digitChar (code % 16)) = some code := by
  decide

@[simp]
theorem readChars_escapedChar (c : Char) (rest : List Char) :
    (readChars (escapedChar c ++ rest) : Except (Fault ε) _) = consText c (readChars rest) := by
  unfold escapedChar
  split
  case h_8 hquote hbackslash _ _ _ _ _ =>
    split
    · next hcontrol =>
      have hleading : isLeadingSurrogate c.toNat = false := by
        simp only [isLeadingSurrogate, Bool.and_eq_false_iff, decide_eq_false_iff_not]
        omega
      have htrailing : isTrailingSurrogate c.toNat = false := by
        simp only [isTrailingSurrogate, Bool.and_eq_false_iff, decide_eq_false_iff_not]
        omega
      simp [readChars, hexUnit?_control c.toNat hcontrol, hleading, htrailing]
    · next hplain =>
      rw [List.singleton_append, readChars.eq_def]
      simp only [if_neg hquote, if_neg hbackslash, if_neg hplain]
  all_goals simp [readChars, shortEscape?]

@[simp]
theorem readChars_escaped (text rest : List Char) :
    (readChars (text.flatMap escapedChar ++ '"' :: rest) : Except (Fault ε) _) =
      .ok (text, rest) := by
  induction text with
  | nil =>
      rw [List.flatMap_nil, List.nil_append, readChars.eq_def]
      rfl
  | cons c text ih =>
      rw [List.flatMap_cons, List.append_assoc, readChars_escapedChar, ih]
      rfl

section Nodes

variable {items : Reader ε (List Value)} {members : Reader ε (List (String × Value))}

theorem reads_string (text : String) :
    Reads (readNode items members) (writtenText text) (.string text) := by
  intro rest _
  have hchars := readChars_escaped (ε := ε) text.toList rest
  simp only [writtenText, List.cons_append, List.append_assoc, List.nil_append, readNode, readText,
    hchars]
  simp [Except.map]

theorem reads_null : Reads (readNode items members) ['n', 'u', 'l', 'l'] .null := by
  intro rest _
  simp [readNode, readLiteral, Except.map]

theorem exists_numeric_of_readNumber {text left : List Char} {number : Number}
    (hread : (readNumber text : Except (Fault ε) _) = .ok (number, left)) :
    ∃ c rest, text = c :: rest ∧ (c == '-' || c.isDigit) = true := by
  cases text with
  | nil => cases hread
  | cons c rest =>
      refine ⟨c, rest, rfl, ?_⟩
      by_cases hminus : c = '-'
      · simp [hminus]
      cases hdigit : c.isDigit with
      | true => simp
      | false =>
          have hspan := spanDigits_cons_of_not_isDigit hdigit rest
          simp [readNumber, hminus, readUnsigned, hspan] at hread

theorem readNode_of_numeric {c : Char} (hnumeric : (c == '-' || c.isDigit) = true)
    (rest : List Char) :
    readNode items members (c :: rest) =
      (readNumber (c :: rest)).map fun (number, rest) => (.number number, rest) := by
  unfold readNode
  split
  case h_8 heq =>
    cases heq
    rw [if_pos hnumeric]
  all_goals simp_all

theorem reads_number {text : List Char} {number : Number}
    (hread : (readNumber text : Except (Fault ε) _) = .ok (number, [])) :
    Reads (readNode items members) text (.number number) := by
  obtain ⟨c, tail, rfl, hnumeric⟩ := exists_numeric_of_readNumber hread
  intro rest hrest
  rw [List.cons_append, readNode_of_numeric hnumeric, ← List.cons_append,
    extends_readNumber.reads hread rest hrest]
  rfl

theorem Reads.exists_cons {text : List Char} {value : Value}
    (hreads : Reads (readNode items members) text value) :
    ∃ c rest, text = c :: rest ∧ isSpace c = false ∧ c ≠ ']' := by
  have hread := hreads [] rfl
  rw [List.append_nil] at hread
  cases text with
  | nil => cases hread
  | cons c rest =>
      refine ⟨c, rest, rfl, ?_, ?_⟩
      · rw [Bool.eq_false_iff]
        intro hspace
        simp only [isSpace, Bool.or_eq_true, beq_iff_eq] at hspace
        rcases hspace with ((rfl | rfl) | rfl) | rfl <;> cases hread
      · rintro rfl
        cases hread

end Nodes

/-! ### What stands between brackets -/

/-- What follows a piece of a container: the texts of the other pieces, each behind a comma and a
gap, then a last gap and the closing bracket. -/
def followed (gap last : List Char) (close : Char) (texts : List (List Char)) : List Char :=
  texts.flatMap (fun text => ',' :: (gap ++ text)) ++ (last ++ [close])

/-- The inside of a container and its closing bracket. An empty one has no gaps. -/
def enclosed (gap last : List Char) (close : Char) : List (List Char) → List Char
  | [] => [close]
  | text :: texts => gap ++ (text ++ followed gap last close texts)

@[simp]
theorem followed_nil (gap last : List Char) (close : Char) (rest : List Char) :
    followed gap last close [] ++ rest = last ++ close :: rest := by
  simp [followed]

theorem followed_cons (gap last : List Char) (close : Char) (text : List Char)
    (texts : List (List Char)) (rest : List Char) :
    followed gap last close (text :: texts) ++ rest =
      ',' :: (gap ++ (text ++ (followed gap last close texts ++ rest))) := by
  simp [followed]

theorem length_lt_length_followed (gap last : List Char) (close : Char)
    (texts : List (List Char)) (rest : List Char) :
    texts.length < (followed gap last close texts ++ rest).length := by
  induction texts with
  | nil =>
      rw [followed_nil, List.length_append, List.length_cons, List.length_nil]
      omega
  | cons text texts ih =>
      rw [followed_cons]
      simp only [List.length_cons, List.length_append] at ih ⊢
      omega

theorem skipSpaces_gap_append {gap text : List Char} (hgap : ∀ c ∈ gap, isSpace c = true)
    (hopens : ∃ c tail, text = c :: tail ∧ isSpace c = false) (rest : List Char) :
    skipSpaces (gap ++ (text ++ rest)) = text ++ rest := by
  obtain ⟨c, tail, rfl, hc⟩ := hopens
  rw [skipSpaces, List.dropWhile_append_of_pos hgap, List.cons_append,
    List.dropWhile_cons_of_neg (by simp [hc])]

section Containers

variable {close : Char} {gap last : List Char} {piece : σ → Reader ε σ} {spell : α → List Char}
  {step : α → σ → σ} {pieces : List α}

theorem skipSpaces_last_append (hclose : close = ']' ∨ close = '\x7d')
    (hlast : ∀ c ∈ last, isSpace c = true) (rest : List Char) :
    skipSpaces (last ++ close :: rest) = close :: rest := by
  have hspace : isSpace close = false := by rcases hclose with rfl | rfl <;> rfl
  exact skipSpaces_gap_append hlast ⟨close, [], rfl, hspace⟩ rest

theorem endsNumber_followed (hclose : close = ']' ∨ close = '\x7d') (gap : List Char)
    (hlast : ∀ c ∈ last, isSpace c = true) (texts : List (List Char)) (rest : List Char) :
    endsNumber (followed gap last close texts ++ rest) = true := by
  cases texts with
  | cons text texts =>
      rw [followed_cons]
      rfl
  | nil =>
      rw [followed_nil]
      cases last with
      | nil => rcases hclose with rfl | rfl <;> rfl
      | cons c last =>
          have hc := hlast c List.mem_cons_self
          simp only [isSpace, Bool.or_eq_true, beq_iff_eq] at hc
          rcases hc with ((rfl | rfl) | rfl) | rfl <;> rfl

theorem readRest_followed (hclose : close = ']' ∨ close = '\x7d')
    (hgap : ∀ c ∈ gap, isSpace c = true) (hlast : ∀ c ∈ last, isSpace c = true)
    (hreads : ∀ a ∈ pieces, ∀ state, Reads (piece state) (spell a) (step a state))
    (hopens : ∀ a ∈ pieces, ∃ c tail, spell a = c :: tail ∧ isSpace c = false)
    {fuel : Nat} (hfuel : pieces.length < fuel) (state : σ) (rest : List Char) :
    readRest close piece fuel state (followed gap last close (pieces.map spell) ++ rest) =
      .ok (pieces.foldl (fun state a => step a state) state, rest) := by
  induction pieces generalizing fuel state with
  | nil =>
      obtain ⟨fuel, rfl⟩ := Nat.exists_eq_add_one_of_ne_zero (Nat.ne_zero_of_lt hfuel)
      rw [List.map_nil, followed_nil, readRest, skipSpaces_last_append hclose hlast]
      simp only [if_true, List.foldl_nil]
  | cons a pieces ih =>
      obtain ⟨fuel, rfl⟩ := Nat.exists_eq_add_one_of_ne_zero (Nat.ne_zero_of_lt hfuel)
      have hcomma : ',' ≠ close := by rcases hclose with rfl | rfl <;> decide
      have hskip : ∀ text, skipSpaces (',' :: text) = ',' :: text := fun _ => rfl
      have hpiece := hreads a List.mem_cons_self state _
        (endsNumber_followed hclose gap hlast (pieces.map spell) rest)
      rw [List.map_cons, followed_cons, readRest, hskip]
      simp only [if_neg hcomma, if_true]
      rw [skipSpaces_gap_append hgap (hopens a List.mem_cons_self), hpiece]
      exact ih (fun b hb => hreads b (List.mem_cons_of_mem a hb))
        (fun b hb => hopens b (List.mem_cons_of_mem a hb)) (Nat.lt_of_succ_lt_succ hfuel)
        (step a state)

theorem reads_container (hclose : close = ']' ∨ close = '\x7d')
    (hgap : ∀ c ∈ gap, isSpace c = true) (hlast : ∀ c ∈ last, isSpace c = true)
    (hreads : ∀ a ∈ pieces, ∀ state, Reads (piece state) (spell a) (step a state))
    (hopens : ∀ a ∈ pieces, ∃ c tail, spell a = c :: tail ∧ isSpace c = false ∧ c ≠ close)
    (state : σ) :
    Reads (readContainer close piece state) (enclosed gap last close (pieces.map spell))
      (pieces.foldl (fun state a => step a state) state) := by
  have hstarts : ∀ a ∈ pieces, ∃ c tail, spell a = c :: tail ∧ isSpace c = false := by
    intro a ha
    obtain ⟨c, tail, hspell, hc, _⟩ := hopens a ha
    exact ⟨c, tail, hspell, hc⟩
  intro rest _
  cases pieces with
  | nil =>
      have hskip : skipSpaces (close :: rest) = close :: rest :=
        skipSpaces_last_append hclose (by simp : ∀ c ∈ [], isSpace c = true) rest
      simp only [List.map_nil, enclosed, List.cons_append, List.nil_append, readContainer, hskip,
        if_true, List.foldl_nil]
  | cons a pieces =>
      obtain ⟨c, tail, hspell, _, hne⟩ := hopens a List.mem_cons_self
      have hpiece := hreads a List.mem_cons_self state _
        (endsNumber_followed hclose gap hlast (pieces.map spell) rest)
      have hfuel := length_lt_length_followed gap last close (pieces.map spell) rest
      rw [List.length_map] at hfuel
      have hrest := readRest_followed hclose hgap hlast
        (fun b hb => hreads b (List.mem_cons_of_mem a hb))
        (fun b hb => hstarts b (List.mem_cons_of_mem a hb)) hfuel (step a state) rest
      simp only [List.map_cons, enclosed, List.append_assoc, readContainer,
        skipSpaces_gap_append hgap (hstarts a List.mem_cons_self)]
      rw [hspell, List.cons_append] at hpiece ⊢
      simp only [if_neg hne, hpiece]
      exact hrest

theorem reads_items {item : Reader ε β} {value : α → β}
    (hgap : ∀ c ∈ gap, isSpace c = true) (hlast : ∀ c ∈ last, isSpace c = true)
    (hreads : ∀ a ∈ pieces, Reads item (spell a) (value a))
    (hopens : ∀ a ∈ pieces, ∃ c tail, spell a = c :: tail ∧ isSpace c = false ∧ c ≠ ']') :
    Reads (readItems item) (enclosed gap last ']' (pieces.map spell)) (pieces.map value) := by
  have hitem : ∀ a ∈ pieces, ∀ items,
      Reads (readItem item items) (spell a) (value a :: items) := by
    intro a ha items rest hrest
    rw [readItem, hreads a ha rest hrest]
    rfl
  intro rest hrest
  have hread := reads_container (Or.inl rfl) hgap hlast hitem hopens [] rest hrest
  rw [List.foldl_flip_cons_eq_append, List.append_nil] at hread
  rw [readItems, hread]
  exact congrArg (fun items => Except.ok (items, rest)) (List.reverse_reverse _)

end Containers

theorem exists_readValue_eq_readNode (depth : Nat) :
    ∃ items members, (readValue depth : Reader ε Value) = readNode items members := by
  cases depth with
  | zero => exact ⟨_, _, rfl⟩
  | succ depth => exact ⟨_, _, rfl⟩

theorem reads_readValue {text : List Char} {value : Value}
    (hreads : ∀ items members, Reads (readNode items members : Reader ε Value) text value)
    (depth : Nat) : Reads (readValue depth : Reader ε Value) text value := by
  obtain ⟨items, members, hnode⟩ := exists_readValue_eq_readNode (ε := ε) depth
  rw [hnode]
  exact hreads items members

theorem Reads.exists_cons_of_readValue {depth : Nat} {text : List Char} {value : Value}
    (hreads : Reads (readValue depth : Reader ε Value) text value) :
    ∃ c rest, text = c :: rest ∧ isSpace c = false ∧ c ≠ ']' := by
  obtain ⟨items, members, hnode⟩ := exists_readValue_eq_readNode (ε := ε) depth
  rw [hnode] at hreads
  exact hreads.exists_cons

section Values

variable {depth : Nat} {gap last : List Char} {spell : α → List Char} {value : α → Value}
  {pieces : List α}

theorem reads_values (hgap : ∀ c ∈ gap, isSpace c = true) (hlast : ∀ c ∈ last, isSpace c = true)
    (hreads : ∀ a ∈ pieces, Reads (readValue depth : Reader ε Value) (spell a) (value a)) :
    Reads (readItems (readValue depth) : Reader ε (List Value))
      (enclosed gap last ']' (pieces.map spell)) (pieces.map value) := by
  refine reads_items hgap hlast hreads ?_
  intro a ha
  exact (hreads a ha).exists_cons_of_readValue

/-- A list of texts that stand for values stands for the list of the values, one level deeper. -/
theorem reads_array (hgap : ∀ c ∈ gap, isSpace c = true) (hlast : ∀ c ∈ last, isSpace c = true)
    (hreads : ∀ a ∈ pieces, Reads (readValue depth : Reader ε Value) (spell a) (value a)) :
    Reads (readValue (depth + 1) : Reader ε Value)
      ('[' :: enclosed gap last ']' (pieces.map spell)) (.array (pieces.map value)) := by
  intro rest hrest
  have hitems := reads_values hgap hlast hreads rest hrest
  simp only [List.cons_append, readValue, readNode, hitems]
  rfl

end Values

theorem compactItems_eq_flatMap (items : List Value) :
    compactItems items = (items.map compact).flatMap fun text => ',' :: ([] ++ text) := by
  induction items with
  | nil => rfl
  | cons item items ih => simp [compactItems, ih]

theorem compact_array (items : List Value) :
    compact (.array items) = '[' :: enclosed [] [] ']' (items.map compact) := by
  cases items with
  | nil => rfl
  | cons item items => simp [compact, enclosed, followed, compactItems_eq_flatMap]

theorem prettyItems_eq_flatMap (level : Nat) (items : List Value) :
    prettyItems level items =
      (items.map (pretty level)).flatMap fun text => ',' :: (newLine level ++ text) := by
  induction items with
  | nil => rfl
  | cons item items ih => simp [prettyItems, ih]

theorem pretty_array (level : Nat) (items : List Value) :
    pretty level (.array items) =
      '[' :: enclosed (newLine (level + 1)) (newLine level) ']'
        (items.map (pretty (level + 1))) := by
  cases items with
  | nil => rfl
  | cons item items => simp [pretty, enclosed, followed, prettyItems_eq_flatMap]

theorem isSpace_of_mem_newLine {level : Nat} : ∀ c ∈ newLine level, isSpace c = true := by
  intro c hc
  rw [newLine, List.mem_cons, List.mem_replicate] at hc
  rcases hc with rfl | ⟨_, rfl⟩ <;> rfl

end SearchRanking.Json
