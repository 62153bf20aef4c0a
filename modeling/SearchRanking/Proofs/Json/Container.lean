import SearchRanking.Json.Document
import SearchRanking.Proofs.Json.Number

/-!
# What stands between brackets

`Listing` is the grammar of the elements behind the first one: each follows a comma, and the closing
bracket ends them. `Bracketed` is the whole inside of a container. Both are stated for a reader of
one element and without any state, while the readers of containers carry a state from piece to piece
and count their fuel.

Two statements join them. Over a text with elements, every container reader whose pieces are these
elements runs like a fold over them (`readContainer_eq_foldlM`), and what it accepts has elements
(`exists_bracketed`). So two readers of one text are compared element by element, and no later proof
opens the loop again.
-/

namespace SearchRanking.Json

variable {ε δ α β σ : Type}

@[simp]
theorem bind_eq_ok_iff {result : Except ε α} {next : α → Except ε β} {value : β} :
    (result >>= next) = .ok value ↔ ∃ found, result = .ok found ∧ next found = .ok value := by
  cases result with
  | error fault => simp [bind, Except.bind]
  | ok found => simp [bind, Except.bind]

@[simp]
theorem map_eq_ok_iff {result : Except ε α} {f : α → β} {value : β} :
    result.map f = .ok value ↔ ∃ found, result = .ok found ∧ f found = value := by
  cases result with
  | error fault => simp [Except.map]
  | ok found => simp [Except.map]

@[simp]
theorem mapError_eq_ok_iff {f : ε → δ} {result : Except ε α} {value : α} :
    result.mapError f = .ok value ↔ result = .ok value := by
  cases result with
  | error fault => simp [Except.mapError]
  | ok found => simp [Except.mapError]

theorem bind_eq_error_iff {result : Except ε α} {next : α → Except ε β} {fault : ε} :
    (result >>= next) = .error fault ↔
      result = .error fault ∨ ∃ found, result = .ok found ∧ next found = .error fault := by
  cases result with
  | error cause => simp [bind, Except.bind]
  | ok found => simp [bind, Except.bind]

@[simp]
theorem mapError_eq_error_iff {f : ε → δ} {result : Except ε α} {fault : δ} :
    result.mapError f = .error fault ↔ ∃ cause, result = .error cause ∧ f cause = fault := by
  cases result with
  | error cause => simp [Except.mapError]
  | ok found => simp [Except.mapError]

/-- The elements behind the first one, up to the closing bracket. -/
inductive Listing (close : Char) (one : Reader ε α) : List Char → List α → List Char → Prop
  | done {text rest : List Char} (hclose : skipSpaces text = close :: rest) :
      Listing close one text [] rest
  | more {text tail after rest : List Char} {element : α} {elements : List α}
      (hcomma : skipSpaces text = ',' :: tail)
      (hone : one (skipSpaces tail) = .ok (element, after))
      (hrest : Listing close one after elements rest) :
      Listing close one text (element :: elements) rest

/-- The inside of a container with its closing bracket. There are fewer elements behind the first
one than characters. -/
inductive Bracketed (close : Char) (one : Reader ε α) : List Char → List α → List Char → Prop
  | empty {text rest : List Char} (hclose : skipSpaces text = close :: rest) :
      Bracketed close one text [] rest
  | filled {text tail after rest : List Char} {c : Char} {element : α} {elements : List α}
      (hopens : skipSpaces text = c :: tail) (hne : c ≠ close)
      (hone : one (c :: tail) = .ok (element, after)) (hcount : elements.length < after.length)
      (hrest : Listing close one after elements rest) :
      Bracketed close one text (element :: elements) rest

section Grammar

variable {close : Char} {one : Reader ε α} {text rest : List Char} {elements : List α}

theorem Listing.exists_read (hlisting : Listing close one text elements rest) :
    ∀ element ∈ elements, ∃ before after, one before = .ok (element, after) := by
  induction hlisting with
  | done => simp
  | more _ hone _ ih =>
      rw [List.forall_mem_cons]
      exact ⟨⟨_, _, hone⟩, ih⟩

theorem Bracketed.exists_read (hbracketed : Bracketed close one text elements rest) :
    ∀ element ∈ elements, ∃ before after, one before = .ok (element, after) := by
  cases hbracketed with
  | empty => simp
  | filled _ _ hone _ hrest =>
      rw [List.forall_mem_cons]
      exact ⟨⟨_, _, hone⟩, hrest.exists_read⟩

theorem Listing.imp {other : Reader δ α} (hlisting : Listing close one text elements rest)
    (hother : ∀ element ∈ elements, ∀ before after,
      one before = .ok (element, after) → other before = .ok (element, after)) :
    Listing close other text elements rest := by
  induction hlisting with
  | done hclose => exact .done hclose
  | more hcomma hone _ ih =>
      rw [List.forall_mem_cons] at hother
      exact .more hcomma (hother.1 _ _ hone) (ih hother.2)

theorem Bracketed.imp {other : Reader δ α} (hbracketed : Bracketed close one text elements rest)
    (hother : ∀ element ∈ elements, ∀ before after,
      one before = .ok (element, after) → other before = .ok (element, after)) :
    Bracketed close other text elements rest := by
  cases hbracketed with
  | empty hclose => exact .empty hclose
  | filled hopens hne hone hcount hrest =>
      rw [List.forall_mem_cons] at hother
      exact .filled hopens hne (hother.1 _ _ hone) hcount (hrest.imp hother.2)

end Grammar

theorem skipSpaces_append {text tail : List Char} {c : Char} (hskip : skipSpaces text = c :: tail)
    (more : List Char) : skipSpaces (text ++ more) = c :: (tail ++ more) := by
  rw [skipSpaces] at hskip ⊢
  rw [List.dropWhile_append, hskip]
  rfl

def NeedsText (reader : Reader ε α) : Prop := ∀ result, reader [] ≠ .ok result

section Longer

variable {close : Char} {one : Reader ε α} {text rest : List Char} {elements : List α}

theorem Listing.ne_nil (hlisting : Listing close one text elements rest) : text ≠ [] := by
  rintro rfl
  cases hlisting with
  | done hclose => cases hclose
  | more hcomma => cases hcomma

theorem Listing.append (hextends : Extends one) (hneeds : NeedsText one)
    (hlisting : Listing close one text elements rest) (more : List Char) :
    Listing close one (text ++ more) elements (rest ++ more) := by
  induction hlisting with
  | done hclose => exact .done (skipSpaces_append hclose more)
  | @more _ tail after _ element _ hcomma hone hrest ih =>
      refine .more (skipSpaces_append hcomma more) ?_ ih
      cases hskip : skipSpaces tail with
      | nil =>
          rw [hskip] at hone
          exact absurd hone (hneeds _)
      | cons c tail =>
          rw [skipSpaces_append hskip, ← List.cons_append, ← hskip]
          exact hextends more hone fun hnil => absurd hnil hrest.ne_nil

theorem Bracketed.append (hextends : Extends one) (hneeds : NeedsText one)
    (hbracketed : Bracketed close one text elements rest) (more : List Char) :
    Bracketed close one (text ++ more) elements (rest ++ more) := by
  cases hbracketed with
  | empty hclose => exact .empty (skipSpaces_append hclose more)
  | filled hopens hne hone hcount hrest =>
      refine .filled (skipSpaces_append hopens more) hne ?_ ?_ (hrest.append hextends hneeds more)
      · rw [← List.cons_append]
        exact hextends more hone fun hnil => absurd hnil hrest.ne_nil
      · rw [List.length_append]
        omega

end Longer

/-! ### The readers -/

section Readers

variable {close : Char} {piece : σ → Reader δ σ} {state : σ} {text tail rest : List Char}

theorem readRest_of_close (hclose : skipSpaces text = close :: rest) (fuel : Nat) :
    readRest close piece (fuel + 1) state text = .ok (state, rest) := by
  rw [readRest, hclose]
  exact if_pos rfl

theorem readRest_of_comma (hne : close ≠ ',') (hcomma : skipSpaces text = ',' :: tail)
    (fuel : Nat) :
    readRest close piece (fuel + 1) state text =
      piece state (skipSpaces tail) >>= fun read => readRest close piece fuel read.1 read.2 := by
  rw [readRest, hcomma]
  simp only [if_neg hne.symm, if_true]

theorem readContainer_of_close (hclose : skipSpaces text = close :: rest) :
    readContainer close piece state text = .ok (state, rest) := by
  rw [readContainer, hclose]
  exact if_pos rfl

theorem readContainer_of_ne {c : Char} (hopens : skipSpaces text = c :: tail) (hne : c ≠ close) :
    readContainer close piece state text =
      piece state (c :: tail) >>= fun read => readRest close piece read.2.length read.1 read.2 := by
  rw [readContainer, hopens]
  simp only [if_neg hne]

variable {one : Reader ε α} {judge : σ → α → Except (Fault δ) σ} {elements : List α}

theorem readRest_eq_foldlM (hne : close ≠ ',') (hlisting : Listing close one text elements rest)
    (hpiece : ∀ element ∈ elements, ∀ before after, one before = .ok (element, after) →
      ∀ state, piece state before = (judge state element).map fun next => (next, after))
    {fuel : Nat} (hfuel : elements.length < fuel) (state : σ) :
    readRest close piece fuel state text =
      (elements.foldlM judge state).map fun last => (last, rest) := by
  -- Every element takes one unit of fuel, and one is left for the closing bracket.
  induction hlisting generalizing fuel state with
  | done hclose =>
      obtain ⟨fuel, rfl⟩ := Nat.exists_eq_add_one_of_ne_zero (Nat.ne_zero_of_lt hfuel)
      exact readRest_of_close hclose fuel
  | @more _ tail after rest element elements hcomma hone _ ih =>
      obtain ⟨fuel, rfl⟩ := Nat.exists_eq_add_one_of_ne_zero (Nat.ne_zero_of_lt hfuel)
      rw [List.forall_mem_cons] at hpiece
      rw [readRest_of_comma hne hcomma, hpiece.1 _ _ hone state, List.foldlM_cons]
      cases judge state element with
      | error fault => rfl
      | ok next => exact ih hpiece.2 (Nat.lt_of_succ_lt_succ hfuel) next

theorem readContainer_eq_foldlM (hne : close ≠ ',')
    (hbracketed : Bracketed close one text elements rest)
    (hpiece : ∀ element ∈ elements, ∀ before after, one before = .ok (element, after) →
      ∀ state, piece state before = (judge state element).map fun next => (next, after))
    (state : σ) :
    readContainer close piece state text =
      (elements.foldlM judge state).map fun last => (last, rest) := by
  cases hbracketed with
  | empty hclose => exact readContainer_of_close hclose
  | @filled _ _ _ _ element _ hopens hfirst hone hcount hrest =>
      rw [List.forall_mem_cons] at hpiece
      rw [readContainer_of_ne hopens hfirst, hpiece.1 _ _ hone state, List.foldlM_cons]
      cases judge state element with
      | error fault => rfl
      | ok next => exact readRest_eq_foldlM hne hrest hpiece.2 hcount next

theorem exists_listing (hne : close ≠ ',') {P : α → Prop}
    (hone : ∀ state before next after, piece state before = .ok (next, after) →
      ∃ element, one before = .ok (element, after) ∧ P element)
    {fuel : Nat} {last : σ} (hread : readRest close piece fuel state text = .ok (last, rest)) :
    ∃ elements, elements.length < fuel ∧ Listing close one text elements rest ∧
      ∀ element ∈ elements, P element := by
  induction fuel generalizing state text with
  | zero => cases hread
  | succ fuel ih =>
      cases hskip : skipSpaces text with
      | nil =>
          rw [readRest, hskip] at hread
          cases hread
      | cons c tail =>
          by_cases hclose : c = close
          · subst hclose
            rw [readRest_of_close hskip] at hread
            cases hread
            exact ⟨[], Nat.succ_pos fuel, .done hskip, by simp⟩
          by_cases hcomma : c = ','
          · subst hcomma
            rw [readRest_of_comma hne hskip, bind_eq_ok_iff] at hread
            obtain ⟨⟨next, after⟩, hpiece, hrest⟩ := hread
            obtain ⟨element, helement, hholds⟩ := hone _ _ _ _ hpiece
            obtain ⟨elements, hcount, hlisting, hall⟩ := ih hrest
            exact ⟨element :: elements, Nat.succ_lt_succ hcount, .more hskip helement hlisting,
              List.forall_mem_cons.mpr ⟨hholds, hall⟩⟩
          · rw [readRest, hskip] at hread
            simp only [if_neg hclose, if_neg hcomma] at hread
            cases hread

theorem exists_bracketed (hne : close ≠ ',') {P : α → Prop}
    (hone : ∀ state before next after, piece state before = .ok (next, after) →
      ∃ element, one before = .ok (element, after) ∧ P element)
    {last : σ} (hread : readContainer close piece state text = .ok (last, rest)) :
    ∃ elements, Bracketed close one text elements rest ∧ ∀ element ∈ elements, P element := by
  cases hskip : skipSpaces text with
  | nil =>
      rw [readContainer, hskip] at hread
      cases hread
  | cons c tail =>
      by_cases hclose : c = close
      · subst hclose
        rw [readContainer_of_close hskip] at hread
        cases hread
        exact ⟨[], .empty hskip, by simp⟩
      · rw [readContainer_of_ne hskip hclose, bind_eq_ok_iff] at hread
        obtain ⟨⟨next, after⟩, hpiece, hrest⟩ := hread
        obtain ⟨element, helement, hholds⟩ := hone _ _ _ _ hpiece
        obtain ⟨elements, hcount, hlisting, hall⟩ := exists_listing hne hone hrest
        exact ⟨element :: elements, .filled hskip hclose helement hcount hlisting,
          List.forall_mem_cons.mpr ⟨hholds, hall⟩⟩

end Readers

theorem readItem_eq_map (one : Reader ε α) (elements : List α) (text : List Char) :
    readItem one elements text = (one text).map fun read => (read.1 :: elements, read.2) := by
  rw [readItem]
  cases one text <;> rfl

theorem foldlM_cons_eq_ok (elements front : List α) :
    elements.foldlM (fun state element => (.ok (element :: state) : Except (Fault ε) _)) front =
      .ok (elements.reverse ++ front) := by
  induction elements generalizing front with
  | nil => rfl
  | cons element elements ih =>
      rw [List.foldlM_cons, List.reverse_cons, List.append_assoc]
      exact ih (element :: front)

/-- A reader that gathers its elements last first and turns them round takes what is bracketed. -/
theorem readContainer_reverse_iff {close : Char} (hne : close ≠ ',') {one : Reader ε α}
    {text rest : List Char} {elements : List α} :
    (readContainer close (readItem one) [] text >>= fun read => .ok (read.1.reverse, read.2)) =
        .ok (elements, rest) ↔
      Bracketed close one text elements rest := by
  have hrun : ∀ {found after}, Bracketed close one text found after →
      readContainer close (readItem one) [] text = .ok (found.reverse, after) := by
    intro found after hbracketed
    have hfold : readContainer close (readItem one) [] text =
        (found.foldlM (fun state element => (.ok (element :: state) : Except (Fault ε) _)) []).map
          fun last => (last, after) := by
      refine readContainer_eq_foldlM hne hbracketed ?_ []
      intro element _ before after hone state
      rw [readItem_eq_map, hone]
      rfl
    rw [hfold, foldlM_cons_eq_ok, List.append_nil]
    rfl
  rw [bind_eq_ok_iff]
  constructor
  · rintro ⟨⟨last, after⟩, hread, heq⟩
    obtain ⟨found, hbracketed, -⟩ := exists_bracketed (P := fun _ => True) hne
      (fun state before next after hpiece => by
        rw [readItem_eq_map, map_eq_ok_iff] at hpiece
        obtain ⟨⟨element, after⟩, hone, hnext⟩ := hpiece
        cases hnext
        exact ⟨element, hone, trivial⟩) hread
    rw [hrun hbracketed] at hread
    cases hread
    cases heq
    rwa [List.reverse_reverse]
  · intro hbracketed
    refine ⟨_, hrun hbracketed, ?_⟩
    exact congrArg (fun items => Except.ok (items, rest)) elements.reverse_reverse

theorem readItems_eq_ok_iff {one : Reader ε α} {text rest : List Char} {elements : List α} :
    readItems one text = .ok (elements, rest) ↔ Bracketed ']' one text elements rest :=
  readContainer_reverse_iff (by decide)

def readPair (item : Reader ε α) : Reader ε (String × α) := fun text => do
  let (name, rest) ← readName text
  let (_, rest) ← readColon rest
  let (value, rest) ← item rest
  .ok ((name, value), rest)

theorem readMember_eq_readItem (item : Reader ε α) :
    readMember item = readItem (readPair item) := by
  funext members text
  rw [readMember, readItem, readPair]
  cases readName text with
  | error fault => rfl
  | ok named =>
      simp only [bind, Except.bind]
      cases readColon named.2 with
      | error fault => rfl
      | ok colon =>
          simp only
          cases item colon.2 <;> rfl

theorem readMembers_eq_ok_iff {item : Reader ε α} {text rest : List Char}
    {members : List (String × α)} :
    readMembers item text = .ok (members, rest) ↔
      Bracketed '\x7d' (readPair item) text members rest := by
  rw [readMembers, readMember_eq_readItem]
  exact readContainer_reverse_iff (by decide)

end SearchRanking.Json
