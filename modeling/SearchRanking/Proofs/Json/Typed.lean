import SearchRanking.Json.Schema
import SearchRanking.Proofs.Json.Document

/-!
# Typed reading and untyped values

A typed reader does not keep the value that it reads, and may reject a text before the value ends.
On a text that begins with a value it still gives what the value deserves, and it accepts no other
text. `Judges` states both, for a judgement on values. It passes from the items of a list to the
list.
-/

namespace SearchRanking.Json

variable {ε δ α β γ : Type}

/-- Behind an element the typed reader gives the judgement on it, and it accepts nothing else. -/
structure Judges (one : Reader ε α) (typed : Reader δ β) (judge : α → Except (Fault δ) β) :
    Prop where
  exact : ∀ {text rest : List Char} {element : α}, one text = .ok (element, rest) →
    typed text = (judge element).map fun result => (result, rest)
  sound : ∀ {text rest : List Char} {result : β}, typed text = .ok (result, rest) →
    ∃ element, one text = .ok (element, rest)

theorem Judges.map {one : Reader ε α} {typed : Reader δ β} {judge : α → Except (Fault δ) β}
    (htyped : Judges one typed judge) (f : β → γ) :
    Judges one (fun text => typed text >>= fun read => .ok (f read.1, read.2))
      fun element => (judge element).map f where
  exact := by
    intro text rest element hone
    simp only [htyped.exact hone]
    cases judge element <;> rfl
  sound := by
    intro text rest result hread
    obtain ⟨⟨found, after⟩, hfound, heq⟩ := bind_eq_ok_iff.mp hread
    cases heq
    exact htyped.sound hfound

section Lists

variable {one : Reader ε α} {item : Reader δ β} {judge : α → Except (Fault δ) β}

theorem foldlM_judge_reverse (judge : α → Except (Fault δ) β) (elements : List α)
    (front : List β) :
    (elements.foldlM (fun results element => (judge element).map (· :: results)) front).map
        List.reverse =
      (elements.mapM judge).map (front.reverse ++ ·) := by
  induction elements generalizing front with
  | nil => exact congrArg Except.ok (List.append_nil _).symm
  | cons element elements ih =>
      rw [List.foldlM_cons, List.mapM_cons]
      cases judge element with
      | error fault => rfl
      | ok result =>
          refine (ih (result :: front)).trans ?_
          cases elements.mapM judge with
          | error fault => rfl
          | ok results =>
              rw [List.reverse_cons]
              exact congrArg Except.ok (List.append_assoc _ _ _)

theorem readItems_eq_map (item : Reader δ β) (text : List Char) :
    readItems item text =
      (readContainer ']' (readItem item) [] text).map fun read => (read.1.reverse, read.2) := by
  rw [readItems]
  cases readContainer ']' (readItem item) [] text <;> rfl

theorem Judges.items (hitem : Judges one item judge) :
    Judges (readItems one) (readItems item) fun elements => elements.mapM judge where
  exact := by
    intro text rest elements hread
    have hfold : readContainer ']' (readItem item) [] text =
        (elements.foldlM (fun results element => (judge element).map (· :: results)) []).map
          fun results => (results, rest) := by
      refine readContainer_eq_foldlM (by decide) (readItems_eq_ok_iff.mp hread) ?_ []
      intro element _ before after hone results
      rw [readItem_eq_map, hitem.exact hone]
      cases judge element <;> rfl
    have hswap : ∀ run : Except (Fault δ) (List β),
        (run.map fun results => (results, rest)).map (fun read => (read.1.reverse, read.2)) =
          (run.map List.reverse).map fun results => (results, rest) := by
      intro run
      cases run <;> rfl
    rw [readItems_eq_map, hfold, hswap, foldlM_judge_reverse]
    cases elements.mapM judge <;> rfl
  sound := by
    intro text rest results hread
    rw [readItems_eq_map, map_eq_ok_iff] at hread
    obtain ⟨⟨last, after⟩, hcontainer, heq⟩ := hread
    cases heq
    have hsound : ∀ state before next after, readItem item state before = .ok (next, after) →
        ∃ element, one before = .ok (element, after) ∧ True := by
      intro state before next after hpiece
      rw [readItem_eq_map, map_eq_ok_iff] at hpiece
      obtain ⟨⟨result, behind⟩, hread, heq⟩ := hpiece
      cases heq
      obtain ⟨element, hone⟩ := hitem.sound hread
      exact ⟨element, hone, trivial⟩
    obtain ⟨elements, hbracketed, -⟩ := exists_bracketed (by decide) hsound hcontainer
    exact ⟨elements, readItems_eq_ok_iff.mpr hbracketed⟩

end Lists

/-- What the type of a value is judged by: containers are not looked into. -/
def Value.surface : Value → Value
  | .array _ => .array []
  | .object _ => .object []
  | value => value

def mistyped (value : Value) (wanted : Shape) : Except (Fault Mismatch) α :=
  .error (.rejected (.wrongType value.surface wanted))

def judgeNumber : Value → Except (Fault Mismatch) Score
  | .number number => .ok number.toScore
  | value => mistyped value .number

def judgeString : Value → Except (Fault Mismatch) String
  | .string text => .ok text
  | value => mistyped value .string

def judgeList (judge : Value → Except (Fault Mismatch) α) :
    Value → Except (Fault Mismatch) (List α)
  | .array items => items.mapM judge
  | value => mistyped value .list

section Types

variable {items : Reader Mismatch (List Value)} {members : Reader Mismatch (List (String × Value))}
  {text rest : List Char} {value : Value}

theorem rejectNode_of_node (hnode : Node items members text value rest) (wanted : Shape) :
    rejectNode wanted text = (mistyped value wanted : Except (Fault Mismatch) (α × List Char)) := by
  have hsurface : ∃ after, readNode (fun rest => .ok ([], rest)) (fun rest => .ok ([], rest)) text =
      (.ok (value.surface, after) : Except (Fault Mismatch) _) := by
    simp only [readNode_eq_ok_iff]
    cases hnode with
    | null hword => exact ⟨_, .null hword⟩
    | yes hword => exact ⟨_, .yes hword⟩
    | no hword => exact ⟨_, .no hword⟩
    | string htext => exact ⟨_, .string htext⟩
    | number hnumber => exact ⟨_, .number hnumber⟩
    | array => exact ⟨_, .array rfl⟩
    | object => exact ⟨_, .object rfl⟩
  obtain ⟨after, hafter⟩ := hsurface
  rw [rejectNode, hafter]
  rfl

theorem rejectNode_ne_ok (wanted : Shape) (text : List Char) (result : α × List Char) :
    rejectNode wanted text ≠ .ok result := by
  intro hread
  rw [rejectNode, bind_eq_ok_iff] at hread
  obtain ⟨_, _, hrejected⟩ := hread
  cases hrejected

theorem judges_expectNumber : Judges (readNode items members) expectNumber judgeNumber where
  exact := by
    intro text rest value hread
    have hnode := readNode_eq_ok_iff.mp hread
    have hreject := rejectNode_of_node (α := Score) hnode .number
    cases hnode with
    | number hnumber =>
        obtain ⟨c, tail, rfl, hnumeric⟩ := exists_numeric_of_readNumber hnumber
        rw [expectNumber, if_pos hnumeric, hnumber]
        rfl
    | null | yes | no | string | array | object => exact hreject
  sound := by
    intro text rest score hread
    unfold expectNumber at hread
    split at hread
    · split at hread
      · obtain ⟨⟨number, after⟩, hnumber, heq⟩ := map_eq_ok_iff.mp hread
        cases heq
        exact ⟨.number number, readNode_eq_ok_iff.mpr (.number hnumber)⟩
      · exact absurd hread (rejectNode_ne_ok _ _ _)
    · cases hread

theorem judges_expectString : Judges (readNode items members) expectString judgeString where
  exact := by
    intro text rest value hread
    have hnode := readNode_eq_ok_iff.mp hread
    have hreject := rejectNode_of_node (α := String) hnode .string
    cases hnode with
    | string htext =>
        rw [expectString, htext]
        rfl
    | number hnumber =>
        obtain ⟨c, tail, rfl, hnumeric⟩ := exists_numeric_of_readNumber hnumber
        unfold expectString
        split
        · next heq =>
          cases heq
          cases hnumeric
        · exact hreject
    | null | yes | no | array | object => exact hreject
  sound := by
    intro text rest string hread
    unfold expectString at hread
    split at hread
    · exact ⟨.string string, readNode_eq_ok_iff.mpr (.string hread)⟩
    · exact absurd hread (rejectNode_ne_ok _ _ _)

theorem Judges.list {one : Reader Mismatch Value} {item : Reader Mismatch α}
    {judge : Value → Except (Fault Mismatch) α} (hitem : Judges one item judge) :
    Judges (readNode (readItems one) members) (expectList item) (judgeList judge) where
  exact := by
    intro text rest value hread
    have hnode := readNode_eq_ok_iff.mp hread
    have hreject := rejectNode_of_node (α := List α) hnode .list
    cases hnode with
    | array hitems =>
        rw [expectList]
        exact hitem.items.exact hitems
    | number hnumber =>
        obtain ⟨c, tail, rfl, hnumeric⟩ := exists_numeric_of_readNumber hnumber
        unfold expectList
        split
        · next heq =>
          cases heq
          cases hnumeric
        · exact hreject
    | null | yes | no | string | object => exact hreject
  sound := by
    intro text rest results hread
    unfold expectList at hread
    split at hread
    · obtain ⟨elements, helements⟩ := hitem.items.sound hread
      exact ⟨.array elements, readNode_eq_ok_iff.mpr (.array helements)⟩
    · exact absurd hread (rejectNode_ne_ok _ _ _)

end Types

end SearchRanking.Json
