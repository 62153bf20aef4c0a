import SearchRanking.Proofs.Json.Container
import SearchRanking.Proofs.Json.Reading

/-!
# Documents read in place

A document is read in the same way wherever it stands. `Node` lists the forms that a value can have
at its first character, and from it follow the two facts by which documents can be put together.
What stands behind a value does not change how it is read, unless the value is a number that the
text behind it continues (`extends_readValue`). And the bound on nesting counts the containers of
the value that is read: any bound that is not below `Value.nesting` gives the same result
(`readValue_of_nesting_le`).
-/

namespace SearchRanking.Json

variable {ε δ α : Type}

theorem consText_eq_ok_iff {c : Char} {read : Except (Fault ε) (List Char × List Char)}
    {chars rest : List Char} :
    consText c read = .ok (chars, rest) ↔
      ∃ tail, read = .ok (tail, rest) ∧ chars = c :: tail := by
  rw [consText, map_eq_ok_iff]
  constructor
  · rintro ⟨⟨tail, after⟩, hread, heq⟩
    cases heq
    exact ⟨tail, hread, rfl⟩
  · rintro ⟨tail, hread, rfl⟩
    exact ⟨_, hread, rfl⟩

theorem readChars_append {text left chars : List Char}
    (hread : (readChars text : Except (Fault ε) _) = .ok (chars, left)) (more : List Char) :
    (readChars (text ++ more) : Except (Fault ε) _) = .ok (chars, left ++ more) := by
  -- The named cases are the closing quote and the four ways to write a character.
  fun_induction readChars (ε := ε) text generalizing chars left
  case case2 =>
    cases hread
    rw [List.cons_append, readChars.eq_def]
    rfl
  case case7 hleading hfirst hsecond _ _ _ _ _ _ htrailing hpair _ ih =>
    obtain ⟨tail, htail, rfl⟩ := consText_eq_ok_iff.mp hread
    simp [readChars, hleading, hfirst, hsecond, htrailing, hpair, ih htail, consText, Except.map]
  case case12 hunit htrailing hleading _ ih =>
    obtain ⟨tail, htail, rfl⟩ := consText_eq_ok_iff.mp hread
    simp [readChars, hunit, htrailing, hleading, ih htail, consText, Except.map]
  case case15 hletter _ hescape _ ih =>
    obtain ⟨tail, htail, rfl⟩ := consText_eq_ok_iff.mp hread
    rw [List.cons_append, List.cons_append, readChars.eq_def]
    simp only [Char.reduceEq, if_false, if_true]
    split
    · next heq => cases heq
    · next heq => exact (hletter (List.cons.inj heq).1).elim
    · next heq => exact (hletter (List.cons.inj heq).1).elim
    · next heq =>
      cases heq
      simp only [hescape, ih htail]
      rfl
  case case17 hquote hbackslash hplain ih =>
    obtain ⟨tail, htail, rfl⟩ := consText_eq_ok_iff.mp hread
    rw [List.cons_append, readChars.eq_def]
    simp [hquote, hbackslash, hplain, ih htail, consText, Except.map]
  all_goals cases hread

theorem readText_append {text left : List Char} {string : String}
    (hread : (readText text : Except (Fault ε) _) = .ok (string, left)) (more : List Char) :
    (readText (text ++ more) : Except (Fault ε) _) = .ok (string, left ++ more) := by
  rw [readText, map_eq_ok_iff] at hread ⊢
  obtain ⟨⟨chars, rest⟩, hchars, heq⟩ := hread
  cases heq
  exact ⟨_, readChars_append hchars more, rfl⟩

theorem readLiteral_append {word text left : List Char}
    (hread : (readLiteral word text : Except (Fault ε) _) = .ok ((), left)) (more : List Char) :
    (readLiteral word (text ++ more) : Except (Fault ε) _) = .ok ((), left ++ more) := by
  fun_induction readLiteral (ε := ε) word text with
  | case1 text =>
      cases hread
      rw [readLiteral]
  | case2 => cases hread
  | case3 expected word rest ih =>
      rw [List.cons_append, readLiteral, if_pos rfl]
      exact ih hread
  | case4 => cases hread

/-- A value at the front of a text, by its first character. -/
inductive Node (items : Reader ε (List Value)) (members : Reader ε (List (String × Value))) :
    List Char → Value → List Char → Prop
  | null {text rest : List Char}
      (hword : (readLiteral ['u', 'l', 'l'] text : Except (Fault ε) _) = .ok ((), rest)) :
      Node items members ('n' :: text) .null rest
  | yes {text rest : List Char}
      (hword : (readLiteral ['r', 'u', 'e'] text : Except (Fault ε) _) = .ok ((), rest)) :
      Node items members ('t' :: text) (.bool true) rest
  | no {text rest : List Char}
      (hword : (readLiteral ['a', 'l', 's', 'e'] text : Except (Fault ε) _) = .ok ((), rest)) :
      Node items members ('f' :: text) (.bool false) rest
  | string {text rest : List Char} {string : String}
      (htext : (readText text : Except (Fault ε) _) = .ok (string, rest)) :
      Node items members ('"' :: text) (.string string) rest
  | number {text rest : List Char} {number : Number}
      (hnumber : (readNumber text : Except (Fault ε) _) = .ok (number, rest)) :
      Node items members text (.number number) rest
  | array {text rest : List Char} {values : List Value} (hitems : items text = .ok (values, rest)) :
      Node items members ('[' :: text) (.array values) rest
  | object {text rest : List Char} {fields : List (String × Value)}
      (hmembers : members text = .ok (fields, rest)) :
      Node items members ('\x7b' :: text) (.object fields) rest

section Nodes

variable {items : Reader ε (List Value)} {members : Reader ε (List (String × Value))}
  {text rest : List Char} {value : Value}

theorem node_of_readNode (hread : readNode items members text = .ok (value, rest)) :
    Node items members text value rest := by
  unfold readNode at hread
  split at hread
  case h_1 => cases hread
  case h_8 =>
    split at hread
    · obtain ⟨read, hnumber, heq⟩ := map_eq_ok_iff.mp hread
      cases heq
      exact .number hnumber
    · cases hread
  all_goals
    obtain ⟨read, hpart, heq⟩ := map_eq_ok_iff.mp hread
    cases heq
  case h_2 => exact .null hpart
  case h_3 => exact .yes hpart
  case h_4 => exact .no hpart
  case h_5 => exact .string hpart
  case h_6 => exact .array hpart
  case h_7 => exact .object hpart

theorem Node.readNode_eq (hnode : Node items members text value rest) :
    readNode items members text = .ok (value, rest) := by
  cases hnode with
  | number hnumber =>
      obtain ⟨c, tail, rfl, hnumeric⟩ := exists_numeric_of_readNumber hnumber
      rw [readNode_of_numeric hnumeric, hnumber]
      rfl
  | null hpart | yes hpart | no hpart | string hpart | array hpart | object hpart =>
      simp only [readNode, hpart]
      rfl

theorem readNode_eq_ok_iff :
    readNode items members text = .ok (value, rest) ↔ Node items members text value rest :=
  ⟨node_of_readNode, Node.readNode_eq⟩

theorem Node.imp {otherItems : Reader ε (List Value)}
    {otherMembers : Reader ε (List (String × Value))}
    (hnode : Node items members text value rest)
    (hitems : ∀ inner values, value = .array values → items inner = .ok (values, rest) →
      otherItems inner = .ok (values, rest))
    (hmembers : ∀ inner fields, value = .object fields → members inner = .ok (fields, rest) →
      otherMembers inner = .ok (fields, rest)) :
    Node otherItems otherMembers text value rest := by
  cases hnode with
  | null hword => exact .null hword
  | yes hword => exact .yes hword
  | no hword => exact .no hword
  | string htext => exact .string htext
  | number hnumber => exact .number hnumber
  | array hinner => exact .array (hitems _ _ rfl hinner)
  | object hinner => exact .object (hmembers _ _ rfl hinner)

theorem extends_readNode (hitems : Extends items) (hmembers : Extends members) :
    Extends (readNode items members) := by
  intro text left value more hread hmore
  rw [readNode_eq_ok_iff] at hread ⊢
  cases hread with
  | null hword => exact .null (readLiteral_append hword more)
  | yes hword => exact .yes (readLiteral_append hword more)
  | no hword => exact .no (readLiteral_append hword more)
  | string htext => exact .string (readText_append htext more)
  | number hnumber => exact .number (extends_readNumber more hnumber hmore)
  | array hinner => exact .array (hitems more hinner hmore)
  | object hinner => exact .object (hmembers more hinner hmore)

theorem needsText_readNode : NeedsText (readNode items members) := by
  intro result hread
  cases hread

end Nodes

theorem readColon_eq_ok_iff {text rest : List Char} :
    (readColon text : Except (Fault ε) _) = .ok ((), rest) ↔
      ∃ tail, skipSpaces text = ':' :: tail ∧ rest = skipSpaces tail := by
  unfold readColon
  split
  · next tail hskip =>
    simp [hskip, eq_comm]
  · next hother =>
    constructor
    · intro hread
      cases hread
    · rintro ⟨tail, hskip, -⟩
      exact (hother tail hskip).elim

theorem readName_eq_ok_iff {text rest : List Char} {name : String} :
    (readName text : Except (Fault ε) _) = .ok (name, rest) ↔
      ∃ tail, text = '"' :: tail ∧ (readText tail : Except (Fault ε) _) = .ok (name, rest) := by
  unfold readName
  split
  · simp
  · next hother =>
    constructor
    · intro hread
      cases hread
    · rintro ⟨tail, htext, -⟩
      exact (hother tail htext).elim

theorem readPair_eq_ok_iff {item : Reader ε α} {text rest : List Char} {name : String}
    {value : α} :
    readPair item text = .ok ((name, value), rest) ↔
      ∃ after tail, (readName text : Except (Fault ε) _) = .ok (name, after) ∧
        skipSpaces after = ':' :: tail ∧ item (skipSpaces tail) = .ok (value, rest) := by
  simp only [readPair, bind_eq_ok_iff]
  constructor
  · rintro ⟨⟨_, after⟩, hname, ⟨_, _⟩, hcolon, ⟨_, _⟩, hvalue, heq⟩
    cases heq
    obtain ⟨tail, hskip, rfl⟩ := readColon_eq_ok_iff.mp hcolon
    exact ⟨after, tail, hname, hskip, hvalue⟩
  · rintro ⟨after, tail, hname, hskip, hvalue⟩
    exact ⟨_, hname, _, readColon_eq_ok_iff.mpr ⟨tail, hskip, rfl⟩, _, hvalue, rfl⟩

theorem extends_readPair {item : Reader ε α} (hextends : Extends item) (hneeds : NeedsText item) :
    Extends (readPair item) := by
  rintro text left ⟨name, value⟩ more hread hmore
  rw [readPair_eq_ok_iff] at hread ⊢
  obtain ⟨after, tail, hname, hskip, hvalue⟩ := hread
  obtain ⟨quoted, rfl, htext⟩ := readName_eq_ok_iff.mp hname
  refine ⟨after ++ more, tail ++ more, ?_, skipSpaces_append hskip more, ?_⟩
  · exact readName_eq_ok_iff.mpr ⟨_, rfl, readText_append htext more⟩
  · cases hstart : skipSpaces tail with
    | nil =>
        rw [hstart] at hvalue
        exact absurd hvalue (hneeds _)
    | cons c inner =>
        rw [skipSpaces_append hstart, ← List.cons_append, ← hstart]
        exact hextends more hvalue hmore

theorem needsText_readPair (item : Reader ε α) : NeedsText (readPair item) := by
  intro result hread
  cases hread

theorem needsText_readValue (depth : Nat) : NeedsText (readValue depth : Reader ε Value) := by
  cases depth with
  | zero => exact needsText_readNode
  | succ depth => exact needsText_readNode

theorem extends_readValue (depth : Nat) : Extends (readValue depth : Reader ε Value) := by
  induction depth with
  | zero =>
      refine extends_readNode ?_ ?_
      · intro _ _ _ _ hread
        cases hread
      · intro _ _ _ _ hread
        cases hread
  | succ depth ih =>
      refine extends_readNode ?_ ?_
      · intro text left values more hread _
        rw [readItems_eq_ok_iff] at hread ⊢
        exact hread.append ih (needsText_readValue depth) more
      · intro text left fields more hread _
        rw [readMembers_eq_ok_iff] at hread ⊢
        exact hread.append (extends_readPair ih (needsText_readValue depth))
          (needsText_readPair _) more

/-! ### Nesting -/

mutual

/-- How many containers stand around the innermost value, the outermost one included. -/
def Value.nesting : Value → Nat
  | .array items => nestingOfItems items + 1
  | .object members => nestingOfMembers members + 1
  | _ => 0

def nestingOfItems : List Value → Nat
  | [] => 0
  | item :: items => Nat.max item.nesting (nestingOfItems items)

def nestingOfMembers : List (String × Value) → Nat
  | [] => 0
  | (_, value) :: members => Nat.max value.nesting (nestingOfMembers members)

end

theorem nesting_le_of_mem_items {items : List Value} {item : Value} (hitem : item ∈ items) :
    item.nesting ≤ nestingOfItems items := by
  induction items with
  | nil => cases hitem
  | cons other items ih =>
      rw [nestingOfItems]
      rcases List.mem_cons.mp hitem with rfl | hmem
      · exact Nat.le_max_left _ _
      · exact Nat.le_trans (ih hmem) (Nat.le_max_right _ _)

theorem nesting_le_of_mem_members {members : List (String × Value)} {member : String × Value}
    (hmember : member ∈ members) : member.2.nesting ≤ nestingOfMembers members := by
  induction members with
  | nil => cases hmember
  | cons other members ih =>
      rw [nestingOfMembers]
      rcases List.mem_cons.mp hmember with rfl | hmem
      · exact Nat.le_max_left _ _
      · exact Nat.le_trans (ih hmem) (Nat.le_max_right _ _)

theorem readPair_imp {item : Reader ε α} {other : Reader ε α} {before after : List Char}
    {member : String × α} (hread : readPair item before = .ok (member, after))
    (himp : ∀ inner, item inner = .ok (member.2, after) → other inner = .ok (member.2, after)) :
    readPair other before = .ok (member, after) := by
  rw [readPair_eq_ok_iff] at hread ⊢
  obtain ⟨behind, tail, hname, hskip, hvalue⟩ := hread
  exact ⟨behind, tail, hname, hskip, himp _ hvalue⟩

theorem readValue_of_nesting_le {depth limit : Nat} {text rest : List Char} {value : Value}
    (hread : (readValue depth text : Except (Fault ε) _) = .ok (value, rest))
    (hle : value.nesting ≤ limit) :
    (readValue limit text : Except (Fault ε) _) = .ok (value, rest) := by
  induction depth generalizing limit text rest value with
  | zero =>
      obtain ⟨items, members, hlimit⟩ := exists_readValue_eq_readNode (ε := ε) limit
      rw [hlimit, readNode_eq_ok_iff]
      refine (readNode_eq_ok_iff.mp hread).imp ?_ ?_
      · intro _ _ _ hinner
        cases hinner
      · intro _ _ _ hinner
        cases hinner
  | succ depth ih =>
      cases limit with
      | zero =>
          refine readNode_eq_ok_iff.mpr ((readNode_eq_ok_iff.mp hread).imp ?_ ?_)
          · rintro _ _ rfl _
            cases hle
          · rintro _ _ rfl _
            cases hle
      | succ limit =>
          refine readNode_eq_ok_iff.mpr ((readNode_eq_ok_iff.mp hread).imp ?_ ?_)
          · rintro inner values rfl hitems
            rw [readItems_eq_ok_iff] at hitems ⊢
            refine hitems.imp ?_
            intro item hitem before after hitemRead
            exact ih hitemRead
              (Nat.le_trans (nesting_le_of_mem_items hitem) (Nat.le_of_succ_le_succ hle))
          · rintro inner fields rfl hmembers
            rw [readMembers_eq_ok_iff] at hmembers ⊢
            refine hmembers.imp ?_
            intro member hmember before after hpair
            refine readPair_imp hpair ?_
            intro _ hvalue
            exact ih hvalue
              (Nat.le_trans (nesting_le_of_mem_members hmember) (Nat.le_of_succ_le_succ hle))

/-! ### Whole texts -/

theorem readWhole_eq_ok_iff {reader : Reader ε α} {text : String} {value : α} :
    readWhole reader text = .ok value ↔
      ∃ rest, reader (skipSpaces text.toList) = .ok (value, rest) ∧ skipSpaces rest = [] := by
  rw [readWhole, bind_eq_ok_iff]
  constructor
  · rintro ⟨⟨found, rest⟩, hread, hend⟩
    by_cases hblank : (skipSpaces rest).isEmpty = true
    · simp only [if_pos hblank] at hend
      cases hend
      exact ⟨rest, hread, List.isEmpty_iff.mp hblank⟩
    · simp only [if_neg hblank] at hend
      cases hend
  · rintro ⟨rest, hread, hblank⟩
    refine ⟨_, hread, ?_⟩
    simp only [hblank, List.isEmpty_nil, if_true]

theorem readWhole_eq_of_map {reader : Reader ε α} {text : String} {result : Except (Fault ε) α}
    {rest : List Char}
    (hread : reader (skipSpaces text.toList) = result.map fun value => (value, rest))
    (hblank : skipSpaces rest = []) : readWhole reader text = result := by
  cases result with
  | error fault =>
      rw [readWhole, hread]
      rfl
  | ok value => exact readWhole_eq_ok_iff.mpr ⟨rest, hread, hblank⟩

theorem skipSpaces_blank_append {blank : List Char} (hblank : skipSpaces blank = [])
    (rest : List Char) : skipSpaces (blank ++ rest) = skipSpaces rest := by
  rw [skipSpaces] at hblank ⊢
  rw [List.dropWhile_append, hblank]
  rfl

section Lists

variable {one : Reader ε α} {texts : List String} {value : String → α}

@[simp]
theorem endsNumber_flatMap_comma (texts : List String) :
    endsNumber (texts.flatMap (fun text => ',' :: text.toList) ++ [']']) = true := by
  cases texts with
  | nil => rfl
  | cons text texts => rfl

theorem exists_read_followed (hextends : Extends one) (hneeds : NeedsText one) {text : String}
    {found : α} (hread : readWhole one text = .ok found) (more : List Char)
    (hmore : endsNumber more = true) :
    ∃ c tail blank, skipSpaces (text.toList ++ more) = c :: tail ∧
      one (c :: tail) = .ok (found, blank ++ more) ∧ skipSpaces blank = [] := by
  obtain ⟨blank, hone, hblank⟩ := readWhole_eq_ok_iff.mp hread
  cases hskip : skipSpaces text.toList with
  | nil =>
      rw [hskip] at hone
      exact absurd hone (hneeds _)
  | cons c tail =>
      refine ⟨c, tail ++ more, blank, skipSpaces_append hskip more, ?_, hblank⟩
      rw [← List.cons_append, ← hskip]
      exact hextends more hone fun _ => hmore

theorem listing_documents (hextends : Extends one) (hneeds : NeedsText one)
    (hread : ∀ text ∈ texts, readWhole one text = .ok (value text)) {blank : List Char}
    (hblank : skipSpaces blank = []) :
    Listing ']' one (blank ++ (texts.flatMap (fun text => ',' :: text.toList) ++ [']']))
      (texts.map value) [] := by
  induction texts generalizing blank with
  | nil => exact .done (skipSpaces_blank_append hblank _)
  | cons text texts ih =>
      rw [List.forall_mem_cons] at hread
      obtain ⟨c, tail, behind, hskip, hone, hbehind⟩ := exists_read_followed hextends hneeds
        hread.1 _ (endsNumber_flatMap_comma texts)
      have hcomma : skipSpaces
          (blank ++ ((text :: texts).flatMap (fun text => ',' :: text.toList) ++ [']'])) =
            ',' :: (text.toList ++ (texts.flatMap (fun text => ',' :: text.toList) ++ [']'])) := by
        rw [skipSpaces_blank_append hblank, List.flatMap_cons, List.append_assoc]
        rfl
      refine .more hcomma ?_ (ih hread.2 hbehind)
      rwa [hskip]

theorem length_lt_length_flatMap_comma (texts : List String) :
    texts.length < (texts.flatMap (fun text => ',' :: text.toList) ++ [']']).length := by
  induction texts with
  | nil => exact Nat.one_pos
  | cons text texts ih =>
      simp only [List.flatMap_cons, List.length_append, List.length_cons] at ih ⊢
      omega

theorem intercalate_comma_append (text : String) (texts : List String) :
    [','].intercalate ((text :: texts).map String.toList) ++ [']'] =
      text.toList ++ (texts.flatMap (fun text => ',' :: text.toList) ++ [']']) := by
  induction texts generalizing text with
  | nil => simp
  | cons other texts ih =>
      rw [List.map_cons, List.map_cons, List.intercalate_cons_cons, ← List.map_cons,
        List.append_assoc, ih]
      simp

/-- Documents between commas are the elements of a list. Each keeps the spaces around it. -/
theorem bracketed_documents (hextends : Extends one) (hneeds : NeedsText one)
    (hstart : ∀ tail result, one (']' :: tail) ≠ .ok result)
    (hread : ∀ text ∈ texts, readWhole one text = .ok (value text)) :
    Bracketed ']' one ([','].intercalate (texts.map String.toList) ++ [']'])
      (texts.map value) [] := by
  cases texts with
  | nil => exact .empty rfl
  | cons text texts =>
      rw [List.forall_mem_cons] at hread
      obtain ⟨c, tail, behind, hskip, hone, hbehind⟩ := exists_read_followed hextends hneeds
        hread.1 _ (endsNumber_flatMap_comma texts)
      rw [← intercalate_comma_append] at hskip
      refine .filled hskip ?_ hone ?_ (listing_documents hextends hneeds hread.2 hbehind)
      · rintro rfl
        exact hstart _ _ hone
      · have hcount := length_lt_length_flatMap_comma texts
        rw [List.length_map, List.length_append]
        omega

end Lists

end SearchRanking.Json
