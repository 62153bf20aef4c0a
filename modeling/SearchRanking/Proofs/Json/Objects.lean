import SearchRanking.Proofs.Json.Container
import SearchRanking.Proofs.Json.Reading

namespace SearchRanking.Json

variable {ε : Type}

/-- The text of a member, with a gap behind its colon. -/
def memberText (gap : List Char) (name : String) (text : List Char) : List Char :=
  writtenText name ++ ':' :: (gap ++ text)

@[simp]
theorem readName_writtenText (name : String) (rest : List Char) :
    (readName (writtenText name ++ rest) : Except (Fault ε) _) = .ok (name, rest) := by
  have hchars := readChars_escaped (ε := ε) name.toList rest
  simp only [writtenText, List.cons_append, List.append_assoc, List.nil_append, readName, readText,
    hchars]
  simp [Except.map]

section Members

variable {depth : Nat} {gap : List Char} {text : List Char} {value : Value}

theorem reads_member (hgap : ∀ c ∈ gap, isSpace c = true)
    (hreads : Reads (readValue depth : Reader ε Value) text value) (name : String) :
    Reads (readPair (readValue depth) : Reader ε (String × Value)) (memberText gap name text)
      (name, value) := by
  intro rest hrest
  obtain ⟨c, tail, rfl, hc, -⟩ := hreads.exists_cons_of_readValue
  have hskip := skipSpaces_gap_append hgap ⟨c, tail, rfl, hc⟩ rest
  have hcolon : ∀ inner, skipSpaces (':' :: inner) = ':' :: inner := fun _ => rfl
  simp only [memberText, List.append_assoc, List.cons_append] at hskip ⊢
  simp only [readPair, readName_writtenText, readColon, hcolon, hskip, bind, Except.bind]
  rw [← List.cons_append, hreads rest hrest]

end Members

section Objects

variable {depth : Nat} {gap last space : List Char} {pieces : List (String × List Char × Value)}

/-- Texts that stand for values stand, each behind its name, for an object, one level deeper. -/
theorem reads_object (hgap : ∀ c ∈ gap, isSpace c = true) (hlast : ∀ c ∈ last, isSpace c = true)
    (hspace : ∀ c ∈ space, isSpace c = true)
    (hreads : ∀ piece ∈ pieces,
      Reads (readValue depth : Reader ε Value) piece.2.1 piece.2.2) :
    Reads (readValue (depth + 1) : Reader ε Value)
      ('\x7b' :: enclosed gap last '\x7d'
        (pieces.map fun piece => memberText space piece.1 piece.2.1))
      (.object (pieces.map fun piece => (piece.1, piece.2.2))) := by
  have hmember : ∀ piece ∈ pieces, ∀ members,
      Reads (readMember (readValue depth) members : Reader ε (List (String × Value)))
        (memberText space piece.1 piece.2.1) ((piece.1, piece.2.2) :: members) := by
    intro piece hpiece members rest hrest
    rw [readMember_eq_readItem, readItem_eq_map,
      reads_member hspace (hreads piece hpiece) piece.1 rest hrest]
    rfl
  have hopens : ∀ piece ∈ pieces, ∃ c tail, memberText space piece.1 piece.2.1 = c :: tail ∧
      isSpace c = false ∧ c ≠ '\x7d' := by
    intro piece _
    exact ⟨'"', _, rfl, rfl, by decide⟩
  intro rest hrest
  have hread := reads_container (Or.inr rfl) hgap hlast hmember hopens [] rest hrest
  rw [List.foldl_flip_cons_eq_append, List.append_nil] at hread
  have hmembers : (readMembers (readValue depth) (enclosed gap last '\x7d'
      (pieces.map fun piece => memberText space piece.1 piece.2.1) ++ rest) :
        Except (Fault ε) _) = .ok (pieces.map fun piece => (piece.1, piece.2.2), rest) := by
    rw [readMembers, hread]
    exact congrArg (fun members => Except.ok (members, rest)) (List.reverse_reverse _)
  simp only [List.cons_append, readValue, readNode, hmembers]
  rfl

end Objects

theorem prettyMembers_eq_flatMap (level : Nat) (members : List (String × Value)) :
    prettyMembers level members =
      (members.map fun member => memberText [' '] member.1 (pretty level member.2)).flatMap
        fun text => ',' :: (newLine level ++ text) := by
  induction members with
  | nil => rfl
  | cons member members ih => simp [prettyMembers, memberText, ih]

theorem pretty_object (level : Nat) (members : List (String × Value)) :
    pretty level (.object members) =
      '\x7b' :: enclosed (newLine (level + 1)) (newLine level) '\x7d'
        (members.map fun member => memberText [' '] member.1 (pretty (level + 1) member.2)) := by
  cases members with
  | nil => rfl
  | cons member members =>
      simp [pretty, enclosed, followed, prettyMembers_eq_flatMap, memberText]

end SearchRanking.Json
