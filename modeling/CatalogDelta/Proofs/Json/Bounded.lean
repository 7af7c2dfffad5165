import CatalogDelta.Json.Reader
import CatalogDelta.Proofs.Act.Gives
import CatalogDelta.Proofs.Decimal.Short
import CatalogDelta.Proofs.Json.TextLiteral
import CatalogDelta.Proofs.OrderedMap

/-!
# What is read is bounded

No whole number in a value that is read from JSON has more digits than are read, and no text or name
in it holds a pair of units, however deep it lies. Main statement: `bounded_of_read`.
-/

namespace CatalogDelta.Json

/-- A value as it is read from JSON: no whole number in it is too long, and every text and every name
can be read again. -/
inductive Bounded : Value → Prop
  | null : Bounded .null
  | bool (content : Bool) : Bounded (.bool content)
  | int {content : Int} (short : Decimal.IsShort content) : Bounded (.int content)
  | float (content : Float) : Bounded (.float content)
  | text {content : Points} (readable : Readable content) : Bounded (.text content)
  | list {items : List Value} (each : ∀ item ∈ items, Bounded item) : Bounded (.list items)
  | map {entries : List (Points × Value)} (named : ∀ entry ∈ entries, Readable entry.1)
    (each : ∀ entry ∈ entries, Bounded entry.2) : Bounded (.map entries)

/-- A member whose name can be read again and whose value is bounded. -/
def BoundedMember (entry : Points × Value) : Prop := Readable entry.1 ∧ Bounded entry.2

theorem Bounded.of_members {entries : List (Points × Value)}
    (each : ∀ entry ∈ entries, BoundedMember entry) : Bounded (.map entries) :=
  .map (fun entry member => (each entry member).1) fun entry member => (each entry member).2

variable {text rest : List Char} {found : Value}

theorem Numeral.value_bounded {numeral : Numeral} (read : numeral.value = .ok found) :
    Bounded found := by
  unfold Numeral.value at read
  split at read
  · split at read
    · contradiction
    · rename_i short
      obtain rfl := Except.ok.inj read
      exact .int (Decimal.isShort_of_digits (Nat.not_lt.mp short) numeral.negative)
  · obtain rfl := Except.ok.inj read
    exact .float _

theorem word?_bounded (word : word? Dialect.data.words text = some (found, rest)) :
    Bounded found := by
  have words : ∀ entry ∈ Dialect.data.words, Bounded entry.2 := by
    intro entry member
    simp only [Dialect.data, plainWords, numberWords, List.cons_append, List.nil_append,
      List.mem_cons, List.not_mem_nil, or_false] at member
    rcases member with rfl | rfl | rfl | rfl | rfl | rfl
    · exact .null
    · exact .bool true
    · exact .bool false
    · exact .float _
    · exact .float _
    · exact .float _
  obtain ⟨entry, member, given⟩ := List.exists_of_findSome?_eq_some word
  dsimp only at given
  split at given
  · obtain ⟨rfl, _⟩ := Prod.mk.inj (Option.some.inj given)
    exact words entry member
  · contradiction

theorem scalar_bounded (read : scalar .data text = .ok (found, rest)) : Bounded found := by
  have data_eq : Dialect.data.numeral = Numeral.value := rfl
  unfold scalar at read
  split at read
  · rename_i word
    obtain rfl := Except.ok.inj read
    exact word?_bounded word
  · split at read
    · contradiction
    · rw [data_eq] at read
      split at read
      · rename_i numeral_eq
        obtain ⟨rfl, _⟩ := Prod.mk.inj (Except.ok.inj read)
        exact Numeral.value_bounded numeral_eq
      · contradiction

mutual

theorem value_bounded (fuel : Nat) {text rest : List Char} {found : Value}
    (read : value .data fuel text = .ok (found, rest)) : Bounded found := by
  cases fuel with
  | zero => contradiction
  | succ fuel =>
    unfold value at read
    split at read
    · obtain ⟨⟨content, after⟩, written, read⟩ := Act.exists_of_bind_eq_ok read
      obtain ⟨rfl, _⟩ := Prod.mk.inj (Except.ok.inj read)
      exact .text (readable_of_textBody written)
    · split at read
      · obtain ⟨rfl, _⟩ := Prod.mk.inj (Except.ok.inj read)
        exact .list fun _ member => absurd member List.not_mem_nil
      · obtain ⟨⟨inside, after⟩, listed, read⟩ := Act.exists_of_bind_eq_ok read
        obtain ⟨rfl, _⟩ := Prod.mk.inj (Except.ok.inj read)
        exact .list (items_bounded fuel listed)
    · split at read
      · obtain ⟨rfl, _⟩ := Prod.mk.inj (Except.ok.inj read)
        exact .of_members fun _ member => absurd member List.not_mem_nil
      · obtain ⟨⟨inside, after⟩, listed, read⟩ := Act.exists_of_bind_eq_ok read
        obtain ⟨rfl, _⟩ := Prod.mk.inj (Except.ok.inj read)
        exact .of_members
          (members_bounded fuel (fun _ member => absurd member List.not_mem_nil) listed)
    · exact scalar_bounded read

theorem items_bounded (fuel : Nat) {text rest : List Char} {found : List Value}
    (read : items .data fuel text = .ok (found, rest)) : ∀ item ∈ found, Bounded item := by
  cases fuel with
  | zero => contradiction
  | succ fuel =>
    unfold items at read
    obtain ⟨⟨first, after⟩, firstRead, read⟩ := Act.exists_of_bind_eq_ok read
    have bounded := value_bounded fuel firstRead
    dsimp only at read
    split at read
    · obtain ⟨rfl, _⟩ := Prod.mk.inj (Except.ok.inj read)
      intro item member
      obtain rfl := List.mem_singleton.mp member
      exact bounded
    · obtain ⟨⟨others, last⟩, othersRead, read⟩ := Act.exists_of_bind_eq_ok read
      obtain ⟨rfl, _⟩ := Prod.mk.inj (Except.ok.inj read)
      intro item member
      rcases List.mem_cons.mp member with rfl | later
      · exact bounded
      · exact items_bounded fuel othersRead item later
    · contradiction

theorem members_bounded (fuel : Nat) {earlier : List (Points × Value)} {text rest : List Char}
    {found : List (Points × Value)} (before : ∀ entry ∈ earlier, BoundedMember entry)
    (read : members .data fuel earlier text = .ok (found, rest)) :
    ∀ entry ∈ found, BoundedMember entry := by
  cases fuel with
  | zero => contradiction
  | succ fuel =>
    unfold members at read
    split at read
    · obtain ⟨⟨name, after⟩, named, read⟩ := Act.exists_of_bind_eq_ok read
      dsimp only at read
      split at read
      · obtain ⟨⟨content, after⟩, contentRead, read⟩ := Act.exists_of_bind_eq_ok read
        have bounded := value_bounded fuel contentRead
        have put : ∀ entry ∈ OrderedMap.put name content earlier, BoundedMember entry := by
          intro entry member
          rcases OrderedMap.mem_put member with rfl | there
          · exact ⟨readable_of_textBody named, bounded⟩
          · exact before entry there
        dsimp only at read
        split at read
        · obtain ⟨rfl, _⟩ := Prod.mk.inj (Except.ok.inj read)
          exact put
        · exact members_bounded fuel put read
        · contradiction
      · contradiction
    · contradiction

end

/-- **What is read is bounded.** -/
theorem bounded_of_read (stored : read text = .ok found) : Bounded found := by
  unfold read readAs at stored
  split at stored
  · contradiction
  · obtain ⟨⟨whole, after⟩, valueRead, stored⟩ := Act.exists_of_bind_eq_ok stored
    dsimp only at stored
    split at stored
    · obtain rfl := Except.ok.inj stored
      exact value_bounded _ valueRead
    · contradiction

end CatalogDelta.Json
