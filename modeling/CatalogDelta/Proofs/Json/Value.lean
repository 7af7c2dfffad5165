import CatalogDelta.Proofs.Json.Numeral
import CatalogDelta.Proofs.Json.TextLiteral
import CatalogDelta.Proofs.OrderedMap
import Mathlib.Algebra.BigOperators.Group.List.Basic

/-!
# Written values are read back

What is written for a value of texts, whole numbers, words, lists and maps with distinct names is
read back as that value. Main statements: `Plain.readsBack`, `read_indented`.
-/

namespace CatalogDelta.Json

section Literals

/-- What is written for a text, between its marks. -/
theorem toList_textLiteralOf (content : Points) :
    (textLiteralOf content).toList = '"' :: (content.flatMap escaped ++ ['"']) := by
  rw [textLiteralOf, String.toList_ofList, List.cons_append]

/-- A text is read back from its literal, of which the first mark has been taken. -/
theorem textLiteral_written {content : Points} (readable : Readable content) (rest : List Char) :
    textLiteral (content.flatMap escaped ++ '"' :: rest) = .ok (content, rest) := by
  have written : content.length ≤ (content.flatMap escaped).length := by
    rw [List.length_flatMap, ← List.length_map fun point => (escaped point).length]
    refine List.length_le_sum_of_one_le _ fun length member => ?_
    obtain ⟨point, _, rfl⟩ := List.mem_map.mp member
    exact List.length_pos_iff.mpr (escaped_ne_nil point)
  unfold textLiteral
  exact textBody_escaped _ _ readable (by rw [List.length_append]; omega) rest

theorem toList_newLine (level : Nat) :
    (newLine level).toList = '\n' :: List.replicate (2 * level) ' ' := by
  have pushed (count : Nat) (text : String) :
      (text.pushn ' ' count).toList = text.toList ++ List.replicate count ' ' := by
    unfold String.pushn
    induction count with
    | zero => exact (List.append_nil _).symm
    | succ count ih =>
      rw [Nat.repeat, String.toList_push, ih, List.append_assoc, List.replicate_succ']
  rw [newLine, String.toList_append, pushed]
  rfl

/-- A new line and its indentation are skipped. -/
theorem skipGap_newLine (level : Nat) (rest : List Char) :
    skipGap ((newLine level).toList ++ rest) = skipGap rest := by
  unfold skipGap
  refine List.dropWhile_append_of_pos fun c member => ?_
  rw [toList_newLine] at member
  rcases List.mem_cons.mp member with rfl | blank
  · rfl
  · rw [List.eq_of_mem_replicate blank]
    rfl

theorem unreturned_newLine (level : Nat) : '\r' ∉ (newLine level).toList := by
  rw [toList_newLine, List.mem_cons, not_or]
  refine ⟨by decide, fun member => ?_⟩
  exact absurd (List.eq_of_mem_replicate member) (by decide)

end Literals

/-- Values that are read back from what is written for them. -/
inductive Plain : Value → Prop
  | null : Plain .null
  | bool (content : Bool) : Plain (.bool content)
  | int {content : Int}
    (short : (Decimal.digitsOf content.natAbs).length ≤ Decimal.digitLimit) : Plain (.int content)
  | text {content : Points} (readable : Readable content) : Plain (.text content)
  | list {items : List Value} (plain : ∀ item ∈ items, Plain item) : Plain (.list items)
  | map {entries : OrderedMap Points Value} (distinct : (OrderedMap.keys entries).Nodup)
    (named : ∀ entry ∈ entries, Readable entry.1) (plain : ∀ entry ∈ entries, Plain entry.2) :
    Plain (.map entries)

/-- A value is read from a text that begins like one and holds no carriage return. -/
structure ReadsBack (content : Value) (text : List Char) : Prop where
  begins : ∃ c others, text = c :: others ∧ isGap c = false ∧ c ≠ ']' ∧ c ≠ '\ufeff'
  unreturned : '\r' ∉ text
  reads : ∀ fuel rest, text.length < fuel → Parts rest →
    value .data fuel (text ++ rest) = .ok (content, rest)

theorem skipGap_cons {c : Char} (solid : isGap c = false) (rest : List Char) :
    skipGap (c :: rest) = c :: rest :=
  List.dropWhile_cons_of_neg (Bool.eq_false_iff.mp solid)

/-- No gap comes before a value. -/
theorem ReadsBack.skipGap_append {content : Value} {text : List Char} (back : ReadsBack content text)
    (rest : List Char) : skipGap (text ++ rest) = text ++ rest := by
  obtain ⟨c, others, rfl, solid, _⟩ := back.begins
  exact skipGap_cons solid _

section Scalars

/-- The characters with which no scalar begins. -/
def marks : List Char := ['"', '[', '\x7b', ']', '\ufeff', ' ', '\t', '\n', '\r']

variable {content : Value} {c : Char} {others : List Char}

theorem value_of_scalar (fuel : Nat) (unmarked : c ∉ marks) :
    value .data (fuel + 1) (c :: others) = scalar .data (c :: others) := by
  have other {mark : Char} (member : mark ∈ marks) : c ≠ mark :=
    fun same => unmarked (same ▸ member)
  rw [value.eq_def]
  dsimp only
  split
  · rename_i same
    exact absurd (List.cons.inj same).1 (other (by decide))
  · rename_i same
    exact absurd (List.cons.inj same).1 (other (by decide))
  · rename_i same
    exact absurd (List.cons.inj same).1 (other (by decide))
  · rfl

theorem readsBack_of_scalar (unmarked : c ∉ marks) (unreturned : '\r' ∉ c :: others)
    (reads : ∀ rest, Parts rest → scalar .data (c :: others ++ rest) = .ok (content, rest)) :
    ReadsBack content (c :: others) where
  begins := by
    have other {mark : Char} (member : mark ∈ marks) : c ≠ mark :=
      fun same => unmarked (same ▸ member)
    refine ⟨c, others, rfl, ?_, other (by decide), other (by decide)⟩
    have blank : c ≠ ' ' ∧ c ≠ '\t' ∧ c ≠ '\n' ∧ c ≠ '\r' :=
      ⟨other (by decide), other (by decide), other (by decide), other (by decide)⟩
    simp only [isGap, blank, decide_false, Bool.or_self]
  unreturned := unreturned
  reads fuel rest enough parts := by
    obtain ⟨fuel, rfl⟩ := Nat.exists_eq_add_one_of_ne_zero (Nat.ne_zero_of_lt enough)
    rw [List.cons_append, value_of_scalar fuel unmarked]
    exact reads rest parts

theorem readsBack_null : ReadsBack .null (scalarText .null).toList :=
  readsBack_of_scalar (by decide) (by decide) fun _ _ => rfl

theorem readsBack_bool (content : Bool) :
    ReadsBack (.bool content) (scalarText (.bool content)).toList := by
  cases content with
  | false => exact readsBack_of_scalar (by decide) (by decide) fun _ _ => rfl
  | true => exact readsBack_of_scalar (by decide) (by decide) fun _ _ => rfl

theorem readsBack_int {content : Int}
    (short : (Decimal.digitsOf content.natAbs).length ≤ Decimal.digitLimit) :
    ReadsBack (.int content) (scalarText (.int content)).toList := by
  have digitless : (marks.all (!·.isDigit)) = true := by decide
  have unmarked {c : Char} (digit : c.isDigit = true) : c ∉ marks := by
    intro member
    have other := List.all_eq_true.mp digitless c member
    rw [digit] at other
    contradiction
  have unreturned : '\r' ∉ Decimal.showInteger content := by
    intro member
    unfold Decimal.showInteger at member
    split at member
    · rcases List.mem_cons.mp member with same | digit
      · exact absurd same (by decide)
      · exact absurd (Decimal.isDigit_of_mem_digitsOf digit) (by decide)
    · exact absurd (Decimal.isDigit_of_mem_digitsOf member) (by decide)
  obtain ⟨c, others, digit, written⟩ := showInteger_cases content
  rw [scalarText, String.toList_ofList]
  have reads (rest : List Char) (parts : Parts rest) := scalar_showInteger short parts
  rcases written with written | written
  · rw [written] at unreturned reads ⊢
    exact readsBack_of_scalar (unmarked digit) unreturned reads
  · rw [written] at unreturned reads ⊢
    exact readsBack_of_scalar (by decide) unreturned reads

end Scalars

/-- What is written for a text is read back, and so is the text as a value. -/
theorem readsBack_text {content : Points} (readable : Readable content) :
    ReadsBack (.text content) (textLiteralOf content).toList where
  begins := ⟨'"', _, toList_textLiteralOf content, rfl, by decide, by decide⟩
  unreturned := by
    rw [toList_textLiteralOf, List.mem_cons, List.mem_append, List.mem_singleton, not_or, not_or]
    refine ⟨by decide, fun member => ?_, by decide⟩
    obtain ⟨point, _, inside⟩ := List.mem_flatMap.mp member
    exact not_mem_escaped point inside
  reads fuel rest enough _ := by
    obtain ⟨fuel, rfl⟩ := Nat.exists_eq_add_one_of_ne_zero (Nat.ne_zero_of_lt enough)
    rw [toList_textLiteralOf, List.cons_append, List.append_assoc, List.singleton_append, value,
      textLiteral_written readable]
    rfl

section Rules

variable {fuel : Nat} {c : Char} {item : Value} {found : List Value} {name : Points}
  {entries earlier : OrderedMap Points Value} {text rest after more left : List Char}

theorem value_of_items (inside : skipGap text = c :: rest) (unclosed : c ≠ ']')
    (read : items .data fuel (c :: rest) = .ok (found, left)) :
    value .data (fuel + 1) ('[' :: text) = .ok (.list found, left) := by
  rw [value, inside]
  split
  · rename_i same
    exact absurd (List.cons.inj same).1 unclosed
  · rw [read]
    rfl

theorem value_of_members (inside : skipGap text = c :: rest) (unclosed : c ≠ '\x7d')
    (read : members .data fuel [] (c :: rest) = .ok (entries, left)) :
    value .data (fuel + 1) ('\x7b' :: text) = .ok (.map entries, left) := by
  rw [value, inside]
  split
  · rename_i same
    exact absurd (List.cons.inj same).1 unclosed
  · rw [read]
    rfl

theorem items_of_last (first : value .data fuel text = .ok (item, rest))
    (ends : skipGap rest = ']' :: left) : items .data (fuel + 1) text = .ok ([item], left) := by
  rw [items, first]
  simp only [bind, Except.bind, ends]
  rfl

theorem items_of_more (first : value .data fuel text = .ok (item, rest))
    (goesOn : skipGap rest = ',' :: after)
    (others : items .data fuel (skipGap after) = .ok (found, left)) :
    items .data (fuel + 1) text = .ok (item :: found, left) := by
  rw [items, first]
  simp only [bind, Except.bind, goesOn, others]
  rfl

theorem members_of_last (named : textLiteral text = .ok (name, rest))
    (colon : skipGap rest = ':' :: after)
    (first : value .data fuel (skipGap after) = .ok (item, more))
    (ends : skipGap more = '\x7d' :: left) :
    members .data (fuel + 1) earlier ('"' :: text) =
      .ok (OrderedMap.put name item earlier, left) := by
  rw [members, named]
  simp only [bind, Except.bind, colon, first, ends]
  rfl

theorem members_of_more (named : textLiteral text = .ok (name, rest))
    (colon : skipGap rest = ':' :: after)
    (first : value .data fuel (skipGap after) = .ok (item, more))
    (goesOn : skipGap more = ',' :: left) :
    members .data (fuel + 1) earlier ('"' :: text) =
      members .data fuel (OrderedMap.put name item earlier) (skipGap left) := by
  rw [members, named]
  simp only [bind, Except.bind, colon, first, goesOn]

end Rules

section Items

variable {level fuel : Nat} {item : Value} {others : List Value} {rest : List Char}

theorem toList_indentedItems_singleton (level : Nat) (item : Value) :
    (indentedItems level [item]).toList =
      (newLine level).toList ++ (indented level item).toList := by
  rw [indentedItems, String.toList_append]

theorem toList_indentedItems_cons (level : Nat) (item : Value) (some : others ≠ []) :
    (indentedItems level (item :: others)).toList =
      (newLine level).toList ++ ((indented level item).toList ++
        ',' :: (indentedItems level others).toList) := by
  rw [indentedItems, String.toList_append, String.toList_append, String.toList_append,
    List.append_assoc, List.append_assoc]
  · rfl
  · exact some

/-- What ends a value in a list or a map does not go on with a numeral. -/
theorem parts_newLine (level : Nat) (rest : List Char) :
    Parts ((newLine level).toList ++ rest) := by
  rw [toList_newLine, List.cons_append]
  intro c first
  obtain rfl := Option.some.inj first
  decide

theorem parts_comma (rest : List Char) : Parts (',' :: rest) := by
  intro c first
  obtain rfl := Option.some.inj first
  decide

theorem unreturned_items {content : List Value}
    (back : ∀ item ∈ content, ReadsBack item (indented level item).toList) :
    '\r' ∉ (indentedItems level content).toList := by
  induction content with
  | nil => exact List.not_mem_nil
  | cons item others ih =>
    have this := (back item List.mem_cons_self).unreturned
    by_cases last : others = []
    · subst last
      rw [toList_indentedItems_singleton, List.mem_append, not_or]
      exact ⟨unreturned_newLine level, this⟩
    · have later := ih fun other member => back other (List.mem_cons_of_mem _ member)
      rw [toList_indentedItems_cons level item last, List.mem_append, List.mem_append,
        List.mem_cons, not_or, not_or, not_or]
      exact ⟨unreturned_newLine level, this, by decide, later⟩

/-- **The items of a list are read back** where the list ends on a new line. -/
theorem items_written (lower : Nat) {content : List Value} (some : content ≠ [])
    (back : ∀ item ∈ content, ReadsBack item (indented level item).toList)
    (enough : (indentedItems level content).toList.length < fuel) :
    items .data fuel (skipGap ((indentedItems level content).toList ++
      ((newLine lower).toList ++ ']' :: rest))) = .ok (content, rest) := by
  induction content generalizing fuel with
  | nil => exact absurd rfl some
  | cons item others ih =>
    obtain ⟨fuel, rfl⟩ := Nat.exists_eq_add_one_of_ne_zero (Nat.ne_zero_of_lt enough)
    have this := back item List.mem_cons_self
    by_cases last : others = []
    · subst last
      rw [toList_indentedItems_singleton, toList_newLine] at enough
      simp only [List.length_append, List.length_cons] at enough
      rw [toList_indentedItems_singleton, List.append_assoc, skipGap_newLine, this.skipGap_append]
      refine items_of_last (this.reads fuel _ (by omega) (parts_newLine lower _)) ?_
      rw [skipGap_newLine, skipGap_cons rfl]
    · rw [toList_indentedItems_cons level item last, toList_newLine] at enough
      simp only [List.length_append, List.length_cons] at enough
      rw [toList_indentedItems_cons level item last, List.append_assoc, skipGap_newLine,
        List.append_assoc, this.skipGap_append, List.cons_append]
      exact items_of_more (this.reads fuel _ (by omega) (parts_comma _)) (skipGap_cons rfl _)
        (ih last (fun other member => back other (List.mem_cons_of_mem _ member)) (by omega))

end Items

section Members

variable {level fuel : Nat} {item : Value} {others : OrderedMap Points Value}
  {rest : List Char}

/-- A member of a map as it is written, without the mark before its name. -/
def memberText (level : Nat) (name : Points) (item : Value) : List Char :=
  name.flatMap escaped ++ '"' :: ':' :: ' ' :: (indented level item).toList

theorem toList_indentedMembers_singleton (level : Nat) (name : Points) (item : Value) :
    (indentedMembers level [(name, item)]).toList =
      (newLine level).toList ++ '"' :: memberText level name item := by
  rw [indentedMembers]
  simp only [String.toList_append, toList_textLiteralOf, memberText, List.append_assoc,
    List.cons_append, List.nil_append]
  rfl

theorem toList_indentedMembers_cons (level : Nat) (name : Points) (item : Value)
    (some : others ≠ []) :
    (indentedMembers level ((name, item) :: others)).toList =
      (newLine level).toList ++ '"' :: (memberText level name item ++
        ',' :: (indentedMembers level others).toList) := by
  rw [indentedMembers]
  · simp only [String.toList_append, toList_textLiteralOf, memberText, List.append_assoc,
      List.cons_append, List.nil_append]
    rfl
  · exact some

/-- The name of a member is read back up to the colon. -/
theorem textLiteral_memberText (level : Nat) {name : Points} (readable : Readable name)
    (item : Value) (rest : List Char) :
    textLiteral (memberText level name item ++ rest) =
      .ok (name, ':' :: ' ' :: ((indented level item).toList ++ rest)) := by
  rw [memberText, List.append_assoc]
  exact textLiteral_written readable _

theorem unreturned_members {content : OrderedMap Points Value}
    (named : ∀ entry ∈ content, Readable entry.1)
    (back : ∀ entry ∈ content, ReadsBack entry.2 (indented level entry.2).toList) :
    '\r' ∉ (indentedMembers level content).toList := by
  induction content with
  | nil => exact List.not_mem_nil
  | cons entry others ih =>
    obtain ⟨name, item⟩ := entry
    have this := (back (name, item) List.mem_cons_self).unreturned
    have member : '\r' ∉ memberText level name item := by
      have literal := (readsBack_text (named (name, item) List.mem_cons_self)).unreturned
      rw [toList_textLiteralOf] at literal
      simp only [memberText, List.mem_cons, List.mem_append, not_or, List.not_mem_nil,
        Char.reduceEq, not_false_eq_true, true_and, and_true] at literal ⊢
      exact ⟨literal, this⟩
    by_cases last : others = []
    · subst last
      rw [toList_indentedMembers_singleton, List.mem_append, List.mem_cons, not_or, not_or]
      exact ⟨unreturned_newLine level, by decide, member⟩
    · have later := ih (fun other member => named other (List.mem_cons_of_mem _ member))
        fun other member => back other (List.mem_cons_of_mem _ member)
      rw [toList_indentedMembers_cons level name item last, List.mem_append, List.mem_cons,
        List.mem_append, List.mem_cons, not_or, not_or, not_or, not_or]
      exact ⟨unreturned_newLine level, by decide, member, by decide, later⟩

/-- **The members of a map are read back** after earlier ones, if all names are distinct. -/
theorem members_written (lower : Nat) {earlier content : OrderedMap Points Value}
    (some : content ≠ []) (named : ∀ entry ∈ content, Readable entry.1)
    (back : ∀ entry ∈ content, ReadsBack entry.2 (indented level entry.2).toList)
    (distinct : (OrderedMap.keys (earlier ++ content)).Nodup)
    (enough : (indentedMembers level content).toList.length < fuel) :
    members .data fuel earlier (skipGap ((indentedMembers level content).toList ++
      ((newLine lower).toList ++ '\x7d' :: rest))) = .ok (earlier ++ content, rest) := by
  induction content generalizing fuel earlier with
  | nil => exact absurd rfl some
  | cons entry others ih =>
    obtain ⟨name, item⟩ := entry
    obtain ⟨fuel, rfl⟩ := Nat.exists_eq_add_one_of_ne_zero (Nat.ne_zero_of_lt enough)
    have readable : Readable name := named (name, item) List.mem_cons_self
    have this : ReadsBack item (indented level item).toList := back (name, item) List.mem_cons_self
    have together : earlier ++ (name, item) :: others = earlier ++ [(name, item)] ++ others :=
      (List.append_assoc earlier [(name, item)] others).symm
    -- The reader puts the member over the earlier ones, which comes to the same for a new name.
    have put_eq : OrderedMap.put name item earlier = earlier ++ [(name, item)] := by
      refine OrderedMap.put_of_not_mem (fun member => ?_) item
      unfold OrderedMap.keys at distinct member
      rw [List.map_append, List.map_cons] at distinct
      exact (List.nodup_append.mp distinct).2.2 name member name List.mem_cons_self rfl
    have skipped (rest : List Char) : skipGap (' ' :: ((indented level item).toList ++ rest)) =
        (indented level item).toList ++ rest := this.skipGap_append rest
    by_cases last : others = []
    · subst last
      rw [toList_indentedMembers_singleton, toList_newLine, memberText] at enough
      simp only [List.length_append, List.length_cons] at enough
      rw [toList_indentedMembers_singleton, List.append_assoc, skipGap_newLine, List.cons_append,
        skipGap_cons rfl, ← put_eq]
      refine members_of_last (textLiteral_memberText level readable item _) (skipGap_cons rfl _)
        (skipped _ ▸ this.reads fuel _ (by omega) (parts_newLine lower _)) ?_
      rw [skipGap_newLine, skipGap_cons rfl]
    · rw [toList_indentedMembers_cons level name item last, toList_newLine, memberText] at enough
      simp only [List.length_append, List.length_cons] at enough
      rw [toList_indentedMembers_cons level name item last, List.append_assoc, skipGap_newLine,
        List.cons_append, skipGap_cons rfl, List.append_assoc, List.cons_append,
        members_of_more (textLiteral_memberText level readable item _) (skipGap_cons rfl _)
          (skipped _ ▸ this.reads fuel _ (by omega) (parts_comma _)) (skipGap_cons rfl _),
        put_eq, together]
      rw [together] at distinct
      exact ih last (fun other member => named other (List.mem_cons_of_mem _ member))
        (fun other member => back other (List.mem_cons_of_mem _ member)) distinct (by omega)

end Members

/-- A new line in a list or a map begins with an item or a name. -/
theorem skipGap_indentedItems {level : Nat} {item : Value} {others : List Value}
    (back : ReadsBack item (indented level item).toList) (rest : List Char) :
    ∃ c more, c ≠ ']' ∧
      skipGap ((indentedItems level (item :: others)).toList ++ rest) = c :: more := by
  obtain ⟨c, more, written, solid, other, _⟩ := back.begins
  by_cases last : others = []
  · subst last
    rw [toList_indentedItems_singleton, List.append_assoc, skipGap_newLine, written]
    exact ⟨c, _, other, skipGap_cons solid _⟩
  · rw [toList_indentedItems_cons level item last, List.append_assoc, skipGap_newLine, written]
    exact ⟨c, _, other, skipGap_cons solid _⟩

theorem skipGap_indentedMembers (level : Nat) (entry : Points × Value)
    (others : OrderedMap Points Value) (rest : List Char) :
    ∃ more, skipGap ((indentedMembers level (entry :: others)).toList ++ rest) = '"' :: more := by
  obtain ⟨name, item⟩ := entry
  by_cases last : others = []
  · subst last
    rw [toList_indentedMembers_singleton, List.append_assoc, skipGap_newLine]
    exact ⟨_, skipGap_cons rfl _⟩
  · rw [toList_indentedMembers_cons level name item last, List.append_assoc, skipGap_newLine]
    exact ⟨_, skipGap_cons rfl _⟩

/-- What stands between brackets on lines of its own is read back if the reader finds it there. -/
theorem readsBack_enclosed {content : Value} {opening closing : Char} {inside : List Char}
    (level : Nat) (opens : opening = '[' ∨ opening = '\x7b')
    (closes : closing = ']' ∨ closing = '\x7d') (unreturned : '\r' ∉ inside)
    (reads : ∀ fuel rest, inside.length < fuel → value .data (fuel + 1)
      (opening :: (inside ++ ((newLine level).toList ++ closing :: rest))) = .ok (content, rest)) :
    ReadsBack content (opening :: (inside ++ ((newLine level).toList ++ [closing]))) where
  begins := by
    refine ⟨opening, _, rfl, ?_⟩
    rcases opens with rfl | rfl
    · decide
    · decide
  unreturned := by
    have other : '\r' ≠ opening ∧ '\r' ≠ closing := by
      constructor
      · rcases opens with rfl | rfl <;> decide
      · rcases closes with rfl | rfl <;> decide
    rw [List.mem_cons, List.mem_append, List.mem_append, List.mem_singleton, not_or, not_or, not_or]
    exact ⟨other.1, unreturned, unreturned_newLine level, other.2⟩
  reads fuel rest enough _ := by
    obtain ⟨fuel, rfl⟩ := Nat.exists_eq_add_one_of_ne_zero (Nat.ne_zero_of_lt enough)
    simp only [List.length_append, List.length_cons] at enough
    rw [List.cons_append, List.append_assoc, List.append_assoc, List.singleton_append]
    exact reads fuel rest (by omega)

theorem readsBack_list {content : List Value}
    (back : ∀ level, ∀ item ∈ content, ReadsBack item (indented level item).toList) (level : Nat) :
    ReadsBack (.list content) (indented level (.list content)).toList := by
  cases content with
  | nil =>
    have written : (indented level (.list [])).toList = ['[', ']'] := by
      rw [indented]
      rfl
    rw [written]
    refine ⟨⟨'[', _, rfl, rfl, by decide, by decide⟩, by decide, fun fuel rest enough _ => ?_⟩
    obtain ⟨fuel, rfl⟩ := Nat.exists_eq_add_one_of_ne_zero (Nat.ne_zero_of_lt enough)
    rfl
  | cons item others =>
    have written : (indented level (.list (item :: others))).toList =
        '[' :: ((indentedItems (level + 1) (item :: others)).toList ++
          ((newLine level).toList ++ [']'])) := by
      rw [indented]
      · simp only [String.toList_append, List.append_assoc]
        rfl
      · exact List.cons_ne_nil _ _
    rw [written]
    refine readsBack_enclosed level (.inl rfl) (.inl rfl) (unreturned_items (back _)) ?_
    intro fuel rest enough
    obtain ⟨c, more, unclosed, first⟩ := skipGap_indentedItems
      (back (level + 1) item List.mem_cons_self) ((newLine level).toList ++ ']' :: rest)
    refine value_of_items first unclosed ?_
    rw [← first]
    exact items_written level (List.cons_ne_nil _ _) (back (level + 1)) enough

theorem readsBack_map {content : OrderedMap Points Value}
    (distinct : (OrderedMap.keys content).Nodup) (named : ∀ entry ∈ content, Readable entry.1)
    (back : ∀ level, ∀ entry ∈ content, ReadsBack entry.2 (indented level entry.2).toList)
    (level : Nat) : ReadsBack (.map content) (indented level (.map content)).toList := by
  cases content with
  | nil =>
    have written : (indented level (.map [])).toList = ['\x7b', '\x7d'] := by
      rw [indented]
      rfl
    rw [written]
    refine ⟨⟨'\x7b', _, rfl, rfl, by decide, by decide⟩, by decide, fun fuel rest enough _ => ?_⟩
    obtain ⟨fuel, rfl⟩ := Nat.exists_eq_add_one_of_ne_zero (Nat.ne_zero_of_lt enough)
    rfl
  | cons entry others =>
    have written : (indented level (.map (entry :: others))).toList =
        '\x7b' :: ((indentedMembers (level + 1) (entry :: others)).toList ++
          ((newLine level).toList ++ ['\x7d'])) := by
      rw [indented]
      · simp only [String.toList_append, List.append_assoc]
        rfl
      · exact List.cons_ne_nil _ _
    rw [written]
    refine readsBack_enclosed level (.inr rfl) (.inr rfl) (unreturned_members named (back _)) ?_
    intro fuel rest enough
    obtain ⟨more, first⟩ := skipGap_indentedMembers (level + 1) entry others
      ((newLine level).toList ++ '\x7d' :: rest)
    refine value_of_members first (by decide) ?_
    rw [← first]
    exact members_written level (List.cons_ne_nil _ _) named (back (level + 1)) distinct enough

/-- **Plain values are read back** from what is written for them, at every level. -/
theorem Plain.readsBack {content : Value} (plain : Plain content) (level : Nat) :
    ReadsBack content (indented level content).toList := by
  induction plain generalizing level with
  | null => exact readsBack_null
  | bool content => exact readsBack_bool content
  | int short => exact readsBack_int short
  | text readable => exact readsBack_text readable
  | list _ back => exact readsBack_list (fun level item member => back item member level) level
  | map distinct named _ back =>
    exact readsBack_map distinct named (fun level entry member => back entry member level) level

/-- **A document is read up to its end**; nothing but gaps may stand behind it. -/
theorem read_indented_append {content : Value} (plain : Plain content) {rest : List Char}
    (parts : Parts rest) :
    read ((indented 0 content).toList ++ rest) =
      match skipGap rest with
      | [] => .ok content
      | behind => .error ⟨.extraData, behind.length⟩ := by
  have back := plain.readsBack 0
  have unmarked : ¬((indented 0 content).toList ++ rest).head? = some '\ufeff' := by
    obtain ⟨c, others, written, _, _, other⟩ := back.begins
    rw [written]
    exact fun same => other (Option.some.inj same)
  have found := back.reads (((indented 0 content).toList ++ rest).length + 1) rest
    (by rw [List.length_append]; omega) parts
  unfold read readAs
  rw [if_neg unmarked, back.skipGap_append rest]
  change (value .data _ _ >>= _) = _
  rw [found]
  change (match skipGap rest with | [] => _ | behind => _) = _
  cases skipGap rest with
  | nil => rfl
  | cons c others => rfl

/-- **A document is read back**: the text that is written for a plain value holds that value. -/
theorem read_indented {content : Value} (plain : Plain content) :
    read (indented 0 content).toList = .ok content := by
  have alone : read ((indented 0 content).toList ++ []) = .ok content :=
    read_indented_append plain nofun
  rwa [List.append_nil] at alone

end CatalogDelta.Json
