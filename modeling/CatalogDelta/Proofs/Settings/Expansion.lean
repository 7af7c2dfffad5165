import CatalogDelta.Proofs.OrderedMap
import CatalogDelta.Proofs.Settings.References
import Mathlib.Data.List.Basic
import Mathlib.Data.List.Forall2
import Mathlib.Logic.ExistsUnique

/-!
# Values with references

Expansion goes once through a value. It keeps lists and maps as they are, and it changes a text piece
by piece: a reference to a variable that is set gives way to what the variable holds, which is not
looked into again. So nothing but the variables that a value refers to matters. Main statement:
`expand_single_pass`.
-/

namespace CatalogDelta

namespace Data

/-- The value is neither a text nor made of other values. -/
def IsSingle : Data → Prop
  | text _ | list _ | map _ => False
  | _ => True

/-- What holds of single values and of texts, and of lists and maps whenever it holds of what is in
them, holds of every value. -/
theorem holds_of_inside {holds : Data → Prop} (single : ∀ value, IsSingle value → holds value)
    (texts : ∀ content, holds (text content))
    (lists : ∀ items, (∀ item ∈ items, holds item) → holds (list items))
    (maps : ∀ entries : List (String × Data), (∀ entry ∈ entries, holds entry.2) →
      holds (map entries)) (value : Data) : holds value :=
  @Data.rec holds (fun items => ∀ item ∈ items, holds item)
    (fun entries => ∀ entry ∈ entries, holds entry.2) (fun entry => holds entry.2)
    (single _ trivial) (fun _ => single _ trivial) (fun _ => single _ trivial)
    (fun _ => single _ trivial) texts lists maps (fun _ => single _ trivial)
    (fun _ => single _ trivial) (fun _ member => absurd member List.not_mem_nil)
    (fun _ _ first others => List.forall_mem_cons.mpr ⟨first, others⟩)
    (fun _ member => absurd member List.not_mem_nil)
    (fun _ _ first others => List.forall_mem_cons.mpr ⟨first, others⟩) (fun _ _ second => second)
    value

end Data

namespace Environment

variable {environment other : Environment} {value result : Data}

/-! ## What expansion gives -/

/-- What becomes of a piece: a reference to a variable that is set becomes its value, and everything
else stays as it is written. -/
inductive Becomes (environment : Environment) : Piece → List Char → Prop
  | plain (c : Char) : Becomes environment (.plain c) [c]
  | set {written name : List Char} {value : String}
    (found : OrderedMap.get? (String.ofList name) environment = some value) :
    Becomes environment (.reference written name) value.toList
  | unset {written name : List Char}
    (missing : OrderedMap.get? (String.ofList name) environment = none) :
    Becomes environment (.reference written name) written

/-- What becomes of a value. -/
inductive Expands (environment : Environment) : Data → Data → Prop
  | single {value : Data} (single : value.IsSingle) : Expands environment value value
  | text {content : String} {pieces : List Piece} {parts : List (List Char)}
    (divides : Divides content.toList pieces)
    (becomes : List.Forall₂ (Becomes environment) pieces parts) :
    Expands environment (.text content) (.text (String.ofList parts.flatten))
  | list {items results : List Data} (length_eq : items.length = results.length)
    (each : ∀ pair ∈ items.zip results, Expands environment pair.1 pair.2) :
    Expands environment (.list items) (.list results)
  | map {entries results : List (String × Data)}
    (keys_eq : OrderedMap.keys entries = OrderedMap.keys results)
    (each : ∀ pair ∈ entries.zip results, Expands environment pair.1.2 pair.2.2) :
    Expands environment (.map entries) (.map results)

theorem becomes_iff {piece : Piece} {part : List Char} :
    Becomes environment piece part ↔ pieceText environment piece = part := by
  constructor
  · intro becomes
    cases becomes with
    | plain c => rfl
    | set found => rw [pieceText, found]
    | unset missing => rw [pieceText, missing]
  · rintro rfl
    cases piece with
    | plain c => exact .plain c
    | reference written name =>
      rw [pieceText]
      cases found : OrderedMap.get? (String.ofList name) environment with
      | none => exact .unset found
      | some value => exact .set found

theorem forall₂_becomes_iff {pieces : List Piece} {parts : List (List Char)} :
    List.Forall₂ (Becomes environment) pieces parts ↔
      pieces.map (pieceText environment) = parts := by
  have same : Becomes environment = fun piece part => pieceText environment piece = part :=
    funext₂ fun _ _ => propext becomes_iff
  rw [← List.forall₂_eq_eq_eq, List.forall₂_map_left_iff, same]

theorem expandItems_eq (items : List Data) :
    expandItems environment items = items.map (expand environment) := by
  induction items with
  | nil => rfl
  | cons item others ih => rw [expandItems, ih, List.map_cons]

theorem expandEntries_eq (entries : List (String × Data)) :
    expandEntries environment entries =
      entries.map fun entry => (entry.1, expand environment entry.2) := by
  induction entries with
  | nil => rfl
  | cons entry others ih => rw [expandEntries, ih, List.map_cons]

theorem expand_single (single : value.IsSingle) : expand environment value = value := by
  cases value with
  | text content => exact single.elim
  | list items => exact single.elim
  | map entries => exact single.elim
  | _ => rfl

/-- What is beside an item among the results is its own result. -/
theorem of_mem_zip_map {α β : Type} {items : List α} {f : α → β} {pair : α × β}
    (member : pair ∈ items.zip (items.map f)) : pair.1 ∈ items ∧ f pair.1 = pair.2 := by
  rw [← List.map_prod_left_eq_zip] at member
  obtain ⟨item, inside, rfl⟩ := List.mem_map.mp member
  exact ⟨inside, rfl⟩

theorem map_eq_of_zip {α β : Type} {items : List α} {results : List β} {f : α → β}
    (length_eq : items.length = results.length)
    (each : ∀ pair ∈ items.zip results, f pair.1 = pair.2) : items.map f = results := by
  rw [← List.forall₂_eq_eq_eq, List.forall₂_map_left_iff, List.forall₂_iff_zip]
  exact ⟨length_eq, fun {item result} member => each (item, result) member⟩

/-- **Expansion gives the one value that the rules allow.** -/
theorem expands_iff : Expands environment value result ↔ expand environment value = result := by
  constructor
  · intro expands
    induction expands with
    | single single => exact expand_single single
    | text divides becomes =>
      rw [expand, expandText, divides_iff.mp divides, ← forall₂_becomes_iff.mp becomes,
        List.flatMap_def]
    | list length_eq each ih => rw [expand, expandItems_eq, map_eq_of_zip length_eq ih]
    | @map entries results keys_eq each ih =>
      have length_eq : entries.length = results.length := by
        have lengths := congrArg List.length keys_eq
        rwa [OrderedMap.keys, OrderedMap.keys, List.length_map, List.length_map] at lengths
      have names : ∀ pair ∈ entries.zip results, pair.1.1 = pair.2.1 := by
        rw [OrderedMap.keys, OrderedMap.keys, ← List.forall₂_eq_eq_eq, List.forall₂_map_left_iff,
          List.forall₂_map_right_iff, List.forall₂_iff_zip] at keys_eq
        exact fun pair member => keys_eq.2 member
      rw [expand, expandEntries_eq, map_eq_of_zip length_eq fun pair member =>
        Prod.ext (names pair member) (ih pair member)]
  · rintro rfl
    induction value using Data.holds_of_inside with
    | single value single =>
      rw [expand_single single]
      exact .single single
    | texts content =>
      rw [expand, expandText, List.flatMap_def]
      exact .text (divides_divide _) (forall₂_becomes_iff.mpr rfl)
    | lists items each =>
      rw [expand, expandItems_eq]
      refine .list (List.length_map _).symm fun pair member => ?_
      obtain ⟨inside, same⟩ := of_mem_zip_map member
      exact same ▸ each pair.1 inside
    | maps entries each =>
      rw [expand, expandEntries_eq]
      refine .map ?_ fun pair member => ?_
      · rw [OrderedMap.keys, OrderedMap.keys, List.map_map]
        rfl
      · obtain ⟨inside, same⟩ := of_mem_zip_map member
        exact same ▸ each pair.1 inside

/-! ## What expansion depends on -/

/-- Some text in the value refers to the variable of a name. -/
inductive RefersTo (name : List Char) : Data → Prop
  | text {content : String} {pieces : List Piece} {written : List Char}
    (divides : Divides content.toList pieces) (member : .reference written name ∈ pieces) :
    RefersTo name (.text content)
  | list {items : List Data} {item : Data} (member : item ∈ items) (inside : RefersTo name item) :
    RefersTo name (.list items)
  | map {entries : List (String × Data)} {entry : String × Data} (member : entry ∈ entries)
    (inside : RefersTo name entry.2) : RefersTo name (.map entries)

/-- Only the variables that a value refers to matter. -/
theorem expand_congr (same : ∀ name, RefersTo name value →
      OrderedMap.get? (String.ofList name) environment =
        OrderedMap.get? (String.ofList name) other) :
    expand environment value = expand other value := by
  induction value using Data.holds_of_inside with
  | single value single => rw [expand_single single, expand_single single]
  | texts content =>
    rw [expand, expand, expandText, expandText]
    refine congrArg (Data.text ∘ String.ofList) (List.flatMap_congr ?_)
    intro piece member
    cases piece with
    | plain c => rfl
    | reference written name =>
      rw [pieceText, pieceText, same name (.text (divides_divide _) member)]
  | lists items each =>
    rw [expand, expand, expandItems_eq, expandItems_eq]
    refine congrArg Data.list (List.map_congr_left fun item member => ?_)
    exact each item member fun name inside => same name (.list member inside)
  | maps entries each =>
    rw [expand, expand, expandEntries_eq, expandEntries_eq]
    refine congrArg Data.map (List.map_congr_left fun entry member => ?_)
    exact congrArg (Prod.mk entry.1)
      (each entry member fun name inside => same name (.map member inside))

/-- Nothing is changed where no variable is set. -/
theorem expand_nil (value : Data) : expand [] value = value := by
  induction value using Data.holds_of_inside with
  | single value single => exact expand_single single
  | texts content =>
    have asWritten : pieceText [] = Piece.written := by
      funext piece
      cases piece <;> rfl
    rw [expand, expandText, asWritten, (divides_divide _).flatMap_written, String.ofList_toList]
  | lists items each =>
    rw [expand, expandItems_eq, List.map_congr_left each, List.map_id']
  | maps entries each =>
    have kept : ∀ entry ∈ entries, (entry.1, expand [] entry.2) = entry :=
      fun entry member => Prod.ext rfl (each entry member)
    rw [expand, expandEntries_eq, List.map_congr_left kept, List.map_id']

/-- **Expansion is a single pass.** Every text has one division into references and other characters,
which writes the text. What expansion gives is the one value that has the shape, the keys and the
single values of the given one, and in each text the value of a variable for each reference to one
that is set. Where no variable is set nothing changes, and variables that are not referred to do not
matter. -/
theorem expand_single_pass (environment : Environment) (value : Data) :
    (∀ text : List Char, ∃! pieces, Divides text pieces ∧ pieces.flatMap Piece.written = text) ∧
    (∀ result, Expands environment value result ↔ expand environment value = result) ∧
    expand [] value = value ∧
    ∀ other : Environment,
      (∀ name, RefersTo name value → OrderedMap.get? (String.ofList name) environment =
        OrderedMap.get? (String.ofList name) other) →
      expand environment value = expand other value := by
  refine ⟨fun text => ?_, fun result => expands_iff, expand_nil value,
    fun other same => expand_congr same⟩
  have divides := divides_divide text
  refine ⟨divide text, ⟨divides, divides.flatMap_written⟩, fun pieces found => ?_⟩
  exact (divides_iff.mp found.1).symm

/-- A variable whose value looks like a reference. -/
def looping : Environment := [("LOOP", "$HOME"), ("HOME", "/root")]

/-- A value that refers to one variable. -/
def loopingValue : Data := .map [("path", .list [.text "$LOOP", .int 3])]

/-- The value of the variable is not looked into, and the variable that it names does not matter. -/
theorem looping_expanded :
    expand looping loopingValue = .map [("path", .list [.text "$HOME", .int 3])] ∧
      expand looping loopingValue = expand [("LOOP", "$HOME")] loopingValue := by
  obtain ⟨-, result, -, depends⟩ := expand_single_pass looping loopingValue
  have begins : Begins "$LOOP".toList "$LOOP".toList "LOOP".toList [] :=
    @Begins.plain 'L' ['O', 'O', 'P'] [] rfl (List.all_eq_true.mp rfl) nofun
  have divides : Divides "$LOOP".toList [.reference "$LOOP".toList "LOOP".toList] :=
    .reference begins .nil
  refine ⟨(result _).mp (.map rfl ?_), depends _ fun name refers => ?_⟩
  · rw [List.zip_cons_cons, List.zip_nil_left]
    refine List.forall_mem_singleton.mpr (.list rfl ?_)
    rw [List.zip_cons_cons, List.zip_cons_cons, List.zip_nil_left, List.forall_mem_cons,
      List.forall_mem_singleton]
    have held : Expands looping (.text "$LOOP") (.text (String.ofList ["$HOME".toList].flatten)) :=
      .text divides (.cons (.set (by decide)) .nil)
    rw [List.flatten_singleton, String.ofList_toList] at held
    exact ⟨held, .single trivial⟩
  · have named : name = "LOOP".toList := by
      cases refers with
      | map member inside =>
        obtain rfl := List.mem_singleton.mp member
        cases inside with
        | list member inside =>
          rcases List.mem_pair.mp member with rfl | rfl
          · cases inside with
            | text found member =>
              obtain rfl := (divides_iff.mp divides).symm.trans (divides_iff.mp found)
              exact (Piece.reference.inj (List.mem_singleton.mp member)).2
          · cases inside
    subst named
    rfl

end Environment
end CatalogDelta
