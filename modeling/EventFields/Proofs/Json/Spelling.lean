import EventFields.Proofs.Json.Reading
import EventFields.Proofs.Json.Scanning

/-!
# Texts of values without numbers

Both written forms of a value, the one without blanks and the one spread over lines,
have the same tokens, and from these tokens the value is read back unless its arrays
and objects are nested too deep.  This is shown for values without numbers, which
are all that a catalog or a type is written as.
-/

namespace EventFields.Json

/-! ## Tokens of a value -/

/-- Lists of tokens with a comma between each two of them. -/
def Token.joined : List (List Token) → List Token
  | [] => []
  | [only] => only
  | first :: next :: rest => first ++ .comma :: joined (next :: rest)

mutual

/-- The tokens of a value. -/
def tokens : Json → List Token
  | null => [.null]
  | bool value => [.bool value]
  | int value => [.int value]
  | float bits => [.float bits]
  | str text => [.str text]
  | arr elements => [.openBracket] ++ Token.joined (elementTokens elements) ++ [.closeBracket]
  | obj members => [.openBrace] ++ Token.joined (memberTokens members) ++ [.closeBrace]

/-- The tokens of each element of an array. -/
def elementTokens : List Json → List (List Token)
  | [] => []
  | element :: rest => element.tokens :: elementTokens rest

/-- The tokens of each member of an object. -/
def memberTokens : List (String × Json) → List (List Token)
  | [] => []
  | (key, value) :: rest => ([.str key] ++ [.colon] ++ value.tokens) :: memberTokens rest

end

mutual

/-- Whether there are no numbers in a value. -/
def isNumberless : Json → Bool
  | int _ | float _ => false
  | arr elements => elementsNumberless elements
  | obj members => membersNumberless members
  | _ => true

/-- Whether there are no numbers in elements. -/
def elementsNumberless : List Json → Bool
  | [] => true
  | element :: rest => element.isNumberless && elementsNumberless rest

/-- Whether there are no numbers in members. -/
def membersNumberless : List (String × Json) → Bool
  | [] => true
  | (_, value) :: rest => value.isNumberless && membersNumberless rest

end

mutual

/-- How deep arrays and objects are nested in a value. -/
def depth : Json → Nat
  | arr elements => elementsDepth elements + 1
  | obj members => membersDepth members + 1
  | _ => 0

/-- How deep elements are nested. -/
def elementsDepth : List Json → Nat
  | [] => 0
  | element :: rest => max element.depth (elementsDepth rest)

/-- How deep members are nested. -/
def membersDepth : List (String × Json) → Nat
  | [] => 0
  | (_, value) :: rest => max value.depth (membersDepth rest)

end

theorem elementsNumberless_iff {elements : List Json} :
    elementsNumberless elements = true ↔ ∀ element ∈ elements, element.isNumberless = true := by
  induction elements with
  | nil => simp [elementsNumberless]
  | cons element rest ih => simp [elementsNumberless, ih]

theorem membersNumberless_iff {members : List (String × Json)} :
    membersNumberless members = true ↔ ∀ member ∈ members, member.2.isNumberless = true := by
  induction members with
  | nil => simp [membersNumberless]
  | cons member rest ih => simp [membersNumberless, ih]

theorem elementsDepth_le_iff {elements : List Json} {bound : Nat} :
    elementsDepth elements ≤ bound ↔ ∀ element ∈ elements, element.depth ≤ bound := by
  induction elements with
  | nil => simp [elementsDepth]
  | cons element rest ih => rw [elementsDepth, Nat.max_le, ih, List.forall_mem_cons]

theorem membersDepth_le_iff {members : List (String × Json)} {bound : Nat} :
    membersDepth members ≤ bound ↔ ∀ member ∈ members, member.2.depth ≤ bound := by
  induction members with
  | nil => simp [membersDepth]
  | cons member rest ih => rw [membersDepth, Nat.max_le, ih, List.forall_mem_cons]

/-! ## Scanning both forms -/

open Token (Scans)

theorem scans_joined {separator : String} (separates : Scans separator [.comma])
    {items : List String} {tokens : List (List Token)}
    (scans : List.Forall₂ Scans items tokens) :
    Scans (Text.joined separator items) (Token.joined tokens) := by
  induction scans with
  | nil => exact .empty
  | cons scansFirst scansRest ih =>
      cases scansRest with
      | nil => exact scansFirst
      | cons _ _ =>
          rw [Text.joined, Token.joined, List.append_cons]
          exact (scansFirst.append separates).append ih

theorem scans_lineBreak (level : Nat) : Scans (lineBreak level) [] := by
  apply Token.scans_blanks
  simp [lineBreak, Token.isSpace]

/-- Items between brackets, spread over lines. -/
theorem scans_spread (level : Nat) {opening closing : String} {openingToken closingToken : Token}
    (opens : Scans opening [openingToken]) (closes : Scans closing [closingToken])
    {items : List String} {tokens : List (List Token)}
    (scans : List.Forall₂ Scans items tokens) :
    Scans (spread level opening closing items)
      ([openingToken] ++ Token.joined tokens ++ [closingToken]) := by
  have separates : Scans ("," ++ lineBreak (level + 1)) [.comma] :=
    Token.scans_comma.append (scans_lineBreak (level + 1))
  have joined := scans_joined separates scans
  cases scans with
  | nil => exact opens.append closes
  | cons _ _ =>
      have broken := opens.append (scans_lineBreak (level + 1))
      have closed := ((broken.append joined).append (scans_lineBreak level)).append closes
      rw [List.append_nil, List.append_nil] at closed
      exact closed

mutual

theorem scans_compact : (value : Json) → value.isNumberless = true →
    Scans value.compact value.tokens
  | null, _ => Token.scans_null
  | bool true, _ => Token.scans_true
  | bool false, _ => Token.scans_false
  | str text, _ => Token.scans_writtenString text
  | arr elements, numberless =>
      have joined := scans_joined Token.scans_comma (scans_compactElements elements numberless)
      (Token.scans_openBracket.append joined).append Token.scans_closeBracket
  | obj members, numberless =>
      have joined := scans_joined Token.scans_comma (scans_compactMembers members numberless)
      (Token.scans_openBrace.append joined).append Token.scans_closeBrace

theorem scans_compactElements : (elements : List Json) → elementsNumberless elements = true →
    List.Forall₂ Scans (compactElements elements) (elementTokens elements)
  | [], _ => .nil
  | element :: rest, numberless => by
      obtain ⟨first, others⟩ := Bool.and_eq_true_iff.1 numberless
      exact .cons (scans_compact element first) (scans_compactElements rest others)

theorem scans_compactMembers : (members : List (String × Json)) →
    membersNumberless members = true →
    List.Forall₂ Scans (compactMembers members) (memberTokens members)
  | [], _ => .nil
  | (key, value) :: rest, numberless => by
      obtain ⟨first, others⟩ := Bool.and_eq_true_iff.1 numberless
      have keyed := (Token.scans_writtenString key).append Token.scans_colon
      exact .cons (keyed.append (scans_compact value first)) (scans_compactMembers rest others)

end

mutual

theorem scans_prettyAt : (level : Nat) → (value : Json) → value.isNumberless = true →
    Scans (value.prettyAt level) value.tokens
  | level, null, _ => by
      rw [prettyAt]
      exact Token.scans_null
  | level, bool true, _ => by
      rw [prettyAt]
      exact Token.scans_true
  | level, bool false, _ => by
      rw [prettyAt]
      exact Token.scans_false
  | level, str text, _ => by
      rw [prettyAt]
      exact Token.scans_writtenString text
  | level, arr elements, numberless => by
      rw [prettyAt]
      exact scans_spread level Token.scans_openBracket Token.scans_closeBracket
        (scans_prettyElements (level + 1) elements numberless)
  | level, obj members, numberless => by
      rw [prettyAt]
      exact scans_spread level Token.scans_openBrace Token.scans_closeBrace
        (scans_prettyMembers (level + 1) members numberless)

theorem scans_prettyElements : (level : Nat) → (elements : List Json) →
    elementsNumberless elements = true →
    List.Forall₂ Scans (prettyElements level elements) (elementTokens elements)
  | _, [], _ => .nil
  | level, element :: rest, numberless => by
      obtain ⟨first, others⟩ := Bool.and_eq_true_iff.1 numberless
      exact .cons (scans_prettyAt level element first) (scans_prettyElements level rest others)

theorem scans_prettyMembers : (level : Nat) → (members : List (String × Json)) →
    membersNumberless members = true →
    List.Forall₂ Scans (prettyMembers level members) (memberTokens members)
  | _, [], _ => .nil
  | level, (key, value) :: rest, numberless => by
      obtain ⟨first, others⟩ := Bool.and_eq_true_iff.1 numberless
      have colon : Scans ": " [.colon] :=
        Token.scans_colon.append (show Scans " " [] from Token.scans_blanks (List.all_eq_true.1 rfl))
      have keyed := (Token.scans_writtenString key).append colon
      exact .cons (keyed.append (scans_prettyAt level value first))
        (scans_prettyMembers level rest others)

end

/-! ## Drafts from tokens -/

open Draft (Holds HoldsMember Frame Phase)

/-- Where a value may stand, the tokens are read as the draft, unless they are nested
too deep. -/
def Supplies (tokens : List Token) (depth : Nat) (draft : Draft) : Prop :=
  ∀ (outer : List Frame) (phase : Phase), outer.length + depth < Draft.depthLimit →
    phase = .value ∨ phase = .firstElement →
    tokens.foldl Draft.step (.reading outer phase) = Draft.supply draft outer

theorem supplies_token {token : Token} {draft : Draft} (solid : token ≠ .closeBracket)
    (read : ∀ outer, Draft.stepValue outer token = Draft.supply draft outer) :
    Supplies [token] 0 draft := by
  rintro outer phase - (rfl | rfl)
  · exact read outer
  · rw [List.foldl_cons, List.foldl_nil, Draft.step, if_neg solid, read]

section Items

variable {δ : Type} {frame : List δ → Frame} {outer : List Frame} {first again : Phase}

/-- Where an item of an array or object may stand, the tokens are read as the item. -/
def AddsItem (frame : List δ → Frame) (outer : List Frame) (first again : Phase)
    (tokens : List Token) (item : δ) : Prop :=
  ∀ reversed phase, phase = first ∨ phase = again →
    tokens.foldl Draft.step (.reading (frame reversed :: outer) phase) =
      .reading (frame (item :: reversed) :: outer) .next

/-- Items with commas between them are read one after the other, up to the bracket
that closes them. -/
theorem foldl_joined (closing : Token) {tokens : List (List Token)} {items : List δ}
    (adds : List.Forall₂ (AddsItem frame outer first again) tokens items)
    (comma : ∀ reversed, Draft.step (.reading (frame reversed :: outer) .next) .comma =
      .reading (frame reversed :: outer) again)
    (closes : ∀ reversed, Draft.step (.reading (frame reversed :: outer) .next) closing =
      Draft.close (frame reversed :: outer))
    (reversed : List δ) {phase : Phase} (place : phase = first ∨ phase = again)
    (empty : items = [] → Draft.step (.reading (frame reversed :: outer) phase) closing =
      Draft.close (frame reversed :: outer)) :
    (Token.joined tokens ++ [closing]).foldl Draft.step (.reading (frame reversed :: outer) phase) =
      Draft.close (frame (items.reverse ++ reversed) :: outer) := by
  induction adds generalizing reversed phase with
  | nil => exact empty rfl
  | @cons itemTokens item _ _ addsFirst addsRest ih =>
      have following := addsFirst reversed phase place
      cases addsRest with
      | nil =>
          rw [Token.joined, List.foldl_append, following, List.foldl_cons, closes]
          rfl
      | cons _ _ =>
          have rest := ih (item :: reversed) (.inr rfl) nofun
          rw [Token.joined, List.append_assoc, List.foldl_append, following, List.cons_append,
            List.foldl_cons, comma, rest]
          simp

end Items

mutual

/-- The tokens of a value are read as a draft that holds it. -/
theorem exists_supplies : (value : Json) →
    ∃ draft, draft.Holds value ∧ Supplies value.tokens value.depth draft
  | null => ⟨.null, rfl, supplies_token nofun fun _ => rfl⟩
  | bool value => ⟨.bool value, rfl, supplies_token nofun fun _ => rfl⟩
  | int value => ⟨.int value, rfl, supplies_token nofun fun _ => rfl⟩
  | float bits => ⟨.float bits, rfl, supplies_token nofun fun _ => rfl⟩
  | str text => ⟨.str text, rfl, supplies_token nofun fun _ => rfl⟩
  | arr elements => by
      obtain ⟨drafts, held, adds⟩ := exists_addsItem_elements elements
      refine ⟨.arr drafts .closed, Draft.holds_arr_iff.2 ⟨_, _, rfl, rfl, held⟩, ?_⟩
      intro outer phase fits place
      rw [depth] at fits
      have opened : Draft.step (.reading outer phase) .openBracket =
          .reading (.array [] :: outer) .firstElement := by
        rcases place with rfl | rfl <;> rfl
      have closed := foldl_joined .closeBracket (adds outer (by omega)) (fun _ => rfl) (fun _ => rfl)
        [] (.inl rfl) (fun _ => rfl)
      rw [tokens, List.append_assoc, List.singleton_append, List.foldl_cons, opened, closed,
        Draft.close, Draft.nested, if_pos (by omega)]
      simp
  | obj members => by
      obtain ⟨drafts, held, adds⟩ := exists_addsItem_members members
      refine ⟨.obj drafts .closed, Draft.holds_obj_iff.2 ⟨_, _, rfl, rfl, held⟩, ?_⟩
      intro outer phase fits place
      rw [depth] at fits
      have opened : Draft.step (.reading outer phase) .openBrace =
          .reading (.object [] none false :: outer) .firstKey := by
        rcases place with rfl | rfl <;> rfl
      have closed := foldl_joined .closeBrace (adds outer (by omega)) (fun _ => rfl) (fun _ => rfl)
        [] (.inl rfl) (fun _ => rfl)
      rw [tokens, List.append_assoc, List.singleton_append, List.foldl_cons, opened, closed,
        Draft.close, Draft.nested, if_pos (by omega)]
      simp

theorem exists_addsItem_elements : (elements : List Json) →
    ∃ drafts, List.Forall₂ Holds drafts elements ∧
      ∀ outer, outer.length + 1 + elementsDepth elements < Draft.depthLimit →
        List.Forall₂ (AddsItem .array outer .firstElement .value) (elementTokens elements) drafts
  | [] => ⟨[], .nil, fun _ _ => .nil⟩
  | element :: rest => by
      obtain ⟨draft, held, supplies⟩ := exists_supplies element
      obtain ⟨drafts, heldRest, adds⟩ := exists_addsItem_elements rest
      refine ⟨draft :: drafts, .cons held heldRest, fun outer fits => ?_⟩
      rw [elementsDepth] at fits
      refine .cons (fun reversed phase place => ?_) (adds outer (by omega))
      rw [supplies _ _ (by rw [List.length_cons]; omega) place.symm]
      rfl

theorem exists_addsItem_members : (members : List (String × Json)) →
    ∃ drafts, List.Forall₂ HoldsMember drafts members ∧
      ∀ outer, outer.length + 1 + membersDepth members < Draft.depthLimit →
        List.Forall₂ (AddsItem (fun reversed => .object reversed none false) outer .firstKey .key)
          (memberTokens members) drafts
  | [] => ⟨[], .nil, fun _ _ => .nil⟩
  | (key, value) :: rest => by
      obtain ⟨draft, held, supplies⟩ := exists_supplies value
      obtain ⟨drafts, heldRest, adds⟩ := exists_addsItem_members rest
      refine ⟨(key, draft) :: drafts, .cons ⟨rfl, held⟩ heldRest, fun outer fits => ?_⟩
      rw [membersDepth] at fits
      refine .cons (fun reversed phase place => ?_) (adds outer (by omega))
      have keyed : [Token.str key, .colon].foldl Draft.step
          (.reading (.object reversed none false :: outer) phase) =
          .reading (.object reversed (some key) false :: outer) .value := by
        rcases place with rfl | rfl <;> rfl
      rw [List.singleton_append, List.foldl_append, keyed,
        supplies _ _ (by rw [List.length_cons]; omega) (.inl rfl)]
      rfl

end

/-- A text that is scanned as the tokens of a value spells that value. -/
theorem spells_of_scans {text : String} {value : Json} (scans : Scans text value.tokens)
    (shallow : value.depth < Draft.depthLimit) : Spells text value := by
  obtain ⟨draft, held, supplies⟩ := exists_supplies value
  have scanned : Token.scan text.toList = value.tokens := by
    simpa [Token.scan_nil] using scans []
  have drafted : Draft.ofText text = (draft, false) := by
    rw [Draft.ofText, scanned, supplies [] .value (by simpa using shallow) (.inl rfl)]
    rfl
  rw [Spells, drafted]
  exact ⟨held, rfl⟩

/-- Both written forms of a value without numbers spell the value. -/
theorem spells_compact {value : Json} (numberless : value.isNumberless = true)
    (shallow : value.depth < Draft.depthLimit) : Spells value.compact value :=
  spells_of_scans (scans_compact value numberless) shallow

@[inherit_doc spells_compact]
theorem spells_pretty {value : Json} (numberless : value.isNumberless = true)
    (shallow : value.depth < Draft.depthLimit) : Spells value.pretty value :=
  spells_of_scans (scans_prettyAt 0 value numberless) shallow

/-- A line break may follow the text. -/
theorem spells_pretty_line {value : Json} (numberless : value.isNumberless = true)
    (shallow : value.depth < Draft.depthLimit) : Spells (value.pretty ++ "\n") value := by
  have broken : Scans "\n" [] := scans_lineBreak 0
  have scans := (scans_prettyAt 0 value numberless).append broken
  rw [List.append_nil] at scans
  exact spells_of_scans scans shallow

/-- Other texts spell the value too. -/
example : Spells " [null ,\"\\u0041\"]" (.arr [.null, .str "A"]) := by decide +kernel

end EventFields.Json
