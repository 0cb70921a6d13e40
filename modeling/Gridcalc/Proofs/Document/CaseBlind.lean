import Gridcalc.Proofs.Document.Input
import Gridcalc.Proofs.Formula.CaseBlind

/-! # Formulas in another case

A formula in another case is the same formula: it reads the same cells, and has the same value
against what they show (`Formula.evaluate_recased`).  So two grids whose formulas differ in case
only are calculated side by side (`Grid.Alike`).  Each step takes the same references into the
graph, and writes the same text where the grids show the same.

This holds wherever the calculation stops, in graphs of every kind, and for texts that are no
formulas and so show their case (`Document.case_blind`).
-/
namespace Gridcalc

/-! ### Formulas -/

namespace Formula
variable {text other : String}

theorem agree_references (h : Recased text.toList other.toList) :
    Agree Eq (references text) (references other) := (agree_parse h).map

/-- **The value is the same,** or neither text is a formula, and both are refused at the same
byte. -/
theorem evaluate_recased (limits : Limits) (lookup : Lookup)
    (h : Recased text.toList other.toList) :
    evaluate limits lookup text = evaluate limits lookup other ∨
      Agree Eq (evaluate limits lookup text) (evaluate limits lookup other) := by
  have hparse := agree_parse h
  rw [evaluate, evaluate]
  generalize parse text = first, parse other = second at hparse
  cases hparse with
  | ok he => exact Or.inl (by rw [he])
  | malformed position fault other => exact Or.inr (.malformed position fault other)

theorem shownText_recased (limits : Limits) (lookup : Lookup)
    (h : Recased text.toList other.toList) :
    shownText limits lookup text = shownText limits lookup other := by
  have hvalue := evaluate_recased limits lookup h
  rw [shownText, shownText]
  generalize evaluate limits lookup text = first, evaluate limits lookup other = second at hvalue
  obtain rfl | hagree := hvalue
  · rfl
  · cases hagree with
    | ok he => rw [he]
    | malformed _ _ _ => rfl

theorem isFormulaText_recased (h : Recased text.toList other.toList) :
    Cell.isFormulaText text = Cell.isFormulaText other := by
  have hhead : ∀ {cs ds : List Char}, Recased cs ds → cs.head? = some '=' →
      ds.head? = some '=' := by
    intro cs ds h hcs
    obtain ⟨rest, rfl⟩ := List.head?_eq_some_iff.mp hcs
    obtain ⟨d, tail, rfl, hlower, -⟩ := h.cons
    rw [eq_of_toLower_eq hlower (by decide)]
    rfl
  exact decide_eq_decide.mpr ⟨hhead h, hhead h.symm⟩

end Formula

namespace Sheet
variable {sheet : Sheet} {place other : CellRef} {text : String}

/-- The value that a cell has, if it is stored and has one. -/
def valueAt? (sheet : Sheet) (place : CellRef) : Option String := sheet[place]?.bind Cell.value

theorem displayAt_eq_getD (sheet : Sheet) (place : CellRef) :
    sheet.displayAt place = (sheet.valueAt? place).getD "" := by
  rw [displayAt, valueAt?]
  cases sheet[place]? <;> rfl

theorem valueAt?_insert {cell : Cell} : valueAt? (sheet.insert place cell) other =
    if other = place then cell.value else sheet.valueAt? other := bind_getElem?_insert Cell.value

theorem valueAt?_writeValue : (sheet.writeValue place text).valueAt? other =
    if other = place then some text else sheet.valueAt? other := valueAt?_insert

end Sheet

/-- **Two outcomes after which a calculation goes on in the same way**: what could be computed makes
no difference to that. -/
inductive CellOutcome.SameCourse : CellOutcome → CellOutcome → Prop
  | literal : SameCourse .literal .literal
  | rejected (error : CycleError) : SameCourse (.rejected error) (.rejected error)
  | evaluated (answer other : Except FormulaError Value) :
      SameCourse (.ofEvaluation answer) (.ofEvaluation other)

namespace Grid
variable {shown : Prop} {grid other : Grid} {place : CellRef}

/-- **Two grids of the same formulas,** each of them in some case.  The graphs are the same, and if
the cells showed the same, they still do. -/
structure Alike (shown : Prop) (grid other : Grid) : Prop where
  graph : grid.graph = other.graph
  limits : grid.limits = other.limits
  formulas : ∀ place, Option.Rel (fun text text' => Formula.Recased text.toList text'.toList)
    (grid.sheet.formulaAt? place) (other.sheet.formulaAt? place)
  values : shown → grid.sheet.valueAt? = other.sheet.valueAt?

/-- What a formula is made to read does not depend on its case. -/
theorem referencesOf_recased {text text' : String}
    (h : Formula.Recased text.toList text'.toList) : referencesOf text = referencesOf text' := by
  have hreferences := Formula.agree_references h
  rw [referencesOf, referencesOf]
  generalize Formula.references text = first, Formula.references text' = second at hreferences
  cases hreferences with
  | ok he => rw [he]
  | malformed _ _ _ => rfl

namespace Alike

theorem textFor {text text' : String} (h : Alike shown grid other)
    (htext : Formula.Recased text.toList text'.toList) (hshown : shown) :
    grid.textFor text = other.textFor text' := by
  have hlookup : grid.sheet.lookup = other.sheet.lookup := by
    funext address
    simp only [Sheet.lookup]
    cases CellRef.parse address with
    | error _ => rfl
    | ok cell => exact congrFun (h.values hshown) cell
  rw [Grid.textFor, Grid.textFor, h.limits, hlookup, Formula.shownText_recased _ _ htext]

/-- The same text written into a cell of both grids. -/
theorem present {text text' : String} (h : Alike shown grid other) (place : CellRef)
    (htext : shown → text = text') :
    Alike shown (grid.present place text) (other.present place text') where
  graph := h.graph
  limits := h.limits
  formulas := fun cell => by
    rw [Grid.present, Grid.present, Sheet.formulaAt?_writeValue, Sheet.formulaAt?_writeValue]
    exact h.formulas cell
  values := fun hshown => by
    funext cell
    rw [Grid.present, Grid.present, Sheet.valueAt?_writeValue, Sheet.valueAt?_writeValue,
      htext hshown, h.values hshown]

/-- **One cell is calculated in the same way,** and the grids stay alike. -/
theorem calculateCell (h : Alike shown grid other) (place : CellRef) :
    (grid.calculateCell place).1.SameCourse (other.calculateCell place).1 ∧
      Alike shown (grid.calculateCell place).2 (other.calculateCell place).2 := by
  have hformulas := h.formulas place
  rw [Grid.calculateCell, Grid.calculateCell]
  generalize grid.sheet.formulaAt? place = formula, other.sheet.formulaAt? place = formula'
    at hformulas
  cases hformulas with
  | none => exact ⟨.literal, h⟩
  | @some text text' htext =>
    simp only [← h.graph, ← referencesOf_recased htext]
    split
    · rename_i graph _
      have hadopted : Alike shown { grid with graph } { other with graph } :=
        ⟨rfl, h.limits, h.formulas, h.values⟩
      rw [evaluateInto_eq, evaluateInto_eq]
      exact ⟨.evaluated _ _, hadopted.present place (hadopted.textFor htext)⟩
    · rename_i error graph _
      have hkept : Alike shown { grid with graph } { other with graph } :=
        ⟨rfl, h.limits, h.formulas, h.values⟩
      exact ⟨.rejected error, hkept.present place fun _ => rfl⟩

/-- **So is a whole list of cells.** -/
theorem calculateInOrder (steps : List String) (h : Alike shown grid other) :
    Alike shown (grid.calculateInOrder steps).2 (other.calculateInOrder steps).2 := by
  induction steps generalizing grid other with
  | nil => exact h
  | cons address rest ih =>
    rw [Grid.calculateInOrder, Grid.calculateInOrder]
    split
    · exact h
    · exact ih (h.calculateCell _).2

theorem cascade (h : Alike shown grid other) (place : CellRef) :
    Alike shown (grid.cascade place).2 (other.cascade place).2 := by
  rw [Grid.cascade, Grid.cascade, ← h.graph]
  split
  · exact h
  · exact h.calculateInOrder _

theorem calculate (h : Alike shown grid other) (place : CellRef) :
    Alike shown (grid.calculate place).2 (other.calculate place).2 := by
  have hcarried : ∀ {grid : Grid} (answer : Except FormulaError Value),
      (grid.calculateCell place).1 = .ofEvaluation answer →
      (grid.calculate place).2 = ((grid.calculateCell place).2.cascade place).2 := by
    intro grid answer hanswer
    rw [calculate_of_evaluated grid place (hanswer ▸ CellOutcome.ofEvaluation_ne_literal)
      fun _ => hanswer ▸ CellOutcome.ofEvaluation_ne_rejected]
    rfl
  obtain ⟨hcourse, hafter⟩ := h.calculateCell place
  cases hfirst : grid.calculateCell place with
  | mk outcome after =>
    cases hsecond : other.calculateCell place with
    | mk outcome' after' =>
      rw [hfirst, hsecond] at hcourse hafter
      cases hcourse with
      | literal =>
        rw [Grid.calculate, Grid.calculate, hfirst, hsecond]
        exact hafter
      | rejected error =>
        rw [Grid.calculate, Grid.calculate, hfirst, hsecond]
        exact hafter
      | evaluated answer answer' =>
        rw [hcarried answer (by rw [hfirst]; rfl), hcarried answer' (by rw [hsecond]; rfl), hfirst,
          hsecond]
        exact hafter.cascade place

end Alike
end Grid

/-! ### Documents -/

section Documents
open Formula
variable {typed typed' : String}

/-- Storing a text in the one case or in the other leaves grids of the same formulas. -/
theorem Grid.alike_stored (grid : Grid) (graph : DependencyGraph) (place : CellRef)
    (h : Recased (Text.trim typed).toList (Text.trim typed').toList) :
    Alike (Cell.isFormulaText (Text.trim typed) = true)
      { grid with sheet := grid.sheet.insert place (Cell.ofInput typed), graph }
      { grid with sheet := grid.sheet.insert place (Cell.ofInput typed'), graph } where
  graph := rfl
  limits := rfl
  formulas := fun cell => by
    simp only [Sheet.formulaAt?_insert, Cell.formula?_ofInput, Option.filter_some,
      ← isFormulaText_recased h]
    split
    · split
      · exact .some h
      · exact .none
    · cases grid.sheet.formulaAt? cell with
      | none => exact .none
      | some text => exact .some (.refl text.toList)
  values := fun hformula => by
    have hvalue : ∀ {typed : String}, Cell.isFormulaText (Text.trim typed) = true →
        (Cell.ofInput typed).value = none := by
      intro typed hformula
      have htext := Cell.formula?_ofInput typed
      rw [Option.filter_some, if_pos hformula] at htext
      obtain ⟨-, -, hcell⟩ := Cell.eq_formula_of_formula? htext
      rw [hcell]
      rfl
    funext cell
    simp only [Sheet.valueAt?_insert, hvalue hformula,
      hvalue ((isFormulaText_recased h).symm.trans hformula)]

/-- **An edit in another case leaves a grid of the same formulas.** -/
theorem Document.alike_enter (document : Document) (place : CellRef)
    (h : Recased (Text.trim typed).toList (Text.trim typed').toList) :
    Grid.Alike (Cell.isFormulaText (Text.trim typed) = true)
      (document.enter place typed).2.toGrid (document.enter place typed').2.toGrid := by
  have hsame := isFormulaText_recased h
  have hfirst := Cell.formula?_ofInput typed
  have hsecond := Cell.formula?_ofInput typed'
  rw [Option.filter_some] at hfirst hsecond
  rw [← hsame] at hsecond
  split at hfirst
  · rename_i hformula
    rw [if_pos hformula] at hsecond
    rw [enter_of_formula hfirst, enter_of_formula hsecond]
    exact (document.toGrid.alike_stored document.graph place h).calculate place
  · rename_i hformula
    rw [if_neg hformula] at hsecond
    rw [enter_of_plain hfirst, enter_of_plain hsecond]
    exact (document.toGrid.alike_stored (document.graph.clearReads place.address) place h).cascade
      place

/-- **Formulas do not depend on the case of letters outside of literals.**  Texts that differ in
nothing else have the same tree, the same references and the same values, or are refused at the
same byte.  Wherever references are taken into a graph, they are the same for both.  Entered into a
cell of any document, the texts leave the same arrows behind, and if they begin with an equals
sign, every cell shows the same. -/
theorem Document.case_blind {text other : String} (h : Recased text.toList other.toList) :
    Agree Eq (parse text) (parse other) ∧
    Agree Eq (references text) (references other) ∧
    (∀ limits lookup, evaluate limits lookup text = evaluate limits lookup other ∨
      Agree Eq (evaluate limits lookup text) (evaluate limits lookup other)) ∧
    Grid.referencesOf text = Grid.referencesOf other ∧
    ∀ (document : Document) (place : CellRef) (typed typed' : String),
      Text.trim typed = text → Text.trim typed' = other →
      (document.enter place typed).2.graph = (document.enter place typed').2.graph ∧
      (Cell.isFormulaText text = true →
        (document.enter place typed).2.sheet.displayAt =
          (document.enter place typed').2.sheet.displayAt) := by
  refine ⟨agree_parse h, agree_references h, fun limits lookup => evaluate_recased limits lookup h,
    Grid.referencesOf_recased h, fun document place typed typed' htyped htyped' => ?_⟩
  subst htyped htyped'
  have halike := document.alike_enter place h
  refine ⟨halike.graph, fun hformula => ?_⟩
  funext cell
  rw [Sheet.displayAt_eq_getD, Sheet.displayAt_eq_getD, halike.values hformula]

/-- A formula in small letters and in capitals, but for its literal. -/
theorem Document.capitals_case_blind :
    Recased "=max(a1,\"b\")".toList "=MAX(A1,\"b\")".toList ∧
    Agree Eq (parse "=max(a1,\"b\")") (parse "=MAX(A1,\"b\")") ∧
    (({} : Document).enter ⟨0, 1⟩ "=max(a1,\"b\")").2.graph =
      (({} : Document).enter ⟨0, 1⟩ "=MAX(A1,\"b\")").2.graph := by
  have hliteral : Recased "\"b\")".toList "\"b\")".toList := .refl _
  have h : Recased "=max(a1,\"b\")".toList "=MAX(A1,\"b\")".toList :=
    hliteral.append (by decide : '"' ∉ "=max(a1,".toList)
      (by decide : "=max(a1,".toList.map Char.toLower = "=MAX(A1,".toList.map Char.toLower)
  obtain ⟨hparse, -, -, -, hdocuments⟩ := case_blind h
  obtain ⟨hgraph, -⟩ := hdocuments {} ⟨0, 1⟩ "=max(a1,\"b\")" "=MAX(A1,\"b\")"
    (by decide +kernel) (by decide +kernel)
  exact ⟨h, hparse, hgraph⟩

end Documents
end Gridcalc
