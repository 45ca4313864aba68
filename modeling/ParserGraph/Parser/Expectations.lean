/-!
# Expectations

The labels of what an input was expected to go on with.  They form a set, kept as
a list that increases in code point order, so that equal sets are equal lists.
-/

namespace ParserGraph

/-- A set of labels. -/
structure Expectations where
  /-- The labels in increasing order. -/
  labels : List String
  /-- Each label is smaller than those behind it. -/
  increasing : labels.Pairwise (· < ·)
deriving DecidableEq

namespace Expectations

/-- A label put in its place among increasing ones. -/
def insertLabel (label : String) : List String → List String
  | [] => [label]
  | other :: rest =>
      if label < other then
        label :: other :: rest
      else if label = other then
        other :: rest
      else
        other :: insertLabel label rest

@[simp]
theorem mem_insertLabel {label other : String} {labels : List String} :
    other ∈ insertLabel label labels ↔ other = label ∨ other ∈ labels := by
  induction labels with
  | nil => simp [insertLabel]
  | cons first rest hypothesis =>
      unfold insertLabel
      split
      · simp
      · split
        · rename_i equality
          subst equality
          simp
        · simp only [List.mem_cons, hypothesis]
          exact or_left_comm

theorem increasing_insertLabel
    {label : String}
    {labels : List String}
    (increasing : labels.Pairwise (· < ·)) :
    (insertLabel label labels).Pairwise (· < ·) := by
  induction labels with
  | nil => simp [insertLabel]
  | cons first rest hypothesis =>
      obtain ⟨firstSmaller, restIncreasing⟩ := List.pairwise_cons.1 increasing
      unfold insertLabel
      split
      · rename_i smaller
        refine List.pairwise_cons.2 ⟨?_, increasing⟩
        intro other member
        rcases List.mem_cons.1 member with rfl | member
        · exact smaller
        · exact String.lt_trans smaller (firstSmaller other member)
      · split
        · exact increasing
        · rename_i notSmaller different
          refine List.pairwise_cons.2 ⟨?_, hypothesis restIncreasing⟩
          intro other member
          rcases mem_insertLabel.1 member with rfl | member
          · refine Decidable.byContradiction fun notGreater => different ?_
            exact String.le_antisymm (String.not_lt.1 notGreater) (String.not_lt.1 notSmaller)
          · exact firstSmaller other member

def empty : Expectations := { labels := [], increasing := .nil }

/-- The set with one label more. -/
def insert (label : String) (expectations : Expectations) : Expectations :=
  { labels := insertLabel label expectations.labels
    increasing := increasing_insertLabel expectations.increasing }

def ofList (labels : List String) : Expectations :=
  labels.foldl (fun expectations label => expectations.insert label) empty

instance : Membership String Expectations where
  mem expectations label := label ∈ expectations.labels

@[simp]
theorem not_mem_empty (label : String) : label ∉ empty := List.not_mem_nil

@[simp]
theorem mem_insert {label other : String} {expectations : Expectations} :
    other ∈ expectations.insert label ↔ other = label ∨ other ∈ expectations :=
  mem_insertLabel

/-- What was expected, in words. -/
def describe (expectations : Expectations) : String :=
  match expectations.labels with
  | [] => "unexpected input"
  | [label] => "expected " ++ label
  | labels => "expected one of " ++ String.intercalate ", " labels

end Expectations

end ParserGraph
