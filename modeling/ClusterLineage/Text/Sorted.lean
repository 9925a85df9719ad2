import ClusterLineage.Text.Basic

/-!
# Sorted texts

Lists of texts, and of things that have a text, in ascending order.
-/

namespace ClusterLineage.Text

/-- Texts in ascending order. -/
def sorted (texts : List Text) : List Text :=
  texts.mergeSort le

/-- Things in ascending order of the text that each has. -/
def sortedBy {α : Type} (text : α → Text) (things : List α) : List α :=
  things.mergeSort fun a b => (text a).le (text b)

end ClusterLineage.Text
