/-!
# Finding one text in another

Each function reads a text as the list of its characters. `cut?` splits at the first occurrence of a
marker: the first part and the marker do not overlap with an earlier occurrence.
-/
namespace ScriptSandbox.Search

/-- What follows a given start of a list, when the list starts that way. -/
def after? {α : Type} [BEq α] (start text : List α) : Option (List α) := start.isPrefixOf? text

/-- What comes before a given end of a list, when the list ends that way. -/
def before? {α : Type} [BEq α] (ending text : List α) : Option (List α) :=
  (after? ending.reverse text.reverse).map List.reverse

/-- The parts before and after the first occurrence of a marker. -/
def cut? {α : Type} [BEq α] (marker text : List α) : Option (List α × List α) :=
  go text []
where
  go : List α → List α → Option (List α × List α)
    | [], passed => (after? marker []).map (passed.reverse, ·)
    | c :: rest, passed =>
      match after? marker (c :: rest) with
      | some tail => some (passed.reverse, tail)
      | none => go rest (c :: passed)

/-- Whether a list occurs in another as a contiguous part. -/
def occursIn {α : Type} [BEq α] (part : List α) : List α → Bool
  | [] => part.isEmpty
  | c :: rest => (after? part (c :: rest)).isSome || occursIn part rest

/-- Splits a list at every element of a class; there is one part more than there are separators. -/
def splitAt {α : Type} (isSeparator : α → Bool) (text : List α) : List (List α) :=
  let (parts, current) := text.foldl
    (fun (parts, current) c =>
      if isSeparator c then (current.reverse :: parts, []) else (parts, c :: current))
    (([] : List (List α)), ([] : List α))
  (current.reverse :: parts).reverse

end ScriptSandbox.Search
