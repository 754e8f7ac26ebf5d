import FormulaCube.Value.Order

/-!
# Axes of a coordinate

* `axes` — the entries of a coordinate in the order of their axes, which is the same for equal
  coordinates.
-/

namespace FormulaCube

/-- The entries of a coordinate in the order of their axes. Only dictionaries have axes. -/
def axes : Value → Except Fault (List (Value × Value))
  | .dict entries => sortEntries entries
  | value => .error (.noAttribute value.typeName "items".toList)

end FormulaCube
