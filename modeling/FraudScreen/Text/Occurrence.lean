/-!
# Occurrence

One text occurs in another when it stands there without a gap. Main statement: `occursIn_iff`.
-/
namespace FraudScreen.Text

/-- The text `needle` occurs somewhere. -/
def occursIn (needle : List Char) : List Char → Bool
  | [] => needle.isEmpty
  | c :: rest => needle.isPrefixOf (c :: rest) || occursIn needle rest

theorem occursIn_iff (needle text : List Char) : occursIn needle text = true ↔ needle <:+: text := by
  induction text with
  | nil => simp [occursIn]
  | cons c rest ih => simp [occursIn, ih, List.infix_cons_iff]

end FraudScreen.Text
