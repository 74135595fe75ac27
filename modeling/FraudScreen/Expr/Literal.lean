/-!
# Text literals

Where a double-quoted literal ends. Both rewriting steps of the rule dialect copy such literals
unchanged, so they share this reader.
-/
namespace FraudScreen.Expr

/-- Splits after the closing quote, where a backslash takes the next character with it. Without a
closing quote the literal runs to the end. The opening quote has been read already. -/
def spanText : List Char → List Char × List Char
  | [] => ([], [])
  | '\\' :: c :: rest => ('\\' :: c :: (spanText rest).1, (spanText rest).2)
  | '"' :: rest => (['"'], rest)
  | c :: rest => (c :: (spanText rest).1, (spanText rest).2)

/-- Nothing is lost. -/
theorem spanText_append (cs : List Char) : (spanText cs).1 ++ (spanText cs).2 = cs := by
  fun_induction spanText cs with
  | case1 => rfl
  | case2 c rest ih => simp [ih]
  | case3 => rfl
  | case4 c rest _ _ ih => simp [ih]

theorem length_spanText_le (cs : List Char) : (spanText cs).2.length ≤ cs.length := by
  have h := congrArg List.length (spanText_append cs)
  simp only [List.length_append] at h
  omega

end FraudScreen.Expr
