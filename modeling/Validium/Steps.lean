/-!
Sequences of steps of a system whose steps need not be determined by its state.
-/
namespace Validium

inductive Steps {S E : Type} (step : S → E → S → Prop) (s : S) : List E → S → Prop
  | nil : Steps step s [] s
  | snoc {es : List E} {t u : S} {e : E} :
      Steps step s es t → step t e u → Steps step s (es ++ [e]) u

namespace Steps

variable {S E : Type} {step : S → E → S → Prop} {s t u : S} {es es' : List E}

theorem trans (h : Steps step s es t) (h' : Steps step t es' u) : Steps step s (es ++ es') u := by
  induction h' with
  | nil =>
    rw [List.append_nil]
    exact h
  | @snoc es' t u e _ hstep ih =>
    rw [← List.append_assoc]
    exact ih.snoc hstep

end Steps

end Validium
