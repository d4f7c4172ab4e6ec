import Pinpoint.Text.Basic

/-!
# Newline conventions

A line may be ended by a newline, by a carriage return, or by both in this
order. `universal` writes all three as a newline; `joinPairs` touches only the
pairs, so that a lone carriage return stays visible.
-/

namespace Pinpoint.Text.Newline

def universal : Text → Text
  | [] => []
  | '\r' :: '\n' :: rest => '\n' :: universal rest
  | c :: rest => (if c = '\r' then '\n' else c) :: universal rest

def joinPairs : Text → Text
  | [] => []
  | '\r' :: '\n' :: rest => '\n' :: joinPairs rest
  | c :: rest => c :: joinPairs rest

theorem universal_eq_self {t : Text} (h : '\r' ∉ t) : universal t = t := by
  fun_induction universal t with
  | case1 => rfl
  | case2 rest ih => simp at h
  | case3 c rest _ ih =>
    simp only [List.mem_cons, not_or] at h
    rw [if_neg (Ne.symm h.1), ih h.2]

end Pinpoint.Text.Newline
