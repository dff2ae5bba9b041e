/-
What a filter means, once it is known what its conditions mean. A group holds if all of
its children do, or one of them, or none of them.
-/

import Sieve.Filter.Tree

namespace Sieve.Filter.Tree

mutual

/-- Whether a filter holds, given whether each condition holds on each field. -/
def holds (meaning : String → Condition → Bool) : Tree → Bool
  | .leaf field condition => meaning field condition
  | .group .and children => allHold meaning children
  | .group .or children => someHold meaning children
  | .group .nor children => !someHold meaning children

def allHold (meaning : String → Condition → Bool) : List Tree → Bool
  | [] => true
  | tree :: rest => holds meaning tree && allHold meaning rest

def someHold (meaning : String → Condition → Bool) : List Tree → Bool
  | [] => false
  | tree :: rest => holds meaning tree || someHold meaning rest

end

variable {meaning : String → Condition → Bool}

@[simp]
theorem allHold_eq_all (trees : List Tree) :
    allHold meaning trees = trees.all (holds meaning) := by
  induction trees with
  | nil => rfl
  | cons tree rest inductionHypothesis => rw [allHold, List.all_cons, inductionHypothesis]

@[simp]
theorem someHold_eq_any (trees : List Tree) :
    someHold meaning trees = trees.any (holds meaning) := by
  induction trees with
  | nil => rfl
  | cons tree rest inductionHypothesis => rw [someHold, List.any_cons, inductionHypothesis]

end Sieve.Filter.Tree
