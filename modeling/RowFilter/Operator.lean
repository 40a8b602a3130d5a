/-
The operators of the filter language.

* `Operator`: the twelve operators, and `Operator.all`: their order.
* `Operator.keyword`, `Operator.ofIndex?`: the spelling, and the operator at
  a position of the order.
* `Arity`: how many operands an operator takes.
* `filterLexicon`: the keywords and separators of the filter language.
-/
import RowFilter.Token.Scan

namespace RowFilter

/-! ### Operators -/

/-- An operator of the filter language. -/
inductive Operator where
  | equal
  | isIn
  | greater
  | less
  | greaterOrEqual
  | lessOrEqual
  | and
  | or
  | not
  | like
  | anyLike
  | date
deriving DecidableEq, Repr

namespace Operator

/-- All operators; the position of each is its keyword index. -/
def all : List Operator :=
  [.equal, .isIn, .greater, .less, .greaterOrEqual, .lessOrEqual, .and, .or,
    .not, .like, .anyLike, .date]

/-- The spelling of an operator. Case matters. -/
def keyword : Operator → String
  | .equal => "EQ"
  | .isIn => "IN"
  | .greater => "GT"
  | .less => "LT"
  | .greaterOrEqual => "GTE"
  | .lessOrEqual => "LTE"
  | .and => "AND"
  | .or => "OR"
  | .not => "NOT"
  | .like => "LIKE"
  | .anyLike => "ALIKE"
  | .date => "DATE"

/-- The operator of a keyword index. -/
def ofIndex? (i : Nat) : Option Operator := all[i]?

/-- Every operator is listed. -/
theorem mem_all (op : Operator) : op ∈ all := by
  cases op <;> decide

end Operator

/-! ### Arities -/

/-- How many operands an operator takes. -/
inductive Arity where
  | exactly (n : Nat)
  | atLeast (n : Nat)
deriving DecidableEq, Repr

namespace Arity

/-- Whether a number of operands is right. -/
def accepts : Arity → Nat → Bool
  | .exactly n, found => found == n
  | .atLeast n, found => n ≤ found

/-- The arity in words. -/
def describe : Arity → String
  | .exactly n => s!"{n}"
  | .atLeast n => s!"at least {n}"

end Arity

/-- Conjunction and disjunction take two operands or more, negation and
dates take one, all others two. -/
def Operator.arity : Operator → Arity
  | .and | .or => .atLeast 2
  | .not | .date => .exactly 1
  | .equal | .isIn | .greater | .less | .greaterOrEqual | .lessOrEqual
  | .like | .anyLike => .exactly 2

/-! ### The lexicon -/

/-- The separator characters of the filter language. -/
def filterSeparators : List Char := ['(', ')', ',']

/-- The keywords and separators of the filter language. -/
def filterLexicon : Lexicon where
  keywords := Keywords.ofList (Operator.all.map Operator.keyword)
  separators := filterSeparators

end RowFilter
