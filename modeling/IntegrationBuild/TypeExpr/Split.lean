/-!
Splitting at the top level.  A separator counts only outside quotes and
brackets; a closing bracket without an opening one is ignored.
-/

namespace IntegrationBuild.TypeExpr

/-- Whether `c` opens and closes a quoted text. -/
def isQuote (c : Char) : Bool :=
  c == '\x27' || c == '"'

/-- Whether `c` opens a bracket. -/
def isOpener (c : Char) : Bool :=
  c == '<' || c == '(' || c == '['

/-- Whether `c` closes a bracket. -/
def isCloser (c : Char) : Bool :=
  c == '>' || c == ')' || c == ']'

/-- Where a scan stands: inside a quoted text, or at a bracket depth. -/
structure ScanState where
  quote : Option Char := none
  depth : Nat := 0
deriving DecidableEq, Repr

namespace ScanState

/-- Whether a separator would count here. -/
def atTop (state : ScanState) : Bool :=
  state.quote.isNone && state.depth == 0

/-- The state after one character that is not a separator. -/
def step (state : ScanState) (c : Char) : ScanState :=
  match state.quote with
  | some q => if c == q then { state with quote := none } else state
  | none =>
    if isQuote c then { state with quote := some c }
    else if isOpener c then { state with depth := state.depth + 1 }
    else if isCloser c then { state with depth := state.depth - 1 }
    else state

/-- Whether the character separates parts in this state.  Quotes and brackets
never do. -/
def separates (state : ScanState) (separator c : Char) : Bool :=
  state.atTop && c == separator && !isQuote c && !isOpener c && !isCloser c

end ScanState

/-- Splits a text from a state on, the first part to be continued at its
front. -/
def splitFrom (separator : Char) (state : ScanState) : List Char → List (List Char)
  | [] => [[]]
  | c :: rest =>
    if state.separates separator c then [] :: splitFrom separator state rest
    else
      match splitFrom separator (state.step c) rest with
      | [] => [[c]]
      | part :: parts => (c :: part) :: parts

/-- Splits a text at the separators outside quotes and brackets. -/
def splitTopLevel (separator : Char) (text : List Char) : List (List Char) :=
  splitFrom separator {} text

theorem splitFrom_ne_nil (separator : Char) (state : ScanState) (text : List Char) :
    splitFrom separator state text ≠ [] := by
  cases text with
  | nil => simp [splitFrom]
  | cons c rest =>
    unfold splitFrom
    split
    · simp
    · split <;> simp

/-- The size of a list of parts: their characters and one for each part. -/
def partsSize : List (List Char) → Nat
  | [] => 0
  | part :: parts => part.length + 1 + partsSize parts

/-- Splitting loses only the separators. -/
theorem partsSize_splitFrom (separator : Char) (state : ScanState) (text : List Char) :
    partsSize (splitFrom separator state text) = text.length + 1 := by
  induction text generalizing state with
  | nil => simp [splitFrom, partsSize]
  | cons c rest ih =>
    unfold splitFrom
    split
    · have := ih state
      simp [partsSize] at this ⊢
      omega
    · have h := ih (state.step c)
      cases hs : splitFrom separator (state.step c) rest with
      | nil => exact absurd hs (splitFrom_ne_nil _ _ _)
      | cons part parts =>
        rw [hs] at h
        simp [partsSize] at h ⊢
        omega

end IntegrationBuild.TypeExpr
