import Mathlib.Order.Lattice
import Mathlib.Data.List.Infix

/-!
# Glob patterns

Patterns over an ordered alphabet with some marked symbols: one stands for any text, one
for any symbol, brackets enclose symbols and ranges of them, which may be negated, and a
mark takes the next one literally. A bracket that is not closed reaches to the end of the
pattern. A text without brackets and escapes, read as a pattern, matches itself
(`Glob.isMatch_of_plain`).
-/

namespace Foundation

/-- The symbols with a meaning. -/
structure GlobMarks (Symbol : Type*) where
  star : Symbol
  one : Symbol
  opening : Symbol
  closing : Symbol
  negation : Symbol
  range : Symbol
  escape : Symbol

namespace Glob

/-- The symbols in some range or, negated, in none. -/
structure Class (Symbol : Type*) where
  negated : Bool
  ranges : List (Symbol × Symbol)

inductive Token (Symbol : Type*) where
  | star
  | one (symbols : Class Symbol)

/-- Where a reader of patterns is. -/
inductive Position (Symbol : Type*) where
  | outside
  /-- After an escape. -/
  | escaped
  /-- After a bracket. -/
  | opened
  | inside (symbols : Class Symbol)
  | insideEscaped (symbols : Class Symbol)
  /-- After a symbol that may begin a range. -/
  | pending (symbols : Class Symbol) (first : Symbol)
  /-- After the symbol and the mark of a range. -/
  | ranging (symbols : Class Symbol) (first : Symbol)

variable {Symbol : Type*} [LinearOrder Symbol] (marks : GlobMarks Symbol)

namespace Class

def admits (symbols : Class Symbol) (c : Symbol) : Bool :=
  (symbols.ranges.any fun range => decide (range.1 ≤ c ∧ c ≤ range.2)) != symbols.negated

/-- The class with a range, whose ends may be in either order. -/
def add (symbols : Class Symbol) (first last : Symbol) : Class Symbol :=
  { symbols with ranges := (min first last, max first last) :: symbols.ranges }

end Class

def literal (c : Symbol) : Token Symbol :=
  .one (Class.add ⟨false, []⟩ c c)

/-- A symbol in brackets. -/
def enclosed (symbols : Class Symbol) (c : Symbol) : List (Token Symbol) × Position Symbol :=
  if c = marks.closing then ([.one symbols], .outside)
  else if c = marks.escape then ([], .insideEscaped symbols)
  else ([], .pending symbols c)

/-- What the reader makes of a symbol. -/
def read (position : Position Symbol) (c : Symbol) : List (Token Symbol) × Position Symbol :=
  match position with
  | .outside =>
      if c = marks.star then ([.star], .outside)
      else if c = marks.one then ([.one ⟨true, []⟩], .outside)
      else if c = marks.opening then ([], .opened)
      else if c = marks.escape then ([], .escaped)
      else ([literal c], .outside)
  | .escaped => ([literal c], .outside)
  | .opened =>
      if c = marks.negation then ([], .inside ⟨true, []⟩) else enclosed marks ⟨false, []⟩ c
  | .inside symbols => enclosed marks symbols c
  | .insideEscaped symbols => ([], .inside (symbols.add c c))
  | .pending symbols first =>
      if c = marks.range then ([], .ranging symbols first)
      else enclosed marks (symbols.add first first) c
  | .ranging symbols first => ([], .inside (symbols.add first c))

/-- What is left when the pattern ends. -/
def finish : Position Symbol → List (Token Symbol)
  | .outside => []
  | .escaped => [literal marks.escape]
  | .opened => [.one ⟨false, []⟩]
  | .inside symbols => [.one symbols]
  | .insideEscaped symbols => [.one (symbols.add marks.escape marks.escape)]
  | .pending symbols first => [.one (symbols.add first first)]
  | .ranging symbols first =>
      [.one ((symbols.add first first).add marks.range marks.range)]

/-- The tokens of a pattern. -/
def parse (position : Position Symbol) : List Symbol → List (Token Symbol)
  | [] => finish marks position
  | c :: rest => (read marks position c).1 ++ parse (read marks position c).2 rest

/-- The tokens accept the whole text. -/
def accepts : List (Token Symbol) → List Symbol → Bool
  | [], text => text.isEmpty
  | .star :: tokens, text => text.tails.any (accepts tokens)
  | .one _ :: _, [] => false
  | .one symbols :: tokens, c :: text => symbols.admits c && accepts tokens text

/-- A pattern matches a text. -/
def isMatch (pattern text : List Symbol) : Bool :=
  accepts (parse marks .outside pattern) text

/-- The class of a single symbol admits it. -/
theorem admits_literal (c : Symbol) : (Class.add ⟨false, []⟩ c c).admits c = true := by
  have inside : min c c ≤ c ∧ c ≤ max c c := ⟨(min_self c).le, (max_self c).ge⟩
  simp only [Class.admits, Class.add, List.any_cons, List.any_nil, inside, and_self, decide_true,
    Bool.or_false]
  rfl

/-- A star accepts what is left after any text is skipped. -/
theorem accepts_star {tokens : List (Token Symbol)} {text : List Symbol} :
    accepts (.star :: tokens) text = true ↔
      ∃ skipped rest, text = skipped ++ rest ∧ accepts tokens rest = true := by
  rw [accepts, List.any_eq_true]
  constructor
  · rintro ⟨rest, tail, accepted⟩
    obtain ⟨skipped, rfl⟩ := (List.mem_tails _ _).mp tail
    exact ⟨skipped, rest, rfl, accepted⟩
  · rintro ⟨skipped, rest, rfl, accepted⟩
    exact ⟨rest, (List.mem_tails _ _).mpr ⟨skipped, rfl⟩, accepted⟩

/-- Patterns one after the other accept texts one after the other. -/
theorem accepts_append {tokens more : List (Token Symbol)} {text rest : List Symbol}
    (accepted : accepts tokens text = true) (accepted' : accepts more rest = true) :
    accepts (tokens ++ more) (text ++ rest) = true := by
  induction tokens generalizing text with
  | nil =>
      obtain rfl := List.isEmpty_iff.mp accepted
      exact accepted'
  | cons token tokens ih =>
      cases token with
      | star =>
          obtain ⟨skipped, remaining, rfl, remains⟩ := accepts_star.mp accepted
          rw [List.append_assoc]
          exact accepts_star.mpr ⟨skipped, _, rfl, ih remains⟩
      | one symbols =>
          cases text with
          | nil => cases accepted
          | cons c text =>
              obtain ⟨admitted, remains⟩ := (Bool.and_eq_true ..).mp accepted
              exact (Bool.and_eq_true ..).mpr ⟨admitted, ih remains⟩

/-- A symbol that is neither a bracket nor an escape is one token, which accepts it. -/
theorem read_plain {c : Symbol} (bracket : c ≠ marks.opening) (escape : c ≠ marks.escape) :
    ∃ token, read marks .outside c = ([token], .outside) ∧ accepts [token] [c] = true := by
  by_cases star : c = marks.star
  · exact ⟨.star, if_pos star, accepts_star.mpr ⟨[c], [], rfl, rfl⟩⟩
  by_cases one : c = marks.one
  · refine ⟨.one ⟨true, []⟩, ?_, rfl⟩
    rw [read, if_neg star, if_pos one]
  · refine ⟨literal c, ?_, ?_⟩
    · rw [read, if_neg star, if_neg one, if_neg bracket, if_neg escape]
    · rw [literal, accepts, admits_literal]
      rfl

/-- **A text without brackets and escapes**, read as a pattern and followed by the mark for
any text, matches whatever begins with it. -/
theorem isMatch_of_plain {text : List Symbol}
    (plain : ∀ c ∈ text, c ≠ marks.opening ∧ c ≠ marks.escape) (rest : List Symbol) :
    isMatch marks (text ++ [marks.star]) (text ++ rest) = true := by
  unfold isMatch
  induction text with
  | nil =>
      have star : parse marks .outside ([] ++ [marks.star]) = [.star] := by
        rw [List.nil_append, parse, read, if_pos rfl, parse]
        rfl
      rw [star]
      exact accepts_star.mpr ⟨rest, [], (List.append_nil _).symm, rfl⟩
  | cons c text ih =>
      obtain ⟨⟨bracket, escape⟩, others⟩ := List.forall_mem_cons.mp plain
      obtain ⟨token, isRead, accepted⟩ := read_plain marks bracket escape
      rw [List.cons_append, parse, isRead]
      exact @accepts_append _ _ [token] _ [c] _ accepted (ih others)

end Glob

end Foundation
