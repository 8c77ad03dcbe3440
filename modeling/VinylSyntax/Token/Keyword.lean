/-!
# Keywords

The reserved words of the language and their spellings. A text is a keyword exactly if it is the
spelling of one, letter case included.
-/

namespace VinylSyntax

/-- A reserved word. -/
inductive Keyword where
  | defWord
  | letWord
  | ifWord
  | elseWord
deriving DecidableEq, Inhabited

namespace Keyword

/-- Every keyword. -/
def all : List Keyword := [.defWord, .letWord, .ifWord, .elseWord]

/-- A keyword as it stands in source text. -/
def spelling : Keyword → String
  | .defWord => "def"
  | .letWord => "let"
  | .ifWord => "if"
  | .elseWord => "else"

/-- The name under which a keyword is exchanged. -/
def name : Keyword → String
  | .defWord => "Def"
  | .letWord => "Let"
  | .ifWord => "If"
  | .elseWord => "Else"

/-- The keyword that a text spells. -/
def ofString? (text : String) : Option Keyword :=
  all.find? fun keyword => keyword.spelling == text

/-- The list of all keywords has every one of them. -/
theorem mem_all (keyword : Keyword) : keyword ∈ all := by
  cases keyword <;> decide

/-- A text spells a keyword exactly if it is that keyword's spelling. -/
theorem ofString?_eq_some_iff {text : String} {keyword : Keyword} :
    ofString? text = some keyword ↔ text = keyword.spelling := by
  constructor
  · intro h
    have := List.find?_some h
    exact (beq_iff_eq.1 this).symm
  · rintro rfl
    cases keyword <;> decide

end Keyword

end VinylSyntax
