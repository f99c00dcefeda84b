/-!
# Paths

A path has a text, which is shown, and a place, which the disk looks up: `a/b`, `a//b/` and `./a/b`
are texts of one place. This file fixes both, and the path of a name in a directory.
-/

namespace Vitals.Log

/-- Where an entry lies: the names from the starting directory on. The place of an absolute path
begins with an empty name. -/
abbrev Place := List String

structure Path where
  text : String
  place : Place
  deriving DecidableEq, Repr, Inhabited

namespace Path

/-- The parts of a text between slashes; `part` is the part read so far, backwards. -/
def parts (part : List Char) : List Char → List String
  | [] => [String.ofList part.reverse]
  | c :: cs =>
    if c = '/' then String.ofList part.reverse :: parts [] cs else parts (c :: part) cs

/-- The path with a given text. Empty parts and dots say nothing. -/
def ofText (text : String) : Path :=
  let names := (parts [] text.toList).filter fun n => n != "" && n != "."
  ⟨text, if text.toList.head? = some '/' then "" :: names else names⟩

/-- The path of a name in a directory. -/
def join (dir : Path) (name : String) : Path :=
  let cs := dir.text.toList
  ⟨if cs = [] ∨ cs.getLast? = some '/' then dir.text ++ name else dir.text ++ "/" ++ name,
    dir.place ++ [name]⟩

@[simp] theorem place_join (dir : Path) (name : String) :
    (dir.join name).place = dir.place ++ [name] := rfl

theorem join_inj {dir : Path} {m n : String} (h : dir.join m = dir.join n) : m = n := by
  have := congrArg Path.place h
  simpa using this

end Path

end Vitals.Log
