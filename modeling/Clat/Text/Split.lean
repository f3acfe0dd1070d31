/-! Splitting at a character and joining with one. -/
namespace Clat.Text

/-- The pieces of a text between the places where `mark` stands; there is always one more
piece than there are marks. -/
def splitOn (mark : Char) : List Char → List (List Char)
  | [] => [[]]
  | c :: rest =>
    match splitOn mark rest with
    | [] => [[c]]
    | piece :: pieces => if c = mark then [] :: piece :: pieces else (c :: piece) :: pieces

def joinWith (mark : Char) : List (List Char) → List Char
  | [] => []
  | [piece] => piece
  | piece :: pieces => piece ++ mark :: joinWith mark pieces

/-- What stands before the first `mark`, and what stands after it if there is one. -/
def splitFirst (mark : Char) (text : List Char) : List Char × Option (List Char) :=
  match text.dropWhile (· ≠ mark) with
  | [] => (text, none)
  | _ :: rest => (text.takeWhile (· ≠ mark), some rest)

theorem splitOn_ne_nil (mark : Char) (text : List Char) : splitOn mark text ≠ [] := by
  match text with
  | [] => simp [splitOn]
  | c :: rest =>
    rw [splitOn]
    match splitOn mark rest with
    | [] => simp
    | piece :: pieces => dsimp only; split <;> simp

end Clat.Text
