/-! Lists cut at a separator. -/

namespace UploadRunner

/-- The parts of a list between the occurrences of a separator. There is always one
more of them than separators. -/
def separatedBy {α : Type} [DecidableEq α] (separator : α) : List α → List (List α)
  | [] => [[]]
  | value :: rest =>
      if value = separator then [] :: separatedBy separator rest
      else
        match separatedBy separator rest with
        | [] => [[value]]
        | part :: parts => (value :: part) :: parts

example : separatedBy 0 [1, 2, 0, 0, 3] = [[1, 2], [], [3]] := by decide

end UploadRunner
