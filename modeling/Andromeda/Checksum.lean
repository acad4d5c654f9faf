namespace Andromeda

def total (values : List Int) : Int := values.foldl (fun sum value => sum + value) 0

theorem foldl_total (start : Int) (values : List Int) :
    values.foldl (fun sum value => sum + value) start = start + total values := by
  induction values generalizing start with
  | nil => simp [total]
  | cons value values ih =>
    have first := ih (start + value)
    have second := ih (0 + value)
    simp only [total, List.foldl_cons] at *
    omega

theorem total_cons (value : Int) (values : List Int) :
    total (value :: values) = value + total values := by
  have step := foldl_total (0 + value) values
  simpa [total] using step

theorem total_append (first second : List Int) :
    total (first ++ second) = total first + total second := by
  induction first with
  | nil => simp [total]
  | cons value values ih =>
    rw [List.cons_append, total_cons, total_cons, ih]
    omega

namespace Checksum

/-- A word of 32 bits, whatever the sign of the number it is taken from. -/
def word (number : Int) : Int := number % 4294967296

def add (running : Int) (values : List Int) : Int := word (running + total values)

def remove (running : Int) (values : List Int) : Int := word (running - total values)

theorem word_nonneg (number : Int) : 0 ≤ word number := by
  simp only [word]
  omega

theorem word_lt (number : Int) : word number < 4294967296 := by
  simp only [word]
  omega

end Checksum

end Andromeda
