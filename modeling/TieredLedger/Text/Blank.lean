/-! White space, as the Unicode property defines it, and texts cut at it. -/
namespace TieredLedger.Text

def blankRanges : List (Nat × Nat) :=
  [(0x9, 0xD), (0x20, 0x20), (0x85, 0x85), (0xA0, 0xA0), (0x1680, 0x1680), (0x2000, 0x200A), (0x2028, 0x2029),
   (0x202F, 0x202F), (0x205F, 0x205F), (0x3000, 0x3000)]

def inRanges (ranges : List (Nat × Nat)) (n : Nat) : Bool := ranges.any fun (low, high) => low ≤ n && n ≤ high

def isBlank (c : Char) : Bool := inRanges blankRanges c.toNat

/-- The pieces of a text between the characters that `p` holds of; there is one more of them than separators. -/
def pieces (p : Char → Bool) : List Char → List (List Char)
  | [] => [[]]
  | c :: rest =>
    if p c then [] :: pieces p rest
    else
      match pieces p rest with
      | [] => [[c]]
      | piece :: others => (c :: piece) :: others

def wordsOf (cs : List Char) : List (List Char) := (pieces isBlank cs).filter fun w => !w.isEmpty

def words (s : String) : List String := (wordsOf s.toList).map String.ofList

def trimFront (cs : List Char) : List Char := cs.dropWhile isBlank

def trimmed (cs : List Char) : List Char := (trimFront (trimFront cs).reverse).reverse

def trim (s : String) : String := String.ofList (trimmed s.toList)

def hasBlank (s : String) : Bool := s.toList.any isBlank

theorem pieces_ne_nil (p : Char → Bool) (cs : List Char) : pieces p cs ≠ [] := by
  cases cs with
  | nil => simp [pieces]
  | cons c rest =>
    rw [pieces]
    split
    · simp
    · split <;> simp

/-- The pieces joined again, with the separators that stood between them left out, lose nothing else. -/
theorem flatten_pieces (p : Char → Bool) (cs : List Char) :
    (pieces p cs).flatten = cs.filter fun c => !p c := by
  induction cs with
  | nil => rfl
  | cons c rest ih =>
    rw [pieces]
    split
    · next h => simp [h, ih]
    · next h =>
      split
      · next hnil => exact absurd hnil (pieces_ne_nil p rest)
      · next piece others hcons =>
        rw [hcons] at ih
        simp only [List.flatten_cons] at ih ⊢
        simp [h, ← ih]

end TieredLedger.Text
