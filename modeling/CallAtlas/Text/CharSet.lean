import CallAtlas.Text.CaseFold

/-! # Sets of characters

    Sets of code points as ranges in ascending order, apart from each other, with the
    operations of set algebra and the closure under case.
-/

namespace CallAtlas.Text

structure CharSet where
  ranges : CodeRanges
  deriving DecidableEq, Inhabited

namespace CharSet

/-! ## Section 1: Set algebra -/

/-- Joins a range with those that it reaches, among ranges apart from each other. -/
def absorb (low : Nat) : Nat → CodeRanges → CodeRanges
  | high, [] => [(low, high)]
  | high, (low', high') :: rest =>
    if low' ≤ high + 1 then absorb low (max high high') rest
    else (low, high) :: (low', high') :: rest

/-- The set that ranges in any order make up. -/
def ofRanges (ranges : CodeRanges) : CharSet :=
  ⟨(ranges.mergeSort fun a b => b.1 ≤ a.1).foldl (fun done (low, high) => absorb low high done) []⟩

def empty : CharSet := ⟨[]⟩

def singleton (c : Char) : CharSet := ⟨[(c.toNat, c.toNat)]⟩

def contains (s : CharSet) (c : Char) : Bool := CodeRanges.contains s.ranges c

def union (a b : CharSet) : CharSet := ofRanges (a.ranges ++ b.ranges)

def unionAll (sets : List CharSet) : CharSet := ofRanges (sets.flatMap (·.ranges))

/-- The greatest code point. -/
def lastCode : Nat := 0x10FFFF

/-- The gaps between ranges, from a given code point on. -/
def gaps : Nat → CodeRanges → CodeRanges
  | start, [] => if start ≤ lastCode then [(start, lastCode)] else []
  | start, (low, high) :: rest =>
    if start < low then (start, low - 1) :: gaps (high + 1) rest else gaps (high + 1) rest

def complement (s : CharSet) : CharSet := ⟨gaps 0 s.ranges⟩

def intersection (a b : CharSet) : CharSet := (a.complement.union b.complement).complement

def difference (a b : CharSet) : CharSet := a.intersection b.complement

def symmetricDifference (a b : CharSet) : CharSet := (a.union b).difference (a.intersection b)

/-- Whether all members are ASCII characters. -/
def isAscii (s : CharSet) : Bool := s.ranges.all fun (_, high) => high < 0x80

/-! ## Section 2: Case -/

def hasCode (s : CharSet) (code : Nat) : Bool :=
  s.ranges.any fun (low, high) => low ≤ code && code ≤ high

/-- The classes of code points that differ only in case. -/
def caseClasses : List (List Nat) :=
  CaseFold.classes ++ CaseFold.runs.flatMap fun (first, last, step, distance) =>
    (List.range ((last - first) / step + 1)).map fun i =>
      [first + i * step, first + i * step + distance]

/-- Adds what differs from a member only in case. -/
def closeUnderCase (s : CharSet) : CharSet :=
  let added := (caseClasses.filter fun cls => cls.any s.hasCode).flatten
  ofRanges (s.ranges ++ added.map fun code => (code, code))

/-- Adds what differs from a member only in case, among ASCII letters. -/
def closeUnderAsciiCase (s : CharSet) : CharSet :=
  let added := (List.range 26).flatMap fun i =>
    if s.hasCode (0x41 + i) || s.hasCode (0x61 + i) then
      [(0x41 + i, 0x41 + i), (0x61 + i, 0x61 + i)]
    else []
  ofRanges (s.ranges ++ added)

end CharSet

end CallAtlas.Text
