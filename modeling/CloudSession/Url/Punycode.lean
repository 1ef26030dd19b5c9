/-
Texts in ASCII letters and digits. The ASCII characters of a text come
first; behind a dash each other character is given in the order of code
points, by how far it lies, in code points and places, behind the one
before. These distances are numbers with digits of varying weight.
-/

namespace CloudSession.Url.Punycode

-- ==================================================================== digits

/-- The digit of a value below 36. -/
def digit (v : Nat) : Char := Char.ofNat (if v < 26 then 97 + v else 22 + v)

/-- The value of a digit in lower case. -/
def value? (c : Char) : Option Nat :=
  let n := c.toNat
  if 97 ≤ n && n ≤ 122 then some (n - 97)
  else if 48 ≤ n && n ≤ 57 then some (n - 22)
  else none

/-- The values from which on a digit at a place is followed by another; the
places count in steps of 36. -/
def threshold (place bias : Nat) : Nat := min 26 (max 1 (place - bias))

theorem threshold_pos (place bias : Nat) : 0 < threshold place bias := by
  simp only [threshold]; omega

-- ====================================================================== bias

/-- How far a distance reaches in steps of 35, and what is left of it. -/
def reach (distance places : Nat) : Nat × Nat :=
  if _h : distance ≤ 455 then (distance, places) else reach (distance / 35) (places + 36)
termination_by distance

/-- The bias for the next distance: the last one and the number of
characters so far decide. The first distance is likely to be long. -/
def adapt (distance count : Nat) (first : Bool) : Nat :=
  let distance := if first then distance / 700 else distance / 2
  let (rest, places) := reach (distance + distance / count) 0
  places + 36 * rest / (rest + 38)

-- =================================================================== writing

/-- The digits of a distance from a place on. -/
def digits (bias place distance : Nat) : List Char :=
  let t := threshold place bias
  if _h : distance < t then [digit distance]
  else digit (t + (distance - t) % (36 - t)) ::
    digits bias (place + 36) ((distance - t) / (36 - t))
termination_by distance
decreasing_by
  have := threshold_pos place bias
  exact Nat.lt_of_le_of_lt (Nat.div_le_self _ _) (by omega)

/-- What has been written: the digits, the distance since the last character
given, the bias, and the number of characters that have their place. -/
structure Written where
  text : List Char
  distance : Nat
  bias : Nat
  count : Nat

/-- Passes a character of the text while those with code `n` are given. -/
def pass (basic n : Nat) (w : Written) (c : Char) : Written :=
  if c.toNat < n then { w with distance := w.distance + 1 }
  else if c.toNat = n then
    { text := w.text ++ digits w.bias 36 w.distance
      distance := 0
      bias := adapt w.distance (w.count + 1) (w.count == basic)
      count := w.count + 1 }
  else w

/-- Gives the characters with the codes in a list, which ascend; `n` is the
first code not yet passed. -/
def give (text : List Char) (basic : Nat) : List Nat → Nat → Written → Written
  | [], _, w => w
  | code :: codes, n, w =>
    let w := { w with distance := w.distance + (code - n) * (w.count + 1) }
    let w := text.foldl (pass basic code) w
    give text basic codes (code + 1) { w with distance := w.distance + 1 }

/-- The codes beyond ASCII in a text, ascending and each once. -/
def codes (text : List Char) : List Nat :=
  ((text.map Char.toNat).filter (0x80 ≤ ·)).mergeSort.eraseDups

/-- Writes a text. -/
def encode (text : List Char) : List Char :=
  let basic := text.filter (·.toNat < 0x80)
  let start := if basic.isEmpty then [] else basic ++ ['-']
  (give text basic.length (codes text) 0x80 ⟨start, 0, 72, basic.length⟩).text

-- =================================================================== reading

/-- The distance whose digits stand here, the first of weight `weight`, and
what follows them. -/
def distance? (bias place weight : Nat) : List Char → Option (Nat × List Char)
  | [] => none
  | c :: cs =>
    match value? c with
    | none => none
    | some v =>
      let t := threshold place bias
      if v < t then some (v * weight, cs)
      else (distance? bias (place + 36) (weight * (36 - t)) cs).map fun (rest, cs) =>
        (v * weight + rest, cs)

/-- Inserts characters into a text as the distances from here on say, the
first from the code `n` and the place `i`. -/
def insert? (first : Bool) (n i bias : Nat) : Nat → List Char → List Char → Option (List Char)
  | _, text, [] => some text
  | 0, _, _ => none
  | fuel + 1, text, c :: cs =>
    match distance? bias 36 1 (c :: cs) with
    | none => none
    | some (distance, rest) =>
      let count := text.length + 1
      let n := n + (i + distance) / count
      let i := (i + distance) % count
      if h : n.isValidChar then
        let text := text.take i ++ Char.ofNatAux n h :: text.drop i
        insert? false n (i + 1) (adapt distance count first) fuel text rest
      else none

/-- Reads a text. The ASCII characters end at the last dash. -/
def decode? (cs : List Char) : Option (List Char) :=
  let tail := (cs.reverse.takeWhile (· != '-')).reverse
  let basic := cs.take (cs.length - tail.length - 1)
  insert? true 0x80 0 72 cs.length basic (if basic.isEmpty then cs else tail)

end CloudSession.Url.Punycode
