import Contracts.Text.Split

/-!
Punycode, which writes a word of any characters with letters, digits and a dash: first the ASCII
characters of the word, then the places of all others in the order of their code points. Each place
is told by its distance from the one before.
-/

namespace Contracts.Punycode

/-- The character of a digit below 36. -/
def digit (d : Nat) : Char :=
  Char.ofNat (if d < 26 then 'a'.toNat + d else '0'.toNat + (d - 26))

/-- Digits below the threshold of their place end a number. -/
def threshold (place bias : Nat) : Nat := max 1 (min 26 (place - bias))

theorem threshold_pos (place bias : Nat) : 0 < threshold place bias := Nat.le_max_left ..

/-- A number, least significant digit first. Places are counted by 36. -/
def number (bias place n : Nat) : List Char :=
  let t := threshold place bias
  if n < t then [digit n]
  else digit (t + (n - t) % (36 - t)) :: number bias (place + 36) ((n - t) / (36 - t))
termination_by n
decreasing_by
  have := threshold_pos place bias
  exact Nat.lt_of_le_of_lt (Nat.div_le_self ..) (by omega)

/-- The bias for distances about as long as `distance`. -/
def biasOf (place distance : Nat) : Nat :=
  if distance > 455 then biasOf (place + 36) (distance / 35)
  else place + 36 * distance / (distance + 38)
termination_by distance
decreasing_by exact Nat.div_lt_self (by omega) (by omega)

/-- The bias after a distance was written, when `count` characters have been placed. -/
def nextBias (distance count : Nat) (isFirst : Bool) : Nat :=
  let distance := if isFirst then distance / 700 else distance / 2
  biasOf 0 (distance + distance / count)

structure Progress where
  written : List Char
  distance : Nat
  bias : Nat
  /-- How many characters have been placed. -/
  count : Nat

/-- Goes past one character of the word while the places of the code point `m` are told. -/
def pass (basic m : Nat) (p : Progress) (c : Char) : Progress :=
  if c.toNat < m then { p with distance := p.distance + 1 }
  else if c.toNat = m then
    { written := p.written ++ number p.bias 36 p.distance
      distance := 0
      bias := nextBias p.distance (p.count + 1) (p.count == basic)
      count := p.count + 1 }
  else p

/-- Tells the places of code points from `n` on, given in order. -/
def places (cs : List Char) (basic : Nat) : Nat → List Nat → Progress → Progress
  | _, [], p => p
  | n, m :: ms, p =>
    let p := { p with distance := p.distance + (m - n) * (p.count + 1) }
    let p := cs.foldl (pass basic m) p
    places cs basic (m + 1) ms { p with distance := p.distance + 1 }

def encode (cs : List Char) : List Char :=
  let basic := cs.filter (·.toNat < 0x80)
  let others := ((cs.map Char.toNat).filter (0x80 ≤ ·)).mergeSort.eraseDups
  let start : Progress := ⟨[], 0, 72, basic.length⟩
  basic ++ (if basic.isEmpty then [] else ['-']) ++
    (places cs basic.length 0x80 others start).written

/-- The value of a digit. -/
def digitValue? (c : Char) : Option Nat :=
  if c.isLower then some (c.toNat - 'a'.toNat)
  else if c.isDigit then some (c.toNat - '0'.toNat + 26)
  else none

/-- Reads a number whose next digit counts `weight`, and gives the text behind it. -/
def readNumber? (bias place weight : Nat) : List Char → Option (Nat × List Char)
  | [] => none
  | c :: cs => do
    let d ← digitValue? c
    let t := threshold place bias
    if d < t then some (d * weight, cs)
    else
      let (n, rest) ← readNumber? bias (place + 36) (weight * (36 - t)) cs
      some (d * weight + n, rest)

theorem length_readNumber? {bias place weight n : Nat} {cs rest : List Char}
    (h : readNumber? bias place weight cs = some (n, rest)) : rest.length < cs.length := by
  induction cs generalizing place weight n rest with
  | nil => simp [readNumber?] at h
  | cons c cs ih =>
    simp only [readNumber?, Option.bind_eq_bind, Option.bind_eq_some_iff] at h
    obtain ⟨d, -, h⟩ := h
    split at h
    · simp_all
    · obtain ⟨⟨m, r⟩, hr, h⟩ := Option.bind_eq_some_iff.1 h
      simp only [Option.some.injEq, Prod.mk.injEq] at h
      have := ih hr
      simp_all only [List.length_cons]
      omega

/-- The character of a code point, if there is one. -/
def charOf? (n : Nat) : Option Char := if n.isValidChar then some (Char.ofNat n) else none

/-- Puts characters into `word`, where the last one was `m` and came before the place `i`. -/
def insertAll? (bias m i : Nat) (isFirst : Bool) (word digits : List Char) :
    Option (List Char) :=
  if digits.isEmpty then some word
  else
    match h : readNumber? bias 36 1 digits with
    | none => none
    | some (distance, rest) => do
      let count := word.length + 1
      let m := m + (i + distance) / count
      let i := (i + distance) % count
      let c ← charOf? m
      insertAll? (nextBias distance count isFirst) m (i + 1) false (word.insertIdx i c) rest
termination_by digits.length
decreasing_by exact length_readNumber? h

/-- The word that a text encodes. A dash ends its ASCII characters, if there are any. -/
def decode? (cs : List Char) : Option (List Char) :=
  match splitLast '-' cs with
  | none => insertAll? 72 0x80 0 true [] cs
  | some (basic, digits) =>
    if !basic.isEmpty && basic.all (·.toNat < 0x80) then insertAll? 72 0x80 0 true basic digits
    else none

end Contracts.Punycode
