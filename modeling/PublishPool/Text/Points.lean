/-!
Texts as code points.

A text is a sequence of code points below 0x110000. Most code points are Unicode
scalar values, which a Lean string holds as its characters. A text may also hold lone
surrogates, 0xD800 to 0xDFFF, which a JSON document can spell with `\u` escapes and
which no character stands for. So a text is kept in a string with one escape
character, the last code point U+10FFFF: before the character U+100000 + k it stands
for the lone surrogate 0xD800 + k, and doubled it stands for itself (`Text.ofPoint`).
Every other code point is its own character, so a string without the escape character
keeps exactly its characters.

`Text.points` reads the code points back (`points_ofPoints`), and whatever looks at
the code points of a text (quoting it, comparing, iterating, encoding it) reads them
through it; joining texts joins their strings.
-/

namespace PublishPool.Text

/-- The escape character, the last code point. -/
def escape : Char := Char.ofNat 0x10FFFF

/-- Whether a code point is a surrogate. -/
def isSurrogate (n : Nat) : Bool := 0xD800 ≤ n && n < 0xE000

/-- The characters that keep one code point. -/
def ofPoint (n : Nat) : List Char :=
  if isSurrogate n then [escape, Char.ofNat (0x100000 + (n - 0xD800))]
  else if n = 0x10FFFF then [escape, escape]
  else [Char.ofNat n]

/-- The string that keeps a sequence of code points. -/
def ofPoints (ns : List Nat) : String := String.ofList (ns.flatMap ofPoint)

/-- The code points kept in a sequence of characters, read from a place just after an
escape character when `escaped` holds. An escape character that starts no pair stands
for itself. -/
def pointsFrom : Bool → List Char → List Nat
  | false, [] => []
  | true, [] => [0x10FFFF]
  | false, c :: rest => if c = escape then pointsFrom true rest else c.toNat :: pointsFrom false rest
  | true, c :: rest =>
    if c = escape then 0x10FFFF :: pointsFrom false rest
    else if 0x100000 ≤ c.toNat ∧ c.toNat < 0x100800 then
      (c.toNat - 0x100000 + 0xD800) :: pointsFrom false rest
    else 0x10FFFF :: c.toNat :: pointsFrom false rest

/-- The code points kept in a sequence of characters. -/
def pointsOf (cs : List Char) : List Nat := pointsFrom false cs

/-- The code points a string keeps. -/
def points (s : String) : List Nat := pointsOf s.toList

/-- A string kept as its own characters: the escape character is doubled. -/
def ofChars (cs : List Char) : String := ofPoints (cs.map Char.toNat)

/-- A code point of a text: a Unicode scalar value or a surrogate. -/
def IsPoint (n : Nat) : Prop := n < 0x110000

theorem toNat_ofNat {n : Nat} (valid : n.isValidChar) : (Char.ofNat n).toNat = n := by
  rw [Char.ofNat, dif_pos valid]
  rfl

theorem toNat_escape : escape.toNat = 0x10FFFF := toNat_ofNat (by decide)

/-- A sequence of characters without the escape character keeps its characters. -/
theorem pointsOf_plain {cs : List Char} (plain : escape ∉ cs) :
    pointsOf cs = cs.map Char.toNat := by
  unfold pointsOf
  induction cs with
  | nil => rfl
  | cons c rest ih =>
    have other : c ≠ escape := fun same => plain (same ▸ List.mem_cons_self)
    rw [pointsFrom, if_neg other, ih (fun mem => plain (List.mem_cons_of_mem c mem))]
    rfl

/-- One code point is read back from the characters that keep it, whatever follows. -/
theorem pointsOf_ofPoint_append {n : Nat} (point : IsPoint n) (rest : List Char) :
    pointsOf (ofPoint n ++ rest) = n :: pointsOf rest := by
  unfold IsPoint at point
  unfold ofPoint pointsOf
  by_cases surrogate : isSurrogate n = true
  · -- the mark after the escape lies in plane 16, below the escape itself
    have bounds : 0xD800 ≤ n ∧ n < 0xE000 := by
      simpa [isSurrogate] using surrogate
    have mark : (Char.ofNat (0x100000 + (n - 0xD800))).toNat = 0x100000 + (n - 0xD800) :=
      toNat_ofNat (by unfold Nat.isValidChar; omega)
    have notEscape : Char.ofNat (0x100000 + (n - 0xD800)) ≠ escape := by
      intro h
      have := congrArg Char.toNat h
      rw [mark, toNat_escape] at this
      omega
    have marked : 0x100000 ≤ (Char.ofNat (0x100000 + (n - 0xD800))).toNat ∧
        (Char.ofNat (0x100000 + (n - 0xD800))).toNat < 0x100800 := ⟨by omega, by omega⟩
    rw [if_pos surrogate, List.cons_append, List.cons_append, List.nil_append, pointsFrom,
      if_pos rfl, pointsFrom, if_neg notEscape, if_pos marked, mark,
      show 0x100000 + (n - 0xD800) - 0x100000 + 0xD800 = n by omega]
  · rw [if_neg surrogate]
    by_cases last : n = 0x10FFFF
    · rw [if_pos last, List.cons_append, List.cons_append, List.nil_append, pointsFrom,
        if_pos rfl, pointsFrom, if_pos rfl, last]
    · have valid : n.isValidChar := by
        simp only [isSurrogate, Bool.and_eq_true, decide_eq_true_eq, not_and,
          Nat.not_lt] at surrogate
        unfold Nat.isValidChar
        by_cases low : n < 0xD800
        · exact .inl low
        · exact .inr ⟨by have := surrogate (by omega); omega, point⟩
      have notEscape : Char.ofNat n ≠ escape := by
        intro h
        have := congrArg Char.toNat h
        rw [toNat_ofNat valid, toNat_escape] at this
        exact last this
      rw [if_neg last, List.cons_append, List.nil_append, pointsFrom, if_neg notEscape,
        toNat_ofNat valid]

/-- Every sequence of code points is kept, and read back unchanged. -/
theorem points_ofPoints {ns : List Nat} (valid : ∀ n ∈ ns, IsPoint n) :
    points (ofPoints ns) = ns := by
  unfold points ofPoints
  rw [String.toList_ofList]
  induction ns with
  | nil => rfl
  | cons n rest ih =>
    rw [List.flatMap_cons, pointsOf_ofPoint_append (valid n List.mem_cons_self),
      ih fun m h => valid m (List.mem_cons_of_mem n h)]

/-- A string without the escape character keeps its own characters. -/
theorem points_plain {s : String} (plain : escape ∉ s.toList) :
    points s = s.toList.map Char.toNat :=
  pointsOf_plain plain

end PublishPool.Text
