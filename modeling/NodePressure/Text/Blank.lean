/-!
# NodePressure.Text.Blank - blank characters, words and lines

Texts are taken apart as lists of characters. A *blank* is a character with the Unicode property
`White_Space`; a *word* is a longest run of characters that are not blank; a *line* ends at a line
feed, which does not belong to it, and neither does one carriage return right before it.
-/

namespace NodePressure.Text

/-- The characters with the Unicode property `White_Space`. -/
def isBlank (c : Char) : Bool :=
  let n := c.toNat
  (0x9 ≤ n && n ≤ 0xD) || n == 0x20 || n == 0x85 || n == 0xA0 || n == 0x1680 ||
    (0x2000 ≤ n && n ≤ 0x200A) || n == 0x2028 || n == 0x2029 || n == 0x202F || n == 0x205F ||
    n == 0x3000

/-- The text without its leading blanks. -/
def trimStart (s : List Char) : List Char :=
  s.dropWhile isBlank

/-- The text without its trailing blanks. -/
def trimEnd (s : List Char) : List Char :=
  (s.reverse.dropWhile isBlank).reverse

/-- The text without blanks at either end. -/
def trim (s : List Char) : List Char :=
  trimEnd (trimStart s)

/-- The pieces between the characters that satisfy `p`: one more than there are such characters. -/
def pieces (p : Char → Bool) : List Char → List (List Char)
  | [] => [[]]
  | c :: r =>
    if p c then [] :: pieces p r
    else match pieces p r with
      | [] => [[c]]
      | w :: ws => (c :: w) :: ws

/-- The words of a text, in order. -/
def words (s : List Char) : List (List Char) :=
  (pieces isBlank s).filter (fun w => !w.isEmpty)

/-- A line without the carriage return that may stand before its line feed. -/
def dropReturn (line : List Char) : List Char :=
  match line.reverse with
  | '\r' :: r => r.reverse
  | _ => line

/-- The lines among the pieces between line feeds: only the last piece has no line feed behind it,
so it is a line only if it is not empty, and it keeps a carriage return at its end. -/
def linesOfPieces : List (List Char) → List (List Char)
  | [] => []
  | [last] => if last.isEmpty then [] else [last]
  | line :: rest => dropReturn line :: linesOfPieces rest

/-- The lines of a text, in order. -/
def lines (s : List Char) : List (List Char) :=
  linesOfPieces (pieces (· == '\n') s)

/-- The texts before and after the first `c`, or nothing if there is no `c`. -/
def splitOnce (c : Char) : List Char → Option (List Char × List Char)
  | [] => none
  | x :: r =>
    if x == c then some ([], r)
    else (splitOnce c r).map fun (before, after) => (x :: before, after)

theorem splitOnce_eq_some_iff {c : Char} {s before after : List Char} :
    splitOnce c s = some (before, after) ↔ s = before ++ c :: after ∧ c ∉ before := by
  induction s generalizing before with
  | nil => simp [splitOnce]
  | cons x r ih =>
    rw [splitOnce]
    by_cases hx : x = c
    · subst hx
      cases before with
      | nil => simp
      | cons b before =>
        refine iff_of_false (by simp) fun ⟨h, hnot⟩ => hnot ?_
        rw [(List.cons.inj h).1]
        exact List.mem_cons_self
    · rw [if_neg (by simpa using hx)]
      constructor
      · intro h
        obtain ⟨⟨p, q⟩, hp, heq⟩ := Option.map_eq_some_iff.mp h
        cases heq
        obtain ⟨hr, hnot⟩ := ih.mp hp
        exact ⟨by rw [hr, List.cons_append], by simp [Ne.symm hx, hnot]⟩
      · rintro ⟨h, hnot⟩
        cases before with
        | nil => exact absurd (List.cons.inj h).1 hx
        | cons b before =>
          obtain ⟨rfl, hr⟩ := List.cons.inj h
          rw [ih.mpr ⟨hr, fun hmem => hnot (List.mem_cons_of_mem _ hmem)⟩]
          rfl

/-- The rest of a text behind the given beginning, if it has that beginning. -/
def dropPrefix? : List Char → List Char → Option (List Char)
  | [], s => some s
  | _ :: _, [] => none
  | p :: ps, c :: s => if p == c then dropPrefix? ps s else none

theorem dropPrefix?_eq_some_iff {p s r : List Char} : dropPrefix? p s = some r ↔ s = p ++ r := by
  fun_induction dropPrefix? p s with
  | case1 s => simp
  | case2 p ps => simp
  | case3 p ps c s hpc ih => simp [ih, (beq_iff_eq.mp hpc).symm]
  | case4 p ps c s hpc =>
    have hne : p ≠ c := by simpa using hpc
    simp [Ne.symm hne]

/-- Whether a text begins with `p`. -/
def startsWith (p s : List Char) : Bool :=
  (dropPrefix? p s).isSome

theorem startsWith_iff {p s : List Char} : startsWith p s = true ↔ p <+: s := by
  rw [startsWith, Option.isSome_iff_exists]
  simp only [dropPrefix?_eq_some_iff]
  exact exists_congr fun r => eq_comm

/-- The text before the given ending, if it has that ending. -/
def dropSuffix? (p s : List Char) : Option (List Char) :=
  (dropPrefix? p.reverse s.reverse).map List.reverse

/-- ASCII letters in lower case; the Kelvin sign, whose lower case is the letter `k`, too. Every
other character stays as it is, so only texts of ASCII letters compare without regard to case. -/
def lowerChar (c : Char) : Char :=
  if c.toNat == 0x212A then 'k' else c.toLower

/-- The text in lower case, as far as ASCII letters can come of it. -/
def lower (s : List Char) : List Char :=
  s.map lowerChar

end NodePressure.Text
