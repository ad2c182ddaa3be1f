import NodePressure.Number.Digits

/-!
# NodePressure.Text.Utf8 - reading bytes as UTF-8

`decode` takes well-formed bytes to their characters. For others it names the first byte that does
not belong to a character and how many bytes of a sequence begun there are at fault, or says that
the bytes end within a sequence.
-/

namespace NodePressure.Text

/-- Why bytes are no text: a sequence of faulty bytes from `index` on, or, without a length, a
sequence that is cut off by the end. -/
structure Utf8Fault where
  index : Nat
  length : Option Nat
  deriving DecidableEq, Repr

/-- The wording of a fault. -/
def Utf8Fault.message (f : Utf8Fault) : String :=
  match f.length with
  | some n =>
    "invalid utf-8 sequence of " ++ Number.text n ++ " bytes from index " ++ Number.text f.index
  | none => "incomplete utf-8 byte sequence from index " ++ Number.text f.index

/-- The payload of a continuation byte. -/
def continuation? (b : Nat) : Option Nat :=
  if 0x80 ≤ b ∧ b ≤ 0xBF then some (b - 0x80) else none

/-- The bounds of the second byte behind a leading byte, and the number of bytes in the sequence.
The bounds keep out overlong forms, surrogates and numbers beyond the last code point. -/
def leading? (b : Nat) : Option (Nat × Nat × Nat) :=
  if 0xC2 ≤ b ∧ b ≤ 0xDF then some (0x80, 0xBF, 2)
  else if b = 0xE0 then some (0xA0, 0xBF, 3)
  else if b = 0xED then some (0x80, 0x9F, 3)
  else if 0xE1 ≤ b ∧ b ≤ 0xEF then some (0x80, 0xBF, 3)
  else if b = 0xF0 then some (0x90, 0xBF, 4)
  else if b = 0xF4 then some (0x80, 0x8F, 4)
  else if 0xF1 ≤ b ∧ b ≤ 0xF3 then some (0x80, 0xBF, 4)
  else none

/-- The code point of a leading byte with its payload cut out, and continuation payloads. -/
def codePoint (b size : Nat) (payloads : List Nat) : Nat :=
  let head := if size = 2 then b - 0xC0 else if size = 3 then b - 0xE0 else b - 0xF0
  payloads.foldl (fun n p => n * 64 + p) head

/-- One character at the beginning of the bytes: the character, its number of bytes and the rest;
or how many bytes are at fault, with nothing for a sequence that is cut off. -/
def decodeOne : List Nat → Except (Option Nat) (Char × Nat × List Nat)
  | [] => .error none
  | b :: r =>
    if b < 0x80 then .ok (Char.ofNat b, 1, r)
    else match leading? b with
      | none => .error (some 1)
      | some (low, high, size) =>
        match r with
        | [] => .error none
        | b1 :: r =>
          if b1 < low ∨ high < b1 then .error (some 1)
          else if size = 2 then .ok (Char.ofNat (codePoint b 2 [b1 - 0x80]), 2, r)
          else match r with
            | [] => .error none
            | b2 :: r =>
              match continuation? b2 with
              | none => .error (some 2)
              | some p2 =>
                if size = 3 then .ok (Char.ofNat (codePoint b 3 [b1 - 0x80, p2]), 3, r)
                else match r with
                  | [] => .error none
                  | b3 :: r =>
                    match continuation? b3 with
                    | none => .error (some 3)
                    | some p3 => .ok (Char.ofNat (codePoint b 4 [b1 - 0x80, p2, p3]), 4, r)

/-- The characters of the bytes from `index` on; the fuel is the number of bytes. -/
def decodeFrom : Nat → Nat → List Nat → Except Utf8Fault (List Char)
  | 0, _, _ => .ok []
  | _ + 1, _, [] => .ok []
  | fuel + 1, index, bytes =>
    match decodeOne bytes with
    | .error length => .error ⟨index, length⟩
    | .ok (c, size, rest) => (decodeFrom fuel (index + size) rest).map (c :: ·)

/-- The text that bytes hold. -/
def decode (bytes : List Nat) : Except Utf8Fault String :=
  (decodeFrom bytes.length 0 bytes).map String.ofList

/-- The bytes of a code point. -/
def encodeChar (c : Char) : List Nat :=
  let n := c.toNat
  if n < 0x80 then [n]
  else if n < 0x800 then [0xC0 + n / 64, 0x80 + n % 64]
  else if n < 0x10000 then [0xE0 + n / 4096, 0x80 + n / 64 % 64, 0x80 + n % 64]
  else [0xF0 + n / 262144, 0x80 + n / 4096 % 64, 0x80 + n / 64 % 64, 0x80 + n % 64]

/-- The bytes of a text. -/
def encode (s : List Char) : List Nat :=
  s.flatMap encodeChar

end NodePressure.Text
