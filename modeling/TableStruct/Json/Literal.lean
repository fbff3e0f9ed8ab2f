/-!
# JSON string literals

A literal writes quotes, backslashes and control characters as escapes and
every other character as it is. Reading takes every escape there is; an
escape by number names a UTF-16 unit, and the two halves of a surrogate
pair must stand next to each other.
-/

namespace TableStruct

namespace Json

/-! ## Writing -/

/-- One character of a literal. -/
def escapeChar (c : Char) : List Char :=
  if c = '\x22' then ['\\', '\x22']
  else if c = '\\' then ['\\', '\\']
  else if c = '\n' then ['\\', 'n']
  else if c = '\r' then ['\\', 'r']
  else if c = '\t' then ['\\', 't']
  else if c = '\x08' then ['\\', 'b']
  else if c = '\x0c' then ['\\', 'f']
  else if c.toNat < 0x20 then
    ['\\', 'u', '0', '0', Nat.digitChar (c.toNat / 16), Nat.digitChar (c.toNat % 16)]
  else [c]

/-- The literal of a text. -/
def quote (cs : List Char) : List Char :=
  '\x22' :: (cs.flatMap escapeChar ++ ['\x22'])

/-! ## Reading -/

/-- The value of a hexadecimal digit. -/
def hexDigit? (c : Char) : Option Nat :=
  if '0' ≤ c && c ≤ '9' then some (c.toNat - 0x30)
  else if 'a' ≤ c && c ≤ 'f' then some (c.toNat - 0x57)
  else if 'A' ≤ c && c ≤ 'F' then some (c.toNat - 0x37)
  else none

/-- The unit that four hexadecimal digits name. -/
def unit? (a b c d : Char) : Option Nat := do
  let a ← hexDigit? a
  let b ← hexDigit? b
  let c ← hexDigit? c
  let d ← hexDigit? d
  pure (((a * 16 + b) * 16 + c) * 16 + d)

/-- The character that a single letter after a backslash names. -/
def shortEscape? (c : Char) : Option Nat :=
  [('\x22', 0x22), ('\\', 0x5C), ('/', 0x2F), ('b', 0x08), ('f', 0x0C), ('n', 0x0A), ('r', 0x0D),
    ('t', 0x09)].lookup c

/-- Reads the rest of a literal, its opening quote taken off: the code
points it names, surrogates among them, and what follows the closing
quote. -/
def codes : List Char → Option (List Nat × List Char)
  | [] => none
  | c :: cs =>
    if c = '\x22' then some ([], cs)
    else if c = '\\' then
      match cs with
      | 'u' :: a :: b :: d :: e :: rest => do
        let n ← unit? a b d e
        let r ← codes rest
        pure (n :: r.1, r.2)
      | e :: rest => do
        let n ← shortEscape? e
        let r ← codes rest
        pure (n :: r.1, r.2)
      | [] => none
    else if c.toNat < 0x20 then none
    else do
      let r ← codes cs
      pure (c.toNat :: r.1, r.2)

/-- The first half of a surrogate pair. -/
def isHigh (n : Nat) : Bool :=
  0xD800 ≤ n && n ≤ 0xDBFF

/-- The second half of a surrogate pair. -/
def isLow (n : Nat) : Bool :=
  0xDC00 ≤ n && n ≤ 0xDFFF

/-- The text that code points stand for, surrogate pairs joined. There is
none if a half stands alone. -/
def join : List Nat → Option (List Char)
  | [] => some []
  | n :: ns =>
    if isHigh n then
      match ns with
      | m :: ms =>
        if isLow m then
          (join ms).map (Char.ofNat (0x10000 + (n - 0xD800) * 0x400 + (m - 0xDC00)) :: ·)
        else none
      | [] => none
    else if isLow n then none
    else (join ns).map (Char.ofNat n :: ·)

end Json

end TableStruct
