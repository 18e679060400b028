import Relay.Json.Fault
import Relay.Text.Hex

/-!
# String literals

`read` takes the characters of a string up to its closing quotation mark; `skip` only looks for that
mark. They differ where an escape names half of a surrogate pair: such a string has no characters to
read, but can be skipped.
-/

namespace Relay.Json.Literal

open Relay.Text (hexValue?)

/-- The sixteen-bit unit that four digits stand for. -/
def unit? (a b c d : Char) : Option Nat := do
  pure (4096 * (← hexValue? a) + 256 * (← hexValue? b) + 16 * (← hexValue? c) + (← hexValue? d))

/-- Octets that a character takes in UTF-8. -/
def octets (cs : List Char) : Nat := cs.foldl (fun n c => n + c.utf8Size) 0

/-- What is wrong with an escape that has fewer than four characters after it: the text is too short
only if it also has fewer than four octets. -/
def shortUnit (rest : List Char) : Mistake :=
  if octets rest < 4 then .endInText else .badEscape

/-- The character of a two-character escape. -/
def escaped? (c : Char) : Option Char :=
  match c with
  | '"' => some '"'
  | '\\' => some '\\'
  | '/' => some '/'
  | 'b' => some '\x08'
  | 'f' => some '\x0c'
  | 'n' => some '\n'
  | 'r' => some '\r'
  | 't' => some '\t'
  | _ => none

/-- Whether a unit is the first, or the second, half of a surrogate pair. -/
def isHigh (n : Nat) : Bool := 0xd800 ≤ n && n < 0xdc00
@[inherit_doc isHigh] def isLow (n : Nat) : Bool := 0xdc00 ≤ n && n < 0xe000

/-- The character of a surrogate pair. -/
def pair (high low : Nat) : Char := Char.ofNat (0x10000 + 0x400 * (high - 0xd800) + (low - 0xdc00))

/-- The text after the closing quotation mark. -/
def skip : List Char → Except Mistake (List Char)
  | [] => .error .endInText
  | c :: cs =>
    if c = '"' then .ok cs
    else if c = '\\' then
      match cs with
      | [] => .error .endInText
      | 'u' :: w :: x :: y :: z :: rest =>
        if (unit? w x y z).isSome then skip rest else .error .badEscape
      | 'u' :: rest => .error (shortUnit rest)
      | e :: rest => if (escaped? e).isSome then skip rest else .error .badEscape
    else if c.toNat < 0x20 then .error .control
    else skip cs

/-- The characters up to the closing quotation mark and the text after it; `before` holds the
characters already read, the last one first. -/
def read (before : List Char) : List Char → Except Mistake (List Char × List Char)
  | [] => .error .endInText
  | c :: cs =>
    if c = '"' then .ok (before.reverse, cs)
    else if c = '\\' then
      match cs with
      | [] => .error .endInText
      | 'u' :: w :: x :: y :: z :: rest =>
        match unit? w x y z with
        | none => .error .badEscape
        | some n =>
          if isLow n then .error .loneHalf
          else if isHigh n then
            match rest with
            | [] => .error .endInText
            | ['\\'] => .error .endInText
            | '\\' :: 'u' :: w' :: x' :: y' :: z' :: more =>
              match unit? w' x' y' z' with
              | none => .error .badEscape
              | some n' => if isLow n' then read (pair n n' :: before) more else .error .loneHalf
            | '\\' :: 'u' :: more => .error (shortUnit more)
            | _ => .error .unpairedHalf
          else read (Char.ofNat n :: before) rest
      | 'u' :: rest => .error (shortUnit rest)
      | e :: rest =>
        match escaped? e with
        | some d => read (d :: before) rest
        | none => .error .badEscape
    else if c.toNat < 0x20 then .error .control
    else read (c :: before) cs

theorem length_skip_lt {cs rest : List Char} (h : skip cs = .ok rest) :
    rest.length < cs.length := by
  fun_induction skip cs with
  | case1 | case3 | case5 | case6 | case8 | case9 => simp at h
  | case2 => simp_all
  | case4 | case7 | case10 =>
    rename_i ih
    have := ih h
    simp only [List.length_cons]
    omega

end Relay.Json.Literal
