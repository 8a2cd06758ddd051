/-
**The string section.**

Behind the formatted section stand the strings of a structure. Each ends with a zero byte, and one
more zero byte ends the section; a section without strings is two zero bytes. Strings are not empty,
except that a section that does not start with two zero bytes may open with an empty string.
-/

namespace Dmi.Strings

/-- The bytes of a string section. -/
def bytes (strings : List (List UInt8)) : List UInt8 :=
  if strings = [] then [0, 0]
  else strings.flatMap (fun string => string ++ [0]) ++ [0]

/-- Reads strings up to the end of the section, the first of them begun with the bytes of `run` in
reverse. Gives the strings and the bytes behind the section, or the number of bytes that stayed
unread because no zero byte ends them. -/
def readFrom (run : List UInt8) : List UInt8 → Except Nat (List (List UInt8) × List UInt8)
  | [] => .error run.length
  | byte :: rest =>
    if byte = 0 then
      match rest with
      | [] => .error 0
      | next :: behind =>
        if next = 0 then .ok ([run.reverse], behind)
        else
          match readFrom [] rest with
          | .ok (strings, behind) => .ok (run.reverse :: strings, behind)
          | .error unread => .error unread
    else
      readFrom (byte :: run) rest

/-- Reads a string section: the strings and the bytes behind it, or the number of bytes that stayed
unread. -/
def read : List UInt8 → Except Nat (List (List UInt8) × List UInt8)
  | 0 :: 0 :: behind => .ok ([], behind)
  | [byte] => .error [byte].length
  | bytes => readFrom [] bytes

end Dmi.Strings
